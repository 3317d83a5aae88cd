import Mathlib.Tactic
import Mathlib.Data.List.DropRight

/-! Streams that are cut into lines by a separator, and lines that are trimmed. -/

namespace VpnClient.Library.Lines

variable {α : Type}

section Frame

variable [DecidableEq α]

/-- The lines that a stream ends and what it leaves of an unfinished one, where `tail` is what there was of
the first line before. -/
def frame (sep : α) (tail : List α) : List α → List (List α) × List α
  | [] => ([], tail)
  | a :: stream =>
    if a = sep then (tail :: (frame sep [] stream).1, (frame sep [] stream).2)
    else frame sep (tail ++ [a]) stream

variable {sep : α} {tail line stream : List α}

lemma frame_append (sep : α) (tail xs ys : List α) :
    frame sep tail (xs ++ ys) = ((frame sep tail xs).1 ++ (frame sep (frame sep tail xs).2 ys).1,
      (frame sep (frame sep tail xs).2 ys).2) := by
  induction xs generalizing tail with
  | nil => rfl
  | cons a xs ih =>
    rw [List.cons_append, frame, frame]
    split_ifs
    · rw [ih]
      rfl
    · exact ih _

lemma frame_of_notMem (h : sep ∉ stream) : frame sep tail stream = ([], tail ++ stream) := by
  induction stream generalizing tail with
  | nil => simp [frame]
  | cons a stream ih =>
    obtain ⟨ha, hs⟩ : sep ≠ a ∧ sep ∉ stream := by simpa using h
    rw [frame, if_neg (Ne.symm ha), ih hs, List.append_assoc]
    rfl

lemma frame_line (h : sep ∉ line) : frame sep tail (line ++ sep :: stream) =
    ((tail ++ line) :: (frame sep [] stream).1, (frame sep [] stream).2) := by
  rw [frame_append, frame_of_notMem h, frame, if_pos rfl]
  rfl

lemma frame_tail (h : sep ∉ tail) : frame sep tail stream = frame sep [] (tail ++ stream) := by
  rw [frame_append, frame_of_notMem h]
  rfl

lemma notMem_frame (h : sep ∉ tail) : sep ∉ (frame sep tail stream).2 := by
  induction stream generalizing tail with
  | nil => exact h
  | cons a stream ih =>
    rw [frame]
    split_ifs with ha
    · exact ih List.not_mem_nil
    · apply ih
      simp only [List.mem_append, List.mem_singleton, not_or]
      exact ⟨h, Ne.symm ha⟩

lemma join_frame (sep : α) (tail stream : List α) :
    (frame sep tail stream).1.flatMap (· ++ [sep]) ++ (frame sep tail stream).2 = tail ++ stream := by
  induction stream generalizing tail with
  | nil => simp [frame]
  | cons a stream ih =>
    rw [frame]
    split_ifs with ha
    · simp only [List.flatMap_cons, List.append_assoc, ih, List.nil_append]
      rw [ha]
      rfl
    · rw [ih, List.append_assoc]
      rfl

lemma frame_join {lines : List (List α)} (hl : ∀ line ∈ lines, sep ∉ line) (ht : sep ∉ tail) :
    frame sep [] (lines.flatMap (· ++ [sep]) ++ tail) = (lines, tail) := by
  induction lines with
  | nil => exact frame_of_notMem ht
  | cons line lines ih =>
    obtain ⟨hline, hl⟩ := List.forall_mem_cons.mp hl
    have hs : (line :: lines).flatMap (· ++ [sep]) ++ tail = line ++ sep :: (lines.flatMap (· ++ [sep]) ++ tail) := by
      simp
    rw [hs, frame_line hline, ih hl, List.nil_append]

/-- The first line of a buffer and what follows it. -/
def nextLine (sep : α) (buffer : List α) : Option (List α × List α) :=
  if sep ∈ buffer then some (buffer.take (buffer.idxOf sep), buffer.drop (buffer.idxOf sep + 1)) else none

lemma nextLine_none {buffer : List α} (h : nextLine sep buffer = none) : sep ∉ buffer := by
  intro hm
  simp [nextLine, hm] at h

lemma nextLine_some {buffer rest : List α} (h : nextLine sep buffer = some (line, rest)) :
    sep ∉ line ∧ buffer = line ++ sep :: rest := by
  by_cases hm : sep ∈ buffer
  · obtain ⟨l, r, rfl, hl⟩ := List.eq_append_cons_of_mem hm
    have hi : (l ++ sep :: r).idxOf sep = l.length := by
      rw [List.idxOf_append_of_notMem hl, List.idxOf_cons_self, Nat.add_zero]
    obtain ⟨rfl, rfl⟩ : _ ∧ _ := by simpa [nextLine, hm, hi] using h
    exact ⟨hl, rfl⟩
  · simp [nextLine, hm] at h

lemma length_lt_of_nextLine {buffer rest : List α} (h : nextLine sep buffer = some (line, rest)) :
    rest.length < buffer.length := by
  rw [(nextLine_some h).2, List.length_append, List.length_cons]
  omega

lemma frame_nextLine {buffer rest : List α} (h : nextLine sep buffer = some (line, rest)) :
    frame sep [] buffer = (line :: (frame sep [] rest).1, (frame sep [] rest).2) := by
  obtain ⟨hl, rfl⟩ := nextLine_some h
  rw [frame_line hl, List.nil_append]

end Frame

/-- Without the blanks that it begins and ends with. -/
def trim (blank : α → Bool) (line : List α) : List α := (line.dropWhile blank).rdropWhile blank

variable {blank : α → Bool} {line : List α}

lemma trim_eq_nil : trim blank line = [] ↔ ∀ a ∈ line, blank a := by
  rw [trim, List.rdropWhile_eq_nil_iff]
  constructor
  · intro h a ha
    rw [← List.takeWhile_append_dropWhile (p := blank) (l := line)] at ha
    rcases List.mem_append.mp ha with ha | ha
    · exact List.mem_takeWhile_imp ha
    · exact h a ha
  · exact fun h a ha => h a ((List.dropWhile_sublist blank).mem ha)

lemma rdropWhile_append {xs ys : List α} (h : ¬∀ a ∈ ys, blank a) :
    (xs ++ ys).rdropWhile blank = xs ++ ys.rdropWhile blank := by
  have hy : (ys.reverse.dropWhile blank).isEmpty = false := by
    simpa [List.isEmpty_eq_false_iff, List.dropWhile_eq_nil_iff] using h
  rw [List.rdropWhile, List.reverse_append, List.dropWhile_append, hy]
  simp [List.rdropWhile]

lemma length_trim_le (h : ¬∀ a ∈ line, blank a) : (trim blank line).length ≤ (line.rdropWhile blank).length := by
  have hd : ¬∀ a ∈ line.dropWhile blank, blank a := by
    intro hd
    exact h (trim_eq_nil.mp (List.rdropWhile_eq_nil_iff.mpr hd))
  have he : line.rdropWhile blank = line.takeWhile blank ++ trim blank line := by
    rw [trim, ← rdropWhile_append hd, List.takeWhile_append_dropWhile]
  rw [he, List.length_append]
  omega

lemma trim_append_eq_iff {tail : List α} : trim blank (tail ++ line) = trim blank line ↔ ∀ a ∈ tail, blank a := by
  constructor
  · intro he
    by_contra ht
    by_cases hl : ∀ a ∈ line, blank a
    · have hn := trim_eq_nil.mp (he.trans (trim_eq_nil.mpr hl))
      exact ht fun a ha => hn a (List.mem_append_left _ ha)
    · have hd : (tail.dropWhile blank).isEmpty = false := by
        simpa [List.isEmpty_eq_false_iff, List.dropWhile_eq_nil_iff] using ht
      have hlen : 0 < (tail.dropWhile blank).length := List.length_pos_iff.mpr (List.isEmpty_eq_false_iff.mp hd)
      have ht' : trim blank (tail ++ line) = tail.dropWhile blank ++ line.rdropWhile blank := by
        rw [trim, List.dropWhile_append, hd, ← rdropWhile_append hl]
        rfl
      have := length_trim_le hl
      have := congrArg List.length he
      rw [ht', List.length_append] at this
      omega
  · intro h
    rw [trim, trim, List.dropWhile_append, List.dropWhile_eq_nil_iff.mpr h]
    rfl

end VpnClient.Library.Lines
