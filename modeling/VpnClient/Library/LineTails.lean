import Mathlib.Tactic
import Mathlib.Data.List.DropRight

/-! The last lines of a sequence. -/

namespace VpnClient.Library.LineTails

variable {α : Type} [DecidableEq α]

/-- What follows the first line. -/
def afterLine (sep : α) (xs : List α) : List α := (xs.dropWhile (· ≠ sep)).tail

/-- A line starts after `before`. -/
def LineStart (sep : α) (before : List α) : Prop := before = [] ∨ before.getLast? = some sep

/-- A tail that starts with a line and holds each line of the last `n` elements. -/
def LastLines (sep : α) (n : ℕ) (old tail : List α) : Prop :=
  ∃ before, old = before ++ tail ∧ LineStart sep before ∧ ∀ a line b, old = a ++ line ++ sep :: b → LineStart sep a →
    sep ∉ line → old.length ≤ a.length + n → before.length ≤ a.length

variable {sep : α} {xs line rest before half : List α}

lemma afterLine_line (h : sep ∉ line) : afterLine sep (line ++ sep :: rest) = rest := by
  have hl : ∀ a ∈ line, (decide (a ≠ sep)) = true := fun a ha => decide_eq_true fun he => h (he ▸ ha)
  rw [afterLine, List.dropWhile_append_of_pos hl, List.dropWhile_cons_of_neg (by simp), List.tail_cons]

lemma afterLine_of_notMem (h : sep ∉ xs) : afterLine sep xs = [] := by
  have hl : ∀ a ∈ xs, (decide (a ≠ sep)) = true := fun a ha => decide_eq_true fun he => h (he ▸ ha)
  rw [afterLine, List.dropWhile_eq_nil_iff.mpr hl, List.tail_nil]

omit [DecidableEq α] in
lemma mem_dropLast_line (h : sep ∉ line) : sep ∈ (line ++ sep :: rest).dropLast ↔ rest ≠ [] := by
  cases rest with
  | nil => simp [h]
  | cons a rest => simp [List.dropLast_append_of_ne_nil, List.dropLast_cons_cons]

variable (sep half) in
/-- No line of the last elements is cut off at its start, and a line ends before the last element. -/
lemma lastLines_afterLine_iff (hb : before ≠ []) :
    afterLine sep half ≠ [] ∧ LastLines sep half.length (before ++ half) (afterLine sep half) ↔
      before.getLast? ≠ some sep ∧ sep ∈ half.dropLast := by
  by_cases hs : sep ∈ half
  case neg =>
    rw [afterLine_of_notMem hs]
    exact iff_of_false (fun h => h.1 rfl) fun h => hs (List.mem_of_mem_dropLast h.2)
  obtain ⟨line, rest, rfl, hl⟩ := List.eq_append_cons_of_mem hs
  rw [afterLine_line hl, mem_dropLast_line hl, and_comm]
  apply and_congr_left
  intro _
  constructor
  case mp =>
    rintro ⟨start, he, _, hc⟩ hsep
    have hn := hc before line rest (by simp) (Or.inr hsep) hl (by simp)
    have hlen := congrArg List.length he
    simp only [List.length_append, List.length_cons] at hlen
    omega
  case mpr =>
    intro hsep
    refine ⟨before ++ line ++ [sep], by simp, Or.inr (by simp), ?_⟩
    intro a text b he ha _ hn
    have hp : before.length ≤ a.length := by simpa using hn
    have hpre : a <+: before ++ (line ++ sep :: rest) := ⟨text ++ sep :: b, by rw [he, List.append_assoc]⟩
    obtain ⟨c, rfl⟩ : before <+: a := List.prefix_of_prefix_length_le (List.prefix_append _ _) hpre hp
    have hcp : c <+: line ++ sep :: rest := (List.prefix_append_right_inj _).mp hpre
    have hc : sep ∈ c := by
      rcases ha with ha | ha
      · exact absurd (List.append_eq_nil_iff.mp ha).1 hb
      · cases hc : c.getLast? with
        | none =>
          rw [List.getLast?_eq_none_iff.mp hc, List.append_nil] at ha
          exact absurd ha hsep
        | some last =>
          rw [List.getLast?_append, hc, Option.some_or] at ha
          exact Option.some.inj ha ▸ List.mem_of_getLast? hc
    have hlt : line.length < c.length := by
      by_contra hle
      have hpl : c <+: line := List.prefix_of_prefix_length_le hcp (List.prefix_append _ _) (Nat.le_of_not_lt hle)
      exact hl (hpl.subset hc)
    simp only [List.length_append, List.length_singleton]
    omega

/-- A tail that leaves elements out does not hold the lines that they stand in. -/
lemma not_lastLines_of_length_lt {kept : List α} (hh : sep ∈ half)
    (hlt : kept.length < (afterLine sep half).length) : ¬LastLines sep half.length (before ++ half) kept := by
  obtain ⟨line, rest, rfl, hl⟩ := List.eq_append_cons_of_mem hh
  rw [afterLine_line hl] at hlt
  rintro ⟨start, he, hs, hc⟩
  have hold : before ++ (line ++ sep :: rest) = (before ++ line ++ [sep]) ++ rest := by simp
  have hlen := congrArg List.length he
  simp only [List.length_append, List.length_cons] at hlen
  by_cases hr : sep ∈ rest
  · obtain ⟨first, b, rfl, hf⟩ := List.eq_append_cons_of_mem hr
    have hn := hc (before ++ line ++ [sep]) first b (by simp) (.inr (by simp)) hf (by simp)
    simp only [List.length_append, List.length_cons, List.length_nil] at hn hlen hlt
    omega
  · -- The start ends within the last line, which is not complete.
    have hpre : before ++ line ++ [sep] <+: start := by
      have hline : before ++ line ++ [sep] <+: before ++ (line ++ sep :: rest) := ⟨rest, hold.symm⟩
      apply List.prefix_of_prefix_length_le hline ⟨kept, he.symm⟩
      simp only [List.length_append, List.length_cons, List.length_nil]
      omega
    obtain ⟨c, rfl⟩ := hpre
    have hc' : c <+: rest := ⟨kept, List.append_cancel_left (by rw [← List.append_assoc, ← he, hold])⟩
    have hne : c ≠ [] := by
      rintro rfl
      simp only [List.append_nil, List.length_append, List.length_cons, List.length_nil] at hlen
      omega
    obtain hs | hs := hs
    · exact hne (List.append_eq_nil_iff.mp hs).2
    · rw [List.getLast?_append_of_ne_nil _ hne] at hs
      exact hr (hc'.subset (List.mem_of_getLast? hs))

variable (sep half) in
/-- As above, where the tail is read without the elements that are `other`. -/
lemma lastLines_filter_afterLine_iff (other : α) (hb : before ≠ []) :
    (afterLine sep half).filter (· ≠ other) ≠ [] ∧
        LastLines sep half.length (before ++ half) ((afterLine sep half).filter (· ≠ other)) ↔
      before.getLast? ≠ some sep ∧ sep ∈ half.dropLast ∧ other ∉ afterLine sep half := by
  by_cases ho : other ∈ afterLine sep half
  · apply iff_of_false
    · rintro ⟨hne, hk⟩
      have hh : sep ∈ half := by
        by_contra hn
        rw [afterLine_of_notMem hn] at ho
        cases ho
      refine not_lastLines_of_length_lt hh ?_ hk
      exact List.length_filter_lt_length_iff_exists.mpr ⟨other, ho, by simp⟩
    · exact fun h => h.2.2 ho
  · have hf : (afterLine sep half).filter (· ≠ other) = afterLine sep half := by
      apply List.filter_eq_self.mpr
      intro a ha
      apply decide_eq_true
      rintro rfl
      exact ho ha
    rw [hf, lastLines_afterLine_iff sep half hb]
    exact ⟨fun h => ⟨h.1, h.2, ho⟩, fun h => ⟨h.1, h.2.1⟩⟩

end VpnClient.Library.LineTails
