import Mathlib.Tactic

/-! Lists that are windows on a buffer: an element is erased at the front by moving the window, and elsewhere by moving
up the elements behind it, so that the last slot keeps what it held. -/

namespace VpnClient.Library

@[ext] structure Slots (A : Type) where
  buffer : List A
  start : ℕ
  size : ℕ
  bound : start + size ≤ buffer.length

namespace Slots

variable {A : Type}

def ofList (l : List A) : Slots A := ⟨l, 0, l.length, by simp⟩

def contents (s : Slots A) : List A := (s.buffer.drop s.start).take s.size

/-- The slots from `start + i` on are those behind it, moved up by one. -/
def shifted (s : Slots A) (i : ℕ) : List A :=
  s.buffer.take (s.start + i) ++ (s.buffer.drop (s.start + i + 1)).take (s.size - 1 - i) ++
    s.buffer.drop (s.start + s.size - 1)

variable (s : Slots A) {i : ℕ}

lemma length_shifted (hi : i < s.size) : (s.shifted i).length = s.buffer.length := by
  have := s.bound
  simp [shifted]
  omega

def eraseAt (i : ℕ) (hi : i < s.size) : Slots A :=
  if i = 0 ∧ 1 < s.size then ⟨s.buffer, s.start + 1, s.size - 1, by have := s.bound; omega⟩
  else ⟨s.shifted i, s.start, s.size - 1, by have := s.bound; rw [s.length_shifted hi]; omega⟩

lemma length_contents : s.contents.length = s.size := by
  have := s.bound
  simp [contents]
  omega

@[simp] lemma contents_ofList (l : List A) : (ofList l).contents = l := by
  simp [ofList, contents]

lemma getElem?_contents (j : ℕ) : s.contents[j]? = if j < s.size then s.buffer[s.start + j]? else none := by
  rw [contents, List.getElem?_take, List.getElem?_drop]

lemma getElem?_shifted (hi : i < s.size) (j : ℕ) : (s.shifted i)[j]? =
    s.buffer[if s.start + i ≤ j ∧ j + 1 < s.start + s.size then j + 1 else j]? := by
  have := s.bound
  rw [shifted, List.getElem?_append, List.getElem?_append, List.length_append, List.length_take, List.length_take,
    List.length_drop, List.getElem?_take, List.getElem?_take, List.getElem?_drop, List.getElem?_drop]
  split_ifs <;> first | omega | (congr 1 <;> omega)

lemma contents_eraseAt (hi : i < s.size) : (s.eraseAt i hi).contents = s.contents.eraseIdx i := by
  apply List.ext_getElem?
  intro j
  rw [List.getElem?_eraseIdx, getElem?_contents, getElem?_contents, getElem?_contents, eraseAt]
  split
  · dsimp only
    split_ifs <;> first | omega | (congr 1 <;> omega)
  · dsimp only
    rw [getElem?_shifted s hi]
    split_ifs <;> first | omega | rfl

variable [DecidableEq A]

/-- Erases the first element that is equal to `x`, if there is one. -/
def removeOne (x : A) : Slots A :=
  if h : x ∈ s.contents then
    s.eraseAt (s.contents.idxOf x) (by rw [← s.length_contents]; exact List.idxOf_lt_length_of_mem h)
  else s

lemma contents_removeOne (x : A) : (s.removeOne x).contents = s.contents.erase x := by
  rw [removeOne]
  split
  · rw [contents_eraseAt, List.erase_eq_eraseIdx_of_idxOf rfl]
  · next h => rw [List.erase_of_not_mem h]

/-- The same window on a buffer with one more slot before it. -/
def behind (a : A) : Slots A := ⟨a :: s.buffer, s.start + 1, s.size, by have := s.bound; simp; omega⟩

omit [DecidableEq A] in
@[simp] lemma contents_behind (a : A) : (s.behind a).contents = s.contents := rfl

omit [DecidableEq A] in
@[simp] lemma getElem?_behind (a : A) (j : ℕ) : (s.behind a).buffer[j + 1]? = s.buffer[j]? := rfl

omit [DecidableEq A] in
lemma shifted_behind (a : A) (hi : i < s.size) : (s.behind a).shifted i = a :: s.shifted i := by
  have h₁ : s.start + 1 + i = s.start + i + 1 := by omega
  have h₂ : s.start + 1 + s.size - 1 = s.start + s.size - 1 + 1 := by omega
  simp only [shifted, behind, h₁, h₂, List.take_succ_cons, List.drop_succ_cons, List.cons_append]

omit [DecidableEq A] in
lemma eraseAt_behind (a : A) (hi : i < s.size) : (s.behind a).eraseAt i hi = (s.eraseAt i hi).behind a := by
  by_cases hf : i = 0 ∧ 1 < s.size
  · have h₁ : (s.behind a).eraseAt i hi = ⟨a :: s.buffer, s.start + 1 + 1, s.size - 1, _⟩ := if_pos hf
    have h₂ : s.eraseAt i hi = ⟨s.buffer, s.start + 1, s.size - 1, _⟩ := if_pos hf
    rw [h₁, h₂]
    rfl
  · have h₁ : (s.behind a).eraseAt i hi = ⟨(s.behind a).shifted i, s.start + 1, s.size - 1, _⟩ := if_neg hf
    have h₂ : s.eraseAt i hi = ⟨s.shifted i, s.start, s.size - 1, _⟩ := if_neg hf
    rw [h₁, h₂]
    ext1
    · exact s.shifted_behind a hi
    · rfl
    · rfl

lemma removeOne_behind (a x : A) : (s.behind a).removeOne x = (s.removeOne x).behind a := by
  by_cases hx : x ∈ s.contents
  · have h₁ : (s.behind a).removeOne x = (s.behind a).eraseAt (s.contents.idxOf x) _ := dif_pos hx
    have h₂ : s.removeOne x = s.eraseAt (s.contents.idxOf x) _ := dif_pos hx
    rw [h₂]
    exact h₁.trans (eraseAt_behind s a _)
  · have h₁ : (s.behind a).removeOne x = s.behind a := dif_neg hx
    have h₂ : s.removeOne x = s := dif_neg hx
    rw [h₁, h₂]

/-- The first element is erased by moving the window, unless it is the only one. -/
lemma removeOne_ofList_cons (a : A) {l : List A} (hl : l ≠ []) : (ofList (a :: l)).removeOne a = (ofList l).behind a := by
  have hm : a ∈ (ofList (a :: l)).contents := by simp
  have hi : (ofList (a :: l)).contents.idxOf a = 0 := by simp
  have hn : 1 < (a :: l).length := by simpa using List.length_pos_iff.mpr hl
  rw [removeOne, dif_pos hm, eraseAt, if_pos ⟨hi, hn⟩]
  simp only [ofList, behind, List.length_cons, Nat.add_sub_cancel]

end Slots

end VpnClient.Library
