import Mathlib.Tactic

/-! Lists whose elements are answered one after the other, and the answers that there are. -/

namespace VpnClient.Library.Answers

variable {A B : Type} {f : A → Option B} {xs : List A} {i : ℕ} {x y : A} {b : B}

lemma filterMap_set_same (hx : xs[i]? = some x) (hf : f y = f x) : (xs.set i y).filterMap f = xs.filterMap f := by
  induction xs generalizing i with
  | nil => simp at hx
  | cons a xs ih =>
    cases i with
    | zero =>
      obtain rfl : a = x := by simpa using hx
      rw [List.set_cons_zero, List.filterMap_cons, List.filterMap_cons, hf]
    | succ i =>
      rw [List.set_cons_succ, List.filterMap_cons, List.filterMap_cons, ih (by simpa using hx)]

lemma filterMap_set_perm (hx : xs[i]? = some x) (hn : f x = none) (hy : f y = some b) :
    (xs.filterMap f ++ [b]).Perm ((xs.set i y).filterMap f) := by
  induction xs generalizing i with
  | nil => simp at hx
  | cons a xs ih =>
    cases i with
    | zero =>
      obtain rfl : a = x := by simpa using hx
      rw [List.set_cons_zero, List.filterMap_cons_none hn, List.filterMap_cons_some hy]
      exact List.perm_append_comm
    | succ i =>
      have hp := ih (i := i) (by simpa using hx)
      rw [List.set_cons_succ, List.filterMap_cons, List.filterMap_cons]
      cases f a with
      | none => exact hp
      | some c => exact hp.cons c

/-- There is an element without an answer yet, so there are fewer answers than elements. -/
lemma length_filterMap_lt (hx : xs[i]? = some x) (hn : f x = none) : (xs.filterMap f).length < xs.length := by
  apply lt_of_le_of_ne (List.length_filterMap_le f xs)
  intro he
  have hs := List.filterMap_length_eq_length.mp he x (List.mem_of_getElem? hx)
  simp [hn] at hs

end VpnClient.Library.Answers
