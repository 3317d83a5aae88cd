import Mathlib.Data.List.DropRight
import Mathlib.Data.List.Rotate
import Mathlib.Tactic

/-! Rings of a fixed size, where each new value takes the place of the oldest one: they hold the last values of a
list. -/

namespace VpnClient.Library.Rings

variable {α : Type} {l ring xs : List α} {a fresh : α} {i j m n p : ℕ}

lemma rotate_set (hp : p < l.length) : (l.set ((p + n) % l.length) a).rotate n = (l.rotate n).set p a := by
  apply List.ext_getElem
  · simp
  · intro k hk _
    have hk : k < l.length := by simpa using hk
    have he : (p + n) % l.length = (k + n) % l.length ↔ p = k := by
      constructor
      · intro h
        have hm : p ≡ k [MOD l.length] := Nat.ModEq.add_right_cancel' n h
        rwa [Nat.ModEq, Nat.mod_eq_of_lt hp, Nat.mod_eq_of_lt hk] at hm
      · rintro rfl
        rfl
    simp [List.getElem_rotate, List.getElem_set, he]

lemma rotate_succ_set (hl : l ≠ []) : (l.set (n % l.length) a).rotate (n + 1) = (l.rotate n).tail ++ [a] := by
  have hp : 0 < l.length := List.length_pos_iff.mpr hl
  have hs := rotate_set (n := n) (a := a) hp
  rw [Nat.zero_add] at hs
  rw [← List.rotate_rotate, hs]
  cases hr : l.rotate n with
  | nil => exact absurd (List.rotate_eq_nil_iff.mp hr) hl
  | cons b r => simp

/-- The ring of size `m` holds the last values of the list, each at its position modulo `m`, and nothing else. -/
structure Shows (fresh : α) (m : ℕ) (ring xs : List α) : Prop where
  length : ring.length = m
  view : ring.rotate xs.length = (List.replicate m fresh ++ xs).drop xs.length

lemma shows_nil : Shows fresh m (List.replicate m fresh) [] := ⟨List.length_replicate, by simp⟩

lemma Shows.push (h : Shows fresh m ring xs) (hm : 0 < m) (a : α) :
    Shows fresh m (ring.set (xs.length % m) a) (xs ++ [a]) := by
  constructor
  · rw [List.length_set, h.length]
  · have hr : ring ≠ [] := List.length_pos_iff.mp (h.length ▸ hm)
    have hl := rotate_succ_set (n := xs.length) (a := a) hr
    rw [h.length, h.view, List.tail_drop] at hl
    have hn : xs.length + 1 ≤ (List.replicate m fresh ++ xs).length := by
      rw [List.length_append, List.length_replicate]
      omega
    rw [List.length_append, List.length_singleton, hl, ← List.append_assoc, List.drop_append_of_le_length hn]

lemma Shows.getElem?_view (h : Shows fresh m ring xs) (hp : p < m) :
    ring[(p + xs.length) % m]? = (List.replicate m fresh ++ xs)[xs.length + p]? := by
  rw [← List.getElem?_drop, ← h.view, List.getElem?_rotate (h.length ▸ hp), h.length]

/-- What the ring holds of the list. -/
lemma Shows.getElem? (h : Shows fresh m ring xs) (hj : j < xs.length) (hm : xs.length ≤ j + m) :
    ring[j % m]? = xs[j]? := by
  have hv := h.getElem?_view (p := j + m - xs.length) (by omega)
  rwa [show j + m - xs.length + xs.length = j + m by omega, show xs.length + (j + m - xs.length) = m + j by omega,
    Nat.add_mod_right, List.getElem?_append_right (by simp), List.length_replicate, Nat.add_sub_cancel_left] at hv

lemma Shows.getElem?_fresh (h : Shows fresh m ring xs) (hi : xs.length ≤ i) (hm : i < m) : ring[i]? = some fresh := by
  have hv := h.getElem?_view (p := i - xs.length) (by omega)
  rwa [Nat.sub_add_cancel hi, Nat.add_sub_cancel' hi, Nat.mod_eq_of_lt hm,
    List.getElem?_append_left (by simpa using hm), List.getElem?_replicate_of_lt hm] at hv

lemma Shows.set (h : Shows fresh m ring xs) (hj : j < xs.length) (hm : xs.length ≤ j + m) (a : α) :
    Shows fresh m (ring.set (j % m) a) (xs.set j a) := by
  constructor
  · rw [List.length_set, h.length]
  · have hs := rotate_set (l := ring) (n := xs.length) (p := j + m - xs.length) (a := a) (by rw [h.length]; omega)
    rw [show j + m - xs.length + xs.length = j + m by omega, h.length, Nat.add_mod_right, h.view] at hs
    rw [List.length_set, hs, List.set_drop, show xs.length + (j + m - xs.length) = m + j by omega,
      List.set_append_right _ _ (by simp), List.length_replicate, Nat.add_sub_cancel_left]

lemma Shows.perm (h : Shows fresh m ring xs) : ring.Perm (List.replicate (m - xs.length) fresh ++ xs.rtake m) := by
  have hp := (List.rotate_perm ring xs.length).symm
  rwa [h.view, List.drop_append, List.drop_replicate, List.length_replicate] at hp

end VpnClient.Library.Rings
