import Mathlib.Data.List.Rotate
import Mathlib.Tactic

/-! An index that goes round a list. -/

namespace VpnClient.Library.Rotation

variable {α : Type} {l : List α} {n i : ℕ}

lemma mod_succ_ne (hn : 2 ≤ n) (hi : i < n) : (i + 1) % n ≠ i := by
  rcases Nat.lt_or_ge (i + 1) n with hl | hl
  · rw [Nat.mod_eq_of_lt hl]
    exact Nat.succ_ne_self i
  · obtain rfl : i + 1 = n := le_antisymm hi hl
    rw [Nat.mod_self]
    omega

lemma map_range_mod (l : List α) (i : ℕ) :
    ((List.range l.length).map fun k => l[(i + k) % l.length]?) = (l.rotate i).map some := by
  apply List.ext_getElem
  · simp
  · intro k hk _
    have hl : k < l.length := by simpa using hk
    have hm : (k + i) % l.length < l.length := Nat.mod_lt _ (Nat.zero_lt_of_lt hl)
    simp [List.getElem_rotate, add_comm i k, hm]

lemma perm_map_range_mod (l : List α) (i : ℕ) :
    List.Perm ((List.range l.length).map fun k => l[(i + k) % l.length]?) (l.map some) := by
  rw [map_range_mod]
  exact (List.rotate_perm l i).map some

lemma getElem?_inj_iff (hd : l.Nodup) {a : α} (hi : l[i]? = some a) : l[n]? = some a ↔ n = i := by
  obtain ⟨hl, rfl⟩ := List.getElem?_eq_some_iff.mp hi
  refine ⟨fun hn => ?_, fun hn => hn ▸ hi⟩
  obtain ⟨hm, he⟩ := List.getElem?_eq_some_iff.mp hn
  exact hd.getElem_inj_iff.mp he

end VpnClient.Library.Rotation
