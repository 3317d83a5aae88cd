import Mathlib.Tactic

/-! Lists whose elements have keys: finding an element, erasing it, moving it to another list, and the last one with
a key. Lists with one entry for each key of a set: what adding and deleting an entry does to the set. -/

namespace VpnClient.Library.KeyedLists

variable {A K : Type} [DecidableEq K] {key : A → K} {l r : List A} {k : K} {x : A} {p : A → Bool}

lemma perm_of_find? (h : l.find? p = some x) : (x :: l.eraseP p).Perm l := by
  induction l with
  | nil => simp at h
  | cons y l ih =>
    rw [List.find?_cons] at h
    rw [List.eraseP_cons]
    cases hp : p y with
    | true =>
      obtain rfl : y = x := by simpa [hp] using h
      exact .refl _
    | false =>
      rw [hp] at h
      exact (List.Perm.swap ..).trans ((ih h).cons y)

lemma perm_move (h : l.find? p = some x) : (l.eraseP p ++ (r ++ [x])).Perm (l ++ r) := by
  have hx : (l.eraseP p ++ [x]).Perm l := (List.perm_append_singleton ..).trans (perm_of_find? h)
  exact (List.perm_append_comm.append_left _).trans ((List.append_assoc ..).symm ▸ hx.append_right r)

lemma eraseP_eq_filter (h : (l.map key).Nodup) : l.eraseP (key · = k) = l.filter (key · ≠ k) := by
  induction l with
  | nil => rfl
  | cons y l ih =>
    rw [List.map_cons, List.nodup_cons] at h
    rw [List.eraseP_cons, List.filter_cons]
    by_cases hy : key y = k
    · have hf : l.filter (key · ≠ k) = l := by
        rw [List.filter_eq_self]
        intro x hx
        apply decide_eq_true
        rintro rfl
        exact h.1 (hy ▸ List.mem_map_of_mem hx)
      simpa [hy] using hf.symm
    · simp [hy, ih h.2]

/-- The last element with the key. -/
def latest (key : A → K) (l : List A) (k : K) : Option A := l.reverse.find? (key · = k)

@[simp] lemma latest_nil : latest key [] k = none := rfl

lemma latest_concat : latest key (l ++ [x]) k = if key x = k then some x else latest key l k := by
  rw [latest, List.reverse_append, List.reverse_singleton, List.singleton_append, List.find?_cons]
  by_cases h : key x = k <;> simp [h, latest]

lemma mem_of_latest (h : latest key l k = some x) : x ∈ l ∧ key x = k := by
  rw [latest] at h
  have hk := List.find?_some h
  exact ⟨List.mem_reverse.mp (List.mem_of_find?_eq_some h), of_decide_eq_true hk⟩

lemma exists_latest (h : x ∈ l) : ∃ y, latest key l (key x) = some y := by
  rw [← Option.isSome_iff_exists, latest, List.find?_isSome]
  exact ⟨x, List.mem_reverse.mpr h, decide_eq_true rfl⟩

lemma latest_of_nodup (hn : (l.map key).Nodup) (h : x ∈ l) : latest key l (key x) = some x := by
  obtain ⟨y, hy⟩ : ∃ y, latest key l (key x) = some y := exists_latest h
  obtain ⟨hm, hk⟩ := mem_of_latest hy
  rw [hy, List.inj_on_of_nodup_map hn hm h hk]

end VpnClient.Library.KeyedLists

namespace VpnClient.Library.Entries

variable {K D : Type} [DecidableEq K] [DecidableEq D]

/-- The list consists, in some order, of the entries of the keys. -/
def Holds (entry : K → D) (keys : Finset K) (l : List D) : Prop := (l : Multiset D) = keys.val.map entry

variable {entry : K → D} {keys : Finset K} {l : List D} {k : K}

omit [DecidableEq K] [DecidableEq D] in
lemma holds_empty : Holds entry ∅ [] := rfl

omit [DecidableEq K] [DecidableEq D] in
lemma Holds.mem_iff (h : Holds entry keys l) {d : D} : d ∈ l ↔ ∃ k ∈ keys, entry k = d := by
  rw [← Multiset.mem_coe, h, Multiset.mem_map]
  rfl

omit [DecidableEq D] in
lemma Holds.append (h : Holds entry keys l) (hk : k ∉ keys) : Holds entry (insert k keys) (l ++ [entry k]) := by
  rw [Holds]
  rw [Finset.insert_val_of_notMem hk, Multiset.map_cons, ← h, ← Multiset.coe_add, Multiset.add_comm]
  rfl

lemma Holds.filter (h : Holds entry keys l) (hi : ∀ k' ∈ keys, entry k' = entry k → k' = k) :
    Holds entry (keys.erase k) (l.filter (· ≠ entry k)) := by
  rw [Holds]
  rw [← Multiset.filter_coe, h, Multiset.filter_map, ← Finset.filter_ne']
  refine congrArg (Multiset.map entry) (Multiset.filter_congr fun k' hk => ?_)
  exact not_congr ⟨hi k' hk, congrArg entry⟩

lemma Holds.count (h : Holds entry keys l) (hi : ∀ k' ∈ keys, entry k' = entry k → k' = k) :
    l.count (entry k) = if k ∈ keys then 1 else 0 := by
  have hc : (keys.val.filter (entry k = entry ·)).card = keys.val.count k := by
    rw [Multiset.count_eq_card_filter_eq]
    refine congrArg Multiset.card (Multiset.filter_congr fun k' hk => ?_)
    exact ⟨fun he => (hi k' hk he.symm).symm, congrArg entry⟩
  rw [← Multiset.coe_count, h, Multiset.count_map, hc, Multiset.count_eq_of_nodup keys.nodup]
  rfl

end VpnClient.Library.Entries
