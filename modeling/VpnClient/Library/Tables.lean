import Mathlib.Data.List.AList
import Mathlib.Algebra.BigOperators.Group.List.Basic
import Mathlib.Tactic.Abel

/-! Tables whose entries are added, changed and deleted by key, and what many such requests leave at a key. -/

namespace VpnClient.Library.Tables

abbrev Table (K V : Type) := AList fun _ : K => V

variable {K V : Type} [DecidableEq K]

/-- An entry that is there stays. -/
def add (k : K) (v : V) (t : Table K V) : Table K V := if k ∈ t then t else t.insert k v

/-- Only an entry that is there changes. -/
def change (k : K) (v : V) (t : Table K V) : Table K V := if k ∈ t then t.insert k v else t

variable {t : Table K V} {k k' : K} {v : V} {ks : List K}

lemma lookup_add : (add k v t).lookup k' = if k' = k then some ((t.lookup k).getD v) else t.lookup k' := by
  rw [add]
  by_cases hm : k ∈ t
  · obtain ⟨w, hw⟩ := Option.isSome_iff_exists.mp (AList.lookup_isSome.mpr hm)
    rw [if_pos hm]
    split
    · next he => rw [he, hw, Option.getD_some]
    · rfl
  · rw [if_neg hm, AList.lookup_eq_none.mpr hm]
    split
    · next he => rw [he, AList.lookup_insert, Option.getD_none]
    · next he => rw [AList.lookup_insert_ne he]

lemma lookup_change : (change k v t).lookup k' = if k' = k then (t.lookup k).map fun _ => v else t.lookup k' := by
  rw [change]
  by_cases hm : k ∈ t
  · obtain ⟨w, hw⟩ := Option.isSome_iff_exists.mp (AList.lookup_isSome.mpr hm)
    rw [if_pos hm]
    split
    · next he => rw [he, AList.lookup_insert, hw, Option.map_some]
    · next he => rw [AList.lookup_insert_ne he]
  · rw [if_neg hm]
    split
    · next he => rw [he, AList.lookup_eq_none.mpr hm, Option.map_none]
    · rfl

lemma lookup_erase : AList.lookup k' (t.erase k) = if k' = k then none else t.lookup k' := by
  split
  · next he => rw [he, AList.lookup_erase]
  · next he => rw [AList.lookup_erase_ne he]

lemma lookup_insert : AList.lookup k' (t.insert k v) = if k' = k then some v else t.lookup k' := by
  split
  · next he => rw [he, AList.lookup_insert]
  · next he => rw [AList.lookup_insert_ne he]

/-- What the requests for some keys leave, when each gives its key the value `f` of what was there, and `f` does not
care how often it is applied. -/
lemma lookup_foldl {request : K → Table K V → Table K V} {f : Option V → Option V} (hf : ∀ o, f (f o) = f o)
    (hr : ∀ k t k', (request k t).lookup k' = if k' = k then f (t.lookup k) else t.lookup k') :
    (ks.foldl (fun t k => request k t) t).lookup k' = if k' ∈ ks then f (t.lookup k') else t.lookup k' := by
  induction ks generalizing t with
  | nil => simp
  | cons k ks ih =>
    rw [List.foldl_cons, ih, hr]
    by_cases he : k' = k
    · subst he
      simp [hf]
    · simp [he]

lemma lookup_foldl_add :
    (ks.foldl (fun t k => add k v t) t).lookup k' = if k' ∈ ks then some ((t.lookup k').getD v) else t.lookup k' :=
  lookup_foldl (f := fun o => some (o.getD v)) (fun _ => rfl) fun _ _ _ => lookup_add

lemma lookup_foldl_change :
    (ks.foldl (fun t k => change k v t) t).lookup k' =
      if k' ∈ ks then (t.lookup k').map fun _ => v else t.lookup k' :=
  lookup_foldl (f := Option.map fun _ => v) (fun o => by cases o <;> rfl) fun _ _ _ => lookup_change

lemma lookup_foldl_erase :
    AList.lookup k' (ks.foldl (fun t k => AList.erase k t) t) = if k' ∈ ks then none else t.lookup k' :=
  lookup_foldl (f := fun _ => none) (fun _ => rfl) fun _ _ _ => lookup_erase

section Values

/-- The values of the entries, in some order. -/
def values (t : Table K V) : List V := t.entries.map Sigma.snd

omit [DecidableEq K] in
@[simp] lemma values_empty : values (∅ : Table K V) = [] := rfl

lemma values_erase : values (t.erase k) = (List.kerase k t.entries).map Sigma.snd := rfl

lemma values_insert : values (t.insert k v) = v :: values (t.erase k) := rfl

/-- The value of a key is in front of those of the other keys. -/
lemma values_perm : (values t).Perm ((t.lookup k).toList ++ values (t.erase k)) := by
  by_cases hk : k ∈ t
  · obtain ⟨v, before, after, -, he, hr⟩ := List.exists_of_kerase (AList.mem_keys.mp hk)
    have hv : t.lookup k = some v := AList.mem_lookup_iff.mpr (by rw [he]; simp)
    rw [hv, values_erase, hr, values, he, List.map_append, List.map_append, Option.toList_some]
    exact List.perm_middle
  · have hl : t.lookup k = none := AList.lookup_eq_none.mpr hk
    rw [hl, values_erase, List.kerase_of_notMem_keys hk]
    exact List.Perm.refl _

lemma sum_values_insert [AddCommGroup V] :
    (values (t.insert k v)).sum = (values t).sum - (t.lookup k).getD 0 + v := by
  have hs : (values t).sum = (t.lookup k).getD 0 + (values (t.erase k)).sum := by
    rw [values_perm.sum_eq, List.sum_append]
    cases t.lookup k <;> simp
  rw [values_insert, List.sum_cons, hs]
  abel

end Values

end VpnClient.Library.Tables
