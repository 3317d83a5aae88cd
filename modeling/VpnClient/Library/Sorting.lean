import Mathlib.Tactic

/-! Sorting by a strict order that leaves open in which order equivalent elements come out. -/

namespace VpnClient.Library

structure Sorting {A : Type} (less : A → A → Prop) where
  sort : List A → List A
  perm : ∀ l, (sort l).Perm l
  ordered : ∀ l, (sort l).Pairwise fun a b => ¬less b a

namespace Sorting

variable {A K : Type} [LinearOrder K]

/-- A stable sort by non-increasing keys. -/
def byKey (key : A → K) : Sorting fun a b => key b < key a where
  sort := List.insertionSort fun a b => key b ≤ key a
  perm := List.perm_insertionSort _
  ordered l := by
    have : Std.Total fun a b => key b ≤ key a := ⟨fun a b => le_total _ _⟩
    have : IsTrans A fun a b => key b ≤ key a := ⟨fun a b c hab hbc => hbc.trans hab⟩
    exact (List.pairwise_insertionSort (fun a b => key b ≤ key a) l).imp fun h => not_lt.mpr h

end Sorting

/-- What a sort may require of a comparator: it is a strict weak order on the elements of the list. -/
def Orders {A : Type} (less : A → A → Bool) (l : List A) : Prop := IsStrictWeakOrder {a // a ∈ l} fun a b => less a b

/-- A sort by any comparator, of which nothing is known unless the comparator orders the list. -/
structure ComparatorSort (A : Type) where
  sort : (A → A → Bool) → List A → List A
  perm : ∀ less l, Orders less l → (sort less l).Perm l
  ordered : ∀ less l, Orders less l → (sort less l).Pairwise fun a b => less b a = false

section Orders

variable {A K : Type} [LinearOrder K] {less : A → A → Bool} {l : List A}

lemma Orders.irrefl (h : Orders less l) {a : A} (ha : a ∈ l) : less a a = false := by
  have hl : IsStrictWeakOrder {a // a ∈ l} fun a b => less a b := h
  exact Bool.eq_false_iff.mpr (hl.irrefl ⟨a, ha⟩)

/-- A comparator that compares by a rank orders the list. -/
lemma orders_of_rank (rank : A → K) (h : ∀ a ∈ l, ∀ b ∈ l, less a b = true ↔ rank a < rank b) : Orders less l where
  irrefl a := by
    rw [h a a.2 a a.2]
    exact lt_irrefl _
  trans a b c := by
    rw [h a a.2 b b.2, h b b.2 c c.2, h a a.2 c c.2]
    exact lt_trans
  incomp_trans a b c := by
    simp only [h _ a.2 _ b.2, h _ b.2 _ a.2, h _ b.2 _ c.2, h _ c.2 _ b.2, h _ a.2 _ c.2, h _ c.2 _ a.2, not_lt]
    exact fun hab hbc => ⟨hbc.1.trans hab.1, hab.2.trans hbc.2⟩

lemma ComparatorSort.ordered_of_rank (s : ComparatorSort A) (rank : A → K)
    (h : ∀ a ∈ l, ∀ b ∈ l, less a b = true ↔ rank a < rank b) :
    (s.sort less l).Pairwise fun a b => rank a ≤ rank b := by
  have ho := orders_of_rank rank h
  apply (s.ordered less l ho).imp_of_mem
  intro a b ha hb hba
  apply not_lt.mp
  rw [← h b ((s.perm less l ho).mem_iff.mp hb) a ((s.perm less l ho).mem_iff.mp ha), hba]
  exact Bool.false_ne_true

open scoped Classical in
/-- A sort that loses the elements of a list that its comparator does not order. -/
noncomputable def ComparatorSort.spoil (s : ComparatorSort A) : ComparatorSort A where
  sort less l := if Orders less l then s.sort less l else []
  perm less l h := by
    rw [if_pos h]
    exact s.perm less l h
  ordered less l h := by
    rw [if_pos h]
    exact s.ordered less l h

lemma ComparatorSort.spoil_of_orders (s : ComparatorSort A) (h : Orders less l) :
    s.spoil.sort less l = s.sort less l := if_pos h

lemma ComparatorSort.spoil_of_not_orders (s : ComparatorSort A) (h : ¬Orders less l) : s.spoil.sort less l = [] :=
  if_neg h

/-- The sort by insertion. -/
def insertion (A : Type) : ComparatorSort A where
  sort less l := (l.attach.insertionSort fun a b : {a // a ∈ l} => less b a = false).map Subtype.val
  perm less l _ := ((List.perm_insertionSort _ _).map _).trans (List.Perm.of_eq l.attach_map_subtype_val)
  ordered less l h := by
    have hl : IsStrictWeakOrder {a // a ∈ l} fun a b => less a b := h
    have ht : Std.Total fun a b : {a // a ∈ l} => less b a = false := by
      refine ⟨fun a b => or_iff_not_imp_left.mpr fun hba => Bool.eq_false_iff.mpr fun hab => ?_⟩
      exact hl.irrefl _ (hl.trans _ _ _ hab (Bool.eq_true_of_not_eq_false hba))
    have htr : IsTrans {a // a ∈ l} fun a b => less b a = false := by
      refine ⟨fun a b c hba hcb => Bool.eq_false_iff.mpr fun hca => ?_⟩
      have hna : ¬less b a = true := Bool.eq_false_iff.mp hba
      have hnb : ¬less c b = true := Bool.eq_false_iff.mp hcb
      by_cases hab : less a b = true
      · exact hnb (hl.trans c a b hca hab)
      · by_cases hbc : less b c = true
        · exact hna (hl.trans b c a hbc hca)
        · exact (hl.incomp_trans a b c ⟨hab, hna⟩ ⟨hbc, hnb⟩).2 hca
    rw [List.pairwise_map]
    exact List.pairwise_insertionSort _ l.attach

end Orders

end VpnClient.Library
