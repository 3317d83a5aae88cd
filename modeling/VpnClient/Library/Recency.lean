import Mathlib.Tactic

/-! Bounded lists of the elements of a history, with those used most recently first. -/

namespace VpnClient.Library.Recency

variable {α : Type} [DecidableEq α] {history list xs : List α} {x : α} {n : ℕ}

/-- The history has the most recent use of each element first, and so has the list. -/
structure Recent (history list : List α) : Prop where
  mem : ∀ x ∈ list, x ∈ history
  head : list.head? = history.head?
  ordered : list.Pairwise fun x y => history.idxOf x < history.idxOf y

lemma Recent.nodup (h : Recent history list) : list.Nodup := by
  apply h.ordered.imp
  rintro x _ hlt rfl
  exact hlt.ne rfl

lemma recent_nil : Recent ([] : List α) [] := ⟨by simp, rfl, .nil⟩

lemma Recent.use (h : Recent history list) (x : α) (n : ℕ) :
    Recent (x :: history) (x :: (list.erase x).take n) := by
  have hne : ∀ y ∈ (list.erase x).take n, y ≠ x :=
    fun y hy => (h.nodup.mem_erase_iff.mp (List.mem_of_mem_take hy)).1
  constructor
  case mem =>
    intro y hy
    obtain rfl | hy := List.mem_cons.mp hy
    · exact List.mem_cons_self
    · exact List.mem_cons_of_mem _ (h.mem y (List.mem_of_mem_erase (List.mem_of_mem_take hy)))
  case head => rfl
  case ordered =>
    rw [List.pairwise_cons]
    constructor
    · intro y hy
      rw [List.idxOf_cons_self, List.idxOf_cons_ne _ (hne y hy).symm]
      exact Nat.succ_pos _
    · have hs : ((list.erase x).take n).Sublist list := (List.take_sublist _ _).trans List.erase_sublist
      apply (h.ordered.sublist hs).imp_of_mem
      intro y z hy hz hlt
      rw [List.idxOf_cons_ne _ (hne y hy).symm, List.idxOf_cons_ne _ (hne z hz).symm]
      exact Nat.succ_lt_succ hlt

lemma Recent.use_head (h : Recent history (x :: list)) : Recent (x :: history) (x :: list) := by
  simpa using h.use x list.length

/-- An element goes to the end, unless it is the first one. -/
def refill (n : ℕ) (list : List α) (x : α) : List α :=
  if list.head? = some x then list else (list.erase x).take n ++ [x]

/-- None of the elements that come second to `n`th is used again, after those used so far, when others have followed. -/
def Orderly (n : ℕ) : List α → List α → Prop
  | _, [] => True
  | used, x :: xs =>
    (x ∈ used.eraseDups.tail.take (n - 1) → used.eraseDups.getLast? = some x) ∧ Orderly n (used ++ [x]) xs

instance decidableOrderly (n : ℕ) : ∀ used xs : List α, Decidable (Orderly n used xs)
  | _, [] => isTrue trivial
  | used, x :: xs => @instDecidableAnd _ _ inferInstance (decidableOrderly n (used ++ [x]) xs)

/-- The list has the first `n` of the elements used and the last one of the others. -/
inductive Refilled (n : ℕ) (used : List α) : List α → Prop
  | room (h : used.eraseDups.length ≤ n) : Refilled n used used.eraseDups
  | full (last : α) (h : n ≤ used.eraseDups.length) (mem : last ∈ used) (notMem : last ∉ used.eraseDups.take n) :
    Refilled n used (used.eraseDups.take n ++ [last])

lemma eraseDups_concat (used : List α) (x : α) :
    (used ++ [x]).eraseDups = if x ∈ used then used.eraseDups else used.eraseDups ++ [x] := by
  rw [List.eraseDups_append]
  by_cases hx : x ∈ used <;> simp [List.removeAll, List.eraseDups_cons, hx]

lemma pairwise_eraseDups (used : List α) :
    used.eraseDups.Pairwise fun x y => used.idxOf x < used.idxOf y := by
  induction used using List.reverseRecOn with
  | nil => exact .nil
  | append_singleton used x ih =>
    have hs : used.eraseDups.Pairwise fun y z => (used ++ [x]).idxOf y < (used ++ [x]).idxOf z := by
      apply ih.imp_of_mem
      intro y z hy hz hlt
      rwa [List.idxOf_append_of_mem (List.mem_eraseDups.mp hy), List.idxOf_append_of_mem (List.mem_eraseDups.mp hz)]
    rw [eraseDups_concat]
    split
    case isTrue => exact hs
    case isFalse hx =>
      rw [List.pairwise_append]
      refine ⟨hs, List.pairwise_singleton _ _, fun y hy z hz => ?_⟩
      rw [List.mem_singleton.mp hz, List.idxOf_append_of_mem (List.mem_eraseDups.mp hy),
        List.idxOf_append_of_notMem hx]
      exact Nat.lt_add_right _ (List.idxOf_lt_length_iff.mpr (List.mem_eraseDups.mp hy))

lemma nodup_eraseDups (used : List α) : used.eraseDups.Nodup := by
  apply (pairwise_eraseDups used).imp
  rintro x _ hlt rfl
  exact hlt.ne rfl

lemma head?_eraseDups (used : List α) : used.eraseDups.head? = used.head? := by
  cases used with
  | nil => rfl
  | cons x used => rw [List.eraseDups_cons]; rfl

lemma Refilled.recent (hn : 0 < n) (h : Refilled n xs list) : Recent xs list := by
  have hp := pairwise_eraseDups xs
  cases h with
  | room h => exact ⟨fun x hx => List.mem_eraseDups.mp hx, head?_eraseDups xs, hp⟩
  | full last h mem notMem =>
    constructor
    case mem =>
      intro y hy
      obtain hy | hy := List.mem_append.mp hy
      · exact List.mem_eraseDups.mp (List.mem_of_mem_take hy)
      · exact List.mem_singleton.mp hy ▸ mem
    case head =>
      rw [← head?_eraseDups xs, List.head?_append, List.head?_take, if_neg (Nat.ne_of_gt hn)]
      cases hd : xs.eraseDups with
      | nil => rw [hd] at h; exact absurd h (by simpa using Nat.ne_of_gt hn)
      | cons => rfl
    case ordered =>
      rw [List.pairwise_append]
      refine ⟨hp.sublist (List.take_sublist _ _), List.pairwise_singleton _ _, fun y hy z hz => ?_⟩
      rw [List.mem_singleton.mp hz]
      rw [← List.take_append_drop n xs.eraseDups, List.pairwise_append] at hp
      have hd : last ∈ xs.eraseDups.take n ++ xs.eraseDups.drop n := by
        rw [List.take_append_drop]
        exact List.mem_eraseDups.mpr mem
      exact hp.2.2 y hy last ((List.mem_append.mp hd).resolve_left notMem)

lemma Refilled.length_le (h : Refilled n xs list) : list.length ≤ n + 1 := by
  cases h with
  | room h => exact Nat.le_succ_of_le h
  | full last h => rw [List.length_append, List.length_take, List.length_singleton]; omega

lemma refill_of_notMem (hx : x ∉ list) (hl : list.length ≤ n) : refill n list x = list ++ [x] := by
  have hh : list.head? ≠ some x := fun hh => hx (List.mem_of_mem_head? hh)
  rw [refill, if_neg hh, List.erase_of_not_mem hx, List.take_of_length_le hl]

lemma foldl_refill (hd : (list ++ xs).Nodup) (hl : (list ++ xs).length ≤ n + 1) :
    xs.foldl (refill n) list = list ++ xs := by
  induction xs generalizing list with
  | nil => rw [List.append_nil]; rfl
  | cons x xs ih =>
    have hx : x ∉ list := fun hx => List.disjoint_of_nodup_append hd hx List.mem_cons_self
    have hlen : list.length ≤ n := by
      rw [List.length_append, List.length_cons] at hl
      omega
    rw [List.append_cons] at hd hl ⊢
    rw [List.foldl_cons, refill_of_notMem hx hlen, ih hd hl]

lemma getLast?_eraseDups_notMem_take {used : List α} (h : n < used.eraseDups.length)
    (hl : used.eraseDups.getLast? = some x) : x ∉ used.eraseDups.take n := by
  intro hx
  have hd := nodup_eraseDups used
  rw [← List.take_append_drop n used.eraseDups] at hd hl
  rw [List.getLast?_append_of_ne_nil _ (by simpa using h)] at hl
  exact List.disjoint_of_nodup_append hd hx (List.mem_of_getLast? hl)

lemma refill_concat {front : List α} (last : α) (hf : front ≠ []) (hh : front.head? ≠ some x) (hx : x ∉ front) :
    refill front.length (front ++ [last]) x = front ++ [x] := by
  rw [refill, List.head?_append_of_ne_nil _ hf, if_neg hh, List.erase_append_right _ hx, List.take_left]

/-- A step of `refill`, when an element that is used again is allowed to go to the end. -/
lemma Refilled.refill {used : List α} (hn : 0 < n) (h : Refilled n used list)
    (hx : x ∈ used.eraseDups.tail.take (n - 1) → used.eraseDups.getLast? = some x) :
    Refilled n (used ++ [x]) (refill n list x) := by
  have hd := nodup_eraseDups used
  have hm : x ∈ used.eraseDups ↔ x ∈ used := List.mem_eraseDups
  have he := eraseDups_concat used x
  -- An element used before that is not the first one is in the tail of the elements used.
  have htail : x ∈ used → used.eraseDups.head? ≠ some x → ∀ k, x ∈ used.eraseDups.take (k + 1) →
      x ∈ used.eraseDups.tail.take k := by
    intro hu hh k hk
    cases hc : used.eraseDups with
    | nil => rw [hc] at hm; exact absurd (hm.mpr hu) List.not_mem_nil
    | cons y ys =>
      rw [hc, List.take_succ_cons] at hk
      rw [hc] at hh
      exact (List.mem_cons.mp hk).resolve_left fun hy => hh (by rw [hy]; rfl)
  cases h with
  | room h =>
    by_cases hu : x ∈ used
    case neg =>
      rw [if_neg hu] at he
      rw [refill_of_notMem (hm.not.mpr hu) h]
      obtain hlt | heq := Nat.lt_or_eq_of_le h
      · rw [← he]
        exact .room (by rw [he, List.length_append, List.length_singleton]; exact hlt)
      · have ht : (used ++ [x]).eraseDups.take n = used.eraseDups := by rw [he, ← heq, List.take_left]
        have := @Refilled.full α _ n (used ++ [x]) x (by rw [he, List.length_append]; omega) (by simp)
          (ht ▸ hm.not.mpr hu)
        rwa [ht] at this
    case pos =>
      rw [if_pos hu] at he
      have hsame : Recency.refill n used.eraseDups x = (used ++ [x]).eraseDups := by
        rw [he, Recency.refill]
        split
        case isTrue => rfl
        case isFalse hh =>
          have hl := hx (htail hu hh (n - 1) (by rw [Nat.sub_add_cancel hn, List.take_of_length_le h]; exact hm.mpr hu))
          obtain ⟨front, hf⟩ := List.getLast?_eq_some_iff.mp hl
          rw [hf] at hd h ⊢
          have hn : x ∉ front := fun hx => List.disjoint_of_nodup_append hd hx (List.mem_singleton_self x)
          rw [List.length_append, List.length_singleton] at h
          rw [List.erase_append_right _ hn, List.erase_cons_head, List.append_nil, List.take_of_length_le (by omega)]
      rw [hsame]
      exact .room (he ▸ h)
  | full last h mem notMem =>
    have hlen : (used.eraseDups.take n).length = n := by rw [List.length_take, Nat.min_eq_left h]
    have hne : used.eraseDups.take n ≠ [] := List.ne_nil_of_length_pos (hn.trans_eq hlen.symm)
    have hhead : (used.eraseDups.take n).head? = used.eraseDups.head? := by
      rw [List.head?_take, if_neg (Nat.ne_of_gt hn)]
    have ht : (used ++ [x]).eraseDups.take n = used.eraseDups.take n := by
      rw [he]
      split
      case isTrue => rfl
      case isFalse => rw [List.take_append_of_le_length h]
    have hle : n ≤ (used ++ [x]).eraseDups.length := by
      rw [← hlen, ← ht]
      exact List.length_take_le' _ _
    by_cases hh : used.eraseDups.head? = some x
    case pos =>
      rw [Recency.refill, List.head?_append_of_ne_nil _ hne, hhead, if_pos hh]
      have := @Refilled.full α _ n (used ++ [x]) last hle (List.mem_append_left _ mem) (ht ▸ notMem)
      rwa [ht] at this
    case neg =>
      have hlt : n < used.eraseDups.length := by
        apply Nat.lt_of_le_of_ne h
        rintro heq
        rw [heq, List.take_length] at notMem
        exact notMem (List.mem_eraseDups.mpr mem)
      have hn' : x ∉ used.eraseDups.take n := by
        intro hk
        have hk' := htail (hm.mp (List.mem_of_mem_take hk)) hh (n - 1) (by rwa [Nat.sub_add_cancel hn])
        exact getLast?_eraseDups_notMem_take hlt (hx hk') hk
      have hr := refill_concat last hne (hhead ▸ hh) hn'
      rw [hlen] at hr
      have := @Refilled.full α _ n (used ++ [x]) x hle (by simp) (ht ▸ hn')
      rwa [hr, ← ht]

lemma Refilled.foldl {used : List α} (hn : 0 < n) (h : Refilled n used list) (ho : Orderly n used xs) :
    Refilled n (used ++ xs) (xs.foldl (Recency.refill n) list) := by
  induction xs generalizing used list with
  | nil => rwa [List.append_nil]
  | cons x xs ih =>
    rw [List.append_cons]
    exact ih (h.refill hn ho.1) ho.2

lemma refilled_foldl (hn : 0 < n) (ho : Orderly n [] xs) : Refilled n xs (xs.foldl (refill n) []) :=
  (Refilled.room (Nat.zero_le n)).foldl hn ho

end VpnClient.Library.Recency
