import Mathlib.Tactic

/-! Lists that are run through for the best of their elements: the last one with the greatest key, as a running best
finds it, and the first ones by a ranking, which are kept in order. -/

namespace VpnClient.Library.Selections

variable {α κ : Type} [LinearOrder κ] (key : α → κ) {l l' : List α} {x y : α}

/-- The running best, which an element of the same key replaces. -/
def prefer (best : Option α) (x : α) : Option α :=
  match best with
  | none => some x
  | some b => if key x < key b then some b else some x

def select (l : List α) : Option α := l.foldl (prefer key) none

lemma select_concat : select key (l ++ [x]) = prefer key (select key l) x := by
  rw [select, List.foldl_append]
  rfl

lemma select_spec (l : List α) : select key l = none ∧ l = [] ∨
    ∃ b, select key l = some b ∧ b ∈ l ∧ ∀ x ∈ l, key x ≤ key b := by
  induction l using List.reverseRecOn with
  | nil => exact .inl ⟨rfl, rfl⟩
  | append_singleton l x ih =>
    right
    rw [select_concat]
    have hx : x ∈ l ++ [x] := List.mem_append_right _ (List.mem_singleton_self x)
    obtain ⟨hn, rfl⟩ | ⟨b, hb, hm, hle⟩ := ih
    · rw [hn]
      exact ⟨x, rfl, hx, by simp⟩
    · rw [hb, prefer]
      by_cases hlt : key x < key b
      · refine ⟨b, by rw [if_pos hlt], List.mem_append_left _ hm, fun y hy => ?_⟩
        obtain hy | hy := List.mem_append.mp hy
        · exact hle y hy
        · exact (List.mem_singleton.mp hy) ▸ hlt.le
      · refine ⟨x, by rw [if_neg hlt], hx, fun y hy => ?_⟩
        obtain hy | hy := List.mem_append.mp hy
        · exact (hle y hy).trans (not_lt.mp hlt)
        · exact (List.mem_singleton.mp hy) ▸ le_rfl

variable {key}

lemma select_eq_none_iff : select key l = none ↔ l = [] := by
  obtain ⟨hs, rfl⟩ | ⟨b, hs, hm, -⟩ := select_spec key l
  · exact iff_of_true hs rfl
  · rw [hs]
    exact iff_of_false (by simp) (List.ne_nil_of_mem hm)

lemma mem_of_select (h : select key l = some x) : x ∈ l := by
  obtain ⟨hs, -⟩ | ⟨b, hs, hm, -⟩ := select_spec key l
  · rw [hs] at h
    cases h
  · rw [hs] at h
    cases h
    exact hm

lemma le_of_select (h : select key l = some x) (hy : y ∈ l) : key y ≤ key x := by
  obtain ⟨hs, -⟩ | ⟨b, hs, -, hle⟩ := select_spec key l
  · rw [hs] at h
    cases h
  · rw [hs] at h
    cases h
    exact hle y hy

lemma key_eq_of_perm (hp : l.Perm l') (h : select key l = some x) (h' : select key l' = some y) : key x = key y :=
  le_antisymm (le_of_select h' (hp.mem_iff.mp (mem_of_select h))) (le_of_select h (hp.mem_iff.mpr (mem_of_select h')))

end VpnClient.Library.Selections

namespace VpnClient.Library.Rankings

variable {A : Type} (below : A → A → Bool) (maxResults : ℕ)

/-- An element comes before the first one that ranks below it, and the results beyond the limit are dropped. -/
def insertRanked (results : List A) (x : A) : List A :=
  let i := results.findIdx (below · x)
  let results := if i < maxResults then results.insertIdx i x else results
  if maxResults < results.length then results.take maxResults else results

def ranked (l : List A) : List A := l.foldl (insertRanked below maxResults) []

variable {below maxResults} {results l : List A} {x : A}

lemma mem_insertRanked {y : A} (h : y ∈ insertRanked below maxResults results x) : y = x ∨ y ∈ results := by
  have hi : ∀ i, y ∈ results.insertIdx i x → y = x ∨ y ∈ results := fun i => List.eq_or_mem_of_mem_insertIdx
  rw [insertRanked] at h
  split_ifs at h
  · exact hi _ (List.mem_of_mem_take h)
  · exact hi _ h
  · exact .inr (List.mem_of_mem_take h)
  · exact .inr h

lemma length_insertRanked (h : results.length ≤ maxResults) :
    (insertRanked below maxResults results x).length = min maxResults (results.length + 1) := by
  have hi : results.findIdx (below · x) ≤ results.length := List.findIdx_le_length
  rw [insertRanked]
  split_ifs with hlt hlen hlen
  · rw [List.length_insertIdx_of_le_length hi] at hlen
    rw [List.length_take, List.length_insertIdx_of_le_length hi]
  · rw [List.length_insertIdx_of_le_length hi] at hlen ⊢
    omega
  · rw [List.length_take]
    omega
  · omega

lemma mem_ranked {y : A} (h : y ∈ ranked below maxResults l) : y ∈ l := by
  induction l using List.reverseRecOn with
  | nil => exact h
  | append_singleton l x ih =>
    rw [ranked, List.foldl_append] at h
    obtain rfl | h := mem_insertRanked h
    · exact List.mem_append_right _ List.mem_cons_self
    · exact List.mem_append_left _ (ih h)

lemma length_ranked : (ranked below maxResults l).length = min maxResults l.length := by
  induction l using List.reverseRecOn with
  | nil => simp [ranked]
  | append_singleton l x ih =>
    rw [ranked, List.foldl_append, List.foldl_cons, List.foldl_nil]
    rw [ranked] at ih
    rw [length_insertRanked (ih.le.trans (min_le_left ..)), ih, List.length_append, List.length_singleton]
    omega

end VpnClient.Library.Rankings
