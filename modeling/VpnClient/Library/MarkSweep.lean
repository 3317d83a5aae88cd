import Mathlib.Data.List.Nodup
import Mathlib.Tactic

/-! Reconciling a set of keys with the keys that are wanted: each wanted key counts up a mark, and what has no mark
is swept away. -/

namespace VpnClient.Library.MarkSweep

variable {K : Type} [DecidableEq K]

abbrev Counts (K : Type) := List (K × ℕ)

abbrev Counts.keys (c : Counts K) : List K := c.map (·.1)

def mark (c : Counts K) (k : K) : Counts K :=
  if k ∈ c.keys then c.map fun e => if e.1 = k then (e.1, e.2 + 1) else e else c ++ [(k, 1)]

/-- What a sweep of the keys in the scope leaves. -/
def stays (scope : K → Bool) (e : K × ℕ) : Bool := 0 < e.2 || !scope e.1

def sweep (scope : K → Bool) (c : Counts K) : Counts K := (c.filter (stays scope)).map fun e => (e.1, 0)

/-- The keys are those of `old` and those marked so far, each once, and a key has a count if it was marked. -/
structure Marked (old : List K) (done : List K) (c : Counts K) : Prop where
  nodup : c.keys.Nodup
  mem_keys : ∀ k, k ∈ c.keys ↔ k ∈ old ∨ k ∈ done
  pos : ∀ e ∈ c, 0 < e.2 ↔ e.1 ∈ done

variable {old done : List K} {c : Counts K} {k : K} {scope : K → Bool}

lemma keys_mark_of_mem (h : k ∈ c.keys) : (mark c k).keys = c.keys := by
  rw [mark, Counts.keys]
  rw [if_pos h, List.map_map]
  refine List.map_congr_left fun e _ => ?_
  simp only [Function.comp_apply]
  split <;> rfl

lemma keys_mark_of_not_mem (h : k ∉ c.keys) : (mark c k).keys = c.keys ++ [k] := by
  simp only [mark, if_neg h, Counts.keys, List.map_append, List.map_cons, List.map_nil]

omit [DecidableEq K] in
lemma marked_nil (hn : c.keys.Nodup) (hz : ∀ e ∈ c, e.2 = 0) : Marked c.keys [] c where
  nodup := hn
  mem_keys k := by simp
  pos e he := by simp [hz e he]

lemma Marked.mark (h : Marked old done c) (k : K) : Marked old (done ++ [k]) (mark c k) := by
  by_cases hk : k ∈ c.keys
  · refine ⟨(keys_mark_of_mem hk).symm ▸ h.nodup, fun k' => ?_, fun e he => ?_⟩
    · rw [keys_mark_of_mem hk, h.mem_keys]
      constructor
      · rintro (ho | hd)
        · exact .inl ho
        · exact .inr (List.mem_append_left _ hd)
      · rintro (ho | hd)
        · exact .inl ho
        · rcases List.mem_append.mp hd with hd | hd
          · exact .inr hd
          · rw [List.mem_singleton.mp hd]
            exact (h.mem_keys k).mp hk
    · simp only [MarkSweep.mark, if_pos hk] at he
      obtain ⟨e, hc, rfl⟩ := List.mem_map.mp he
      split
      · next hke => simp [hke]
      · next hke => simp [h.pos e hc, hke]
  · refine ⟨?_, fun k' => ?_, fun e he => ?_⟩
    · rw [keys_mark_of_not_mem hk]
      exact List.nodup_append.mpr ⟨h.nodup, List.nodup_singleton k, fun a ha b hb hab =>
        hk (List.mem_singleton.mp hb ▸ hab ▸ ha)⟩
    · rw [keys_mark_of_not_mem hk, List.mem_append, h.mem_keys, List.mem_append, or_assoc]
    · simp only [MarkSweep.mark, if_neg hk] at he
      rcases List.mem_append.mp he with he | he
      · have hne : e.1 ≠ k := fun hek => hk (hek ▸ List.mem_map_of_mem he)
        simp [h.pos e he, hne]
      · simp [List.mem_singleton.mp he]

lemma Marked.foldl (h : Marked old done c) (ks : List K) :
    Marked old (done ++ ks) (ks.foldl MarkSweep.mark c) := by
  induction ks generalizing done c with
  | nil => simpa using h
  | cons k ks ih => simpa using ih (h.mark k)

omit [DecidableEq K] in
lemma mem_sweep_keys : k ∈ (sweep scope c).keys ↔ ∃ e ∈ c, stays scope e = true ∧ e.1 = k := by
  simp [sweep, Counts.keys, and_assoc]

variable (k) (scope) in
lemma mem_keys_sweep (hn : c.keys.Nodup) (hz : ∀ e ∈ c, e.2 = 0) (ks : List K) :
    k ∈ (sweep scope (ks.foldl mark c)).keys ↔ k ∈ ks ∨ k ∈ c.keys ∧ scope k = false := by
  have h : Marked c.keys ks (ks.foldl mark c) := by simpa using (marked_nil hn hz).foldl ks
  rw [mem_sweep_keys]
  constructor
  · rintro ⟨e, he, hs, rfl⟩
    rcases Bool.or_eq_true _ _ ▸ hs with hs | hs
    · exact .inl ((h.pos e he).mp (of_decide_eq_true hs))
    · by_cases hk : e.1 ∈ ks
      · exact .inl hk
      · exact .inr ⟨((h.mem_keys e.1).mp (List.mem_map_of_mem he)).resolve_right hk, by simpa using hs⟩
  · intro hk
    obtain ⟨e, he, rfl⟩ := List.mem_map.mp ((h.mem_keys k).mpr (hk.symm.imp_left And.left))
    refine ⟨e, he, ?_, rfl⟩
    rcases hk with hk | ⟨-, hs⟩
    · simp [stays, (h.pos e he).mpr hk]
    · simp [stays, hs]

omit [DecidableEq K] in
lemma nodup_keys_sweep (h : c.keys.Nodup) : (sweep scope c).keys.Nodup := by
  have hk : (sweep scope c).keys = (c.filter (stays scope)).map (·.1) := by
    simp [sweep, Counts.keys, Function.comp_def]
  rw [hk]
  exact h.sublist (List.filter_sublist.map _)

lemma keys_sweep (h : c.keys.Nodup) :
    (sweep scope c).keys = c.keys.filter (· ∉ Counts.keys (c.filter fun e => !stays scope e)) := by
  rw [Counts.keys, sweep, List.map_map, Counts.keys, List.filter_map]
  refine congrArg (List.map _) (List.filter_congr fun e he => ?_)
  rw [Bool.eq_iff_iff, Function.comp_apply, decide_eq_true_iff]
  constructor
  · intro hs hm
    obtain ⟨e', he', hk⟩ := List.mem_map.mp hm
    obtain ⟨he', hs'⟩ := List.mem_filter.mp he'
    rw [List.inj_on_of_nodup_map h he' he hk, hs] at hs'
    cases hs'
  · intro hn
    by_contra hs
    exact hn (List.mem_map_of_mem (List.mem_filter.mpr ⟨he, by simpa using hs⟩))

omit [DecidableEq K] in
lemma sweep_zero {e : K × ℕ} (h : e ∈ sweep scope c) : e.2 = 0 := by
  obtain ⟨e', -, rfl⟩ := List.mem_map.mp h
  rfl

end VpnClient.Library.MarkSweep
