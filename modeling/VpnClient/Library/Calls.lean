import VpnClient.Library.Attempts

/-! Attempts that stop at the first call that fails: how many calls they make, and which one failed. -/

namespace VpnClient.Library.Attempts

variable {S A : Type}

/-- From the `c`-th call on, the `f`-th is the first to fail. -/
def FailsFirst (outcome : ℕ → Bool) (c f : ℕ) : Prop :=
  c ≤ f ∧ outcome f = false ∧ ∀ i, c ≤ i → i < f → outcome i = true

/-- The attempt makes `n` calls, or fails with the first call that does. -/
def Attempt.Draws (outcome : ℕ → Bool) (calls : S → ℕ) (n : ℕ) (a : Attempt S) : Prop :=
  ∀ s, ((a s).1 = true ∧ calls (a s).2 = calls s + n ∧
      ∀ i, calls s ≤ i → i < calls s + n → outcome i = true) ∨
    ((a s).1 = false ∧ ∃ f < calls s + n, FailsFirst outcome (calls s) f ∧ calls (a s).2 = f + 1)

variable {outcome : ℕ → Bool} {calls : S → ℕ} {c d f g m n : ℕ} {a b : Attempt S}

lemma FailsFirst.unique (hf : FailsFirst outcome c f) (hg : FailsFirst outcome c g) : f = g := by
  obtain ⟨hcf, hof, haf⟩ := hf
  obtain ⟨hcg, hog, hag⟩ := hg
  rcases Nat.lt_trichotomy f g with h | h | h
  · simp [hag f hcf h] at hof
  · exact h
  · simp [haf g hcg h] at hog

lemma FailsFirst.of_le (hf : FailsFirst outcome d f) (hcd : c ≤ d)
    (h : ∀ i, c ≤ i → i < d → outcome i = true) : FailsFirst outcome c f := by
  refine ⟨hcd.trans hf.1, hf.2.1, fun i hi hif => ?_⟩
  by_cases hd : i < d
  · exact h i hi hd
  · exact hf.2.2 i (Nat.not_lt.mp hd) hif

lemma FailsFirst.after (hf : FailsFirst outcome c f) (h : ∀ i, c ≤ i → i < d → outcome i = true) (hcd : c ≤ d) :
    FailsFirst outcome d f := by
  have hdf : d ≤ f := by
    by_contra hn
    have ht := h f hf.1 (by omega)
    simp [hf.2.1] at ht
  exact ⟨hdf, hf.2.1, fun i hi hif => hf.2.2 i (hcd.trans hi) hif⟩

namespace Attempt

lemma draws_one (h : ∀ s, (a s).1 = outcome (calls s) ∧ calls (a s).2 = calls s + 1) :
    Draws outcome calls 1 a := by
  intro s
  obtain ⟨hr, hc⟩ := h s
  cases ho : outcome (calls s) with
  | true =>
    refine .inl ⟨hr.trans ho, hc, fun i hi hlt => ?_⟩
    obtain rfl : i = calls s := by omega
    exact ho
  | false => exact .inr ⟨hr.trans ho, calls s, by omega, ⟨le_rfl, ho, fun i hi hlt => by omega⟩, hc⟩

lemma draws_succeed {f : S → S} (h : ∀ s, calls (f s) = calls s) : Draws outcome calls 0 (succeed f) :=
  fun s => .inl ⟨rfl, h s, fun i hi hlt => by omega⟩

lemma Draws.andThen (ha : Draws outcome calls m a) (hb : Draws outcome calls n b) :
    Draws outcome calls (m + n) (a.andThen b) := by
  intro s
  rw [Attempt.andThen]
  rcases ha s with ⟨hr, hc, hs⟩ | ⟨hr, f, hf, hff, hc⟩
  · rw [if_pos hr]
    rcases hb (a s).2 with ⟨hr', hc', hs'⟩ | ⟨hr', f, hf, hff, hc'⟩
    · refine .inl ⟨hr', by omega, fun i hi hlt => ?_⟩
      by_cases hm : i < calls s + m
      · exact hs i hi hm
      · exact hs' i (by omega) (by omega)
    · rw [hc] at hff hf
      exact .inr ⟨hr', f, by omega, hff.of_le (by omega) hs, hc'⟩
  · rw [if_neg (by simp [hr])]
    exact .inr ⟨rfl, f, by omega, hff, hc⟩

lemma draws_forEach {F : A → Attempt S} (h : ∀ x, Draws outcome calls 1 (F x)) (xs : List A) :
    Draws outcome calls xs.length (forEach F xs) := by
  induction xs with
  | nil => exact fun s => .inl ⟨rfl, rfl, fun i hi hlt => by simp at hlt; omega⟩
  | cons x xs ih =>
    rw [List.length_cons, Nat.add_comm]
    exact (h x).andThen ih

end Attempt

end VpnClient.Library.Attempts
