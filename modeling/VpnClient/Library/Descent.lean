import VpnClient.Library.Runs

/-! Endless runs of a step function, and the rule by which a rank that falls leads them to a goal. -/

namespace VpnClient.Library.Descent

variable {S E A : Type}

/-- The states that an endless run goes through. -/
def states (step : S → E → S) (s : S) (es : ℕ → E) : ℕ → S
  | 0 => s
  | n + 1 => step (states step s es n) (es n)

variable {step : S → E → S} {s : S} {es : ℕ → E} {Q : S → Prop} {rank : S → ℕ} {duty : S → A}

lemma states_eq_run (n : ℕ) : states step s es n = Runs.run step s ((List.range n).map es) := by
  induction n with
  | zero => rfl
  | succ n ih => rw [List.range_succ, List.map_append, List.map_singleton, Runs.run_concat, ← ih, states]

lemma met_or_fallen_or_same (hs : ∀ n, Q (states step s es n) ∨ Q (states step s es (n + 1)) ∨
      rank (states step s es (n + 1)) < rank (states step s es n) ∨
      rank (states step s es (n + 1)) = rank (states step s es n) ∧
        duty (states step s es (n + 1)) = duty (states step s es n)) (n k : ℕ) :
    (∃ m, Q (states step s es m)) ∨ (∃ m, rank (states step s es m) < rank (states step s es n)) ∨
      rank (states step s es (n + k)) = rank (states step s es n) ∧
        duty (states step s es (n + k)) = duty (states step s es n) := by
  induction k with
  | zero => exact .inr (.inr ⟨rfl, rfl⟩)
  | succ k ih =>
    obtain hq | hf | ⟨hr, hd⟩ := ih
    · exact .inl hq
    · exact .inr (.inl hf)
    · obtain hq | hq | hf | ⟨hr', hd'⟩ := hs (n + k)
      · exact .inl ⟨_, hq⟩
      · exact .inl ⟨_, hq⟩
      · exact .inr (.inl ⟨_, hr ▸ hf⟩)
      · exact .inr (.inr ⟨hr'.trans hr, hd'.trans hd⟩)

lemma exists_of_duties (Q : S → Prop) (rank : S → ℕ) (duty : S → A) (Due : A → E → Prop)
    (hs : ∀ n, Q (states step s es n) ∨ Q (states step s es (n + 1)) ∨
      rank (states step s es (n + 1)) < rank (states step s es n) ∨
      rank (states step s es (n + 1)) = rank (states step s es n) ∧
        duty (states step s es (n + 1)) = duty (states step s es n))
    (hd : ∀ n, Due (duty (states step s es n)) (es n) →
      Q (states step s es n) ∨ Q (states step s es (n + 1)) ∨
        rank (states step s es (n + 1)) < rank (states step s es n))
    (hf : ∀ n, Q (states step s es n) ∨ ∃ m ≥ n, Q (states step s es m) ∨ Due (duty (states step s es n)) (es m)) :
    ∃ n, Q (states step s es n) := by
  suffices h : ∀ r n, rank (states step s es n) = r → ∃ m, Q (states step s es m) from h _ 0 rfl
  intro r
  induction r using Nat.strong_induction_on with
  | _ r ih =>
    rintro n rfl
    obtain hq | ⟨m, hm, hq | hu⟩ := hf n
    · exact ⟨n, hq⟩
    · exact ⟨m, hq⟩
    · obtain ⟨k, rfl⟩ := Nat.exists_eq_add_of_le hm
      obtain hq | ⟨l, hl⟩ | ⟨hr, he⟩ := met_or_fallen_or_same hs n k
      · exact hq
      · exact ih _ hl l rfl
      · obtain hq | hq | hl := hd (n + k) (he ▸ hu)
        · exact ⟨_, hq⟩
        · exact ⟨_, hq⟩
        · exact ih _ (hr ▸ hl) _ rfl

end VpnClient.Library.Descent
