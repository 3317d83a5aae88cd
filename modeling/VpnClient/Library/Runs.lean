import Mathlib.Tactic

/-! Runs of a step function: invariants, conditions that every step of a run meets, and
observers that watch a run without taking part in it. -/

namespace VpnClient.Library.Runs

variable {S E M : Type}

def run (step : S → E → S) (s : S) (es : List E) : S := es.foldl step s

/-- Each step of the run from `s` starts in a state and handles an event that meet `C`. -/
def Meets (step : S → E → S) (C : S → E → Prop) : S → List E → Prop
  | _, [] => True
  | s, e :: es => C s e ∧ Meets step C (step s e) es

def watch (step : S → E → S) (observe : S → E → M → M) (p : S × M) (e : E) : S × M :=
  (step p.1 e, observe p.1 e p.2)

instance decidableMeets (step : S → E → S) (C : S → E → Prop) [∀ s e, Decidable (C s e)] :
    (s : S) → (es : List E) → Decidable (Meets step C s es)
  | _, [] => isTrue trivial
  | s, e :: es => @instDecidableAnd _ _ inferInstance (decidableMeets step C (step s e) es)

variable {step : S → E → S} {C D I : S → E → Prop} {P Q : S → Prop} {s : S} {e : E} {es fs : List E}

@[simp] lemma run_nil : run step s [] = s := rfl

@[simp] lemma run_cons : run step s (e :: es) = run step (step s e) es := rfl

lemma run_append : run step s (es ++ fs) = run step (run step s es) fs := List.foldl_append ..

lemma run_concat : run step s (es ++ [e]) = step (run step s es) e := by
  rw [run_append, run_cons, run_nil]

@[simp] lemma meets_nil : Meets step C s [] ↔ True := Iff.rfl

@[simp] lemma meets_cons : Meets step C s (e :: es) ↔ C s e ∧ Meets step C (step s e) es := Iff.rfl

lemma meets_append : Meets step C s (es ++ fs) ↔ Meets step C s es ∧ Meets step C (run step s es) fs := by
  induction es generalizing s with
  | nil => simp
  | cons e es ih => simp only [List.cons_append, meets_cons, ih, run_cons, and_assoc]

lemma meets_concat : Meets step C s (es ++ [e]) ↔ Meets step C s es ∧ C (run step s es) e := by
  simp [meets_append]

lemma run_invariant (hp : ∀ s e, P s → P (step s e)) (h : P s) : P (run step s es) := by
  induction es generalizing s with
  | nil => exact h
  | cons e es ih => exact ih (hp s e h)

lemma run_frame {A : Type} {f : S → A} (hf : ∀ s e, f (step s e) = f s) : f (run step s es) = f s :=
  run_invariant (P := fun s' => f s' = f s) (fun s' e h => (hf s' e).trans h) rfl

lemma Meets.invariant (hm : Meets step C s es) (hp : ∀ s e, P s → C s e → P (step s e)) (h : P s) :
    P (run step s es) := by
  induction es generalizing s with
  | nil => exact h
  | cons e es ih => exact ih hm.2 (hp s e h hm.1)

lemma Meets.along (hm : Meets step C s es) (hp : ∀ s e, P s → C s e → P (step s e))
    (hd : ∀ s e, P s → C s e → D s e) (h : P s) : Meets step D s es := by
  induction es generalizing s with
  | nil => trivial
  | cons e es ih => exact ⟨hd s e h hm.1, ih hm.2 (hp s e h hm.1)⟩

lemma Meets.and_forall {R : E → Prop} (hm : Meets step C s es) (hr : ∀ e ∈ es, R e) :
    Meets step (fun s e => R e ∧ C s e) s es := by
  induction es generalizing s with
  | nil => trivial
  | cons e es ih =>
    obtain ⟨he, hr⟩ := List.forall_mem_cons.mp hr
    exact ⟨⟨he, hm.1⟩, ih hm.2 hr⟩

lemma meets_congr (hp : ∀ s e, P s → C s e → P (step s e)) (hc : ∀ s e, P s → (C s e ↔ D s e))
    (h : P s) : Meets step C s es ↔ Meets step D s es := by
  induction es generalizing s with
  | nil => exact Iff.rfl
  | cons e es ih =>
    rw [meets_cons, meets_cons, ← hc s e h]
    exact and_congr_right fun he => ih (hp s e h he)

lemma run_watch (observe : S → E → M → M) (m : M) :
    (run (watch step observe) (s, m) es).1 = run step s es := by
  induction es generalizing s m with
  | nil => rfl
  | cons e es ih => exact ih _

lemma meets_watch (observe : S → E → M → M) (m : M) :
    Meets (watch step observe) (fun p e => C p.1 e) (s, m) es ↔ Meets step C s es := by
  induction es generalizing s m with
  | nil => exact Iff.rfl
  | cons e es ih => exact and_congr_right fun _ => ih _

lemma Meets.of_prefix (hm : Meets step C s es) (hf : fs <+: es) : Meets step C s fs := by
  obtain ⟨gs, rfl⟩ := hf
  exact (meets_append.mp hm).1

/-- In a run that meets `B`, a condition is exact for a state predicate if, wherever the invariant holds, it is
what keeps the predicate over the next step. -/
lemma Meets.iff_throughout {B : S → E → Prop} (hb : Meets step B s es)
    (hp : ∀ s e, P s → B s e → C s e → P (step s e))
    (hq : ∀ s e, P s → B s e → (C s e ↔ Q (step s e))) (h : P s) (h₀ : Q s) :
    Meets step C s es ↔ ∀ fs, fs <+: es → Q (run step s fs) := by
  induction es generalizing s with
  | nil => simp [h₀]
  | cons e es ih =>
    constructor
    · rintro ⟨he, hm⟩ fs hf
      cases fs with
      | nil => exact h₀
      | cons f fs =>
        obtain ⟨rfl, hfs⟩ := List.cons_prefix_cons.mp hf
        exact (ih hb.2 (hp s f h hb.1 he) ((hq s f h hb.1).mp he)).mp hm fs hfs
    · intro ha
      have he := (hq s e h hb.1).mpr (ha [e] (by simp))
      refine ⟨he, (ih hb.2 (hp s e h hb.1 he) ((hq s e h hb.1).mp he)).mpr ?_⟩
      intro fs hf
      exact ha (e :: fs) (List.cons_prefix_cons.mpr ⟨rfl, hf⟩)

/-- A condition is exact for a state predicate if, wherever the invariant holds, it is what
keeps the predicate over the next step. -/
lemma meets_iff_throughout (hp : ∀ s e, P s → C s e → P (step s e))
    (hq : ∀ s e, P s → (C s e ↔ Q (step s e))) (h : P s) (h₀ : Q s) :
    Meets step C s es ↔ ∀ fs, fs <+: es → Q (run step s fs) := by
  have hb : Meets step (fun _ _ => True) s es := by
    clear h h₀
    induction es generalizing s with
    | nil => trivial
    | cons e es ih => exact ⟨trivial, ih⟩
  exact hb.iff_throughout (fun s e h _ => hp s e h) (fun s e h _ => hq s e h) h h₀

end VpnClient.Library.Runs
