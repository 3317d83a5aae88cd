import Mathlib.Data.List.Basic

/-! Timings that are started and stopped by an id: in which logs of the calls starts and stops are paired. -/

namespace VpnClient.Library.Timings

variable {M I : Type}

inductive Timing (M I : Type) where
  | start (metric : M) (id : I)
  | stop (metric : M) (id : I)
  deriving DecidableEq, Repr

/-- The ids that were started, the last first. -/
def started : List (Timing M I) → List I
  | [] => []
  | .start _ id :: log => id :: started log
  | .stop _ _ :: log => started log

/-- The ids that were stopped, the last first. -/
def stopped : List (Timing M I) → List I
  | [] => []
  | .start _ _ :: log => stopped log
  | .stop _ id :: log => id :: stopped log

/-- In a log with the last call first, each stop is of an id that was started on the same metric and not stopped yet,
and each start comes when every earlier id is stopped. -/
def Paired : List (Timing M I) → Prop
  | [] => True
  | .start _ _ :: log => (∀ id ∈ started log, id ∈ stopped log) ∧ Paired log
  | .stop metric id :: log => .start metric id ∈ log ∧ id ∉ stopped log ∧ Paired log

instance decidablePaired [DecidableEq M] [DecidableEq I] : (log : List (Timing M I)) → Decidable (Paired log)
  | [] => isTrue trivial
  | .start _ _ :: log => @instDecidableAnd _ _ inferInstance (decidablePaired log)
  | .stop _ _ :: log => @instDecidableAnd _ _ inferInstance (@instDecidableAnd _ _ inferInstance (decidablePaired log))

variable {metric other : M} {id : I} {log : List (Timing M I)}

lemma Paired.tail {timing : Timing M I} (h : Paired (timing :: log)) : Paired log := by
  cases timing with
  | start metric id => exact h.2
  | stop metric id => exact h.2.2

lemma mem_started (h : .start metric id ∈ log) : id ∈ started log := by
  induction log with
  | nil => cases h
  | cons timing log ih =>
    cases timing with
    | start metric id =>
      rcases List.mem_cons.mp h with he | h
      · cases he
        exact .head _
      · exact .tail _ (ih h)
    | stop metric id => exact ih (by simpa using h)

/-- No timing is open. -/
def Closed (log : List (Timing M I)) : Prop := ∀ id ∈ started log, id ∈ stopped log

instance [DecidableEq I] : DecidablePred (Closed (M := M) (I := I)) := fun _ => inferInstanceAs (Decidable (∀ _ ∈ _, _))

/-- The id is the only one that is open, and it was started on this metric. -/
structure Open (metric : M) (id : I) (log : List (Timing M I)) : Prop where
  start : .start metric id ∈ log
  running : id ∉ stopped log
  others : ∀ i ∈ started log, i = id ∨ i ∈ stopped log
  unique : ∀ other, .start other id ∈ log → other = metric

lemma Closed.start (h : Closed log) (hn : id ∉ started log) (hs : id ∉ stopped log) :
    Open metric id (.start metric id :: log) where
  start := .head _
  running := hs
  others i hi := (List.mem_cons.mp hi).imp_right (h i)
  unique other ho := by
    rcases List.mem_cons.mp ho with he | ho
    · cases he
      rfl
    · exact absurd (mem_started ho) hn

lemma Open.not_closed (h : Open metric id log) : ¬Closed log := fun hc => h.running (hc id (mem_started h.start))

lemma Open.stop (h : Open metric id log) (other : M) : Closed (.stop other id :: log) := fun i hi =>
  (h.others i hi).elim (fun he => he ▸ .head _) (.tail _)

lemma Open.paired_stop_iff (h : Open metric id log) (hp : Paired log) :
    Paired (.stop other id :: log) ↔ other = metric :=
  ⟨fun ho => h.unique other ho.1, fun he => ⟨he ▸ h.start, h.running, hp⟩⟩

end VpnClient.Library.Timings
