import Mathlib.Tactic
import VpnClient.Library.Timings

/-! A timing whose id is held in an optional place, until it is stopped. -/

namespace VpnClient.Library.Timings

variable {M : Type}

/-- The id that is held, the calls with the last first, and the next id that is given. -/
structure Held (M : Type) where
  id : Option ℕ := none
  log : List (Timing M ℕ) := []
  nextId : ℕ := 0
  deriving DecidableEq, Repr

namespace Held

/-- The id that is given is held, in place of the one before. -/
def start (metric : M) (h : Held M) : Held M :=
  { id := some h.nextId, log := .start metric h.nextId :: h.log, nextId := h.nextId + 1 }

def stop (metric : M) (h : Held M) : Held M :=
  match h.id with
  | none => h
  | some id => { h with id := none, log := .stop metric id :: h.log }

/-- Starts and stops are paired, and the id that is held is the one that is open, on this metric. -/
structure Keeps (metric : M) (h : Held M) : Prop where
  paired : Paired h.log
  fresh : ∀ id ∈ started h.log, id < h.nextId
  stops : ∀ id ∈ stopped h.log, id ∈ started h.log
  opened : ∀ id ∈ h.id, Open metric id h.log
  closed : h.id = none → Closed h.log

variable {metric other : M} {h : Held M}

lemma keeps_new : Keeps metric ({} : Held M) :=
  ⟨trivial, by simp [started], by simp [stopped], by simp, fun _ => by simp [Closed, started]⟩

lemma Keeps.held (hk : Keeps metric h) {id : ℕ} (hi : id ∈ started h.log) : id ∈ stopped h.log ∨ h.id = some id := by
  cases ho : h.id with
  | none => exact .inl (hk.closed ho id hi)
  | some held => exact ((hk.opened held ho).others id hi).symm.imp_right fun he => by rw [he]

lemma Keeps.closed_iff (hk : Keeps metric h) : Closed h.log ↔ h.id = none := by
  refine ⟨fun hc => ?_, hk.closed⟩
  cases ho : h.id with
  | none => rfl
  | some id => exact absurd hc (hk.opened id ho).not_closed

@[simp] lemma id_stop : (h.stop metric).id = none := by
  rw [stop]
  split
  · assumption
  · rfl

@[simp] lemma id_start : (h.start metric).id = some h.nextId := rfl

lemma Keeps.stop (hk : Keeps metric h) (other : M) : Keeps other (h.stop metric) := by
  rw [Held.stop]
  split
  · next hn => exact ⟨hk.paired, hk.fresh, hk.stops, by simp [hn], fun _ => hk.closed hn⟩
  · next id hi =>
    have ho := hk.opened id hi
    have hm : id ∈ started h.log := mem_started ho.start
    refine ⟨(ho.paired_stop_iff hk.paired).mpr rfl, hk.fresh, ?_, by simp, fun _ => ho.stop _⟩
    exact List.forall_mem_cons.mpr ⟨hm, hk.stops⟩

lemma Keeps.paired_start_iff (hk : Keeps metric h) : Paired (h.start other).log ↔ h.id = none :=
  (and_iff_left hk.paired).trans hk.closed_iff

lemma Keeps.start (hk : Keeps metric h) (hn : h.id = none) (other : M) : Keeps other (h.start other) := by
  have hf : h.nextId ∉ started h.log := fun hi => lt_irrefl _ (hk.fresh _ hi)
  refine ⟨hk.paired_start_iff.mpr hn, ?_, fun id hi => .tail _ (hk.stops id hi), ?_, by simp⟩
  · exact List.forall_mem_cons.mpr ⟨Nat.lt_succ_self _, fun id hi => (hk.fresh id hi).trans (Nat.lt_succ_self _)⟩
  · rintro id ⟨⟩
    exact (hk.closed hn).start hf fun hi => hf (hk.stops _ hi)

lemma started_start : started (h.start metric).log = h.nextId :: started h.log := rfl

lemma started_stop : started (h.stop metric).log = started h.log := by
  rw [stop]
  split <;> rfl

end Held

end VpnClient.Library.Timings
