import VpnClient.Library.HeldTimings
import VpnClient.Library.Runs

/-! The metrics of the connection health of the Android service, and the sessions in which they are timed. -/

namespace VpnClient.Android

open Library.Runs Library.Timings

inductive ConnectionStability where
  | NoSignal
  | Unstable
  | Stable
  deriving DecidableEq, Repr

inductive HealthTime where
  | unstableTime
  | noSignalTime
  | stableTime
  deriving DecidableEq, Repr

inductive HealthCount where
  | unstableCount
  | noSignalCount
  | stableCount
  deriving DecidableEq, Repr

inductive HealthChange where
  | changedToUnstable
  | changedToNoSignal
  | changedToStable
  deriving DecidableEq, Repr

/-- The members of the class that the metrics are recorded with, and what is recorded. The id that is held with the
timings is the `connectionHealthTimerId`. -/
structure HealthMetrics where
  mActive : Bool := false
  lastHealthStatus : ConnectionStability := .Stable
  timings : Held HealthTime := {}
  counts : List HealthCount := []
  changes : List HealthChange := []
  deriving DecidableEq, Repr

namespace HealthMetrics

def timeMetric : ConnectionStability → HealthTime
  | .Unstable => .unstableTime
  | .NoSignal => .noSignalTime
  | .Stable => .stableTime

def countMetric : ConnectionStability → HealthCount
  | .Unstable => .unstableCount
  | .NoSignal => .noSignalCount
  | .Stable => .stableCount

def changeMetric : ConnectionStability → HealthChange
  | .Unstable => .changedToUnstable
  | .NoSignal => .changedToNoSignal
  | .Stable => .changedToStable

def startTimingDistributionMetric (stability : ConnectionStability) (m : HealthMetrics) : HealthMetrics :=
  { m with timings := m.timings.start (timeMetric stability) }

def stopTimingDistributionMetric (stability : ConnectionStability) (m : HealthMetrics) : HealthMetrics :=
  { m with timings := m.timings.stop (timeMetric stability) }

def recordMetrics (stability : ConnectionStability) (m : HealthMetrics) : HealthMetrics :=
  let m := { m with counts := countMetric stability :: m.counts }
  if m.lastHealthStatus = stability then m
  else
    let m := { m with changes := changeMetric stability :: m.changes }
    let m := (m.stopTimingDistributionMetric m.lastHealthStatus).startTimingDistributionMetric stability
    { m with lastHealthStatus := stability }

/-- A start begins a session if the system is new enough and no session is going on. -/
def begins (sdk : ℕ) (m : HealthMetrics) : Bool := !(sdk < 31 || m.mActive)

def start (sdk : ℕ) (shouldRecordTelemetry : Bool) (m : HealthMetrics) : HealthMetrics :=
  if !m.begins sdk then m
  else
    let m := { m with mActive := true }
    if shouldRecordTelemetry then m.startTimingDistributionMetric m.lastHealthStatus else m

def stop (m : HealthMetrics) : HealthMetrics :=
  if !m.mActive then m else { m with mActive := false }.stopTimingDistributionMetric m.lastHealthStatus

inductive Event where
  | start (sdk : ℕ) (shouldRecordTelemetry : Bool)
  | stop
  | recordMetrics (stability : ConnectionStability)

def step (m : HealthMetrics) : Event → HealthMetrics
  | .start sdk shouldRecordTelemetry => m.start sdk shouldRecordTelemetry
  | .stop => m.stop
  | .recordMetrics stability => m.recordMetrics stability

/-- Whether the last session was stopped, and whether there was a session with telemetry. -/
structure Sessions where
  stopped : Bool := false
  telemetry : Bool := false
  deriving DecidableEq, Repr

def observe (m : HealthMetrics) (e : Event) (sessions : Sessions) : Sessions :=
  match e with
  | .start sdk shouldRecordTelemetry =>
    if m.begins sdk then { stopped := false, telemetry := sessions.telemetry || shouldRecordTelemetry } else sessions
  | .stop => { sessions with stopped := true }
  | .recordMetrics _ => sessions

/-- Every timing is paired, held until it is stopped, closed after a stop, and none comes before a session with
telemetry. -/
structure Sound (p : HealthMetrics × Sessions) : Prop where
  paired : Paired p.1.timings.log
  held : ∀ id ∈ started p.1.timings.log, id ∈ stopped p.1.timings.log ∨ p.1.timings.id = some id
  closed : p.2.stopped = true → Closed p.1.timings.log
  telemetry : p.2.telemetry = false → started p.1.timings.log = []

/-- A check that finds another stability does so in a session, and not before there was one with telemetry. -/
def InSession (p : HealthMetrics × Sessions) : Event → Prop
  | .recordMetrics stability => p.1.lastHealthStatus ≠ stability → p.2.stopped = false ∧ p.2.telemetry = true
  | _ => True

structure Inv (p : HealthMetrics × Sessions) : Prop where
  keeps : p.1.timings.Keeps (timeMetric p.1.lastHealthStatus)
  inactive : p.1.mActive = false → p.1.timings.id = none
  stopped : p.2.stopped = true → p.1.mActive = false
  active : p.2.stopped = false → p.2.telemetry = true → p.1.mActive = true
  telemetry : p.2.telemetry = false → started p.1.timings.log = []

variable {m : HealthMetrics} {sessions : Sessions} {p : HealthMetrics × Sessions} {e : Event}
  {stability : ConnectionStability} {sdk : ℕ} {shouldRecordTelemetry : Bool}

lemma Inv.sound (h : Inv p) : Sound p :=
  ⟨h.keeps.paired, fun _ hi => h.keeps.held hi, fun hs => h.keeps.closed (h.inactive (h.stopped hs)), h.telemetry⟩

lemma recordMetrics_self (h : m.lastHealthStatus = stability) :
    m.recordMetrics stability = { m with counts := countMetric stability :: m.counts } := if_pos h

lemma recordMetrics_of_ne (h : m.lastHealthStatus ≠ stability) : m.recordMetrics stability =
    { m with
      counts := countMetric stability :: m.counts, changes := changeMetric stability :: m.changes
      lastHealthStatus := stability
      timings := (m.timings.stop (timeMetric m.lastHealthStatus)).start (timeMetric stability) } := if_neg h

lemma inv_start (h : Inv (m, sessions)) :
    Inv (watch step observe (m, sessions) (.start sdk shouldRecordTelemetry)) := by
  simp only [watch, step, observe, start]
  cases hb : m.begins sdk with
  | false => exact h
  | true =>
    have hn : m.mActive = false := by
      simp only [begins, Bool.not_eq_true', Bool.or_eq_false_iff] at hb
      exact hb.2
    cases shouldRecordTelemetry with
    | false =>
      refine ⟨h.keeps, fun ha => absurd ha (by simp), fun hs => absurd hs (by simp), fun _ _ => rfl, fun ht => ?_⟩
      exact h.telemetry (by simpa using ht)
    | true =>
      refine ⟨h.keeps.start (h.inactive hn) _, fun ha => absurd ha ?_, fun hs => absurd hs (by simp), fun _ _ => rfl,
        fun ht => absurd ht (by simp)⟩
      simp [startTimingDistributionMetric]

lemma inv_stop (h : Inv (m, sessions)) : Inv (watch step observe (m, sessions) .stop) := by
  simp only [watch, step, observe, stop]
  cases ha : m.mActive with
  | false => exact ⟨h.keeps, h.inactive, fun _ => ha, fun hs => absurd hs (by simp), h.telemetry⟩
  | true =>
    refine ⟨h.keeps.stop _, fun _ => Held.id_stop, fun _ => rfl, fun hs => absurd hs (by simp), fun ht => ?_⟩
    exact Held.started_stop.trans (h.telemetry ht)

lemma inv_recordMetrics (h : Inv (m, sessions)) (hs : InSession (m, sessions) (.recordMetrics stability)) :
    Inv (watch step observe (m, sessions) (.recordMetrics stability)) := by
  simp only [watch, step, observe]
  by_cases he : m.lastHealthStatus = stability
  · rw [recordMetrics_self he]
    exact { h with }
  · obtain ⟨ho, ht⟩ := hs he
    rw [recordMetrics_of_ne he]
    refine ⟨(h.keeps.stop (timeMetric m.lastHealthStatus)).start Held.id_stop _, fun ha => ?_, h.stopped, h.active,
      fun hn => ?_⟩
    · exact absurd ((h.active ho ht).symm.trans ha) (by decide)
    · exact absurd (ht.symm.trans hn) (by decide)

lemma inv_step (h : Inv p) (hs : InSession p e) : Inv (watch step observe p e) := by
  cases e with
  | start sdk shouldRecordTelemetry => exact inv_start h
  | stop => exact inv_stop h
  | recordMetrics stability => exact inv_recordMetrics h hs

lemma inSession_iff (h : Inv p) : InSession p e ↔ Sound (watch step observe p e) := by
  refine ⟨fun hs => (inv_step h hs).sound, fun hs => ?_⟩
  cases e with
  | start sdk shouldRecordTelemetry => trivial
  | stop => trivial
  | recordMetrics stability =>
    intro he
    have hr : (p.1.recordMetrics stability).timings =
        (p.1.timings.stop (timeMetric p.1.lastHealthStatus)).start (timeMetric stability) := by
      rw [recordMetrics_of_ne he]
    constructor
    · by_contra hn
      have hc : Closed (p.1.recordMetrics stability).timings.log := hs.closed (Bool.eq_true_of_not_eq_false hn)
      rw [hr] at hc
      have hk := (h.keeps.stop (timeMetric p.1.lastHealthStatus)).start Held.id_stop (timeMetric stability)
      exact absurd (hk.closed_iff.mp hc) (by simp)
    · by_contra hn
      have hl : started (p.1.recordMetrics stability).timings.log = [] :=
        hs.telemetry (Bool.eq_false_of_not_eq_true hn)
      rw [hr, Held.started_start] at hl
      cases hl

lemma inv_new : Inv ({}, {}) :=
  ⟨Held.keeps_new, fun _ => rfl, fun h => (by cases h), fun _ h => (by cases h), fun _ => rfl⟩

/-- Every timing of a run is sound exactly if each check that finds another stability does so in a session, after one
with telemetry has begun. -/
lemma sound_iff_inSession (events : List Event) : Meets (watch step observe) InSession ({}, {}) events ↔
    ∀ before, before <+: events → Sound (run (watch step observe) ({}, {}) before) :=
  meets_iff_throughout (fun _ _ h hs => inv_step h hs) (fun _ _ h => inSession_iff h) inv_new inv_new.sound

end HealthMetrics

end VpnClient.Android
