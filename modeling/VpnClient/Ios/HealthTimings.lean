import VpnClient.Android.HealthMetrics
import VpnClient.Ios.ConnectionHealth

/-! The times of the stability on both mobile systems: each timing is stopped once, on its own metric, and within its
session. -/

namespace VpnClient.Ios

open Library.Runs Library.Timings

namespace ConnectionHealth

variable {h : ConnectionHealth} {p : ConnectionHealth × Bool} {e : Event} {stability : ConnectionStability}

/-- Whether the last call was a stop. -/
def observe (_ : ConnectionHealth) (e : Event) (stopped : Bool) : Bool :=
  match e with
  | .start _ => false
  | .stop => true
  | .analyzed .. => stopped

/-- Every timing is paired, held until it is stopped, and closed after a stop. -/
structure Sound (p : ConnectionHealth × Bool) : Prop where
  paired : Paired p.1.timings.log
  held : ∀ id ∈ started p.1.timings.log, id ∈ stopped p.1.timings.log ∨ p.1.timings.id = some id
  closed : p.2 = true → Closed p.1.timings.log

/-- A start finds no timing open, and no check finds another stability after a stop. -/
def InSession (p : ConnectionHealth × Bool) : Event → Prop
  | .start _ => p.1.timings.id = none
  | .stop => True
  | .analyzed connectivity _ => ∀ stability ∈ connectivity, p.1.lastHealthStatus ≠ stability → p.2 = false

structure Inv (p : ConnectionHealth × Bool) : Prop where
  keeps : p.1.timings.Keeps (timeMetric p.1.lastHealthStatus)
  stopped : p.2 = true → p.1.timings.id = none

lemma Inv.sound (h : Inv p) : Sound p :=
  ⟨h.keeps.paired, fun _ hi => h.keeps.held hi, fun hs => h.keeps.closed (h.stopped hs)⟩

lemma lastHealthStatus_analyzed (now : ℕ) : (h.analyzed (some stability) now).lastHealthStatus = stability := rfl

lemma timings_analyzed (now : ℕ) :
    (h.analyzed (some stability) now).timings = (h.recordMetrics stability).timings := by
  rw [analyzed]
  dsimp only
  split <;> rfl

lemma timings_recordMetrics_self (he : h.lastHealthStatus = stability) :
    (h.recordMetrics stability).timings = h.timings := by
  rw [recordMetrics, if_pos he]

lemma timings_recordMetrics_of_ne (he : h.lastHealthStatus ≠ stability) : (h.recordMetrics stability).timings =
    (h.timings.stop (timeMetric h.lastHealthStatus)).start (timeMetric stability) := by
  rw [recordMetrics, if_neg he]
  rfl

lemma inv_step (hi : Inv p) (hs : InSession p e) : Inv (watch step observe p e) := by
  cases e with
  | start pingAddress => exact ⟨hi.keeps.start hs _, fun h => by cases h⟩
  | stop => exact ⟨hi.keeps.stop _, fun _ => Held.id_stop⟩
  | analyzed connectivity now =>
    cases connectivity with
    | none => exact { hi with }
    | some stability =>
      simp only [watch, step, observe]
      by_cases he : p.1.lastHealthStatus = stability
      · refine ⟨?_, fun h => ?_⟩
        · rw [lastHealthStatus_analyzed, timings_analyzed, timings_recordMetrics_self he, ← he]
          exact hi.keeps
        · rw [timings_analyzed, timings_recordMetrics_self he]
          exact hi.stopped h
      · refine ⟨?_, fun h => absurd ((hs stability rfl he).symm.trans h) (by decide)⟩
        rw [lastHealthStatus_analyzed, timings_analyzed, timings_recordMetrics_of_ne he]
        exact (hi.keeps.stop (timeMetric p.1.lastHealthStatus)).start Held.id_stop _

lemma inSession_iff (hi : Inv p) : InSession p e ↔ Sound (watch step observe p e) := by
  refine ⟨fun hs => (inv_step hi hs).sound, fun hs => ?_⟩
  cases e with
  | start pingAddress => exact hi.keeps.paired_start_iff.mp hs.paired
  | stop => trivial
  | analyzed connectivity now =>
    rintro stability rfl he
    by_contra hn
    have hc : Closed (p.1.analyzed (some stability) now).timings.log := hs.closed (Bool.eq_true_of_not_eq_false hn)
    rw [timings_analyzed, timings_recordMetrics_of_ne he] at hc
    have hk := (hi.keeps.stop (timeMetric p.1.lastHealthStatus)).start Held.id_stop (timeMetric stability)
    exact absurd (hk.closed_iff.mp hc) (by simp)

lemma inv_new : Inv ({}, false) := ⟨Held.keeps_new, fun h => (by cases h)⟩

/-- On both systems every timing of a run is sound exactly if no timing is open when a session starts, and a check that
finds another stability does so in a session, on Android after one with telemetry has begun. -/
theorem timings_sound_iff (android : List Android.HealthMetrics.Event) (ios : List Event) :
    (Meets (watch Android.HealthMetrics.step Android.HealthMetrics.observe) Android.HealthMetrics.InSession ({}, {})
        android ↔
      ∀ before, before <+: android → Android.HealthMetrics.Sound
        (run (watch Android.HealthMetrics.step Android.HealthMetrics.observe) ({}, {}) before)) ∧
    (Meets (watch step observe) InSession ({}, false) ios ↔
      ∀ before, before <+: ios → Sound (run (watch step observe) ({}, false) before)) :=
  ⟨Android.HealthMetrics.sound_iff_inSession android,
    meets_iff_throughout (fun _ _ h hs => inv_step h hs) (fun _ _ h => inSession_iff h) inv_new inv_new.sound⟩

/-- A result that comes after the stop opens a timing on both systems, and on Android so does one without telemetry. -/
theorem unsound_results :
    ¬Android.HealthMetrics.Sound (run (watch Android.HealthMetrics.step Android.HealthMetrics.observe) ({}, {})
        [.start 31 true, .stop, .recordMetrics .NoSignal]) ∧
      ¬Android.HealthMetrics.Sound (run (watch Android.HealthMetrics.step Android.HealthMetrics.observe) ({}, {})
        [.start 31 false, .recordMetrics .NoSignal]) ∧
      ¬Sound (run (watch step observe) ({}, false)
        [.start "198.51.100.1", .analyzed (some .stable) 0, .stop, .analyzed (some .noSignal) 0]) := by
  refine ⟨fun h => ?_, fun h => ?_, fun h => ?_⟩
  · exact absurd (h.closed rfl) (by decide)
  · exact absurd (h.telemetry rfl) (by decide)
  · exact absurd (h.closed rfl) (by decide)

end ConnectionHealth

end VpnClient.Ios
