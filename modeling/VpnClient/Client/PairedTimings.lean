import VpnClient.Client.Controller
import VpnClient.Library.Timings
import Mathlib.Tactic
import VpnClient.Library.Runs

/-! The metrics of the connection's stability: what is counted and which time is measured. -/

namespace VpnClient.Client

open Library.Timings

inductive ConnectionStability where
  | Stable
  | Unstable
  | NoSignal
  deriving DecidableEq, Repr

inductive TimingDistribution where
  | stable_time
  | unstable_time
  | no_signal_time
  deriving DecidableEq, Repr

inductive Counter where
  | stable_count
  | unstable_count
  | no_signal_count
  deriving DecidableEq, Repr

inductive EventMetric where
  | changed_to_stable
  | changed_to_unstable
  | changed_to_no_signal
  deriving DecidableEq, Repr

/-- The calls that the telemetry library has received, the last first. It gives each timing an id of its own. -/
structure Glean where
  timings : List (Timing TimingDistribution ℤ) := []
  counts : List Counter := []
  events : List EventMetric := []
  nextId : ℕ := 0
  deriving DecidableEq, Repr

namespace Glean

def start (metric : TimingDistribution) (g : Glean) : ℤ × Glean :=
  (g.nextId, { g with timings := .start metric g.nextId :: g.timings, nextId := g.nextId + 1 })

def stopAndAccumulate (metric : TimingDistribution) (id : ℤ) (g : Glean) : Glean :=
  { g with timings := .stop metric id :: g.timings }

def add (counter : Counter) (g : Glean) : Glean := { g with counts := counter :: g.counts }

def record (event : EventMetric) (g : Glean) : Glean := { g with events := event :: g.events }

end Glean

/-- The part of the connection health that measures the stability, with the calls of `setStability` that wait for the
silent switch to return. -/
structure StabilityMetrics where
  stability : ConnectionStability := .Stable
  stabilityOverwritten : Bool := false
  metricsTimerId : ℤ := -1
  switching : List ConnectionStability := []
  glean : Glean := {}
  deriving DecidableEq, Repr

namespace StabilityMetrics

/-- The metric that times a stability. -/
def timeMetric : ConnectionStability → TimingDistribution
  | .Unstable => .unstable_time
  | .NoSignal => .no_signal_time
  | .Stable => .stable_time

def countMetric : ConnectionStability → Counter
  | .Unstable => .unstable_count
  | .NoSignal => .no_signal_count
  | .Stable => .stable_count

def changedMetric : ConnectionStability → EventMetric
  | .Unstable => .changed_to_unstable
  | .NoSignal => .changed_to_no_signal
  | .Stable => .changed_to_stable

def startTimingDistributionMetric (stability : ConnectionStability) (m : StabilityMetrics) : StabilityMetrics :=
  let (metricsTimerId, glean) := m.glean.start (timeMetric stability)
  { m with metricsTimerId, glean }

def stopTimingDistributionMetric (stability : ConnectionStability) (m : StabilityMetrics) : StabilityMetrics :=
  if m.metricsTimerId = -1 then m
  else { m with glean := m.glean.stopAndAccumulate (timeMetric stability) m.metricsTimerId }

def recordMetrics (oldStability newStability : ConnectionStability) (m : StabilityMetrics) : StabilityMetrics :=
  let m := { m with glean := m.glean.add (countMetric newStability) }
  if oldStability = newStability then m
  else
    let m := (m.stopTimingDistributionMetric oldStability).startTimingDistributionMetric newStability
    { m with glean := m.glean.record (changedMetric newStability) }

def stop (m : StabilityMetrics) : StabilityMetrics := m.stopTimingDistributionMetric m.stability

def startIdle (m : StabilityMetrics) : StabilityMetrics := m.stopTimingDistributionMetric m.stability

/-- There is a connection to watch. -/
def starts (serverIpv4Gateway : String) (state : State) : Bool :=
  !(serverIpv4Gateway = "" ∨ state ≠ .StateOn ∧ state ≠ .StateOnPartial)

def startActive (serverIpv4Gateway : String) (state : State) (m : StabilityMetrics) : StabilityMetrics :=
  if starts serverIpv4Gateway state then m.startTimingDistributionMetric m.stability else m

/-- The states of the controller in which the stability is recorded. -/
def recorded (state : State) : Bool :=
  state = .StateOn ∨ state = .StateSwitching ∨ state = .StateSilentSwitching ∨ state = .StateOnPartial

/-- The end of `setStability`. -/
def assignStability (stability : ConnectionStability) (m : StabilityMetrics) : StabilityMetrics :=
  if m.stability = stability then m else { m with stability }

/-- As far as the silent switch, which can call back, or to the end if there is none. -/
def setStability (stability : ConnectionStability) (state : State) (m : StabilityMetrics) : StabilityMetrics :=
  if m.stabilityOverwritten then m
  else
    let m := if recorded state then m.recordMetrics m.stability stability else m
    if state ≠ .StateOnPartial ∧ stability = .Unstable then { m with switching := stability :: m.switching }
    else m.assignStability stability

/-- The silent switch returns to the call that waits for it. -/
def silentSwitched (m : StabilityMetrics) : StabilityMetrics :=
  match m.switching with
  | [] => m
  | stability :: switching => { m with switching }.assignStability stability

def overwriteStabilityForInspector (stability : ConnectionStability) (m : StabilityMetrics) : StabilityMetrics :=
  { m with stabilityOverwritten := true, stability }

inductive Event where
  | stop
  | startActive (serverIpv4Gateway : String) (state : State)
  | startIdle
  | setStability (stability : ConnectionStability) (state : State)
  | silentSwitched
  | overwriteStabilityForInspector (stability : ConnectionStability)

def step (m : StabilityMetrics) : Event → StabilityMetrics
  | .stop => m.stop
  | .startActive serverIpv4Gateway state => m.startActive serverIpv4Gateway state
  | .startIdle => m.startIdle
  | .setStability stability state => m.setStability stability state
  | .silentSwitched => m.silentSwitched
  | .overwriteStabilityForInspector stability => m.overwriteStabilityForInspector stability

end StabilityMetrics

end VpnClient.Client

/-! The times of the stability: each timing is stopped once and on its own metric as long as the stability that is
stopped is the one that was started. -/

namespace VpnClient.Client

open Library.Runs Library.Timings

/-- What the calls have made of the timing: the stability that it was started for, until a stop. -/
inductive Timer where
  | never
  | running (stability : ConnectionStability)
  | stopped
  deriving DecidableEq, Repr

namespace Timer

def halt : Timer → Timer
  | .never => .never
  | .running _ => .stopped
  | .stopped => .stopped

/-- A stop for the stability finds its own timing, or none yet. -/
def Stops (stability : ConnectionStability) : Timer → Prop
  | .never => True
  | .running since => since = stability
  | .stopped => False

def Starts : Timer → Prop
  | .running _ => False
  | _ => True

instance (stability : ConnectionStability) : (t : Timer) → Decidable (t.Stops stability)
  | .never => isTrue trivial
  | .running since => inferInstanceAs (Decidable (since = stability))
  | .stopped => isFalse id

instance : (t : Timer) → Decidable t.Starts
  | .never => isTrue trivial
  | .running _ => isFalse id
  | .stopped => isTrue trivial

lemma starts_halt (t : Timer) : t.halt.Starts := by
  cases t <;> trivial

end Timer

namespace StabilityMetrics

variable {m : StabilityMetrics} {t : Timer} {stability : ConnectionStability} {state : State}

/-- The change of the stability is recorded. -/
def Records (stability : ConnectionStability) (state : State) (m : StabilityMetrics) : Prop :=
  m.stabilityOverwritten = false ∧ recorded state = true ∧ m.stability ≠ stability

instance : Decidable (m.Records stability state) := inferInstanceAs (Decidable (_ ∧ _))

def observe (m : StabilityMetrics) (event : Event) (t : Timer) : Timer :=
  match event with
  | .stop => t.halt
  | .startIdle => t.halt
  | .startActive serverIpv4Gateway state => if starts serverIpv4Gateway state then .running m.stability else t
  | .setStability stability state => if m.Records stability state then .running stability else t
  | .silentSwitched => t
  | .overwriteStabilityForInspector _ => t

/-- What is stopped was started for the present stability and not stopped since, and nothing runs when a timing is
started. -/
def Timed (p : StabilityMetrics × Timer) : Event → Prop
  | .stop => p.2.Stops p.1.stability
  | .startIdle => p.2.Stops p.1.stability
  | .startActive serverIpv4Gateway state => starts serverIpv4Gateway state = true → p.2.Starts
  | .setStability stability state => p.1.Records stability state → p.2.Stops p.1.stability
  | .silentSwitched => True
  | .overwriteStabilityForInspector _ => True

instance (p : StabilityMetrics × Timer) : (event : Event) → Decidable (Timed p event)
  | .stop => inferInstanceAs (Decidable (p.2.Stops _))
  | .startIdle => inferInstanceAs (Decidable (p.2.Stops _))
  | .startActive serverIpv4Gateway state => inferInstanceAs (Decidable (starts serverIpv4Gateway state = true → _))
  | .setStability _ _ => inferInstanceAs (Decidable (_ → p.2.Stops _))
  | .silentSwitched => isTrue trivial
  | .overwriteStabilityForInspector _ => isTrue trivial

/-- The timing that the member holds is the one of the timer. -/
def Holds (timings : List (Timing TimingDistribution ℤ)) (id : ℤ) : Timer → Prop
  | .never => id = -1 ∧ timings = []
  | .running stability => Open (timeMetric stability) id timings
  | .stopped => id ∈ stopped timings ∧ Closed timings

structure Inv (p : StabilityMetrics × Timer) : Prop where
  paired : Paired p.1.glean.timings
  fresh : ∀ id ∈ started p.1.glean.timings, 0 ≤ id ∧ id < p.1.glean.nextId
  stops : ∀ id ∈ stopped p.1.glean.timings, id ∈ started p.1.glean.timings
  holds : Holds p.1.glean.timings p.1.metricsTimerId p.2

/-- The part of the state that a timing is about. -/
def timing (m : StabilityMetrics) : ℤ × List (Timing TimingDistribution ℤ) × ℕ :=
  (m.metricsTimerId, m.glean.timings, m.glean.nextId)

lemma Inv.congr {m' : StabilityMetrics} (h : Inv (m, t)) (he : m'.timing = m.timing) : Inv (m', t) := by
  simp only [timing, Prod.mk.injEq] at he
  obtain ⟨hi, ht, hn⟩ := he
  exact ⟨ht ▸ h.paired, ht ▸ hn ▸ h.fresh, ht ▸ h.stops, ht ▸ hi ▸ h.holds⟩

lemma timeMetric_injective : Function.Injective timeMetric := by
  intro a b h
  cases a <;> cases b <;> first | rfl | cases h

lemma Inv.ne_neg_one (h : Inv (m, t)) (ht : t ≠ .never) : m.metricsTimerId ≠ -1 := by
  have hs : m.metricsTimerId ∈ started m.glean.timings := by
    cases t with
    | never => exact absurd rfl ht
    | running stability => exact mem_started h.holds.start
    | stopped => exact h.stops _ h.holds.1
  have := (h.fresh _ hs).1
  intro he
  rw [he] at this
  exact absurd this (by decide)

lemma stopTimingDistributionMetric_of_ne (h : m.metricsTimerId ≠ -1) :
    m.stopTimingDistributionMetric stability =
      { m with glean := m.glean.stopAndAccumulate (timeMetric stability) m.metricsTimerId } := if_neg h

lemma Inv.paired_stop_iff (h : Inv (m, t)) :
    Paired (m.stopTimingDistributionMetric stability).glean.timings ↔ t.Stops stability := by
  cases t with
  | never =>
    rw [stopTimingDistributionMetric, if_pos h.holds.1]
    exact iff_of_true h.paired trivial
  | running since =>
    rw [stopTimingDistributionMetric_of_ne (h.ne_neg_one (by simp))]
    exact (h.holds.paired_stop_iff h.paired).trans (timeMetric_injective.eq_iff.trans eq_comm)
  | stopped =>
    rw [stopTimingDistributionMetric_of_ne (h.ne_neg_one (by simp))]
    exact iff_of_false (fun hp => hp.2.1 h.holds.1) id

lemma Inv.stop (h : Inv (m, t)) (hs : t.Stops stability) :
    Inv (m.stopTimingDistributionMetric stability, t.halt) := by
  have hp := h.paired_stop_iff.mpr hs
  cases t with
  | never =>
    rw [stopTimingDistributionMetric, if_pos h.holds.1]
    exact h
  | running since =>
    rw [stopTimingDistributionMetric_of_ne (h.ne_neg_one (by simp))] at hp ⊢
    have hm : m.metricsTimerId ∈ started m.glean.timings := mem_started h.holds.start
    exact ⟨hp, h.fresh, List.forall_mem_cons.mpr ⟨hm, h.stops⟩, .head _, h.holds.stop _⟩
  | stopped => exact absurd hs id

lemma Inv.paired_start_iff (h : Inv (m, t)) :
    Paired (m.startTimingDistributionMetric stability).glean.timings ↔ t.Starts := by
  apply (and_iff_left h.paired).trans
  cases t with
  | never => exact iff_of_true (h.holds.2 ▸ fun _ hi => nomatch hi) trivial
  | running since => exact iff_of_false h.holds.not_closed id
  | stopped => exact iff_of_true h.holds.2 trivial

lemma Inv.start (h : Inv (m, t)) (hs : t.Starts) :
    Inv (m.startTimingDistributionMetric stability, .running stability) := by
  have hp : Paired (m.startTimingDistributionMetric stability).glean.timings := h.paired_start_iff.mpr hs
  have hc : Closed m.glean.timings := hp.1
  have hn : (m.glean.nextId : ℤ) ∉ started m.glean.timings := fun hi => lt_irrefl _ (h.fresh _ hi).2
  refine ⟨hp, ?_, fun id hi => .tail _ (h.stops id hi), hc.start hn fun hi => hn (h.stops _ hi)⟩
  refine List.forall_mem_cons.mpr ⟨⟨Int.natCast_nonneg _, Int.lt_succ _⟩, fun id hi => ?_⟩
  exact ⟨(h.fresh id hi).1, (h.fresh id hi).2.trans (Int.lt_succ _)⟩

lemma recordMetrics_self : (m.recordMetrics stability stability).timing = m.timing := by
  rw [recordMetrics, if_pos rfl]
  rfl

lemma timing_recordMetrics (h : m.stability ≠ stability) : (m.recordMetrics m.stability stability).timing =
    ((m.stopTimingDistributionMetric m.stability).startTimingDistributionMetric stability).timing := by
  rw [recordMetrics, if_neg h]
  unfold stopTimingDistributionMetric
  split <;> rfl

lemma timing_assignStability : (m.assignStability stability).timing = m.timing := by
  rw [assignStability]
  split <;> rfl

lemma timing_silentSwitched : m.silentSwitched.timing = m.timing := by
  rw [silentSwitched]
  split
  · rfl
  · exact timing_assignStability

lemma timing_setStability : (m.setStability stability state).timing =
    if m.Records stability state then
      ((m.stopTimingDistributionMetric m.stability).startTimingDistributionMetric stability).timing
    else m.timing := by
  rw [setStability]
  cases ho : m.stabilityOverwritten with
  | true =>
    rw [if_pos rfl, if_neg (fun hr => absurd (ho.symm.trans hr.1) (by decide))]
  | false =>
    rw [if_neg (by decide)]
    trans (if recorded state then m.recordMetrics m.stability stability else m).timing
    · dsimp only
      split
      · rfl
      · exact timing_assignStability
    · by_cases hr : recorded state = true
      · by_cases hs : m.stability = stability
        · rw [if_pos hr, if_neg (fun h => h.2.2 hs), hs, recordMetrics_self]
        · rw [if_pos hr, if_pos ⟨ho, hr, hs⟩, timing_recordMetrics hs]
      · rw [if_neg hr, if_neg (fun h => hr h.2.1)]

lemma paired_congr {m' : StabilityMetrics} (he : m'.timing = m.timing) :
    Paired m'.glean.timings ↔ Paired m.glean.timings := by
  rw [show m'.glean.timings = m.glean.timings from congrArg (·.2.1) he]

lemma Inv.step {event : Event} (h : Inv (m, t)) (ht : Timed (m, t) event) :
    Inv (m.step event, m.observe event t) := by
  cases event with
  | stop => exact h.stop ht
  | startIdle => exact h.stop ht
  | startActive gateway state =>
    cases hs : starts gateway state with
    | true =>
      simp only [StabilityMetrics.step, startActive, observe, hs, if_true]
      exact h.start (ht hs)
    | false =>
      simpa only [StabilityMetrics.step, startActive, observe, hs, Bool.false_eq_true, if_false] using h
  | setStability stability state =>
    by_cases hr : m.Records stability state
    · have hi := ((h.stop (ht hr)).start t.starts_halt).congr (timing_setStability.trans (if_pos hr))
      rw [observe, if_pos hr]
      exact hi
    · rw [observe, if_neg hr]
      exact h.congr (timing_setStability.trans (if_neg hr))
  | silentSwitched => exact h.congr timing_silentSwitched
  | overwriteStabilityForInspector stability => exact h.congr rfl

lemma Inv.timed_iff {event : Event} (h : Inv (m, t)) :
    Timed (m, t) event ↔ Paired (m.step event).glean.timings := by
  cases event with
  | stop => exact h.paired_stop_iff.symm
  | startIdle => exact h.paired_stop_iff.symm
  | startActive gateway state =>
    cases hs : starts gateway state with
    | true =>
      simp only [Timed, StabilityMetrics.step, startActive, hs, if_true, true_imp_iff]
      exact h.paired_start_iff.symm
    | false =>
      simpa [Timed, StabilityMetrics.step, startActive, hs] using h.paired
  | setStability stability state =>
    by_cases hr : m.Records stability state
    · have he : (m.step (.setStability stability state)).timing = _ := timing_setStability.trans (if_pos hr)
      rw [paired_congr he]
      exact ⟨fun ht => (h.stop (ht hr)).paired_start_iff.mpr t.starts_halt,
        fun hp _ => h.paired_stop_iff.mp (Paired.tail hp)⟩
    · have he : (m.step (.setStability stability state)).timing = _ := timing_setStability.trans (if_neg hr)
      exact iff_of_true (fun hn => absurd hn hr) ((paired_congr he).mpr h.paired)
  | silentSwitched => exact iff_of_true trivial ((paired_congr timing_silentSwitched).mpr h.paired)
  | overwriteStabilityForInspector stability => exact iff_of_true trivial h.paired

lemma inv_new : Inv ({}, .never) := ⟨trivial, by simp [started], by simp [stopped], rfl, rfl⟩

/-- Starts and stops are paired throughout a run exactly if each stop comes for the stability that the last start was
for, with no stop in between, and no start comes before the stop. -/
theorem paired_iff_timed (events : List Event) :
    Meets (watch step observe) Timed ({}, .never) events ↔
      ∀ past, past <+: events → Paired (run step {} past).glean.timings := by
  have hq : Meets (watch step observe) Timed ({}, .never) events ↔
      ∀ past, past <+: events → Paired (run (watch step observe) ({}, .never) past).1.glean.timings :=
    meets_iff_throughout (P := Inv) (Q := fun p => Paired p.1.glean.timings) (fun _ _ h => h.step)
      (fun _ _ h => h.timed_iff) inv_new inv_new.paired
  simpa only [run_watch] using hq

/-- The silent switch that an unstable connection causes stops the timing of the new stability as one of the old. -/
theorem unpaired_silent_switch :
    ¬Paired (run step {}
      [.startActive "10.64.0.1" .StateOn, .setStability .Unstable .StateOn, .stop, .silentSwitched]).glean.timings := by
  decide

end StabilityMetrics

end VpnClient.Client
