import Mathlib.Tactic
import VpnClient.Library.Runs

/-! The conditions of addons that depend on the time, with the single-shot timers that they wait with. Moments are in
milliseconds since the epoch. -/

namespace VpnClient.Addons

def INT_MAX : ℤ := 2 ^ 31 - 1

/-- A cast to 32 bits. -/
def toInt (n : ℤ) : ℤ := (n + 2 ^ 31) % 2 ^ 32 - 2 ^ 31

/-- A product of integers of 32 bits, if it is one. -/
def checkedMul (n m : ℤ) : Option ℤ := if -2 ^ 31 ≤ n * m ∧ n * m ≤ INT_MAX then some (n * m) else none

/-- Whether a number has 64 bits. -/
def Fits64 (n : ℤ) : Prop := -2 ^ 63 ≤ n ∧ n < 2 ^ 63

instance (n : ℤ) : Decidable (Fits64 n) := inferInstanceAs (Decidable (_ ∧ _))

/-- The moment at which a timer is due that is started now; it does not start for a negative interval. -/
def startTimer (msec now : ℤ) : Option ℤ := if msec < 0 then none else some (now + msec)

/-- `timer` is the moment at which the active timer is due, and `changed` what `conditionChanged` was emitted with. -/
structure AddonConditionWatcher where
  timer : Option ℤ := none
  changed : List Bool := []
  deriving DecidableEq

namespace AddonConditionWatcher

def isActive (w : AddonConditionWatcher) : Bool := w.timer.isSome

/-- The slot of the timer, which is not active any more when it is called. -/
def timeout (maybeStartTimer : ℤ → AddonConditionWatcher → Bool × AddonConditionWatcher) (value : Bool) (now : ℤ)
    (w : AddonConditionWatcher) : AddonConditionWatcher :=
  let started := maybeStartTimer now { w with timer := none }
  if started.1 then { started.2 with changed := started.2.changed ++ [value] } else started.2

end AddonConditionWatcher

namespace AddonConditionWatcherTime

/-- `time` is in seconds. -/
def maybeStartTimer (time now : ℤ) (w : AddonConditionWatcher) : Bool × AddonConditionWatcher :=
  let currentTime := now / 1000
  if time ≤ currentTime then (true, w)
  else
    let value := checkedMul (toInt (time - currentTime)) 1000
    (false, { w with timer := startTimer (value.getD INT_MAX) now })

def create (time now : ℤ) : AddonConditionWatcher := (maybeStartTimer time now {}).2

def timeout (time : ℤ) (isStart : Bool) (now : ℤ) (w : AddonConditionWatcher) : AddonConditionWatcher :=
  w.timeout (maybeStartTimer time) isStart now

def conditionApplied (isStart : Bool) (w : AddonConditionWatcher) : Bool := isStart != w.isActive

end AddonConditionWatcherTime

namespace AddonConditionWatcherTriggerTimeSecs

/-- The moment some seconds after another, if it has 64 bits. -/
def addSecs (moment secs : ℤ) : Option ℤ :=
  if Fits64 (secs * 1000) ∧ Fits64 (moment + secs * 1000) then some (moment + secs * 1000) else none

/-- A moment that is not valid is before all others. -/
def maybeStartTimer (installationTime triggerTimeSecs now : ℤ) (w : AddonConditionWatcher) :
    Bool × AddonConditionWatcher :=
  match addSecs installationTime triggerTimeSecs with
  | none => (true, w)
  | some expire =>
    if expire ≤ now then (true, w) else (false, { w with timer := startTimer (toInt (expire - now)) now })

def create (installationTime triggerTimeSecs now : ℤ) : AddonConditionWatcher :=
  (maybeStartTimer installationTime triggerTimeSecs now {}).2

def maybeCreate (installationTime triggerTimeSecs now : ℤ) : Option AddonConditionWatcher :=
  if triggerTimeSecs = 0 then none else some (create installationTime triggerTimeSecs now)

def timeout (installationTime triggerTimeSecs now : ℤ) (w : AddonConditionWatcher) : AddonConditionWatcher :=
  w.timeout (maybeStartTimer installationTime triggerTimeSecs) true now

def conditionApplied (w : AddonConditionWatcher) : Bool := !w.isActive

end AddonConditionWatcherTriggerTimeSecs

end VpnClient.Addons

/-! A condition follows the clock, and changes once, if and only if its timer is never started with a negative
interval. -/

namespace VpnClient.Addons.AddonConditionWatcher

open Library

structure Moment where
  clock : ℤ
  watcher : AddonConditionWatcher

/-- The time goes on, or the timer fires. -/
inductive Event where
  | wait (now : ℤ)
  | timeout (now : ℤ)

def step (fire : ℤ → AddonConditionWatcher → AddonConditionWatcher) (m : Moment) : Event → Moment
  | .wait now => { m with clock := now }
  | .timeout now => { clock := now, watcher := fire now m.watcher }

/-- The clock does not go back, and an active timer fires when it is due or later. -/
def Timely (m : Moment) : Event → Prop
  | .wait now => m.clock ≤ now
  | .timeout now => m.clock ≤ now ∧ ∃ due, m.watcher.timer = some due ∧ due ≤ now

/-- The timer fires when the deadline is reached, or when it can be started again. -/
def Arms (deadline : ℤ) (arms : ℤ → Prop) : Event → Prop
  | .wait _ => True
  | .timeout now => deadline ≤ now ∨ arms now

/-- The deadline is reached and the event of the timer is still to come, at most `slack` after it. -/
def Pending (deadline slack : ℤ) (m : Moment) : Prop :=
  deadline ≤ m.clock ∧ ∃ due, m.watcher.timer = some due ∧ due ≤ deadline + slack

/-- The condition follows the clock, up to the pending event, and it has changed once if the deadline came after the
creation and the timer is done. -/
structure Correct (deadline slack created : ℤ) (value : Bool) (conditionApplied : AddonConditionWatcher → Bool)
    (m : Moment) : Prop where
  applied : ¬ Pending deadline slack m →
    (conditionApplied m.watcher = true ↔ (value = true ↔ deadline ≤ m.clock))
  changed : m.watcher.changed = if created < deadline ∧ m.watcher.timer = none then [value] else []

/-- What a function that may start the timer does about a deadline. -/
structure Spec (start : ℤ → AddonConditionWatcher → Bool × AddonConditionWatcher) (deadline slack : ℤ)
    (arms : ℤ → Prop) : Prop where
  reached : ∀ now w, deadline ≤ now → start now w = (true, w)
  armed : ∀ now w, now < deadline → arms now →
    ∃ due, due ≤ deadline + slack ∧ start now w = (false, { w with timer := some due })
  refused : ∀ now w, now < deadline → ¬ arms now → w.timer = none → (start now w).2.timer = none

section Deadline

variable {start : ℤ → AddonConditionWatcher → Bool × AddonConditionWatcher} {deadline slack created : ℤ}
  {arms : ℤ → Prop} {value : Bool} {m : Moment} {e : Event} {events : List Event}

structure Good (deadline slack created : ℤ) (value : Bool) (m : Moment) : Prop where
  armed : ∀ due, m.watcher.timer = some due → created < deadline ∧ due ≤ deadline + slack
  done : m.watcher.timer = none → deadline ≤ m.clock
  changed : m.watcher.changed = if created < deadline ∧ m.watcher.timer = none then [value] else []

lemma Good.correct (h : Good deadline slack created value m) : Correct deadline slack created value (value != ·.isActive) m := by
  refine ⟨fun hp => ?_, h.changed⟩
  cases ht : m.watcher.timer with
  | none =>
    have hd := h.done ht
    cases value <;> simp [isActive, ht, hd]
  | some due =>
    have hd : ¬ deadline ≤ m.clock := fun hd => hp ⟨hd, due, ht, (h.armed due ht).2⟩
    cases value <;> simp [isActive, ht, hd]

/-- Without a timer before the deadline, the condition is wrong. -/
lemma not_correct (ht : m.watcher.timer = none) (hd : m.clock < deadline) :
    ¬ Correct deadline slack created value (value != ·.isActive) m := by
  intro h
  have hp : ¬ Pending deadline slack m := fun hp => absurd hp.1 (not_le.mpr hd)
  have ha := h.applied hp
  cases value <;> simp [isActive, ht, not_le.mpr hd] at ha

lemma Good.create (hs : Spec start deadline slack arms) (ha : deadline ≤ created ∨ arms created) :
    Good deadline slack created value { clock := created, watcher := (start created {}).2 } := by
  rcases le_or_gt deadline created with hd | hd
  · rw [hs.reached created {} hd]
    exact ⟨fun due h => (by cases h), fun _ => hd, by simp [not_lt.mpr hd]⟩
  · obtain ⟨due, hdue, he⟩ := hs.armed created {} hd (ha.resolve_left (not_le.mpr hd))
    rw [he]
    refine ⟨fun d h => ?_, fun h => (by cases h), by simp⟩
    obtain rfl := Option.some.inj h
    exact ⟨hd, hdue⟩

lemma timeout_reached (hs : Spec start deadline slack arms) {now : ℤ} (hd : deadline ≤ now)
    (w : AddonConditionWatcher) :
    w.timeout start value now = { timer := none, changed := w.changed ++ [value] } := by
  rw [timeout, hs.reached now _ hd]
  rfl

lemma timeout_armed (hs : Spec start deadline slack arms) {now : ℤ} (hd : now < deadline) (ha : arms now)
    (w : AddonConditionWatcher) :
    ∃ due, due ≤ deadline + slack ∧ w.timeout start value now = { w with timer := some due } := by
  obtain ⟨due, hdue, he⟩ := hs.armed now { w with timer := none } hd ha
  refine ⟨due, hdue, ?_⟩
  rw [timeout, he]
  rfl

lemma timeout_refused (hs : Spec start deadline slack arms) {now : ℤ} (hd : now < deadline) (ha : ¬ arms now)
    (w : AddonConditionWatcher) : (w.timeout start value now).timer = none := by
  have hr := hs.refused now { w with timer := none } hd ha rfl
  rw [timeout]
  split_ifs <;> exact hr

lemma Good.step (hs : Spec start deadline slack arms) (h : Good deadline slack created value m) (ht : Timely m e)
    (ha : Arms deadline arms e) :
    Good deadline slack created value (step (fun now w => w.timeout start value now) m e) := by
  cases e with
  | wait now => exact ⟨h.armed, fun hn => (h.done hn).trans ht, h.changed⟩
  | timeout now =>
    obtain ⟨-, due, hdue, -⟩ := ht
    have hc := (h.armed due hdue).1
    have hn : m.watcher.changed = [] := by rw [h.changed, if_neg (by simp [hdue])]
    rw [AddonConditionWatcher.step]
    rcases le_or_gt deadline now with hd | hd
    · rw [timeout_reached hs hd]
      exact ⟨fun due h => (by cases h), fun _ => hd, by simp [hn, hc]⟩
    · obtain ⟨due', hdue', he⟩ : ∃ due, due ≤ deadline + slack ∧
          m.watcher.timeout start value now = { m.watcher with timer := some due } :=
        timeout_armed hs hd (ha.resolve_left (not_le.mpr hd)) m.watcher
      rw [he]
      refine ⟨fun d h => ?_, fun h => (by cases h), by simp [hn]⟩
      obtain rfl := Option.some.inj h
      exact ⟨hc, hdue'⟩

/-- Where the timer could be started so far, the next step is right if and only if it can be started again. -/
lemma arms_iff_correct (hs : Spec start deadline slack arms) (h : Good deadline slack created value m)
    (ht : Timely m e) : Arms deadline arms e ↔
      Correct deadline slack created value (value != ·.isActive) (step (fun now w => w.timeout start value now) m e) := by
  constructor
  · exact fun ha => (h.step hs ht ha).correct
  · intro hc
    cases e with
    | wait now => trivial
    | timeout now =>
      by_contra ha
      obtain ⟨hd, ha⟩ := not_or.mp ha
      exact not_correct (timeout_refused hs (not_le.mp hd) ha m.watcher) (not_le.mp hd) hc

lemma meets_iff_correct (hs : Spec start deadline slack arms)
    (hb : Runs.Meets (step fun now w => w.timeout start value now) Timely
      { clock := created, watcher := (start created {}).2 } events) :
    ((deadline ≤ created ∨ arms created) ∧
      Runs.Meets (step fun now w => w.timeout start value now) (fun _ e => Arms deadline arms e)
        { clock := created, watcher := (start created {}).2 } events) ↔
      ∀ fs, fs <+: events → Correct deadline slack created value (value != ·.isActive)
        (Runs.run (step fun now w => w.timeout start value now)
          { clock := created, watcher := (start created {}).2 } fs) := by
  by_cases ha : deadline ≤ created ∨ arms created
  · have hg : Good deadline slack created value _ := Good.create hs ha
    rw [hb.iff_throughout (fun m e h ht ha => h.step hs ht ha) (fun m e h ht => arms_iff_correct hs h ht) hg hg.correct]
    exact and_iff_right ha
  · obtain ⟨hd, hr⟩ := not_or.mp ha
    apply iff_of_false
    · exact fun h => ha h.1
    · intro h
      exact not_correct (hs.refused created {} (not_le.mp hd) hr rfl) (not_le.mp hd) (h [] List.nil_prefix)

end Deadline

/-- The seconds that are left, cut to 32 bits, do not have a negative number of milliseconds. -/
def ArmsTime (time now : ℤ) : Prop :=
  ¬ (-2147483 ≤ toInt (time - now / 1000) ∧ toInt (time - now / 1000) < 0)

/-- The expiry has 64 bits, and the milliseconds that are left, cut to 32 bits, are not negative. -/
def ArmsTrigger (installationTime triggerTimeSecs now : ℤ) : Prop :=
  (AddonConditionWatcherTriggerTimeSecs.addSecs installationTime triggerTimeSecs).isSome = true ∧
    0 ≤ toInt (installationTime + triggerTimeSecs * 1000 - now)

lemma toInt_le {n : ℤ} (hn : 0 ≤ n) : toInt n ≤ n := by
  rw [toInt]
  omega

lemma le_of_toInt_neg {n : ℤ} (hn : 0 ≤ n) (ht : toInt n < 0) : 2 ^ 31 ≤ n := by
  rw [toInt] at ht
  omega

lemma spec_time (time : ℤ) : Spec (AddonConditionWatcherTime.maybeStartTimer time) (1000 * time) 999 (ArmsTime time) := by
  have hr : ∀ now, time ≤ now / 1000 ↔ 1000 * time ≤ now := by
    intro now
    omega
  constructor
  case reached =>
    intro now w hd
    rw [AddonConditionWatcherTime.maybeStartTimer]
    exact if_pos ((hr now).mpr hd)
  case armed =>
    intro now w hd ha
    have hn : ¬ time ≤ now / 1000 := fun h => absurd ((hr now).mp h) (not_le.mpr hd)
    have hle := toInt_le (n := time - now / 1000) (by omega)
    have hneg := le_of_toInt_neg (n := time - now / 1000) (by omega)
    rw [AddonConditionWatcherTime.maybeStartTimer, if_neg hn]
    rw [ArmsTime] at ha
    generalize toInt (time - now / 1000) = n at ha hle hneg
    rw [checkedMul, INT_MAX]
    split_ifs with hf
    · have h0 : ¬ n * 1000 < 0 := by omega
      refine ⟨now + n * 1000, by omega, ?_⟩
      simp only [Option.getD_some, startTimer, if_neg h0]
    · have h0 : ¬ (2 : ℤ) ^ 31 - 1 < 0 := by norm_num
      refine ⟨now + (2 ^ 31 - 1), by omega, ?_⟩
      simp only [Option.getD_none, startTimer, if_neg h0]
  case refused =>
    intro now w hd ha _
    have hn : ¬ time ≤ now / 1000 := fun h => absurd ((hr now).mp h) (not_le.mpr hd)
    obtain ⟨hl, hu⟩ := not_not.mp ha
    rw [AddonConditionWatcherTime.maybeStartTimer, if_neg hn]
    have hf : checkedMul (toInt (time - now / 1000)) 1000 = some (toInt (time - now / 1000) * 1000) := by
      rw [checkedMul, if_pos]
      rw [INT_MAX]
      omega
    simp only [hf, Option.getD_some, startTimer]
    exact if_pos (by omega)

lemma spec_trigger (installationTime triggerTimeSecs : ℤ) :
    Spec (AddonConditionWatcherTriggerTimeSecs.maybeStartTimer installationTime triggerTimeSecs)
      (installationTime + triggerTimeSecs * 1000) 0 (ArmsTrigger installationTime triggerTimeSecs) := by
  have he : ∀ expire, AddonConditionWatcherTriggerTimeSecs.addSecs installationTime triggerTimeSecs = some expire →
      installationTime + triggerTimeSecs * 1000 = expire := by
    intro expire h
    rw [AddonConditionWatcherTriggerTimeSecs.addSecs] at h
    split_ifs at h
    exact Option.some.inj h
  constructor
  case reached =>
    intro now w hd
    rw [AddonConditionWatcherTriggerTimeSecs.maybeStartTimer]
    split
    · rfl
    · next expire h =>
      rw [he expire h] at hd
      exact if_pos hd
  case armed =>
    intro now w hd ha
    obtain ⟨expire, h⟩ := Option.isSome_iff_exists.mp ha.1
    have hx := he expire h
    have ht := ha.2
    rw [hx] at hd ht ⊢
    refine ⟨now + toInt (expire - now), ?_, ?_⟩
    · have hle := toInt_le (n := expire - now) (by omega)
      omega
    · rw [AddonConditionWatcherTriggerTimeSecs.maybeStartTimer, h]
      simp only [if_neg (not_le.mpr hd), startTimer, if_neg (not_lt.mpr ht)]
  case refused =>
    intro now w hd ha hw
    rw [AddonConditionWatcherTriggerTimeSecs.maybeStartTimer]
    split
    · exact hw
    · next expire h =>
      have hx := he expire h
      have ht : toInt (expire - now) < 0 := by
        by_contra ht
        apply ha
        rw [ArmsTrigger, hx, h]
        exact ⟨rfl, not_lt.mp ht⟩
      rw [hx] at hd
      rw [if_neg (not_le.mpr hd)]
      exact if_pos ht

/-- The start of a run with a condition that has just been created. -/
def ofTime (time created : ℤ) : Moment :=
  { clock := created, watcher := AddonConditionWatcherTime.create time created }

def ofTrigger (installationTime triggerTimeSecs created : ℤ) : Moment :=
  { clock := created
    watcher := AddonConditionWatcherTriggerTimeSecs.create installationTime triggerTimeSecs created }

/-- In every run, each condition follows the clock and changes once if and only if each start of its timer before the
deadline is one with an interval that is not negative. -/
theorem correct_iff_arms (created : ℤ) (events : List Event) :
    (∀ time isStart,
      Runs.Meets (step (AddonConditionWatcherTime.timeout time isStart)) Timely (ofTime time created) events →
      ((1000 * time ≤ created ∨ ArmsTime time created) ∧
        Runs.Meets (step (AddonConditionWatcherTime.timeout time isStart))
          (fun _ e => Arms (1000 * time) (ArmsTime time) e) (ofTime time created) events ↔
        ∀ fs, fs <+: events →
          Correct (1000 * time) 999 created isStart (AddonConditionWatcherTime.conditionApplied isStart)
            (Runs.run (step (AddonConditionWatcherTime.timeout time isStart)) (ofTime time created) fs))) ∧
    ∀ installationTime triggerTimeSecs,
      Runs.Meets (step (AddonConditionWatcherTriggerTimeSecs.timeout installationTime triggerTimeSecs)) Timely
        (ofTrigger installationTime triggerTimeSecs created) events →
      ((installationTime + triggerTimeSecs * 1000 ≤ created ∨ ArmsTrigger installationTime triggerTimeSecs created) ∧
        Runs.Meets (step (AddonConditionWatcherTriggerTimeSecs.timeout installationTime triggerTimeSecs))
          (fun _ e => Arms (installationTime + triggerTimeSecs * 1000) (ArmsTrigger installationTime triggerTimeSecs) e)
          (ofTrigger installationTime triggerTimeSecs created) events ↔
        ∀ fs, fs <+: events →
          Correct (installationTime + triggerTimeSecs * 1000) 0 created true
            AddonConditionWatcherTriggerTimeSecs.conditionApplied
            (Runs.run (step (AddonConditionWatcherTriggerTimeSecs.timeout installationTime triggerTimeSecs))
              (ofTrigger installationTime triggerTimeSecs created) fs)) := by
  constructor
  · intro time isStart hb
    exact meets_iff_correct (spec_time time) hb
  · intro installationTime triggerTimeSecs hb
    have ha : AddonConditionWatcherTriggerTimeSecs.conditionApplied = fun w => true != w.isActive := by
      funext w
      rw [AddonConditionWatcherTriggerTimeSecs.conditionApplied]
      cases w.isActive <;> rfl
    rw [ha]
    exact meets_iff_correct (spec_trigger installationTime triggerTimeSecs) hb

/-- A week after its creation, an end condition of a month is waited for. -/
theorem correct_one_month :
    ((1000 : ℤ) * 2592000 ≤ 0 ∨ ArmsTime 2592000 0) ∧
      Runs.Meets (step (AddonConditionWatcherTime.timeout 2592000 false))
        (fun _ e => Arms (1000 * 2592000) (ArmsTime 2592000) e) (ofTime 2592000 0) [.wait 604800000] ↔
      ∀ fs, fs <+: [.wait 604800000] →
        Correct (1000 * 2592000) 999 0 false (AddonConditionWatcherTime.conditionApplied false)
          (Runs.run (step (AddonConditionWatcherTime.timeout 2592000 false)) (ofTime 2592000 0) fs) :=
  (correct_iff_arms 0 [.wait 604800000]).1 2592000 false ⟨(by decide : (0 : ℤ) ≤ 604800000), trivial⟩

/-- A trigger a month after the installation holds at once. -/
theorem not_correct_one_month :
    ¬ Correct (0 + 2592000 * 1000) 0 0 true AddonConditionWatcherTriggerTimeSecs.conditionApplied
      (ofTrigger 0 2592000 0) := by
  intro h
  have ha := h.applied fun hp => absurd hp.1 (by decide)
  exact absurd (ha.mp (by decide) |>.mp rfl) (by decide)

end VpnClient.Addons.AddonConditionWatcher
