import VpnClient.Android.ActivationReports
import VpnClient.Library.Runs

/-! The pings of the sessions of the Android service: starts and ends alternate as long as every activation finds the
last session ended, and every end its session. -/

namespace VpnClient.Android.BoundService

open Ipc (JsonObject JsonValue)
open JsonConfig
open Library.Runs

inductive Event where
  | activate (data : Read (Option JsonObject)) (permission : Bool) (answers : SystemAnswers)
  | resumeActivate (answers : SystemAnswers)
  | reactivate (answers : SystemAnswers)
  | silentServerSwitch (forceFallBack : Bool) (answers : SystemAnswers)
  | onStartCommand (startOnly : Bool) (answers : SystemAnswers)
  | turnOff
  | clearStorage

def step (libs : Libraries) (s : BoundService) : Event → BoundService
  | .activate data permission answers => (s.activate libs data permission answers).2
  | .resumeActivate answers => (s.resumeActivate libs answers).2
  | .reactivate answers => (s.reactivate libs answers).2
  | .silentServerSwitch forceFallBack answers => (s.reconnect libs forceFallBack none answers).2
  | .onStartCommand startOnly answers => (s.onStartCommand libs startOnly answers).2
  | .turnOff => s.turnOff libs
  | .clearStorage => s.clearConfig

def Event.isTurnOff : Event → Bool
  | .turnOff => true
  | _ => false

/-- The app switches the server with the reason 1, the service for a failed health check. -/
def Event.isServerSwitch (libs : Libraries) : Event → Bool
  | .activate data .. => data.toOption.join.any fun config => optInt libs config "reason" = 1
  | .silentServerSwitch .. => true
  | _ => false

/-- The starts and ends among the pings. -/
def marks (pings : List Ping) : List Bool :=
  pings.filterMap fun ping =>
    match ping with
    | .daemonFlush => none
    | .daemonStart => some true
    | .daemonEnd => some false

/-- Starts and ends alternate, beginning with a start. -/
def Alternates (pings : List Ping) : Prop := List.IsChain (· ≠ ·) (false :: marks pings)

def inSession (pings : List Ping) : Bool := (marks pings).getLastD false

/-- What the last event was, and what it has sent if it was a server switch. -/
structure Last where
  turnOff : Bool := false
  switchPings : List Ping := []

def observe (libs : Libraries) (s : BoundService) (event : Event) (_ : Last) : Last where
  turnOff := event.isTurnOff
  switchPings := if event.isServerSwitch libs then (s.step libs event).pings.drop s.pings.length else []

/-- Starts and ends alternate, a server switch sends nothing, and no session is left when the tunnel is turned off. -/
structure Sound (p : BoundService × Last) : Prop where
  alternates : Alternates p.1.pings
  switchPings : p.2.switchPings = []
  ended : p.2.turnOff = true → inSession p.1.pings = false

/-- A call of `turnOn`. -/
structure Call where
  config : JsonObject
  useFallbackServer : Bool
  isDaemonChangingServers : Bool
  answers : SystemAnswers

/-- The call that an event makes. -/
def call (s : BoundService) : Event → Option Call
  | .activate data permission answers =>
    if permission then data.toOption.join.map (⟨·, false, false, answers⟩) else none
  | .resumeActivate answers => s.mResumeConfig.map (⟨·, false, false, answers⟩)
  | .reactivate answers => s.storedConfig.map (⟨·, false, false, answers⟩)
  | .silentServerSwitch forceFallBack answers => s.storedConfig.map (⟨·, forceFallBack, true, answers⟩)
  | .onStartCommand startOnly answers =>
    if s.isUp || startOnly then none else s.storedConfig.map (⟨·, false, false, answers⟩)
  | .turnOff => none
  | .clearStorage => none

def Handled.completed : Handled := ⟨fun _ => False, False, False⟩

instance : DecidablePred Handled.completed.threw := fun _ => .isFalse id

instance : Decidable Handled.completed.onboarded := .isFalse id

instance : Decidable Handled.completed.interrupted := .isFalse id

variable (libs : Libraries)

/-- The call succeeds with a config that starts a session. -/
def Call.Starts (currentServerConfig : ℕ) (c : Call) : Prop :=
  RecordsStart libs c.config c.isDaemonChangingServers ∧
    TurnsOn libs .completed c.config c.useFallbackServer c.isDaemonChangingServers c.answers currentServerConfig

instance {currentServerConfig : ℕ} : DecidablePred (Call.Starts libs currentServerConfig) :=
  fun _ => inferInstanceAs (Decidable (_ ∧ _))

/-- A session starts only when none is open, and the tunnel is turned off with the config of a session exactly if one
is. -/
def InStep (s : BoundService) (event : Event) : Prop :=
  (∀ c ∈ s.call event, c.Starts libs s.currentServerConfig → inSession s.pings = false) ∧
    (event.isTurnOff = true → s.shouldRecordTimerAndEndMetrics libs = inSession s.pings)

instance {s : BoundService} {event : Event} : Decidable (s.InStep libs event) := inferInstanceAs (Decidable (_ ∧ _))

def Call.pings (currentServerConfig : ℕ) (c : Call) : List Ping :=
  if c.Starts libs currentServerConfig then [.daemonFlush, .daemonStart] else []

/-- What a step sends. -/
def sent (s : BoundService) (event : Event) : List Ping :=
  (s.call event).elim
    (if event.isTurnOff && s.shouldRecordTimerAndEndMetrics libs then [.daemonEnd] else [])
    (Call.pings libs s.currentServerConfig)

variable {libs} {s : BoundService} {event : Event} {last : Last} {c : Call} {pings more : List Ping}

lemma isChain_cons_append {A : Type} {R : A → A → Prop} {a : A} {l m : List A} :
    List.IsChain R (a :: (l ++ m)) ↔ List.IsChain R (a :: l) ∧ List.IsChain R (l.getLastD a :: m) := by
  induction l generalizing a with
  | nil => simp
  | cons b l ih =>
    rw [List.cons_append, List.isChain_cons_cons, ih, List.isChain_cons_cons, List.getLastD_cons, and_assoc]

lemma alternates_append :
    Alternates (pings ++ more) ↔ Alternates pings ∧ List.IsChain (· ≠ ·) (inSession pings :: marks more) := by
  rw [Alternates, marks, List.filterMap_append]
  exact isChain_cons_append

lemma alternates_start : Alternates (pings ++ [.daemonFlush, .daemonStart]) ↔
    Alternates pings ∧ inSession pings = false := by
  rw [alternates_append]
  simp [marks]

lemma alternates_end : Alternates (pings ++ [.daemonEnd]) ↔ Alternates pings ∧ inSession pings = true := by
  rw [alternates_append]
  simp [marks]

lemma inSession_end : inSession (pings ++ [.daemonEnd]) = false := by
  simp [inSession, marks]

lemma Ending.good_completed {ending : Ending} {start : List Ping} (h : ¬ending.Good .completed) :
    ending.sends start = [] := by
  cases ending with
  | connected => exact absurd trivial h
  | _ => rfl

lemma Ending.sends_of_good {ending : Ending} {start : List Ping} (h : ending.Good .completed) :
    ending.sends start = start := by
  cases ending with
  | connected => rfl
  | _ => exact absurd h id

lemma turnOn_pings : (s.turnOn libs c.config c.useFallbackServer c.isDaemonChangingServers c.answers).2.pings =
    s.pings ++ c.pings libs s.currentServerConfig := by
  obtain ⟨ending, -, hp, hg⟩ := turnOn_ends libs s c.config c.answers c.useFallbackServer c.isDaemonChangingServers
  have hs : c.Starts libs s.currentServerConfig ↔
      RecordsStart libs c.config c.isDaemonChangingServers ∧ ending.Good .completed := and_congr_right' (hg _).symm
  rw [hp, Call.pings]
  by_cases ht : ending.Good .completed
  · rw [Ending.sends_of_good ht, startPings]
    simp only [hs, ht, and_true]
  · rw [Ending.good_completed ht, if_neg fun h => ht (hs.mp h).2]

lemma reportException_pings {called : Result × BoundService} : (reportException called).2.pings = called.2.pings := by
  rw [reportException]
  split <;> rfl

lemma reconnect_pings {forceFallBack : Bool} {source : Option String} {answers : SystemAnswers} :
    (s.reconnect libs forceFallBack source answers).2.pings =
      s.pings ++ (s.storedConfig.map (⟨·, forceFallBack, source.isNone, answers⟩)).elim []
        (Call.pings libs s.currentServerConfig) := by
  rw [reconnect]
  cases s.storedConfig with
  | none => exact (List.append_nil _).symm
  | some config =>
    trans (s.turnOn libs config forceFallBack source.isNone answers).2.pings
    · dsimp only
      split
      · rfl
      · split <;> rfl
    · exact turnOn_pings (c := ⟨config, forceFallBack, source.isNone, answers⟩)

lemma onStartCommand_pings {startOnly : Bool} {answers : SystemAnswers} :
    (s.onStartCommand libs startOnly answers).2.pings = s.pings ++ sent libs s (.onStartCommand startOnly answers) := by
  rw [onStartCommand, sent, call]
  cases s.isUp with
  | true => exact (List.append_nil _).symm
  | false =>
    cases startOnly with
    | true => exact (List.append_nil _).symm
    | false =>
      cases s.storedConfig with
      | none => exact (List.append_nil _).symm
      | some config =>
        trans (({ s with mConfig := some config } : BoundService).turnOn libs config false false answers).2.pings
        · dsimp only [Bool.false_eq_true]
          rw [if_neg (by simp), if_neg (by simp)]
          split <;> rfl
        · exact turnOn_pings (s := { s with mConfig := some config }) (c := ⟨config, false, false, answers⟩)

lemma shouldRecord_congr {t : BoundService} (h : t.mConfig = s.mConfig) :
    t.shouldRecordTimerAndEndMetrics libs = s.shouldRecordTimerAndEndMetrics libs := by
  rw [shouldRecordTimerAndEndMetrics, isSuperDooperMetricsActive, isAppChangingServers, h]
  rfl

lemma turnOff_pings : (s.turnOff libs).pings = s.pings ++ sent libs s .turnOff := by
  rw [turnOff]
  generalize hd : (s.wgTurnOff s.currentTunnelHandle).setCurrentTunnelHandle 0 (-1) = down
  have ht : down.mConfig = s.mConfig ∧ down.pings = s.pings := by
    rw [← hd, setCurrentTunnelHandle, if_neg (by decide), wgTurnOff]
    split <;> exact ⟨rfl, rfl⟩
  rw [shouldRecord_congr (t := { down with mConnectionHealth := down.mConnectionHealth.stop }) ht.1, sent, call,
    ← ht.2]
  cases s.shouldRecordTimerAndEndMetrics libs with
  | true => rfl
  | false => exact (List.append_nil _).symm

lemma step_pings : (s.step libs event).pings = s.pings ++ sent libs s event := by
  cases event with
  | activate data permission answers =>
    apply reportException_pings.trans
    cases data with
    | error message => cases permission <;> exact (List.append_nil _).symm
    | ok data =>
      cases data with
      | none => cases permission <;> exact (List.append_nil _).symm
      | some config =>
        cases permission with
        | false => exact (List.append_nil _).symm
        | true => exact turnOn_pings (c := ⟨config, false, false, answers⟩)
  | resumeActivate answers =>
    apply reportException_pings.trans
    rw [sent, call]
    cases s.mResumeConfig with
    | none => exact (List.append_nil _).symm
    | some config => exact turnOn_pings (c := ⟨config, false, false, answers⟩)
  | reactivate answers => exact reportException_pings.trans reconnect_pings
  | silentServerSwitch forceFallBack answers => exact reconnect_pings
  | onStartCommand startOnly answers => exact onStartCommand_pings
  | turnOff => exact turnOff_pings
  | clearStorage => exact (List.append_nil _).symm

lemma not_starts_of_isServerSwitch (he : event.isServerSwitch libs = true) (hc : s.call event = some c) :
    ¬c.Starts libs s.currentServerConfig := by
  rintro ⟨hr, -⟩
  cases event with
  | activate data permission answers =>
    cases data with
    | error message => cases he
    | ok data =>
      cases data with
      | none => cases he
      | some config =>
        cases permission with
        | false => cases hc
        | true =>
          cases hc
          replace he : decide (optInt libs config "reason" = 1) = true := he
          simp [RecordsStart, he] at hr
  | silentServerSwitch forceFallBack answers =>
    obtain ⟨config, -, rfl⟩ := Option.map_eq_some_iff.mp hc
    simp [RecordsStart] at hr
  | _ => cases he

lemma not_isTurnOff_of_call (hc : s.call event = some c) : event.isTurnOff = false := by
  cases event with
  | turnOff => cases hc
  | _ => rfl

lemma sent_of_isServerSwitch (he : event.isServerSwitch libs = true) : sent libs s event = [] := by
  cases hc : s.call event with
  | none =>
    have ht : event.isTurnOff = false := by
      cases event with
      | turnOff => cases he
      | _ => rfl
    rw [sent, hc, ht]
    rfl
  | some c =>
    rw [sent, hc]
    exact if_neg (not_starts_of_isServerSwitch he hc)

variable (last) in
lemma switchPings_observe : (s.observe libs event last).switchPings = [] := by
  rw [observe]
  split
  next h => rw [step_pings, List.drop_left, sent_of_isServerSwitch h]
  next => rfl

lemma inStep_iff (ha : Alternates s.pings) :
    InStep libs s event ↔ Sound (watch (step libs) (observe libs) (s, last) event) := by
  have hs : Sound (watch (step libs) (observe libs) (s, last) event) ↔
      Alternates (s.pings ++ sent libs s event) ∧
        (event.isTurnOff = true → inSession (s.pings ++ sent libs s event) = false) := by
    rw [← step_pings]
    exact ⟨fun h => ⟨h.alternates, h.ended⟩, fun h => ⟨h.1, switchPings_observe last, h.2⟩⟩
  rw [hs, InStep, sent]
  cases hc : s.call event with
  | some c =>
    simp only [not_isTurnOff_of_call hc, Option.mem_some_iff, forall_eq', Bool.false_eq_true, false_imp_iff, and_true]
    rw [Option.elim_some, Call.pings]
    by_cases hr : c.Starts libs s.currentServerConfig
    · rw [if_pos hr, alternates_start, and_iff_right ha]
      exact forall_prop_of_true hr
    · rw [if_neg hr, List.append_nil]
      exact iff_of_true (fun h => absurd h hr) ha
  | none =>
    rw [Option.elim_none]
    cases ht : event.isTurnOff with
    | false => simp [ha]
    | true =>
      cases s.shouldRecordTimerAndEndMetrics libs with
      | true =>
        simp only [Bool.and_self, if_true, alternates_end, inSession_end, ha, true_and, true_imp_iff, and_true]
        exact (and_iff_right fun c h => by cases h).trans eq_comm
      | false =>
        simp only [Bool.and_false, Bool.false_eq_true, if_false, List.append_nil, ha, true_and, true_imp_iff]
        exact (and_iff_right fun c h => by cases h).trans eq_comm

/-- The pings are sound throughout a run exactly if every step of it is in step with the sessions. -/
theorem sound_iff_sessionsInStep (s : BoundService) (hp : s.pings = []) (events : List Event) :
    (∀ before, before <+: events → Sound (run (watch (step libs) (observe libs)) (s, {}) before)) ↔
      Meets (step libs) (InStep libs) s events := by
  have ha : Alternates s.pings := by
    rw [hp]
    exact List.isChain_singleton _
  rw [← meets_watch (observe libs) {}]
  symm
  refine meets_iff_throughout (P := fun p => Alternates p.1.pings) ?_ (fun _ _ h => inStep_iff h) ha ⟨ha, rfl, ?_⟩
  · exact fun p event h hi => ((inStep_iff h).mp hi).alternates
  · exact fun h => by cases h

theorem sound_plain_session :
    Sound (run (watch (step plainLibraries) (observe plainLibraries)) ({}, {})
      [.activate (.ok (some (plainConfig 0))) true plainAnswers, .silentServerSwitch false plainAnswers, .turnOff]) :=
  (sound_iff_sessionsInStep {} rfl _).mpr (by decide +kernel) _ (List.prefix_refl _)

/-- The end of a session is lost after a switch of the app, and a second end is sent without a session. -/
theorem unsound_sessions :
    (∀ reason, optBoolean plainLibraries (plainConfig reason) "isSuperDooperFeatureActive" false = true) ∧
      ¬Sound (run (watch (step plainLibraries) (observe plainLibraries)) ({}, {})
        [.activate (.ok (some (plainConfig 0))) true plainAnswers,
          .activate (.ok (some (plainConfig 1))) true plainAnswers, .turnOff]) ∧
      ¬Sound (run (watch (step plainLibraries) (observe plainLibraries)) ({}, {})
        [.activate (.ok (some (plainConfig 0))) true plainAnswers, .turnOff, .turnOff]) := by
  refine ⟨fun reason => rfl, fun h => ?_, fun h => ?_⟩
  · exact absurd (h.ended rfl) (by decide +kernel)
  · exact absurd h.alternates (by unfold Alternates; decide +kernel)

end VpnClient.Android.BoundService
