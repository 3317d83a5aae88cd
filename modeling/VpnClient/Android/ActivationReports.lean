import VpnClient.Android.BoundService

/-! What an activation is told to have come to: exactly one event, and `connected` if its tunnel is up. -/

namespace VpnClient.Android.BoundService

open Ipc (JsonObject JsonValue)
open JsonConfig

/-- The transactions that carry or resume a config. -/
inductive Transaction where
  | activate (config : JsonObject) (permission : Bool) (answers : SystemAnswers)
  | resumeActivate (answers : SystemAnswers)
  | reactivate (answers : SystemAnswers)

def Transaction.config (s : BoundService) : Transaction → Option JsonObject
  | .activate config .. => some config
  | .resumeActivate _ => s.mResumeConfig
  | .reactivate _ => s.storedConfig

/-- A transaction, with what it dispatches and whether it starts a tunnel. -/
def transact (libs : Libraries) (s : BoundService) : Transaction → Result × BoundService
  | .activate config permission answers =>
    activate libs (.ok (some config)) permission answers { s with events := [], started := false }
  | .resumeActivate answers => resumeActivate libs answers { s with events := [], started := false }
  | .reactivate answers => reactivate libs answers { s with events := [], started := false }

def isReport : ClientEvent → Bool
  | .disconnected => false
  | _ => true

def isConnected : ClientEvent → Bool
  | .connected _ => true
  | _ => false

/-- The tunnel that the transaction has started with the config is up. -/
def Up (config : JsonObject) (s : BoundService) : Prop :=
  s.started = true ∧ s.isUp = true ∧
    ∃ tunnel, s.wireguard = some (s.currentTunnelHandle, tunnel) ∧ tunnel.json = config

/-- The transaction returns and dispatches one report, which is `connected` exactly if its tunnel is up. -/
def Reports (config : JsonObject) (called : Result × BoundService) : Prop :=
  called.1 = .ok () ∧ ∃ event, called.2.events.filter isReport = [event] ∧
    (isConnected event = true ↔ Up config called.2)

/-- A value is read that meets `P`, or the exception is one that is told. -/
def Reads {A : Type} (told : Option String → Prop) (P : A → Prop) : Read A → Prop
  | .error message => told message
  | .ok value => P value

variable (libs : Libraries)

/-- A start is recorded with the config. -/
def RecordsStart (json : JsonObject) (isDaemonChangingServers : Bool) : Prop :=
  (optBoolean libs json "isSuperDooperFeatureActive" false && !decide (optInt libs json "reason" = 1) &&
    !isDaemonChangingServers) = true

instance {A : Type} {told : Option String → Prop} {P : A → Prop} [DecidablePred told] [DecidablePred P] :
    (read : Read A) → Decidable (Reads told P read)
  | .error message => inferInstanceAs (Decidable (told message))
  | .ok value => inferInstanceAs (Decidable (P value))

instance {json : JsonObject} {isDaemonChangingServers : Bool} :
    Decidable (RecordsStart libs json isDaemonChangingServers) :=
  inferInstanceAs (Decidable (_ = true))

/-- What `turnOn` reads once the tunnel is up is there. -/
def Readable (json jServer : JsonObject) (isDaemonChangingServers : Bool) (currentServerConfig : ℕ) : Prop :=
  Reads (fun _ => False)
    (fun _ => RecordsStart libs json isDaemonChangingServers →
      Reads (fun _ => False) (fun _ => True) (getString libs json "installationId"))
    (healthAddresses libs jServer json currentServerConfig)

/-- Which ends of `turnOn` its caller copes with: an exception, an onboarding, an exception once the tunnel is up. -/
structure Handled where
  threw : Option String → Prop
  onboarded : Prop
  interrupted : Prop

/-- An exception is reported if it has a message. -/
def Handled.reported : Handled := ⟨(·.isSome = true), True, False⟩

/-- `reconnect` says nothing of an exception. -/
def Handled.swallowed : Handled := ⟨fun _ => False, True, True⟩

instance {json jServer : JsonObject} {isDaemonChangingServers : Bool} {currentServerConfig : ℕ} :
    Decidable (Readable libs json jServer isDaemonChangingServers currentServerConfig) :=
  inferInstanceAs (Decidable (Reads _ (fun _ => _ → _) _))

/-- The permission is given, the system takes the config, and unless it is for the onboarding only an interface is
established and the tunnel starts. -/
def Establishes (handled : Handled) (json jServer : JsonObject) (isDaemonChangingServers : Bool)
    (answers : SystemAnswers) (currentServerConfig : ℕ) : Prop :=
  answers.permission = true ∧
    Reads handled.threw
      (fun _ => Reads handled.threw
        (fun isOnboarding => isOnboarding = true ∧ handled.onboarded ∨
          isOnboarding = false ∧ Reads handled.threw
            (fun tun => tun = true ∧ 0 ≤ answers.wgTurnOn ∧
              (Readable libs json jServer isDaemonChangingServers currentServerConfig ∨ handled.interrupted))
            answers.establish)
        (getBoolean libs json "isOnboarding"))
      answers.setupBuilder

/-- The config can be read and is not empty for WireGuard, and the system does what it is asked. -/
def TurnsOn (handled : Handled) (json : JsonObject) (useFallbackServer isDaemonChangingServers : Bool)
    (answers : SystemAnswers) (currentServerConfig : ℕ) : Prop :=
  Reads handled.threw
    (fun index => Reads handled.threw
      (fun read => libs.toWgUserspaceString read.2 ≠ "" ∧
        Reads handled.threw
          (fun _ => Establishes libs handled json read.1 isDaemonChangingServers answers index)
          (getString libs json "city"))
      (readConfig libs json index))
    (nextServerConfig libs json useFallbackServer currentServerConfig)

instance : DecidablePred Handled.reported.threw := fun message => inferInstanceAs (Decidable (message.isSome = true))

instance : Decidable Handled.reported.onboarded := .isTrue trivial

instance : Decidable Handled.reported.interrupted := .isFalse id

section

variable {handled : Handled} [DecidablePred handled.threw] [Decidable handled.onboarded]
  [Decidable handled.interrupted]

instance {json jServer : JsonObject} {isDaemonChangingServers : Bool} {answers : SystemAnswers}
    {currentServerConfig : ℕ} :
    Decidable (Establishes libs handled json jServer isDaemonChangingServers answers currentServerConfig) :=
  inferInstanceAs (Decidable (_ ∧ Reads _ (fun _ => Reads _ (fun _ => _ ∨ _ ∧ Reads _ (fun _ => _) _) _) _))

instance {json : JsonObject} {useFallbackServer isDaemonChangingServers : Bool} {answers : SystemAnswers}
    {currentServerConfig : ℕ} :
    Decidable (TurnsOn libs handled json useFallbackServer isDaemonChangingServers answers currentServerConfig) :=
  inferInstanceAs (Decidable (Reads _ (fun _ => Reads _ (fun _ => _ ∧ Reads _ (fun _ => Establishes ..) _) _) _))

end

/-- No step fails but with an exception that has a message, and in a reactivation none fails before the tunnel is
up. -/
def Served (s : BoundService) : Transaction → Prop
  | .activate config permission answers => permission = true →
    TurnsOn libs .reported config false false answers s.currentServerConfig
  | .resumeActivate answers => ∀ config ∈ s.mResumeConfig,
    TurnsOn libs .reported config false false answers s.currentServerConfig
  | .reactivate answers => ∀ config ∈ s.storedConfig,
    TurnsOn libs .swallowed config false false answers s.currentServerConfig

/-- How a call of `turnOn` ends. -/
inductive Ending where
  | threw (message : Option String)
  | failed
  | onboarded
  | noTunnel
  | interrupted
  | connected

/-- What each ending leaves. -/
def Ending.Of (json : JsonObject) (s : BoundService) (called : Result × BoundService) : Ending → Prop
  | .threw message =>
    called.1 = .error (.exception message) ∧ called.2.events = s.events ∧ called.2.started = s.started
  | .failed => ∃ message, called.1 = .error (.error message)
  | .onboarded => called.1 = .ok () ∧ called.2.events = s.events ++ [.onboardingCompleted] ∧
    called.2.started = s.started
  | .noTunnel => called.1 = .ok () ∧ called.2.events = s.events
  | .interrupted => (∃ message, called.1 = .error (.exception message)) ∧
    (∃ city, called.2.events = s.events ++ [.connected city]) ∧ Up json called.2
  | .connected => called.1 = .ok () ∧ (∃ city, called.2.events = s.events ++ [.connected city]) ∧ Up json called.2

/-- The pings of a session that starts. -/
def startPings (libs : Libraries) (json : JsonObject) (isDaemonChangingServers : Bool) : List Ping :=
  if RecordsStart libs json isDaemonChangingServers then [.daemonFlush, .daemonStart] else []

/-- What each ending has sent of these. -/
def Ending.sends (start : List Ping) : Ending → List Ping
  | .connected => start
  | _ => []

def Ending.Good (handled : Handled) : Ending → Prop
  | .threw message => handled.threw message
  | .onboarded => handled.onboarded
  | .interrupted => handled.interrupted
  | .connected => True
  | .failed | .noTunnel => False

variable {libs} {s t : BoundService} {json jServer config : JsonObject} {answers : SystemAnswers}
  {useFallbackServer isDaemonChangingServers : Bool} {wgConfig : String}

lemma shouldRecord_of_some (h : s.mConfig = some json) :
    (s.shouldRecordTimerAndEndMetrics libs && !isDaemonChangingServers) = true ↔
      RecordsStart libs json isDaemonChangingServers := by
  rw [shouldRecordTimerAndEndMetrics, isSuperDooperMetricsActive, isAppChangingServers, h, RecordsStart]
  rfl

/-- What is recorded leaves the tunnel and the events as they are. -/
structure Recorded (s t : BoundService) : Prop where
  events : t.events = s.events
  started : t.started = s.started
  wireguard : t.wireguard = s.wireguard
  currentTunnelHandle : t.currentTunnelHandle = s.currentTunnelHandle

variable (libs s json jServer isDaemonChangingServers answers) in
lemma recordSession_recorded :
    Recorded s (s.recordSession libs json jServer isDaemonChangingServers answers).2 := by
  rw [recordSession]
  dsimp only
  split
  · exact ⟨rfl, rfl, rfl, rfl⟩
  · split
    · split <;> exact ⟨rfl, rfl, rfl, rfl⟩
    · exact ⟨rfl, rfl, rfl, rfl⟩

variable (libs s json jServer isDaemonChangingServers answers) in
lemma recordSession_result :
    Readable libs json jServer isDaemonChangingServers s.currentServerConfig ∧
        (s.recordSession libs json jServer isDaemonChangingServers answers).1 = .ok () ∧
        (s.recordSession libs json jServer isDaemonChangingServers answers).2.pings =
          s.pings ++ startPings libs json isDaemonChangingServers ∨
      ¬Readable libs json jServer isDaemonChangingServers s.currentServerConfig ∧
        (∃ message, (s.recordSession libs json jServer isDaemonChangingServers answers).1 =
          .error (.exception message)) ∧
        (s.recordSession libs json jServer isDaemonChangingServers answers).2.pings = s.pings := by
  have hs : ({ s with mConfig := some json }.shouldRecordTimerAndEndMetrics libs && !isDaemonChangingServers) = true ↔
      RecordsStart libs json isDaemonChangingServers := shouldRecord_of_some rfl
  rw [recordSession, Readable]
  dsimp only
  cases healthAddresses libs jServer json s.currentServerConfig with
  | error message => exact .inr ⟨id, ⟨message, rfl⟩, rfl⟩
  | ok addresses =>
    by_cases hr : RecordsStart libs json isDaemonChangingServers
    · simp only [Reads, hs.mpr hr, if_true]
      cases getString libs json "installationId" with
      | error message => exact .inr ⟨fun h => h hr, ⟨message, rfl⟩, rfl⟩
      | ok id =>
        refine .inl ⟨fun _ => trivial, rfl, ?_⟩
        rw [startPings, if_pos hr]
        rfl
    · have hn := hr
      rw [← hs, Bool.not_eq_true] at hn
      simp only [Reads, hn]
      refine .inl ⟨fun h => absurd h hr, rfl, ?_⟩
      rw [startPings, if_neg hr]
      exact (List.append_nil _).symm

lemma currentTunnelHandle_set {now : ℕ} {value : ℤ} :
    (s.setCurrentTunnelHandle now value).currentTunnelHandle = value := by
  rw [setCurrentTunnelHandle]
  split <;> rfl

/-- The state once a tunnel has started. -/
structure Opened (json : JsonObject) (s t : BoundService) : Prop where
  events : ∃ city, t.events = s.events ++ [.connected city]
  pings : t.pings = s.pings
  up : Up json t
  currentServerConfig : t.currentServerConfig = s.currentServerConfig

lemma opened_of_nonneg {tunnel : JsonTunnel} {now : ℕ} {handle : ℤ} (h : ¬handle < 0) (hj : tunnel.json = json) :
    Opened json s ((s.wgTurnOn tunnel handle).setCurrentTunnelHandle now handle) := by
  rw [wgTurnOn, if_neg h, setCurrentTunnelHandle, if_pos (by omega)]
  exact ⟨⟨_, rfl⟩, rfl, ⟨rfl, decide_eq_true (not_lt.mp h), tunnel, rfl, hj⟩, rfl⟩

lemma Up.recorded (h : Up json s) (hr : Recorded s t) : Up json t := by
  obtain ⟨hs, hu, tunnel, hw, hj⟩ := h
  refine ⟨hr.started.trans hs, ?_, tunnel, ?_, hj⟩
  · rw [isUp, hr.currentTunnelHandle]
    exact hu
  · rw [hr.wireguard, hr.currentTunnelHandle]
    exact hw

variable (libs s json jServer wgConfig isDaemonChangingServers answers) in
lemma replaceTunnel_ends : ∃ ending : Ending,
    ending.Of json s (s.replaceTunnel libs json jServer wgConfig isDaemonChangingServers answers) ∧
      (s.replaceTunnel libs json jServer wgConfig isDaemonChangingServers answers).2.pings =
        s.pings ++ ending.sends (startPings libs json isDaemonChangingServers) ∧
      ∀ handled, ending.Good handled ↔ 0 ≤ answers.wgTurnOn ∧
        (Readable libs json jServer isDaemonChangingServers s.currentServerConfig ∨ handled.interrupted) := by
  rw [replaceTunnel]
  generalize hg : (if s.currentTunnelHandle ≠ -1 then s.wgTurnOff s.currentTunnelHandle else s) = closed
  have hc : closed.events = s.events ∧ closed.currentServerConfig = s.currentServerConfig ∧
      closed.pings = s.pings := by
    rw [← hg, wgTurnOff]
    split_ifs <;> exact ⟨rfl, rfl, rfl⟩
  rw [currentTunnelHandle_set]
  by_cases hl : answers.wgTurnOn < 0
  · rw [if_pos hl]
    refine ⟨.failed, ⟨_, rfl⟩, ?_, fun _ => iff_of_false id fun h => absurd h.1 (not_le.mpr hl)⟩
    rw [wgTurnOn, if_pos hl, setCurrentTunnelHandle, if_neg (by omega)]
    exact hc.2.2.trans (List.append_nil _).symm
  · rw [if_neg hl]
    have ho : Opened json closed ((closed.wgTurnOn { wgConfig, json } answers.wgTurnOn).setCurrentTunnelHandle
        answers.now answers.wgTurnOn) := opened_of_nonneg hl rfl
    generalize (closed.wgTurnOn { wgConfig, json } answers.wgTurnOn).setCurrentTunnelHandle answers.now
      answers.wgTurnOn = t at ho ⊢
    have hr := recordSession_recorded libs t json jServer answers isDaemonChangingServers
    have he : ∃ city, (t.recordSession libs json jServer isDaemonChangingServers answers).2.events =
        s.events ++ [.connected city] := by
      rw [hr.events, ← hc.1]
      exact ho.events
    rw [← hc.2.1, ← ho.currentServerConfig]
    obtain ⟨hb, hd, hp⟩ | ⟨hb, hd, hp⟩ := recordSession_result libs t json jServer answers isDaemonChangingServers
    · refine ⟨.connected, ⟨hd, he, ho.up.recorded hr⟩, ?_, fun _ => iff_of_true trivial ⟨not_lt.mp hl, .inl hb⟩⟩
      rw [hp, ho.pings, hc.2.2]
      rfl
    · refine ⟨.interrupted, ⟨hd, he, ho.up.recorded hr⟩, ?_, fun _ => ?_⟩
      · rw [hp, ho.pings, hc.2.2]
        exact (List.append_nil _).symm
      · rw [Ending.Good, or_iff_right hb, and_iff_right (not_lt.mp hl)]

variable (libs s json jServer wgConfig isDaemonChangingServers answers) in
lemma establish_ends : ∃ ending : Ending,
    ending.Of json s (s.establish libs json jServer wgConfig isDaemonChangingServers answers) ∧
      (s.establish libs json jServer wgConfig isDaemonChangingServers answers).2.pings =
        s.pings ++ ending.sends (startPings libs json isDaemonChangingServers) ∧
      ∀ handled, ending.Good handled ↔
        Establishes libs handled json jServer isDaemonChangingServers answers s.currentServerConfig := by
  obtain ⟨ending, ho, hp, hg⟩ := replaceTunnel_ends libs s json jServer answers isDaemonChangingServers wgConfig
  obtain ⟨permission, setupBuilder, interface, handle, now, sdk⟩ := answers
  have hn : s.pings = s.pings ++ [] := (List.append_nil _).symm
  rw [establish]
  simp only [Establishes]
  cases permission with
  | false => exact ⟨.failed, ⟨_, rfl⟩, hn, fun _ => iff_of_false id (by simp)⟩
  | true =>
    cases setupBuilder with
    | error message => exact ⟨.threw message, ⟨rfl, rfl, rfl⟩, hn, fun _ => by simp [Ending.Good, Reads]⟩
    | ok built =>
      cases getBoolean libs json "isOnboarding" with
      | error message => exact ⟨.threw message, ⟨rfl, rfl, rfl⟩, hn, fun _ => by simp [Ending.Good, Reads]⟩
      | ok isOnboarding =>
        cases isOnboarding with
        | true => exact ⟨.onboarded, ⟨rfl, rfl, rfl⟩, hn, fun _ => by simp [Ending.Good, Reads]⟩
        | false =>
          cases interface with
          | error message => exact ⟨.threw message, ⟨rfl, rfl, rfl⟩, hn, fun _ => by simp [Ending.Good, Reads]⟩
          | ok tun =>
            cases tun with
            | false => exact ⟨.noTunnel, ⟨rfl, rfl⟩, hn, fun _ => by simp [Ending.Good, Reads]⟩
            | true => exact ⟨ending, ho, hp, fun handled => (hg handled).trans (by simp [Reads])⟩

variable (libs s json useFallbackServer isDaemonChangingServers answers) in
lemma turnOn_ends : ∃ ending : Ending,
    ending.Of json s (s.turnOn libs json useFallbackServer isDaemonChangingServers answers) ∧
      (s.turnOn libs json useFallbackServer isDaemonChangingServers answers).2.pings =
        s.pings ++ ending.sends (startPings libs json isDaemonChangingServers) ∧
      ∀ handled, ending.Good handled ↔
        TurnsOn libs handled json useFallbackServer isDaemonChangingServers answers s.currentServerConfig := by
  have hn : s.pings = s.pings ++ [] := (List.append_nil _).symm
  rw [turnOn]
  simp only [TurnsOn]
  cases nextServerConfig libs json useFallbackServer s.currentServerConfig with
  | error message => exact ⟨.threw message, ⟨rfl, rfl, rfl⟩, hn, fun _ => Iff.rfl⟩
  | ok index =>
    dsimp only [Reads]
    cases readConfig libs json index with
    | error message => exact ⟨.threw message, ⟨rfl, rfl, rfl⟩, hn, fun _ => Iff.rfl⟩
    | ok read =>
      dsimp only
      by_cases hw : libs.toWgUserspaceString read.2 = ""
      · rw [if_pos hw]
        exact ⟨.failed, ⟨_, rfl⟩, hn, fun _ => iff_of_false id fun h => h.1 hw⟩
      · rw [if_neg hw]
        cases getString libs json "city" with
        | error message => exact ⟨.threw message, ⟨rfl, rfl, rfl⟩, hn, fun _ => (and_iff_right hw).symm⟩
        | ok city =>
          obtain ⟨ending, ho, hp, hg⟩ := establish_ends libs
            { s with currentServerConfig := index, mCityname := city } json read.1 answers isDaemonChangingServers
            (libs.toWgUserspaceString read.2)
          exact ⟨ending, ho, hp, fun handled => (hg handled).trans (and_iff_right hw).symm⟩

lemma reports_reportException {ending : Ending} {called : Result × BoundService} (he : s.events = [])
    (hs : s.started = false) (ho : ending.Of json s called) :
    Reports json (reportException called) ↔ ending.Good .reported := by
  obtain ⟨result, t⟩ := called
  cases ending with
  | threw message =>
    obtain ⟨rfl, hv, ht⟩ := ho
    dsimp only at hv ht
    cases message with
    | none => exact iff_of_false (fun h => by cases h.1) (by simp [Ending.Good, Handled.reported])
    | some message =>
      refine iff_of_true ⟨rfl, .activationError message, ?_, ?_⟩ rfl
      · change (t.events ++ [ClientEvent.activationError message]).filter isReport = _
        rw [hv, he]
        rfl
      · exact iff_of_false (by simp [isConnected]) fun h => by simp [reportException, dispatchEvent, Up, ht, hs] at h
  | failed =>
    obtain ⟨message, rfl⟩ := ho
    exact iff_of_false (fun h => by cases h.1) id
  | onboarded =>
    obtain ⟨rfl, hv, ht⟩ := ho
    dsimp only at hv ht
    refine iff_of_true ⟨rfl, .onboardingCompleted, ?_, ?_⟩ trivial
    · rw [reportException, hv, he]
      rfl
    · exact iff_of_false (by simp [isConnected]) fun h => by simp [reportException, Up, ht, hs] at h
  | noTunnel =>
    obtain ⟨rfl, hv⟩ := ho
    dsimp only at hv
    refine iff_of_false (fun h => ?_) id
    obtain ⟨-, event, hf, -⟩ := h
    rw [reportException, hv, he] at hf
    cases hf
  | interrupted =>
    obtain ⟨⟨message, rfl⟩, ⟨city, hv⟩, -⟩ := ho
    dsimp only at hv
    refine iff_of_false (fun h => ?_) id
    obtain ⟨hr, event, hf, -⟩ := h
    cases message with
    | none => cases hr
    | some message =>
      change (t.events ++ [ClientEvent.activationError message]).filter isReport = _ at hf
      rw [hv, he] at hf
      cases hf
  | connected =>
    obtain ⟨rfl, ⟨city, hv⟩, hu⟩ := ho
    dsimp only at hv hu
    refine iff_of_true ⟨rfl, .connected city, ?_, iff_of_true rfl hu⟩ trivial
    rw [reportException, hv, he]
    rfl

/-- What becomes of an ending in `reconnect`. -/
def Ending.swallowed : Ending → Ending
  | .threw _ => .noTunnel
  | .interrupted => .connected
  | ending => ending

lemma Ending.good_swallowed (ending : Ending) : ending.swallowed.Good .reported ↔ ending.Good .swallowed := by
  cases ending <;> exact Iff.rfl

variable (s t) in
lemma recorded_connectionTime : Recorded t (if s.mConnectionTime ≠ 0 then
    { t with mConnectionTime := s.mConnectionTime } else t) := by
  split <;> exact ⟨rfl, rfl, rfl, rfl⟩

lemma reconnect_ends (source : Option String) {ending : Ending} {forceFallBack : Bool}
    (hc : s.storedConfig = some config)
    (ho : ending.Of config s (s.turnOn libs config forceFallBack source.isNone answers)) :
    ending.swallowed.Of config s (s.reconnect libs forceFallBack source answers) := by
  rw [reconnect, hc]
  dsimp only
  generalize s.turnOn libs config forceFallBack source.isNone answers = called at ho ⊢
  obtain ⟨result, t⟩ := called
  have hr := recorded_connectionTime s t
  cases ending with
  | threw message =>
    obtain ⟨rfl, hv, ht⟩ := ho
    exact ⟨rfl, hr.events.trans hv⟩
  | failed =>
    obtain ⟨message, rfl⟩ := ho
    exact ⟨message, rfl⟩
  | onboarded =>
    obtain ⟨rfl, hv, ht⟩ := ho
    exact ⟨rfl, hr.events.trans hv, hr.started.trans ht⟩
  | noTunnel =>
    obtain ⟨rfl, hv⟩ := ho
    exact ⟨rfl, hr.events.trans hv⟩
  | interrupted =>
    obtain ⟨⟨message, rfl⟩, ⟨city, hv⟩, hu⟩ := ho
    exact ⟨rfl, ⟨city, hr.events.trans hv⟩, hu.recorded hr⟩
  | connected =>
    obtain ⟨rfl, ⟨city, hv⟩, hu⟩ := ho
    exact ⟨rfl, ⟨city, hr.events.trans hv⟩, hu.recorded hr⟩

/-- A transaction comes to exactly one report if and only if no step of it fails in another way than it copes with. -/
theorem reports_iff {t : Transaction} (h : t.config s = some config) :
    Reports config (transact libs s t) ↔ Served libs s t := by
  set fresh : BoundService := { s with events := [], started := false } with hf
  have he : fresh.events = [] := rfl
  have hs : fresh.started = false := rfl
  cases t with
  | activate json permission answers =>
    cases h
    rw [transact, activate, ← hf]
    cases permission with
    | false =>
      refine iff_of_true ⟨rfl, .permissionRequired, rfl, ?_⟩ fun h => by cases h
      exact iff_of_false (by simp [isConnected]) fun h => by simp [Up, dispatchEvent, reportException, hs] at h
    | true =>
      obtain ⟨ending, ho, -, hg⟩ := turnOn_ends libs fresh config answers false false
      exact (reports_reportException he hs ho).trans ((hg _).trans ⟨fun h _ => h, fun h => h rfl⟩)
  | resumeActivate answers =>
    replace h : s.mResumeConfig = some config := h
    have hr : fresh.mResumeConfig = some config := h
    obtain ⟨ending, ho, -, hg⟩ := turnOn_ends libs fresh config answers false false
    rw [transact, resumeActivate, ← hf, hr]
    simp only [Served, h, Option.mem_some_iff, forall_eq']
    exact (reports_reportException he hs ho).trans (hg _)
  | reactivate answers =>
    replace h : s.storedConfig = some config := h
    have hr : fresh.storedConfig = some config := h
    obtain ⟨ending, ho, -, hg⟩ := turnOn_ends libs fresh config answers false false
    rw [transact, reactivate, ← hf]
    simp only [Served, h, Option.mem_some_iff, forall_eq']
    have hb := reconnect_ends (some "system") hr ho
    exact (reports_reportException he hs hb).trans (ending.good_swallowed.trans (hg _))

/-- Libraries that take every text as it is. -/
def plainLibraries : Libraries where
  toString _ := ""
  toBoolean := JsonValue.bool?
  toInteger value := value.toInt
  typeMismatch _ name _ := name
  parseEndpoint text := .ok text
  parseKey text := .ok text
  parsePrivateKey text := .ok text
  parseNetwork text := .ok ⟨text, 32⟩
  toWgUserspaceString config := "public_key=" ++ config.peer.publicKey

def plainServer : JsonObject := [
  ("ipv4AddrIn", .string "192.0.2.1"),
  ("ipv4Gateway", .string "10.64.0.1"),
  ("port", .string "51820"),
  ("publicKey", .string "key")]

/-- A config that the app sends with a reason. -/
def plainConfig (reason : ℚ) : JsonObject := [
  ("servers", .array [.object plainServer]),
  ("allowedIPs", .array []),
  ("keys", .object [("privateKey", .string "key")]),
  ("device", .object [("ipv4Address", .string "10.64.0.2"), ("ipv6Address", .string "fc00::2")]),
  ("dns", .string "10.64.0.1"),
  ("excludedApps", .array []),
  ("city", .string "Oslo"),
  ("isOnboarding", .bool false),
  ("isSuperDooperFeatureActive", .bool true),
  ("installationId", .string "id"),
  ("reason", .double reason)]

def plainAnswers : SystemAnswers := { wgTurnOn := 1 }

theorem reports_plain :
    Reports (plainConfig 0) (transact plainLibraries {} (.activate (plainConfig 0) true plainAnswers)) :=
  (reports_iff rfl).mpr fun _ => by decide +kernel

/-- Without an interface nothing is told, and a tunnel that does not start ends in an uncaught error. -/
theorem unreported_activations :
    ¬Reports (plainConfig 0)
        (transact plainLibraries {} (.activate (plainConfig 0) true { plainAnswers with establish := .ok false })) ∧
      ¬Reports (plainConfig 0)
        (transact plainLibraries {} (.activate (plainConfig 0) true { plainAnswers with wgTurnOn := -1 })) := by
  refine ⟨fun h => ?_, fun h => ?_⟩
  · obtain ⟨-, event, hf, -⟩ := h
    have hn : (transact plainLibraries {}
        (.activate (plainConfig 0) true { plainAnswers with establish := .ok false })).2.events = [] := by
      decide +kernel
    rw [hn] at hf
    cases hf
  · have hn : (transact plainLibraries {}
        (.activate (plainConfig 0) true { plainAnswers with wgTurnOn := -1 })).1.isOk = false := by
      decide +kernel
    rw [h.1] at hn
    cases hn

end VpnClient.Android.BoundService
