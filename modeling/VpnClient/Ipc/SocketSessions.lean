import VpnClient.Backend.Daemon
import VpnClient.Ipc.DaemonLocalServerConnection
import VpnClient.Backend.Occupied
import VpnClient.Library.Runs

/-! The daemon behind its local sockets: every command asks the access control before it reaches the daemon. -/

namespace VpnClient.Ipc

open Backend

structure DaemonServer where
  daemon : Daemon := {}
  accessControl : DaemonAccessControl := {}

namespace DaemonServer

variable (env : Env) (parseConfig : JsonObject → Option InterfaceConfig)

/-- What an authorized command does to the daemon. -/
def obey (type : String) (obj : JsonObject) (daemon : Daemon) : Daemon :=
  if type = "activate" then
    match parseConfig obj with
    | none => daemon
    | some config => (daemon.activate env config).2
  else if type = "deactivate" then (daemon.deactivate env true).2
  else daemon

def parseCommand (peerId : Option ℕ) (obj : JsonObject) (s : DaemonServer) : DaemonServer :=
  match obj.string? "type" with
  | none => s
  | some type =>
    match s.accessControl.isCommandAuthorizedForPeer type peerId with
    | (false, accessControl) => { s with accessControl }
    | (true, accessControl) =>
      { daemon := obey env parseConfig type obj s.daemon
        accessControl := if type = "deactivate" then accessControl.resetSession else accessControl }

inductive Event where
  | command (uid : ℕ) (obj : JsonObject)
  | handshakeTimeout (peers : List Daemon.PeerStatus)

def step (s : DaemonServer) : Event → DaemonServer
  | .command uid obj => s.parseCommand env parseConfig (some uid) obj
  | .handshakeTimeout peers => { s with daemon := s.daemon.step env (.handshakeTimeout peers) }

lemma accessControl_parseCommand (formats : Formats) (answers : DaemonAnswers) (peerId : Option ℕ) (obj : JsonObject)
    (s : DaemonServer) : (s.parseCommand env parseConfig peerId obj).accessControl =
      (DaemonLocalServerConnection.parseCommand formats peerId answers obj s.accessControl).1 := by
  rw [parseCommand, DaemonLocalServerConnection.parseCommand]
  cases obj.string? "type" with
  | none => rfl
  | some type =>
    dsimp only
    split <;> simp only [*]

end DaemonServer

end VpnClient.Ipc

/-! Sessions and connections: for whom the daemon keeps a session, and when it keeps one without a connection or a
connection without a session. -/

namespace VpnClient.Ipc

open Backend Library.Runs
open Backend.Daemon (Due Reconnects Reestablishes bringUpCalls)

namespace DaemonAccessControl

variable {a : DaemonAccessControl} {command : String} {uid : ℕ}

lemma isCommandAuthorized_inactive (h : a.sessionOwner = none) :
    a.isCommandAuthorizedForPeer command (some uid) =
      if command = "activate" then (true, ⟨some uid⟩) else (decide (command = "status"), a) := by
  simp only [isCommandAuthorizedForPeer, isSessionActive, startSession, h]
  by_cases ha : command = "activate"
  · simp [ha]
  · by_cases hs : command = "status" <;> simp [ha, hs]

lemma isCommandAuthorized_active {owner : ℕ} (h : a.sessionOwner = some owner) (command : String) (uid : ℕ) :
    a.isCommandAuthorizedForPeer command (some uid) = (uid == 0 || owner == uid, a) := by
  simp [isCommandAuthorizedForPeer, isPeerAuthorized, isSessionActive, h]

lemma isCommandAuthorized_snd (h : command ≠ "activate") :
    (a.isCommandAuthorizedForPeer command (some uid)).2 = a := by
  cases ho : a.sessionOwner with
  | none => rw [isCommandAuthorized_inactive ho, if_neg h]
  | some owner => rw [isCommandAuthorized_active ho]

lemma isCommandAuthorized_of_false (h : (a.isCommandAuthorizedForPeer command (some uid)).1 = false) :
    a.isCommandAuthorizedForPeer command (some uid) = (false, a) := by
  cases ho : a.sessionOwner with
  | none =>
    rw [isCommandAuthorized_inactive ho] at h ⊢
    by_cases ha : command = "activate"
    · simp [ha] at h
    · rw [if_neg ha] at h ⊢
      exact congrArg (·, a) h
  | some owner =>
    rw [isCommandAuthorized_active ho] at h ⊢
    exact congrArg (·, a) h

end DaemonAccessControl

namespace DaemonServer

variable (env : Env) (parseConfig : JsonObject → Option InterfaceConfig)

def Event.sender : Event → Option ℕ
  | .command uid _ => some uid
  | .handshakeTimeout _ => none

/-- Watches whose command has brought up the connection that there is. -/
def observe (s : DaemonServer) (e : Event) (starter : Option ℕ) : Option ℕ :=
  if (s.step env parseConfig e).daemon.connections.isEmpty then none
  else if s.daemon.connections.isEmpty then e.sender
  else starter

/-- A connection belongs to whom has started it, and without one there is no session. -/
def Sound (p : DaemonServer × Option ℕ) : Prop :=
  (p.1.daemon.IsUp → ∃ owner, p.2 = some owner ∧ p.1.accessControl.sessionOwner = some owner ∧
    ∀ other ≠ owner, other ≠ 0 → ∀ command,
      p.1.accessControl.isCommandAuthorizedForPeer command (some other) = (false, p.1.accessControl)) ∧
  (¬p.1.daemon.IsUp → p.1.accessControl.isSessionActive = false)

/-- An activation that starts a session brings up a connection, one that takes down the connection brings it up
again, and a deactivation does not fail to run `Down`. -/
def Conclusive (s : DaemonServer) : Event → Prop
  | .command uid obj => ∀ type, obj.string? "type" = some type →
    (s.accessControl.isCommandAuthorizedForPeer type (some uid)).1 = true →
      (type = "activate" →
        (¬s.daemon.IsUp → ∃ config ∈ parseConfig obj, Due env (bringUpCalls env config s.daemon) s.daemon) ∧
        (s.daemon.IsUp → ∀ config ∈ parseConfig obj, Reconnects config s.daemon →
          env.outcome s.daemon.calls = true → Reestablishes env config s.daemon)) ∧
      (type = "deactivate" → env.outcome s.daemon.calls = true)
  | .handshakeTimeout _ => True

variable {env parseConfig} {s : DaemonServer} {starter : Option ℕ} {uid : ℕ} {obj : JsonObject} {type : String}

lemma sound_iff {p : DaemonServer × Option ℕ} : Sound p ↔
    (p.1.daemon.IsUp → ∃ owner, p.2 = some owner ∧ p.1.accessControl.sessionOwner = some owner) ∧
      (¬p.1.daemon.IsUp → p.1.accessControl.sessionOwner = none) := by
  refine and_congr (forall_congr' fun _ => exists_congr fun owner => ?_) ?_
  · refine and_congr_right fun _ => ⟨And.left, fun ho => ⟨ho, fun other hn hr command => ?_⟩⟩
    rw [DaemonAccessControl.isCommandAuthorized_active ho]
    simp [hr, Ne.symm hn]
  · simp [DaemonAccessControl.isSessionActive]

lemma observe_of_not_isUp {e : Event} (h : ¬s.daemon.IsUp) (hu : (s.step env parseConfig e).daemon.IsUp) :
    observe env parseConfig s e starter = e.sender := by
  rw [Daemon.IsUp, Bool.not_eq_false] at h
  rw [Daemon.IsUp] at hu
  rw [observe, hu, h, if_neg Bool.false_ne_true, if_pos rfl]

lemma observe_of_isUp {e : Event} (h : s.daemon.IsUp) (hu : (s.step env parseConfig e).daemon.IsUp) :
    observe env parseConfig s e starter = starter := by
  rw [Daemon.IsUp] at h hu
  rw [observe, hu, h, if_neg Bool.false_ne_true, if_neg Bool.false_ne_true]

lemma Sound.keep {e : Event} (h : Sound (s, starter))
    (ha : (s.step env parseConfig e).accessControl = s.accessControl)
    (hu : (s.step env parseConfig e).daemon.IsUp ↔ s.daemon.IsUp) :
    Sound (watch (step env parseConfig) (observe env parseConfig) (s, starter) e) := by
  rw [sound_iff] at h ⊢
  refine ⟨fun hup => ?_, fun hn => (congrArg _ ha).trans (h.2 (mt hu.mpr hn))⟩
  obtain ⟨owner, ho, hs⟩ := h.1 (hu.mp hup)
  exact ⟨owner, (observe_of_isUp (hu.mp hup) hup).trans ho, (congrArg _ ha).trans hs⟩

lemma parseCommand_of_authorized {a : DaemonAccessControl} (ht : obj.string? "type" = some type)
    (ha : s.accessControl.isCommandAuthorizedForPeer type (some uid) = (true, a)) :
    s.parseCommand env parseConfig (some uid) obj =
      ⟨obey env parseConfig type obj s.daemon, if type = "deactivate" then a.resetSession else a⟩ := by
  rw [parseCommand, ht]
  dsimp only
  rw [ha]

lemma parseCommand_of_not_authorized (ht : obj.string? "type" = some type)
    (ha : (s.accessControl.isCommandAuthorizedForPeer type (some uid)).1 = false) :
    s.parseCommand env parseConfig (some uid) obj = s := by
  rw [parseCommand, ht]
  dsimp only
  rw [DaemonAccessControl.isCommandAuthorized_of_false ha]

lemma parseCommand_of_other (ht : obj.string? "type" = some type) (ha : type ≠ "activate") (hd : type ≠ "deactivate") :
    s.parseCommand env parseConfig (some uid) obj = s := by
  cases h : s.accessControl.isCommandAuthorizedForPeer type (some uid) with
  | mk authorized a =>
    cases authorized with
    | false => exact parseCommand_of_not_authorized ht (congrArg Prod.fst h)
    | true =>
      have hs : a = s.accessControl :=
        (congrArg Prod.snd h).symm.trans (DaemonAccessControl.isCommandAuthorized_snd ha)
      rw [parseCommand_of_authorized ht h, obey, if_neg ha, if_neg hd, if_neg hd, hs]

lemma isUp_obey_activate : (obey env parseConfig "activate" obj s.daemon).IsUp ↔
    (¬s.daemon.IsUp → ∃ config ∈ parseConfig obj, Due env (bringUpCalls env config s.daemon) s.daemon) ∧
      (s.daemon.IsUp → ∀ config ∈ parseConfig obj, Reconnects config s.daemon →
        env.outcome s.daemon.calls = true → Reestablishes env config s.daemon) := by
  rw [obey, if_pos rfl]
  by_cases hu : s.daemon.IsUp
  · cases parseConfig obj with
    | none => simp [hu]
    | some config => simp [hu, Daemon.isUp_activate_iff hu]
  · cases parseConfig obj with
    | none => simp [hu]
    | some config => simp [hu, Daemon.isUp_activate_of_not_isUp hu]

lemma sound_iff_isUp {p : DaemonServer × Option ℕ} (owner : ℕ) (ho : p.1.accessControl.sessionOwner = some owner)
    (hp : p.1.daemon.IsUp → p.2 = some owner) : Sound p ↔ p.1.daemon.IsUp := by
  rw [sound_iff]
  constructor
  · intro h
    by_contra hn
    cases ho.symm.trans (h.2 hn)
  · exact fun hu => ⟨fun _ => ⟨owner, hp hu, ho⟩, fun hn => absurd hu hn⟩

lemma sound_iff_not_isUp {p : DaemonServer × Option ℕ} (ho : p.1.accessControl.sessionOwner = none) :
    Sound p ↔ ¬p.1.daemon.IsUp := by
  rw [sound_iff]
  constructor
  · intro h hu
    obtain ⟨owner, -, hs⟩ := h.1 hu
    cases ho.symm.trans hs
  · exact fun hn => ⟨fun hu => absurd hu hn, fun _ => ho⟩

lemma sound_activate_iff (h : Sound (s, starter)) (ht : obj.string? "type" = some "activate")
    (ha : (s.accessControl.isCommandAuthorizedForPeer "activate" (some uid)).1 = true) :
    Sound (watch (step env parseConfig) (observe env parseConfig) (s, starter) (.command uid obj)) ↔
      (obey env parseConfig "activate" obj s.daemon).IsUp := by
  rw [sound_iff] at h
  by_cases hu : s.daemon.IsUp
  · obtain ⟨owner, ho, hs⟩ := h.1 hu
    have ha' := DaemonAccessControl.isCommandAuthorized_active hs "activate" uid
    rw [ha'] at ha
    have hstep : s.step env parseConfig (.command uid obj) =
        ⟨obey env parseConfig "activate" obj s.daemon, s.accessControl⟩ :=
      parseCommand_of_authorized ht (ha'.trans (congrArg (·, _) ha))
    rw [sound_iff_isUp owner ((congrArg (·.accessControl.sessionOwner) hstep).trans hs)
      fun hup => (observe_of_isUp hu hup).trans ho]
    exact iff_of_eq (congrArg (·.daemon.IsUp) hstep)
  · have hstep : s.step env parseConfig (.command uid obj) =
        ⟨obey env parseConfig "activate" obj s.daemon, ⟨some uid⟩⟩ :=
      parseCommand_of_authorized ht (DaemonAccessControl.isCommandAuthorized_inactive (h.2 hu))
    rw [sound_iff_isUp uid (congrArg (·.accessControl.sessionOwner) hstep) fun hup => observe_of_not_isUp hu hup]
    exact iff_of_eq (congrArg (·.daemon.IsUp) hstep)

lemma sound_deactivate_iff (h : Sound (s, starter)) (ht : obj.string? "type" = some "deactivate")
    (ha : (s.accessControl.isCommandAuthorizedForPeer "deactivate" (some uid)).1 = true) :
    Sound (watch (step env parseConfig) (observe env parseConfig) (s, starter) (.command uid obj)) ↔
      env.outcome s.daemon.calls = true := by
  rw [sound_iff] at h
  have hu : s.daemon.IsUp := by
    by_contra hn
    rw [DaemonAccessControl.isCommandAuthorized_inactive (h.2 hn)] at ha
    simp at ha
  have hstep : s.step env parseConfig (.command uid obj) = ⟨(s.daemon.deactivate env true).2, ⟨none⟩⟩ :=
    parseCommand_of_authorized ht (Prod.ext ha rfl)
  rw [sound_iff_not_isUp (congrArg (·.accessControl.sessionOwner) hstep)]
  refine (not_congr (iff_of_eq (congrArg (·.daemon.IsUp) hstep))).trans ?_
  rw [Daemon.isUp_deactivate_iff hu, Bool.not_eq_false]

lemma sound_step_iff (h : Sound (s, starter)) (e : Event) :
    Conclusive env parseConfig s e ↔ Sound (watch (step env parseConfig) (observe env parseConfig) (s, starter) e) := by
  cases e with
  | handshakeTimeout peers =>
    refine iff_of_true trivial (h.keep rfl ?_)
    simp only [step, Daemon.step]
    split
    · rw [Daemon.IsUp, Daemon.isEmpty_checkHandshake, Daemon.IsUp]
    · rfl
  | command uid obj =>
    cases ht : obj.string? "type" with
    | none =>
      have hstep : s.step env parseConfig (.command uid obj) = s := by simp only [step, parseCommand, ht]
      exact iff_of_true (fun _ h => absurd (ht.symm.trans h) (by simp))
        (h.keep (congrArg _ hstep) (iff_of_eq (congrArg (·.daemon.IsUp) hstep)))
    | some type =>
      simp only [Conclusive, ht, Option.some.injEq, forall_eq']
      cases ha : (s.accessControl.isCommandAuthorizedForPeer type (some uid)).1 with
      | false =>
        have hstep : s.step env parseConfig (.command uid obj) = s := parseCommand_of_not_authorized ht ha
        exact iff_of_true (fun h => by cases h)
          (h.keep (congrArg _ hstep) (iff_of_eq (congrArg (·.daemon.IsUp) hstep)))
      | true =>
        simp only [forall_const]
        by_cases hact : type = "activate"
        · subst hact
          rw [sound_activate_iff h ht ha, isUp_obey_activate]
          simp
        · by_cases hdeact : type = "deactivate"
          · subst hdeact
            rw [sound_deactivate_iff h ht ha]
            simp
          · have hstep : s.step env parseConfig (.command uid obj) = s := parseCommand_of_other ht hact hdeact
            exact iff_of_true ⟨fun h => absurd h hact, fun h => absurd h hdeact⟩
              (h.keep (congrArg _ hstep) (iff_of_eq (congrArg (·.daemon.IsUp) hstep)))

/-- Sessions and connections go together throughout a run just if each of its commands is conclusive. -/
theorem sound_iff_conclusive (env : Env) (parseConfig : JsonObject → Option InterfaceConfig) (events : List Event) :
    Meets (step env parseConfig) (Conclusive env parseConfig) {} events ↔
      ∀ before, before <+: events →
        Sound (run (watch (step env parseConfig) (observe env parseConfig)) ({}, none) before) := by
  have hs : Sound (({} : DaemonServer), none) := sound_iff.mpr ⟨fun hu => (by cases hu), fun _ => rfl⟩
  rw [← meets_watch (observe env parseConfig) none]
  apply meets_iff_throughout (P := Sound) (Q := Sound)
  · exact fun p e hp hc => (sound_step_iff hp e).mp hc
  · exact fun p e hp => sound_step_iff hp e
  · exact hs
  · exact hs

/-- A configuration that cannot be parsed leaves a session without a connection, which locks out everyone else, and
a deactivation that fails leaves a connection without a session, which anyone may take over. -/
theorem unsound_failures :
    ¬ Sound (run (watch (step (.succeeding true) fun _ => none) (observe (.succeeding true) fun _ => none)) ({}, none)
      [.command 1000 [("type", .string "activate")]]) ∧
    ¬ Sound (run
      (watch (step ⟨true, (· ≠ 7)⟩ fun _ => some { hopType := .SingleHop })
        (observe ⟨true, (· ≠ 7)⟩ fun _ => some { hopType := .SingleHop })) ({}, none)
      [.command 1000 [("type", .string "activate")], .command 1000 [("type", .string "deactivate")]]) := by
  constructor
  · intro h
    exact absurd (h.2 (by decide +kernel)) (by decide +kernel)
  · intro h
    obtain ⟨owner, -, ho, -⟩ := h.1 (by decide +kernel)
    cases ho.symm.trans (show _ = none by decide +kernel)

end DaemonServer

end VpnClient.Ipc
