import VpnClient.Client.Steps
import VpnClient.Library.Runs

/-! When a controller that was deactivated stays down until it is asked to connect again. -/

namespace VpnClient.Client

open Library.Runs

/-- Whether the client has deactivated the controller, and whether that is disconnected since. -/
inductive Phase where
  | free
  | stopping
  | down
  deriving DecidableEq

namespace Controller

/-- The event is an accepted call of `activate` or of `switchServers`. -/
def asksToConnect (c : Controller) (e : Env × Event) : Bool :=
  match e.2 with
  | .activate serverData initiator serverSelectionPolicy =>
    (c.activate e.1 serverData initiator serverSelectionPolicy).1
  | .switchServers serverData => (c.switchServers serverData).1
  | .disconnected => (connects e.1 c .disconnected).isSome
  | _ => false

/-- The client deactivates the controller, which is not for a next step or a switch of servers. -/
def stopsForClient (c : Controller) (e : Env × Event) : Bool :=
  (match e.2 with
    | .deactivate user => user = .ClientUser
    | _ => true) &&
  c.state ≠ .StateDisconnecting && (c.step e).state = .StateDisconnecting && (c.step e).nextStep = .None

def watchStop (c : Controller) (e : Env × Event) (phase : Phase) : Phase :=
  if c.asksToConnect e then .free
  else if phase = .down then .down
  else if c.stopsForClient e then .stopping
  else
    match e.2 with
    | .disconnected => if phase = .stopping ∧ c.nextStep = .None then .down else .free
    | _ => phase

/-- A controller that is down does not ask the backend to activate anything unless it is asked to connect. -/
def StaysDown (p : Controller × Phase) (e : Env × Event) : Prop :=
  p.2 = .down → p.1.asksToConnect e = false → ∀ config reason, .implActivate config reason ∉ (p.1.step e).out

/-- No account request that was waited for before ends in a controller that is down, unless it fails for
good or there is no server or device. -/
def NothingPending (p : Controller × Phase) (e : Env × Event) : Prop :=
  match e.2 with
  | .accountRequestFinished i failed => p.2 = .down →
    ∀ request ∈ connects e.1 p.1 (.accountRequestFinished i failed), ¬ e.1.CanActivate p.1.serverData request.2
  | _ => True

/-- Nothing goes on that a timer or a handshake could continue. -/
def Idle (c : Controller) : Prop := c.handshakeTimer = false ∧ c.activationQueue = []

variable {c c' : Controller} {env : Env} {event : Event} {e : Env × Event}

lemma Same.idle (h : Same c c') (hi : c.Idle) : c'.Idle :=
  ⟨h.handshakeTimer.trans hi.1, h.activationQueue.trans hi.2⟩

lemma Stopped.idle (h : Stopped c c') : c'.Idle := ⟨h.handshakeTimer, h.activationQueue⟩

lemma Ended.idle (h : Ended c c') : c'.Idle := ⟨h.handshakeTimer, h.activationQueue⟩

lemma idle_handle (hi : c.Idle) (h : connects env c event = none) : (handle env c event).Idle := by
  cases outcome_handle h with
  | same h | asked _ h | initialized h | implOff _ h | implOn _ h => exact h.idle hi
  | deactivated h | switched _ _ _ h => exact h.idle
  | completed hq hc h =>
    rcases h with h | h
    · rw [h]
      exact ⟨hc.handshakeTimer, hc.activationQueue⟩
    · exact h.idle
  | advanced hq h => cases hi.2.symm.trans hq
  | ended hn h => exact h.idle
  | timedOut ht h => cases hi.1.symm.trans ht
  | assertionFailed ht hs h =>
    rw [h]
    exact hi

lemma implActivate_not_mem (hi : c.Idle) (h : connects env c event = none) {config : Backend.InterfaceConfig}
    {reason : Backend.Reason} (hc : c.attempts = []) :
    .implActivate config reason ∉ (handle env c event).attempts := by
  rcases attempts_handle h with h | ⟨-, -, h⟩ | ⟨hl, -⟩ | ⟨-, ht⟩
  · simp [h, hc]
  · simp [h, hc]
  · simp [hi.2] at hl
  · cases hi.1.symm.trans ht

lemma accountRequestFinished_cases {i : ℕ} {failed : Bool} {request : ActivationPrincipal × ServerSelectionPolicy}
    (h : connects env c (.accountRequestFinished i failed) = some request) (hc : c.attempts = []) :
    (env.CanActivate c.serverData request.2 ∧
      ∃ config reason, .implActivate config reason ∈ (c.accountRequestFinished env i failed).attempts) ∨
    ¬ env.CanActivate c.serverData request.2 ∧ (c.accountRequestFinished env i failed).Idle ∧
      ∀ config reason, .implActivate config reason ∉ (c.accountRequestFinished env i failed).attempts := by
  obtain ⟨initiator, policy⟩ := request
  obtain ⟨c₀, he, hs, hd⟩ := accountRequestFinished_connects h
  have hd' : (c₀.connecting initiator).serverData = c.serverData := (serverData_connecting ..).trans hd
  have hn : (c₀.connecting initiator).attempts = [] := (attempts_connecting ..).trans (hs.attempts.trans hc)
  have hk : c₀.connect env initiator policy =
      (c₀.connecting initiator).activateInternal env .DoNotForceDNSPort policy initiator := rfl
  rw [he, hk, ← hd']
  rcases activateInternal_cases env .DoNotForceDNSPort policy initiator (c₀.connecting initiator) with
    ⟨⟨abort, ha⟩, h⟩ | ⟨activation, ha, h⟩
  · refine Or.inr ⟨fun hk => ?_, ⟨h.handshakeTimer, h.activationQueue⟩, ?_⟩
    · obtain ⟨activation, ha'⟩ := Env.canActivate_iff.mp hk
      cases ha.symm.trans ha'
    · obtain ⟨_, _, h⟩ := h.attempts
      simp [h, hn]
  · obtain ⟨_, _, first, h⟩ := h.attempts
    refine Or.inl ⟨Env.canActivate_iff.mpr ⟨activation, ha⟩, first, stateToReason (c₀.connecting initiator).state, ?_⟩
    rw [h]
    simp

/-- When a controller that is down handles an event that does not ask it to connect, the event is one that
does not make it connect at once, or the end of an account request. -/
lemma connects_of_asksToConnect (ha : c.asksToConnect e = false) :
    connects e.1 c e.2 = none ∨ ∃ i failed, e.2 = .accountRequestFinished i failed := by
  obtain ⟨env, event⟩ := e
  cases event with
  | activate serverData initiator serverSelectionPolicy =>
    refine Or.inl (if_neg fun hs => ?_)
    simp [asksToConnect, activate_connects serverData hs] at ha
  | accountRequestFinished i failed => exact Or.inr ⟨i, failed, rfl⟩
  | disconnected => exact Or.inl (by simpa [asksToConnect] using ha)
  | _ => exact Or.inl rfl

lemma connects_clear : connects env { c with out := [] } event = connects env c event := by
  cases event <;> rfl

lemma idle_step {phase : Phase} (hi : phase = .down → c.Idle) (hn : NothingPending (c, phase) e)
    (hd : c.watchStop e phase = .down) : (c.step e).Idle := by
  unfold watchStop at hd
  split_ifs at hd with ha hp hs
  · rw [Bool.not_eq_true] at ha
    rcases connects_of_asksToConnect ha with hc | ⟨i, failed, he⟩
    · exact idle_handle (c := { c with out := [] }) (hi hp) (connects_clear.trans hc)
    · obtain ⟨env, event⟩ := e
      subst he
      cases hc : connects env c (.accountRequestFinished i failed) with
      | none => exact idle_handle (c := { c with out := [] }) (hi hp) (connects_clear.trans hc)
      | some request =>
        rcases accountRequestFinished_cases (connects_clear.trans hc) rfl with ⟨hk, -⟩ | ⟨-, h, -⟩
        · exact absurd hk (hn hp request hc)
        · exact h
  · rw [Bool.not_eq_true] at ha
    obtain ⟨env, event⟩ := e
    cases event with
    | disconnected =>
      rcases connects_of_asksToConnect ha with hc | ⟨_, _, he⟩
      · have hs' : ¬ (c.nextStep = .None ∧ c.Switching) := fun hs' => by simp [connects, hs'] at hc
        exact (ended_disconnected (c := { c with out := [] }) env hs').idle
      · cases he
    | _ => exact absurd hd hp
  · split at hd
    · cases hd
    · exact absurd hd hp

/-- A deactivated controller stays down exactly as long as no account request that was waited for before
finds a server and a device. -/
theorem staysDown_iff (isSwitchingServer : Bool) (events : List (Env × Event)) :
    Meets (watch step watchStop) StaysDown (initial isSwitchingServer, .free) events ↔
      Meets (watch step watchStop) NothingPending (initial isSwitchingServer, .free) events := by
  refine (meets_congr (P := fun p => p.2 = .down → p.1.Idle) ?_ ?_ nofun).symm
  · rintro ⟨c, phase⟩ e hi hn hd
    exact idle_step hi hn hd
  · rintro ⟨c, phase⟩ ⟨env, event⟩ hi
    constructor
    · intro hn hd ha config reason hm
      rw [← mem_attempts rfl] at hm
      rcases connects_of_asksToConnect ha with hc | ⟨i, failed, rfl⟩
      · exact implActivate_not_mem (c := { c with out := [] }) (hi hd) (connects_clear.trans hc) rfl hm
      · cases hc : connects env c (.accountRequestFinished i failed) with
        | none => exact implActivate_not_mem (c := { c with out := [] }) (hi hd) (connects_clear.trans hc) rfl hm
        | some request =>
          rcases accountRequestFinished_cases (connects_clear.trans hc) rfl with ⟨hk, -⟩ | ⟨-, -, h⟩
          · exact hn hd request hc hk
          · exact h config reason hm
    · intro hs
      cases event with
      | accountRequestFinished i failed =>
        intro hd request hc hk
        rcases accountRequestFinished_cases (c := { c with out := [] }) hc rfl with ⟨-, config, reason, h⟩ | ⟨hn, -⟩
        · exact hs hd rfl config reason ((mem_attempts rfl).mp h)
        · exact hn hk
      | _ => trivial

/-- The second of two account requests ends when the client has deactivated the controller. -/
theorem staysDown_second_request :
    let p := run (watch step watchStop) (initial false, .free)
      ([.initializeController, .implInitialized true false none,
        .activate { exitCityName := "A" } .ClientUser .RandomizeServerSelection,
        .activate { exitCityName := "A" } .ClientUser .RandomizeServerSelection, .accountRequestFinished 0 false,
        .connected "A", .deactivate .ClientUser, .disconnected].map (Env.working, ·))
    p.1.state = .StateOff ∧ p.2 = .down ∧ ¬ StaysDown p (Env.working, .accountRequestFinished 0 false) := by
  intro p
  refine ⟨by decide, by decide, fun hs => ?_⟩
  have hm : ∃ config, Effect.implActivate config .ReasonNone ∈ (p.1.step (Env.working, .accountRequestFinished 0 false)).out := by
    refine ⟨((p.1.step (Env.working, .accountRequestFinished 0 false)).activated).get (by decide), by decide⟩
  obtain ⟨config, hm⟩ := hm
  exact hs (by decide) rfl config .ReasonNone hm

end Controller

end VpnClient.Client
