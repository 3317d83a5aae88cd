import VpnClient.Client.Steps
import VpnClient.Library.Runs

/-! When the telemetry of the connections records each session once: its start and its end. -/

namespace VpnClient.Client

open Backend Library.Runs

def Effect.isTelemetry : Effect → Bool
  | recordConnectionStartTelemetry | recordConnectionEndTelemetry => true
  | _ => false

/-- Starts and ends take turns; `session` tells whether a session has started before. -/
def Alternates : Bool → List Effect → Prop
  | _, [] => True
  | session, effect :: effects =>
    effect = (if session then .recordConnectionEndTelemetry else .recordConnectionStartTelemetry) ∧
      Alternates (!session) effects

/-- What there is to record when `session` becomes `session'`. -/
def changes (session session' : Bool) : List Effect :=
  match session, session' with
  | false, true => [.recordConnectionStartTelemetry]
  | true, false => [.recordConnectionEndTelemetry]
  | _, _ => []

lemma alternates_changes (session session' : Bool) {effects : List Effect} (h : Alternates session' effects) :
    Alternates session (changes session session' ++ effects) := by
  cases session <;> cases session'
  · exact h
  · exact ⟨rfl, h⟩
  · exact ⟨rfl, h⟩
  · exact h

namespace Controller

def telemetry (c : Controller) : List Effect := c.out.filter Effect.isTelemetry

/-- The telemetry that a run emits. -/
def trace (c : Controller) : List (Env × Event) → List Effect
  | [] => []
  | e :: es => (c.step e).telemetry ++ (c.step e).trace es

/-- A session starts with the last handshake of a connection. It ends with a disconnection that is not part of
a switch, or when the backend turns out to have no connection. -/
def watchSession (c : Controller) (e : Env × Event) (session : Bool) : Bool :=
  match e.2 with
  | .connected pubkey => session || c.completes pubkey
  | .disconnected => session && decide (c.nextStep = .None ∧ c.Switching)
  | .implInitialized status connected _ => session && decide (c.ReportsConnection status connected)
  | _ => session

def Recorded (p : Controller × Bool) (e : Env × Event) : Prop :=
  (p.1.step e).telemetry = changes p.2 (watchSession p.1 e p.2)

/-- The last handshake of a connection comes in a session exactly if it is one of a switch, or of a connection
that is there already. A disconnection that is not part of a switch comes in a session exactly if neither the
application is to quit or to be updated nor the connection still to be confirmed. The backend turns out to have
no connection only outside of sessions. -/
def SessionKept (p : Controller × Bool) (e : Env × Event) : Prop :=
  match e.2 with
  | .connected pubkey => p.1.completes pubkey →
    (p.2 = true ↔ p.1.isSwitchingServer = true ∨ p.1.state = .StateOn ∨ p.1.state = .StateOnPartial)
  | .disconnected => ¬(p.1.nextStep = .None ∧ p.1.Switching) →
    (p.2 = true ↔ p.1.nextStep ≠ .Quit ∧ p.1.nextStep ≠ .Update ∧ p.1.state ≠ .StateConfirming)
  | .implInitialized status connected _ => ¬p.1.ReportsConnection status connected → p.2 = false
  | _ => True

section

variable {c : Controller} {env : Env} {initiator : ActivationPrincipal} {dnsPort : DNSPortPolicy}
  {serverSelectionPolicy : ServerSelectionPolicy}

lemma telemetry_emit {effect : Effect} (h : effect.isTelemetry = false) : (c.emit effect).telemetry = c.telemetry := by
  simp [telemetry, emit, h]

@[simp] lemma telemetry_setState (state : State) : (c.setState state).telemetry = c.telemetry := rfl

@[simp] lemma telemetry_stopActivation : c.stopActivation.telemetry = c.telemetry := rfl

lemma telemetry_deactivate (user : ActivationPrincipal) : (c.deactivate user).2.telemetry = c.telemetry := by
  let c₁ := if c.portalDetected then { c.emit .activationBlockedForCaptivePortal with portalDetected := false } else c
  have h₁ : c₁.telemetry = c.telemetry := by
    dsimp only [c₁]
    split_ifs
    · exact telemetry_emit rfl
    · rfl
  let c₂ := if c₁.state = .StateOn ∨ c₁.state = .StateOnPartial ∨ c₁.state = .StateConfirming ∨
    c₁.state = .StateConnecting then c₁.setState .StateDisconnecting else c₁
  have h₂ : c₂.telemetry = c₁.telemetry := by
    dsimp only [c₂]
    split_ifs <;> rfl
  have h₃ : telemetry { (c₂.emit .recordDataTransferTelemetry).stopActivation.emit
      (.implDeactivate (stateToReason (c₂.emit .recordDataTransferTelemetry).stopActivation.state)) with
        activated := none } = c₂.telemetry := (telemetry_emit rfl).trans (telemetry_emit rfl)
  rw [deactivate]
  rw [apply_ite Prod.snd, apply_ite Prod.snd, apply_ite telemetry, apply_ite telemetry]
  exact ite_eq_left_iff.mpr fun _ => ite_eq_left_iff.mpr fun _ => h₃.trans (h₂.trans h₁)

lemma telemetry_activateNext : (c.activateNext env).telemetry = c.telemetry := by
  rw [activateNext]
  cases env.device with
  | none =>
    have he : ((c.emit .authenticationError).emit .reset).telemetry = c.telemetry :=
      (telemetry_emit rfl).trans (telemetry_emit rfl)
    dsimp only
    split_ifs
    · exact (telemetry_deactivate _).trans he
    · exact he
  | some device =>
    cases c.activationQueue with
    | nil => exact telemetry_emit rfl
    | cons config queue =>
      dsimp only
      split_ifs
      · exact telemetry_emit rfl
      · exact telemetry_emit rfl
      · exact telemetry_emit rfl

lemma telemetry_activateInternal :
    (c.activateInternal env dnsPort serverSelectionPolicy initiator).telemetry = c.telemetry := by
  have he : (c.emit (.activateInternal dnsPort serverSelectionPolicy initiator)).telemetry = c.telemetry :=
    telemetry_emit rfl
  rw [activateInternal]
  dsimp only
  split
  · exact (telemetry_emit rfl).trans he
  · exact he
  · exact telemetry_activateNext.trans he

lemma telemetry_connect : (c.connect env initiator serverSelectionPolicy).telemetry = c.telemetry := by
  rw [connect]
  apply telemetry_activateInternal.trans
  split_ifs <;> rfl

lemma telemetry_activate (serverData : ServerData) :
    (c.activate env serverData initiator serverSelectionPolicy).2.telemetry = c.telemetry := by
  rw [activate]
  dsimp only
  split_ifs
  · rfl
  · exact telemetry_emit rfl
  · rfl
  · exact telemetry_emit rfl
  · exact telemetry_emit rfl
  · exact telemetry_connect

lemma telemetry_accountRequestFinished (i : ℕ) (failed : Bool) :
    (c.accountRequestFinished env i failed).telemetry = c.telemetry := by
  rw [accountRequestFinished]
  split
  · rfl
  · dsimp only
    split_ifs
    · exact telemetry_connect.trans (telemetry_emit rfl)
    · rfl
    · exact telemetry_connect

lemma telemetry_startSwitching (state : State) (nextServerData : ServerData) :
    (c.startSwitching state nextServerData serverSelectionPolicy).telemetry = c.telemetry :=
  telemetry_deactivate _

lemma telemetry_silentSwitchServers (serverCoolDownPolicy : ServerCoolDownPolicyForSilentSwitch) :
    (c.silentSwitchServers env serverCoolDownPolicy).2.telemetry = c.telemetry := by
  rw [silentSwitchServers]
  split_ifs
  · rfl
  · rfl
  · exact (telemetry_startSwitching ..).trans (telemetry_emit rfl)
  · exact telemetry_startSwitching ..

lemma telemetry_switchServers (serverData : ServerData) : (c.switchServers serverData).2.telemetry = c.telemetry := by
  rw [switchServers]
  split_ifs
  · rfl
  · exact telemetry_startSwitching ..

lemma telemetry_handshakeTimeout : (c.handshakeTimeout env).telemetry = c.telemetry := by
  rw [handshakeTimeout]
  cases c.activationQueue with
  | nil => exact telemetry_emit rfl
  | cons hop queue =>
    have he : (c.emit (.setCooldown hop.serverPublicKey)).telemetry = c.telemetry := telemetry_emit rfl
    dsimp only
    split_ifs
    · exact (telemetry_deactivate _).trans he
    · exact telemetry_activateInternal.trans he
    · exact telemetry_activateInternal.trans he
    · exact (telemetry_emit rfl).trans he

lemma telemetry_quit : c.quit.telemetry = c.telemetry := by
  unfold quit
  dsimp only
  split_ifs
  · exact telemetry_emit rfl
  · exact telemetry_deactivate _
  · rfl

lemma telemetry_updateRequired : c.updateRequired.telemetry = c.telemetry := by
  rw [updateRequired]
  dsimp only
  split_ifs
  · exact telemetry_emit rfl
  · exact telemetry_deactivate _
  · rfl

lemma telemetry_processNextStep : c.processNextStep.2.telemetry = c.telemetry := by
  unfold processNextStep
  dsimp only
  split_ifs
  · exact telemetry_emit rfl
  · exact telemetry_emit rfl
  · rfl

lemma telemetry_implInitialized (status connected : Bool) (connectionDate : Option ℤ) :
    (c.implInitialized env status connected connectionDate).telemetry = c.telemetry := by
  have hp := telemetry_processNextStep (c := c)
  rw [implInitialized]
  cases status with
  | false => exact telemetry_emit rfl
  | true =>
    cases hc : c.processNextStep with
    | mk stopped c' =>
      rw [hc] at hp
      cases stopped <;> cases connected <;> exact hp

lemma telemetry_completeConnection (env : Env) : (c.completeConnection env).telemetry = c.telemetry ++
    if c.isSwitchingServer = true ∨ c.state = .StateOn ∨ c.state = .StateOnPartial then []
    else [.recordConnectionStartTelemetry] := by
  rw [completeConnection]
  by_cases hs : c.state = .StateOn ∨ c.state = .StateOnPartial
  · simp [hs, telemetry, setState, resetConnectedTime]
  · cases hw : c.isSwitchingServer <;>
      simp [hs, telemetry, setState, resetConnectedTime, emit, Effect.isTelemetry]

lemma telemetry_connectionCompleted : (c.connectionCompleted env).telemetry = c.telemetry ++
    if c.isSwitchingServer = true ∨ c.state = .StateOn ∨ c.state = .StateOnPartial then []
    else [.recordConnectionStartTelemetry] := by
  rw [← telemetry_completeConnection env]
  unfold connectionCompleted
  dsimp only
  split_ifs
  · exact telemetry_deactivate _
  · rfl

lemma telemetry_connected (pubkey : String) : (c.connected env pubkey).telemetry = c.telemetry ++
    if c.completes pubkey = true ∧ ¬(c.isSwitchingServer = true ∨ c.state = .StateOn ∨ c.state = .StateOnPartial)
    then [.recordConnectionStartTelemetry] else [] := by
  rcases connected_cases env pubkey c with ⟨hc, h⟩ | ⟨hc, -, h⟩ | ⟨first, next, queue, hc, -, -, h⟩
  · simp [h, hc]
  · rw [h, telemetry_connectionCompleted, hc]
    by_cases hs : c.isSwitchingServer = true ∨ c.state = .StateOn ∨ c.state = .StateOnPartial
    · rw [if_pos hs, if_neg fun h => h.2 hs]
      rfl
    · rw [if_neg hs, if_pos ⟨rfl, hs⟩]
      rfl
  · rw [h, hc, telemetry_activateNext]
    simp [telemetry]

lemma telemetry_disconnected : (c.disconnected env).telemetry = c.telemetry ++
    if ¬(c.nextStep = .None ∧ c.Switching) ∧ c.nextStep ≠ .Quit ∧ c.nextStep ≠ .Update ∧ c.state ≠ .StateConfirming
    then [.recordConnectionEndTelemetry] else [] := by
  by_cases h : c.nextStep = .None ∧ c.Switching
  · rw [disconnected_switching h.1 h.2, telemetry_connect, if_neg fun h' => h'.1 h, List.append_nil]
    rfl
  · have hn : c.stopActivation.nextStep = c.nextStep := rfl
    have hs : c.stopActivation.state = .StateSilentSwitching ∨ c.stopActivation.state = .StateSwitching ↔
      c.Switching := or_comm
    rw [disconnected]
    rcases processNextStep_cases c.stopActivation with ⟨hq, effect, -, hp⟩ | ⟨hq, hp⟩
    · have hq' : ¬(¬(c.nextStep = .None ∧ c.Switching) ∧ c.nextStep ≠ .Quit ∧ c.nextStep ≠ .Update ∧
          c.state ≠ .StateConfirming) := by tauto
      have ht := telemetry_processNextStep (c := c.stopActivation)
      rw [if_neg hq', List.append_nil]
      simp only [hp] at ht ⊢
      exact ht
    · have hst : c.stopActivation.state = c.state := rfl
      have hq' : c.nextStep ≠ .Quit ∧ c.nextStep ≠ .Update := by
        rw [hn] at hq
        rcases hq with hq | hq <;> simp [hq]
      simp only [hp, hn, hs, if_neg h]
      simp only [hst, h, hq', not_false_eq_true, ne_eq, true_and]
      split_ifs
      · exact (List.append_nil _).symm
      · simp [telemetry, emit, setState, stopActivation, clearRetryCounter, clearConnectedTime, Effect.isTelemetry]

lemma telemetry_handle {event : Event} (hc : ∀ pubkey, event ≠ .connected pubkey) (hd : event ≠ .disconnected) :
    (handle env c event).telemetry = c.telemetry := by
  cases event with
  | initializeController => exact telemetry_emit rfl
  | implInitialized status connected connectionDate => exact telemetry_implInitialized ..
  | activate serverData initiator serverSelectionPolicy => exact telemetry_activate _
  | accountRequestFinished i failed => exact telemetry_accountRequestFinished i failed
  | deactivate user => exact telemetry_deactivate user
  | switchServers serverData => exact telemetry_switchServers serverData
  | silentSwitchServers serverCoolDownPolicy => exact telemetry_silentSwitchServers serverCoolDownPolicy
  | connected pubkey => exact (hc pubkey rfl).elim
  | disconnected => exact (hd rfl).elim
  | quit => exact telemetry_quit
  | updateRequired => exact telemetry_updateRequired
  | captivePortalPresent | captivePortalGone => rfl
  | timerTimeout =>
    simp only [handle, timerTimeout]
    split_ifs
    · rfl
    · exact telemetry_emit rfl
    · rfl
  | connectingTimeout =>
    simp only [handle]
    split_ifs <;> rfl
  | handshakeTimeout =>
    simp only [handle]
    split_ifs
    · exact telemetry_handshakeTimeout
    · rfl
  | pingSentAndReceived =>
    simp only [handle]
    split_ifs <;> rfl

lemma recorded_iff (p : Controller × Bool) (e : Env × Event) : Recorded p e ↔ SessionKept p e := by
  obtain ⟨c, session⟩ := p
  obtain ⟨env, event⟩ := e
  have ht : telemetry { c with out := [] } = [] := rfl
  cases event with
  | connected pubkey =>
    have hc : completes { c with out := [] } pubkey = c.completes pubkey := rfl
    simp only [Recorded, SessionKept, step, handle, watchSession, telemetry_connected, ht, hc, List.nil_append]
    by_cases hs : c.isSwitchingServer = true ∨ c.state = .StateOn ∨ c.state = .StateOnPartial
    · simp only [hs, not_true, and_false, if_false]
      cases session <;> cases c.completes pubkey <;> simp [changes]
    · simp only [hs, not_false_eq_true, and_true]
      cases session <;> cases c.completes pubkey <;> simp [changes]
  | disconnected =>
    have hs : Switching { c with out := [] } ↔ c.Switching := Iff.rfl
    simp only [Recorded, SessionKept, step, handle, watchSession, telemetry_disconnected, ht, hs, List.nil_append]
    by_cases h : c.nextStep = .None ∧ c.Switching
    · cases session <;> simp [changes, h]
    · cases session <;> simp [changes, h]
  | implInitialized status connected connectionDate =>
    simp only [Recorded, SessionKept, step, watchSession]
    rw [telemetry_handle (by simp) (by simp), ht]
    have hr : ReportsConnection { c with out := [] } status connected ↔ c.ReportsConnection status connected := Iff.rfl
    by_cases h : c.ReportsConnection status connected
    · cases session <;> simp [changes, h]
    · cases session <;> simp [changes, h]
  | _ =>
    simp only [Recorded, SessionKept, step, watchSession]
    rw [telemetry_handle (by simp) (by simp), ht]
    cases session <;> simp [changes]

end

lemma alternates_trace {c : Controller} {session : Bool} {es : List (Env × Event)}
    (h : Meets (watch step watchSession) Recorded (c, session) es) : Alternates session (c.trace es) := by
  induction es generalizing c session with
  | nil => trivial
  | cons e es ih =>
    have he : (c.step e).telemetry = changes session (watchSession c e session) := h.1
    rw [trace, he]
    exact alternates_changes _ _ (ih h.2)

/-- The telemetry of a run records what happens to the session at each step, and with that starts and ends
take turns, exactly if each step keeps the session. -/
theorem telemetry_alternates_iff (c : Controller) (es : List (Env × Event)) :
    Meets (watch step watchSession) Recorded (c, false) es ∧ Alternates false (c.trace es) ↔
      Meets (watch step watchSession) SessionKept (c, false) es := by
  have h : Recorded = SessionKept := by
    funext p e
    exact propext (recorded_iff p e)
  rw [← h]
  exact ⟨And.left, fun hr => ⟨hr, alternates_trace hr⟩⟩

/-- An activation that is cancelled before its handshake ends a session that has not started. -/
theorem telemetry_cancelled_activation :
    let events := [.activate { exitCityName := "A" } .ClientUser .RandomizeServerSelection,
      .accountRequestFinished 0 false, .deactivate .ClientUser, .disconnected].map (Env.working, ·)
    let c : Controller := { state := .StateOff, isSwitchingServer := false }
    c.trace events = [.recordConnectionEndTelemetry] ∧ ¬Alternates false (c.trace events) := by
  intro events c
  have h : c.trace events = [.recordConnectionEndTelemetry] := by decide
  rw [h]
  exact ⟨rfl, fun ha => by cases ha.1⟩

end Controller

end VpnClient.Client
