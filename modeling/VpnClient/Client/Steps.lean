import VpnClient.Client.Controller

/-! What the operations of the controller leave behind: how an activation is stopped and how one is
attempted. -/

namespace VpnClient.Client

open Backend

/-- The effects of an attempt to activate, and failed assertions. -/
def Effect.isAttempt : Effect → Bool
  | implActivate _ _ | activateInternal _ _ _ | assertionFailed => true
  | _ => false

namespace Controller

def attempts (c : Controller) : List Effect := c.out.filter Effect.isAttempt

def Switching (c : Controller) : Prop := c.state = .StateSwitching ∨ c.state = .StateSilentSwitching

instance (c : Controller) : Decidable c.Switching := inferInstanceAs (Decidable (_ ∨ _))

/-- What no invariant distinguishes: `c'` is `c` up to its data, its requests and its next step. -/
structure Same (c c' : Controller) : Prop where
  state : c'.state = c.state
  initiator : c'.initiator = c.initiator
  timer : c'.timer = c.timer
  handshakeTimer : c'.handshakeTimer = c.handshakeTimer
  connectedTimeInUTC : c'.connectedTimeInUTC = c.connectedTimeInUTC
  activationQueue : c'.activationQueue = c.activationQueue
  connectionRetry : c'.connectionRetry = c.connectionRetry
  isSwitchingServer : c'.isSwitchingServer = c.isSwitchingServer
  activated : c'.activated = c.activated
  attempts : c'.attempts = c.attempts

/-- `deactivate` accepts the user. -/
def Deactivable (user : ActivationPrincipal) (c : Controller) : Prop :=
  c.initiator.toNat ≤ user.toNat ∧ (c.Switching ∨ c.state = .StateOn ∨ c.state = .StateOnPartial ∨
    c.state = .StateConfirming ∨ c.state = .StateConnecting)

instance (user : ActivationPrincipal) (c : Controller) : Decidable (c.Deactivable user) :=
  inferInstanceAs (Decidable (_ ∧ _))

/-- In `c'` no attempt goes on, and what does not belong to one is as in `c`. -/
structure Stopped (c c' : Controller) : Prop where
  activationQueue : c'.activationQueue = []
  handshakeTimer : c'.handshakeTimer = false
  timer : c'.timer = false
  connectionRetry : c'.connectionRetry = 0
  connectedTimeInUTC : c'.connectedTimeInUTC = c.clearConnectedTime.connectedTimeInUTC
  isSwitchingServer : c'.isSwitchingServer = c.isSwitchingServer
  initiator : c'.initiator = c.initiator
  attempts : c'.attempts = c.attempts

structure Deactivated (c c' : Controller) : Prop extends Stopped c c' where
  state : c'.state = if c.Switching then c.state else .StateDisconnecting

/-- `c'` comes from a disconnection of `c` that is not followed by an activation. -/
structure Ended (c c' : Controller) : Prop where
  activationQueue : c'.activationQueue = []
  handshakeTimer : c'.handshakeTimer = false
  timer : c'.timer = false
  connectionRetry : c'.connectionRetry = 0
  connectedTimeInUTC : c'.connectedTimeInUTC = c.clearConnectedTime.connectedTimeInUTC
  state : c'.state = .StateOff
  attempts : c'.attempts = c.attempts

/-- What an attempt to activate for the principal keeps and sets in any case. -/
structure Attempted (principal : ActivationPrincipal) (c c' : Controller) : Prop where
  initiator : c'.initiator = principal
  timer : c'.timer = false
  connectionRetry : c'.connectionRetry = c.connectionRetry
  connectedTimeInUTC : c'.connectedTimeInUTC = c.clearConnectedTime.connectedTimeInUTC
  isSwitchingServer : c'.isSwitchingServer = c.isSwitchingServer

/-- An attempt that fails for want of a server or of a device. -/
structure Aborted (principal : ActivationPrincipal) (c c' : Controller) : Prop extends Attempted principal c c' where
  activationQueue : c'.activationQueue = []
  handshakeTimer : c'.handshakeTimer = false
  state : c'.state = c.state
  attempts : ∃ dnsPort serverSelectionPolicy,
    c'.attempts = c.attempts ++ [.activateInternal dnsPort serverSelectionPolicy principal]

/-- An attempt that asks the backend for the first hop of the activation. -/
structure Started (activation : Activation) (principal : ActivationPrincipal) (c c' : Controller) : Prop
    extends Attempted principal c c' where
  activationQueue : c'.activationQueue = activation.activationQueue
  handshakeTimer : c'.handshakeTimer = true
  activated : c'.activated = activation.activationQueue.head?
  state : c'.state =
    if principal = .ExtensionUser ∨ c.state = .StateSilentSwitching then c.state else .StateConfirming
  attempts : ∃ dnsPort serverSelectionPolicy first, c'.attempts = c.attempts ++
    [.activateInternal dnsPort serverSelectionPolicy principal, .implActivate first (stateToReason c.state)]

/-- The principal and the policy for which an event makes the controller connect at once. -/
def connects (env : Env) (c : Controller) : Event → Option (ActivationPrincipal × ServerSelectionPolicy)
  | .activate _ initiator serverSelectionPolicy =>
    if c.state = .StateOnPartial ∨ c.Switching then some (initiator, serverSelectionPolicy) else none
  | .accountRequestFinished i failed =>
    if failed ∧ env.appState ≠ .StateMain ∧ env.appState ≠ .StateOnboarding then none else c.accountRequests[i]?
  | .disconnected =>
    if c.nextStep = .None ∧ c.Switching then
      some (if c.state = .StateSilentSwitching then c.initiator else .ClientUser, c.nextServerSelectionPolicy)
    else none
  | _ => none

/-- The controller that `activateInternal` finds when `connect` calls it. -/
def connecting (initiator : ActivationPrincipal) (c : Controller) : Controller :=
  clearRetryCounter (if initiator ≠ .ExtensionUser then c.setState .StateConnecting else c)

/-- The last handshake sets the state and starts the clock, and keeps the start of a connection that
was switched. -/
structure Completed (env : Env) (c c' : Controller) : Prop where
  activationQueue : c'.activationQueue = c.activationQueue
  handshakeTimer : c'.handshakeTimer = false
  timer : c'.timer = true
  connectionRetry : c'.connectionRetry = 0
  isSwitchingServer : c'.isSwitchingServer =
    if c.state = .StateOn ∨ c.state = .StateOnPartial then true else c.isSwitchingServer
  connectedTimeInUTC : c'.connectedTimeInUTC =
    if c'.isSwitchingServer then c.connectedTimeInUTC else some env.now
  state : c'.state = if c.initiator = .ExtensionUser then .StateOnPartial else .StateOn
  initiator : c'.initiator = c.initiator
  nextStep : c'.nextStep = c.nextStep
  attempts : c'.attempts = c.attempts

/-- The backend reports a connection, which no next step prevents. -/
def ReportsConnection (c : Controller) (status connected : Bool) : Prop :=
  status = true ∧ connected = true ∧ (c.nextStep = .None ∨ c.nextStep = .Disconnect)

instance (c : Controller) (status connected : Bool) : Decidable (c.ReportsConnection status connected) :=
  inferInstanceAs (Decidable (_ ∧ _))

/-- The handshake is the last one of the connection. -/
def completes (c : Controller) (pubkey : String) : Bool :=
  match c.activationQueue with
  | [] => c.serverData.exitServerPublicKey = pubkey
  | [first] => first.serverPublicKey = pubkey
  | _ => false

/-- What an event that does not make the controller connect at once can lead to. -/
inductive Outcome (env : Env) (c : Controller) : Event → Controller → Prop
  | same {e : Event} {c' : Controller} (h : Same c c') : Outcome env c e c'
  | asked {serverData : ServerData} {initiator : ActivationPrincipal} {serverSelectionPolicy : ServerSelectionPolicy}
    {c' : Controller} (hs : c.state = .StateOff) (h : Same { c with isSwitchingServer := false } c') :
    Outcome env c (.activate serverData initiator serverSelectionPolicy) c'
  | deactivated {e : Event} {c' : Controller} (hd : Deactivated c c') : Outcome env c e c'
  | switched {e : Event} {c' : Controller} (state : State) (hs : state = .StateSwitching ∨ state = .StateSilentSwitching)
    (ho : c.state ≠ .StateOff) (hd : Deactivated { c with state, isSwitchingServer := true } c') : Outcome env c e c'
  | initialized {c' : Controller} (h : Same { c with state := .StateInitializing, activated := none } c') :
    Outcome env c .initializeController c'
  | implOff {c' : Controller} {status connected : Bool} {connectionDate : Option ℤ}
    (hr : ¬ c.ReportsConnection status connected) (h : Same { c with state := .StateOff } c') :
    Outcome env c (.implInitialized status connected connectionDate) c'
  | implOn {c' : Controller} {status connected : Bool} {connectionDate : Option ℤ}
    (hr : c.ReportsConnection status connected) (h : Same { c with
      state := .StateOn, timer := true, connectedTimeInUTC := some (connectionDate.getD env.now) } c') :
    Outcome env c (.implInitialized status connected connectionDate) c'
  | completed {c₁ c' : Controller} {pubkey : String} (hq : c.activationQueue.length ≤ 1)
    (hc : Completed env { c with activationQueue := [] } c₁) (h : c' = c₁ ∨ Deactivated c₁ c') :
    Outcome env c (.connected pubkey) c'
  | advanced {first next : InterfaceConfig} {queue : List InterfaceConfig} {c' : Controller}
    (hq : c.activationQueue = first :: next :: queue)
    (h : c' = activateNext env { c with activationQueue := next :: queue }) :
    Outcome env c (.connected first.serverPublicKey) c'
  | ended {c' : Controller} (hn : ¬ (c.nextStep = .None ∧ c.Switching)) (h : Ended c c') :
    Outcome env c .disconnected c'
  | timedOut {c' : Controller} (ht : c.handshakeTimer = true)
    (h : c' = handshakeTimeout env { c with handshakeTimer := false }) : Outcome env c .handshakeTimeout c'
  | assertionFailed {c' : Controller} (ht : c.timer = true) (hs : ¬ (c.state = .StateOn ∨ c.state = .StateOnPartial))
    (h : c' = c.emit .assertionFailed) : Outcome env c .timerTimeout c'

section

variable {c : Controller} {env : Env} {user initiator : ActivationPrincipal} {dnsPort : DNSPortPolicy}
  {serverSelectionPolicy : ServerSelectionPolicy}

lemma attempts_emit {effect : Effect} (h : effect.isAttempt = false) : (c.emit effect).attempts = c.attempts := by
  simp [attempts, emit, h]

lemma Same.refl (c : Controller) : Same c c := ⟨rfl, rfl, rfl, rfl, rfl, rfl, rfl, rfl, rfl, rfl⟩

lemma Deactivated.of_same {c₁ c' : Controller} (hd : Deactivated c₁ c') (h : Same c c₁) : Deactivated c c' where
  activationQueue := hd.activationQueue
  handshakeTimer := hd.handshakeTimer
  timer := hd.timer
  connectionRetry := hd.connectionRetry
  connectedTimeInUTC := by
    rw [hd.connectedTimeInUTC, clearConnectedTime, clearConnectedTime, h.isSwitchingServer, h.connectedTimeInUTC]
  isSwitchingServer := hd.isSwitchingServer.trans h.isSwitchingServer
  initiator := hd.initiator.trans h.initiator
  attempts := hd.attempts.trans h.attempts
  state := by
    have hs : c₁.Switching ↔ c.Switching := by simp only [Switching, h.state]
    rw [hd.state, h.state]
    exact if_congr hs rfl rfl

lemma deactivate_refused (h : ¬ c.Deactivable user) : c.deactivate user = (false, c) := by
  rw [deactivate]
  by_cases hu : c.initiator.toNat > user.toNat
  · rw [if_pos hu]
  · have hs : ¬ (c.Switching ∨ c.state = .StateOn ∨ c.state = .StateOnPartial ∨ c.state = .StateConfirming ∨
        c.state = .StateConnecting) := fun hs => h ⟨Nat.not_lt.mp hu, hs⟩
    unfold Switching at hs
    rw [if_neg hu, if_pos (by tauto)]

lemma deactivate_accepted (h : c.Deactivable user) :
    (c.deactivate user).1 = true ∧ Deactivated c (c.deactivate user).2 := by
  obtain ⟨hu, hs⟩ := h
  unfold Switching at hs
  have hs' : ¬ (c.state ≠ .StateOn ∧ c.state ≠ .StateOnPartial ∧ c.state ≠ .StateSwitching ∧
      c.state ≠ .StateSilentSwitching ∧ c.state ≠ .StateConfirming ∧ c.state ≠ .StateConnecting) := by tauto
  rw [deactivate]
  rw [if_neg (Nat.not_lt.mpr hu), if_neg hs']
  refine ⟨rfl, ?_⟩
  cases hp : c.portalDetected <;> rcases hs with (hs | hs) | hs | hs | hs | hs
  all_goals
    simp only [hs, emit, setState, if_true, if_false, reduceCtorEq, or_false, or_true, or_self, Bool.false_eq_true]
    refine ⟨⟨rfl, rfl, rfl, rfl, rfl, rfl, rfl, ?_⟩, ?_⟩
    · simp [attempts, stopActivation, clearRetryCounter, clearConnectedTime, Effect.isAttempt]
    · simp [Switching, hs, stopActivation, clearRetryCounter, clearConnectedTime]

lemma activation_device {serverData : ServerData} {activation : Activation}
    (h : env.activation serverData dnsPort serverSelectionPolicy initiator = .ok activation) :
    ∃ device, env.device = some device := by
  unfold Env.activation at h
  cases hd : env.device with
  | none =>
    rw [hd] at h
    dsimp only at h
    split_ifs at h
  | some device => exact ⟨device, rfl⟩

lemma activationQueue_cons (activation : Activation) :
    ∃ first queue, activation.activationQueue = first :: queue := by
  cases activation <;> exact ⟨_, _, rfl⟩

lemma activateNext_some {device : Device} {config : InterfaceConfig} {queue : List InterfaceConfig}
    (hd : env.device = some device) (hq : c.activationQueue = config :: queue) :
    c.activateNext env = setState
      (if c.initiator = .ExtensionUser ∨ c.state = .StateSilentSwitching then c.state else .StateConfirming)
      { c with
        handshakeTimer := true
        activated := some config
        out := c.out ++ [.implActivate config (stateToReason c.state)] } := by
  rw [activateNext]
  rw [hd, hq]
  by_cases he : c.initiator = .ExtensionUser
  · simp [he, emit, setState]
  · by_cases hs : c.state = .StateSilentSwitching
    · simp [he, hs, emit, setState]
    · simp only [emit, he, hs, or_self, if_false, ne_eq, not_false_eq_true, if_true]

lemma activateInternal_cases (env : Env) (dnsPort : DNSPortPolicy) (serverSelectionPolicy : ServerSelectionPolicy)
    (initiator : ActivationPrincipal) (c : Controller) :
    ((∃ abort, env.activation c.serverData dnsPort serverSelectionPolicy initiator = .error abort) ∧
      Aborted initiator c (c.activateInternal env dnsPort serverSelectionPolicy initiator)) ∨
    ∃ activation, env.activation c.serverData dnsPort serverSelectionPolicy initiator = .ok activation ∧
      Started activation initiator c (c.activateInternal env dnsPort serverSelectionPolicy initiator) := by
  rw [activateInternal]
  dsimp only [emit, clearConnectedTime]
  cases h : env.activation c.serverData dnsPort serverSelectionPolicy initiator with
  | error abort =>
    refine Or.inl ⟨⟨abort, rfl⟩, ?_⟩
    cases abort with
    | serverUnavailable =>
      refine ⟨⟨rfl, rfl, rfl, rfl, rfl⟩, rfl, rfl, rfl, dnsPort, serverSelectionPolicy, ?_⟩
      simp only [attempts, serverUnavailable, emit, List.filter_append, List.append_assoc]
      rfl
    | noDevice =>
      exact ⟨⟨rfl, rfl, rfl, rfl, rfl⟩, rfl, rfl, rfl, dnsPort, serverSelectionPolicy, List.filter_append ..⟩
  | ok activation =>
    obtain ⟨device, hd⟩ := activation_device h
    obtain ⟨first, queue, hq⟩ := activationQueue_cons activation
    refine Or.inr ⟨activation, rfl, ?_⟩
    dsimp only [startActivation]
    rw [activateNext_some hd hq]
    refine ⟨⟨rfl, rfl, rfl, rfl, rfl⟩, rfl, rfl, ?_, rfl, dnsPort, serverSelectionPolicy, first, ?_⟩
    · rw [hq]
      rfl
    · simp only [attempts, setState, List.filter_append, List.append_assoc]
      rfl

lemma connect_cases (env : Env) (initiator : ActivationPrincipal) (serverSelectionPolicy : ServerSelectionPolicy)
    (c : Controller) :
    Aborted initiator (c.connecting initiator) (c.connect env initiator serverSelectionPolicy) ∨
    ∃ activation, Started activation initiator (c.connecting initiator)
      (c.connect env initiator serverSelectionPolicy) := by
  rcases activateInternal_cases env .DoNotForceDNSPort serverSelectionPolicy initiator (c.connecting initiator) with
    ⟨-, ha⟩ | ⟨activation, -, hs⟩
  · exact Or.inl ha
  · exact Or.inr ⟨activation, hs⟩

lemma attempts_connecting (initiator : ActivationPrincipal) (c : Controller) :
    (c.connecting initiator).attempts = c.attempts := by
  rw [connecting]
  split_ifs <;> rfl

lemma serverData_connecting (initiator : ActivationPrincipal) (c : Controller) :
    (c.connecting initiator).serverData = c.serverData := by
  rw [connecting]
  split_ifs <;> rfl

lemma processNextStep_cases (c : Controller) :
    ((c.nextStep = .Quit ∨ c.nextStep = .Update) ∧ ∃ effect, effect.isAttempt = false ∧
      c.processNextStep = (true, emit effect { c with nextStep := .None })) ∨
    (c.nextStep = .None ∨ c.nextStep = .Disconnect) ∧ c.processNextStep = (false, { c with nextStep := .None }) := by
  rw [processNextStep]
  cases h : c.nextStep
  · exact Or.inr ⟨Or.inl rfl, rfl⟩
  · exact Or.inl ⟨Or.inl rfl, _, rfl, rfl⟩
  · exact Or.inl ⟨Or.inr rfl, _, rfl, rfl⟩
  · exact Or.inr ⟨Or.inr rfl, rfl⟩

lemma activate_connects (serverData : ServerData) (h : c.state = .StateOnPartial ∨ c.Switching) :
    c.activate env serverData initiator serverSelectionPolicy =
      (true, { c with isSwitchingServer := decide c.Switching, serverData }.connect env initiator
        serverSelectionPolicy) := by
  unfold Switching at h
  have hs : ¬ (c.state ≠ .StateOff ∧ c.state ≠ .StateOnPartial ∧ c.state ≠ .StateSwitching ∧
      c.state ≠ .StateSilentSwitching) := by tauto
  have ho : c.state ≠ .StateOff := by
    intro ho
    simp [ho] at h
  rw [activate]
  rw [if_neg hs, if_neg ho]
  rfl

lemma disconnected_switching (hn : c.nextStep = .None) (hs : c.Switching) :
    c.disconnected env = connect env (if c.state = .StateSilentSwitching then c.initiator else .ClientUser)
      c.nextServerSelectionPolicy { c.stopActivation with
        nextStep := .None, isSwitchingServer := true, serverData := c.nextServerData } := by
  have hp : c.stopActivation.processNextStep = (false, { c.stopActivation with nextStep := .None }) := by
    rw [processNextStep]
    rw [show c.stopActivation.nextStep = c.nextStep from rfl, hn]
    rfl
  have hs' : ({ c.stopActivation with nextStep := .None } : Controller).Switching := hs
  rw [disconnected]
  simp only [hp]
  rw [if_pos ⟨hn, Or.symm hs⟩, activate_connects _ (Or.inr hs'), decide_eq_true hs']
  rfl

lemma ended_disconnected (env : Env) (h : ¬ (c.nextStep = .None ∧ c.Switching)) : Ended c (c.disconnected env) := by
  have hn : c.stopActivation.nextStep = c.nextStep := rfl
  have hs : c.stopActivation.state = .StateSilentSwitching ∨ c.stopActivation.state = .StateSwitching ↔ c.Switching :=
    or_comm
  rw [disconnected]
  rcases processNextStep_cases c.stopActivation with ⟨-, effect, he, hp⟩ | ⟨-, hp⟩
  · simp only [hp]
    exact ⟨rfl, rfl, rfl, rfl, rfl, rfl, attempts_emit he⟩
  · simp only [hp, hn, hs, if_neg h]
    split_ifs
    · exact ⟨rfl, rfl, rfl, rfl, rfl, rfl, attempts_emit rfl⟩
    · exact ⟨rfl, rfl, rfl, rfl, rfl, rfl, rfl⟩

lemma accountRequestFinished_connects {i : ℕ} {failed : Bool}
    (h : connects env c (.accountRequestFinished i failed) = some (initiator, serverSelectionPolicy)) :
    ∃ c₀ : Controller, c.accountRequestFinished env i failed = c₀.connect env initiator serverSelectionPolicy ∧
      Same c c₀ ∧ c₀.serverData = c.serverData := by
  rw [connects] at h
  split_ifs at h with hf
  simp only [accountRequestFinished, h]
  cases failed with
  | false => exact ⟨_, rfl, ⟨rfl, rfl, rfl, rfl, rfl, rfl, rfl, rfl, rfl, attempts_emit rfl⟩, rfl⟩
  | true =>
    simp only [true_and] at hf
    simp only [Bool.not_true, Bool.false_eq_true, if_false, if_neg hf]
    exact ⟨_, rfl, ⟨rfl, rfl, rfl, rfl, rfl, rfl, rfl, rfl, rfl, rfl⟩, rfl⟩

lemma handle_connects {e : Event} (h : connects env c e = some (initiator, serverSelectionPolicy)) :
    ∃ c₀ : Controller, handle env c e = c₀.connect env initiator serverSelectionPolicy ∧ c₀.state = c.state ∧
      c₀.attempts = c.attempts := by
  cases e with
  | activate serverData _ _ =>
    simp only [connects] at h
    split_ifs at h with hs
    obtain ⟨rfl, rfl⟩ : _ ∧ _ := by simpa using h
    rw [handle, activate_connects serverData hs]
    exact ⟨_, rfl, rfl, rfl⟩
  | accountRequestFinished i failed =>
    obtain ⟨c₀, he, hs, -⟩ := accountRequestFinished_connects h
    exact ⟨c₀, he, hs.state, hs.attempts⟩
  | disconnected =>
    by_cases hs : c.nextStep = .None ∧ c.Switching
    · rw [connects, if_pos hs] at h
      obtain ⟨rfl, rfl⟩ : _ ∧ _ := by simpa using h
      exact ⟨_, disconnected_switching hs.1 hs.2, rfl, rfl⟩
    · rw [connects, if_neg hs] at h
      cases h
  | _ => simp [connects] at h

lemma toNat_le (principal : ActivationPrincipal) : principal.toNat ≤ ActivationPrincipal.ClientUser.toNat := by
  cases principal <;> decide

lemma Completed.deactivable {c' : Controller} (h : Completed env c c') : c'.Deactivable .ClientUser := by
  refine ⟨toNat_le _, Or.inr ?_⟩
  rw [h.state]
  split_ifs <;> simp

lemma completed_completeConnection (env : Env) (c : Controller) : Completed env c (c.completeConnection env) := by
  rw [completeConnection]
  by_cases hs : c.state = .StateOn ∨ c.state = .StateOnPartial
  · simp only [hs, if_true, resetConnectedTime, setState, Bool.not_true, Bool.false_eq_true, if_false]
    exact ⟨rfl, rfl, rfl, rfl, (if_pos hs).symm, rfl, rfl, rfl, rfl, rfl⟩
  · cases hw : c.isSwitchingServer with
    | false =>
      simp only [hs, if_true, resetConnectedTime, setState, Bool.not_false, if_false]
      refine ⟨rfl, rfl, rfl, rfl, ?_, ?_, rfl, rfl, rfl, attempts_emit rfl⟩
      · simp [hs, hw, emit]
      · simp [emit]
    | true =>
      simp only [hs, resetConnectedTime, setState, Bool.not_true, Bool.false_eq_true, if_false]
      refine ⟨rfl, rfl, rfl, rfl, ?_, ?_, rfl, rfl, rfl, rfl⟩
      · simp [hs, hw]
      · simp

lemma connectionCompleted_cases (env : Env) (c : Controller) : ∃ c₁, Completed env c c₁ ∧
    (c.nextStep = .None ∧ c.connectionCompleted env = c₁ ∨
      c.nextStep ≠ .None ∧ Deactivated c₁ (c.connectionCompleted env)) := by
  have hc := completed_completeConnection env c
  refine ⟨_, hc, ?_⟩
  dsimp only [connectionCompleted]
  rw [hc.nextStep]
  by_cases hn : c.nextStep = .None
  · exact Or.inl ⟨hn, if_neg (not_not.mpr hn)⟩
  · rw [if_pos hn]
    exact Or.inr ⟨hn, (deactivate_accepted hc.deactivable).2⟩

lemma activateNext_none (hd : env.device = none) :
    (env.schedulerIdle = true ∧ c.Deactivable .ClientUser) ∧ Deactivated c (c.activateNext env) ∨
    ¬ (env.schedulerIdle = true ∧ c.Deactivable .ClientUser) ∧
      ∃ out, c.activateNext env = { c with out } ∧ ({ c with out } : Controller).attempts = c.attempts := by
  let c₁ := (c.emit .authenticationError).emit .reset
  have ha : c₁.attempts = c.attempts := (attempts_emit rfl).trans (attempts_emit rfl)
  have he : c.activateNext env = if env.schedulerIdle then (c₁.deactivate .ClientUser).2 else c₁ := by
    rw [activateNext]
    rw [hd]
  rw [he]
  by_cases hi : env.schedulerIdle = true
  · rw [if_pos hi]
    by_cases hu : c₁.Deactivable .ClientUser
    · refine Or.inl ⟨⟨hi, hu⟩, ?_⟩
      exact (deactivate_accepted hu).2.of_same ⟨rfl, rfl, rfl, rfl, rfl, rfl, rfl, rfl, rfl, ha⟩
    · rw [deactivate_refused hu]
      exact Or.inr ⟨fun h => hu h.2, c₁.out, rfl, ha⟩
  · rw [if_neg hi]
    exact Or.inr ⟨fun h => hi h.1, c₁.out, rfl, ha⟩

lemma deactivate_cases (user : ActivationPrincipal) {c₁ : Controller} (h : Same c c₁) :
    Same c (c₁.deactivate user).2 ∨ Deactivated c (c₁.deactivate user).2 := by
  by_cases hu : c₁.Deactivable user
  · exact Or.inr ((deactivate_accepted hu).2.of_same h)
  · rw [deactivate_refused hu]
    exact Or.inl h

lemma quit_cases (c : Controller) : Same c c.quit ∨ Deactivated c c.quit := by
  unfold quit
  dsimp only
  split_ifs
  · exact Or.inl ⟨rfl, rfl, rfl, rfl, rfl, rfl, rfl, rfl, rfl, attempts_emit rfl⟩
  · exact deactivate_cases _ ⟨rfl, rfl, rfl, rfl, rfl, rfl, rfl, rfl, rfl, rfl⟩
  · exact Or.inl ⟨rfl, rfl, rfl, rfl, rfl, rfl, rfl, rfl, rfl, rfl⟩

lemma updateRequired_cases (c : Controller) : Same c c.updateRequired ∨ Deactivated c c.updateRequired := by
  rw [updateRequired]
  dsimp only
  split_ifs
  · exact Or.inl ⟨rfl, rfl, rfl, rfl, rfl, rfl, rfl, rfl, rfl, attempts_emit rfl⟩
  · exact deactivate_cases _ ⟨rfl, rfl, rfl, rfl, rfl, rfl, rfl, rfl, rfl, rfl⟩
  · exact Or.inl ⟨rfl, rfl, rfl, rfl, rfl, rfl, rfl, rfl, rfl, rfl⟩

lemma Outcome.stopped {e : Event} {c' : Controller} (h : Same c c' ∨ Deactivated c c') : Outcome env c e c' :=
  h.elim .same .deactivated

lemma deactivated_startSwitching {state : State} {c₁ : Controller} (nextServerData : ServerData)
    (nextServerSelectionPolicy : ServerSelectionPolicy) (hs : state = .StateSwitching ∨ state = .StateSilentSwitching)
    (h : Same c c₁) : Deactivated { c with state, isSwitchingServer := true }
      (c₁.startSwitching state nextServerData nextServerSelectionPolicy) := by
  let c₂ := setState state (clearRetryCounter (clearConnectedTime
    { c₁ with isSwitchingServer := true, nextServerData, nextServerSelectionPolicy }))
  have hu : c₂.Deactivable .ClientUser := ⟨toNat_le _, Or.inl hs⟩
  obtain ⟨hd, ht⟩ := (deactivate_accepted hu).2
  refine ⟨⟨hd.activationQueue, hd.handshakeTimer, hd.timer, hd.connectionRetry, ?_, hd.isSwitchingServer,
    hd.initiator.trans h.initiator, hd.attempts.trans h.attempts⟩, ht⟩
  rw [startSwitching, hd.connectedTimeInUTC]
  exact h.connectedTimeInUTC

lemma switchServers_cases (serverData : ServerData) (c : Controller) :
    c.state = .StateOff ∧ c.switchServers serverData = (false, c) ∨
    c.state ≠ .StateOff ∧ (c.switchServers serverData).1 = true ∧
      Deactivated { c with state := .StateSwitching, isSwitchingServer := true } (c.switchServers serverData).2 := by
  rw [switchServers]
  by_cases hs : c.state = .StateOff
  · exact Or.inl ⟨hs, if_pos hs⟩
  · rw [if_neg hs]
    exact Or.inr ⟨hs, rfl, deactivated_startSwitching _ _ (Or.inl rfl) (.refl c)⟩

lemma silentSwitchServers_cases (env : Env) (serverCoolDownPolicy : ServerCoolDownPolicyForSilentSwitch)
    (c : Controller) :
    c.silentSwitchServers env serverCoolDownPolicy = (false, c) ∨
    c.state ≠ .StateOff ∧ (c.silentSwitchServers env serverCoolDownPolicy).1 = true ∧
      Deactivated { c with state := .StateSilentSwitching, isSwitchingServer := true }
        (c.silentSwitchServers env serverCoolDownPolicy).2 := by
  rw [silentSwitchServers]
  split_ifs with hs
  · exact Or.inl rfl
  · exact Or.inl rfl
  · exact Or.inr ⟨by simp [not_not.mp hs], rfl, deactivated_startSwitching _ _ (Or.inr rfl)
      ⟨rfl, rfl, rfl, rfl, rfl, rfl, rfl, rfl, rfl, attempts_emit rfl⟩⟩
  · exact Or.inr ⟨by simp [not_not.mp hs], rfl, deactivated_startSwitching _ _ (Or.inr rfl) (.refl c)⟩

lemma connected_cases (env : Env) (pubkey : String) (c : Controller) :
    c.completes pubkey = false ∧ c.connected env pubkey = c ∨
    (c.completes pubkey = true ∧ c.activationQueue.length ≤ 1 ∧
      c.connected env pubkey = connectionCompleted env { c with activationQueue := [] }) ∨
    ∃ first next queue, c.completes pubkey = false ∧ c.activationQueue = first :: next :: queue ∧
      first.serverPublicKey = pubkey ∧
        c.connected env pubkey = activateNext env { c with activationQueue := next :: queue } := by
  rw [connected, completes]
  match hq : c.activationQueue with
  | [] =>
    have he : { c with activationQueue := [] } = c := by rw [← hq]
    dsimp only
    split_ifs with hk
    · exact Or.inl ⟨decide_eq_false hk, rfl⟩
    · rw [he]
      exact Or.inr (Or.inl ⟨decide_eq_true (not_not.mp hk), Nat.zero_le _, rfl⟩)
  | [first] =>
    dsimp only
    split_ifs with hk
    · exact Or.inl ⟨decide_eq_false hk, rfl⟩
    · exact Or.inr (Or.inl ⟨decide_eq_true (not_not.mp hk), le_rfl, rfl⟩)
  | first :: next :: queue =>
    dsimp only
    split_ifs with hk
    · exact Or.inl ⟨rfl, rfl⟩
    · exact Or.inr (Or.inr ⟨first, next, queue, rfl, rfl, not_not.mp hk, rfl⟩)

lemma outcome_connected (env : Env) (pubkey : String) (c : Controller) :
    Outcome env c (.connected pubkey) (c.connected env pubkey) := by
  rcases connected_cases env pubkey c with ⟨-, h⟩ | ⟨-, hl, h⟩ | ⟨first, next, queue, -, hq, rfl, h⟩
  · rw [h]
    exact .same (.refl c)
  · rw [h]
    obtain ⟨c₁, hc, ⟨-, he⟩ | ⟨-, hd⟩⟩ := connectionCompleted_cases env { c with activationQueue := [] }
    · exact .completed hl hc (Or.inl he)
    · exact .completed hl hc (Or.inr hd)
  · exact .advanced hq h

lemma implInitialized_cases (env : Env) (status connected : Bool) (connectionDate : Option ℤ) (c : Controller) :
    (c.ReportsConnection status connected ∧ Same { c with
      state := .StateOn, timer := true, connectedTimeInUTC := some (connectionDate.getD env.now) }
        (c.implInitialized env status connected connectionDate)) ∨
    ¬ c.ReportsConnection status connected ∧
      Same { c with state := .StateOff } (c.implInitialized env status connected connectionDate) := by
  rw [implInitialized, ReportsConnection]
  cases status with
  | false => exact Or.inr ⟨nofun, rfl, rfl, rfl, rfl, rfl, rfl, rfl, rfl, rfl, attempts_emit rfl⟩
  | true =>
    rcases processNextStep_cases c with ⟨hn, effect, he, hp⟩ | ⟨hn, hp⟩
    · simp only [hp, Bool.not_true, Bool.false_eq_true, if_false]
      refine Or.inr ⟨?_, rfl, rfl, rfl, rfl, rfl, rfl, rfl, rfl, rfl, attempts_emit he⟩
      rcases hn with hn | hn <;> simp [hn]
    · simp only [hp, Bool.not_true, Bool.false_eq_true, if_false]
      cases connected with
      | false => exact Or.inr ⟨by simp, rfl, rfl, rfl, rfl, rfl, rfl, rfl, rfl, rfl, rfl⟩
      | true => exact Or.inl ⟨⟨trivial, rfl, hn⟩, rfl, rfl, rfl, rfl, rfl, rfl, rfl, rfl, rfl, rfl⟩

lemma activate_cases (env : Env) (serverData : ServerData) (h : ¬ (c.state = .StateOnPartial ∨ c.Switching)) :
    Same c (c.activate env serverData initiator serverSelectionPolicy).2 ∨ c.state = .StateOff ∧
      Same { c with isSwitchingServer := false } (c.activate env serverData initiator serverSelectionPolicy).2 := by
  have hw : ¬ (c.state = .StateSwitching ∨ c.state = .StateSilentSwitching) := fun hs => h (Or.inr hs)
  rw [activate]
  simp only [hw, decide_false]
  split_ifs with hs ho
  · exact Or.inl (.refl c)
  · exact Or.inr ⟨ho, rfl, rfl, rfl, rfl, rfl, rfl, rfl, rfl, rfl, attempts_emit rfl⟩
  · exact Or.inr ⟨ho, rfl, rfl, rfl, rfl, rfl, rfl, rfl, rfl, rfl, rfl⟩
  · exact Or.inr ⟨ho, rfl, rfl, rfl, rfl, rfl, rfl, rfl, rfl, rfl, attempts_emit rfl⟩
  · exact Or.inr ⟨ho, rfl, rfl, rfl, rfl, rfl, rfl, rfl, rfl, rfl, attempts_emit rfl⟩
  · unfold Switching at h
    tauto

lemma accountRequestFinished_same {i : ℕ} {failed : Bool}
    (h : connects env c (.accountRequestFinished i failed) = none) :
    Same c (c.accountRequestFinished env i failed) := by
  rw [accountRequestFinished]
  rw [connects] at h
  split_ifs at h with hf
  · cases c.accountRequests[i]? with
    | none => exact .refl c
    | some request =>
      obtain ⟨rfl, hf⟩ := hf
      simp only [Bool.not_true, Bool.false_eq_true, if_false, if_pos hf]
      exact ⟨rfl, rfl, rfl, rfl, rfl, rfl, rfl, rfl, rfl, rfl⟩
  · rw [h]
    exact .refl c

lemma outcome_handle {e : Event} (h : connects env c e = none) : Outcome env c e (handle env c e) := by
  cases e with
  | initializeController =>
    exact .initialized ⟨rfl, rfl, rfl, rfl, rfl, rfl, rfl, rfl, rfl, attempts_emit rfl⟩
  | implInitialized status connected connectionDate =>
    rcases implInitialized_cases env status connected connectionDate c with ⟨hr, h⟩ | ⟨hr, h⟩
    · exact .implOn hr h
    · exact .implOff hr h
  | activate serverData initiator serverSelectionPolicy =>
    have hs : ¬ (c.state = .StateOnPartial ∨ c.Switching) := fun hs => by simp [connects, hs] at h
    rcases activate_cases env serverData hs with h | ⟨ho, h⟩
    · exact .same h
    · exact .asked ho h
  | accountRequestFinished i failed => exact .same (accountRequestFinished_same h)
  | deactivate user => exact .stopped (deactivate_cases user (.refl c))
  | switchServers serverData =>
    rcases switchServers_cases serverData c with ⟨-, h⟩ | ⟨hs, -, h⟩
    · rw [handle, h]
      exact .same (.refl c)
    · exact .switched .StateSwitching (Or.inl rfl) hs h
  | silentSwitchServers serverCoolDownPolicy =>
    rcases silentSwitchServers_cases env serverCoolDownPolicy c with h | ⟨hs, -, h⟩
    · rw [handle, h]
      exact .same (.refl c)
    · exact .switched .StateSilentSwitching (Or.inr rfl) hs h
  | connected pubkey => exact outcome_connected env pubkey c
  | disconnected =>
    have hn : ¬ (c.nextStep = .None ∧ c.Switching) := fun hs => by simp [connects, hs] at h
    exact .ended hn (ended_disconnected env hn)
  | quit => exact .stopped (quit_cases c)
  | updateRequired => exact .stopped (updateRequired_cases c)
  | captivePortalPresent => exact .same ⟨rfl, rfl, rfl, rfl, rfl, rfl, rfl, rfl, rfl, rfl⟩
  | captivePortalGone => exact .same ⟨rfl, rfl, rfl, rfl, rfl, rfl, rfl, rfl, rfl, rfl⟩
  | timerTimeout =>
    simp only [handle, timerTimeout]
    split_ifs with ht hs
    · exact .same (.refl c)
    · exact .assertionFailed ht hs rfl
    · exact .same (.refl c)
  | connectingTimeout =>
    simp only [handle]
    split_ifs
    · exact .same ⟨rfl, rfl, rfl, rfl, rfl, rfl, rfl, rfl, rfl, rfl⟩
    · exact .same (.refl c)
  | handshakeTimeout =>
    simp only [handle]
    split_ifs with ht
    · exact .timedOut ht rfl
    · exact .same (.refl c)
  | pingSentAndReceived =>
    simp only [handle]
    split_ifs
    · exact .same ⟨rfl, rfl, rfl, rfl, rfl, rfl, rfl, rfl, rfl, rfl⟩
    · exact .same (.refl c)

/-- A handshake that does not come in time is followed by the next step, by another attempt for the same
principal, or by nothing if there have been enough of them. -/
lemma handshakeTimeout_cases (env : Env) (c : Controller) :
    c.activationQueue = [] ∧ c.handshakeTimeout env = c.emit .assertionFailed ∨
    c.activationQueue ≠ [] ∧ c.nextStep ≠ .None ∧
      (Same c (c.handshakeTimeout env) ∨ Deactivated c (c.handshakeTimeout env)) ∨
    c.activationQueue ≠ [] ∧ c.nextStep = .None ∧ c.connectionRetry + 1 < CONNECTION_MAX_RETRY ∧
      (∃ dnsPort c₁, Same { c with connectionRetry := c.connectionRetry + 1 } c₁ ∧
        c.handshakeTimeout env = c₁.activateInternal env dnsPort .RandomizeServerSelection c.initiator) ∨
    c.activationQueue ≠ [] ∧ c.nextStep = .None ∧ CONNECTION_MAX_RETRY ≤ c.connectionRetry + 1 ∧
      Same { c with connectionRetry := c.connectionRetry + 1 } (c.handshakeTimeout env) := by
  rw [handshakeTimeout]
  match hq : c.activationQueue with
  | [] => exact Or.inl ⟨rfl, rfl⟩
  | hop :: queue =>
    have hs : Same c (c.emit (.setCooldown hop.serverPublicKey)) :=
      ⟨rfl, rfl, rfl, rfl, rfl, rfl, rfl, rfl, rfl, attempts_emit rfl⟩
    apply Or.inr
    dsimp only
    split_ifs with hn h₁ h₂
    · refine Or.inl ⟨List.cons_ne_nil _ _, hn, ?_⟩
      by_cases hu : (c.emit (.setCooldown hop.serverPublicKey)).Deactivable .ClientUser
      · exact Or.inr ((deactivate_accepted hu).2.of_same hs)
      · rw [deactivate_refused hu]
        exact Or.inl hs
    · refine Or.inr (Or.inl ⟨List.cons_ne_nil _ _, not_not.mp hn, ?_, _, _, ?_, rfl⟩)
      · exact lt_of_eq_of_lt h₁ (by decide)
      · exact ⟨rfl, rfl, rfl, rfl, rfl, hq, rfl, rfl, rfl, attempts_emit rfl⟩
    · refine Or.inr (Or.inl ⟨List.cons_ne_nil _ _, not_not.mp hn, h₂, _, _, ?_, rfl⟩)
      exact ⟨rfl, rfl, rfl, rfl, rfl, hq, rfl, rfl, rfl, attempts_emit rfl⟩
    · refine Or.inr (Or.inr ⟨List.cons_ne_nil _ _, not_not.mp hn, Nat.not_lt.mp h₂, ?_⟩)
      exact ⟨rfl, rfl, rfl, rfl, rfl, hq, rfl, rfl, rfl, (attempts_emit rfl).trans (attempts_emit rfl)⟩

lemma attempts_activateNext (hq : c.activationQueue ≠ []) : (c.activateNext env).attempts = c.attempts ∨
    ∃ config reason, (c.activateNext env).attempts = c.attempts ++ [.implActivate config reason] := by
  obtain ⟨config, queue, hq⟩ := List.exists_cons_of_ne_nil hq
  cases hd : env.device with
  | none =>
    rcases activateNext_none (c := c) hd with ⟨-, h⟩ | ⟨-, out, h, ha⟩
    · exact Or.inl h.attempts
    · rw [h]
      exact Or.inl ha
  | some device =>
    rw [activateNext_some hd hq]
    exact Or.inr ⟨config, stateToReason c.state, List.filter_append ..⟩

/-- An event that does not make the controller connect at once attempts nothing, unless it is a handshake
that is followed by the next hop, or a handshake that did not come in time. -/
lemma attempts_handle {e : Event} (h : connects env c e = none) :
    (handle env c e).attempts = c.attempts ∨
    (c.timer = true ∧ ¬ (c.state = .StateOn ∨ c.state = .StateOnPartial) ∧
      (handle env c e).attempts = c.attempts ++ [.assertionFailed]) ∨
    (2 ≤ c.activationQueue.length ∧
      ∃ config reason, (handle env c e).attempts = c.attempts ++ [.implActivate config reason]) ∨
    e = .handshakeTimeout ∧ c.handshakeTimer = true := by
  cases outcome_handle h with
  | same h | asked _ h | deactivated h | switched _ _ _ h | initialized h | implOff _ h | implOn _ h | ended _ h =>
    exact Or.inl h.attempts
  | completed hq hc h =>
    rcases h with h | h
    · rw [h]
      exact Or.inl hc.attempts
    · exact Or.inl (h.attempts.trans hc.attempts)
  | advanced hq h =>
    rw [h]
    rcases attempts_activateNext (c := { c with activationQueue := _ :: _ }) (List.cons_ne_nil _ _) with ha | ha
    · exact Or.inl ha
    · exact Or.inr (Or.inr (Or.inl ⟨by simp [hq], ha⟩))
  | timedOut ht => exact Or.inr (Or.inr (Or.inr ⟨rfl, ht⟩))
  | assertionFailed ht hs h =>
    rw [h]
    exact Or.inr (Or.inl ⟨ht, hs, List.filter_append ..⟩)

lemma mem_attempts {effect : Effect} (ha : effect.isAttempt = true) : effect ∈ c.attempts ↔ effect ∈ c.out := by
  simp [attempts, ha]

end

end Controller

end VpnClient.Client
