import VpnClient.Client.Activation

/-! The controller of the client: its state, its timers and its queue, and what it does on each call,
signal and timeout. -/

namespace VpnClient.Client

open Backend

def CONNECTION_MAX_RETRY : ℕ := 9

inductive State where
  | StateInitializing
  | StateOff
  | StateConnecting
  | StateConfirming
  | StateOn
  | StateOnPartial
  | StateDisconnecting
  | StateSilentSwitching
  | StateSwitching
  deriving DecidableEq, Repr

def stateToReason (state : State) : Reason :=
  if state = .StateSwitching ∨ state = .StateSilentSwitching then .ReasonSwitching
  else if state = .StateConfirming then .ReasonConfirming
  else .ReasonNone

inductive NextStep where
  | None
  | Quit
  | Update
  | Disconnect
  deriving DecidableEq, Repr

inductive ServerCoolDownPolicyForSilentSwitch where
  | eServerCoolDownNeeded
  | eServerCoolDownNotNeeded
  deriving DecidableEq, Repr

/-- What the controller makes others do or see; `assertionFailed` also stands for an access to the
first element of an empty queue, and `activateInternal` for a call of that function. -/
inductive Effect where
  | implInitialize
  | implActivate (config : InterfaceConfig) (reason : Reason)
  | implDeactivate (reason : Reason)
  | activateInternal (dnsPort : DNSPortPolicy) (serverSelectionPolicy : ServerSelectionPolicy)
      (initiator : ActivationPrincipal)
  | accountRequest
  | accountChecked
  | setCooldown (publicKey : String)
  | controllerError
  | authenticationError
  | reset
  | readyToQuit
  | readyToUpdate
  | readyToServerUnavailable (pingReceived : Bool)
  | activationBlockedForCaptivePortal
  | recordConnectionStartTelemetry
  | recordConnectionEndTelemetry
  | recordDataTransferTelemetry
  | assertionFailed
  deriving DecidableEq

/-- A controller that has a backend. A timer is given by whether it is active, the ping of the
canary by its address; `activated` is what the backend was last asked to activate, and `out` what
the last event led to. -/
structure Controller where
  state : State := .StateInitializing
  initiator : ActivationPrincipal := .Null
  nextStep : NextStep := .None
  timer : Bool := false
  connectingTimer : Bool := false
  handshakeTimer : Bool := false
  connectedTimeInUTC : Option ℤ := none
  enableDisconnectInConfirming : Bool := false
  activationQueue : List InterfaceConfig := []
  connectionRetry : ℕ := 0
  portalDetected : Bool := false
  isDeviceConnected : Bool := true
  serverData : ServerData := {}
  nextServerData : ServerData := {}
  isSwitchingServer : Bool
  pingCanary : Option String := none
  pingReceived : Bool := false
  nextServerSelectionPolicy : ServerSelectionPolicy := .RandomizeServerSelection
  accountRequests : List (ActivationPrincipal × ServerSelectionPolicy) := []
  activated : Option InterfaceConfig := none
  out : List Effect := []
  deriving DecidableEq

namespace Controller

def emit (effect : Effect) (c : Controller) : Controller := { c with out := c.out ++ [effect] }

/-- The constructor does not initialize `isSwitchingServer`. -/
def initial (isSwitchingServer : Bool) : Controller := { isSwitchingServer }

def time (env : Env) (c : Controller) : ℤ :=
  match c.connectedTimeInUTC with
  | some connectedTimeInUTC => env.now - connectedTimeInUTC
  | none => 0

/-- A change of the state also reaches `maybeEnableDisconnectInConfirming`. -/
def setState (state : State) (c : Controller) : Controller :=
  { c with
    state
    enableDisconnectInConfirming := if c.state = state then c.enableDisconnectInConfirming else false
    connectingTimer := if c.state = state then c.connectingTimer else decide (state = .StateConfirming) }

def clearConnectedTime (c : Controller) : Controller :=
  { c with
    connectedTimeInUTC := if !c.isSwitchingServer then none else c.connectedTimeInUTC
    timer := false }

def resetConnectedTime (env : Env) (c : Controller) : Controller :=
  { c with
    connectedTimeInUTC := if !c.isSwitchingServer then some env.now else c.connectedTimeInUTC
    timer := true }

def clearRetryCounter (c : Controller) : Controller := { c with connectionRetry := 0 }

def serverUnavailable (c : Controller) : Controller := c.emit (.readyToServerUnavailable c.pingReceived)

/-- Whether the next step was to quit or to update, and the controller without a next step. -/
def processNextStep (c : Controller) : Bool × Controller :=
  let nextStep := c.nextStep
  let c := { c with nextStep := .None }
  if nextStep = .Quit then (true, c.emit .readyToQuit)
  else if nextStep = .Update then (true, c.emit .readyToUpdate)
  else (false, c)

/-- What `deactivate` and `disconnected` begin with. -/
def stopActivation (c : Controller) : Controller :=
  clearRetryCounter (clearConnectedTime
    { c with pingCanary := none, handshakeTimer := false, activationQueue := [] })

def deactivate (user : ActivationPrincipal) (c : Controller) : Bool × Controller :=
  if c.initiator.toNat > user.toNat then (false, c)
  else if c.state ≠ .StateOn ∧ c.state ≠ .StateOnPartial ∧ c.state ≠ .StateSwitching ∧
      c.state ≠ .StateSilentSwitching ∧ c.state ≠ .StateConfirming ∧ c.state ≠ .StateConnecting then (false, c)
  else
    let c :=
      if c.portalDetected then { c.emit .activationBlockedForCaptivePortal with portalDetected := false } else c
    let c :=
      if c.state = .StateOn ∨ c.state = .StateOnPartial ∨ c.state = .StateConfirming ∨
        c.state = .StateConnecting then c.setState .StateDisconnecting else c
    let c := (c.emit .recordDataTransferTelemetry).stopActivation
    (true, { c.emit (.implDeactivate (stateToReason c.state)) with activated := none })

/-- Without a device the account is reset; the scheduled deactivation may run at once. -/
def activateNext (env : Env) (c : Controller) : Controller :=
  match env.device, c.activationQueue with
  | none, _ =>
    let c := (c.emit .authenticationError).emit .reset
    if env.schedulerIdle then (c.deactivate .ClientUser).2 else c
  | some _, [] => c.emit .assertionFailed
  | some _, config :: _ =>
    let c := { c with handshakeTimer := true, activated := some config }
    let c := c.emit (.implActivate config (stateToReason c.state))
    if c.initiator = .ExtensionUser then c
    else if c.state ≠ .StateSilentSwitching then c.setState .StateConfirming
    else c

/-- The part of `activateInternal` after the configurations have been made. -/
def startActivation (env : Env) (activation : Activation) (c : Controller) : Controller :=
  let first := activation.activationQueue.head?
  let last := activation.activationQueue.getLast?
  activateNext env
    { c with
      activationQueue := activation.activationQueue
      serverData :=
        { c.serverData with
          entryServerPublicKey := (first.map (·.serverPublicKey)).getD ""
          exitServerPublicKey := (last.map (·.serverPublicKey)).getD "" }
      pingReceived := false
      pingCanary := first.map (·.serverIpv4AddrIn) }

def activateInternal (env : Env) (dnsPort : DNSPortPolicy) (serverSelectionPolicy : ServerSelectionPolicy)
    (initiator : ActivationPrincipal) (c : Controller) : Controller :=
  let c := c.emit (.activateInternal dnsPort serverSelectionPolicy initiator)
  let c := { clearConnectedTime { c with initiator } with handshakeTimer := false, activationQueue := [] }
  match env.activation c.serverData dnsPort serverSelectionPolicy initiator with
  | .error .serverUnavailable => c.serverUnavailable
  | .error .noDevice => { c with nextStep := .Disconnect }
  | .ok activation => c.startActivation env activation

/-- What `activate` does outside of `StateOff`, and at the end of its account request. -/
def connect (env : Env) (initiator : ActivationPrincipal) (serverSelectionPolicy : ServerSelectionPolicy)
    (c : Controller) : Controller :=
  let c := if initiator ≠ .ExtensionUser then c.setState .StateConnecting else c
  c.clearRetryCounter.activateInternal env .DoNotForceDNSPort serverSelectionPolicy initiator

def activate (env : Env) (serverData : ServerData) (initiator : ActivationPrincipal)
    (serverSelectionPolicy : ServerSelectionPolicy) (c : Controller) : Bool × Controller :=
  if c.state ≠ .StateOff ∧ c.state ≠ .StateOnPartial ∧ c.state ≠ .StateSwitching ∧
      c.state ≠ .StateSilentSwitching then (false, c)
  else
    let isSwitchingServer := decide (c.state = .StateSwitching ∨ c.state = .StateSilentSwitching)
    let c := { c with isSwitchingServer, serverData }
    if c.state = .StateOff then
      if c.portalDetected then
        (true, { c.emit .activationBlockedForCaptivePortal with portalDetected := false })
      else if env.checkConnectivityOnActivation ∧ !env.reachable then (false, { c with isDeviceConnected := false })
      else
        let c := if env.checkConnectivityOnActivation then { c with isDeviceConnected := true } else c
        (true, { c.emit .accountRequest with
          accountRequests := c.accountRequests ++ [(initiator, serverSelectionPolicy)] })
    else (true, c.connect env initiator serverSelectionPolicy)

/-- The end of the `i`-th account request. -/
def accountRequestFinished (env : Env) (i : ℕ) (failed : Bool) (c : Controller) : Controller :=
  match c.accountRequests[i]? with
  | none => c
  | some (initiator, serverSelectionPolicy) =>
    let c := { c with accountRequests := c.accountRequests.eraseIdx i }
    if !failed then (c.emit .accountChecked).connect env initiator serverSelectionPolicy
    else if env.appState ≠ .StateMain ∧ env.appState ≠ .StateOnboarding then c
    else c.connect env initiator serverSelectionPolicy

/-- The part that `silentSwitchServers` and `switchServers` share. -/
def startSwitching (state : State) (nextServerData : ServerData)
    (nextServerSelectionPolicy : ServerSelectionPolicy) (c : Controller) : Controller :=
  let c := { c with isSwitchingServer := true, nextServerData, nextServerSelectionPolicy }
  (deactivate .ClientUser (c.clearConnectedTime.clearRetryCounter.setState state)).2

def silentSwitchServers (env : Env) (serverCoolDownPolicy : ServerCoolDownPolicyForSilentSwitch)
    (c : Controller) : Bool × Controller :=
  if c.state ≠ .StateOn then (false, c)
  else if serverCoolDownPolicy = .eServerCoolDownNeeded then
    if (env.exitServers c.serverData).length ≤ 1 then (false, c)
    else
      (true, (c.emit (.setCooldown c.serverData.exitServerPublicKey)).startSwitching .StateSilentSwitching
        c.serverData .RandomizeServerSelection)
  else (true, c.startSwitching .StateSilentSwitching c.serverData .DoNotRandomizeServerSelection)

def switchServers (serverData : ServerData) (c : Controller) : Bool × Controller :=
  if c.state = .StateOff then (false, c)
  else (true, c.startSwitching .StateSwitching serverData .RandomizeServerSelection)

def handshakeTimeout (env : Env) (c : Controller) : Controller :=
  match c.activationQueue with
  | [] => c.emit .assertionFailed
  | hop :: _ =>
    let c := c.emit (.setCooldown hop.serverPublicKey)
    if c.nextStep ≠ .None then (c.deactivate .ClientUser).2
    else
      let c := { c with connectionRetry := c.connectionRetry + 1 }
      if c.connectionRetry = 1 then
        c.activateInternal env .ForceDNSPort .RandomizeServerSelection c.initiator
      else if c.connectionRetry < CONNECTION_MAX_RETRY then
        c.activateInternal env .DoNotForceDNSPort .RandomizeServerSelection c.initiator
      else c.serverUnavailable

/-- The part of `connected` after the last handshake, up to the next step. -/
def completeConnection (env : Env) (c : Controller) : Controller :=
  let c := { c with handshakeTimer := false, pingCanary := none, connectionRetry := 0 }
  let c := if c.state = .StateOn ∨ c.state = .StateOnPartial then { c with isSwitchingServer := true } else c
  let c := c.setState (if c.initiator = .ExtensionUser then .StateOnPartial else .StateOn)
  let c := c.resetConnectedTime env
  if !c.isSwitchingServer then c.emit .recordConnectionStartTelemetry else c

def connectionCompleted (env : Env) (c : Controller) : Controller :=
  let c := c.completeConnection env
  if c.nextStep ≠ .None then (c.deactivate .ClientUser).2 else c

def connected (env : Env) (pubkey : String) (c : Controller) : Controller :=
  match c.activationQueue with
  | [] => if c.serverData.exitServerPublicKey ≠ pubkey then c else c.connectionCompleted env
  | [first] =>
    if first.serverPublicKey ≠ pubkey then c else { c with activationQueue := [] }.connectionCompleted env
  | first :: next :: queue =>
    if first.serverPublicKey ≠ pubkey then c else { c with activationQueue := next :: queue }.activateNext env

def disconnected (env : Env) (c : Controller) : Controller :=
  let c := c.stopActivation
  match c.processNextStep with
  | (true, c) => c.setState .StateOff
  | (false, c') =>
    if c.nextStep = .None ∧ (c.state = .StateSilentSwitching ∨ c.state = .StateSwitching) then
      (c'.activate env c'.nextServerData (if c'.state = .StateSilentSwitching then c'.initiator else .ClientUser)
        c'.nextServerSelectionPolicy).2
    else
      let c' := if c'.state ≠ .StateConfirming then c'.emit .recordConnectionEndTelemetry else c'
      { c' with initiator := .Null }.setState .StateOff

def initializeController (env : Env) (c : Controller) : Controller :=
  { (c.setState .StateInitializing).emit .implInitialize with
    serverData := env.serverData, nextServerData := env.serverData, activated := none }

def implInitialized (env : Env) (status connected : Bool) (connectionDate : Option ℤ) (c : Controller) :
    Controller :=
  if !status then (c.emit .controllerError).setState .StateOff
  else
    match c.processNextStep with
    | (true, c) => c.setState .StateOff
    | (false, c) =>
      if connected then
        { c.setState .StateOn with connectedTimeInUTC := some (connectionDate.getD env.now), timer := true }
      else c.setState .StateOff

def timerTimeout (c : Controller) : Controller :=
  if c.state = .StateOn ∨ c.state = .StateOnPartial then c else c.emit .assertionFailed

def quit (c : Controller) : Controller :=
  let c' := { c with nextStep := .Quit }
  if c.state = .StateInitializing ∨ c.state = .StateOff then c'.emit .readyToQuit
  else if c.state = .StateOn ∨ c.state = .StateOnPartial ∨ c.state = .StateSwitching ∨
      c.state = .StateSilentSwitching ∨ c.state = .StateConnecting then (c'.deactivate .ClientUser).2
  else c'

def updateRequired (c : Controller) : Controller :=
  if c.state = .StateOff then c.emit .readyToUpdate
  else
    let c := { c with nextStep := .Update }
    if c.state = .StateOn ∨ c.state = .StateOnPartial then (c.deactivate .ClientUser).2 else c

inductive Event where
  | initializeController
  | implInitialized (status connected : Bool) (connectionDate : Option ℤ)
  | activate (serverData : ServerData) (initiator : ActivationPrincipal)
      (serverSelectionPolicy : ServerSelectionPolicy)
  | accountRequestFinished (i : ℕ) (failed : Bool)
  | deactivate (user : ActivationPrincipal)
  | switchServers (serverData : ServerData)
  | silentSwitchServers (serverCoolDownPolicy : ServerCoolDownPolicyForSilentSwitch)
  | connected (pubkey : String)
  | disconnected
  | quit
  | updateRequired
  | captivePortalPresent
  | captivePortalGone
  | timerTimeout
  | connectingTimeout
  | handshakeTimeout
  | pingSentAndReceived

def handle (env : Env) (c : Controller) : Event → Controller
  | .initializeController => c.initializeController env
  | .implInitialized status connected connectionDate => c.implInitialized env status connected connectionDate
  | .activate serverData initiator serverSelectionPolicy =>
    (c.activate env serverData initiator serverSelectionPolicy).2
  | .accountRequestFinished i failed => c.accountRequestFinished env i failed
  | .deactivate user => (c.deactivate user).2
  | .switchServers serverData => (c.switchServers serverData).2
  | .silentSwitchServers serverCoolDownPolicy => (c.silentSwitchServers env serverCoolDownPolicy).2
  | .connected pubkey => c.connected env pubkey
  | .disconnected => c.disconnected env
  | .quit => c.quit
  | .updateRequired => c.updateRequired
  | .captivePortalPresent => { c with portalDetected := true }
  | .captivePortalGone => { c with portalDetected := false }
  | .timerTimeout => if c.timer then c.timerTimeout else c
  | .connectingTimeout =>
    if c.connectingTimer then { c with connectingTimer := false, enableDisconnectInConfirming := true } else c
  | .handshakeTimeout => if c.handshakeTimer then { c with handshakeTimer := false }.handshakeTimeout env else c
  | .pingSentAndReceived =>
    if c.pingCanary.isSome then { c with pingCanary := none, pingReceived := true } else c

/-- An event comes with what the controller finds when it handles it; a timer that is not active
and a ping that was not sent have none. -/
def step (c : Controller) (e : Env × Event) : Controller := handle e.1 { c with out := [] } e.2

end Controller

end VpnClient.Client
