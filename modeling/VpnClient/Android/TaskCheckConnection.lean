import VpnClient.Android.VPNService

/-! The checks of the connection on the worker thread, between the transactions of the service. -/

namespace VpnClient.Android

/-- What a check captures when it begins. -/
structure Captured where
  gateway : String
  endpoint : String
  dns : String
  fallbackEndpoint : String
  deriving DecidableEq, Repr

/-- Where a check is: each constructor is named after what the check does next. -/
inductive Check where
  | capture
  | readNetwork (captured : Captured)
  | networkCapabilities (captured : Captured) (vpnNetwork : Network)
  | reachGateway (captured : Captured) (vpnNetwork : Network)
  | reachDNS (captured : Captured) (vpnNetwork : Network) (canReachGateway : Bool)
  | reachEndpoint (captured : Captured) (vpnNetwork : Network) (canReachGateway : Bool)
  | clearReset
  | anyNetwork (captured : Captured) (canReachDNS : Bool)
  | readReset (captured : Captured) (canReachDNS anyNetworkCanConnect : Bool)
  | reconnect
  | reachFallback (captured : Captured)
  | cooldown
  | delaySwitch
  | reconnectFallback
  | setReset
  | panic
  | taskDone
  | startTimer
  deriving DecidableEq, Repr

/-- What the system answers to a step of a check: whether a probe reaches its address, or a network has the transport,
whether the call throws, the time, and what a reconnect finds. -/
structure Probe where
  reachable : Bool
  throws : Bool
  now : ℕ
  answers : Answers

namespace Check

def reached (captured : Captured) (canReachGateway canReachDNS : Bool) : Check :=
  if canReachGateway && canReachDNS then .clearReset else .anyNetwork captured canReachDNS

def withHealth (s : VPNService) (f : ConnectionHealth → ConnectionHealth) : VPNService :=
  { s with mConnectionHealth := f s.mConnectionHealth }

/-- The next step of a check, which ends with `none`. An error of `reconnect` ends it too. -/
def next (wg : WireGuard) (probe : Probe) (s : VPNService) : Check → Option Check × VPNService
  | .capture =>
    let h := s.mConnectionHealth
    (some (.readNetwork ⟨h.mGateway, h.mEndPoint, h.mDNS, h.mAltEndpoint⟩), s)
  | .readNetwork captured =>
    match s.mConnectionHealth.mVPNNetwork with
    | none => (none, s)
    | some vpnNetwork => (some (.networkCapabilities captured vpnNetwork), s)
  | .networkCapabilities captured vpnNetwork =>
    (some (if probe.reachable then .reachGateway captured vpnNetwork else .taskDone), s)
  | .reachGateway captured vpnNetwork =>
    (if probe.throws then none else some (.reachDNS captured vpnNetwork probe.reachable), s)
  | .reachDNS captured vpnNetwork canReachGateway =>
    (if probe.throws then none
      else if probe.reachable then some (reached captured canReachGateway true)
      else some (.reachEndpoint captured vpnNetwork canReachGateway), s)
  | .reachEndpoint captured _ canReachGateway =>
    (if probe.throws then none else some (reached captured canReachGateway probe.reachable), s)
  | .clearReset => (some .taskDone, withHealth s ({ · with mResetUsed := false }))
  | .anyNetwork captured canReachDNS =>
    (if probe.throws then none else some (.readReset captured canReachDNS probe.reachable), s)
  | .readReset captured canReachDNS anyNetworkCanConnect =>
    (some (if anyNetworkCanConnect && canReachDNS && !s.mConnectionHealth.mResetUsed then .reconnect
      else .reachFallback captured), s)
  | .reconnect =>
    let (outcome, s) := s.reconnect wg false probe.answers
    (if outcome = .error then none else some .setReset, s)
  | .reachFallback _ =>
    (if probe.throws then none else some (if probe.reachable then .cooldown else .panic), s)
  | .cooldown =>
    (some (if probe.now < s.mConnectionHealth.nextPossibleServerSwitch then .taskDone else .delaySwitch), s)
  | .delaySwitch =>
    (some .reconnectFallback, withHealth s
      ({ · with nextPossibleServerSwitch := probe.now + ConnectionHealth.SERVER_SWITCH_COOLDOWN_MINUTES }))
  | .reconnectFallback =>
    let (outcome, s) := s.reconnect wg true probe.answers
    (if outcome = .error then none else some .setReset, s)
  | .setReset => (some .taskDone, withHealth s ({ · with mResetUsed := true }))
  | .panic => (some .taskDone, withHealth s ({ · with mPanicStateReached := true }))
  | .taskDone => (if s.mConnectionHealth.mActive then some .startTimer else none, s)
  | .startTimer => (none, withHealth s ({ · with mTaskTimer := true }))

end Check

/-- The service with its binder, the checks that wait for the worker and the one that it runs. `submitting` is set while
the task timer is about to submit a check. -/
structure Daemon where
  service : VPNService := {}
  mResumeConfig : Option ClientConfig := none
  submitting : Bool := false
  queue : ℕ := 0
  check : Option Check := none
  deriving DecidableEq

namespace Daemon

/-- The transactions of the client, what the system calls, the timer and the worker. -/
inductive Event where
  | activate (config : ClientConfig) (permission : Bool) (answers : Answers)
  | resumeActivate (answers : Answers)
  | reactivate (answers : Answers)
  | deactivate
  | silentServerSwitch (answers : Answers)
  | clearStorage
  | lastCallTransaction
  | onStartCommand (startOnly : Bool) (answers : Answers)
  | onRevoke
  | onAvailable (network : Network)
  | onLost
  | onFinish
  | submit
  | work
  | check (probe : Probe)

variable (wg : WireGuard)

def activate (config : ClientConfig) (permission : Bool) (answers : Answers) (d : Daemon) : Daemon :=
  if !permission then { d with mResumeConfig := some config }
  else { d with service := (d.service.turnOn wg config false answers).2 }

def resumeActivate (answers : Answers) (d : Daemon) : Daemon :=
  match d.mResumeConfig with
  | none => d
  | some config => { d with service := (d.service.turnOn wg config false answers).2 }

def onStartCommand (startOnly : Bool) (answers : Answers) (d : Daemon) : Daemon :=
  if d.service.isUp || startOnly then d
  else
    match d.service.storedConfig with
    | none => d
    | some config =>
      { d with service := ({ d.service with mConfig := some config }.turnOn wg config false answers).2 }

/-- The timer is over: it submits a check if the health is active. -/
def onFinish (d : Daemon) : Daemon :=
  if d.service.mConnectionHealth.mTaskTimer then
    { d with
      service := Check.withHealth d.service ({ · with mTaskTimer := false })
      submitting := d.submitting || d.service.mConnectionHealth.mActive }
  else d

def submit (d : Daemon) : Daemon :=
  if d.submitting then { d with submitting := false, queue := d.queue + 1 } else d

/-- The worker takes the next check. -/
def work (d : Daemon) : Daemon :=
  if d.check = none ∧ 0 < d.queue then { d with queue := d.queue - 1, check := some .capture } else d

def runCheck (probe : Probe) (d : Daemon) : Daemon :=
  match d.check with
  | none => d
  | some check =>
    let (check, service) := check.next wg probe d.service
    { d with check, service }

def step (d : Daemon) : Event → Daemon
  | .activate config permission answers => d.activate wg config permission answers
  | .resumeActivate answers => d.resumeActivate wg answers
  | .reactivate answers => { d with service := (d.service.reconnect wg false answers).2 }
  | .deactivate => { d with service := d.service.turnOff }
  | .silentServerSwitch answers => { d with service := (d.service.reconnect wg true answers).2 }
  | .clearStorage => { d with service := d.service.clearConfig }
  | .lastCallTransaction => { d with service := d.service.turnOff }
  | .onStartCommand startOnly answers => d.onStartCommand wg startOnly answers
  | .onRevoke => { d with service := d.service.turnOff }
  | .onAvailable network => { d with service := Check.withHealth d.service (·.onAvailable network) }
  | .onLost => { d with service := Check.withHealth d.service (·.onLost) }
  | .onFinish => d.onFinish
  | .submit => d.submit
  | .work => d.work
  | .check probe => d.runCheck wg probe

end Daemon

end VpnClient.Android
