import VpnClient.Backend.Tunnel

/-! A client that sends its activations to the daemon one hop after the other, and that skips the
deactivation of the daemon when it switches servers. -/

namespace VpnClient.Backend

inductive Reason where
  | ReasonNone
  | ReasonSwitching
  | ReasonConfirming
  deriving DecidableEq, Repr

/-- The messages by which `LocalSocketController` and `LinuxController` implement `deactivate`;
a local socket that is not ready sends none. -/
def deactivateMessages (ready : Bool) (reason : Reason) : List Daemon.Call :=
  if !ready then [] else if reason = .ReasonSwitching then [] else [.deactivate true]

/-- What `activateInternal` puts into the queue. -/
inductive Activation where
  | singleHop (exitConfig : InterfaceConfig)
  | multiHop (entryConfig exitConfig : InterfaceConfig)

def Activation.activationQueue : Activation → List InterfaceConfig
  | .singleHop exitConfig => [exitConfig.setHopType .SingleHop]
  | .multiHop entryConfig exitConfig =>
    [entryConfig.setHopType .MultiHopEntry, exitConfig.setHopType .MultiHopExit]

/-- The queue of the client, its last activation and whether that completed, and the daemon. -/
structure Session where
  activationQueue : List InterfaceConfig := []
  activation : Option Activation := none
  completed : Bool := false
  daemon : Daemon := {}

namespace Session

inductive Event where
  | activate (activation : Activation)
  | connected
  | deactivate (ready : Bool) (reason : Reason)
  | handshakeTimeout (peers : List Daemon.PeerStatus)

def send (env : Env) (calls : List Daemon.Call) (s : Session) : Session :=
  { s with daemon := calls.foldl (Daemon.step env) s.daemon }

def activateNext (env : Env) (s : Session) : Session :=
  s.send env (s.activationQueue.head?.toList.map .activate)

def activateInternal (env : Env) (activation : Activation) (s : Session) : Session :=
  activateNext env
    { s with activationQueue := activation.activationQueue, activation := some activation, completed := false }

def connected (env : Env) (s : Session) : Session :=
  match s.activationQueue with
  | [] => s
  | [_] => { s with activationQueue := [], completed := true }
  | _ :: queue => activateNext env { s with activationQueue := queue }

def deactivate (env : Env) (ready : Bool) (reason : Reason) (s : Session) : Session :=
  match deactivateMessages ready reason with
  | [] => { s with activationQueue := [] }
  | calls => { s.send env calls with activationQueue := [], activation := none, completed := false }

def step (env : Env) (s : Session) : Event → Session
  | .activate activation => s.activateInternal env activation
  | .connected => s.connected env
  | .deactivate ready reason => s.deactivate env ready reason
  | .handshakeTimeout peers => s.send env [.handshakeTimeout peers]

end Session

end VpnClient.Backend
