import VpnClient.Backend.InterfaceConfig
import VpnClient.Library.Attempts

/-! The platform-independent daemon: activation, server switching and deactivation over the
utility objects of a platform, each call of which may fail. -/

namespace VpnClient.Backend

open Address Library.Attempts Library.Attempts.Attempt

inductive RunOp where
  | Up
  | Down
  | Switch
  deriving DecidableEq, Repr

/-- The calls of `wgutils()`, `iputils()`, `dnsutils()` and `run` that can fail. -/
inductive Op where
  | addInterface (config : InterfaceConfig)
  | addInterfaceIPs (config : InterfaceConfig)
  | setMTUAndUp (config : InterfaceConfig)
  | excludeLocalNetworks
  | updatePeer (config : InterfaceConfig)
  | deletePeer (config : InterfaceConfig)
  | updateRoutePrefix (ip : IPAddress)
  | deleteRoutePrefix (ip : IPAddress)
  | deleteInterface
  | updateResolvers (resolvers : List String)
  | restoreResolvers
  | run (op : RunOp) (config : InterfaceConfig)

/-- The wireguard interface, with its peers by public key and its routes by prefix. -/
structure Interface where
  present : Bool := false
  peers : Finset String := ∅
  routes : Finset IPAddress := ∅

def Interface.apply (i : Interface) : Op → Interface
  | .addInterface _ => { i with present := true }
  | .deleteInterface => {}
  | .updatePeer config => { i with peers := insert config.serverPublicKey i.peers }
  | .deletePeer config => { i with peers := i.peers.erase config.serverPublicKey }
  | .updateRoutePrefix ip => { i with routes := insert ip i.routes }
  | .deleteRoutePrefix ip => { i with routes := i.routes.erase ip }
  | _ => i

structure ConnectionState where
  date : Option ℕ := none
  config : InterfaceConfig

/-- The map `m_connections`, whose keys are ordered as the hop types are declared. -/
abbrev Connections := HopType → Option ConnectionState

def HopType.all : List HopType := [.SingleHop, .MultiHopEntry, .MultiHopExit]

def Connections.values (c : Connections) : List ConnectionState := HopType.all.filterMap c

def Connections.first (c : Connections) : Option ConnectionState := c.values.head?

def Connections.insert (c : Connections) (config : InterfaceConfig) : Connections :=
  Function.update c config.hopType (some { config })

def Connections.supportServerSwitching (c : Connections) (config : InterfaceConfig) : Bool :=
  match c config.hopType with
  | none => false
  | some state =>
    let current := state.config
    current.privateKey == config.privateKey &&
      current.deviceIpv4Address == config.deviceIpv4Address &&
      current.deviceIpv6Address == config.deviceIpv6Address &&
      current.serverIpv4Gateway == config.serverIpv4Gateway &&
      current.serverIpv6Gateway == config.serverIpv6Gateway

inductive Signal where
  | connected (pubkey : String)
  | activationFailure
  | disconnected
  deriving DecidableEq

/-- What the platform fixes: whether it has `IPUtils`, and the outcome of its `n`-th call. -/
structure Env where
  supportIPUtils : Bool
  outcome : ℕ → Bool

def Env.succeeding (supportIPUtils : Bool) : Env := ⟨supportIPUtils, fun _ => true⟩

structure Daemon where
  connections : Connections := fun _ => none
  handshakeTimer : Bool := false
  interface : Interface := {}
  calls : ℕ := 0
  signals : List Signal := []

namespace Daemon

def emit (signal : Signal) (d : Daemon) : Daemon := { d with signals := d.signals ++ [signal] }

variable (env : Env)

def perform (op : Op) : Attempt Daemon := fun d =>
  let status := env.outcome d.calls
  (status, { d with calls := d.calls + 1, interface := if status then d.interface.apply op else d.interface })

def connect (config : InterfaceConfig) (d : Daemon) : Daemon :=
  { d with connections := d.connections.insert config, handshakeTimer := true }

def maybeUpdateResolvers (config : InterfaceConfig) : Attempt Daemon :=
  if config.hopType = .MultiHopExit ∨ config.hopType = .SingleHop then
    let resolvers := if config.dnsServer = config.serverIpv4Gateway then
        [config.dnsServer, config.serverIpv6Gateway] else [config.dnsServer]
    perform env (.updateResolvers resolvers)
  else succeed id

def switchServer (config : InterfaceConfig) : Attempt Daemon := fun d =>
  match d.connections config.hopType with
  | none => (false, d) -- excluded by an assertion
  | some ⟨_, lastConfig⟩ =>
    ((perform env (.updatePeer config)).andThen <|
      -- a failure ends the loop, but not the switch
      (forEach (fun ip => perform env (.updateRoutePrefix ip)) config.allowedIPAddressRanges).ignoring.andThen <|
      (forEach (fun ip => (perform env (.deleteRoutePrefix ip)).ignoring)
        (lastConfig.allowedIPAddressRanges.filter (· ∉ config.allowedIPAddressRanges))).andThen <|
      ((perform env (.deletePeer lastConfig)).when
        fun _ => config.serverPublicKey != lastConfig.serverPublicKey).andThen <|
      succeed fun d => { d with connections := d.connections.insert config }) d

def bringUp (config : InterfaceConfig) : Attempt Daemon :=
  (perform env (.addInterface config)).andThen <|
  (((perform env (.addInterfaceIPs config)).andThen (perform env (.setMTUAndUp config))).when
    fun _ => env.supportIPUtils).andThen <|
  perform env .excludeLocalNetworks

/-- The part of `activate` that brings up a hop without a connection. -/
def activateHop (config : InterfaceConfig) : Attempt Daemon :=
  ((bringUp env config).when fun d => !d.interface.present).andThen <|
  (perform env (.updatePeer config)).andThen <|
  (maybeUpdateResolvers env config).andThen <|
  (forEach (fun ip => perform env (.updateRoutePrefix ip)) config.allowedIPAddressRanges).andThen <|
  (perform env (.run .Up config)).andThen <|
  succeed (connect config)

def deleteConnections : Attempt Daemon := fun d =>
  ((forEach (fun state =>
    (forEach (fun ip => (perform env (.deleteRoutePrefix ip)).ignoring)
      state.config.allowedIPAddressRanges).andThen
    (perform env (.deletePeer state.config)).ignoring) d.connections.values).andThen <|
  succeed fun d => { d with connections := fun _ => none }) d

def runDown : Attempt Daemon := fun d =>
  match d.connections.first with
  | none => (true, d)
  | some state => perform env (.run .Down state.config) d

/-- Runs `a` and emits `disconnected` when it returns, whatever its result. -/
def emitDisconnected (emitSignals : Bool) (a : Attempt Daemon) : Attempt Daemon := fun d =>
  let r := a d
  (r.1, if emitSignals then r.2.emit .disconnected else r.2)

def deactivate (emitSignals : Bool) : Attempt Daemon :=
  (runDown env).andThen <| emitDisconnected emitSignals <|
    (perform env .restoreResolvers).ignoring.andThen <|
    (deleteConnections env).andThen <|
    perform env .deleteInterface

/-- Runs `a` and emits `activationFailure` if it fails. -/
def emitFailure (a : Attempt Daemon) : Attempt Daemon := fun d =>
  let r := a d
  (r.1, if r.1 then r.2 else r.2.emit .activationFailure)

/-- `activate` with at most `depth` nested calls of itself. -/
def activateNested (config : InterfaceConfig) : ℕ → Attempt Daemon
  | 0 => fun d => (false, d)
  | depth + 1 => emitFailure fun d =>
    if (d.connections config.hopType).isSome then
      if d.connections.supportServerSwitching config then
        ((switchServer env config).andThen <|
          (perform env .restoreResolvers).andThen <|
          (maybeUpdateResolvers env config).andThen <|
          (perform env (.run .Switch config)).andThen <|
          succeed (connect config)) d
      else ((deactivate env false).andThen (activateNested config depth)) d
    else activateHop env config d

def activate (config : InterfaceConfig) : Attempt Daemon := activateNested env config 2

structure PeerStatus where
  pubkey : String
  handshake : ℕ
  txBytes : ℕ
  rxBytes : ℕ

structure Status where
  connected : Bool
  serverIpv4Gateway : String := ""
  deviceIpv4Address : String := ""
  date : Option ℕ := none
  txBytes : ℕ := 0
  rxBytes : ℕ := 0

def getStatus (peers : List PeerStatus) (d : Daemon) : Status :=
  if !d.interface.present then { connected := false }
  else
    match d.connections.first with
    | none => { connected := false }
    | some connection =>
      match peers.find? (·.pubkey == connection.config.serverPublicKey) with
      | none => { connected := false }
      | some status =>
        { connected := true
          serverIpv4Gateway := connection.config.serverIpv4Gateway
          deviceIpv4Address := connection.config.deviceIpv4Address
          date := connection.date
          txBytes := status.txBytes
          rxBytes := status.rxBytes }

/-- The peers in whose status `checkHandshake` finds the handshake of a connection. -/
def completed (peers : List PeerStatus) (connection : ConnectionState) : List PeerStatus :=
  if connection.date.isSome then []
  else peers.filter fun status => connection.config.serverPublicKey == status.pubkey && status.handshake != 0

def recordHandshake (peers : List PeerStatus) (connection : ConnectionState) : ConnectionState :=
  match (completed peers connection).getLast? with
  | none => connection
  | some status => { connection with date := some status.handshake }

def checkHandshake (peers : List PeerStatus) (d : Daemon) : Daemon :=
  let connections : Connections := fun hop => (d.connections hop).map (recordHandshake peers)
  { d with
    connections
    handshakeTimer := connections.values.any (·.date.isNone)
    signals := d.signals ++
      d.connections.values.flatMap fun c => (completed peers c).map (Signal.connected ·.pubkey) }

/-- A call of a client, or the timeout of the handshake timer. -/
inductive Call where
  | activate (config : InterfaceConfig)
  | deactivate (emitSignals : Bool)
  | handshakeTimeout (peers : List PeerStatus)

def step (d : Daemon) : Call → Daemon
  | .activate config => (activate env config d).2
  | .deactivate emitSignals => (deactivate env emitSignals d).2
  | .handshakeTimeout peers => if d.handshakeTimer then checkHandshake peers d else d

end Daemon

end VpnClient.Backend
