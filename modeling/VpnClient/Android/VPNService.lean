import Mathlib.Data.Nat.Notation
import Mathlib.Data.Int.Notation

/-! The connection health of the Android service: when the checks of the connection are submitted to the worker. -/

namespace VpnClient.Android

/-- A network of the system. -/
structure Network where
  handle : ℕ
  deriving DecidableEq, Repr

/-- The members of the class apart from the metrics, with whether the task timer runs and whether the network callback
is registered. Times are in minutes. -/
structure ConnectionHealth where
  mEndPoint : String := ""
  mDNS : String := ""
  mGateway : String := ""
  mAltEndpoint : String := ""
  mResetUsed : Bool := false
  mPanicStateReached : Bool := false
  nextPossibleServerSwitch : ℕ := 15
  mActive : Bool := false
  mVPNNetwork : Option Network := none
  mTaskTimer : Bool := false
  networkCallback : Bool := false
  deriving DecidableEq, Repr

namespace ConnectionHealth

def SERVER_SWITCH_COOLDOWN_MINUTES : ℕ := 15

def start (sdk : ℕ) (endpoint gateway dns altEndpoint : String) (h : ConnectionHealth) : ConnectionHealth :=
  if sdk < 31 then h
  else
    let h := { h with mEndPoint := endpoint, mGateway := gateway, mDNS := dns, mAltEndpoint := altEndpoint }
    if h.mActive then h
    else
      { h with
        mResetUsed := false, mPanicStateReached := false, networkCallback := true, mActive := true, mTaskTimer := true }

/-- The network that was last seen stays. -/
def stop (h : ConnectionHealth) : ConnectionHealth :=
  if !h.mActive then h else { h with mActive := false, mTaskTimer := false, networkCallback := false }

def onAvailable (network : Network) (h : ConnectionHealth) : ConnectionHealth :=
  if h.networkCallback then { h with mVPNNetwork := some network } else h

def onLost (h : ConnectionHealth) : ConnectionHealth :=
  if h.networkCallback then { h with mVPNNetwork := none } else h

end ConnectionHealth

end VpnClient.Android

/-! The Android service: the server that it takes from a config, the tunnel, and the config that it keeps. -/

namespace VpnClient.Android

structure Server where
  ipv4AddrIn : String
  ipv4Gateway : String
  port : String
  publicKey : String
  deriving DecidableEq, Repr

structure Device where
  ipv4Address : String
  ipv6Address : String
  deriving DecidableEq, Repr

/-- The config that the client sends: it lists one or more servers. -/
structure ClientConfig where
  servers : List Server
  nonempty : servers ≠ []
  city : String
  dns : String
  allowedIPs : List String
  privateKey : String
  device : Device
  excludedApps : List String
  isOnboarding : Bool
  deriving DecidableEq

structure InetNetwork where
  address : String
  mask : ℕ
  deriving DecidableEq, Repr

structure Peer where
  endpoint : String
  publicKey : String
  allowedIps : List InetNetwork
  deriving DecidableEq, Repr

structure Interface where
  privateKey : String
  addresses : List InetNetwork
  dnsServers : List String
  excludedApplications : List String
  deriving DecidableEq, Repr

structure Config where
  interface : Interface
  peer : Peer
  deriving DecidableEq, Repr

/-- The configuration classes of WireGuard for Android, as they parse and print. -/
structure WireGuard where
  parseEndpoint : String → Option String
  parseKey : String → Option String
  parseNetwork : String → Option InetNetwork
  toWgUserspaceString : Config → String

def buildWireguardConfig (wg : WireGuard) (jServer : Server) (obj : ClientConfig) : Option Config := do
  let endpoint ← wg.parseEndpoint (jServer.ipv4AddrIn ++ ":" ++ jServer.port)
  let publicKey ← wg.parseKey jServer.publicKey
  let allowedIps ← (if obj.allowedIPs.length = 0 then ["0.0.0.0/0"] else obj.allowedIPs).mapM wg.parseNetwork
  let privateKey ← wg.parseKey obj.privateKey
  let ipv4Address ← wg.parseNetwork obj.device.ipv4Address
  let ipv6Address ← wg.parseNetwork obj.device.ipv6Address
  let mainGatewayAddress ← obj.servers.head?.map (·.ipv4AddrIn)
  let isSpecialDNS := mainGatewayAddress ≠ obj.dns
  let dnsAddress ← wg.parseNetwork (if isSpecialDNS then obj.dns else jServer.ipv4Gateway)
  return {
    interface := ⟨privateKey, [ipv4Address, ipv6Address], [dnsAddress.address], obj.excludedApps⟩
    peer := ⟨endpoint, publicKey, allowedIps⟩ }

/-- What `Builder.establish` gives. -/
inductive Establish where
  | tun
  | null
  | exception
  deriving DecidableEq, Repr

/-- What the system answers to one `turnOn`: whether the permission is given, whether the builder takes the config, the
interface, the handle of the new tunnel, the time and the version of the system. -/
structure Answers where
  permission : Bool
  setupBuilder : Bool
  establish : Establish
  wgTurnOn : ℤ
  now : ℕ
  sdk : ℕ
  deriving DecidableEq, Repr

/-- How a call ends: only `completed` has a new tunnel. `reconnect` catches an exception, but no error. -/
inductive Outcome where
  | completed
  | returned
  | exception
  | error
  deriving DecidableEq, Repr

/-- What a tunnel runs with, and the config and the server that this was made of. -/
structure Tunnel where
  wgConfig : String
  json : ClientConfig
  serverConfig : ℕ
  deriving DecidableEq

/-- The members of the service, the preference, and the tunnel of the WireGuard library with its handle. `turnOns` counts
the calls of `turnOn`. -/
structure VPNService where
  mConfig : Option ClientConfig := none
  mConnectionTime : ℕ := 0
  mConnectionHealth : ConnectionHealth := {}
  mCityname : String := ""
  currentServerConfig : ℕ := 0
  currentTunnelHandle : ℤ := -1
  lastConf : Option ClientConfig := none
  wireguard : Option (ℤ × Tunnel) := none
  turnOns : ℕ := 0
  deriving DecidableEq

namespace VPNService

def setCurrentTunnelHandle (now : ℕ) (value : ℤ) (s : VPNService) : VPNService :=
  { s with currentTunnelHandle := value, mConnectionTime := if value > -1 then now else 0 }

def isUp (s : VPNService) : Bool := s.currentTunnelHandle ≥ 0

def wgTurnOff (handle : ℤ) (s : VPNService) : VPNService :=
  if s.wireguard.map Prod.fst = some handle then { s with wireguard := none } else s

/-- The handle is negative if the tunnel does not start. -/
def wgTurnOn (tunnel : Tunnel) (handle : ℤ) (s : VPNService) : VPNService :=
  if handle < 0 then s else { s with wireguard := some (handle, tunnel) }

def getNextServerConfig (obj : ClientConfig) (useFallbackServer : Bool) (s : VPNService) :
    Option Server × VPNService :=
  let s :=
    if !useFallbackServer then { s with currentServerConfig := 0 }
    else { s with currentServerConfig := (s.currentServerConfig + 1) % obj.servers.length }
  (obj.servers[s.currentServerConfig]?, s)

/-- The part of `turnOn` before the old tunnel is closed. -/
def prepare (wg : WireGuard) (json : ClientConfig) (useFallbackServer : Bool) (answers : Answers) (s : VPNService) :
    Except Outcome (Server × String) × VPNService :=
  let (jServer, s) := s.getNextServerConfig json useFallbackServer
  match jServer.bind fun jServer => (buildWireguardConfig wg jServer json).map (jServer, ·) with
  | none => (.error .exception, s)
  | some (jServer, wireguard_conf) =>
    let wgConfig := wg.toWgUserspaceString wireguard_conf
    if wgConfig = "" then (.error .error, s)
    else
      let s := { s with mCityname := json.city }
      if !answers.permission then (.error .error, s)
      else if !answers.setupBuilder then (.error .exception, s)
      else if json.isOnboarding then (.error .returned, s)
      else
        match answers.establish with
        | .exception => (.error .exception, s)
        | .null => (.error .returned, s)
        | .tun => (.ok (jServer, wgConfig), s)

def fallbackIpv4 (json : ClientConfig) (currentServerConfig : ℕ) : String :=
  if currentServerConfig = 0 then
    if json.servers.length ≥ 2 then (json.servers[1]?.map (·.ipv4AddrIn)).getD "" else ""
  else (json.servers[0]?.map (·.ipv4AddrIn)).getD ""

/-- The part of `turnOn` from where the old tunnel is closed. -/
def replaceTunnel (json : ClientConfig) (jServer : Server) (wgConfig : String) (answers : Answers) (s : VPNService) :
    Outcome × VPNService :=
  let s := if s.currentTunnelHandle ≠ -1 then s.wgTurnOff s.currentTunnelHandle else s
  let s := (s.wgTurnOn ⟨wgConfig, json, s.currentServerConfig⟩ answers.wgTurnOn).setCurrentTunnelHandle answers.now
    answers.wgTurnOn
  if s.currentTunnelHandle < 0 then (.error, s)
  else
    let s := { s with mConfig := some json, lastConf := some json }
    let health := s.mConnectionHealth.start answers.sdk jServer.ipv4AddrIn jServer.ipv4Gateway json.dns
      (fallbackIpv4 json s.currentServerConfig)
    (.completed, { s with mConnectionHealth := health })

def turnOn (wg : WireGuard) (json : ClientConfig) (useFallbackServer : Bool) (answers : Answers) (s : VPNService) :
    Outcome × VPNService :=
  let s := { s with turnOns := s.turnOns + 1 }
  match s.prepare wg json useFallbackServer answers with
  | (.error outcome, s) => (outcome, s)
  | (.ok (jServer, wgConfig), s) => s.replaceTunnel json jServer wgConfig answers

/-- The config that `reconnect` uses. -/
def storedConfig (s : VPNService) : Option ClientConfig :=
  match s.mConfig with
  | some config => some config
  | none => s.lastConf

def reconnect (wg : WireGuard) (forceFallBack : Bool) (answers : Answers) (s : VPNService) : Outcome × VPNService :=
  let currentConnectionTime := s.mConnectionTime
  match s.storedConfig with
  | none => (.error, s)
  | some config =>
    let (outcome, s) := s.turnOn wg config forceFallBack answers
    if outcome = .error then (.error, s)
    else
      let outcome := if outcome = .exception then .returned else outcome
      (outcome, if currentConnectionTime ≠ 0 then { s with mConnectionTime := currentConnectionTime } else s)

def clearConfig (s : VPNService) : VPNService := { s with lastConf := none, mConfig := none }

def turnOff (s : VPNService) : VPNService :=
  let s := (s.wgTurnOff s.currentTunnelHandle).setCurrentTunnelHandle 0 (-1)
  { s with mConnectionHealth := s.mConnectionHealth.stop }

inductive Event where
  | turnOn (json : ClientConfig) (useFallbackServer : Bool) (answers : Answers)
  | reconnect (forceFallBack : Bool) (answers : Answers)
  | turnOff
  | clearConfig

def step (wg : WireGuard) (s : VPNService) : Event → VPNService
  | .turnOn json useFallbackServer answers => (s.turnOn wg json useFallbackServer answers).2
  | .reconnect forceFallBack answers => (s.reconnect wg forceFallBack answers).2
  | .turnOff => s.turnOff
  | .clearConfig => s.clearConfig

end VPNService

end VpnClient.Android
