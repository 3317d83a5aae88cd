import VpnClient.Android.VPNService
import VpnClient.Ipc.Message

/-! The configs of the Android service as the JSON objects they are, whose fields may be missing or malformed. -/

namespace VpnClient.Android

open Ipc (JsonValue JsonObject)

/-- What is read, or the message of the exception. -/
abbrev Read := Except (Option String)

/-- The conversions of `org.json`, and the configuration classes of WireGuard as they parse and print. -/
structure Libraries where
  toString : JsonValue → String
  toBoolean : JsonValue → Option Bool
  toInteger : JsonValue → Option ℤ
  typeMismatch : JsonValue → String → String → String
  parseEndpoint : String → Read String
  parseKey : String → Read String
  parsePrivateKey : String → Read String
  parseNetwork : String → Read InetNetwork
  toWgUserspaceString : Config → String

namespace JsonConfig

variable (libs : Libraries)

def get (obj : JsonObject) (name : String) : Read JsonValue :=
  match obj.value name with
  | none => .error (some ("No value for " ++ name))
  | some value => .ok value

def text : JsonValue → String
  | .string value => value
  | value => libs.toString value

def getString (obj : JsonObject) (name : String) : Read String := (get obj name).map (text libs)

def getBoolean (obj : JsonObject) (name : String) : Read Bool := do
  let value ← get obj name
  match libs.toBoolean value with
  | none => .error (some (libs.typeMismatch value name "boolean"))
  | some value => .ok value

def asArray (name : String) : JsonValue → Read (List JsonValue)
  | .array values => .ok values
  | value => .error (some (libs.typeMismatch value name "JSONArray"))

def asObject (name : String) : JsonValue → Read JsonObject
  | .object fields => .ok fields
  | value => .error (some (libs.typeMismatch value name "JSONObject"))

def getJSONArray (obj : JsonObject) (name : String) : Read (List JsonValue) := do
  let value ← get obj name
  asArray libs name value

def getJSONObject (obj : JsonObject) (name : String) : Read JsonObject := do
  let value ← get obj name
  asObject libs name value

def objectAt (values : List JsonValue) (index : ℕ) : Read JsonObject :=
  match values[index]? with
  | none => .error (some ("Index " ++ ToString.toString index ++ " out of range [0.." ++
      ToString.toString values.length ++ ")"))
  | some value => asObject libs (ToString.toString index) value

def optBoolean (obj : JsonObject) (name : String) (fallback : Bool) : Bool :=
  ((obj.value name).bind libs.toBoolean).getD fallback

def optInt (obj : JsonObject) (name : String) : ℤ := ((obj.value name).bind libs.toInteger).getD 0

def serverAt (obj : JsonObject) (index : ℕ) : Read JsonObject := do
  let servers ← getJSONArray libs obj "servers"
  objectAt libs servers index

/-- The index of the server that `getNextServerConfig` selects. -/
def nextServerConfig (obj : JsonObject) (useFallbackServer : Bool) (currentServerConfig : ℕ) : Read ℕ :=
  if !useFallbackServer then .ok 0
  else do
    let servers ← getJSONArray libs obj "servers"
    if servers.length = 0 then .error (some "divide by zero") else .ok ((currentServerConfig + 1) % servers.length)

def buildWireguardConfig (jServer obj : JsonObject) : Read Config := do
  let ipv4AddrIn ← getString libs jServer "ipv4AddrIn"
  let port ← getString libs jServer "port"
  let endpoint ← libs.parseEndpoint (ipv4AddrIn ++ ":" ++ port)
  let publicKey ← getString libs jServer "publicKey"
  let publicKey ← libs.parseKey publicKey
  let jAllowedIPList ← getJSONArray libs obj "allowedIPs"
  let allowedIps ←
    (if jAllowedIPList.length = 0 then ["0.0.0.0/0"] else jAllowedIPList.map (text libs)).mapM libs.parseNetwork
  let keys ← getJSONObject libs obj "keys"
  let privateKey ← getString libs keys "privateKey"
  let jDevice ← getJSONObject libs obj "device"
  let privateKey ← libs.parsePrivateKey privateKey
  let ipv4Address ← getString libs jDevice "ipv4Address"
  let ipv4Address ← libs.parseNetwork ipv4Address
  let ipv6Address ← getString libs jDevice "ipv6Address"
  let ipv6Address ← libs.parseNetwork ipv6Address
  let mainServer ← serverAt libs obj 0
  let mainGatewayAddress ← getString libs mainServer "ipv4AddrIn"
  let mainDnsAddress ← getString libs obj "dns"
  let isSpecialDNS := mainGatewayAddress ≠ mainDnsAddress
  let dnsAddress ← if isSpecialDNS then pure mainDnsAddress else getString libs jServer "ipv4Gateway"
  let dnsAddress ← libs.parseNetwork dnsAddress
  let jExcludedApplication ← getJSONArray libs obj "excludedApps"
  return {
    interface := ⟨privateKey, [ipv4Address, ipv6Address], [dnsAddress.address], jExcludedApplication.map (text libs)⟩
    peer := ⟨endpoint, publicKey, allowedIps⟩ }

/-- The server at an index with the config for it. -/
def readConfig (obj : JsonObject) (index : ℕ) : Read (JsonObject × Config) := do
  let jServer ← serverAt libs obj index
  let wireguard_conf ← buildWireguardConfig libs jServer obj
  return (jServer, wireguard_conf)

/-- The addresses that the health is started with. -/
structure HealthAddresses where
  endpoint : String
  gateway : String
  dns : String
  fallbackIpv4 : String

def fallbackIpv4 (obj : JsonObject) (currentServerConfig : ℕ) : Read String :=
  if currentServerConfig = 0 then do
    let servers ← getJSONArray libs obj "servers"
    if servers.length ≥ 2 then do
      let server ← objectAt libs servers 1
      getString libs server "ipv4AddrIn"
    else pure ""
  else do
    let server ← serverAt libs obj 0
    getString libs server "ipv4AddrIn"

def healthAddresses (jServer obj : JsonObject) (currentServerConfig : ℕ) : Read HealthAddresses := do
  let fallbackIpv4 ← fallbackIpv4 libs obj currentServerConfig
  let endpoint ← getString libs jServer "ipv4AddrIn"
  let gateway ← getString libs jServer "ipv4Gateway"
  let dns ← getString libs obj "dns"
  return { endpoint, gateway, dns, fallbackIpv4 }

end JsonConfig

end VpnClient.Android

/-! The Android service as its client sees it: the transactions it takes, and the events and pings it sends. -/

namespace VpnClient.Android

open Ipc (JsonObject)
open JsonConfig

inductive ClientEvent where
  | connected (city : String)
  | disconnected
  | activationError (message : String)
  | permissionRequired
  | onboardingCompleted
  deriving DecidableEq, Repr

inductive Ping where
  | daemonFlush
  | daemonStart
  | daemonEnd
  deriving DecidableEq, Repr

/-- An `Error` of Kotlin is no `Exception`. -/
inductive Throwable where
  | exception (message : Option String)
  | error (message : String)
  deriving DecidableEq, Repr

abbrev Result := Except Throwable Unit

/-- What the system answers to one `turnOn`: `establish` may give no interface. -/
structure SystemAnswers where
  permission : Bool := true
  setupBuilder : Read Unit := .ok ()
  establish : Read Bool := .ok true
  wgTurnOn : ℤ
  now : ℕ := 0
  sdk : ℕ := 31

structure JsonTunnel where
  wgConfig : String
  json : JsonObject

/-- The members of the service and of its binder, and the tunnel of the WireGuard library with its handle. `started`
tells whether the transaction has started that tunnel, `events` what it has dispatched. -/
structure BoundService where
  mConfig : Option JsonObject := none
  mConnectionTime : ℕ := 0
  mConnectionHealth : ConnectionHealth := {}
  mCityname : String := ""
  currentServerConfig : ℕ := 0
  currentTunnelHandle : ℤ := -1
  lastConf : Option JsonObject := none
  mResumeConfig : Option JsonObject := none
  wireguard : Option (ℤ × JsonTunnel) := none
  started : Bool := false
  events : List ClientEvent := []
  pings : List Ping := []

namespace BoundService

variable (libs : Libraries)

def dispatchEvent (event : ClientEvent) (s : BoundService) : BoundService := { s with events := s.events ++ [event] }

def submit (pings : List Ping) (s : BoundService) : BoundService := { s with pings := s.pings ++ pings }

def isUp (s : BoundService) : Bool := s.currentTunnelHandle ≥ 0

def isSuperDooperMetricsActive (s : BoundService) : Bool :=
  s.mConfig.any fun config => optBoolean libs config "isSuperDooperFeatureActive" false

def isAppChangingServers (s : BoundService) : Bool := s.mConfig.any fun config => optInt libs config "reason" = 1

def shouldRecordTimerAndEndMetrics (s : BoundService) : Bool :=
  s.isSuperDooperMetricsActive libs && !s.isAppChangingServers libs

def setCurrentTunnelHandle (now : ℕ) (value : ℤ) (s : BoundService) : BoundService :=
  if value > -1 then
    dispatchEvent (.connected s.mCityname) { s with currentTunnelHandle := value, mConnectionTime := now }
  else { dispatchEvent .disconnected { s with currentTunnelHandle := value } with mConnectionTime := 0 }

def wgTurnOff (handle : ℤ) (s : BoundService) : BoundService :=
  if s.wireguard.map Prod.fst = some handle then { s with wireguard := none, started := false } else s

/-- The handle is negative if the tunnel does not start. -/
def wgTurnOn (tunnel : JsonTunnel) (handle : ℤ) (s : BoundService) : BoundService :=
  if handle < 0 then s else { s with wireguard := some (handle, tunnel), started := true }

/-- The part of `turnOn` once the tunnel is up. -/
def recordSession (json jServer : JsonObject) (isDaemonChangingServers : Bool) (answers : SystemAnswers)
    (s : BoundService) : Result × BoundService :=
  let s := { s with mConfig := some json }
  let shouldRecordStartTelemetry := s.shouldRecordTimerAndEndMetrics libs && !isDaemonChangingServers
  let s := { s with lastConf := some json }
  match healthAddresses libs jServer json s.currentServerConfig with
  | .error message => (.error (.exception message), s)
  | .ok addresses =>
    let s := { s with
      mConnectionHealth := s.mConnectionHealth.start answers.sdk addresses.endpoint addresses.gateway addresses.dns
        addresses.fallbackIpv4 }
    if shouldRecordStartTelemetry then
      match getString libs json "installationId" with
      | .error message => (.error (.exception message), s)
      | .ok _ => (.ok (), s.submit [.daemonFlush, .daemonStart])
    else (.ok (), s)

/-- The part of `turnOn` from where the old tunnel is closed. -/
def replaceTunnel (json jServer : JsonObject) (wgConfig : String) (isDaemonChangingServers : Bool)
    (answers : SystemAnswers) (s : BoundService) : Result × BoundService :=
  let s := if s.currentTunnelHandle ≠ -1 then s.wgTurnOff s.currentTunnelHandle else s
  let s := (s.wgTurnOn { wgConfig, json } answers.wgTurnOn).setCurrentTunnelHandle answers.now answers.wgTurnOn
  if s.currentTunnelHandle < 0 then
    (.error (.error ("Activation Error Wireguard-Error -> " ++ toString s.currentTunnelHandle)), s)
  else s.recordSession libs json jServer isDaemonChangingServers answers

/-- The part of `turnOn` that asks the system, once the config is read. -/
def establish (json jServer : JsonObject) (wgConfig : String) (isDaemonChangingServers : Bool)
    (answers : SystemAnswers) (s : BoundService) : Result × BoundService :=
  if !answers.permission then (.error (.error "turn on was called without vpn-permission!"), s)
  else
    match answers.setupBuilder with
    | .error message => (.error (.exception message), s)
    | .ok _ =>
      match getBoolean libs json "isOnboarding" with
      | .error message => (.error (.exception message), s)
      | .ok isOnboarding =>
        if isOnboarding then (.ok (), s.dispatchEvent .onboardingCompleted)
        else
          match answers.establish with
          | .error message => (.error (.exception message), s)
          | .ok tun =>
            if !tun then (.ok (), s) else s.replaceTunnel libs json jServer wgConfig isDaemonChangingServers answers

def turnOn (json : JsonObject) (useFallbackServer isDaemonChangingServers : Bool) (answers : SystemAnswers)
    (s : BoundService) : Result × BoundService :=
  match nextServerConfig libs json useFallbackServer s.currentServerConfig with
  | .error message => (.error (.exception message), s)
  | .ok currentServerConfig =>
    let s := { s with currentServerConfig }
    match readConfig libs json currentServerConfig with
    | .error message => (.error (.exception message), s)
    | .ok read =>
      let wgConfig := libs.toWgUserspaceString read.2
      if wgConfig = "" then (.error (.error "WG_Userspace config is empty, can't continue"), s)
      else
        match getString libs json "city" with
        | .error message => (.error (.exception message), s)
        | .ok city =>
          { s with mCityname := city }.establish libs json read.1 wgConfig isDaemonChangingServers answers

/-- The config that `reconnect` uses. -/
def storedConfig (s : BoundService) : Option JsonObject := s.mConfig <|> s.lastConf

/-- Only exceptions are caught. -/
def reconnect (forceFallBack : Bool) (source : Option String) (answers : SystemAnswers) (s : BoundService) :
    Result × BoundService :=
  match s.storedConfig with
  | none => (.error (.error "no config to use"), s)
  | some config =>
    let called := s.turnOn libs config forceFallBack source.isNone answers
    match called.1 with
    | .error (.error message) => (.error (.error message), called.2)
    | _ =>
      (.ok (), if s.mConnectionTime ≠ 0 then { called.2 with mConnectionTime := s.mConnectionTime } else called.2)

def clearConfig (s : BoundService) : BoundService := { s with lastConf := none, mConfig := none }

def turnOff (s : BoundService) : BoundService :=
  let s := (s.wgTurnOff s.currentTunnelHandle).setCurrentTunnelHandle 0 (-1)
  let s := { s with mConnectionHealth := s.mConnectionHealth.stop }
  if s.shouldRecordTimerAndEndMetrics libs then s.submit [.daemonEnd] else s

/-- What the handlers do with an exception, whose message has to be there for the event. -/
def reportException (called : Result × BoundService) : Result × BoundService :=
  match called.1 with
  | .error (.exception (some message)) => (.ok (), called.2.dispatchEvent (.activationError message))
  | .error (.exception none) => (.error (.exception (some "Parameter specified as non-null is null")), called.2)
  | _ => called

/-- The config is `none` if there are no data. -/
def activate (data : Read (Option JsonObject)) (permission : Bool) (answers : SystemAnswers) (s : BoundService) :
    Result × BoundService :=
  reportException <|
    match data with
    | .error message => (.error (.exception message), s)
    | .ok none => (.ok (), s)
    | .ok (some config) =>
      if !permission then (.ok (), dispatchEvent .permissionRequired { s with mResumeConfig := some config })
      else s.turnOn libs config false false answers

def resumeActivate (answers : SystemAnswers) (s : BoundService) : Result × BoundService :=
  reportException <|
    match s.mResumeConfig with
    | none => (.ok (), s)
    | some config => s.turnOn libs config false false answers

def reactivate (answers : SystemAnswers) (s : BoundService) : Result × BoundService :=
  reportException (s.reconnect libs false (some "system") answers)

def onStartCommand (startOnly : Bool) (answers : SystemAnswers) (s : BoundService) : Result × BoundService :=
  if s.isUp then (.ok (), s)
  else if startOnly then (.ok (), s)
  else
    match s.storedConfig with
    | none => (.ok (), s)
    | some config =>
      let called := { s with mConfig := some config }.turnOn libs config false false answers
      match called.1 with
      | .error (.exception _) => (.ok (), called.2)
      | _ => called

end BoundService

end VpnClient.Android
