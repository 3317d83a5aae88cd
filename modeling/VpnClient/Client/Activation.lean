import VpnClient.Backend.Session
import VpnClient.Client.Server

/-! What the client reads from its surroundings, and the configurations that it makes of it when
it activates a connection. -/

namespace VpnClient.Client

open Address Backend

inductive ActivationPrincipal where
  | Null
  | ExtensionUser
  | ClientUser
  deriving DecidableEq, Repr

/-- The value of the enumerator, by which `deactivate` compares principals. -/
def ActivationPrincipal.toNat : ActivationPrincipal → ℕ
  | Null => 0
  | ExtensionUser => 1
  | ClientUser => 2

inductive ServerSelectionPolicy where
  | RandomizeServerSelection
  | DoNotRandomizeServerSelection
  deriving DecidableEq, Repr

inductive DNSPortPolicy where
  | ForceDNSPort
  | DoNotForceDNSPort
  deriving DecidableEq, Repr

inductive AppState where
  | StateMain
  | StateOnboarding
  | other
  deriving DecidableEq, Repr

/-- The numbers that an activation takes from the generator of random numbers. -/
inductive Draw where
  | exitServer
  | exitPort
  | entryServer
  | entryPort

structure Device where
  ipv4Address : String
  ipv6Address : String

/-- What the client finds when it handles an event: the clock, the account with its current device
and key, the servers with their cooldowns, the features and settings, the parsers of addresses, and
whether a task that is scheduled runs at once. -/
structure Env where
  now : ℤ
  device : Option Device
  privateKey : String
  appState : AppState
  reachable : Bool
  serverData : ServerData
  server : String → Server
  cityServers : String → String → List String
  cooldown : String → ℤ
  generate : Draw → UInt32
  hostAddress : String → QHostAddress
  parseSubnet : String → QHostAddress × ℕ
  multihopSupported : Bool
  multiHop : Bool
  splitTunnel : Bool
  alwaysPort53 : Bool
  checkConnectivityOnActivation : Bool
  customDNS : Bool
  dnsProviderFlags : ℕ
  userDNS : String
  validateUserDNS : String → Bool
  vpnDisabledApps : List String
  schedulerIdle : Bool

structure DnsData where
  ipAddress : String
  dnsType : String

namespace Env

/-- The constructor of `IPAddress` from a string. -/
def ipAddress (env : Env) (ip : String) : IPAddress :=
  let (address, prefixLength) := if '/' ∈ ip.toList then env.parseSubnet ip else (env.hostAddress ip, 999999)
  ⟨address, min prefixLength address.width⟩

def getServerList (env : Env) (countryCode cityName : String) : List Server :=
  ((env.cityServers countryCode cityName).filter fun pubkey =>
    (env.server pubkey).initialized && env.cooldown pubkey ≤ env.now).map env.server

def exitServers (env : Env) (serverData : ServerData) : List Server :=
  env.getServerList serverData.exitCountryCode serverData.exitCityName

def entryServers (env : Env) (serverData : ServerData) : List Server :=
  if !serverData.multihop then env.exitServers serverData
  else env.getServerList serverData.entryCountryCode serverData.entryCityName

/-- The table of `getDNSDetails`; flags outside it are excluded by an assertion. -/
def dnsMap : ℕ → DnsData
  | 0x02 => ⟨"100.64.0.1", "BlockAds"⟩
  | 0x04 => ⟨"100.64.0.2", "BlockTrackers"⟩
  | 0x06 => ⟨"100.64.0.3", "BlockAdsAndTrackers"⟩
  | 0x08 => ⟨"100.64.0.4", "BlockMalware"⟩
  | 0x0A => ⟨"100.64.0.5", "BlockMalwareAndAds"⟩
  | 0x0C => ⟨"100.64.0.6", "BlockMalwareAndTrackers"⟩
  | 0x0E => ⟨"100.64.0.7", "BlockMalwareAndAdsAndTrackers"⟩
  | _ => ⟨"", ""⟩

def getDNSDetails (env : Env) (fallback : String) : DnsData :=
  if !env.customDNS then ⟨fallback, "NoCustomDNSAvailable"⟩
  else if env.dnsProviderFlags = 0x00 then ⟨fallback, "Default"⟩
  else if env.dnsProviderFlags = 0x01 then
    if env.userDNS = "" ∨ !env.validateUserDNS env.userDNS then ⟨fallback, "Default"⟩
    else ⟨env.userDNS, "Custom"⟩
  else dnsMap env.dnsProviderFlags

def getDNS (env : Env) (fallback : String) : String := (env.getDNSDetails fallback).ipAddress

/-- The range 10.124.0.0/20 of the proxy services. -/
def MULLVAD_PROXY_RANGE : IPAddress := ⟨.ipv4 0x0A7C0000, 20⟩

def getAllowedIPAddressRanges (env : Env) (exitServer : Server) : List IPAddress :=
  [⟨.ipv4 0, 0⟩, ⟨.ipv6 (Vector.replicate 16 0), 0⟩, ⟨env.hostAddress exitServer.ipv4Gateway, 32⟩] ++
    (if exitServer.ipv6Gateway ≠ "" then [⟨env.hostAddress exitServer.ipv6Gateway, 128⟩] else []) ++
    [MULLVAD_PROXY_RANGE]

def getExtensionProxyAddressRanges (env : Env) (exitServer : Server) : List IPAddress :=
  let dns := env.getDNSDetails exitServer.ipv4Gateway
  [⟨env.hostAddress exitServer.ipv4Gateway, 32⟩, MULLVAD_PROXY_RANGE] ++
    (if exitServer.ipv6Gateway ≠ "" then [⟨env.hostAddress exitServer.ipv6Gateway, 128⟩] else []) ++
    (if dns.dnsType ≠ "Default" ∧ dns.dnsType ≠ "Custom" then [⟨env.hostAddress dns.ipAddress, 32⟩] else [])

/-- A server of the list, or the one with the given key if that is not to be chosen anew. -/
def selectServer (env : Env) (serverSelectionPolicy : ServerSelectionPolicy) (publicKey : String) (draw : Draw)
    (servers : List Server) : Server :=
  if serverSelectionPolicy = .DoNotRandomizeServerSelection ∧ publicKey ≠ "" then env.server publicKey
  else Server.weightChooser (env.generate draw) servers

def exitServer (env : Env) (serverData : ServerData) (serverSelectionPolicy : ServerSelectionPolicy) : Server :=
  env.selectServer serverSelectionPolicy serverData.exitServerPublicKey .exitServer (env.exitServers serverData)

def entryServer (env : Env) (serverData : ServerData) (serverSelectionPolicy : ServerSelectionPolicy) : Server :=
  env.selectServer serverSelectionPolicy serverData.entryServerPublicKey .entryServer (env.entryServers serverData)

/-- The data of the exit server before `activateInternal` settles the kind of the connection. -/
def exitConfig (env : Env) (device : Device) (initiator : ActivationPrincipal) (exitServer : Server) :
    InterfaceConfig where
  hopType := .SingleHop
  privateKey := env.privateKey
  deviceIpv4Address := device.ipv4Address
  deviceIpv6Address := device.ipv6Address
  serverIpv4Gateway := exitServer.ipv4Gateway
  serverIpv6Gateway := exitServer.ipv6Gateway
  serverPublicKey := exitServer.publicKey
  serverIpv4AddrIn := exitServer.ipv4AddrIn
  serverIpv6AddrIn := exitServer.ipv6AddrIn
  serverPort := (exitServer.choosePort (env.generate .exitPort)).toNat
  allowedIPAddressRanges :=
    if initiator = .ExtensionUser then env.getExtensionProxyAddressRanges exitServer
    else env.getAllowedIPAddressRanges exitServer
  dnsServer := env.getDNS exitServer.ipv4Gateway
  vpnDisabledApps := if env.splitTunnel then env.vpnDisabledApps else []

def entryConfig (env : Env) (device : Device) (forcePort53 : Bool) (exitServer entryServer : Server) :
    InterfaceConfig where
  hopType := .MultiHopEntry
  privateKey := env.privateKey
  deviceIpv4Address := device.ipv4Address
  deviceIpv6Address := device.ipv6Address
  serverPublicKey := entryServer.publicKey
  serverIpv4AddrIn := entryServer.ipv4AddrIn
  serverIpv6AddrIn := entryServer.ipv6AddrIn
  serverPort := if forcePort53 then 53 else (entryServer.choosePort (env.generate .entryPort)).toNat
  allowedIPAddressRanges := env.ipAddress exitServer.ipv4AddrIn ::
    (if exitServer.ipv6AddrIn ≠ "" then [env.ipAddress exitServer.ipv6AddrIn] else [])

/-- Why `activateInternal` returns early. -/
inductive Abort where
  | serverUnavailable
  | noDevice
  deriving DecidableEq, Repr

/-- What `activateInternal` puts into the queue. -/
def activation (env : Env) (serverData : ServerData) (dnsPort : DNSPortPolicy)
    (serverSelectionPolicy : ServerSelectionPolicy) (initiator : ActivationPrincipal) : Except Abort Activation :=
  let exitServer := env.exitServer serverData serverSelectionPolicy
  let entryServer := env.entryServer serverData serverSelectionPolicy
  if !exitServer.initialized then .error .serverUnavailable
  else
    match env.device with
    | none => .error .noDevice
    | some device =>
      let exitConfig := env.exitConfig device initiator exitServer
      let forcePort53 := env.alwaysPort53 || dnsPort = .ForceDNSPort
      if !env.multiHop || !serverData.multihop then
        .ok (.singleHop (if forcePort53 then { exitConfig with serverPort := 53 } else exitConfig))
      else if !entryServer.initialized then .error .serverUnavailable
      else if env.multihopSupported then
        .ok (.multiHop (env.entryConfig device forcePort53 exitServer entryServer) exitConfig)
      else
        .ok (.singleHop { exitConfig with
          serverPort := exitServer.multihopPort.toNat
          serverIpv4AddrIn := entryServer.ipv4AddrIn
          serverIpv6AddrIn := entryServer.ipv6AddrIn })

/-- There are servers and a device for what `activation` makes. -/
def CanActivate (env : Env) (serverData : ServerData) (serverSelectionPolicy : ServerSelectionPolicy) : Prop :=
  (env.exitServer serverData serverSelectionPolicy).initialized = true ∧ env.device.isSome = true ∧
    (env.multiHop = true → serverData.multihop = true →
      (env.entryServer serverData serverSelectionPolicy).initialized = true)

instance (env : Env) (serverData : ServerData) (serverSelectionPolicy : ServerSelectionPolicy) :
    Decidable (env.CanActivate serverData serverSelectionPolicy) := inferInstanceAs (Decidable (_ ∧ _))

lemma canActivate_iff {env : Env} {serverData : ServerData} {dnsPort : DNSPortPolicy}
    {serverSelectionPolicy : ServerSelectionPolicy} {initiator : ActivationPrincipal} :
    env.CanActivate serverData serverSelectionPolicy ↔
      ∃ activation, env.activation serverData dnsPort serverSelectionPolicy initiator = .ok activation := by
  constructor
  · rintro ⟨hx, hd, he⟩
    obtain ⟨device, hd⟩ := Option.isSome_iff_exists.mp hd
    simp only [activation, hx, hd, Bool.not_true, Bool.false_eq_true, if_false]
    by_cases hm : (!env.multiHop || !serverData.multihop) = true
    · rw [if_pos hm]
      exact ⟨_, rfl⟩
    · have he := he (by simp_all) (by simp_all)
      rw [if_neg hm, he]
      cases env.multihopSupported <;> exact ⟨_, rfl⟩
  · rintro ⟨result, h⟩
    unfold activation at h
    dsimp only at h
    cases hx : (env.exitServer serverData serverSelectionPolicy).initialized with
    | false =>
      rw [hx] at h
      cases h
    | true =>
      rw [hx, if_neg (by simp)] at h
      cases hd : env.device with
      | none =>
        rw [hd] at h
        cases h
      | some device =>
        refine ⟨hx, by rw [hd]; rfl, fun hm hs => ?_⟩
        rw [hd] at h
        dsimp only at h
        rw [hm, hs, if_neg (by simp)] at h
        by_contra he
        rw [Bool.not_eq_true] at he
        rw [he] at h
        cases h

/-- A device in a working network, where each city has one server with the name of the city as its key. -/
def working : Env where
  now := 100
  device := some ⟨"10.64.0.2", "fc00::2"⟩
  privateKey := "key"
  appState := .StateMain
  reachable := true
  serverData := {}
  server publicKey := { hostname := publicKey, publicKey, ipv4Gateway := "10.64.0.1", weight := 1 }
  cityServers _ cityName := [cityName]
  cooldown _ := 0
  generate _ := 0
  hostAddress _ := .ipv4 0x0A400001
  parseSubnet _ := (.ipv4 0, 0)
  multihopSupported := true
  multiHop := true
  splitTunnel := false
  alwaysPort53 := false
  checkConnectivityOnActivation := false
  customDNS := false
  dnsProviderFlags := 0
  userDNS := ""
  validateUserDNS _ := true
  vpnDisabledApps := []
  schedulerIdle := true

end Env

end VpnClient.Client
