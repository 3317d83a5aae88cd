import VpnClient.Android.ActivationReports
import VpnClient.Backend.InterfaceConfig
import VpnClient.Client.Server
import VpnClient.Library.Results

/-! The config that the controller sends to the Android service, and the statistics that it gets back. -/

namespace VpnClient.Android.AndroidController

open Ipc (JsonValue JsonObject)
open Address Backend

structure LocalizedMessages where
  productName : String
  connectedHeader : String
  connectedBody : String
  disconnectedHeader : String
  disconnectedBody : String

/-- What an activation reads besides the config: the fallback servers with the ports that are chosen for them, the
routes of the local network, and how a range is printed. -/
structure ActivationContext where
  devicePublicKey : String := ""
  deviceName : String := ""
  deviceCreationTime : ℤ := 0
  fallbackServers : List (Client.Server × UInt32) := []
  lanRoutesV4 : List IPAddress := []
  lanRoutesV6 : List IPAddress := []
  addressToString : IPAddress → String := fun _ => ""
  reason : ℤ := 0
  localizedExitCityName : String := ""
  messages : LocalizedMessages := ⟨"", "", "", "", ""⟩
  isSuperDooperFeatureActive : Bool := false
  installationId : String := ""
  gleanDebugTagActive : Bool := false
  gleanDebugTag : String := ""
  shortTimerSessionPing : Bool := false
  isOnboarding : Bool := false

/-- The fields of a server. -/
structure ServerEntry where
  ipv4AddrIn : String
  ipv4Gateway : String
  ipv6AddrIn : String
  ipv6Gateway : String
  publicKey : String
  port : ℕ

def ServerEntry.toJson (entry : ServerEntry) : JsonObject := [
  ("ipv4AddrIn", .string entry.ipv4AddrIn),
  ("ipv4Gateway", .string entry.ipv4Gateway),
  ("ipv6AddrIn", .string entry.ipv6AddrIn),
  ("ipv6Gateway", .string entry.ipv6Gateway),
  ("publicKey", .string entry.publicKey),
  ("port", .double entry.port)]

variable (config : InterfaceConfig) (c : ActivationContext)

def jMainServer : ServerEntry where
  ipv4AddrIn := config.serverIpv4AddrIn
  ipv4Gateway := config.serverIpv4Gateway
  ipv6AddrIn := config.serverIpv6AddrIn
  ipv6Gateway := config.serverIpv6Gateway
  publicKey := config.serverPublicKey
  port := config.serverPort

def jFallbackServer (fallbackServer : Client.Server × UInt32) : ServerEntry where
  ipv4AddrIn := fallbackServer.1.ipv4AddrIn
  ipv4Gateway := fallbackServer.1.ipv4Gateway
  ipv6AddrIn := fallbackServer.1.ipv6AddrIn
  ipv6Gateway := fallbackServer.1.ipv6Gateway
  publicKey := fallbackServer.1.publicKey
  port := fallbackServer.2.toNat

def jServers : List ServerEntry := jMainServer config :: c.fallbackServers.map jFallbackServer

/-- What is left of a range without the routes of the local network. -/
def withoutRoutes (item : IPAddress) (lanRoutes : List IPAddress) : List IPAddress :=
  (excludeAddresses 128 [item] lanRoutes).toOption.getD []

def jAllowedIPs : List String :=
  config.allowedIPAddressRanges.flatMap fun item =>
    if item.prefixLength > 0 then [c.addressToString item]
    else
      match item.address.protocol with
      | .IPv4Protocol => (withoutRoutes item c.lanRoutesV4).map c.addressToString
      | .IPv6Protocol => (withoutRoutes item c.lanRoutesV6).map c.addressToString

/-- The document that `activate` sends to the service. -/
def activate : JsonObject := [
  ("device", .object [
    ("publicKey", .string c.devicePublicKey),
    ("name", .string c.deviceName),
    ("createdAt", .double c.deviceCreationTime),
    ("ipv4Address", .string config.deviceIpv4Address),
    ("ipv6Address", .string config.deviceIpv6Address)]),
  ("keys", .object [("privateKey", .string config.privateKey)]),
  ("servers", .array ((jServers config c).map fun entry => .object entry.toJson)),
  ("reason", .double c.reason),
  ("allowedIPs", .array ((jAllowedIPs config c).map .string)),
  ("excludedApps", .array (config.vpnDisabledApps.map .string)),
  ("dns", .string config.dnsServer),
  ("city", .string c.localizedExitCityName),
  ("messages", .object [
    ("productName", .string c.messages.productName),
    ("connectedHeader", .string c.messages.connectedHeader),
    ("connectedBody", .string c.messages.connectedBody),
    ("disconnectedHeader", .string c.messages.disconnectedHeader),
    ("disconnectedBody", .string c.messages.disconnectedBody)]),
  ("isSuperDooperFeatureActive", .bool c.isSuperDooperFeatureActive),
  ("installationId", .string c.installationId),
  ("gleanDebugTag", .string (if c.gleanDebugTagActive then c.gleanDebugTag else "")),
  ("isUsingShortTimerSessionPing", .bool c.shortTimerSessionPing),
  ("isOnboarding", .bool c.isOnboarding)]

lemma value_servers : (activate config c).value "servers" =
    some (.array ((jServers config c).map fun entry => .object entry.toJson)) := by
  simp [activate, JsonObject.value]

lemma value_dns : (activate config c).value "dns" = some (.string config.dnsServer) := by
  simp [activate, JsonObject.value]

lemma value_server : (activate config c).value "server" = none := by
  simp [activate, JsonObject.value]

end VpnClient.Android.AndroidController

/-! The resolver of each server of a config, in the tunnel of Android and in the list for iOS. -/

namespace VpnClient.Ios

open Backend

/-- What iOS keeps of a server. -/
structure VPNServerData where
  dns : String
  ipv6Gateway : String
  publicKey : String
  ipv4AddrIn : String
  port : ℕ

/-- The servers that the iOS controller hands to its implementation. -/
def serverData (config : InterfaceConfig) (fallbackServers : List (Client.Server × UInt32)) : List VPNServerData :=
  let isUsingNormalDns := config.dnsServer = config.serverIpv4Gateway
  ⟨config.dnsServer, config.serverIpv6Gateway, config.serverPublicKey, config.serverIpv4AddrIn, config.serverPort⟩ ::
    fallbackServers.map fun fallbackServer =>
      let dnsServer := if isUsingNormalDns then fallbackServer.1.ipv4Gateway else config.dnsServer
      ⟨dnsServer, fallbackServer.1.ipv6Gateway, fallbackServer.1.publicKey, fallbackServer.1.ipv4AddrIn,
        fallbackServer.2.toNat⟩

end VpnClient.Ios

namespace VpnClient.Android.AndroidController

open Ipc (JsonValue JsonObject)
open Backend Ios Library.Results JsonConfig

variable (libs : Libraries) (config : InterfaceConfig) (c : ActivationContext) (k : ℕ)

/-- The address that a text is read as. -/
def address (text : String) : Option String := (libs.parseNetwork text).toOption.map (·.address)

def gateway : Option String := (jServers config c)[k]?.map (·.ipv4Gateway)

/-- The resolver that a user gets with a server: the chosen one, or the gateway of the server by default. -/
def resolver (gateway : String) : String :=
  if k = 0 ∨ config.dnsServer ≠ config.serverIpv4Gateway then config.dnsServer else gateway

/-- The tunnel and the list for iOS have the resolver of the server. -/
def SameDns (conf : Config) : Prop :=
  ∃ gw data, gateway config c k = some gw ∧ (serverData config c.fallbackServers)[k]? = some data ∧
    data.dns = resolver config k gw ∧ conf.interface.dnsServers.map some = [address libs data.dns]

variable {libs config c k} {jServer : JsonObject} {conf : Config}

section Decoder

lemma getJSONArray_servers : getJSONArray libs (activate config c) "servers" =
    .ok ((jServers config c).map fun entry => .object entry.toJson) := by
  rw [getJSONArray, JsonConfig.get, value_servers]
  rfl

lemma serverAt_iff : serverAt libs (activate config c) k = .ok jServer ↔
    ∃ entry, (jServers config c)[k]? = some entry ∧ jServer = entry.toJson := by
  rw [serverAt, bind_ok_iff]
  simp only [getJSONArray_servers, Except.ok.injEq, exists_eq_left', objectAt, List.getElem?_map]
  cases (jServers config c)[k]? with
  | none => simp
  | some entry => simp [asObject, eq_comm]

lemma getString_ipv4AddrIn (entry : ServerEntry) : getString libs entry.toJson "ipv4AddrIn" = .ok entry.ipv4AddrIn := by
  simp [getString, JsonConfig.get, ServerEntry.toJson, JsonObject.value, text, Except.map]

lemma getString_ipv4Gateway (entry : ServerEntry) :
    getString libs entry.toJson "ipv4Gateway" = .ok entry.ipv4Gateway := by
  simp [getString, JsonConfig.get, ServerEntry.toJson, JsonObject.value, text, Except.map]

lemma getString_dns : getString libs (activate config c) "dns" = .ok config.dnsServer := by
  rw [getString, JsonConfig.get, value_dns]
  rfl

lemma dnsServers_of_readConfig (h : readConfig libs (activate config c) k = .ok (jServer, conf)) :
    ∃ gw a, gateway config c k = some gw ∧
      address libs (if config.serverIpv4AddrIn ≠ config.dnsServer then config.dnsServer else gw) = some a ∧
      conf.interface.dnsServers = [a] := by
  simp only [readConfig, bind_ok_iff, pure_ok_iff, Prod.mk.injEq] at h
  obtain ⟨jServer, hj, conf, hb, rfl, rfl⟩ := h
  obtain ⟨entry, he, rfl⟩ := serverAt_iff.mp hj
  rw [JsonConfig.buildWireguardConfig] at hb
  simp only [bind_ok_iff] at hb
  -- the fields that are read before the resolver
  obtain ⟨_, -, _, -, _, -, _, -, _, -, _, -, _, -, _, -, _, -, _, -, _, -, _, -, _, -, _, -, _, -, main, hm, mainGateway, hg,
    mainDns, hd, hb⟩ := hb
  obtain ⟨mainEntry, hmain, rfl⟩ := serverAt_iff.mp hm
  obtain rfl : jMainServer config = mainEntry := Option.some.inj hmain
  rw [getString_ipv4AddrIn, Except.ok.injEq] at hg
  rw [getString_dns, Except.ok.injEq] at hd
  obtain rfl : config.serverIpv4AddrIn = mainGateway := hg
  obtain rfl : config.dnsServer = mainDns := hd
  have hk : gateway config c k = some entry.ipv4Gateway := by rw [gateway, he, Option.map_some]
  by_cases hs : config.serverIpv4AddrIn ≠ config.dnsServer
  · rw [if_pos hs] at hb
    simp only [bind_ok_iff, pure_ok_iff, exists_eq_left'] at hb
    obtain ⟨network, hn, -, -, rfl⟩ := hb
    exact ⟨_, network.address, hk, by rw [if_pos hs, address, hn]; rfl, rfl⟩
  · rw [if_neg hs] at hb
    simp only [bind_ok_iff, pure_ok_iff, getString_ipv4Gateway, Except.ok.injEq, exists_eq_left'] at hb
    obtain ⟨network, hn, -, -, rfl⟩ := hb
    exact ⟨_, network.address, hk, by rw [if_neg hs, address, hn]; rfl, rfl⟩

lemma serverData_dns {gw : String} (h : gateway config c k = some gw) :
    ∃ data, (serverData config c.fallbackServers)[k]? = some data ∧ data.dns = resolver config k gw := by
  cases k with
  | zero => exact ⟨_, rfl, by rw [resolver, if_pos (Or.inl rfl)]⟩
  | succ k =>
    rw [gateway, jServers, List.getElem?_cons_succ, List.getElem?_map, Option.map_map] at h
    obtain ⟨fallbackServer, hf, rfl⟩ := Option.map_eq_some_iff.mp h
    rw [serverData, List.getElem?_cons_succ, List.getElem?_map, hf, Option.map_some]
    refine ⟨_, rfl, ?_⟩
    · dsimp only
      rw [resolver]
      by_cases hd : config.dnsServer = config.serverIpv4Gateway
      · rw [if_pos hd, if_neg (by simp [hd])]
        rfl
      · rw [if_neg hd, if_pos (Or.inr hd)]

lemma gateway_zero : gateway config c 0 = some config.serverIpv4Gateway := rfl

end Decoder

lemma sameDns_iff (h : readConfig libs (activate config c) k = .ok (jServer, conf)) : SameDns libs config c k conf ↔
    (config.dnsServer = config.serverIpv4AddrIn ↔ config.dnsServer = config.serverIpv4Gateway) ∨
      address libs config.dnsServer = (gateway config c k).bind (address libs) := by
  obtain ⟨gw, a, hgw, ha, hdns⟩ := dnsServers_of_readConfig h
  obtain ⟨data, hdata, hres⟩ := serverData_dns hgw
  have hsame : SameDns libs config c k conf ↔ address libs (resolver config k gw) = some a := by
    constructor
    · rintro ⟨gw', data', hg', hd', hr', hc⟩
      obtain rfl : gw = gw' := Option.some.inj (hgw.symm.trans hg')
      rw [hdns, List.map_singleton, hr'] at hc
      exact (List.singleton_inj.mp hc).symm
    · intro hr
      exact ⟨gw, data, hgw, hdata, hres, by rw [hdns, hres, hr]; rfl⟩
  rw [hsame, ← ha, hgw, Option.bind_some, resolver]
  have hzero : k = 0 → gw = config.serverIpv4Gateway := by
    rintro rfl
    exact Option.some.inj (hgw.symm.trans gateway_zero)
  by_cases hin : config.dnsServer = config.serverIpv4AddrIn
  · rw [if_neg (not_not.mpr hin.symm)]
    by_cases hd : config.dnsServer = config.serverIpv4Gateway
    · refine iff_of_true ?_ (Or.inl (iff_of_true hin hd))
      split_ifs with hk
      · rw [hd, hzero (hk.resolve_right (not_not.mpr hd))]
      · rfl
    · rw [if_pos (Or.inr hd), iff_true_left hin, or_iff_right hd]
  · rw [if_pos (Ne.symm hin), iff_false_left hin]
    by_cases hd : config.dnsServer = config.serverIpv4Gateway
    · rw [or_iff_right (not_not.mpr hd)]
      split_ifs with hk
      · rw [hzero (hk.resolve_right (not_not.mpr hd)), ← hd]
      · exact eq_comm
    · rw [if_pos (Or.inr hd)]
      exact iff_of_true rfl (Or.inl hd)

/-- The tunnel of Android and the list for iOS have the same resolver exactly where the chosen one is both or neither of
the address and the gateway of the main server, or is the gateway of the server itself. -/
theorem same_dns_iff_recognised (libs : Libraries) (config : InterfaceConfig) (c : ActivationContext) (k : ℕ)
    (jServer : JsonObject) (conf : Config) (h : readConfig libs (activate config c) k = .ok (jServer, conf)) :
    SameDns libs config c k conf ↔
      (config.dnsServer = config.serverIpv4AddrIn ↔ config.dnsServer = config.serverIpv4Gateway) ∨
        address libs config.dnsServer = (gateway config c k).bind (address libs) :=
  sameDns_iff h

/-- Libraries that take every text as it is, and print numbers. -/
def printingLibraries : Libraries :=
  { BoundService.plainLibraries with
    toString := fun value =>
      match value with
      | .double value => ToString.toString value.num
      | _ => "" }

/-- The default resolver, where the two servers have different gateways. -/
def defaultDns : InterfaceConfig where
  hopType := .SingleHop
  serverIpv4Gateway := "10.64.0.1"
  serverIpv4AddrIn := "192.0.2.1"
  dnsServer := "10.64.0.1"
  serverPort := 51820

def oneFallback : ActivationContext where
  fallbackServers := [({ ipv4Gateway := "10.65.0.1", ipv4AddrIn := "192.0.2.2" }, 51820)]

lemma exists_readConfig_fallback : ∃ jServer conf,
    readConfig printingLibraries (activate defaultDns oneFallback) 1 = .ok (jServer, conf) := ⟨_, _, rfl⟩

theorem same_dns_fallback : ∃ jServer conf,
    readConfig printingLibraries (activate defaultDns oneFallback) 1 = .ok (jServer, conf) ∧
    (SameDns printingLibraries defaultDns oneFallback 1 conf ↔
      (defaultDns.dnsServer = defaultDns.serverIpv4AddrIn ↔ defaultDns.dnsServer = defaultDns.serverIpv4Gateway) ∨
        address printingLibraries defaultDns.dnsServer =
          (gateway defaultDns oneFallback 1).bind (address printingLibraries)) := by
  obtain ⟨jServer, conf, h⟩ := exists_readConfig_fallback
  exact ⟨jServer, conf, h, same_dns_iff_recognised printingLibraries defaultDns oneFallback 1 jServer conf h⟩

/-- After a switch the tunnel keeps the gateway of the server that was left. -/
theorem not_same_dns_fallback : ∃ jServer conf,
    readConfig printingLibraries (activate defaultDns oneFallback) 1 = .ok (jServer, conf) ∧
      ¬ SameDns printingLibraries defaultDns oneFallback 1 conf := by
  obtain ⟨jServer, conf, h⟩ := exists_readConfig_fallback
  refine ⟨jServer, conf, h, fun hs => ?_⟩
  revert hs
  rw [sameDns_iff h]
  decide

end VpnClient.Android.AndroidController
