import VpnClient.Ipc.Message
import VpnClient.Library.Sorting

/-! The configuration of a hop as the client writes it into a JSON object and as the daemon reads it from there. -/

namespace VpnClient.Ipc

open Address Library
open Backend (HopType)

/-- A string, or the null string, which is equal to the empty one. -/
abbrev QString := Option String

namespace QString

def text (s : QString) : String := s.getD ""

def isNull (s : QString) : Bool := s.isNone

def Same (s t : QString) : Prop := s.text = t.text

end QString

/-- A JSON value holds a null string as an empty one. -/
def JsonValue.ofQString (s : QString) : JsonValue := .string s.text

/-- The string that a value is, if it is one. -/
def JsonValue.qString? (value : JsonValue) : Option QString := value.string?.map some

/-- The null string unless the object has a string of that name. -/
def JsonObject.toQString (obj : JsonObject) (name : String) : QString := obj.string? name

/-- How host addresses are written and read. -/
structure HostFormat where
  toString : QHostAddress → String
  ofString : String → QHostAddress

structure InterfaceConfig where
  hopType : HopType
  privateKey : QString := none
  deviceIpv4Address : QString := none
  deviceIpv6Address : QString := none
  serverIpv4Gateway : QString := none
  serverIpv6Gateway : QString := none
  serverPublicKey : QString := none
  serverIpv4AddrIn : QString := none
  serverIpv6AddrIn : QString := none
  dnsServer : QString := none
  serverPort : ℤ := 0
  allowedIPAddressRanges : List IPAddress := []
  vpnDisabledApps : List QString := []

namespace InterfaceConfig

def valueToKey : HopType → String
  | .SingleHop => "SingleHop"
  | .MultiHopEntry => "MultiHopEntry"
  | .MultiHopExit => "MultiHopExit"

/-- A key may be qualified by its class. -/
def keyToValue (key : String) : Option HopType :=
  [HopType.SingleHop, .MultiHopEntry, .MultiHopExit].find? fun hopType =>
    key = valueToKey hopType ∨ key = "InterfaceConfig::" ++ valueToKey hopType

/-- A string ends for its reader with its first null character. -/
def constData (s : String) : String := String.ofList (s.toList.takeWhile (· ≠ '\x00'))

variable (format : HostFormat)

def rangeToJson (ip : IPAddress) : JsonValue :=
  let range : JsonObject := []
  .object <| range.insert "address" (.string (format.toString ip.address))
    |>.insert "range" (.double ip.prefixLength)
    |>.insert "isIpv6" (.bool (ip.address.protocol = .IPv6Protocol))

def toJson (config : InterfaceConfig) : JsonObject :=
  let json : JsonObject := []
  let json := json.insert "hopType" (.string (valueToKey config.hopType))
    |>.insert "privateKey" (.ofQString config.privateKey)
    |>.insert "deviceIpv4Address" (.ofQString config.deviceIpv4Address)
    |>.insert "deviceIpv6Address" (.ofQString config.deviceIpv6Address)
    |>.insert "serverPublicKey" (.ofQString config.serverPublicKey)
    |>.insert "serverIpv4AddrIn" (.ofQString config.serverIpv4AddrIn)
    |>.insert "serverIpv6AddrIn" (.ofQString config.serverIpv6AddrIn)
    |>.insert "serverPort" (.double config.serverPort)
  let json := if config.hopType = .MultiHopExit ∨ config.hopType = .SingleHop then
      json.insert "serverIpv4Gateway" (.ofQString config.serverIpv4Gateway)
        |>.insert "serverIpv6Gateway" (.ofQString config.serverIpv6Gateway)
        |>.insert "dnsServer" (.ofQString config.dnsServer)
    else json
  json.insert "allowedIPAddressRanges" (.array (config.allowedIPAddressRanges.map (rangeToJson format)))
    |>.insert "vpnDisabledApps" (.array (config.vpnDisabledApps.map .ofQString))

end InterfaceConfig

namespace Daemon

def parseStringList (obj : JsonObject) (name : String) (list : List QString) : Option (List QString) :=
  match obj.value name with
  | none => some list
  | some (.array values) => (values.mapM JsonValue.qString?).map (list ++ ·)
  | some .null => none
  | some (.bool _) => none
  | some (.double _) => none
  | some (.string _) => none
  | some (.object _) => none

variable (format : HostFormat)

/-- A string that is not an address, or a length that does not fit to it, is excluded by an assertion. -/
def parseRangeObject (ipObj : JsonObject) : Option IPAddress := do
  let address ← ipObj.string? "address"
  let range ← ipObj.double? "range"
  let _ ← ipObj.bool? "isIpv6"
  pure ⟨format.ofString address, (JsonValue.double range).toInt.toNat⟩

def parseRange : JsonValue → Option IPAddress
  | .object ipObj => parseRangeObject format ipObj
  | .null => none
  | .bool _ => none
  | .double _ => none
  | .string _ => none
  | .array _ => none

def parseHopType (obj : JsonObject) : Option HopType :=
  match obj.value "hopType" with
  | none => some .SingleHop
  | some value => value.string?.bind fun key => InterfaceConfig.keyToValue (InterfaceConfig.constData key)

def parseDnsServer (obj : JsonObject) : Option QString :=
  match obj.value "dnsServer" with
  | none => some none
  | some value => value.qString?

def parseRanges (obj : JsonObject) : Option (List IPAddress) :=
  match obj.value "allowedIPAddressRanges" with
  | some (.array values) => values.mapM (parseRange format)
  | none => none
  | some .null => none
  | some (.bool _) => none
  | some (.double _) => none
  | some (.string _) => none
  | some (.object _) => none

/-- The allowed IPs are sorted by decreasing prefix length. -/
def parseConfig (sorting : Sorting fun a b : IPAddress => b.prefixLength < a.prefixLength) (obj : JsonObject) :
    Option InterfaceConfig := do
  let privateKey ← obj.string? "privateKey"
  let serverPublicKey ← obj.string? "serverPublicKey"
  let serverPort ← obj.double? "serverPort"
  let deviceIpv4Address := obj.toQString "deviceIpv4Address"
  let deviceIpv6Address := obj.toQString "deviceIpv6Address"
  guard ¬(deviceIpv4Address.isNull ∧ deviceIpv6Address.isNull)
  let serverIpv4AddrIn := obj.toQString "serverIpv4AddrIn"
  let serverIpv6AddrIn := obj.toQString "serverIpv6AddrIn"
  guard ¬(serverIpv4AddrIn.isNull ∧ serverIpv6AddrIn.isNull)
  let serverIpv4Gateway := obj.toQString "serverIpv4Gateway"
  let serverIpv6Gateway := obj.toQString "serverIpv6Gateway"
  let dnsServer ← parseDnsServer obj
  let hopType ← parseHopType obj
  let ranges ← parseRanges format obj
  let vpnDisabledApps ← parseStringList obj "vpnDisabledApps" []
  pure { hopType, deviceIpv4Address, deviceIpv6Address, serverIpv4Gateway, serverIpv6Gateway, serverIpv4AddrIn,
         serverIpv6AddrIn, dnsServer, vpnDisabledApps
         privateKey := some privateKey
         serverPublicKey := some serverPublicKey
         serverPort := serverPort.num.tdiv serverPort.den
         allowedIPAddressRanges := sorting.sort ranges }

end Daemon

namespace InterfaceConfig

/-- What the daemon has of a configuration: the gateways and the name server go only to the hop that uses them. -/
structure Received (config received : InterfaceConfig) : Prop where
  hopType : received.hopType = config.hopType
  privateKey : received.privateKey.Same config.privateKey
  deviceIpv4Address : received.deviceIpv4Address.Same config.deviceIpv4Address
  deviceIpv6Address : received.deviceIpv6Address.Same config.deviceIpv6Address
  serverPublicKey : received.serverPublicKey.Same config.serverPublicKey
  serverIpv4AddrIn : received.serverIpv4AddrIn.Same config.serverIpv4AddrIn
  serverIpv6AddrIn : received.serverIpv6AddrIn.Same config.serverIpv6AddrIn
  serverPort : received.serverPort = config.serverPort
  gateways : if config.hopType = .MultiHopEntry then
      received.serverIpv4Gateway.isNull ∧ received.serverIpv6Gateway.isNull ∧ received.dnsServer.isNull
    else received.serverIpv4Gateway.Same config.serverIpv4Gateway ∧
      received.serverIpv6Gateway.Same config.serverIpv6Gateway ∧ received.dnsServer.Same config.dnsServer
  allowedIPAddressRanges : received.allowedIPAddressRanges.Perm config.allowedIPAddressRanges
  sorted : received.allowedIPAddressRanges.Pairwise fun a b => b.prefixLength ≤ a.prefixLength
  vpnDisabledApps : List.Forall₂ QString.Same received.vpnDisabledApps config.vpnDisabledApps

variable {format : HostFormat} {config : InterfaceConfig} {ip : IPAddress}

lemma parseRange_rangeToJson (hl : ip.prefixLength ≤ ip.address.width)
    (hf : format.ofString (format.toString ip.address) = ip.address) :
    Daemon.parseRange format (rangeToJson format ip) = some ip := by
  have hw : ip.address.width ≤ 128 := by cases ip.address <;> simp [QHostAddress.width, QHostAddress.protocol]
  have hd : (JsonValue.double (ip.prefixLength : ℚ)).toInt = ip.prefixLength := by
    simp [JsonValue.toInt]
    omega
  simp [rangeToJson, Daemon.parseRange, Daemon.parseRangeObject, JsonObject.string?, JsonObject.double?, JsonObject.bool?,
    JsonObject.value_insert_self, JsonObject.value_insert_of_ne, JsonValue.string?, JsonValue.double?, JsonValue.bool?,
    hf, hd]

lemma mapM_map {A B C : Type} {f : A → B} {g : B → Option C} {k : A → C} {l : List A}
    (h : ∀ x ∈ l, g (f x) = some (k x)) : (l.map f).mapM g = some (l.map k) := by
  induction l with
  | nil => rfl
  | cons x l ih =>
    rw [List.forall_mem_cons] at h
    rw [List.map_cons, List.mapM_cons, h.1, ih h.2]
    rfl

lemma keyToValue_valueToKey (hopType : HopType) : keyToValue (constData (valueToKey hopType)) = some hopType := by
  cases hopType <;> decide

lemma value_nil {name : String} : JsonObject.value [] name = none := rfl

lemma parseHopType_toJson : Daemon.parseHopType (config.toJson format) = some config.hopType := by
  have hv : (config.toJson format).value "hopType" = some (.string (valueToKey config.hopType)) := by
    rw [toJson]
    split_ifs <;> simp [JsonObject.value_insert_self, JsonObject.value_insert_of_ne]
  simp [Daemon.parseHopType, hv, JsonValue.string?, keyToValue_valueToKey]

lemma parseRanges_toJson (hl : ∀ ip ∈ config.allowedIPAddressRanges, ip.prefixLength ≤ ip.address.width)
    (hf : ∀ ip ∈ config.allowedIPAddressRanges, format.ofString (format.toString ip.address) = ip.address) :
    Daemon.parseRanges format (config.toJson format) = some config.allowedIPAddressRanges := by
  have hv : (config.toJson format).value "allowedIPAddressRanges" =
      some (.array (config.allowedIPAddressRanges.map (rangeToJson format))) := by
    rw [toJson, JsonObject.value_insert_of_ne (by decide), JsonObject.value_insert_self]
  rw [Daemon.parseRanges, hv]
  have hm := mapM_map (k := id) fun ip hip => parseRange_rangeToJson (hl ip hip) (hf ip hip)
  rwa [List.map_id] at hm

lemma parseStringList_toJson : Daemon.parseStringList (config.toJson format) "vpnDisabledApps" [] =
    some (config.vpnDisabledApps.map fun s => some s.text) := by
  have hm : (config.vpnDisabledApps.map JsonValue.ofQString).mapM JsonValue.qString? =
      some (config.vpnDisabledApps.map fun s => some s.text) := mapM_map fun _ _ => rfl
  rw [Daemon.parseStringList, toJson, JsonObject.value_insert_self]
  simp [hm]

/-- A gateway or the name server as it is read. -/
def hopped (config : InterfaceConfig) (s : QString) : QString :=
  if config.hopType = .MultiHopEntry then none else some s.text

/-- The strings that every hop sends. -/
def strings (config : InterfaceConfig) : List (String × QString) :=
  [("privateKey", config.privateKey), ("deviceIpv4Address", config.deviceIpv4Address),
    ("deviceIpv6Address", config.deviceIpv6Address), ("serverPublicKey", config.serverPublicKey),
    ("serverIpv4AddrIn", config.serverIpv4AddrIn), ("serverIpv6AddrIn", config.serverIpv6AddrIn)]

def gateways (config : InterfaceConfig) : List (String × QString) :=
  [("serverIpv4Gateway", config.serverIpv4Gateway), ("serverIpv6Gateway", config.serverIpv6Gateway),
    ("dnsServer", config.dnsServer)]

lemma value_strings : ∀ field ∈ config.strings, (config.toJson format).value field.1 = some (.ofQString field.2) := by
  rw [toJson]
  split_ifs <;> simp [strings, JsonObject.value_insert_self, JsonObject.value_insert_of_ne]

variable (format config) in
lemma value_gateways : ∀ field ∈ config.gateways, (config.toJson format).value field.1 =
    if config.hopType = .MultiHopEntry then none else some (.ofQString field.2) := by
  rw [toJson]
  cases config.hopType <;>
    simp [gateways, JsonObject.value_insert_self, JsonObject.value_insert_of_ne, value_nil]

variable (format) in
lemma string?_of_mem {name : String} {s : QString} (h : (name, s) ∈ config.strings) :
    (config.toJson format).string? name = some s.text := by
  rw [JsonObject.string?, value_strings _ h]
  rfl

variable (format) in
lemma string?_of_mem_gateways {name : String} {s : QString} (h : (name, s) ∈ config.gateways) :
    (config.toJson format).string? name = config.hopped s := by
  rw [JsonObject.string?, value_gateways _ _ _ h, hopped]
  split_ifs <;> rfl

lemma parseDnsServer_toJson :
    Daemon.parseDnsServer (config.toJson format) = some (config.hopped config.dnsServer) := by
  have hv := value_gateways format config ("dnsServer", config.dnsServer) (by simp [gateways])
  rw [Daemon.parseDnsServer, hopped, hv]
  split_ifs <;> rfl

lemma parseConfig_toJson (sorting : Sorting fun a b : IPAddress => b.prefixLength < a.prefixLength)
    (hl : ∀ ip ∈ config.allowedIPAddressRanges, ip.prefixLength ≤ ip.address.width)
    (hf : ∀ ip ∈ config.allowedIPAddressRanges, format.ofString (format.toString ip.address) = ip.address) :
    Daemon.parseConfig format sorting (config.toJson format) = some
      { hopType := config.hopType
        privateKey := some config.privateKey.text
        deviceIpv4Address := some config.deviceIpv4Address.text
        deviceIpv6Address := some config.deviceIpv6Address.text
        serverIpv4Gateway := config.hopped config.serverIpv4Gateway
        serverIpv6Gateway := config.hopped config.serverIpv6Gateway
        serverPublicKey := some config.serverPublicKey.text
        serverIpv4AddrIn := some config.serverIpv4AddrIn.text
        serverIpv6AddrIn := some config.serverIpv6AddrIn.text
        dnsServer := config.hopped config.dnsServer
        serverPort := config.serverPort
        allowedIPAddressRanges := sorting.sort config.allowedIPAddressRanges
        vpnDisabledApps := config.vpnDisabledApps.map fun s => some s.text } := by
  have hp : (config.toJson format).double? "serverPort" = some (config.serverPort : ℚ) := by
    rw [JsonObject.double?, toJson]
    split_ifs <;> simp [JsonObject.value_insert_self, JsonObject.value_insert_of_ne, JsonValue.double?]
  rw [Daemon.parseConfig, parseDnsServer_toJson, parseHopType_toJson, parseRanges_toJson hl hf, parseStringList_toJson]
  simp only [JsonObject.toQString, hp,
    string?_of_mem format (show ("privateKey", config.privateKey) ∈ config.strings by simp [strings]),
    string?_of_mem format (show ("serverPublicKey", config.serverPublicKey) ∈ config.strings by simp [strings]),
    string?_of_mem format (show ("deviceIpv4Address", config.deviceIpv4Address) ∈ config.strings by simp [strings]),
    string?_of_mem format (show ("deviceIpv6Address", config.deviceIpv6Address) ∈ config.strings by simp [strings]),
    string?_of_mem format (show ("serverIpv4AddrIn", config.serverIpv4AddrIn) ∈ config.strings by simp [strings]),
    string?_of_mem format (show ("serverIpv6AddrIn", config.serverIpv6AddrIn) ∈ config.strings by simp [strings]),
    string?_of_mem_gateways format (show ("serverIpv4Gateway", config.serverIpv4Gateway) ∈ config.gateways by simp [gateways]),
    string?_of_mem_gateways format (show ("serverIpv6Gateway", config.serverIpv6Gateway) ∈ config.gateways by simp [gateways])]
  simp [QString.isNull]

theorem received_of_toJson (format : HostFormat)
    (sorting : Sorting fun a b : IPAddress => b.prefixLength < a.prefixLength) (config : InterfaceConfig)
    (hl : ∀ ip ∈ config.allowedIPAddressRanges, ip.prefixLength ≤ ip.address.width)
    (hf : ∀ ip ∈ config.allowedIPAddressRanges, format.ofString (format.toString ip.address) = ip.address) :
    ∃ received, Daemon.parseConfig format sorting (config.toJson format) = some received ∧
      config.Received received := by
  refine ⟨_, parseConfig_toJson sorting hl hf, ?_⟩
  constructor
  case gateways =>
    dsimp only [hopped]
    split_ifs
    · exact ⟨rfl, rfl, rfl⟩
    · exact ⟨rfl, rfl, rfl⟩
  case sorted => exact (sorting.ordered _).imp fun h => not_lt.mp h
  case allowedIPAddressRanges => exact sorting.perm _
  case vpnDisabledApps =>
    rw [List.forall₂_map_left_iff, List.forall₂_same]
    exact fun _ _ => rfl
  all_goals rfl

/-- Enough of the formats for two addresses. -/
def fewHosts : HostFormat where
  toString
    | .ipv4 a => ".".intercalate ([24, 16, 8, 0].map fun n => s!"{(a >>> n).toNat % 256}")
    | .ipv6 _ => "::"
  ofString s := if s = "10.64.0.1" then .ipv4 0x0a400001 else .ipv4 0x0a000000

theorem received_of_two_ranges :
    let config : InterfaceConfig :=
      { hopType := .MultiHopEntry, serverPort := 53
        allowedIPAddressRanges := [⟨.ipv4 0x0a000000, 8⟩, ⟨.ipv4 0x0a400001, 32⟩] }
    ∃ received, Daemon.parseConfig fewHosts (.byKey IPAddress.prefixLength) (config.toJson fewHosts) = some received ∧
      config.Received received :=
  received_of_toJson fewHosts (.byKey IPAddress.prefixLength) _ (by decide) (by decide +kernel)

end InterfaceConfig

end VpnClient.Ipc
