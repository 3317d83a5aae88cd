import VpnClient.Client.Server
import VpnClient.Ipc.Message
import VpnClient.Library.Attempts
import VpnClient.Library.Sorting
import VpnClient.Library.Tables

/-! The countries, cities and servers that a document lists. -/

namespace VpnClient.Models

open Ipc Library Library.Attempts Library.Attempts.Attempt Library.Tables

/-- How documents are read, and whether the app is that of the production. -/
structure ServerFormats where
  fromJson : Bytes → Option JsonObject
  inProduction : Bool

/-- A server and the city where it is. -/
structure Server extends Client.Server where
  socksName : String := ""
  countryCode : String := ""
  cityName : String := ""
  deriving DecidableEq

structure ServerCity where
  name : String := ""
  code : String := ""
  country : String := ""
  latitude : ℚ := 0
  longitude : ℚ := 0
  servers : List String := []
  deriving DecidableEq

structure ServerCountry where
  name : String
  code : String
  cities : List String
  deriving DecidableEq

def portRange (portRangeValue : JsonValue) : Option (UInt32 × UInt32) := do
  let port ← portRangeValue.array?
  match port with
  | [a, b] => if a.double?.isSome ∧ b.double?.isSome then some (.ofInt a.toInt, .ofInt b.toInt) else none
  | _ => none

def Server.fromJson (countryCode cityName : String) (obj : JsonObject) : Option Server := do
  let hostname ← obj.string? "hostname"
  let ipv4AddrIn ← obj.string? "ipv4_addr_in"
  let ipv4Gateway ← obj.string? "ipv4_gateway"
  let publicKey ← obj.string? "public_key"
  let weight ← (obj.value "weight").filter fun value => value.double?.isSome
  let portRangesArray ← obj.array? "port_ranges"
  let portRanges ← portRangesArray.mapM portRange
  pure
    { hostname, ipv4AddrIn, ipv4Gateway
      ipv6AddrIn := (obj.string? "ipv6_addr_in").getD ""
      ipv6Gateway := (obj.string? "ipv6_gateway").getD ""
      portRanges, publicKey
      weight := .ofInt weight.toInt
      socksName := (obj.string? "socks5_name").getD ""
      multihopPort := .ofInt (((obj.value "multihop_port").map JsonValue.toInt).getD 0)
      countryCode, cityName }

namespace ServerCity

def initialized (city : ServerCity) : Bool := city.name ≠ ""

/-- The public key in a server of the list of a city. -/
def publicKey (serverValue : JsonValue) : Option String := do
  let serverObj : JsonObject ← serverValue.object?
  serverObj.string? "public_key"

def fromJson (inProduction : Bool) (obj : JsonObject) (country : String) : Option ServerCity := do
  let name ← obj.string? "name"
  let code ← obj.string? "code"
  let latitude ← obj.double? "latitude"
  let longitude ← obj.double? "longitude"
  let serversArray ← obj.array? "servers"
  let servers ← (if !inProduction ∨ ¬"BETA".toList <:+: name.toList then serversArray.mapM publicKey else some [])
  pure { name, code, country, latitude, longitude, servers }

end ServerCity

def hashKey (country cityName : String) : String := cityName ++ "," ++ country

def ServerCity.hashKey (city : ServerCity) : String := Models.hashKey city.country city.name

/-- A language, by its translations and by the sorts of its collator. -/
structure Language where
  translatedCityName : String → String
  translatedCountryName : String → String → String
  less : String → String → Prop
  citySort : Sorting fun a b => less (translatedCityName a) (translatedCityName b)
  countrySort : Sorting fun a b : ServerCountry =>
    less (translatedCountryName a.code a.name) (translatedCountryName b.code b.name)

namespace ServerCountry

variable (language : Language)

def sortCities (country : ServerCountry) : ServerCountry :=
  { country with cities := language.citySort.sort country.cities }

/-- The name in a city of the list of a country. -/
def cityName (cityValue : JsonValue) : Option String := do
  let cityObject : JsonObject ← cityValue.object?
  let cityName := (cityObject.string? "name").getD ""
  if cityName = "" then none else some cityName

def fromJson (countryObj : JsonObject) : Option ServerCountry := do
  let name ← countryObj.string? "name"
  let code ← countryObj.string? "code"
  let citiesArray ← countryObj.array? "cities"
  let cities ← citiesArray.mapM cityName
  pure ({ name, code, cities : ServerCountry }.sortCities language)

end ServerCountry

/-- `resets` counts the resets of the model that have begun and not ended. -/
structure ServerCountryModel where
  rawJson : Bytes := []
  countries : List ServerCountry := []
  cities : Table String ServerCity := ∅
  servers : Table String Server := ∅
  resets : ℕ := 0
  changed : ℕ := 0

namespace ServerCountryModel

def beginResetModel (m : ServerCountryModel) : ServerCountryModel := { m with resets := m.resets + 1 }

def endResetModel (m : ServerCountryModel) : ServerCountryModel := { m with resets := m.resets - 1 }

def emitChanged (m : ServerCountryModel) : ServerCountryModel := { m with changed := m.changed + 1 }

variable (formats : ServerFormats) (language : Language)

def sortCountries (m : ServerCountryModel) : ServerCountryModel :=
  { m with countries := (language.countrySort.sort m.countries).map (·.sortCities language) }

def fail : Attempt ServerCountryModel := fun m => (false, m)

def insertServer (countryCode cityName : String) (serverValue : JsonValue) : Attempt ServerCountryModel :=
  match Server.fromJson countryCode cityName (serverValue.object?.getD []) with
  | none => fail
  | some server => succeed fun m => { m with servers := m.servers.insert server.publicKey server }

def insertCity (country : ServerCountry) (cityValue : JsonValue) : Attempt ServerCountryModel :=
  match cityValue.object? with
  | none => fail
  | some cityObj =>
    match JsonObject.array? cityObj "servers" with
    | none => fail
    | some serverArray =>
      match ServerCity.fromJson formats.inProduction cityObj country.code with
      | none => fail
      | some city =>
        (succeed fun m => { m with cities := m.cities.insert city.hashKey city }).andThen <|
          forEach (insertServer country.code city.name) serverArray

def appendCountry (countryValue : JsonValue) : Attempt ServerCountryModel :=
  match countryValue.object? with
  | none => fail
  | some countryObj =>
    match ServerCountry.fromJson language countryObj with
    | none => fail
    | some country =>
      if country.cities = [] then succeed id
      else
        (succeed fun m => { m with countries := m.countries ++ [country] }).andThen <|
          match JsonObject.array? countryObj "cities" with
          | none => fail
          | some cityArray => forEach (insertCity formats country) cityArray

def fromJsonInternal (s : Bytes) (m : ServerCountryModel) : Bool × ServerCountryModel :=
  let m := { m.beginResetModel with rawJson := [], countries := [], cities := ∅, servers := ∅ }
  match formats.fromJson s with
  | none => (false, m)
  | some obj =>
    match obj.array? "countries" with
    | none => (false, m)
    | some countriesArray =>
      let parsed := forEach (appendCountry formats language) countriesArray m
      if !parsed.1 then (false, parsed.2) else (true, (parsed.2.sortCountries language).endResetModel)

def fromSettings (json : Bytes) (m : ServerCountryModel) : Bool × ServerCountryModel :=
  if json = [] then (false, m)
  else
    let parsed := m.fromJsonInternal formats language json
    if !parsed.1 then (false, parsed.2) else (true, { parsed.2 with rawJson := json })

def fromJson (s : Bytes) (m : ServerCountryModel) : Bool × ServerCountryModel :=
  if s ≠ [] ∧ m.rawJson = s then (true, m)
  else
    let parsed := m.fromJsonInternal formats language s
    if !parsed.1 then (false, parsed.2) else (true, { parsed.2 with rawJson := s }.emitChanged)

def retranslate (m : ServerCountryModel) : ServerCountryModel :=
  (m.beginResetModel.sortCountries language).endResetModel

def findCity (countryCode cityName : String) (m : ServerCountryModel) : ServerCity :=
  (m.cities.lookup (hashKey countryCode cityName)).getD {}

def server (pubkey : String) (m : ServerCountryModel) : Server := (m.servers.lookup pubkey).getD {}

/-- The languages are those that the app has when it is called. -/
inductive Event where
  | fromSettings (language : Language) (json : Bytes)
  | fromJson (language : Language) (s : Bytes)
  | retranslate (language : Language)

def step (m : ServerCountryModel) : Event → ServerCountryModel
  | .fromSettings language json => (m.fromSettings formats language json).2
  | .fromJson language s => (m.fromJson formats language s).2
  | .retranslate language => m.retranslate language

end ServerCountryModel

end VpnClient.Models
