import VpnClient.Library.Selections
import VpnClient.Models.ServerCountryModel

/-! The locations that the user selected, as the app keeps them with its list of servers and its settings. -/

namespace VpnClient.Models

open Ipc Library.Rankings Library.Tables

/-- The cities as they are iterated, and whether one of them ranks below another one. -/
structure Ranking where
  cities : Table String ServerCity → List ServerCity
  perm : ∀ t, (cities t).Perm (t.entries.map (·.2))
  below : ServerCity → ServerCity → Bool

def recommendedLocations (ranking : Ranking) (maxResults : ℕ) (m : ServerCountryModel) : List ServerCity :=
  ranked ranking.below maxResults (ranking.cities m.cities)

namespace ServerCountryModel

def pickBest (ranking : Ranking) (m : ServerCountryModel) : List String :=
  match recommendedLocations ranking 1 m with
  | [] => []
  | city :: _ => [city.country, city.name]

/-- The `exists` of the model. -/
def cityExists (countryCode cityName : String) (m : ServerCountryModel) : Bool := hashKey countryCode cityName ∈ m.cities

def countryName (countryCode : String) (m : ServerCountryModel) : String :=
  ((m.countries.find? (·.code = countryCode)).map (·.name)).getD ""

end ServerCountryModel

/-- How documents of strings are written to a setting and read from it. -/
structure SettingDocuments (V : Type) where
  toJson : List (String × String) → V
  fromJson : V → Option JsonObject
  reads : ∀ fields, (fields.map (·.1)).Nodup →
    ∃ obj, fromJson (toJson fields) = some obj ∧ ∀ name, obj.value name = (fields.lookup name).map .string

lemma value_map_string (fields : List (String × String)) (name : String) :
    JsonObject.value (fields.map fun field => (field.1, .string field.2)) name =
      (fields.lookup name).map JsonValue.string := by
  induction fields with
  | nil => rfl
  | cons field fields ih =>
    rw [JsonObject.value] at ih ⊢
    rw [List.map_cons, List.find?_cons, List.lookup_cons]
    by_cases hn : field.1 = name
    · simp [hn]
    · have hb : (name == field.1) = false := beq_eq_false_iff_ne.mpr (Ne.symm hn)
      rw [hb]
      simpa [hn] using ih

structure ServerData extends Client.ServerData where
  exitCountryName : String := ""
  entryCountryName : String := ""
  previousExitCountryCode : String := ""
  previousExitCountryName : String := ""
  previousExitCityName : String := ""
  deriving DecidableEq

def ServerData.hasServerData (d : ServerData) : Bool := d.exitCountryCode ≠ ""

def EXIT_COUNTRY_CODE : String := "exit_country_code"
def EXIT_COUNTRY_NAME : String := "exit_country_name"
def EXIT_CITY_NAME : String := "exit_city_name"
def ENTER_COUNTRY_CODE : String := "enter_country_code"
def ENTER_COUNTRY_NAME : String := "enter_country_name"
def ENTER_CITY_NAME : String := "enter_city_name"

/-- The part of the app that holds the list of servers and the selection, with the settings for them. -/
structure MozillaVPN (V : Type) where
  serverCountryModel : ServerCountryModel := {}
  serverData : ServerData := {}
  serversSetting : Option Bytes := none
  serverDataSetting : Option V := none

namespace MozillaVPN

variable {V : Type} [DecidableEq V] (documents : SettingDocuments V)

def settingsChanged (vpn : MozillaVPN V) : Bool × MozillaVPN V :=
  match vpn.serverDataSetting.bind documents.fromJson with
  | none => (false, vpn)
  | some obj =>
    let toString (name : String) : String := (obj.string? name).getD ""
    let countryName (name code : String) : String :=
      if !obj.contains name then vpn.serverCountryModel.countryName (toString code) else toString name
    (true,
      { vpn with
        serverData :=
          { vpn.serverData with
            exitCountryCode := toString EXIT_COUNTRY_CODE
            exitCityName := toString EXIT_CITY_NAME
            exitCountryName := countryName EXIT_COUNTRY_NAME EXIT_COUNTRY_CODE
            entryCountryCode := toString ENTER_COUNTRY_CODE
            entryCityName := toString ENTER_CITY_NAME
            entryCountryName := countryName ENTER_COUNTRY_NAME ENTER_COUNTRY_CODE } })

/-- A setting that keeps its value does not signal. -/
def setServerData (value : V) (vpn : MozillaVPN V) : MozillaVPN V :=
  if vpn.serverDataSetting = some value then vpn
  else ({ vpn with serverDataSetting := some value }.settingsChanged documents).2

def selection (m : ServerCountryModel) (exitCountryCode exitCityName entryCountryCode entryCityName : String) :
    List (String × String) :=
  [(EXIT_COUNTRY_CODE, exitCountryCode), (EXIT_COUNTRY_NAME, m.countryName exitCountryCode),
    (EXIT_CITY_NAME, exitCityName), (ENTER_COUNTRY_CODE, entryCountryCode),
    (ENTER_COUNTRY_NAME, m.countryName entryCountryCode), (ENTER_CITY_NAME, entryCityName)]

def update (exitCountryCode exitCityName entryCountryCode entryCityName : String) (vpn : MozillaVPN V) : MozillaVPN V :=
  let fields :=
    selection vpn.serverCountryModel exitCountryCode exitCityName entryCountryCode entryCityName
  { vpn with
    serverData :=
      { vpn.serverData with
        previousExitCountryCode := vpn.serverData.exitCountryCode
        previousExitCountryName := vpn.serverCountryModel.countryName exitCountryCode
        previousExitCityName := vpn.serverData.exitCityName } }.setServerData documents (documents.toJson fields)

variable (formats : ServerFormats) (language : Language) (ranking : Ranking)

def setServerList (reply : Bytes) (vpn : MozillaVPN V) : Bool × MozillaVPN V :=
  let parsed := vpn.serverCountryModel.fromJson formats language reply
  let vpn := { vpn with serverCountryModel := parsed.2 }
  if !parsed.1 then (false, vpn) else (true, { vpn with serversSetting := some reply })

/-- There is no result if `list[0]` or `list[1]` is out of range. -/
def serversFetched (reply : Bytes) (vpn : MozillaVPN V) : Option (MozillaVPN V) :=
  let stored := vpn.setServerList formats language reply
  let vpn := stored.2
  if !stored.1 then some vpn
  else if !vpn.serverData.hasServerData ∨
      !vpn.serverCountryModel.cityExists vpn.serverData.exitCountryCode vpn.serverData.exitCityName then
    match vpn.serverCountryModel.pickBest ranking with
    | country :: city :: _ => some (vpn.update documents country city "" "")
    | _ => none
  else some vpn

end MozillaVPN

end VpnClient.Models
