import VpnClient.Models.ServerData
import VpnClient.Models.ServerRefreshes

/-! Whether the locations that the user selected exist in a list of servers that has just been fetched. -/

namespace VpnClient.Models

open Ipc Library.KeyedLists Library.Rankings Library.Runs Library.Scripts Library.Tables ServerCountryModel

/-- The entries have a city that is found by these names. -/
def Listed (es : List Entry) (countryCode cityName : String) : Prop :=
  ∃ city ∈ citiesOf es, city.hashKey = hashKey countryCode cityName

instance (es : List Entry) (countryCode cityName : String) : Decidable (Listed es countryCode cityName) :=
  inferInstanceAs (Decidable (∃ city ∈ citiesOf es, _))

namespace MozillaVPN

variable {V : Type} [DecidableEq V] (documents : SettingDocuments V) (formats : ServerFormats) (language : Language)
  (ranking : Ranking)

/-- The locations that are selected exist. -/
def Valid (vpn : MozillaVPN V) : Prop :=
  vpn.serverCountryModel.cityExists vpn.serverData.exitCountryCode vpn.serverData.exitCityName = true ∧
    (vpn.serverData.multihop = true →
      vpn.serverCountryModel.cityExists vpn.serverData.entryCountryCode vpn.serverData.entryCityName = true)

/-- The operation reads no name that is not there, and leaves a selection of locations that exist. -/
def Established (reply : Bytes) (vpn : MozillaVPN V) : Prop :=
  ∃ vpn' ∈ vpn.serversFetched documents formats language ranking reply, vpn'.Valid

def ExitListed (reply : Bytes) (d : ServerData) : Prop :=
  Listed (entries formats reply) d.exitCountryCode d.exitCityName

instance (reply : Bytes) (d : ServerData) : Decidable (ExitListed formats reply d) :=
  inferInstanceAs (Decidable (Listed _ _ _))

def EntryListed (reply : Bytes) (d : ServerData) : Prop :=
  d.multihop = true → Listed (entries formats reply) d.entryCountryCode d.entryCityName

/-- The setting already holds the location that ranks first in the list of the reply. -/
def Saved (reply : Bytes) (vpn : MozillaVPN V) : Prop :=
  let m := (vpn.serverCountryModel.fromJson formats language reply).2
  ∃ city ∈ recommendedLocations ranking 1 m,
    vpn.serverDataSetting = some (documents.toJson (selection m city.country city.name "" ""))

/-- The entry that is selected is listed with the exit, or else there is a city to select and a setting to change. -/
def Fits (reply : Bytes) (vpn : MozillaVPN V) : Prop :=
  if vpn.serverData.hasServerData = true ∧ ExitListed formats reply vpn.serverData then
    EntryListed formats reply vpn.serverData
  else citiesOf (entries formats reply) ≠ [] ∧ (vpn.Saved documents formats language ranking reply →
    ExitListed formats reply vpn.serverData ∧ EntryListed formats reply vpn.serverData)

end MozillaVPN

namespace ServerCountryModel

variable {m : ServerCountryModel} {es : List Entry} {ranking : Ranking} {countryCode cityName : String}
  {city : ServerCity}

lemma Lists.cityExists_iff (h : Lists es m) : m.cityExists countryCode cityName = true ↔ Listed es countryCode cityName := by
  rw [cityExists, decide_eq_true_eq, ← AList.lookup_isSome, h.cities, Listed]
  constructor
  · intro hs
    obtain ⟨city, hl⟩ := Option.isSome_iff_exists.mp hs
    exact ⟨city, mem_of_latest hl⟩
  · rintro ⟨city, hm, hk⟩
    obtain ⟨last, hl⟩ : ∃ last, latest ServerCity.hashKey (citiesOf es) city.hashKey = some last := exists_latest hm
    rw [← hk, hl]
    rfl

lemma mem_ranking_cities : city ∈ ranking.cities m.cities ↔ ∃ key, m.cities.lookup key = some city := by
  rw [(ranking.perm m.cities).mem_iff, List.mem_map]
  constructor
  · rintro ⟨entry, hm, rfl⟩
    exact ⟨entry.1, AList.mem_lookup_iff.mpr hm⟩
  · rintro ⟨key, hk⟩
    exact ⟨⟨key, city⟩, AList.mem_lookup_iff.mp hk, rfl⟩

lemma Lists.mem_citiesOf (h : Lists es m) (hm : city ∈ recommendedLocations ranking 1 m) : city ∈ citiesOf es := by
  obtain ⟨key, hk⟩ := mem_ranking_cities.mp (mem_ranked hm)
  rw [h.cities] at hk
  exact (mem_of_latest hk).1

variable (ranking) in
/-- One city is recommended if there is one. -/
lemma Lists.recommendedLocations_eq (h : Lists es m) :
    citiesOf es = [] ∧ recommendedLocations ranking 1 m = [] ∨
      citiesOf es ≠ [] ∧ ∃ city, recommendedLocations ranking 1 m = [city] := by
  have hlen : (recommendedLocations ranking 1 m).length = min 1 (ranking.cities m.cities).length := length_ranked
  by_cases hc : citiesOf es = []
  · refine .inl ⟨hc, List.eq_nil_iff_forall_not_mem.mpr fun city hm => ?_⟩
    have hn := h.mem_citiesOf hm
    rw [hc] at hn
    cases hn
  · refine .inr ⟨hc, List.length_eq_one_iff.mp ?_⟩
    obtain ⟨city, hcity⟩ := List.exists_mem_of_ne_nil _ hc
    obtain ⟨last, hl⟩ : ∃ last, latest ServerCity.hashKey (citiesOf es) city.hashKey = some last := exists_latest hcity
    have hm : last ∈ ranking.cities m.cities := mem_ranking_cities.mpr ⟨_, (h.cities _).trans hl⟩
    have hpos := List.length_pos_of_mem hm
    rw [hlen]
    omega

end ServerCountryModel

namespace MozillaVPN

variable {V : Type} [DecidableEq V] {documents : SettingDocuments V} {formats : ServerFormats} {language : Language}
  {ranking : Ranking} {vpn : MozillaVPN V} {reply : Bytes}

omit [DecidableEq V] in
lemma valid_iff (h : Lists (entries formats reply) vpn.serverCountryModel) : vpn.Valid ↔
    ExitListed formats reply vpn.serverData ∧ EntryListed formats reply vpn.serverData := by
  rw [Valid, h.cityExists_iff, h.cityExists_iff]
  rfl

variable (documents vpn) in
/-- A selection that is not yet in the setting takes effect. -/
lemma update_eq (country city : String) :
    (vpn.update documents country city "" "").serverCountryModel = vpn.serverCountryModel ∧
      (vpn.serverDataSetting = some (documents.toJson (selection vpn.serverCountryModel country city "" "")) →
        (vpn.update documents country city "" "").serverData.toServerData = vpn.serverData.toServerData) ∧
      (vpn.serverDataSetting ≠ some (documents.toJson (selection vpn.serverCountryModel country city "" "")) →
        (vpn.update documents country city "" "").serverData.exitCountryCode = country ∧
          (vpn.update documents country city "" "").serverData.exitCityName = city ∧
          (vpn.update documents country city "" "").serverData.multihop = false) := by
  have hn : [EXIT_COUNTRY_CODE, EXIT_COUNTRY_NAME, EXIT_CITY_NAME, ENTER_COUNTRY_CODE, ENTER_COUNTRY_NAME,
    ENTER_CITY_NAME].Nodup := by decide
  obtain ⟨obj, ho, hv⟩ := documents.reads (selection vpn.serverCountryModel country city "" "") hn
  rw [update, setServerData]
  dsimp only
  by_cases hs : vpn.serverDataSetting = some (documents.toJson (selection vpn.serverCountryModel country city "" ""))
  · rw [if_pos hs]
    exact ⟨rfl, fun _ => rfl, fun hn => absurd hs hn⟩
  · rw [if_neg hs, settingsChanged, Option.bind_some, ho]
    have hstring : ∀ name, obj.string? name =
        (selection vpn.serverCountryModel country city "" "").lookup name := by
      intro name
      rw [JsonObject.string?, hv]
      cases (selection vpn.serverCountryModel country city "" "").lookup name <;> rfl
    refine ⟨rfl, fun h => absurd h hs, fun _ => ⟨?_, ?_, ?_⟩⟩
    · dsimp only
      rw [hstring]
      rfl
    · dsimp only
      rw [hstring]
      rfl
    · have he : (obj.string? ENTER_COUNTRY_CODE).getD "" = "" := by
        rw [hstring]
        rfl
      rw [Client.ServerData.multihop, decide_eq_false_iff_not]
      exact fun h => h.1 he

/-- What the servers that are fetched make of the selection. -/
lemma serversFetched_eq (hr : (vpn.setServerList formats language reply).1 = true) :
    let fetched := (vpn.setServerList formats language reply).2
    vpn.serversFetched documents formats language ranking reply =
      if !fetched.serverData.hasServerData ∨
          !fetched.serverCountryModel.cityExists fetched.serverData.exitCountryCode fetched.serverData.exitCityName then
        (recommendedLocations ranking 1 fetched.serverCountryModel).head?.map fun city =>
          fetched.update documents city.country city.name "" ""
      else some fetched := by
  intro fetched
  rw [serversFetched, hr, if_neg (by simp)]
  split
  · rw [pickBest]
    cases recommendedLocations ranking 1 fetched.serverCountryModel <;> rfl
  · rfl

omit [DecidableEq V] in
lemma fetched_of_accepted (h : Inv formats vpn.serverCountryModel)
    (hr : (vpn.setServerList formats language reply).1 = true) :
    let fetched := (vpn.setServerList formats language reply).2
    Lists (entries formats reply) fetched.serverCountryModel ∧ fetched.serverData = vpn.serverData ∧
      fetched.serverDataSetting = vpn.serverDataSetting ∧
      fetched.serverCountryModel = (vpn.serverCountryModel.fromJson formats language reply).2 := by
  intro fetched
  have hf : (vpn.serverCountryModel.fromJson formats language reply).1 = true := by
    rw [setServerList] at hr
    dsimp only at hr
    split at hr
    · cases hr
    · next hn => simpa using hn
  have hc : complete (script formats reply) = true := by
    by_contra hc
    have hn := (h.fromJson_of_malformed language hc).1
    rw [hf] at hn
    cases hn
  have he : fetched = { vpn with
      serverCountryModel := (vpn.serverCountryModel.fromJson formats language reply).2
      serversSetting := some reply } := by
    rw [show fetched = (vpn.setServerList formats language reply).2 from rfl, setServerList]
    dsimp only
    rw [hf]
    rfl
  rw [he]
  exact ⟨(h.fromJson_of_complete language hc).2, rfl, rfl, rfl⟩

/-- For a reply that is accepted, over any list of servers and any selection. -/
theorem established_iff_fits (documents : SettingDocuments V) (formats : ServerFormats) (language : Language)
    (ranking : Ranking) (events : List ServerCountryModel.Event) (vpn : MozillaVPN V) (reply : Bytes)
    (hm : vpn.serverCountryModel = run (step formats) {} events)
    (hr : (vpn.setServerList formats language reply).1 = true) :
    vpn.Established documents formats language ranking reply ↔ vpn.Fits documents formats language ranking reply := by
  have hi : Inv formats vpn.serverCountryModel := hm ▸ inv_run events
  obtain ⟨hl, hd, hs, hf⟩ := fetched_of_accepted hi hr
  rw [Established, serversFetched_eq hr, Fits]
  generalize (vpn.setServerList formats language reply).2 = fetched at hl hd hs hf
  rw [← hd]
  by_cases hx : fetched.serverData.hasServerData = true ∧ ExitListed formats reply fetched.serverData
  · have hn : ¬((!fetched.serverData.hasServerData) = true ∨
        (!fetched.serverCountryModel.cityExists fetched.serverData.exitCountryCode
          fetched.serverData.exitCityName) = true) := by
      rw [Bool.not_eq_true', Bool.not_eq_true', not_or, Bool.not_eq_false, Bool.not_eq_false, hl.cityExists_iff]
      exact hx
    rw [if_neg hn, if_pos hx]
    constructor
    · rintro ⟨vpn', hv, hvalid⟩
      obtain rfl := Option.some.inj hv
      exact ((valid_iff hl).mp hvalid).2
    · exact fun he => ⟨fetched, rfl, (valid_iff hl).mpr ⟨hx.2, he⟩⟩
  · have hn : (!fetched.serverData.hasServerData) = true ∨
        (!fetched.serverCountryModel.cityExists fetched.serverData.exitCountryCode
          fetched.serverData.exitCityName) = true := by
      rw [Bool.not_eq_true', Bool.not_eq_true', ← Bool.not_eq_true, ← Bool.not_eq_true, hl.cityExists_iff]
      exact not_and_or.mp hx
    rw [if_pos hn, if_neg hx, Saved, ← hf, ← hs]
    obtain ⟨hc, he⟩ | ⟨hc, city, he⟩ := hl.recommendedLocations_eq ranking
    · rw [he]
      exact ⟨fun ⟨_, hv, _⟩ => (by cases hv), fun h => absurd hc h.1⟩
    · obtain ⟨hum, hus, hun⟩ := update_eq documents fetched city.country city.name
      have hlu : Lists (entries formats reply)
        (fetched.update documents city.country city.name "" "").serverCountryModel := hum ▸ hl
      have hv : (∃ vpn' ∈ some (fetched.update documents city.country city.name "" ""), vpn'.Valid) ↔
          (fetched.update documents city.country city.name "" "").Valid := by simp
      rw [he, List.head?_cons, Option.map_some, hv, valid_iff hlu, and_iff_right hc]
      by_cases hsaved : fetched.serverDataSetting =
          some (documents.toJson (selection fetched.serverCountryModel city.country city.name "" ""))
      · have ht := hus hsaved
        rw [ExitListed, EntryListed, ht]
        exact ⟨fun h _ => h, fun h => h ⟨city, List.mem_cons_self, hsaved⟩⟩
      · obtain ⟨hcountry, hname, hmulti⟩ := hun hsaved
        constructor
        · rintro - ⟨other, ho, hsaved'⟩
          obtain rfl := List.mem_singleton.mp ho
          exact absurd hsaved' hsaved
        · intro _
          rw [ExitListed, EntryListed, hcountry, hname, hmulti]
          exact ⟨⟨city, hl.mem_citiesOf (he ▸ List.mem_cons_self), rfl⟩, fun h => absurd h Bool.false_ne_true⟩

/-- Documents that are the strings themselves. -/
def plainDocuments : SettingDocuments (List (String × String)) where
  toJson := id
  fromJson fields := some (fields.map fun field => (field.1, .string field.2))
  reads fields _ := ⟨_, rfl, value_map_string fields⟩

/-- The cities in the order of the table, none of which ranks below another one. -/
def inOrder : Ranking := ⟨fun t => t.entries.map (·.2), fun _ => .refl _, fun _ _ => false⟩

def cityObject (name code hostname pubkey : String) : JsonObject :=
  [("name", .string name), ("code", .string code), ("latitude", .double 0), ("longitude", .double 0),
    ("servers", .array [.object [("hostname", .string hostname), ("ipv4_addr_in", .string ""),
      ("ipv4_gateway", .string ""), ("public_key", .string pubkey), ("weight", .double 1),
      ("port_ranges", .array [])]])]

/-- Lists of two cities in one country and of one in another. -/
def threeCityFormats : ServerFormats where
  fromJson _ := some [("countries", .array
    [.object [("name", .string "Sweden"), ("code", .string "se"), ("cities", .array
      [.object (cityObject "Malmö" "mma" "se-1" "key1"), .object (cityObject "Stockholm" "sto" "se-2" "key2")])],
      .object [("name", .string "Germany"), ("code", .string "de"), ("cities", .array
        [.object (cityObject "Berlin" "ber" "de-1" "key3")])]])]
  inProduction := true

/-- An exit and an entry that are listed. -/
def overBerlin : MozillaVPN (List (String × String)) where
  serverData :=
    { exitCountryCode := "se", exitCityName := "Stockholm", entryCountryCode := "de", entryCityName := "Berlin" }

/-- The first location is selected where there is no selection, and a selection of two locations is kept. -/
theorem established_locations :
    ({} : MozillaVPN (List (String × String))).Established plainDocuments threeCityFormats plain inOrder [1] ∧
      overBerlin.serverData.multihop = true ∧
        overBerlin.Established plainDocuments threeCityFormats plain inOrder [1] := by
  refine ⟨?_, by decide +kernel, ?_⟩
  · apply (established_iff_fits plainDocuments threeCityFormats plain inOrder [] {} [1] rfl (by decide +kernel)).mpr
    rw [Fits, if_neg (by decide +kernel)]
    exact ⟨by decide +kernel, fun ⟨_, _, hs⟩ => by cases hs⟩
  · apply (established_iff_fits plainDocuments threeCityFormats plain inOrder [] overBerlin [1] rfl
      (by decide +kernel)).mpr
    rw [Fits, if_pos (by decide +kernel)]
    exact fun _ => by decide +kernel

/-- Lists without a country. -/
def noServerFormats : ServerFormats := ⟨fun _ => some [("countries", .array [])], true⟩

/-- An entry that the list lacks stays selected, and a list without cities has no location to select. -/
theorem not_established :
    let vpn : MozillaVPN (List (String × String)) := { serverData :=
      { exitCountryCode := "cc", exitCityName := "City", entryCountryCode := "xx", entryCityName := "Gone" } }
    ((vpn.setServerList oneServerFormats plain [1]).1 = true ∧
        ¬vpn.Established plainDocuments oneServerFormats plain inOrder [1]) ∧
      (vpn.setServerList noServerFormats plain [1]).1 = true ∧
        ¬vpn.Established plainDocuments noServerFormats plain inOrder [1] := by
  intro vpn
  refine ⟨⟨by decide +kernel, ?_⟩, by decide +kernel, ?_⟩
  · rintro ⟨vpn', hv, -, hentry⟩
    have hd : (vpn.serversFetched plainDocuments oneServerFormats plain inOrder [1]).all (fun vpn' =>
      vpn'.serverData.multihop && !vpn'.serverCountryModel.cityExists vpn'.serverData.entryCountryCode
        vpn'.serverData.entryCityName) = true := by decide +kernel
    rw [Option.mem_def.mp hv, Option.all_some, Bool.and_eq_true, Bool.not_eq_true'] at hd
    rw [hentry hd.1] at hd
    cases hd.2
  · rintro ⟨vpn', hv, -⟩
    have hd : (vpn.serversFetched plainDocuments noServerFormats plain inOrder [1]).isNone = true := by decide +kernel
    rw [Option.mem_def.mp hv] at hd
    cases hd

end MozillaVPN

end VpnClient.Models
