import VpnClient.Library.KeyedLists
import VpnClient.Library.Results
import VpnClient.Library.Runs
import VpnClient.Library.Scripts
import VpnClient.Models.ServerCountryModel

/-! What the model holds of the documents that it is given, well-formed or not. -/

namespace VpnClient.Models

open Ipc Library.Attempts Library.Attempts.Attempt Library.KeyedLists Library.Results Library.Runs Library.Scripts
open Library.Tables

/-- What a document lists. -/
inductive Entry where
  | country (country : ServerCountry)
  | city (city : ServerCity)
  | server (server : Server)

namespace Entry

def country? : Entry → Option ServerCountry
  | .country c => some c
  | _ => none

def city? : Entry → Option ServerCity
  | .city c => some c
  | _ => none

def server? : Entry → Option Server
  | .server s => some s
  | _ => none

def apply (language : Language) (m : ServerCountryModel) : Entry → ServerCountryModel
  | .country c => { m with countries := m.countries ++ [c.sortCities language] }
  | .city c => { m with cities := m.cities.insert c.hashKey c }
  | .server s => { m with servers := m.servers.insert s.publicKey s }

end Entry

def countriesOf (es : List Entry) : List ServerCountry := es.filterMap Entry.country?

def citiesOf (es : List Entry) : List ServerCity := es.filterMap Entry.city?

def serversOf (es : List Entry) : List Server := es.filterMap Entry.server?

def serverEntry (countryCode cityName : String) (serverValue : JsonValue) : Option Entry :=
  (Server.fromJson countryCode cityName (serverValue.object?.getD [])).map .server

def cityEntries (inProduction : Bool) (countryCode : String) (cityValue : JsonValue) : List (Option Entry) :=
  match cityValue.object? with
  | none => [none]
  | some cityObj =>
    match JsonObject.array? cityObj "servers", ServerCity.fromJson inProduction cityObj countryCode with
    | some serverArray, some city => some (.city city) :: serverArray.map (serverEntry countryCode city.name)
    | _, _ => [none]

/-- A country with its cities in the order of the document. -/
def listedCountry (countryObj : JsonObject) : Option ServerCountry := do
  let name ← countryObj.string? "name"
  let code ← countryObj.string? "code"
  let citiesArray ← countryObj.array? "cities"
  let cities ← citiesArray.mapM ServerCountry.cityName
  pure { name, code, cities }

def countryEntries (inProduction : Bool) (countryValue : JsonValue) : List (Option Entry) :=
  match countryValue.object? with
  | none => [none]
  | some countryObj =>
    match listedCountry countryObj with
    | none => [none]
    | some country =>
      if country.cities = [] then []
      else some (.country country) ::
        ((JsonObject.array? countryObj "cities").getD []).flatMap (cityEntries inProduction country.code)

/-- The entries of a document in its order, where `none` is a malformed one. -/
def script (formats : ServerFormats) (s : Bytes) : List (Option Entry) :=
  match (formats.fromJson s).bind fun obj => obj.array? "countries" with
  | none => [none]
  | some countriesArray => countriesArray.flatMap (countryEntries formats.inProduction)

/-- The entries of a document up to the first one that is malformed. -/
def entries (formats : ServerFormats) (s : Bytes) : List Entry := readable (script formats s)

namespace ServerCountryModel

variable {formats : ServerFormats} {language : Language} {m : ServerCountryModel} {s : Bytes} {es : List Entry}
  {countryCode cityName : String} {country : ServerCountry} {value : JsonValue} {city : ServerCity} {server : Server}

lemma insertServer_eq : insertServer countryCode cityName value =
    play (Entry.apply language) [serverEntry countryCode cityName value] := by
  rw [insertServer, serverEntry]
  cases Server.fromJson countryCode cityName (value.object?.getD []) <;> rfl

lemma insertCity_eq : insertCity formats country value =
    play (Entry.apply language) (cityEntries formats.inProduction country.code value) := by
  rw [insertCity, cityEntries]
  cases value.object? with
  | none => rfl
  | some cityObj =>
    dsimp only
    cases JsonObject.array? cityObj "servers" with
    | none => rfl
    | some serverArray =>
      cases ServerCity.fromJson formats.inProduction cityObj country.code with
      | none => rfl
      | some city =>
        dsimp only
        have hs : insertServer country.code city.name =
            fun serverValue => play (Entry.apply language) [serverEntry country.code city.name serverValue] :=
          funext fun _ => insertServer_eq
        rw [play_cons, play_map, hs]
        rfl

lemma fromJson_eq (countryObj : JsonObject) :
    ServerCountry.fromJson language countryObj = (listedCountry countryObj).map (·.sortCities language) := by
  rw [ServerCountry.fromJson, listedCountry]
  cases countryObj.string? "name" <;> cases countryObj.string? "code" <;> cases countryObj.array? "cities" <;> try rfl
  next citiesArray => cases hc : citiesArray.mapM ServerCountry.cityName <;> simp [hc]

lemma sortCities_eq_nil : (country.sortCities language).cities = [] ↔ country.cities = [] := by
  rw [ServerCountry.sortCities, ← List.length_eq_zero_iff, (language.citySort.perm _).length_eq,
    List.length_eq_zero_iff]

lemma appendCountry_eq : appendCountry formats language value =
    play (Entry.apply language) (countryEntries formats.inProduction value) := by
  rw [appendCountry, countryEntries]
  cases value.object? with
  | none => rfl
  | some countryObj =>
    dsimp only
    rw [fromJson_eq]
    cases hl : listedCountry countryObj with
    | none => rfl
    | some country =>
      rw [Option.map_some]
      dsimp only
      by_cases hc : country.cities = []
      · rw [if_pos hc, if_pos (sortCities_eq_nil.mpr hc)]
        rfl
      · rw [if_neg hc, if_neg (mt sortCities_eq_nil.mp hc), play_cons, play_flatMap]
        cases ha : JsonObject.array? countryObj "cities" with
        | none => simp [listedCountry, ha] at hl
        | some cityArray =>
          have hi : insertCity formats (country.sortCities language) =
              fun cityValue => play (Entry.apply language) (cityEntries formats.inProduction country.code cityValue) :=
            funext fun _ => insertCity_eq
          dsimp only
          rw [Option.getD_some, hi]
          rfl

/-- The model when a reset has begun. -/
def cleared (m : ServerCountryModel) : ServerCountryModel :=
  { m.beginResetModel with rawJson := [], countries := [], cities := ∅, servers := ∅ }

/-- The model when the entries of the document were put into it. -/
def filled (formats : ServerFormats) (language : Language) (s : Bytes) (m : ServerCountryModel) : ServerCountryModel :=
  (entries formats s).foldl (Entry.apply language) m.cleared

lemma fromJsonInternal_eq : m.fromJsonInternal formats language s =
    if complete (script formats s) then (true, ((m.filled formats language s).sortCountries language).endResetModel)
    else (false, m.filled formats language s) := by
  have hp := @play_eq _ _ (Entry.apply language) (script formats s) m.cleared
  have hf : appendCountry formats language =
      fun value => play (Entry.apply language) (countryEntries formats.inProduction value) :=
    funext fun _ => appendCountry_eq
  rw [fromJsonInternal, filled, entries, hf]
  rw [script] at hp ⊢
  cases ho : formats.fromJson s with
  | none => rfl
  | some obj =>
    rw [ho, Option.bind_some] at hp
    rw [Option.bind_some]
    dsimp only
    cases ha : obj.array? "countries" with
    | none => rfl
    | some countriesArray =>
      rw [ha] at hp
      dsimp only at hp ⊢
      rw [play_flatMap] at hp
      rw [cleared] at hp ⊢
      rw [hp]
      cases complete (countriesArray.flatMap (countryEntries formats.inProduction)) <;> rfl

/-- The model holds the entries as they are put into it one after the other. -/
structure Holds (language : Language) (es : List Entry) (m : ServerCountryModel) : Prop where
  countries : m.countries = (countriesOf es).map (·.sortCities language)
  cities : ∀ key, m.cities.lookup key = latest ServerCity.hashKey (citiesOf es) key
  servers : ∀ key, m.servers.lookup key = latest (·.publicKey) (serversOf es) key

lemma countriesOf_concat (e : Entry) : countriesOf (es ++ [e]) = countriesOf es ++ e.country?.toList := by
  cases e <;> simp [countriesOf, Entry.country?]

lemma citiesOf_concat (e : Entry) : citiesOf (es ++ [e]) = citiesOf es ++ e.city?.toList := by
  cases e <;> simp [citiesOf, Entry.city?]

lemma serversOf_concat (e : Entry) : serversOf (es ++ [e]) = serversOf es ++ e.server?.toList := by
  cases e <;> simp [serversOf, Entry.server?]

lemma Holds.apply (h : Holds language es m) (e : Entry) : Holds language (es ++ [e]) (e.apply language m) := by
  constructor
  case countries =>
    rw [countriesOf_concat, List.map_append, ← h.countries]
    cases e with
    | country c => rfl
    | city c => exact (List.append_nil _).symm
    | server c => exact (List.append_nil _).symm
  case cities =>
    intro key
    rw [citiesOf_concat]
    cases e with
    | country c => simpa [Entry.city?, Entry.apply] using h.cities key
    | city c =>
      have hl : (citiesOf es ++ (Entry.city c).city?.toList) = citiesOf es ++ [c] := rfl
      rw [hl, latest_concat, ← h.cities, Entry.apply, lookup_insert]
      simp only [eq_comm]
    | server c => simpa [Entry.city?, Entry.apply] using h.cities key
  case servers =>
    intro key
    rw [serversOf_concat]
    cases e with
    | country c => simpa [Entry.server?, Entry.apply] using h.servers key
    | city c => simpa [Entry.server?, Entry.apply] using h.servers key
    | server c =>
      have hl : (serversOf es ++ (Entry.server c).server?.toList) = serversOf es ++ [c] := rfl
      rw [hl, latest_concat, ← h.servers, Entry.apply, lookup_insert]
      simp only [eq_comm]

lemma holds_foldl (h : Holds language [] m) : Holds language es (es.foldl (Entry.apply language) m) := by
  induction es using List.reverseRecOn with
  | nil => exact h
  | append_singleton es e ih =>
    rw [List.foldl_append]
    exact ih.apply e

lemma holds_filled : Holds language (entries formats s) (m.filled formats language s) :=
  holds_foldl ⟨rfl, fun _ => rfl, fun _ => rfl⟩

lemma rawJson_filled : (m.filled formats language s).rawJson = [] := by
  rw [filled]
  induction entries formats s using List.reverseRecOn with
  | nil => rfl
  | append_singleton es e ih =>
    rw [List.foldl_append, ← ih]
    cases e <;> rfl

end ServerCountryModel

variable {formats : ServerFormats} {inProduction : Bool} {s : Bytes} {country : ServerCountry} {city : ServerCity}
  {server : Server} {countryCode cityName publicKey name : String} {value : JsonValue} {obj : JsonObject}

lemma listedCountry_some (h : listedCountry obj = some country) :
    ∃ citiesArray, obj.array? "cities" = some citiesArray ∧
      citiesArray.mapM ServerCountry.cityName = some country.cities := by
  simp only [listedCountry, Option.bind_eq_bind, Option.bind_eq_some_iff, Option.pure_def, Option.some.injEq] at h
  obtain ⟨name, -, code, -, citiesArray, ha, cities, hm, rfl⟩ := h
  exact ⟨citiesArray, ha, hm⟩

lemma cityName_some : ServerCountry.cityName value = some name ↔
    ∃ cityObj : JsonObject, value.object? = some cityObj ∧ (cityObj.string? "name").getD "" = name ∧ name ≠ "" := by
  simp only [ServerCountry.cityName, Option.bind_eq_bind, Option.bind_eq_some_iff]
  constructor
  · rintro ⟨cityObj, ho, hn⟩
    split at hn
    · cases hn
    · next he =>
      obtain rfl := Option.some.inj hn
      exact ⟨cityObj, ho, rfl, he⟩
  · rintro ⟨cityObj, ho, rfl, he⟩
    exact ⟨cityObj, ho, if_neg he⟩

lemma serverCity_some (h : ServerCity.fromJson inProduction obj countryCode = some city) :
    city.country = countryCode ∧ obj.string? "name" = some city.name ∧
      ∀ publicKey ∈ city.servers, ∃ serversArray, obj.array? "servers" = some serversArray ∧
        ∃ serverValue ∈ serversArray, ServerCity.publicKey serverValue = some publicKey := by
  simp only [ServerCity.fromJson, Option.bind_eq_bind, Option.bind_eq_some_iff, Option.pure_def,
    Option.some.injEq] at h
  obtain ⟨name, hn, code, -, latitude, -, longitude, -, serversArray, ha, servers, hs, rfl⟩ := h
  refine ⟨rfl, hn, fun publicKey hm => ⟨serversArray, ha, ?_⟩⟩
  split at hs
  · exact (mem_of_mapM hs).mp hm
  · obtain rfl := Option.some.inj hs
    cases hm

lemma server_some (h : Server.fromJson countryCode cityName obj = some server) :
    obj.string? "public_key" = some server.publicKey ∧ server.countryCode = countryCode ∧
      server.cityName = cityName := by
  simp only [Server.fromJson, Option.bind_eq_bind, Option.bind_eq_some_iff, Option.pure_def, Option.some.injEq] at h
  obtain ⟨hostname, -, ipv4AddrIn, -, ipv4Gateway, -, key, hk, weight, -, portRangesArray, -, portRanges, -, rfl⟩ := h
  exact ⟨hk, rfl, rfl⟩

/-- The entries have the city, and the servers that it lists. -/
structure Located (city : ServerCity) (es : List (Option Entry)) : Prop where
  mem : some (.city city) ∈ es
  servers : ∀ publicKey ∈ city.servers, ∃ server, some (.server server) ∈ es ∧ server.publicKey = publicKey ∧
    server.countryCode = city.country ∧ server.cityName = city.name

/-- The countries list the cities of the entries, and no others. -/
structure Matching (es : List (Option Entry)) : Prop where
  located : ∀ country, some (.country country) ∈ es → ∀ name ∈ country.cities,
    ∃ city, Located city es ∧ city.country = country.code ∧ city.name = name
  listed : ∀ city, some (.city city) ∈ es → Located city es ∧ city.name ≠ "" ∧
    ∃ country, some (.country country) ∈ es ∧ country.code = city.country ∧ city.name ∈ country.cities

lemma Located.mono {es fs : List (Option Entry)} (h : Located city es) (hs : es ⊆ fs) : Located city fs where
  mem := hs h.mem
  servers publicKey hk := by
    obtain ⟨server, hm, hp⟩ := h.servers publicKey hk
    exact ⟨server, hs hm, hp⟩

lemma Matching.flatMap {A : Type} {l : List A} {f : A → List (Option Entry)} (h : ∀ x ∈ l, Matching (f x)) :
    Matching (l.flatMap f) := by
  have hs : ∀ x ∈ l, f x ⊆ l.flatMap f := fun x hx e he => List.mem_flatMap.mpr ⟨x, hx, he⟩
  constructor
  case located =>
    intro country hc name hn
    obtain ⟨x, hx, hc⟩ := List.mem_flatMap.mp hc
    obtain ⟨city, hl, hcity⟩ := (h x hx).located country hc name hn
    exact ⟨city, hl.mono (hs x hx), hcity⟩
  case listed =>
    intro city hc
    obtain ⟨x, hx, hc⟩ := List.mem_flatMap.mp hc
    obtain ⟨hl, hn, country, hm, hcity⟩ := (h x hx).listed city hc
    exact ⟨hl.mono (hs x hx), hn, country, hs x hx hm, hcity⟩

/-- A city that is well-formed comes with its servers and without another city. -/
lemma located (h : complete (cityEntries inProduction countryCode value) = true)
    (hn : ServerCountry.cityName value = some name) :
    ∃ city, Located city (cityEntries inProduction countryCode value) ∧
      (∀ other, some (.city other) ∈ cityEntries inProduction countryCode value → other = city) ∧
      city.country = countryCode ∧ city.name = name := by
  obtain ⟨cityObj, ho, hn, -⟩ := cityName_some.mp hn
  rw [cityEntries, ho] at h ⊢
  dsimp only at h ⊢
  cases ha : JsonObject.array? cityObj "servers" with
  | none => simp [ha, complete] at h
  | some serverArray =>
    cases hc : ServerCity.fromJson inProduction cityObj countryCode with
    | none => simp [ha, hc, complete] at h
    | some city =>
      rw [ha, hc] at h
      obtain ⟨hcc, hcn, hcs⟩ := serverCity_some hc
      refine ⟨city, ?_, ?_, hcc, ?_⟩
      · constructor
        case mem => exact List.mem_cons_self
        case servers =>
          intro publicKey hk
          obtain ⟨serversArray, ha', serverValue, hm, hk⟩ := hcs publicKey hk
          obtain rfl : serverArray = serversArray := Option.some.inj (ha.symm.trans ha')
          have hs : serverEntry countryCode city.name serverValue ∈
              serverArray.map (serverEntry countryCode city.name) := List.mem_map_of_mem hm
          obtain ⟨e, he⟩ := Option.isSome_iff_exists.mp (List.all_eq_true.mp h _ (List.mem_cons_of_mem _ hs))
          rw [he] at hs
          rw [serverEntry, Option.map_eq_some_iff] at he
          obtain ⟨server, hj, rfl⟩ := he
          obtain ⟨hp, hsc, hsn⟩ := server_some hj
          rw [ServerCity.publicKey, Option.bind_eq_bind, Option.bind_eq_some_iff] at hk
          obtain ⟨serverObj, hv, hk⟩ := hk
          rw [hv, Option.getD_some, hk] at hp
          exact ⟨server, List.mem_cons_of_mem _ hs, (Option.some.inj hp).symm, hsc.trans hcc.symm, hsn⟩
      · intro other hm
        obtain hm | hm := List.mem_cons.mp hm
        · exact Entry.city.inj (Option.some.inj hm)
        · obtain ⟨serverValue, -, hs⟩ := List.mem_map.mp hm
          rw [serverEntry, Option.map_eq_some_iff] at hs
          obtain ⟨server, -, hs⟩ := hs
          cases hs
      · rw [← hn, hcn, Option.getD_some]

lemma country_not_mem : some (.country country) ∉ cityEntries inProduction countryCode value := by
  intro hm
  rw [cityEntries] at hm
  split at hm
  · simp at hm
  · split at hm
    · simp [serverEntry] at hm
    · simp at hm

lemma matching_countryEntries (h : complete (countryEntries inProduction value) = true) :
    Matching (countryEntries inProduction value) := by
  rw [countryEntries] at h ⊢
  cases ho : value.object? with
  | none => simp [ho, complete] at h
  | some countryObj =>
    rw [ho] at h
    dsimp only at h ⊢
    cases hl : listedCountry countryObj with
    | none => simp [hl, complete] at h
    | some country =>
      rw [hl] at h
      dsimp only at h ⊢
      by_cases he : country.cities = []
      · rw [if_pos he]
        exact ⟨fun _ hm => absurd hm List.not_mem_nil, fun _ hm => absurd hm List.not_mem_nil⟩
      · obtain ⟨citiesArray, ha, hm⟩ := listedCountry_some hl
        rw [if_neg he, ha, Option.getD_some] at h ⊢
        have hf : ∀ cityValue ∈ citiesArray, complete (cityEntries inProduction country.code cityValue) = true :=
          complete_flatMap.mp h
        have hs : ∀ cityValue ∈ citiesArray, cityEntries inProduction country.code cityValue ⊆
            some (.country country) :: citiesArray.flatMap (cityEntries inProduction country.code) :=
          fun cityValue hv e hx => List.mem_cons_of_mem _ (List.mem_flatMap.mpr ⟨cityValue, hv, hx⟩)
        constructor
        case located =>
          intro other hc name hn
          obtain rfl : other = country := by
            obtain hc | hc := List.mem_cons.mp hc
            · exact Entry.country.inj (Option.some.inj hc)
            · obtain ⟨_, -, hc⟩ := List.mem_flatMap.mp hc
              exact absurd hc country_not_mem
          obtain ⟨cityValue, hv, hn⟩ := (mem_of_mapM hm).mp hn
          obtain ⟨city, hl, -, hcity⟩ := located (hf cityValue hv) hn
          exact ⟨city, hl.mono (hs cityValue hv), hcity⟩
        case listed =>
          intro city hc
          obtain ⟨cityValue, hv, hc⟩ : ∃ cityValue ∈ citiesArray,
              some (.city city) ∈ cityEntries inProduction country.code cityValue := by
            obtain hc | hc := List.mem_cons.mp hc
            · cases hc
            · exact List.mem_flatMap.mp hc
          obtain ⟨name, hn, hname⟩ := exists_of_mapM hm hv
          obtain ⟨other, hl, ho, hcity⟩ := located (hf cityValue hv) hname
          obtain rfl := ho city hc
          obtain ⟨-, -, -, hne⟩ := cityName_some.mp hname
          refine ⟨hl.mono (hs cityValue hv), ?_, country, List.mem_cons_self, hcity.1.symm, ?_⟩
          · rw [hcity.2]
            exact hne
          · rw [hcity.2]
            exact hn

lemma matching_script (h : complete (script formats s) = true) : Matching (script formats s) := by
  rw [script] at h ⊢
  cases ho : (formats.fromJson s).bind fun obj => obj.array? "countries" with
  | none => simp [ho, complete] at h
  | some countriesArray =>
    rw [ho] at h
    exact Matching.flatMap fun value hv => matching_countryEntries (complete_flatMap.mp h value hv)

end VpnClient.Models
