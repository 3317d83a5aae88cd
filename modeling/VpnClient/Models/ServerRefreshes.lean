import VpnClient.Models.ServerLists

/-! What a refresh of the list of servers leaves of the model, whether or not it succeeds. -/

namespace VpnClient.Models.ServerCountryModel

open Ipc Library.KeyedLists Library.Runs Library.Scripts

/-- No two servers have the same key. -/
def Distinct (es : List Entry) : Prop := ((serversOf es).map (·.publicKey)).Nodup

/-- What the model is asked for by its users is the same. -/
structure Same (m m' : ServerCountryModel) : Prop where
  rawJson : m'.rawJson = m.rawJson
  countries : m'.countries = m.countries
  cities : ∀ key, m'.cities.lookup key = m.cities.lookup key
  servers : ∀ key, m'.servers.lookup key = m.servers.lookup key

/-- The city is found in its country, with its servers. -/
structure Resolved (m : ServerCountryModel) (es : List Entry) (countryCode cityName : String) : Prop where
  initialized : (m.findCity countryCode cityName).initialized = true
  country : (m.findCity countryCode cityName).country = countryCode
  servers : ∀ publicKey ∈ (m.findCity countryCode cityName).servers, (m.server publicKey).initialized = true
  placed : Distinct es → ∀ publicKey ∈ (m.findCity countryCode cityName).servers,
    (m.server publicKey).countryCode = countryCode ∧ (m.server publicKey).cityName = cityName

variable (formats : ServerFormats) (language : Language)

/-- A refresh that fails leaves the model as it was, and one that succeeds leaves no name or key unresolved. -/
def Exact (s : Bytes) (m : ServerCountryModel) : Prop :=
  if (m.fromJson formats language s).1 then
    ∀ country ∈ (m.fromJson formats language s).2.countries, ∀ name ∈ country.cities,
      Resolved (m.fromJson formats language s).2 (entries formats s) country.code name
  else Same m (m.fromJson formats language s).2

/-- Cities of two countries are kept under different keys, and the servers that cities list have host names. -/
structure Coherent (es : List Entry) : Prop where
  cities : ∀ a ∈ citiesOf es, ∀ b ∈ citiesOf es, a.hashKey = b.hashKey → a.country = b.country
  hosts : ∀ city ∈ citiesOf es, latest ServerCity.hashKey (citiesOf es) city.hashKey = some city →
    ∀ publicKey ∈ city.servers, ∀ server ∈ latest (·.publicKey) (serversOf es) publicKey, server.hostname ≠ ""

/-- The document is well-formed and coherent, or what it lists before it is malformed is what the model holds. -/
def Fits (s : Bytes) (m : ServerCountryModel) : Prop :=
  if complete (script formats s) then Coherent (entries formats s)
  else m.rawJson = [] ∧ Holds language (entries formats s) m

/-- The model holds the entries in any order. -/
structure Lists (es : List Entry) (m : ServerCountryModel) : Prop where
  listed : ∀ code name, (∃ country ∈ m.countries, country.code = code ∧ name ∈ country.cities) ↔
    ∃ country ∈ countriesOf es, country.code = code ∧ name ∈ country.cities
  cities : ∀ key, m.cities.lookup key = latest ServerCity.hashKey (citiesOf es) key
  servers : ∀ key, m.servers.lookup key = latest (·.publicKey) (serversOf es) key

def Inv (m : ServerCountryModel) : Prop :=
  m.rawJson ≠ [] → complete (script formats m.rawJson) = true ∧ Lists (entries formats m.rawJson) m

variable {formats language} {m m' : ServerCountryModel} {s : Bytes} {es : List Entry} {city : ServerCity}
  {country : ServerCountry} {server : Server} {code name key : String}

lemma mem_countriesOf : country ∈ countriesOf es ↔ .country country ∈ es := by
  rw [countriesOf, List.mem_filterMap]
  constructor
  · rintro ⟨e, he, hc⟩
    cases e <;> cases hc
    exact he
  · exact fun h => ⟨_, h, rfl⟩

lemma mem_citiesOf : city ∈ citiesOf es ↔ .city city ∈ es := by
  rw [citiesOf, List.mem_filterMap]
  constructor
  · rintro ⟨e, he, hc⟩
    cases e <;> cases hc
    exact he
  · exact fun h => ⟨_, h, rfl⟩

lemma mem_serversOf : server ∈ serversOf es ↔ .server server ∈ es := by
  rw [serversOf, List.mem_filterMap]
  constructor
  · rintro ⟨e, he, hc⟩
    cases e <;> cases hc
    exact he
  · exact fun h => ⟨_, h, rfl⟩

lemma listed_iff (hc : complete (script formats s) = true) :
    (∃ country ∈ countriesOf (entries formats s), country.code = code ∧ name ∈ country.cities) ↔
      ∃ city ∈ citiesOf (entries formats s), city.country = code ∧ city.name = name := by
  have hm := matching_script hc
  simp only [mem_countriesOf, mem_citiesOf, entries, mem_readable hc]
  constructor
  · rintro ⟨country, hcountry, rfl, hn⟩
    obtain ⟨city, hl, hcity⟩ := hm.located country hcountry name hn
    exact ⟨city, hl.mem, hcity⟩
  · rintro ⟨city, hcity, rfl, rfl⟩
    obtain ⟨-, -, country, hcountry⟩ := hm.listed city hcity
    exact ⟨country, hcountry⟩

lemma name_ne (hc : complete (script formats s) = true) (h : city ∈ citiesOf (entries formats s)) : city.name ≠ "" := by
  rw [mem_citiesOf, entries, mem_readable hc] at h
  exact ((matching_script hc).listed city h).2.1

lemma exists_server (hc : complete (script formats s) = true) (h : city ∈ citiesOf (entries formats s))
    (hk : key ∈ city.servers) : ∃ server ∈ serversOf (entries formats s), server.publicKey = key ∧
      server.countryCode = city.country ∧ server.cityName = city.name := by
  rw [mem_citiesOf, entries, mem_readable hc] at h
  simp only [mem_serversOf, entries, mem_readable hc]
  exact ((matching_script hc).listed city h).1.servers key hk

lemma Lists.findCity_eq (h : Lists es m) (hl : latest ServerCity.hashKey (citiesOf es) (hashKey code name) = some city) :
    m.findCity code name = city := by
  rw [ServerCountryModel.findCity, h.cities, hl, Option.getD_some]

lemma Lists.server_eq (h : Lists es m) (hl : latest (·.publicKey) (serversOf es) key = some server) :
    m.server key = server := by
  rw [ServerCountryModel.server, h.servers, hl, Option.getD_some]

lemma hashKey_inj {other : String} (h : hashKey code name = hashKey code other) : name = other := by
  rw [hashKey, hashKey, String.append_left_inj, String.append_left_inj] at h
  exact h

lemma Lists.coherent (hl : Lists (entries formats s) m) (hc : complete (script formats s) = true)
    (h : ∀ country ∈ m.countries, ∀ name ∈ country.cities, Resolved m (entries formats s) country.code name) :
    Coherent (entries formats s) := by
  have hr : ∀ city ∈ citiesOf (entries formats s), Resolved m (entries formats s) city.country city.name := by
    intro city hcity
    obtain ⟨country, hm, hcode, hn⟩ := (hl.listed _ _).mpr ((listed_iff hc).mpr ⟨city, hcity, rfl, rfl⟩)
    exact hcode ▸ h country hm city.name hn
  constructor
  case cities =>
    intro a ha b hb hk
    obtain ⟨c, hlast⟩ : ∃ c, latest ServerCity.hashKey (citiesOf (entries formats s)) a.hashKey = some c :=
      exists_latest ha
    have hca := (hr a ha).country
    have hcb := (hr b hb).country
    rw [hl.findCity_eq hlast] at hca
    rw [hk] at hlast
    rw [hl.findCity_eq hlast] at hcb
    exact hca.symm.trans hcb
  case hosts =>
    intro city hcity hlast publicKey hk server hs
    have hf : m.findCity city.country city.name = city := hl.findCity_eq hlast
    have hi := (hr city hcity).servers publicKey (by rwa [hf])
    rw [hl.server_eq hs, Client.Server.initialized] at hi
    exact of_decide_eq_true hi

lemma Lists.resolved (hl : Lists (entries formats s) m) (hc : complete (script formats s) = true)
    (h : Coherent (entries formats s)) (hm : country ∈ m.countries) (hn : name ∈ country.cities) :
    Resolved m (entries formats s) country.code name := by
  obtain ⟨city, hcity, hcode, rfl⟩ := (listed_iff hc).mp ((hl.listed _ _).mp ⟨country, hm, rfl, hn⟩)
  rw [← hcode]
  obtain ⟨c, hlast⟩ : ∃ c, latest ServerCity.hashKey (citiesOf (entries formats s)) city.hashKey = some c :=
    exists_latest hcity
  obtain ⟨hcm, hck⟩ := mem_of_latest hlast
  have hcc : c.country = city.country := h.cities c hcm city hcity hck
  have hcn : c.name = city.name := by
    rw [ServerCity.hashKey, ServerCity.hashKey, hcc] at hck
    exact hashKey_inj hck
  have hf : m.findCity city.country city.name = c := hl.findCity_eq hlast
  constructor
  case initialized =>
    rw [hf, ServerCity.initialized]
    exact decide_eq_true (name_ne hc hcm)
  case country => rw [hf, hcc]
  case servers =>
    intro publicKey hk
    rw [hf] at hk
    obtain ⟨server, hs, rfl, -⟩ := exists_server hc hcm hk
    obtain ⟨last, hlast'⟩ : ∃ last, latest (·.publicKey) (serversOf (entries formats s)) server.publicKey = some last :=
      exists_latest hs
    rw [hl.server_eq hlast', Client.Server.initialized]
    exact decide_eq_true (h.hosts c hcm (hck ▸ hlast) _ hk last hlast')
  case placed =>
    intro hd publicKey hk
    rw [hf] at hk
    obtain ⟨server, hs, rfl, hsc, hsn⟩ := exists_server hc hcm hk
    rw [hl.server_eq (latest_of_nodup hd hs), ← hcc, ← hcn]
    exact ⟨hsc, hsn⟩

lemma Holds.lists (h : Holds language es m) : Lists es m where
  listed code name := by simp [h.countries, ServerCountry.sortCities, (language.citySort.perm _).mem_iff]
  cities := h.cities
  servers := h.servers

lemma Lists.sortCountries (h : Lists es m) : Lists es (m.sortCountries language) where
  listed code name := by
    rw [← h.listed]
    simp [ServerCountryModel.sortCountries, ServerCountry.sortCities, (language.countrySort.perm _).mem_iff,
      (language.citySort.perm _).mem_iff]
  cities := h.cities
  servers := h.servers

variable (language m) in
/-- What a document that is well-formed leaves is what it lists, and any other one its entries up to the malformed one. -/
lemma lists_fromJsonInternal (hc : complete (script formats s) = true) :
    (m.fromJsonInternal formats language s).1 = true ∧
      Lists (entries formats s) (m.fromJsonInternal formats language s).2 := by
  rw [fromJsonInternal_eq, if_pos hc]
  have hl : Lists (entries formats s) ((m.filled formats language s).sortCountries language) :=
    holds_filled.lists.sortCountries
  exact ⟨rfl, hl.listed, hl.cities, hl.servers⟩

variable (language m) in
lemma holds_fromJsonInternal (hc : ¬complete (script formats s) = true) :
    (m.fromJsonInternal formats language s).1 = false ∧
      (m.fromJsonInternal formats language s).2.rawJson = [] ∧
      Holds language (entries formats s) (m.fromJsonInternal formats language s).2 := by
  rw [fromJsonInternal_eq, if_neg hc]
  exact ⟨rfl, rawJson_filled, holds_filled⟩

lemma Inv.fromJson (h : Inv formats m) : Inv formats (m.fromJson formats language s).2 := by
  rw [ServerCountryModel.fromJson]
  by_cases hs : s ≠ [] ∧ m.rawJson = s
  · rw [if_pos hs]
    exact h
  · rw [if_neg hs]
    dsimp only
    by_cases hc : complete (script formats s) = true
    · obtain ⟨hr, hl⟩ := lists_fromJsonInternal language m hc
      rw [hr]
      exact fun _ => ⟨hc, hl.listed, hl.cities, hl.servers⟩
    · obtain ⟨hr, hj, -⟩ := holds_fromJsonInternal language m hc
      rw [hr]
      exact fun hn => absurd hj hn

lemma Inv.fromSettings (h : Inv formats m) : Inv formats (m.fromSettings formats language s).2 := by
  rw [ServerCountryModel.fromSettings]
  by_cases hs : s = []
  · rw [if_pos hs]
    exact h
  · rw [if_neg hs]
    dsimp only
    by_cases hc : complete (script formats s) = true
    · obtain ⟨hr, hl⟩ := lists_fromJsonInternal language m hc
      rw [hr]
      exact fun _ => ⟨hc, hl.listed, hl.cities, hl.servers⟩
    · obtain ⟨hr, hj, -⟩ := holds_fromJsonInternal language m hc
      rw [hr]
      exact fun hn => absurd hj hn

lemma Inv.step (h : Inv formats m) (event : Event) : Inv formats (m.step formats event) := by
  cases event with
  | fromSettings language json => exact h.fromSettings
  | fromJson language s => exact h.fromJson
  | retranslate language =>
    intro hn
    obtain ⟨hc, hl⟩ := h hn
    have hl : Lists (entries formats m.rawJson) (m.sortCountries language) := hl.sortCountries
    exact ⟨hc, hl.listed, hl.cities, hl.servers⟩

variable (language) in
lemma Inv.fromJson_of_complete (h : Inv formats m) (hc : complete (script formats s) = true) :
    (m.fromJson formats language s).1 = true ∧ Lists (entries formats s) (m.fromJson formats language s).2 := by
  rw [ServerCountryModel.fromJson]
  by_cases hs : s ≠ [] ∧ m.rawJson = s
  · rw [if_pos hs]
    exact ⟨rfl, hs.2 ▸ (h (hs.2 ▸ hs.1)).2⟩
  · obtain ⟨hr, hl⟩ := lists_fromJsonInternal language m hc
    rw [if_neg hs]
    dsimp only
    rw [hr]
    exact ⟨rfl, hl.listed, hl.cities, hl.servers⟩

variable (language) in
lemma Inv.fromJson_of_malformed (h : Inv formats m) (hc : ¬complete (script formats s) = true) :
    (m.fromJson formats language s).1 = false ∧ (m.fromJson formats language s).2.rawJson = [] ∧
      Holds language (entries formats s) (m.fromJson formats language s).2 := by
  have hs : ¬(s ≠ [] ∧ m.rawJson = s) := by
    rintro ⟨hs, rfl⟩
    exact hc (h hs).1
  obtain ⟨hr, hj, hh⟩ := holds_fromJsonInternal language m hc
  rw [ServerCountryModel.fromJson, if_neg hs]
  dsimp only
  rw [hr]
  exact ⟨rfl, hj, hh⟩

lemma Inv.exact_iff (h : Inv formats m) : Exact formats language s m ↔ Fits formats language s m := by
  rw [Exact, Fits]
  by_cases hc : complete (script formats s) = true
  · obtain ⟨hr, hl⟩ := h.fromJson_of_complete language hc
    rw [if_pos hr, if_pos hc]
    exact ⟨hl.coherent hc, fun hcoh country hm name hn => hl.resolved hc hcoh hm hn⟩
  · obtain ⟨hr, hj, hh⟩ := h.fromJson_of_malformed language hc
    rw [hr, if_neg Bool.false_ne_true, if_neg hc]
    constructor
    · rintro ⟨hraw, hcountries, hcities, hservers⟩
      refine ⟨hraw.symm.trans hj, hcountries.symm.trans hh.countries, fun key => ?_, fun key => ?_⟩
      · exact (hcities key).symm.trans (hh.cities key)
      · exact (hservers key).symm.trans (hh.servers key)
    · rintro ⟨hraw, hm⟩
      refine ⟨hj.trans hraw.symm, hh.countries.trans hm.countries.symm, fun key => ?_, fun key => ?_⟩
      · exact (hh.cities key).trans (hm.cities key).symm
      · exact (hh.servers key).trans (hm.servers key).symm

lemma inv_run (events : List Event) : Inv formats (run (step formats) {} events) :=
  run_invariant (fun _ event h => h.step event) fun h => absurd rfl h

/-- For every document, in every state that the model can reach. -/
theorem exact_iff_fits (formats : ServerFormats) (events : List Event) (language : Language) (s : Bytes) :
    Exact formats language s (run (step formats) {} events) ↔
      Fits formats language s (run (step formats) {} events) :=
  (inv_run events).exact_iff

/-- A language that leaves every order as it is. -/
def plain : Language where
  translatedCityName := id
  translatedCountryName _ := id
  less _ _ := False
  citySort := ⟨id, fun _ => .refl _, fun _ => List.pairwise_of_forall fun _ _ => not_false⟩
  countrySort := ⟨id, fun _ => .refl _, fun _ => List.pairwise_of_forall fun _ _ => not_false⟩

/-- A list of one server. -/
def oneServer (hostname : String) : JsonObject :=
  [("countries", .array [.object [("name", .string "Country"), ("code", .string "cc"), ("cities", .array [.object
    [("name", .string "City"), ("code", .string "cit"), ("latitude", .double 0), ("longitude", .double 0),
      ("servers", .array [.object [("hostname", .string hostname), ("ipv4_addr_in", .string ""),
        ("ipv4_gateway", .string ""), ("public_key", .string "key"), ("weight", .double 1),
        ("port_ranges", .array [])]])]])]])]

/-- Two lists of one server, with a host name and without. -/
def oneServerFormats : ServerFormats where
  fromJson s := if s = [1] then some (oneServer "host") else if s = [2] then some (oneServer "") else none
  inProduction := true

/-- A refresh that fails empties the model, and one may succeed without a server that can be used. -/
theorem inexact_server_refreshes :
    ¬Exact oneServerFormats plain [] (run (step oneServerFormats) {} [.fromJson plain [1]]) ∧
      ¬Exact oneServerFormats plain [2] (run (step oneServerFormats) {} []) := by
  constructor
  · intro h
    rw [Exact, if_neg (by decide +kernel)] at h
    exact absurd (congrArg List.length h.countries) (by decide +kernel)
  · intro h
    rw [Exact, if_pos (by decide +kernel)] at h
    have hi := (h ⟨"Country", "cc", ["City"]⟩ (by decide +kernel) "City" (by decide +kernel)).servers "key"
      (by decide +kernel)
    exact absurd hi (by decide +kernel)

end VpnClient.Models.ServerCountryModel
