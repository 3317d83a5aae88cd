import VpnClient.Models.ServerRefreshes
import VpnClient.Models.ServerSelection

/-! The cooldown of the servers in a city, which is told from those of other countries by its code alone. -/

namespace VpnClient.Models

open Ipc Library.Tables MozillaVPN

/-- In seconds. -/
def SERVER_UNRESPONSIVE_COOLDOWN_SEC : ℤ := 300

/-- The cooldowns of `ServerLatency`, and the cities whose change of score it has signalled. -/
structure Cooldowns where
  cooldown : Table String ℤ := ∅
  scoreChanged : List ServerCity := []

namespace ServerCountryModel

variable (m : ServerCountryModel) (ranking : Ranking) (countryCode cityCode : String)

def setCooldown (now : ℤ) (publicKey : String) (timeout : ℤ) (l : Cooldowns) : Cooldowns :=
  let cooldown := if timeout ≤ 0 then l.cooldown.erase publicKey else l.cooldown.insert publicKey (now + timeout)
  let server := m.server publicKey
  let city := m.findCity server.countryCode server.cityName
  { cooldown, scoreChanged := if city.initialized then l.scoreChanged ++ [city] else l.scoreChanged }

/-- The public keys that are visited; the country code is only logged. -/
def visited (cityCode : String) : List String :=
  ((ranking.cities m.cities).filter fun city => city.code = cityCode).flatMap (·.servers)

/-- `now i` is what the clock shows when the `i`th server is visited. -/
def setCooldownForAllServersInACity (now : ℕ → ℤ) (_countryCode cityCode : String) (l : Cooldowns) : Cooldowns :=
  (m.visited ranking cityCode).zipIdx.foldl
    (fun l visit => m.setCooldown (now visit.2) visit.1 SERVER_UNRESPONSIVE_COOLDOWN_SEC l) l

/-- The server is one of a city with this country and code. -/
def InCity (key : String) : Prop :=
  ∃ city ∈ m.cities.entries.map (·.2), city.country = countryCode ∧ city.code = cityCode ∧ key ∈ city.servers

instance (key : String) : Decidable (m.InCity countryCode cityCode key) :=
  inferInstanceAs <| Decidable <| ∃ city ∈ m.cities.entries.map (·.2), city.country = countryCode ∧
    city.code = cityCode ∧ key ∈ city.servers

/-- The servers in the city are in cooldown from some reading of the clock on, and nothing else changes. -/
def CoolsDown : Prop :=
  ∀ (now : ℕ → ℤ) (l : Cooldowns) (key : String),
    let l' := m.setCooldownForAllServersInACity ranking now countryCode cityCode l
    (m.InCity countryCode cityCode key → ∃ i, l'.cooldown.lookup key = some (now i + SERVER_UNRESPONSIVE_COOLDOWN_SEC)) ∧
      (¬m.InCity countryCode cityCode key → l'.cooldown.lookup key = l.cooldown.lookup key)

variable {m ranking countryCode cityCode} {now : ℕ → ℤ} {l : Cooldowns} {key : String}

variable (ranking) in
lemma mem_visited : key ∈ m.visited ranking cityCode ↔ ∃ country, m.InCity country cityCode key := by
  rw [visited, List.mem_flatMap]
  constructor
  · rintro ⟨city, hc, hk⟩
    obtain ⟨hm, hcode⟩ := List.mem_filter.mp hc
    exact ⟨city.country, city, (ranking.perm m.cities).mem_iff.mp hm, rfl, of_decide_eq_true hcode, hk⟩
  · rintro ⟨country, city, hm, -, hcode, hk⟩
    exact ⟨city, List.mem_filter.mpr ⟨(ranking.perm m.cities).mem_iff.mpr hm, decide_eq_true hcode⟩, hk⟩

lemma lookup_setCooldown (time : ℤ) (publicKey : String) :
    (m.setCooldown time publicKey SERVER_UNRESPONSIVE_COOLDOWN_SEC l).cooldown.lookup key =
      if key = publicKey then some (time + SERVER_UNRESPONSIVE_COOLDOWN_SEC) else l.cooldown.lookup key := by
  rw [setCooldown, if_neg (by decide), lookup_insert]

variable (m now l key) in
/-- What the visits so far leave in the table. -/
lemma lookup_visits (visits : List (String × ℕ)) :
    let l' := visits.foldl (fun l visit => m.setCooldown (now visit.2) visit.1 SERVER_UNRESPONSIVE_COOLDOWN_SEC l) l
    (key ∈ visits.map (·.1) → ∃ i, l'.cooldown.lookup key = some (now i + SERVER_UNRESPONSIVE_COOLDOWN_SEC)) ∧
      (key ∉ visits.map (·.1) → l'.cooldown.lookup key = l.cooldown.lookup key) := by
  induction visits using List.reverseRecOn with
  | nil => simp
  | append_singleton visits visit ih =>
    simp only [List.foldl_append, List.foldl_cons, List.foldl_nil, lookup_setCooldown, List.map_append, List.map_cons,
      List.map_nil, List.mem_append, List.mem_singleton]
    by_cases hk : key = visit.1
    · rw [if_pos hk]
      exact ⟨fun _ => ⟨visit.2, rfl⟩, fun h => absurd (Or.inr hk) h⟩
    · rw [if_neg hk]
      exact ⟨fun h => ih.1 (h.resolve_right hk), fun h => ih.2 fun hm => h (.inl hm)⟩

variable (m ranking now countryCode cityCode l key) in
lemma lookup_setCooldownForAllServersInACity :
    let l' := m.setCooldownForAllServersInACity ranking now countryCode cityCode l
    (key ∈ m.visited ranking cityCode →
        ∃ i, l'.cooldown.lookup key = some (now i + SERVER_UNRESPONSIVE_COOLDOWN_SEC)) ∧
      (key ∉ m.visited ranking cityCode → l'.cooldown.lookup key = l.cooldown.lookup key) := by
  have hv := lookup_visits m now l key (m.visited ranking cityCode).zipIdx
  rwa [List.zipIdx_map_fst] at hv

theorem coolsDown_iff (m : ServerCountryModel) (ranking : Ranking) (countryCode cityCode : String) :
    m.CoolsDown ranking countryCode cityCode ↔
      ∀ country key, m.InCity country cityCode key → m.InCity countryCode cityCode key := by
  constructor
  case mp =>
    intro h country key hk
    by_contra hn
    have hv := (mem_visited ranking).mpr ⟨country, hk⟩
    obtain ⟨i, hi⟩ :=
      (lookup_setCooldownForAllServersInACity m ranking countryCode cityCode (fun _ => 0) {} key).1 hv
    rw [(h (fun _ => 0) {} key).2 hn] at hi
    cases hi
  case mpr =>
    intro h now l key
    obtain ⟨hin, hout⟩ := lookup_setCooldownForAllServersInACity m ranking countryCode cityCode now l key
    constructor
    · intro hk
      exact hin ((mem_visited ranking).mpr ⟨countryCode, hk⟩)
    · intro hk
      refine hout fun hv => hk ?_
      obtain ⟨country, hc⟩ := (mem_visited ranking).mp hv
      exact h country key hc

/-- A country with a city whose code is `cit`, where one server is. -/
def oneCity (country key : String) : JsonValue :=
  .object [("name", .string country), ("code", .string country), ("cities", .array [.object
    [("name", .string "City"), ("code", .string "cit"), ("latitude", .double 0), ("longitude", .double 0),
      ("servers", .array [.object [("hostname", .string "host"), ("ipv4_addr_in", .string ""),
        ("ipv4_gateway", .string ""), ("public_key", .string key), ("weight", .double 1),
        ("port_ranges", .array [])]])]])]

def twoCountries : ServerFormats where
  fromJson s := if s = [1] then some [("countries", .array [oneCity "aa" "a", oneCity "bb" "b"])] else none
  inProduction := true

theorem not_coolsDown_two_countries :
    (({} : ServerCountryModel).fromJson twoCountries plain [1]).1 = true ∧
      ¬(({} : ServerCountryModel).fromJson twoCountries plain [1]).2.CoolsDown inOrder "aa" "cit" := by
  refine ⟨by decide +kernel, fun h => ?_⟩
  have hl := (h (fun _ => 0) {} "b").2 (by decide +kernel)
  have hb : ((({} : ServerCountryModel).fromJson twoCountries plain [1]).2.setCooldownForAllServersInACity inOrder
    (fun _ => 0) "aa" "cit" {}).cooldown.lookup "b" = some 300 := by decide +kernel
  rw [hb] at hl
  cases hl

end ServerCountryModel

end VpnClient.Models
