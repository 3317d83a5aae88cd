import VpnClient.Models.ServerData
import VpnClient.Library.Recency
import VpnClient.Library.Runs

/-! The lists of recent connections, and the settings where they are kept between two starts of the app. -/

namespace VpnClient.Models

open Ipc

def RECENT_CONNECTIONS_MAX_COUNT : ℕ := 2

structure RecentConnection where
  entryCityName : String := ""
  entryCountryCode : String := ""
  exitCityName : String
  exitCountryCode : String
  deriving DecidableEq

def RecentConnection.isMultiHop (rc : RecentConnection) : Bool := rc.entryCityName ≠ "" ∧ rc.entryCountryCode ≠ ""

inductive AddType where
  | prepend
  | append

structure RecentConnectionModel where
  list : List RecentConnection := []
  deriving DecidableEq

namespace RecentConnectionModel

def add (newRecentConnection : RecentConnection) (addType : AddType) (m : RecentConnectionModel) :
    Bool × RecentConnectionModel :=
  let index := m.list.idxOf? newRecentConnection
  if index = some 0 then (false, m)
  else
    let list := (index.map m.list.eraseIdx).getD m.list
    let list := list.take RECENT_CONNECTIONS_MAX_COUNT
    match addType with
    | .prepend => (true, { list := newRecentConnection :: list })
    | .append => (true, { list := list ++ [newRecentConnection] })

def serialize (m : RecentConnectionModel) : List (List (String × String)) :=
  m.list.map fun rc =>
    [(EXIT_COUNTRY_CODE, rc.exitCountryCode), (EXIT_CITY_NAME, rc.exitCityName),
      (ENTER_COUNTRY_CODE, rc.entryCountryCode), (ENTER_CITY_NAME, rc.entryCityName)]

end RecentConnectionModel

/-- How lists of documents of strings are written to a setting and read from it. -/
structure SettingLists (V : Type) where
  toJson : List (List (String × String)) → V
  fromJson : V → Option (List JsonValue)
  reads : ∀ rows, (∀ fields ∈ rows, (fields.map (·.1)).Nodup) →
    ∃ values, fromJson (toJson rows) = some values ∧
      List.Forall₂ (fun fields value => ∀ name,
        JsonObject.value (value.object?.getD []) name = (fields.lookup name).map .string) rows values

/-- The parts of a text between the separators that are found from the left; `skip` counts what is left of one. -/
def parts (sep : List Char) : ℕ → List Char → List (List Char)
  | _, [] => [[]]
  | skip + 1, _ :: text => parts sep skip text
  | 0, c :: text =>
    if sep <+: c :: text then [] :: parts sep (sep.length - 1) text else (parts sep 0 text).modifyHead (c :: ·)

def split (text sep : String) : List String := (parts sep.toList 0 text.toList).map String.ofList

example : split "a, b -> c, d" " -> " = ["a, b", "c, d"] := by decide +kernel

structure RecentConnections (V : Type) where
  singleHopModel : RecentConnectionModel := {}
  multiHopModel : RecentConnectionModel := {}
  recentConnections : Option V := none
  recentConnectionsDeprecated : Option (List String) := none

namespace RecentConnections

variable {V : Type} (lists : SettingLists V)

def addSingleHop (rc : RecentConnection) (addType : AddType) (r : RecentConnections V) : Bool × RecentConnections V :=
  let added := r.singleHopModel.add rc addType
  (added.1, { r with singleHopModel := added.2 })

def addMultiHop (rc : RecentConnection) (addType : AddType) (r : RecentConnections V) : Bool × RecentConnections V :=
  let added := r.multiHopModel.add rc addType
  (added.1, { r with multiHopModel := added.2 })

/-- The choice of a model that `serverChanged` and `readSettings` have. -/
def add (rc : RecentConnection) (addType : AddType) (r : RecentConnections V) : Bool × RecentConnections V :=
  if rc.isMultiHop then r.addMultiHop rc addType else r.addSingleHop rc addType

def writeSettings (r : RecentConnections V) : RecentConnections V :=
  { r with recentConnections := some (lists.toJson (r.singleHopModel.serialize ++ r.multiHopModel.serialize)) }

def recentConnection (value : JsonValue) : RecentConnection :=
  let obj : JsonObject := value.object?.getD []
  { entryCityName := (obj.string? ENTER_CITY_NAME).getD ""
    entryCountryCode := (obj.string? ENTER_COUNTRY_CODE).getD ""
    exitCityName := (obj.string? EXIT_CITY_NAME).getD ""
    exitCountryCode := (obj.string? EXIT_COUNTRY_CODE).getD "" }

def readSettings (r : RecentConnections V) : RecentConnections V :=
  match r.recentConnections.bind lists.fromJson with
  | none => r
  | some array => array.foldl (fun r value => (r.add (recentConnection value) .append).2) r

/-- The connection of a deprecated entry, and whether it has two parts. -/
def deprecatedConnection (rc : String) : Option (Bool × RecentConnection) :=
  match split rc " -> " with
  | [] => none
  | partA :: rest =>
    match split partA ", ", rest with
    | [a₀, a₁], [] => some (false, { exitCityName := a₀, exitCountryCode := a₁ })
    | [a₀, a₁], partB :: _ =>
      match split partB ", " with
      | [b₀, b₁] =>
        some (true, { entryCityName := a₀, entryCountryCode := a₁, exitCityName := b₀, exitCountryCode := b₁ })
      | _ => none
    | _, _ => none

def migrateConnection (r : RecentConnections V) (entry : Bool × RecentConnection) : RecentConnections V :=
  if entry.1 then (r.addMultiHop entry.2 .append).2 else (r.addSingleHop entry.2 .append).2

def migrate (r : RecentConnections V) : Bool × RecentConnections V :=
  match r.recentConnectionsDeprecated with
  | none => (false, r)
  | some rcList =>
    let r := (rcList.filterMap deprecatedConnection).foldl migrateConnection r
    (true, { r with recentConnectionsDeprecated := none }.writeSettings lists)

def initializeModels (r : RecentConnections V) : RecentConnections V :=
  let migrated := { r with singleHopModel := {}, multiHopModel := {} }.migrate lists
  if !migrated.1 then migrated.2.readSettings lists else migrated.2

def connection (sd : Client.ServerData) : RecentConnection :=
  { entryCityName := sd.entryCityName, entryCountryCode := sd.entryCountryCode
    exitCityName := sd.exitCityName, exitCountryCode := sd.exitCountryCode }

def serverChanged (sd : Client.ServerData) (r : RecentConnections V) : RecentConnections V :=
  let added := r.add (connection sd) .prepend
  if added.1 then added.2.writeSettings lists else added.2

/-- A restart finds the deprecated setting as an older version of the app left it. -/
inductive Event where
  | serverChanged (sd : Client.ServerData)
  | restart (deprecated : Option (List String))

def step (r : RecentConnections V) : Event → RecentConnections V
  | .serverChanged sd => r.serverChanged lists sd
  | .restart deprecated => { r with recentConnectionsDeprecated := deprecated }.initializeModels lists

end RecentConnections

end VpnClient.Models

/-! What the lists of recent connections hold after changes of the server and restarts of the app. -/

namespace VpnClient.Models.RecentConnections

open Ipc Library.Recency Library.Runs

/-- The connections of a deprecated list, with the most recent one first. -/
def connections (rcList : List String) : List RecentConnection := (rcList.filterMap deprecatedConnection).map (·.2)

def isSingleHop (rc : RecentConnection) : Bool := !rc.isMultiHop

def use (history : List RecentConnection) : Event → List RecentConnection
  | .serverChanged sd => connection sd :: history
  | .restart none => history
  | .restart (some rcList) => connections rcList

/-- Those connections of the history for which `hops` holds, the most recent ones first. -/
structure Keeps (history : List RecentConnection) (hops : RecentConnection → Bool) (m : RecentConnectionModel) : Prop where
  nodup : m.list.Nodup
  length_le : m.list.length ≤ RECENT_CONNECTIONS_MAX_COUNT + 1
  recent : Recent (history.filter hops) m.list
  hops : ∀ rc ∈ m.list, hops rc = true

variable {V : Type} (lists : SettingLists V)

/-- A start of the app without a deprecated setting. -/
def Restores (r : RecentConnections V) : Prop :=
  let read := readSettings lists { recentConnections := (r.writeSettings lists).recentConnections }
  read.singleHopModel = r.singleHopModel ∧ read.multiHopModel = r.multiHopModel

structure Sound (history : List RecentConnection) (r : RecentConnections V) : Prop where
  singleHop : Keeps history isSingleHop r.singleHopModel
  multiHop : Keeps history RecentConnection.isMultiHop r.multiHopModel
  restores : Restores lists r

/-- A deprecated list has entries with names, and does not list the second connection of a kind again after a third. -/
structure Migrates (rcList : List String) : Prop where
  isMultiHop : ∀ entry ∈ rcList.filterMap deprecatedConnection, entry.1 = true → entry.2.isMultiHop = true
  singleHop : Orderly RECENT_CONNECTIONS_MAX_COUNT [] ((connections rcList).filter isSingleHop)
  multiHop : Orderly RECENT_CONNECTIONS_MAX_COUNT [] ((connections rcList).filter RecentConnection.isMultiHop)

def Event.Fits : Event → Prop
  | .serverChanged _ => True
  | .restart none => True
  | .restart (some rcList) => Migrates rcList

/-- The setting has what the models have. -/
structure Inv (history : List RecentConnection) (r : RecentConnections V) : Prop where
  singleHop : Keeps history isSingleHop r.singleHopModel
  multiHop : Keeps history RecentConnection.isMultiHop r.multiHopModel
  saved : r.recentConnections = (r.writeSettings lists).recentConnections ∨
    r.recentConnections = none ∧ r.singleHopModel = {} ∧ r.multiHopModel = {}

section Models

variable {history : List RecentConnection} {hops : RecentConnection → Bool} {m : RecentConnectionModel}
  {rc : RecentConnection}

lemma idxOf?_eq_zero_iff {list : List RecentConnection} : list.idxOf? rc = some 0 ↔ list.head? = some rc := by
  cases list with
  | nil => simp
  | cons x list =>
    rw [List.idxOf?_cons, List.head?_cons, Option.some_inj]
    by_cases hx : x = rc
    · simp [hx]
    · simp [hx, beq_eq_false_iff_ne.mpr hx]

lemma eraseIdx_idxOf? (list : List RecentConnection) :
    ((list.idxOf? rc).map list.eraseIdx).getD list = list.erase rc := by
  rw [List.erase_eq_eraseIdx]
  cases list.idxOf? rc <;> rfl

lemma add_append : (m.add rc .append).2 = ⟨refill RECENT_CONNECTIONS_MAX_COUNT m.list rc⟩ := by
  rw [RecentConnectionModel.add, refill]
  simp only [idxOf?_eq_zero_iff, eraseIdx_idxOf?]
  split <;> rfl

lemma add_prepend : m.add rc .prepend =
    if m.list.head? = some rc then (false, m)
    else (true, ⟨rc :: (m.list.erase rc).take RECENT_CONNECTIONS_MAX_COUNT⟩) := by
  rw [RecentConnectionModel.add]
  simp only [idxOf?_eq_zero_iff, eraseIdx_idxOf?]

lemma keeps_nil : Keeps [] hops {} := ⟨.nil, Nat.zero_le _, recent_nil, by simp⟩

lemma Keeps.cons_of_not (h : Keeps history hops m) (hp : ¬hops rc = true) : Keeps (rc :: history) hops m :=
  ⟨h.nodup, h.length_le, by rw [List.filter_cons_of_neg hp]; exact h.recent, h.hops⟩

lemma Keeps.add_prepend (h : Keeps history hops m) (hp : hops rc = true) :
    Keeps (rc :: history) hops (m.add rc .prepend).2 := by
  rw [RecentConnections.add_prepend]
  split
  case isTrue hh =>
    obtain ⟨list, hl⟩ := List.head?_eq_some_iff.mp hh
    refine ⟨h.nodup, h.length_le, ?_, h.hops⟩
    rw [List.filter_cons_of_pos hp, hl]
    exact (hl ▸ h.recent).use_head
  case isFalse =>
    have hr := h.recent.use rc RECENT_CONNECTIONS_MAX_COUNT
    rw [← List.filter_cons_of_pos hp] at hr
    refine ⟨hr.nodup, ?_, hr, fun y hy => (List.mem_filter.mp (hr.mem y hy)).2⟩
    exact Nat.succ_le_succ (List.length_take_le _ _)

lemma keeps_refill (ho : Orderly RECENT_CONNECTIONS_MAX_COUNT [] (history.filter hops)) :
    Keeps history hops ⟨(history.filter hops).foldl (refill RECENT_CONNECTIONS_MAX_COUNT) []⟩ := by
  have hf := refilled_foldl (by decide) ho
  have hr := hf.recent (by decide)
  exact ⟨hr.nodup, hf.length_le, hr, fun rc hrc => (List.mem_filter.mp (hr.mem rc hrc)).2⟩

end Models

variable {lists} {history : List RecentConnection} {r : RecentConnections V}

lemma add_migrateConnection (rc : RecentConnection) :
    (r.add rc .append).2 = r.migrateConnection (rc.isMultiHop, rc) := by
  rw [add, migrateConnection]
  split <;> rfl

lemma foldl_migrateConnection (entries : List (Bool × RecentConnection)) :
    entries.foldl migrateConnection r =
      { r with
        singleHopModel :=
          ⟨((entries.filter (!·.1)).map (·.2)).foldl (refill RECENT_CONNECTIONS_MAX_COUNT) r.singleHopModel.list⟩
        multiHopModel :=
          ⟨((entries.filter (·.1)).map (·.2)).foldl (refill RECENT_CONNECTIONS_MAX_COUNT) r.multiHopModel.list⟩ } := by
  induction entries generalizing r with
  | nil => rfl
  | cons entry entries ih =>
    obtain ⟨multiHop, rc⟩ := entry
    rw [List.foldl_cons, ih, migrateConnection]
    cases multiHop <;> simp [addSingleHop, addMultiHop, add_append]

lemma recentConnection_eq {rc : RecentConnection} {value : JsonValue}
    (h : ∀ name, JsonObject.value (value.object?.getD []) name =
      (List.lookup name [(EXIT_COUNTRY_CODE, rc.exitCountryCode), (EXIT_CITY_NAME, rc.exitCityName),
        (ENTER_COUNTRY_CODE, rc.entryCountryCode), (ENTER_CITY_NAME, rc.entryCityName)]).map .string) :
    recentConnection value = rc := by
  rw [recentConnection]
  simp [JsonObject.string?, h, List.lookup_cons, EXIT_COUNTRY_CODE, EXIT_CITY_NAME, ENTER_COUNTRY_CODE, ENTER_CITY_NAME,
    JsonValue.string?]

lemma map_recentConnection {connections : List RecentConnection} {values : List JsonValue}
    (h : List.Forall₂ (fun fields value => ∀ name,
      JsonObject.value (value.object?.getD []) name = (fields.lookup name).map .string)
      (RecentConnectionModel.serialize ⟨connections⟩) values) : values.map recentConnection = connections := by
  induction connections generalizing values with
  | nil => cases h; rfl
  | cons rc connections ih =>
    cases h with
    | cons hv h => rw [List.map_cons, recentConnection_eq hv, ih h]

lemma filter_models {single multi : RecentConnectionModel}
    (hs : Keeps history isSingleHop single) (hm : Keeps history RecentConnection.isMultiHop multi) :
    (single.list ++ multi.list).filter isSingleHop = single.list ∧
      (single.list ++ multi.list).filter RecentConnection.isMultiHop = multi.list := by
  have h₁ : ∀ rc ∈ multi.list, ¬isSingleHop rc = true := fun rc hrc => by simp [isSingleHop, hm.hops rc hrc]
  have h₂ : ∀ rc ∈ single.list, ¬rc.isMultiHop = true := fun rc hrc => by simpa [isSingleHop] using hs.hops rc hrc
  rw [List.filter_append, List.filter_append, List.filter_eq_self.mpr hs.hops, List.filter_eq_self.mpr hm.hops,
    List.filter_eq_nil_iff.mpr h₁, List.filter_eq_nil_iff.mpr h₂]
  exact ⟨List.append_nil _, List.nil_append _⟩

lemma foldl_add (connections : List RecentConnection) :
    connections.foldl (fun r rc => (r.add rc .append).2) r =
      { r with
        singleHopModel :=
          ⟨(connections.filter isSingleHop).foldl (refill RECENT_CONNECTIONS_MAX_COUNT) r.singleHopModel.list⟩
        multiHopModel :=
          ⟨(connections.filter RecentConnection.isMultiHop).foldl (refill RECENT_CONNECTIONS_MAX_COUNT)
            r.multiHopModel.list⟩ } := by
  have hf := foldl_migrateConnection (r := r) (connections.map fun rc => (rc.isMultiHop, rc))
  have hpart (p : Bool → Bool) : ((connections.map fun rc => (rc.isMultiHop, rc)).filter fun entry => p entry.1).map
      (·.2) = connections.filter fun rc => p rc.isMultiHop := by
    rw [List.filter_map, List.map_map]
    exact List.map_id _
  rw [List.foldl_map, hpart (!·), hpart (·)] at hf
  simp only [add_migrateConnection]
  exact hf

lemma serialize_nodup (m : RecentConnectionModel) : ∀ fields ∈ m.serialize, (fields.map (·.1)).Nodup := by
  intro fields hf
  obtain ⟨rc, -, rfl⟩ := List.mem_map.mp hf
  simp [EXIT_COUNTRY_CODE, EXIT_CITY_NAME, ENTER_COUNTRY_CODE, ENTER_CITY_NAME]

/-- What is read by a start without models from a setting that holds two models. -/
lemma readSettings_saved {single multi : RecentConnectionModel} (hs : Keeps history isSingleHop single)
    (hm : Keeps history RecentConnection.isMultiHop multi)
    (hr : r.recentConnections = some (lists.toJson (single.serialize ++ multi.serialize)))
    (hs₀ : r.singleHopModel = {}) (hm₀ : r.multiHopModel = {}) :
    r.readSettings lists = { r with singleHopModel := single, multiHopModel := multi } := by
  obtain ⟨values, hv, hf⟩ := lists.reads (single.serialize ++ multi.serialize) fun fields h =>
    (List.mem_append.mp h).elim (serialize_nodup single fields) (serialize_nodup multi fields)
  have hmap : values.map recentConnection = single.list ++ multi.list := by
    apply map_recentConnection
    rwa [RecentConnectionModel.serialize, List.map_append]
  obtain ⟨h₁, h₂⟩ := filter_models hs hm
  have hread : ∀ m : RecentConnectionModel, m.list.Nodup → m.list.length ≤ RECENT_CONNECTIONS_MAX_COUNT + 1 →
      m.list.foldl (refill RECENT_CONNECTIONS_MAX_COUNT) [] = m.list :=
    fun m hn hl => by rw [foldl_refill (by simpa using hn) (by simpa using hl), List.nil_append]
  have ha := foldl_add (r := r) (values.map recentConnection)
  rw [List.foldl_map, hmap, h₁, h₂, hs₀, hm₀, hread single hs.nodup hs.length_le,
    hread multi hm.nodup hm.length_le] at ha
  have hb : r.recentConnections.bind lists.fromJson = some values := by rw [hr, Option.bind_some, hv]
  rw [readSettings, hb]
  exact ha

lemma restores_of_keeps (hs : Keeps history isSingleHop r.singleHopModel)
    (hm : Keeps history RecentConnection.isMultiHop r.multiHopModel) : Restores lists r := by
  rw [Restores, readSettings_saved hs hm rfl rfl rfl]
  exact ⟨rfl, rfl⟩

lemma Inv.sound (h : Inv lists history r) : Sound lists history r :=
  ⟨h.singleHop, h.multiHop, restores_of_keeps h.singleHop h.multiHop⟩

lemma Inv.serverChanged (h : Inv lists history r) (sd : Client.ServerData) :
    Inv lists (connection sd :: history) (r.serverChanged lists sd) := by
  have hsame : ∀ m : RecentConnectionModel, (m.add (connection sd) .prepend).1 = false →
      (m.add (connection sd) .prepend).2 = m := by
    intro m hm
    rw [add_prepend] at hm ⊢
    split at hm
    case isTrue hh => rw [if_pos hh]
    case isFalse => cases hm
  rw [RecentConnections.serverChanged, add]
  by_cases hp : (connection sd).isMultiHop = true
  case pos =>
    have hs : Keeps (connection sd :: history) isSingleHop r.singleHopModel :=
      h.singleHop.cons_of_not (by simp [isSingleHop, hp])
    rw [if_pos hp, addMultiHop]
    dsimp only
    split
    case isTrue => exact ⟨hs, h.multiHop.add_prepend hp, .inl rfl⟩
    case isFalse hf =>
      have hm := h.multiHop.add_prepend hp
      rw [hsame _ (Bool.eq_false_of_not_eq_true hf)] at hm ⊢
      exact ⟨hs, hm, h.saved⟩
  case neg =>
    have hm : Keeps (connection sd :: history) RecentConnection.isMultiHop r.multiHopModel :=
      h.multiHop.cons_of_not hp
    have hq : isSingleHop (connection sd) = true := by simpa [isSingleHop] using hp
    rw [if_neg hp, addSingleHop]
    dsimp only
    split
    case isTrue => exact ⟨h.singleHop.add_prepend hq, hm, .inl rfl⟩
    case isFalse hf =>
      have hs := h.singleHop.add_prepend hq
      rw [hsame _ (Bool.eq_false_of_not_eq_true hf)] at hs ⊢
      exact ⟨hs, hm, h.saved⟩

lemma Inv.restart (h : Inv lists history r) :
    Inv lists history ({ r with recentConnectionsDeprecated := none }.initializeModels lists) := by
  rw [initializeModels, migrate]
  dsimp only
  rw [if_pos Bool.not_false]
  obtain hr | ⟨hr, hs, hm⟩ := h.saved
  · rw [readSettings_saved (r := { recentConnections := r.recentConnections }) h.singleHop h.multiHop hr rfl rfl]
    exact ⟨h.singleHop, h.multiHop, .inl hr⟩
  · rw [hr]
    exact ⟨hs ▸ h.singleHop, hm ▸ h.multiHop, .inr ⟨rfl, rfl, rfl⟩⟩

lemma deprecated_isSingleHop {rc : String} {entry : Bool × RecentConnection} (h : deprecatedConnection rc = some entry)
    (hf : entry.1 = false) : entry.2.isMultiHop = false := by
  rw [deprecatedConnection] at h
  split at h
  case h_1 => cases h
  case h_2 =>
    split at h
    case h_1 => cases h; rfl
    case h_2 =>
      split at h
      case h_1 => cases h; cases hf
      case h_2 => cases h
    case h_3 => cases h

lemma Migrates.filter {rcList : List String} (h : Migrates rcList) :
    (((rcList.filterMap deprecatedConnection).filter (!·.1)).map (·.2) = (connections rcList).filter isSingleHop) ∧
      ((rcList.filterMap deprecatedConnection).filter (·.1)).map (·.2) =
        (connections rcList).filter RecentConnection.isMultiHop := by
  have hflag : ∀ entry ∈ rcList.filterMap deprecatedConnection, entry.1 = entry.2.isMultiHop := by
    intro entry he
    cases hb : entry.1 with
    | true => rw [h.isMultiHop entry he hb]
    | false =>
      obtain ⟨rc, -, hrc⟩ := List.mem_filterMap.mp he
      rw [deprecated_isSingleHop hrc hb]
  rw [connections, List.filter_map, List.filter_map]
  constructor
  · congr 1
    apply List.filter_congr
    intro entry he
    rw [Function.comp_apply, isSingleHop, hflag entry he]
  · congr 1
    exact List.filter_congr hflag

lemma inv_migrate {rcList : List String} (h : Migrates rcList) (r : RecentConnections V) :
    Inv lists (connections rcList) ({ r with recentConnectionsDeprecated := some rcList }.initializeModels lists) := by
  rw [initializeModels, migrate]
  dsimp only
  rw [if_neg (by simp), foldl_migrateConnection, h.filter.1, h.filter.2]
  exact ⟨keeps_refill h.singleHop, keeps_refill h.multiHop, .inl rfl⟩

lemma inv_step {history : List RecentConnection} {r : RecentConnections V} (h : Inv lists history r) {event : Event}
    (hf : event.Fits) : Inv lists (use history event) (step lists r event) := by
  cases event with
  | serverChanged sd => exact h.serverChanged sd
  | restart deprecated =>
    cases deprecated with
    | none => exact h.restart
    | some rcList => exact inv_migrate hf r

lemma inv_run (events : List Event) (hf : ∀ event ∈ events, event.Fits) {history : List RecentConnection}
    {r : RecentConnections V} (h : Inv lists history r) :
    Inv lists (run use history events) (run (step lists) r events) := by
  induction events generalizing history r with
  | nil => exact h
  | cons event events ih =>
    exact ih (fun e he => hf e (List.mem_cons_of_mem _ he)) (inv_step h (hf event List.mem_cons_self))

theorem sound_of_fits (lists : SettingLists V) (events : List Event) (hf : ∀ event ∈ events, event.Fits) :
    Sound lists (run use [] events) (run (step lists) {} events) :=
  (inv_run events hf ⟨keeps_nil, keeps_nil, .inr ⟨rfl, rfl, rfl⟩⟩).sound

def plainLists : SettingLists (List (List (String × String))) where
  toJson := id
  fromJson rows := some (rows.map fun fields => .object (fields.map fun field => (field.1, .string field.2)))
  reads rows _ := by
    refine ⟨_, rfl, List.forall₂_map_right_iff.mpr (List.forall₂_same.mpr fun fields _ name => ?_)⟩
    exact value_map_string fields name

theorem sound_two_restarts :
    Sound plainLists (run use [] [.restart (some ["A, a", "B, b -> C, c"]), .serverChanged {}, .restart none])
      (run (step plainLists) {} [.restart (some ["A, a", "B, b -> C, c"]), .serverChanged {}, .restart none]) := by
  apply sound_of_fits
  simp only [List.forall_mem_cons, List.not_mem_nil, false_imp_iff, implies_true, and_true, Event.Fits]
  exact ⟨by decide +kernel, by decide +kernel, by decide +kernel⟩

/-- An entry without a name of its city is migrated as one with two hops, and an older connection that is listed twice
comes after one that is older still. -/
theorem not_sound :
    (¬Sound plainLists (run use [] [.restart (some [", a -> C, c"])])
      (run (step plainLists) {} [.restart (some [", a -> C, c"])])) ∧
    ¬Sound plainLists (run use [] [.restart (some ["A, a", "B, b", "C, c", "B, b"])])
      (run (step plainLists) {} [.restart (some ["A, a", "B, b", "C, c", "B, b"])]) := by
  constructor
  · intro h
    exact absurd h.multiHop.hops (by decide +kernel)
  · intro h
    exact absurd h.singleHop.recent.ordered (by decide +kernel)

end VpnClient.Models.RecentConnections
