import VpnClient.Library.Runs
import VpnClient.Models.ServerSelection

/-! The objects that hold the selected locations, and which of them are updated and copied as a whole. -/

namespace VpnClient.Models.ServerDataCopies

open Ipc Library.Runs MozillaVPN

/-- The locations of an update. -/
structure Selection where
  exitCountryCode : String := ""
  exitCityName : String := ""
  entryCountryCode : String := ""
  entryCityName : String := ""
  deriving DecidableEq

/-- The settings of earlier versions. -/
structure Deprecated where
  currentServerCountryCode : Option String := none
  currentServerCity : Option String := none
  entryServerCountryCode : Option String := none
  entryServerCity : Option String := none

def Deprecated.selection (d : Deprecated) : Selection where
  exitCountryCode := d.currentServerCountryCode.getD ""
  exitCityName := d.currentServerCity.getD ""
  entryCountryCode := d.entryServerCountryCode.getD ""
  entryCityName := d.entryServerCity.getD ""

/-- A `ServerData`, and whether it is connected to the signal of the setting. -/
structure Object where
  data : ServerData := {}
  initialized : Bool := false
  connected : Bool := false
  deriving DecidableEq

structure App (V : Type) where
  serverData : Option V
  deprecated : Deprecated := {}
  objects : List Object := []

variable {V : Type} [DecidableEq V] (documents : SettingDocuments V) (m : ServerCountryModel)

def document (a : Selection) : V :=
  documents.toJson (selection m a.exitCountryCode a.exitCityName a.entryCountryCode a.entryCityName)

/-- What `settingsChanged` makes of an object. -/
def settingsChanged (serverData : Option V) (d : ServerData) : ServerData :=
  (MozillaVPN.settingsChanged documents
    { serverCountryModel := m, serverData := d, serverDataSetting := serverData }).2.serverData

/-- The signal of the setting, to all objects that are connected. -/
def serverDataChanged (app : App V) : App V :=
  { app with
    objects := app.objects.map fun o =>
      if o.connected then { o with data := settingsChanged documents m app.serverData o.data } else o }

def setServerData (value : V) (app : App V) : App V :=
  if app.serverData = some value then app else serverDataChanged documents m { app with serverData := some value }

def previous (a : Selection) (d : ServerData) : ServerData :=
  { d with
    previousExitCountryCode := d.exitCountryCode
    previousExitCountryName := m.countryName a.exitCountryCode
    previousExitCityName := d.exitCityName }

def update (i : ℕ) (a : Selection) (app : App V) : App V :=
  match app.objects[i]? with
  | none => app
  | some o =>
    setServerData documents m (document documents m a)
      { app with objects := app.objects.set i { o with data := previous m a o.data } }

/-- The locations that an object has. -/
def current (d : ServerData) : Selection := ⟨d.exitCountryCode, d.exitCityName, d.entryCountryCode, d.entryCityName⟩

def changeServer (i : ℕ) (a : Selection) (app : App V) : App V :=
  match app.objects[i]? with
  | none => app
  | some o => if current o.data = a then app else update documents m i a app

def migrates (app : App V) : Bool :=
  app.deprecated.currentServerCountryCode.isSome && app.deprecated.currentServerCity.isSome

def fromSettings (i : ℕ) (app : App V) : App V :=
  match app.objects[i]? with
  | none => app
  | some o =>
    if migrates app then { update documents m i app.deprecated.selection app with deprecated := {} }
    else { app with objects := app.objects.set i { o with data := settingsChanged documents m app.serverData o.data } }

/-- The assignment, which leaves out the names of the countries. -/
def assign (target other : Object) : Object :=
  { target with
    initialized := other.initialized
    data := { target.data with
      exitCountryCode := other.data.exitCountryCode
      exitCityName := other.data.exitCityName
      entryCountryCode := other.data.entryCountryCode
      entryCityName := other.data.entryCityName
      previousExitCountryCode := other.data.previousExitCountryCode
      previousExitCityName := other.data.previousExitCityName
      exitServerPublicKey := other.data.exitServerPublicKey
      entryServerPublicKey := other.data.entryServerPublicKey } }

def forget (o : Object) : Object :=
  { o with
    data := { exitServerPublicKey := o.data.exitServerPublicKey, entryServerPublicKey := o.data.entryServerPublicKey } }

/-- The operations on the objects, which are known by their number. `restart` leaves only the settings. -/
inductive Op where
  | restart
  | construct
  | initialized (i : ℕ)
  | copy (i : ℕ)
  | assign (target i : ℕ)
  | update (i : ℕ) (a : Selection)
  | changeServer (i : ℕ) (a : Selection)
  | fromSettings (i : ℕ)
  | forget (i : ℕ)
  | setEntryServerPublicKey (i : ℕ) (publicKey : String)
  | setExitServerPublicKey (i : ℕ) (publicKey : String)

def step (app : App V) : Op → App V
  | .restart => { app with objects := [] }
  | .construct => { app with objects := app.objects ++ [{}] }
  | .initialized i =>
    { app with objects := app.objects.modify i fun o => { o with initialized := true, connected := true } }
  | .copy i =>
    match app.objects[i]? with
    | none => app
    | some o => { app with objects := app.objects ++ [assign {} o] }
  | .assign target i =>
    match app.objects[i]? with
    | none => app
    | some o => { app with objects := app.objects.modify target fun t => assign t o }
  | .update i a => update documents m i a app
  | .changeServer i a => changeServer documents m i a app
  | .fromSettings i => fromSettings documents m i app
  | .forget i => { app with objects := app.objects.modify i forget }
  | .setEntryServerPublicKey i publicKey =>
    { app with
      objects := app.objects.modify i fun o => { o with data := { o.data with entryServerPublicKey := publicKey } } }
  | .setExitServerPublicKey i publicKey =>
    { app with
      objects := app.objects.modify i fun o => { o with data := { o.data with exitServerPublicKey := publicKey } } }

/-- The update that an operation makes. -/
def request (app : App V) (i : ℕ) (a : Selection) : Option (ℕ × Selection) :=
  if i < app.objects.length then some (i, a) else none

def updates (app : App V) : Op → Option (ℕ × Selection)
  | .update i a => request app i a
  | .changeServer i a => if (app.objects[i]?.map fun o => current o.data) = some a then none else request app i a
  | .fromSettings i => if migrates app then request app i app.deprecated.selection else none
  | _ => none

/-- The locations of the last update. -/
def observe (app : App V) (op : Op) (last : Option Selection) : Option Selection :=
  match updates app op with
  | none => last
  | some r => some r.2

/-- The translations of the country codes and of the city names, empty where there is none. -/
structure Localizer where
  country : String → String
  city : String → String

namespace Localizer

variable (l : Localizer)

def getTranslatedCountryName (countryCode countryName : String) : String :=
  if countryCode = "" then ""
  else if l.country countryCode = "" then countryName
  else l.country countryCode

def getTranslatedCityName (cityName : String) : String :=
  if cityName = "" then "" else if l.city cityName = "" then cityName else l.city cityName

end Localizer

structure Accessors where
  exitServers : List Client.Server
  entryServers : List Client.Server
  backupServers : String → List Client.Server
  hasServerData : Bool
  exitCountryCode : String
  exitCityName : String
  localizedExitCountryName : String
  localizedExitCityName : String
  multihop : Bool
  entryCountryCode : String
  entryCityName : String
  localizedEntryCityName : String
  localizedEntryCountryName : String
  previousExitCountryCode : String
  localizedPreviousExitCountryName : String
  previousExitCityName : String
  localizedPreviousExitCityName : String
  exitServerPublicKey : String
  entryServerPublicKey : String

def accessors (l : Localizer) (getServerList : String → String → List Client.Server) (d : ServerData) : Accessors :=
  let exitServers := getServerList d.exitCountryCode d.exitCityName
  { exitServers
    entryServers := if !d.multihop then exitServers else getServerList d.entryCountryCode d.entryCityName
    backupServers := fun key => (exitServers.filter (·.publicKey ≠ key)).take 3
    hasServerData := d.hasServerData
    exitCountryCode := d.exitCountryCode
    exitCityName := d.exitCityName
    localizedExitCountryName := l.getTranslatedCountryName d.exitCountryCode d.exitCountryName
    localizedExitCityName := l.getTranslatedCityName d.exitCityName
    multihop := d.multihop
    entryCountryCode := d.entryCountryCode
    entryCityName := d.entryCityName
    localizedEntryCityName := l.getTranslatedCityName d.entryCityName
    localizedEntryCountryName := l.getTranslatedCountryName d.entryCountryCode d.entryCountryName
    previousExitCountryCode := d.previousExitCountryCode
    localizedPreviousExitCountryName := l.getTranslatedCityName d.previousExitCountryName
    previousExitCityName := d.previousExitCityName
    localizedPreviousExitCityName := l.getTranslatedCityName d.previousExitCityName
    exitServerPublicKey := d.exitServerPublicKey
    entryServerPublicKey := d.entryServerPublicKey }

/-- The accessors give the same, whatever the language and the servers. -/
def Agrees (d d' : ServerData) : Prop := ∀ l getServerList, accessors l getServerList d = accessors l getServerList d'

/-- The locations and the names of their countries are those of an update. -/
def Shows (a : Selection) (d : ServerData) : Prop :=
  current d = a ∧ d.exitCountryName = m.countryName a.exitCountryCode ∧
    d.entryCountryName = m.countryName a.entryCountryCode

/-- What an update makes of an object. The name of the country before is that of a location, if one was selected. -/
def Updated (a : Selection) (d d' : ServerData) : Prop :=
  d'.previousExitCountryCode = d.exitCountryCode ∧ d'.previousExitCityName = d.exitCityName ∧
    (d.hasServerData = true → d'.previousExitCountryName = d.exitCountryName) ∧ Shows m a d'

def UpdateCorrect (app app' : App V) (i : ℕ) (a : Selection) : Prop :=
  app'.serverData ≠ app.serverData →
    ∃ o o', app.objects[i]? = some o ∧ app'.objects[i]? = some o' ∧ Updated m a o.data o'.data

/-- A fresh object gets the locations of the last update. -/
def RestoreCorrect (app app' : App V) (i : ℕ) (last : Option Selection) : Prop :=
  ∀ o a, app.objects[i]? = some o → o.data = {} → last = some a →
    ∃ o', app'.objects[i]? = some o' ∧ Shows m a o'.data

def CopyCorrect (app app' : App V) (target i : ℕ) : Prop :=
  ∀ o, app.objects[i]? = some o → ∃ o', app'.objects[target]? = some o' ∧ Agrees o'.data o.data

def ObjectsCorrect (p : App V × Option Selection) : Op → Prop
  | .fromSettings i =>
    RestoreCorrect m p.1 (step documents m p.1 (.fromSettings i)) i (observe p.1 (.fromSettings i) p.2)
  | .copy i => CopyCorrect p.1 (step documents m p.1 (.copy i)) p.1.objects.length i
  | .assign target i =>
    target < p.1.objects.length → CopyCorrect p.1 (step documents m p.1 (.assign target i)) target i
  | _ => True

/-- The updates, the objects that are restored and the copies are as they should be. -/
def Correct (p : App V × Option Selection) (op : Op) : Prop :=
  (∀ i a, updates p.1 op = some (i, a) → UpdateCorrect m p.1 (step documents m p.1 op) i a) ∧
    ObjectsCorrect documents m p op

/-- The setting keeps its value, or the new country has the name of the old one in an object that gets the signal. -/
def UpdateAllowed (app : App V) (i : ℕ) (a : Selection) : Prop :=
  ∀ o, app.objects[i]? = some o → app.serverData = some (document documents m a) ∨
    (o.data.hasServerData = true → m.countryName a.exitCountryCode = o.data.exitCountryName) ∧
      (o.connected = true ∨ Shows m a o.data)

/-- The names that an assignment leaves out are the same, or belong to no country. -/
def SameNames (d d' : ServerData) : Prop :=
  (d'.exitCountryCode = "" ∨ d.exitCountryName = d'.exitCountryName) ∧
    (d'.entryCountryCode = "" ∨ d.entryCountryName = d'.entryCountryName) ∧
    d.previousExitCountryName = d'.previousExitCountryName

def ObjectsAllowed (app : App V) : Op → Prop
  | .fromSettings i =>
    migrates app = true → app.serverData = some (document documents m app.deprecated.selection) →
      ∀ o, app.objects[i]? = some o → o.data = {} → Shows m app.deprecated.selection o.data
  | .copy i => ∀ o, app.objects[i]? = some o → SameNames {} o.data
  | .assign target i => ∀ o t, app.objects[i]? = some o → app.objects[target]? = some t → SameNames t.data o.data
  | _ => True

def Allowed (p : App V × Option Selection) (op : Op) : Prop :=
  (∀ i a, updates p.1 op = some (i, a) → UpdateAllowed documents m p.1 i a) ∧ ObjectsAllowed documents m p.1 op

variable {documents m} {app : App V} {i j : ℕ} {a b : Selection} {o t : Object} {d d' : ServerData}

omit [DecidableEq V] in
variable (d) in
lemma shows_settingsChanged : Shows m a (settingsChanged documents m (some (document documents m a)) d) := by
  have hn : [EXIT_COUNTRY_CODE, EXIT_COUNTRY_NAME, EXIT_CITY_NAME, ENTER_COUNTRY_CODE, ENTER_COUNTRY_NAME,
    ENTER_CITY_NAME].Nodup := by decide
  obtain ⟨obj, ho, hv⟩ :=
    documents.reads (selection m a.exitCountryCode a.exitCityName a.entryCountryCode a.entryCityName) hn
  have hstring : ∀ name, obj.string? name =
      (selection m a.exitCountryCode a.exitCityName a.entryCountryCode a.entryCityName).lookup name := by
    intro name
    rw [JsonObject.string?, hv]
    cases (selection m a.exitCountryCode a.exitCityName a.entryCountryCode a.entryCityName).lookup name <;> rfl
  have hexit : obj.contains EXIT_COUNTRY_NAME = true := by
    rw [JsonObject.contains, hv]
    rfl
  have hentry : obj.contains ENTER_COUNTRY_NAME = true := by
    rw [JsonObject.contains, hv]
    rfl
  rw [settingsChanged, MozillaVPN.settingsChanged, document, Option.bind_some, ho]
  simp only [Shows, current, hstring, hexit, hentry]
  exact ⟨rfl, rfl, rfl⟩

omit [DecidableEq V] in
variable (documents m) in
lemma settingsChanged_previous (serverData : Option V) (d : ServerData) :
    (settingsChanged documents m serverData d).previousExitCountryCode = d.previousExitCountryCode ∧
      (settingsChanged documents m serverData d).previousExitCityName = d.previousExitCityName ∧
      (settingsChanged documents m serverData d).previousExitCountryName = d.previousExitCountryName := by
  rw [settingsChanged, MozillaVPN.settingsChanged]
  dsimp only
  cases serverData.bind documents.fromJson with
  | none => exact ⟨rfl, rfl, rfl⟩
  | some obj => exact ⟨rfl, rfl, rfl⟩

omit [DecidableEq V] in
variable (app) in
lemma serverDataChanged_objects (h : app.objects[i]? = some o) :
    (serverDataChanged documents m app).objects[i]? =
      some { o with data := if o.connected then settingsChanged documents m app.serverData o.data else o.data } := by
  rw [serverDataChanged, List.getElem?_map, h, Option.map_some]
  split
  · rfl
  · rfl

lemma update_of_stored (h : app.objects[i]? = some o) (hs : app.serverData = some (document documents m a)) :
    (update documents m i a app).serverData = app.serverData ∧
      (update documents m i a app).objects[i]? = some { o with data := previous m a o.data } := by
  obtain ⟨hi, -⟩ := List.getElem?_eq_some_iff.mp h
  rw [update, h]
  dsimp only
  rw [setServerData, if_pos hs]
  exact ⟨rfl, List.getElem?_set_self hi⟩

lemma update_of_new (h : app.objects[i]? = some o) (hs : app.serverData ≠ some (document documents m a)) :
    (update documents m i a app).serverData = some (document documents m a) ∧
      (update documents m i a app).objects[i]? =
        some { o with
          data :=
            if o.connected then settingsChanged documents m (some (document documents m a)) (previous m a o.data)
            else previous m a o.data } := by
  obtain ⟨hi, -⟩ := List.getElem?_eq_some_iff.mp h
  rw [update, h]
  dsimp only
  rw [setServerData, if_neg hs]
  exact ⟨rfl, serverDataChanged_objects
    { app with
      serverData := some (document documents m a), objects := app.objects.set i { o with data := previous m a o.data } }
    (List.getElem?_set_self hi)⟩

lemma serverData_update (h : i < app.objects.length) :
    (update documents m i a app).serverData = some (document documents m a) := by
  have ho := List.getElem?_eq_getElem h
  by_cases hs : app.serverData = some (document documents m a)
  · exact (update_of_stored ho hs).1.trans hs
  · exact (update_of_new ho hs).1

lemma shows_previous : Shows m a (previous m a d) ↔ Shows m a d := Iff.rfl

lemma updated_iff : Updated m a d (previous m a d) ↔
    (d.hasServerData = true → m.countryName a.exitCountryCode = d.exitCountryName) ∧ Shows m a d := by
  rw [Updated, shows_previous]
  simp only [previous, true_and]

omit [DecidableEq V] in
lemma updated_settingsChanged_iff :
    Updated m a d (settingsChanged documents m (some (document documents m a)) (previous m a d)) ↔
      (d.hasServerData = true → m.countryName a.exitCountryCode = d.exitCountryName) := by
  obtain ⟨hcode, hcity, hname⟩ := settingsChanged_previous documents m (some (document documents m a)) (previous m a d)
  rw [Updated, hcode, hcity, hname]
  constructor
  · rintro ⟨-, -, h, -⟩
    exact h
  · intro h
    exact ⟨rfl, rfl, h, shows_settingsChanged _⟩

lemma updateCorrect_update_iff (hi : i < app.objects.length) :
    UpdateCorrect m app (update documents m i a app) i a ↔ UpdateAllowed documents m app i a := by
  obtain ⟨o, ho⟩ : ∃ o, app.objects[i]? = some o := ⟨_, List.getElem?_eq_getElem hi⟩
  have hallowed : UpdateAllowed documents m app i a ↔ app.serverData = some (document documents m a) ∨
      (o.data.hasServerData = true → m.countryName a.exitCountryCode = o.data.exitCountryName) ∧
        (o.connected = true ∨ Shows m a o.data) := by
    rw [UpdateAllowed, ho]
    simp
  rw [hallowed]
  by_cases hs : app.serverData = some (document documents m a)
  · have hstored := (update_of_stored ho hs).1
    exact ⟨fun _ => .inl hs, fun _ hn => absurd hstored hn⟩
  · obtain ⟨hsetting, hobject⟩ := update_of_new ho hs
    have hne : (update documents m i a app).serverData ≠ app.serverData := by
      rw [hsetting]
      exact Ne.symm hs
    have hcorrect : UpdateCorrect m app (update documents m i a app) i a ↔
        Updated m a o.data (if o.connected then
          settingsChanged documents m (some (document documents m a)) (previous m a o.data)
        else previous m a o.data) := by
      rw [UpdateCorrect, ho, hobject]
      simp [hne]
    rw [hcorrect]
    cases hc : o.connected with
    | true => simpa [hs] using updated_settingsChanged_iff
    | false => simpa [hs] using updated_iff

omit [DecidableEq V] in
lemma updates_request (h : request app i a = some (j, b)) : i < app.objects.length ∧ i = j ∧ a = b := by
  rw [request] at h
  split at h
  · next hi =>
    cases h
    exact ⟨hi, rfl, rfl⟩
  · cases h

lemma step_of_updates {op : Op} (h : updates app op = some (i, a)) : i < app.objects.length ∧
    (step documents m app op).serverData = (update documents m i a app).serverData ∧
      (step documents m app op).objects = (update documents m i a app).objects := by
  cases op with
  | update j b =>
    obtain ⟨hi, rfl, rfl⟩ := updates_request h
    exact ⟨hi, rfl, rfl⟩
  | changeServer j b =>
    rw [updates] at h
    split at h
    · cases h
    · next hn =>
      obtain ⟨hi, rfl, rfl⟩ := updates_request h
      rw [List.getElem?_eq_getElem hi, Option.map_some, Option.some_inj] at hn
      rw [step, changeServer, List.getElem?_eq_getElem hi]
      dsimp only
      rw [if_neg hn]
      exact ⟨hi, rfl, rfl⟩
  | fromSettings j =>
    rw [updates] at h
    split at h
    · next hm =>
      obtain ⟨hi, rfl, rfl⟩ := updates_request h
      rw [step, fromSettings, List.getElem?_eq_getElem hi]
      dsimp only
      rw [if_pos hm]
      exact ⟨hi, rfl, rfl⟩
    · cases h
  | restart => cases h
  | construct => cases h
  | initialized j => cases h
  | copy j => cases h
  | assign target j => cases h
  | forget j => cases h
  | setEntryServerPublicKey j publicKey => cases h
  | setExitServerPublicKey j publicKey => cases h

lemma update_of_request (h : request app i a = none) : update documents m i a app = app := by
  rw [request] at h
  split at h
  · cases h
  · next hi => rw [update, List.getElem?_eq_none (not_lt.mp hi)]

lemma serverData_of_updates {op : Op} (h : updates app op = none) :
    (step documents m app op).serverData = app.serverData := by
  cases op with
  | update j b => rw [step, update_of_request h]
  | changeServer j b =>
    rw [step, changeServer]
    rw [updates] at h
    cases ho : app.objects[j]? with
    | none => rfl
    | some o =>
      simp only [ho, Option.map_some, Option.some_inj] at h
      dsimp only
      split
      · rfl
      · next hn =>
        rw [if_neg hn] at h
        rw [update_of_request h]
  | fromSettings j =>
    rw [step, fromSettings]
    rw [updates] at h
    cases app.objects[j]? with
    | none => rfl
    | some o =>
      dsimp only
      split
      · next hm =>
        rw [if_pos hm] at h
        rw [update_of_request h]
      · rfl
  | copy j =>
    rw [step]
    cases app.objects[j]? with
    | none => rfl
    | some o => rfl
  | assign target j =>
    rw [step]
    cases app.objects[j]? with
    | none => rfl
    | some o => rfl
  | restart => rfl
  | construct => rfl
  | initialized j => rfl
  | forget j => rfl
  | setEntryServerPublicKey j publicKey => rfl
  | setExitServerPublicKey j publicKey => rfl

/-- The setting is the document of the last update. -/
def Inv (documents : SettingDocuments V) (m : ServerCountryModel) (p : App V × Option Selection) : Prop :=
  ∀ a, p.2 = some a → p.1.serverData = some (document documents m a)

lemma Inv.step {p : App V × Option Selection} (h : Inv documents m p) (op : Op) :
    Inv documents m (watch (step documents m) observe p op) := by
  intro a ha
  rw [watch, observe] at ha
  rw [watch]
  cases hu : updates p.1 op with
  | none =>
    rw [hu] at ha
    rw [serverData_of_updates hu]
    exact h a ha
  | some r =>
    obtain ⟨i, b⟩ := r
    obtain ⟨hi, hs, -⟩ := step_of_updates hu
    rw [hu] at ha
    cases ha
    rw [hs]
    exact serverData_update hi

lemma agrees_assign_iff : Agrees (assign t o).data o.data ↔ SameNames t.data o.data := by
  constructor
  · intro h
    have hplain := h ⟨fun _ => "", fun _ => ""⟩ fun _ _ => []
    have hexit := congrArg Accessors.localizedExitCountryName hplain
    have hentry := congrArg Accessors.localizedEntryCountryName hplain
    have hprevious := congrArg Accessors.localizedPreviousExitCountryName hplain
    simp only [accessors, assign, Localizer.getTranslatedCountryName, if_true] at hexit hentry
    simp only [accessors, assign, Localizer.getTranslatedCityName, if_true] at hprevious
    refine ⟨?_, ?_, ?_⟩
    · by_cases hc : o.data.exitCountryCode = ""
      · exact .inl hc
      · rw [if_neg hc, if_neg hc] at hexit
        exact .inr hexit
    · by_cases hc : o.data.entryCountryCode = ""
      · exact .inl hc
      · rw [if_neg hc, if_neg hc] at hentry
        exact .inr hentry
    · split_ifs at hprevious with ht ho
      · rw [ht, ho]
      · rw [ht, hprevious]
      · next ho => rw [hprevious, ho]
      · exact hprevious
  · rintro ⟨hexit, hentry, hprevious⟩ l getServerList
    have hx : l.getTranslatedCountryName o.data.exitCountryCode t.data.exitCountryName =
        l.getTranslatedCountryName o.data.exitCountryCode o.data.exitCountryName := by
      obtain hc | hn := hexit
      · simp only [Localizer.getTranslatedCountryName, hc, if_true]
      · rw [hn]
    have he : l.getTranslatedCountryName o.data.entryCountryCode t.data.entryCountryName =
        l.getTranslatedCountryName o.data.entryCountryCode o.data.entryCountryName := by
      obtain hc | hn := hentry
      · simp only [Localizer.getTranslatedCountryName, hc, if_true]
      · rw [hn]
    simp only [accessors, assign, hx, he, hprevious]
    rfl

omit [DecidableEq V] in
lemma copyCorrect_iff {app' : App V} {target : ℕ} (h : app.objects[i]? = some o)
    (h' : app'.objects[target]? = some (assign t o)) : CopyCorrect app app' target i ↔ SameNames t.data o.data := by
  rw [CopyCorrect, h, h', ← agrees_assign_iff]
  simp

lemma copyCorrect_copy_iff : CopyCorrect app (step documents m app (.copy i)) app.objects.length i ↔
    ∀ o, app.objects[i]? = some o → SameNames {} o.data := by
  cases ho : app.objects[i]? with
  | none =>
    rw [CopyCorrect, ho]
    simp
  | some o =>
    have h' : (step documents m app (.copy i)).objects[app.objects.length]? = some (assign {} o) := by
      rw [step, ho]
      exact List.getElem?_concat_length
    rw [copyCorrect_iff ho h']
    simp

lemma copyCorrect_assign_iff {target : ℕ} :
    (target < app.objects.length → CopyCorrect app (step documents m app (.assign target i)) target i) ↔
      ∀ o t, app.objects[i]? = some o → app.objects[target]? = some t → SameNames t.data o.data := by
  cases ho : app.objects[i]? with
  | none =>
    rw [CopyCorrect, ho]
    simp
  | some o =>
    by_cases ht : target < app.objects.length
    · have h' : (step documents m app (.assign target i)).objects[target]? = some (assign app.objects[target] o) := by
        rw [step, ho]
        dsimp only
        rw [List.getElem?_modify_eq, List.getElem?_eq_getElem ht]
        rfl
      rw [copyCorrect_iff ho h', List.getElem?_eq_getElem ht]
      simp [ht]
    · rw [List.getElem?_eq_none (not_lt.mp ht)]
      simp [ht]

omit [DecidableEq V] in
lemma updates_fromSettings (h : app.objects[i]? = some o) (hm : migrates app = true) :
    updates app (.fromSettings i) = some (i, app.deprecated.selection) := by
  obtain ⟨hi, -⟩ := List.getElem?_eq_some_iff.mp h
  rw [updates, if_pos hm, request, if_pos hi]

lemma restoreCorrect_iff {last : Option Selection} (h : Inv documents m (app, last))
    (ha : ∀ j b, updates app (.fromSettings i) = some (j, b) → UpdateAllowed documents m app j b) :
    RestoreCorrect m app (step documents m app (.fromSettings i)) i (observe app (.fromSettings i) last) ↔
      (migrates app = true → app.serverData = some (document documents m app.deprecated.selection) →
        ∀ o, app.objects[i]? = some o → o.data = {} → Shows m app.deprecated.selection o.data) := by
  cases ho : app.objects[i]? with
  | none =>
    rw [RestoreCorrect, ho]
    simp
  | some o =>
    by_cases hm : migrates app = true
    · have hu := updates_fromSettings ho hm
      obtain ⟨-, -, hobjects⟩ := step_of_updates hu
      rw [RestoreCorrect, observe, hu, hobjects]
      by_cases hs : app.serverData = some (document documents m app.deprecated.selection)
      · rw [(update_of_stored ho hs).2]
        simp [ho, hm, hs, shows_previous]
      · have hallowed := (ha _ _ hu o ho).resolve_left hs
        rw [(update_of_new ho hs).2]
        simp only [hs, false_implies, implies_true, iff_true]
        rintro _ _ - - ⟨⟩
        refine ⟨_, rfl, ?_⟩
        dsimp only
        split
        · exact shows_settingsChanged _
        · next hn => exact hallowed.2.resolve_left hn
    · refine ⟨fun _ hn => absurd hn hm, fun _ o' a ho' _ hl => ?_⟩
      rw [observe, updates, if_neg hm] at hl
      cases ho.symm.trans ho'
      obtain ⟨hi, -⟩ := List.getElem?_eq_some_iff.mp ho
      rw [step, fromSettings, ho, h a hl]
      dsimp only
      rw [if_neg hm]
      exact ⟨_, List.getElem?_set_self hi, shows_settingsChanged _⟩

lemma updateCorrect_iff {op : Op} (h : updates app op = some (i, a)) :
    UpdateCorrect m app (step documents m app op) i a ↔ UpdateAllowed documents m app i a := by
  obtain ⟨hi, hs, hobjects⟩ := step_of_updates h
  rw [← updateCorrect_update_iff hi, UpdateCorrect, UpdateCorrect, hs, hobjects]

lemma allowed_iff_correct {p : App V × Option Selection} (h : Inv documents m p) (op : Op) :
    Allowed documents m p op ↔ Correct documents m p op := by
  have hupdates : (∀ i a, updates p.1 op = some (i, a) → UpdateAllowed documents m p.1 i a) ↔
      ∀ i a, updates p.1 op = some (i, a) → UpdateCorrect m p.1 (step documents m p.1 op) i a :=
    forall₂_congr fun i a => imp_congr_right fun hu => (updateCorrect_iff hu).symm
  rw [Allowed, Correct, ← hupdates]
  apply and_congr_right
  intro ha
  cases op with
  | fromSettings i => exact (restoreCorrect_iff h ha).symm
  | copy i => exact copyCorrect_copy_iff.symm
  | assign target i => exact copyCorrect_assign_iff.symm
  | restart => exact Iff.rfl
  | construct => exact Iff.rfl
  | initialized i => exact Iff.rfl
  | update i a => exact Iff.rfl
  | changeServer i a => exact Iff.rfl
  | forget i => exact Iff.rfl
  | setEntryServerPublicKey i publicKey => exact Iff.rfl
  | setExitServerPublicKey i publicKey => exact Iff.rfl

/-- In the runs from any settings. -/
theorem correct_iff_allowed_throughout (documents : SettingDocuments V) (m : ServerCountryModel) (serverData : Option V)
    (deprecated : Deprecated) (ops : List Op) :
    Meets (watch (step documents m) observe) (Correct documents m) (⟨serverData, deprecated, []⟩, none) ops ↔
      Meets (watch (step documents m) observe) (Allowed documents m) (⟨serverData, deprecated, []⟩, none) ops := by
  have hstart : Inv documents m (⟨serverData, deprecated, []⟩, none) := by
    intro a ha
    cases ha
  symm
  exact meets_congr (fun _ op h _ => h.step op) (fun _ op h => allowed_iff_correct h op) hstart

lemma read_of_eq_some {A : Type} (f : Object → A) {x : Option Object} {value : A} (h : x = some o)
    (hv : x.map f = some value) : f o = value := by
  rw [h, Option.map_some] at hv
  exact Option.some.inj hv

/-- The two countries of a list. -/
def twoCountries : ServerCountryModel := { countries := [⟨"Sweden", "se", []⟩, ⟨"Norway", "no", []⟩] }

/-- After a change from Sweden to Norway the country before is Norway, and a copy has no country at all. -/
theorem not_correct_change :
    (¬Meets (watch (step plainDocuments twoCountries) observe) (Correct plainDocuments twoCountries)
        (⟨none, {}, []⟩, none)
        [.construct, .initialized 0, .update 0 { exitCountryCode := "se", exitCityName := "Malmö" },
          .changeServer 0 { exitCountryCode := "no", exitCityName := "Oslo" }]) ∧
      ¬Meets (watch (step plainDocuments twoCountries) observe) (Correct plainDocuments twoCountries)
        (⟨none, {}, []⟩, none)
        [.construct, .initialized 0, .update 0 { exitCountryCode := "se", exitCityName := "Malmö" }, .copy 0] := by
  constructor
  · rintro ⟨-, -, -, hchange, -⟩
    obtain ⟨o, o', ho, ho', hupdated⟩ := hchange.1 0 { exitCountryCode := "no", exitCityName := "Oslo" }
      (by decide +kernel) (by decide +kernel)
    have hhas := read_of_eq_some (fun o => o.data.hasServerData) ho (by decide +kernel : _ = some true)
    have hname := read_of_eq_some (fun o => o.data.exitCountryName) ho (by decide +kernel : _ = some "Sweden")
    have hafter := read_of_eq_some (fun o => o.data.previousExitCountryName) ho' (by decide +kernel : _ = some "Norway")
    have hsame := hupdated.2.2.1 hhas
    rw [hafter, hname] at hsame
    exact absurd hsame (by decide)
  · rintro ⟨-, -, -, hcopy, -⟩
    obtain ⟨o', ho', hagrees⟩ := hcopy.2
      ⟨{ exitCountryCode := "se", exitCityName := "Malmö", exitCountryName := "Sweden"
         previousExitCountryName := "Sweden" }, true, true⟩ (by decide +kernel)
    have hname := congrArg Accessors.localizedExitCountryName (hagrees ⟨fun _ => "", fun _ => ""⟩ fun _ _ => [])
    have hcode := read_of_eq_some (fun o => o.data.exitCountryCode) ho' (by decide +kernel : _ = some "se")
    have hempty := read_of_eq_some (fun o => o.data.exitCountryName) ho' (by decide +kernel : _ = some "")
    simp only [accessors, Localizer.getTranslatedCountryName, hcode, hempty] at hname
    exact absurd hname (by decide)

end VpnClient.Models.ServerDataCopies
