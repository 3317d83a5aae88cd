import Mathlib.Data.String.Basic
import VpnClient.Library.SortedMap
import VpnClient.Library.Sorting

/-! The list of applications that may be excluded from the VPN. -/

namespace VpnClient.Models

open Library

structure AppDescription where
  id : String
  name : String := ""
  deriving DecidableEq

/-- What the platform knows about applications. -/
structure AppListProvider where
  isValidAppId : String → Bool
  getAppName : String → String

/-- The provider of platforms that do not say more. -/
def AppListProvider.base : AppListProvider where
  isValidAppId _ := true
  getAppName appId := appId

structure AppSettings where
  missingApps : List String := []
  vpnDisabledApps : List String := []
  deriving DecidableEq

/-- `notified` are the numbers of removed applications that a notification has told. -/
structure AppPermission where
  applist : List AppDescription := []
  settings : AppSettings := {}
  notified : List ℕ := []
  deriving DecidableEq

/-- How texts are compared and put into lower case. -/
structure Collation where
  compare : String → String → ℤ
  toLower : String → String

namespace AppPermission

/-- Disabled applications come first. -/
def sortApplicationCallback (collator : Collation) (vpnDisabledApps : List String) (a b : AppDescription) : Prop :=
  if (a.id ∈ vpnDisabledApps ↔ b.id ∈ vpnDisabledApps) then
    collator.compare (collator.toLower a.name) (collator.toLower b.name) < 0
  else a.id ∈ vpnDisabledApps

/-- The state of the loops: the ids that are kept so far, the copy of the received map, the rows of the model and the
names of the removed applications. -/
structure Merging where
  kept : List String := []
  applistCopy : SortedMap String String
  rows : List AppDescription
  removedMissingApps : List String := []

def missingStep (provider : AppListProvider) (m : Merging) (appPath : String) : Merging :=
  if provider.isValidAppId appPath then
    { m with
      kept := m.kept ++ [appPath]
      applistCopy := m.applistCopy.insert appPath (provider.getAppName appPath) }
  else { m with removedMissingApps := m.removedMissingApps ++ [provider.getAppName appPath] }

/-- The value of a key, which is inserted if it is missing. -/
def valueAt (id : String) (applist : SortedMap String String) : String × SortedMap String String :=
  match applist.lookup id with
  | some name => (name, applist)
  | none => ("", applist.insert id "")

def disabledStep (provider : AppListProvider) (keys : List String) (m : Merging) (blockedAppId : String) : Merging :=
  if provider.isValidAppId blockedAppId then
    if blockedAppId ∈ keys then { m with kept := m.kept ++ [blockedAppId] }
    else
      let value := valueAt blockedAppId m.applistCopy
      { m with
        kept := m.kept ++ [blockedAppId]
        applistCopy := value.2
        rows := m.rows ++ [{ id := blockedAppId, name := value.1 }] }
  else { m with removedMissingApps := m.removedMissingApps ++ [provider.getAppName blockedAppId] }

def receiveAppList (provider : AppListProvider) (collator : Collation)
    (sorting : ∀ vpnDisabledApps, Sorting (sortApplicationCallback collator vpnDisabledApps))
    (applist : SortedMap String String) (p : AppPermission) : AppPermission :=
  let missing := p.settings.missingApps.foldl (missingStep provider) { applistCopy := applist, rows := p.applist }
  let settings :=
    if missing.removedMissingApps.isEmpty then p.settings else { p.settings with missingApps := missing.kept }
  let keys := missing.applistCopy.keys
  let disabled :=
    if p.applist.isEmpty then missing
    else settings.vpnDisabledApps.foldl (disabledStep provider keys) { missing with kept := [] }
  let settings := if p.applist.isEmpty then settings else { settings with vpnDisabledApps := disabled.kept }
  let rows := keys.map fun id => { id, name := (valueAt id disabled.applistCopy).1 : AppDescription }
  { applist := (sorting settings.vpnDisabledApps).sort rows
    settings
    notified :=
      if disabled.removedMissingApps.isEmpty then p.notified
      else p.notified ++ [disabled.removedMissingApps.length] }

end AppPermission

end VpnClient.Models

/-! Every excluded application is shown and every vanished one is dropped if and only if the received and the added
applications have all valid excluded ones, and there was a list before or nothing to drop. -/

namespace VpnClient.Models.AppPermission

open Library

variable {provider : AppListProvider} {collator : Collation}
  {sorting : ∀ vpnDisabledApps, Sorting (sortApplicationCallback collator vpnDisabledApps)}
  {applist : SortedMap String String} {p : AppPermission} {m : Merging} {ids keys : List String} {id : String}

/-- The rows are the received, the added and the excluded applications that are valid, each once and in order, and what
is not valid is dropped from the settings. -/
structure Shown (provider : AppListProvider) (collator : Collation) (applist : SortedMap String String)
    (former p : AppPermission) : Prop where
  once : (p.applist.map (·.id)).Nodup
  rows : ∀ id, id ∈ p.applist.map (·.id) ↔ id ∈ applist.keys ∨
    provider.isValidAppId id = true ∧ (id ∈ former.settings.missingApps ∨ id ∈ former.settings.vpnDisabledApps)
  ordered : p.applist.Pairwise fun a b => ¬ sortApplicationCallback collator p.settings.vpnDisabledApps b a
  missing : p.settings.missingApps = former.settings.missingApps.filter provider.isValidAppId
  disabled : p.settings.vpnDisabledApps = former.settings.vpnDisabledApps.filter provider.isValidAppId

/-- Every valid excluded application is received or added. -/
def Covered (provider : AppListProvider) (applist : SortedMap String String) (p : AppPermission) : Prop :=
  ∀ id ∈ p.settings.vpnDisabledApps, provider.isValidAppId id = true →
    id ∈ applist.keys ∨ id ∈ p.settings.missingApps

/-- A list had been received before, or every excluded application is valid. -/
def Checked (provider : AppListProvider) (p : AppPermission) : Prop :=
  p.applist ≠ [] ∨ ∀ id ∈ p.settings.vpnDisabledApps, provider.isValidAppId id = true

lemma missing_kept : (ids.foldl (missingStep provider) m).kept = m.kept ++ ids.filter provider.isValidAppId := by
  induction ids generalizing m with
  | nil => simp
  | cons id ids ih =>
    rw [List.foldl_cons, ih, missingStep]
    split_ifs with hv
    · rw [List.filter_cons_of_pos hv]
      simp
    · rw [List.filter_cons_of_neg hv]

lemma missing_removed : (ids.foldl (missingStep provider) m).removedMissingApps =
    m.removedMissingApps ++ (ids.filter fun id => !provider.isValidAppId id).map provider.getAppName := by
  induction ids generalizing m with
  | nil => simp
  | cons id ids ih =>
    rw [List.foldl_cons, ih, missingStep]
    split_ifs with hv
    · rw [List.filter_cons_of_neg (by simp [hv])]
    · rw [List.filter_cons_of_pos (by simpa using hv)]
      simp

lemma missing_keys : id ∈ (ids.foldl (missingStep provider) m).applistCopy.keys ↔
    id ∈ m.applistCopy.keys ∨ provider.isValidAppId id = true ∧ id ∈ ids := by
  induction ids generalizing m with
  | nil => simp
  | cons other ids ih =>
    rw [List.foldl_cons, ih, missingStep]
    split_ifs with hv
    · simp only [SortedMap.mem_keys_insert, List.mem_cons]
      constructor
      · rintro ((rfl | h) | ⟨h, hm⟩)
        · exact Or.inr ⟨hv, Or.inl rfl⟩
        · exact Or.inl h
        · exact Or.inr ⟨h, Or.inr hm⟩
      · rintro (h | ⟨h, rfl | hm⟩)
        · exact Or.inl (Or.inr h)
        · exact Or.inl (Or.inl rfl)
        · exact Or.inr ⟨h, hm⟩
    · simp only [List.mem_cons]
      constructor
      · rintro (h | ⟨h, hm⟩)
        · exact Or.inl h
        · exact Or.inr ⟨h, Or.inr hm⟩
      · rintro (h | ⟨h, rfl | hm⟩)
        · exact Or.inl h
        · exact absurd h hv
        · exact Or.inr ⟨h, hm⟩

lemma disabled_kept : (ids.foldl (disabledStep provider keys) m).kept = m.kept ++ ids.filter provider.isValidAppId := by
  induction ids generalizing m with
  | nil => simp
  | cons id ids ih =>
    rw [List.foldl_cons, ih, disabledStep]
    split_ifs with hv
    · rw [List.filter_cons_of_pos hv]
      simp
    · rw [List.filter_cons_of_pos hv]
      simp
    · rw [List.filter_cons_of_neg hv]

/-- What is written to the setting of the added applications are the valid ones, whether or not it is written. -/
lemma missing_settings (settings : AppSettings) {rows : List AppDescription} :
    (if (settings.missingApps.foldl (missingStep provider)
        { applistCopy := applist, rows }).removedMissingApps.isEmpty then settings
      else { settings with
        missingApps := (settings.missingApps.foldl (missingStep provider) { applistCopy := applist, rows }).kept }) =
      { settings with missingApps := settings.missingApps.filter provider.isValidAppId } := by
  rw [missing_removed, missing_kept]
  split_ifs with he
  · have hf : settings.missingApps.filter provider.isValidAppId = settings.missingApps := by
      simpa [List.filter_eq_nil_iff, List.filter_eq_self] using he
    rw [hf]
  · rfl

/-- The settings are cleaned, but the excluded applications only when there was a list. -/
lemma receiveAppList_settings : (p.receiveAppList provider collator sorting applist).settings =
    { missingApps := p.settings.missingApps.filter provider.isValidAppId
      vpnDisabledApps :=
        if p.applist.isEmpty then p.settings.vpnDisabledApps
        else p.settings.vpnDisabledApps.filter provider.isValidAppId } := by
  rw [receiveAppList]
  simp only [missing_settings]
  split_ifs
  · rfl
  · rw [disabled_kept]
    rfl

/-- The rows are made of the keys that were collected before the excluded applications. -/
lemma receiveAppList_perm : ((p.receiveAppList provider collator sorting applist).applist.map (·.id)).Perm
    (p.settings.missingApps.foldl (missingStep provider)
      { applistCopy := applist, rows := p.applist }).applistCopy.keys := by
  apply (((sorting (p.receiveAppList provider collator sorting applist).settings.vpnDisabledApps).perm _).map _).trans
  rw [List.map_map]
  exact List.Perm.of_eq (List.map_id _)

lemma mem_applist : id ∈ (p.receiveAppList provider collator sorting applist).applist.map (·.id) ↔
    id ∈ applist.keys ∨ provider.isValidAppId id = true ∧ id ∈ p.settings.missingApps := by
  rw [receiveAppList_perm.mem_iff, missing_keys]

lemma rows_iff_covered : (∀ id, id ∈ (p.receiveAppList provider collator sorting applist).applist.map (·.id) ↔
    id ∈ applist.keys ∨ provider.isValidAppId id = true ∧
      (id ∈ p.settings.missingApps ∨ id ∈ p.settings.vpnDisabledApps)) ↔ Covered provider applist p := by
  constructor
  · intro h id hd hv
    exact (mem_applist.mp ((h id).mpr (Or.inr ⟨hv, Or.inr hd⟩))).imp_right And.right
  · intro h id
    rw [mem_applist]
    constructor
    · exact fun hm => hm.imp_right fun hm => ⟨hm.1, Or.inl hm.2⟩
    · rintro (hm | ⟨hv, hm | hd⟩)
      · exact Or.inl hm
      · exact Or.inr ⟨hv, hm⟩
      · exact (h id hd hv).imp_right fun hm => ⟨hv, hm⟩

lemma disabled_iff_checked : (p.receiveAppList provider collator sorting applist).settings.vpnDisabledApps =
    p.settings.vpnDisabledApps.filter provider.isValidAppId ↔ Checked provider p := by
  rw [receiveAppList_settings, Checked, Ne, ← List.isEmpty_iff]
  cases p.applist.isEmpty with
  | true => simp [eq_comm (a := p.settings.vpnDisabledApps), List.filter_eq_self]
  | false => simp

/-- After a list is received, the claims on the rows and the settings hold if and only if every valid excluded
application is received or added, and there was a list before or every excluded application is valid. -/
theorem shown_iff_covered (provider : AppListProvider) (collator : Collation)
    (sorting : ∀ vpnDisabledApps, Sorting (sortApplicationCallback collator vpnDisabledApps))
    (applist : SortedMap String String) (p : AppPermission) :
    Shown provider collator applist p (p.receiveAppList provider collator sorting applist) ↔
      Covered provider applist p ∧ Checked provider p := by
  constructor
  · exact fun h => ⟨rows_iff_covered.mp h.rows, disabled_iff_checked.mp h.disabled⟩
  · rintro ⟨hc, hk⟩
    constructor
    case once => exact receiveAppList_perm.nodup_iff.mpr (SortedMap.nodup_keys _)
    case rows => exact rows_iff_covered.mpr hc
    case ordered => exact (sorting _).ordered _
    case missing => rw [receiveAppList_settings]
    case disabled => exact disabled_iff_checked.mpr hk

/-- The order of code points, without cases. -/
def plainCollation : Collation where
  compare a b := if a < b then -1 else if a = b then 0 else 1
  toLower := String.toLower

def plainKey (vpnDisabledApps : List String) (app : AppDescription) : Bool ×ₗ Stringᵒᵈ :=
  toLex (decide (app.id ∈ vpnDisabledApps), OrderDual.toDual app.name.toLower)

lemma plainKey_lt {vpnDisabledApps : List String} {a b : AppDescription}
    (h : sortApplicationCallback plainCollation vpnDisabledApps b a) :
    plainKey vpnDisabledApps a < plainKey vpnDisabledApps b := by
  rw [sortApplicationCallback] at h
  rw [plainKey, plainKey, Prod.Lex.toLex_lt_toLex]
  split_ifs at h with hd
  · right
    have hlt : b.name.toLower < a.name.toLower := by
      simp only [plainCollation] at h
      split_ifs at h
      · assumption
      · exact absurd h (by decide)
      · exact absurd h (by decide)
    exact ⟨by simp [hd], hlt⟩
  · left
    have ha : a.id ∉ vpnDisabledApps := fun ha => hd (iff_of_true h ha)
    simp [h, ha]

def plainSorting (vpnDisabledApps : List String) : Sorting (sortApplicationCallback plainCollation vpnDisabledApps) where
  sort := (Sorting.byKey (plainKey vpnDisabledApps)).sort
  perm := (Sorting.byKey (plainKey vpnDisabledApps)).perm
  ordered l := ((Sorting.byKey (plainKey vpnDisabledApps)).ordered l).imp fun h hless => h (plainKey_lt hless)

theorem not_shown_unlisted : ¬ Shown .base plainCollation SortedMap.empty
    { applist := [{ id := "a" }], settings := { vpnDisabledApps := ["b"] } }
    (receiveAppList .base plainCollation plainSorting SortedMap.empty
      { applist := [{ id := "a" }], settings := { vpnDisabledApps := ["b"] } }) := by
  intro h
  have hm := (h.rows "b").mpr (Or.inr ⟨rfl, Or.inr List.mem_cons_self⟩)
  rcases mem_applist.mp hm with hk | ⟨-, hk⟩ <;> cases hk

end VpnClient.Models.AppPermission
