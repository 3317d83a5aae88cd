import VpnClient.Features.Feature
import VpnClient.Ipc.Message

/-! How features are toggled, and how a reply of the server flips them. -/

namespace VpnClient.Features.FeatureList

open Ipc

variable (F : FeatureList)

/-- Whether the assertion holds, and the flips after the change. -/
def featureToggleOff (n : ℕ) (feature : String) (add_to_off : Bool) (s : Flips) : Option (Bool × Flips) :=
  let asserted := if add_to_off then decide (feature ∉ s.off) else decide (feature ∈ s.off)
  let flags := if add_to_off then s.off ++ [feature] else s.off.filter (· ≠ feature)
  (F.setFeaturesFlippedOff n flags s).bind fun s =>
    (if feature ∈ s.on then F.setFeaturesFlippedOn n (s.on.filter (· ≠ feature)) s else some s).map fun s => (asserted, s)

def featureToggleOn (n : ℕ) (feature : String) (add_to_on : Bool) (s : Flips) : Option (Bool × Flips) :=
  let asserted := if add_to_on then decide (feature ∉ s.on) else decide (feature ∈ s.on)
  let flags := if add_to_on then s.on ++ [feature] else s.on.filter (· ≠ feature)
  (F.setFeaturesFlippedOn n flags s).bind fun s =>
    (if feature ∈ s.off then F.setFeaturesFlippedOff n (s.off.filter (· ≠ feature)) s else some s).map
      fun s => (asserted, s)

/-- Whether the assertions hold, and the flips after the call. -/
def toggle (n : ℕ) (feature : String) (s : Flips) : Option (Bool × Flips) :=
  if feature ∉ F.ids then some (false, s)
  else if F.isSupported false s feature then
    if F.isSupportedIgnoringFlip s feature then
      if F.flippableOff feature then F.featureToggleOff n feature true s else some (true, s)
    else F.featureToggleOn n feature false s
  else if ¬ F.isSupportedIgnoringFlip s feature then
    if F.flippableOn feature then F.featureToggleOn n feature true s else some (true, s)
  else F.featureToggleOff n feature false s

/-- The keys of an object, each one once. -/
def keys (obj : JsonObject) : List String := (obj.map (·.1)).dedup

def parseFeature (featuresObj : JsonObject) (result : List String × List String) (key : String) :
    List String × List String :=
  match (featuresObj.value key).bind JsonValue.bool? with
  | none => result
  | some value =>
    if key ∉ F.ids then result
    else if value then
      if F.flippableOn key then (result.1 ++ [key], result.2) else result
    else if F.flippableOff key then (result.1, result.2 ++ [key])
    else result

/-- The features that are flipped on, and those that are flipped off. -/
def parseFeatures (features : JsonValue) : List String × List String :=
  match features.object? with
  | none => ([], [])
  | some featuresObj => (keys featuresObj).foldl (F.parseFeature featuresObj) ([], [])

/-- A value that is given to the setting group of a feature. -/
structure SettingWrite where
  feature : String
  key : String
  value : JsonValue

def settingWrites (feature : String) (settings : JsonObject) : List SettingWrite :=
  (keys settings).filterMap fun key =>
    match settings.value key with
    | none => none
    | some .null => none
    | some value => some ⟨feature, key, value⟩

structure Experiments where
  toggleOn : List String
  toggleOff : List String
  writes : List SettingWrite

/-- The loop over the keys of which `n` are left, where keys are removed from the list that is looped over. It is
undefined where a key behind the end of the shortened list is read, or a setting group that does not exist. -/
def parseExperimentalFeature (experimentalFeaturesObj : JsonObject) : ℕ → ℕ → Experiments → Option Experiments
  | 0, _, parsed => some parsed
  | n + 1, i, parsed =>
    match parsed.toggleOn[i]? with
    | none => none
    | some key =>
      let removed := { parsed with toggleOn := parsed.toggleOn.filter (· ≠ key) }
      if key ∉ F.ids then parseExperimentalFeature experimentalFeaturesObj n (i + 1) removed
      else
        match (experimentalFeaturesObj.value key).bind JsonValue.object? with
        | none => parseExperimentalFeature experimentalFeaturesObj n (i + 1) removed
        | some settings =>
          if ¬ (settingWrites key settings).isEmpty ∧ key ∉ F.experimentalFeatureIds then none
          else
            parseExperimentalFeature experimentalFeaturesObj n (i + 1) { parsed with
              toggleOff := parsed.toggleOff.filter (· ≠ key)
              writes := parsed.writes ++ settingWrites key settings }

def parseExperimentalFeatures (experimentalFeatures : JsonValue) : Option Experiments :=
  match experimentalFeatures.object? with
  | none => some ⟨[], [], []⟩
  | some obj => F.parseExperimentalFeature obj (keys obj).length 0 ⟨keys obj, F.experimentalFeatureIds, []⟩

/-- The lists that a reply makes out of those before. -/
structure Updated where
  featuresToToggleOn : List String
  featuresToToggleOff : List String
  writes : List SettingWrite

/-- The part of `updateFeatureList` that reads the overwrites. -/
def overwritten (json : JsonObject) (s : Flips) : List String × List String :=
  match json.value "featuresOverwrite" with
  | none => (s.on, s.off)
  | some features => F.parseFeatures features

def updatedLists (json : JsonObject) (s : Flips) : Option Updated :=
  let features := F.overwritten json s
  match json.value "experimentalFeatures" with
  | none => some ⟨features.1, features.2, []⟩
  | some experimentalFeatures => (F.parseExperimentalFeatures experimentalFeatures).map fun parsed =>
    ⟨appendMissing (features.1.filter (· ∉ parsed.toggleOff)) parsed.toggleOn, features.2, parsed.writes⟩

def updateFeatureList (n : ℕ) (fromJson : Bytes → Option JsonObject) (data : Bytes) (s : Flips) :
    Option (Flips × List SettingWrite) :=
  (F.updatedLists ((fromJson data).getD []) s).bind fun updated =>
    (F.setFeaturesFlippedOff n updated.featuresToToggleOff s).bind fun s =>
      (F.setFeaturesFlippedOn n updated.featuresToToggleOn s).map fun s => (s, updated.writes)

end VpnClient.Features.FeatureList
