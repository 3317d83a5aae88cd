import VpnClient.Features.Cascades
import VpnClient.Features.FeatureModel

/-! The lists that a reply makes, and what the features make of them. -/

namespace VpnClient.Features.FeatureList

open Flips Ipc

variable {F : FeatureList} {s t u : Flips} {id key : String} {n : ℕ} {obj : JsonObject}

section Keys

lemma mem_keys : key ∈ keys obj ↔ (obj.value key).isSome := by
  rw [keys, List.mem_dedup, JsonObject.value, Option.isSome_map, List.find?_isSome, List.mem_map]
  simp

lemma mem_keys_of_bind {α : Type} {f : JsonValue → Option α} {a : α} (h : (obj.value key).bind f = some a) :
    key ∈ keys obj := by
  rw [mem_keys]
  cases hv : obj.value key with
  | none => simp [hv] at h
  | some value => rfl

lemma nodup_keys : (keys obj).Nodup := List.nodup_dedup _

end Keys

section Features

/-- A reply says that a feature is to be flipped. -/
def Overwrites (features : JsonValue) (id : String) (value : Bool) : Prop :=
  ∃ obj : JsonObject, features.object? = some obj ∧ (obj.value id).bind JsonValue.bool? = some value

lemma foldl_parseFeature (ids : List String) (result : List String × List String) :
    ids.foldl (F.parseFeature obj) result =
      (result.1 ++ ids.filter (fun id => decide ((obj.value id).bind JsonValue.bool? = some true) &&
          decide (id ∈ F.ids) && F.flippableOn id),
        result.2 ++ ids.filter (fun id => decide ((obj.value id).bind JsonValue.bool? = some false) &&
          decide (id ∈ F.ids) && F.flippableOff id)) := by
  induction ids generalizing result with
  | nil => simp
  | cons id ids ih =>
    rw [List.foldl_cons, ih, parseFeature]
    cases hv : (obj.value id).bind JsonValue.bool? with
    | none => simp [hv]
    | some value =>
      by_cases hid : id ∈ F.ids
      case neg => simp [hv, hid]
      cases value with
      | true => cases hf : F.flippableOn id <;> simp [hv, hid, hf]
      | false => cases hf : F.flippableOff id <;> simp [hv, hid, hf]

variable {features : JsonValue}

lemma mem_filter_keys {value : Bool} {flippable : String → Bool} :
    id ∈ (keys obj).filter (fun id => decide ((obj.value id).bind JsonValue.bool? = some value) &&
      decide (id ∈ F.ids) && flippable id) ↔
        id ∈ F.ids ∧ flippable id = true ∧ (obj.value id).bind JsonValue.bool? = some value := by
  have hk (h : (obj.value id).bind JsonValue.bool? = some value) := mem_keys_of_bind h
  simp only [List.mem_filter, Bool.and_eq_true, decide_eq_true_eq]
  tauto

lemma overwrites_iff {value : Bool} (ho : features.object? = some obj) :
    Overwrites features id value ↔ (obj.value id).bind JsonValue.bool? = some value := by
  simp [Overwrites, ho]

lemma mem_parseFeatures_on : id ∈ (F.parseFeatures features).1 ↔
    id ∈ F.ids ∧ F.flippableOn id = true ∧ Overwrites features id true := by
  rw [parseFeatures]
  cases ho : features.object? with
  | none => simp [Overwrites, ho]
  | some obj =>
    dsimp only
    rw [foldl_parseFeature]
    dsimp only
    rw [List.nil_append, mem_filter_keys, overwrites_iff ho]

lemma mem_parseFeatures_off : id ∈ (F.parseFeatures features).2 ↔
    id ∈ F.ids ∧ F.flippableOff id = true ∧ Overwrites features id false := by
  rw [parseFeatures]
  cases ho : features.object? with
  | none => simp [Overwrites, ho]
  | some obj =>
    dsimp only
    rw [foldl_parseFeature]
    dsimp only
    rw [List.nil_append, mem_filter_keys, overwrites_iff ho]

lemma nodup_parseFeatures : (F.parseFeatures features).1.Nodup ∧ (F.parseFeatures features).2.Nodup := by
  rw [parseFeatures]
  cases features.object? with
  | none => exact ⟨List.nodup_nil, List.nodup_nil⟩
  | some obj =>
    dsimp only
    rw [foldl_parseFeature]
    exact ⟨nodup_keys.filter _, nodup_keys.filter _⟩

end Features

section Experiments

/-- A key that is not removed from the list that is looped over. -/
def Valid (F : FeatureList) (obj : JsonObject) (key : String) : Prop :=
  key ∈ F.ids ∧ ∃ settings, (obj.value key).bind JsonValue.object? = some settings

/-- At most the last key is removed, and the others name experimental features. -/
structure WellFormed (F : FeatureList) (obj : JsonObject) : Prop where
  valid : ∀ key ∈ (keys obj).dropLast, Valid F obj key
  experimental : ∀ key ∈ keys obj, Valid F obj key → key ∈ F.experimentalFeatureIds

/-- What is parsed of an object, where the keys of `rest` are still looped over. -/
structure Parsed (F : FeatureList) (obj : JsonObject) (rest off : List String) (parsed : Experiments) : Prop where
  mem_toggleOn : ∀ key, key ∈ parsed.toggleOn ↔ key ∈ keys obj ∧ Valid F obj key
  nodup : parsed.toggleOn.Nodup
  mem_toggleOff : ∀ key, key ∈ parsed.toggleOff ↔ key ∈ off ∧ ¬ (key ∈ rest ∧ Valid F obj key)
  writes : ∀ write ∈ parsed.writes, write.feature ∈ F.experimentalFeatureIds

lemma feature_of_mem_settingWrites {settings : JsonObject} {write : SettingWrite}
    (h : write ∈ settingWrites key settings) : write.feature = key := by
  obtain ⟨k, -, hk⟩ := List.mem_filterMap.mp h
  split at hk
  · cases hk
  · cases hk
  · cases hk
    rfl

lemma parsed_nil {off : List String} {writes : List SettingWrite} (hv : ∀ key ∈ keys obj, Valid F obj key)
    (hw : ∀ write ∈ writes, write.feature ∈ F.experimentalFeatureIds) :
    Parsed F obj [] off ⟨keys obj, off, writes⟩ where
  mem_toggleOn key := ⟨fun h => ⟨h, hv key h⟩, fun h => h.1⟩
  nodup := nodup_keys
  mem_toggleOff key := by simp
  writes := hw

lemma parsed_last {before off : List String} {writes : List SettingWrite} (hk : keys obj = before ++ [key])
    (hv : ∀ key ∈ before, Valid F obj key) (hn : ¬ Valid F obj key)
    (hw : ∀ write ∈ writes, write.feature ∈ F.experimentalFeatureIds) :
    Parsed F obj [key] off ⟨(keys obj).filter (· ≠ key), off, writes⟩ where
  mem_toggleOn other := by
    rw [List.mem_filter, decide_eq_true_iff]
    apply and_congr_right
    intro hm
    rw [hk, List.mem_append, List.mem_singleton] at hm
    constructor
    case mp => exact fun hne => hv other (hm.resolve_right hne)
    case mpr =>
      rintro ho rfl
      exact hn ho
  nodup := nodup_keys.filter _
  mem_toggleOff other := by
    constructor
    case mp =>
      intro h
      exact ⟨h, fun ho => hn (List.mem_singleton.mp ho.1 ▸ ho.2)⟩
    case mpr => exact fun h => h.1
  writes := hw

/-- The loop, by induction on the keys that are left. -/
lemma exists_parsed (before rest off : List String) {writes : List SettingWrite} (hk : keys obj = before ++ rest)
    (hv : ∀ key ∈ before, Valid F obj key) (hr : ∀ key ∈ rest.dropLast, Valid F obj key)
    (he : ∀ key ∈ keys obj, Valid F obj key → key ∈ F.experimentalFeatureIds)
    (hw : ∀ write ∈ writes, write.feature ∈ F.experimentalFeatureIds) :
    ∃ parsed, F.parseExperimentalFeature obj rest.length before.length ⟨keys obj, off, writes⟩ = some parsed ∧
      Parsed F obj rest off parsed := by
  induction rest generalizing before off writes with
  | nil => exact ⟨_, rfl, parsed_nil (by simpa [hk] using hv) hw⟩
  | cons key rest ih =>
    have hget : (keys obj)[before.length]? = some key := by
      rw [hk, List.getElem?_append_right le_rfl, Nat.sub_self, List.getElem?_cons_zero]
    have hlast (hn : ¬ Valid F obj key) : rest = [] := by
      by_contra hne
      exact hn (hr key (by simp [List.dropLast_cons_of_ne_nil hne]))
    rw [List.length_cons, parseExperimentalFeature]
    simp only [hget]
    by_cases hid : key ∈ F.ids
    case neg =>
      have hn : ¬ Valid F obj key := fun h => hid h.1
      obtain rfl := hlast hn
      rw [if_pos hid]
      exact ⟨_, rfl, parsed_last hk hv hn hw⟩
    rw [if_neg (not_not.mpr hid)]
    cases ho : (obj.value key).bind JsonValue.object? with
    | none =>
      have hn : ¬ Valid F obj key := by
        rintro ⟨-, settings, h⟩
        rw [ho] at h
        cases h
      obtain rfl := hlast hn
      exact ⟨_, rfl, parsed_last hk hv hn hw⟩
    | some settings =>
      have hvalid : Valid F obj key := ⟨hid, settings, ho⟩
      have hexp := he key (by simp [hk]) hvalid
      dsimp only
      rw [if_neg (fun h => h.2 hexp)]
      have hv' : ∀ other ∈ before ++ [key], Valid F obj other := by
        intro other ho
        rcases List.mem_append.mp ho with ho | ho
        · exact hv other ho
        · exact List.mem_singleton.mp ho ▸ hvalid
      have hr' : ∀ other ∈ rest.dropLast, Valid F obj other := by
        intro other ho
        cases rest with
        | nil => cases ho
        | cons next rest => exact hr other (List.mem_cons_of_mem _ ho)
      have hw' : ∀ write ∈ writes ++ settingWrites key settings, write.feature ∈ F.experimentalFeatureIds := by
        intro write hm
        rcases List.mem_append.mp hm with hm | hm
        · exact hw write hm
        · exact feature_of_mem_settingWrites hm ▸ hexp
      obtain ⟨parsed, hp, h⟩ := ih (before ++ [key]) (off.filter (· ≠ key)) (by simp [hk]) hv' hr' hw'
      rw [List.length_append, List.length_singleton] at hp
      refine ⟨parsed, hp, ⟨h.mem_toggleOn, h.nodup, fun other => ?_, h.writes⟩⟩
      rw [h.mem_toggleOff, List.mem_filter, decide_eq_true_iff, List.mem_cons]
      by_cases hne : other = key
      · simp [hne, hvalid]
      · simp [hne]

end Experiments

section Lists

lemma nodup_appendMissing {flips ids : List String} (h : flips.Nodup) : (appendMissing flips ids).Nodup := by
  induction ids generalizing flips with
  | nil => exact h
  | cons id ids ih =>
    change (appendMissing (if id ∈ flips then flips else flips ++ [id]) ids).Nodup
    apply ih
    split_ifs with hid
    · exact h
    · exact List.nodup_append.mpr ⟨h, List.nodup_singleton _, by simpa using fun a ha => (ne_of_mem_of_not_mem ha hid)⟩

/-- A feature is on the list that a reply asks for: the list of its overwrites, or the one before. -/
def AskedOn (F : FeatureList) (json : JsonObject) (s : Flips) (id : String) : Prop :=
  match json.value "featuresOverwrite" with
  | none => id ∈ s.on
  | some features => id ∈ F.ids ∧ F.flippableOn id = true ∧ Overwrites features id true

def AskedOff (F : FeatureList) (json : JsonObject) (s : Flips) (id : String) : Prop :=
  match json.value "featuresOverwrite" with
  | none => id ∈ s.off
  | some features => id ∈ F.ids ∧ F.flippableOff id = true ∧ Overwrites features id false

/-- The object of the experimental features. -/
def experiments (json : JsonObject) : Option JsonObject :=
  (json.value "experimentalFeatures").bind JsonValue.object?

/-- An experimental feature is listed with an object. -/
def Listed (json : JsonObject) (id : String) : Prop :=
  ∃ obj settings, experiments json = some obj ∧ (JsonObject.value obj id).bind JsonValue.object? = some settings

/-- The lists that are made out of a reply. -/
structure Made (F : FeatureList) (json : JsonObject) (s : Flips) (updated : Updated) : Prop where
  writes : ∀ write ∈ updated.writes, write.feature ∈ F.experimentalFeatureIds
  experiment : (experiments json).isSome → ∀ id ∈ F.experimentalFeatureIds,
    (id ∈ updated.featuresToToggleOn ↔ Listed json id)
  feature : ∀ id, experiments json = none ∨ id ∉ F.experimentalFeatureIds →
    (id ∈ updated.featuresToToggleOn ↔ AskedOn F json s id)
  off : ∀ id, id ∈ updated.featuresToToggleOff ↔ AskedOff F json s id
  nodup_on : (json.value "featuresOverwrite").isSome ∨ s.on.Nodup → updated.featuresToToggleOn.Nodup
  nodup_off : (json.value "featuresOverwrite").isSome ∨ s.off.Nodup → updated.featuresToToggleOff.Nodup
  disjoint : ∀ id, experiments json = none ∨ id ∉ F.experimentalFeatureIds →
    (json.value "featuresOverwrite").isSome ∨ ¬ (id ∈ s.on ∧ id ∈ s.off) →
      ¬ (id ∈ updated.featuresToToggleOn ∧ id ∈ updated.featuresToToggleOff)

variable {json : JsonObject}

lemma mem_overwritten_on : id ∈ (F.overwritten json s).1 ↔ AskedOn F json s id := by
  rw [overwritten, AskedOn]
  cases json.value "featuresOverwrite" with
  | none => exact Iff.rfl
  | some features => exact mem_parseFeatures_on

lemma mem_overwritten_off : id ∈ (F.overwritten json s).2 ↔ AskedOff F json s id := by
  rw [overwritten, AskedOff]
  cases json.value "featuresOverwrite" with
  | none => exact Iff.rfl
  | some features => exact mem_parseFeatures_off

lemma nodup_overwritten_on (h : (json.value "featuresOverwrite").isSome ∨ s.on.Nodup) :
    (F.overwritten json s).1.Nodup := by
  rw [overwritten]
  cases hv : json.value "featuresOverwrite" with
  | none => exact h.resolve_left (by simp [hv])
  | some features => exact nodup_parseFeatures.1

lemma nodup_overwritten_off (h : (json.value "featuresOverwrite").isSome ∨ s.off.Nodup) :
    (F.overwritten json s).2.Nodup := by
  rw [overwritten]
  cases hv : json.value "featuresOverwrite" with
  | none => exact h.resolve_left (by simp [hv])
  | some features => exact nodup_parseFeatures.2

lemma not_asked_both (h : (json.value "featuresOverwrite").isSome ∨ ¬ (id ∈ s.on ∧ id ∈ s.off)) :
    ¬ (AskedOn F json s id ∧ AskedOff F json s id) := by
  rw [AskedOn, AskedOff]
  cases hv : json.value "featuresOverwrite" with
  | none => exact h.resolve_left (by simp [hv])
  | some features =>
    rintro ⟨⟨-, -, obj, ho, hon⟩, -, -, other, ho', hoff⟩
    obtain rfl := Option.some.inj (ho.symm.trans ho')
    exact absurd (hon.symm.trans hoff) (by simp)

lemma listed_iff (ho : experiments json = some obj) (hid : id ∈ F.ids) :
    Listed json id ↔ id ∈ keys obj ∧ Valid F obj id := by
  constructor
  case mp =>
    rintro ⟨other, settings, ho', hs⟩
    obtain rfl := Option.some.inj (ho.symm.trans ho')
    exact ⟨mem_keys_of_bind hs, hid, settings, hs⟩
  case mpr =>
    rintro ⟨-, -, settings, hs⟩
    exact ⟨obj, settings, ho, hs⟩

/-- The lists after an object of experimental features was parsed. -/
lemma made_of_parsed {parsed : Experiments} (ho : experiments json = some obj) (hw : WellFormed F obj)
    (p : Parsed F obj (keys obj) F.experimentalFeatureIds parsed) :
    Made F json s ⟨appendMissing ((F.overwritten json s).1.filter (· ∉ parsed.toggleOff)) parsed.toggleOn,
      (F.overwritten json s).2, parsed.writes⟩ where
  writes := p.writes
  experiment _ id hid := by
    rw [listed_iff ho (F.experimental id hid).1, mem_appendMissing, p.mem_toggleOn, List.mem_filter,
      decide_eq_true_iff, p.mem_toggleOff]
    tauto
  feature id hid := by
    have hne : id ∉ F.experimentalFeatureIds := hid.resolve_left (by simp [ho])
    rw [mem_appendMissing, p.mem_toggleOn, List.mem_filter, decide_eq_true_iff, p.mem_toggleOff, mem_overwritten_on]
    have hv : ¬ (id ∈ keys obj ∧ Valid F obj id) := fun hv => hne (hw.experimental id hv.1 hv.2)
    tauto
  off _ := mem_overwritten_off
  nodup_on hn := nodup_appendMissing ((nodup_overwritten_on hn).filter _)
  nodup_off := nodup_overwritten_off
  disjoint id hid hb h := by
    have hne : id ∉ F.experimentalFeatureIds := hid.resolve_left (by simp [ho])
    have hv : ¬ (id ∈ keys obj ∧ Valid F obj id) := fun hv => hne (hw.experimental id hv.1 hv.2)
    have hon := h.1
    rw [mem_appendMissing, p.mem_toggleOn, List.mem_filter, mem_overwritten_on] at hon
    exact not_asked_both hb ⟨(hon.resolve_right hv).1, mem_overwritten_off.mp h.2⟩

/-- The lists without an object of experimental features. -/
lemma made_of_none {parsed : Experiments} (he : experiments json = none) (h : parsed = ⟨[], [], []⟩) :
    Made F json s ⟨appendMissing ((F.overwritten json s).1.filter (· ∉ parsed.toggleOff)) parsed.toggleOn,
      (F.overwritten json s).2, parsed.writes⟩ := by
  subst h
  constructor
  case writes => simp
  case experiment => simp [he]
  case feature =>
    intro id _
    rw [mem_appendMissing, List.mem_filter, mem_overwritten_on]
    simp
  case off => exact fun _ => mem_overwritten_off
  case nodup_on => exact fun hn => nodup_appendMissing ((nodup_overwritten_on hn).filter _)
  case nodup_off => exact nodup_overwritten_off
  case disjoint =>
    intro id _ hb h
    have hon := h.1
    rw [mem_appendMissing, List.mem_filter, mem_overwritten_on] at hon
    exact not_asked_both hb ⟨(hon.resolve_right (by simp)).1, mem_overwritten_off.mp h.2⟩

/-- A well-formed reply makes the lists that it asks for. -/
lemma exists_made (F : FeatureList) (json : JsonObject) (s : Flips)
    (hw : ∀ obj, experiments json = some obj → WellFormed F obj) :
    ∃ updated, F.updatedLists json s = some updated ∧ Made F json s updated := by
  rw [updatedLists]
  cases hv : json.value "experimentalFeatures" with
  | none =>
    have he : experiments json = none := by rw [experiments, hv, Option.bind_none]
    exact ⟨_, rfl, by simp, by simp [he], fun id _ => mem_overwritten_on, fun id => mem_overwritten_off,
      nodup_overwritten_on, nodup_overwritten_off, fun id _ hb h => not_asked_both hb
        ⟨mem_overwritten_on.mp h.1, mem_overwritten_off.mp h.2⟩⟩
  | some value =>
    have he : experiments json = value.object? := by rw [experiments, hv, Option.bind_some]
    dsimp only
    rw [parseExperimentalFeatures]
    cases ho : value.object? with
    | none => exact ⟨_, rfl, made_of_none (he.trans ho) rfl⟩
    | some obj =>
      have hobj : experiments json = some obj := he.trans ho
      obtain ⟨parsed, hp, h⟩ := exists_parsed [] (keys obj) F.experimentalFeatureIds (List.nil_append _).symm (by simp)
        (hw obj hobj).valid (hw obj hobj).experimental (show ∀ write ∈ ([] : List SettingWrite), _ by simp)
      rw [List.length_nil] at hp
      exact ⟨_, by dsimp only; rw [hp, Option.map_some], made_of_parsed hobj (hw obj hobj) h⟩

end Lists

section Reactions

/-- What the features make of the lists when they are told of them: they put what they need on the list of those that
are flipped on, and leave it when they miss something. -/
structure Follows (F : FeatureList) (s t : Flips) : Prop where
  off : t.off = s.off
  added : ∀ id ∈ t.on, id ∈ s.on ∨ F.flippableOn id = true ∧ ∃ other, id ∈ F.dependencies other
  dropped : ∀ id ∈ s.on, id ∈ t.on ∨ F.dependencies id ≠ []

lemma Follows.refl (s : Flips) : Follows F s s := ⟨rfl, fun _ h => Or.inl h, fun _ h => Or.inl h⟩

lemma Follows.trans (h : Follows F s t) (h' : Follows F t u) : Follows F s u where
  off := h'.off.trans h.off
  added id hid := (h'.added id hid).elim (h.added id) Or.inr
  dropped id hid := (h.dropped id hid).elim (h'.dropped id) Or.inr

lemma maybeFlipOnOrOff_follows {setOn : List String → Flips → Option Flips}
    (h : ∀ flips s t, setOn flips s = some t → Follows F (s.withOn flips) t)
    (ht : F.maybeFlipOnOrOff setOn id s = some t) : Follows F s t := by
  rw [maybeFlipOnOrOff] at ht
  dsimp only at ht
  split_ifs at ht with hl hd hn hf he
  · have hw : Follows F s (s.withOn (s.on.filter (· ≠ id))) := by
      obtain ⟨-, d, hd, -⟩ := hd
      refine ⟨rfl, fun x hx => Or.inl (List.mem_filter.mp hx).1, fun x hx => ?_⟩
      by_cases he : x = id
      · exact Or.inr (he ▸ List.ne_nil_of_mem hd)
      · exact Or.inl (List.mem_filter.mpr ⟨hx, decide_eq_true he⟩)
    exact hw.trans (h _ _ _ ht)
  · obtain rfl := Option.some.inj ht
    exact Follows.refl s
  · obtain rfl := Option.some.inj ht
    exact ⟨rfl, fun _ h => Or.inl h, fun _ h => Or.inl h⟩
  · obtain rfl := Option.some.inj ht
    exact ⟨rfl, fun _ h => Or.inl h, fun _ h => Or.inl h⟩
  · obtain rfl := Option.some.inj ht
    exact ⟨rfl, fun _ h => Or.inl h, fun _ h => Or.inl h⟩
  · obtain ⟨u, hu, rfl⟩ := Option.map_eq_some_iff.mp ht
    have hfu := h _ _ _ hu
    have hw : Follows F s u := by
      refine ⟨hfu.off, fun x hx => ?_, fun x hx => hfu.dropped x (mem_appendMissing.mpr (Or.inl hx))⟩
      rcases hfu.added x hx with hx | hx
      · rcases mem_appendMissing.mp hx with hx | hx
        · exact Or.inl hx
        · refine Or.inr ⟨?_, id, (List.mem_filter.mp hx).1⟩
          by_contra hne
          exact hf ⟨x, hx, by simpa using hne⟩
      · exact Or.inr hx
    split_ifs
    · exact ⟨hw.off, hw.added, hw.dropped⟩
    · exact hw

lemma emitChanged_follows {f : String → Flips → Option Flips} (h : ∀ id s t, f id s = some t → Follows F s t)
    {ids : List String} (ht : emitChanged f ids s = some t) : Follows F s t := by
  induction ids generalizing s with
  | nil =>
    obtain rfl := Option.some.inj ht
    exact Follows.refl s
  | cons id ids ih =>
    obtain ⟨u, hu, ht⟩ := Option.bind_eq_some_iff.mp ht
    exact (h id s u hu).trans (ih ht)

/-- A slot, by induction on how deep signals are nested. -/
lemma slot_follows (ht : F.slot n id s = some t) : Follows F s t := by
  induction n generalizing id s t with
  | zero => cases ht
  | succ n ih =>
    rw [slot_succ] at ht
    apply maybeFlipOnOrOff_follows _ ht
    intro flips s t hset
    rw [setFeaturesFlippedOn] at hset
    split_ifs at hset with he
    · obtain rfl := Option.some.inj hset
      rw [withOn, ← he]
      exact Follows.refl s
    · exact emitChanged_follows (fun _ _ _ h => ih h) hset

lemma setFeaturesFlippedOn_follows {flips : List String} (ht : F.setFeaturesFlippedOn n flips s = some t) :
    Follows F (s.withOn flips) t := by
  rw [setFeaturesFlippedOn] at ht
  split_ifs at ht with he
  · obtain rfl := Option.some.inj ht
    rw [withOn, ← he]
    exact Follows.refl s
  · exact emitChanged_follows (fun _ _ _ h => slot_follows h) ht

lemma setFeaturesFlippedOff_off {flips : List String} (ht : F.setFeaturesFlippedOff n flips s = some t) :
    t.off = flips := by
  rw [setFeaturesFlippedOff] at ht
  split_ifs at ht with he
  · obtain rfl := Option.some.inj ht
    rw [off, he, Option.getD_some]
  · exact (emitChanged_follows (fun _ _ _ h => slot_follows h) ht).off

end Reactions

/-- What is asked of the lists that are left by a reply. -/
structure Asked (F : FeatureList) (json : JsonObject) (s t : Flips) (writes : List SettingWrite) : Prop where
  disjoint : ∀ id, ¬ (id ∈ t.on ∧ id ∈ t.off)
  nodup : t.on.Nodup ∧ t.off.Nodup
  experiment : ∀ id ∈ F.experimentalFeatureIds, id ∈ t.on ↔ Listed json id
  writes : ∀ write ∈ writes, write.feature ∈ F.experimentalFeatureIds
  feature : ∀ id ∈ F.ids, id ∉ F.experimentalFeatureIds →
    (id ∈ t.on ↔ AskedOn F json s id) ∧ (id ∈ t.off ↔ AskedOff F json s id)

/-- A well-formed reply makes the lists that it asks for, and the features that are told of them follow them. -/
theorem updateFeatureList_made (F : FeatureList) (fromJson : Bytes → Option JsonObject) (data : Bytes) (s : Flips)
    (hw : ∀ obj, experiments ((fromJson data).getD []) = some obj → WellFormed F obj) :
    ∃ updated, F.updatedLists ((fromJson data).getD []) s = some updated ∧
      Made F ((fromJson data).getD []) s updated ∧
      ∀ n t writes, F.updateFeatureList n fromJson data s = some (t, writes) → writes = updated.writes ∧
        t.off = updated.featuresToToggleOff ∧
        (∀ id ∈ t.on, id ∈ updated.featuresToToggleOn ∨
          F.flippableOn id = true ∧ ∃ other, id ∈ F.dependencies other) ∧
        ∀ id ∈ updated.featuresToToggleOn, id ∈ t.on ∨ F.dependencies id ≠ [] := by
  obtain ⟨updated, hu, hm⟩ := exists_made F ((fromJson data).getD []) s hw
  refine ⟨updated, hu, hm, fun n t writes ht => ?_⟩
  rw [updateFeatureList, hu, Option.bind_some] at ht
  obtain ⟨u, hoff, ht⟩ := Option.bind_eq_some_iff.mp ht
  obtain ⟨v, hon, he⟩ := Option.map_eq_some_iff.mp ht
  cases he
  have hf := setFeaturesFlippedOn_follows hon
  have hu : u.off = updated.featuresToToggleOff := setFeaturesFlippedOff_off hoff
  exact ⟨rfl, hf.off.trans hu, hf.added, hf.dropped⟩

/-- An experimental feature and a client that has no other. -/
def oneExperiment : FeatureList where
  ids := ["experiment"]
  flippableOn _ := true
  flippableOff _ := true
  dependencies _ := []
  callback _ := false
  experimentalFeatureIds := ["experiment"]
  rank _ := 0
  mem_of_dependency := by simp
  rank_lt := by simp
  experimental := by simp

/-- The document of an empty object, and of one that lists the experimental feature. -/
def experimentDocuments (data : Bytes) : Option JsonObject :=
  if data = [0x7b, 0x7d] then some []
  else some [("experimentalFeatures", .object [("experiment", .object [])])]

/-- Two experimental features, and two others, of which one depends on the other. -/
def twoExperiments : FeatureList where
  ids := ["appReview", "experiment", "splitTunnel", "trial"]
  flippableOn _ := true
  flippableOff _ := true
  dependencies id := if id = "splitTunnel" then ["appReview"] else []
  callback _ := false
  experimentalFeatureIds := ["experiment", "trial"]
  rank id := if id = "splitTunnel" then 1 else 0
  mem_of_dependency id d hd := by
    split_ifs at hd
    · simp_all
    · cases hd
  rank_lt id d hd := by
    split_ifs at hd
    · simp_all
    · cases hd
  experimental := by simp

/-- A reply with features to flip, and with experiments, the last of which is none. -/
def overwriting : JsonObject :=
  [("featuresOverwrite", .object [("appReview", .bool false), ("splitTunnel", .bool true), ("trial", .bool true)]),
    ("experimentalFeatures", .object [("experiment", .object []), ("trial", .object []), ("unknown", .object [])])]

def flipped : Flips where
  featuresFlippedOn := some ["appReview", "trial"]
  featuresFlippedOff := some ["experiment"]
  state id := if id = "experiment" then .FlippedOff else if id = "splitTunnel" then .DefaultValue else .FlippedOn

theorem updateFeatureList_experiments :
    ∃ updated, twoExperiments.updatedLists overwriting flipped = some updated ∧
      Made twoExperiments overwriting flipped updated ∧
      ∀ n t writes, twoExperiments.updateFeatureList n (fun _ => some overwriting) [] flipped = some (t, writes) →
        writes = updated.writes ∧ t.off = updated.featuresToToggleOff ∧
        (∀ id ∈ t.on, id ∈ updated.featuresToToggleOn ∨
          twoExperiments.flippableOn id = true ∧ ∃ other, id ∈ twoExperiments.dependencies other) ∧
        ∀ id ∈ updated.featuresToToggleOn, id ∈ t.on ∨ twoExperiments.dependencies id ≠ [] :=
  updateFeatureList_made twoExperiments (fun _ => some overwriting) [] flipped fun obj ho => by
    obtain rfl : [("experiment", .object []), ("trial", .object []), ("unknown", .object [])] = obj :=
      Option.some.inj ho
    have hk : keys [("experiment", JsonValue.object []), ("trial", .object []), ("unknown", .object [])] =
        ["experiment", "trial", "unknown"] := by decide
    refine ⟨fun key hm => ?_, fun key hm hv => ?_⟩
    · rw [hk] at hm
      obtain rfl | rfl := List.mem_pair.mp hm
      · exact ⟨by decide, [], rfl⟩
      · exact ⟨by decide, [], rfl⟩
    · rw [hk] at hm
      rcases List.mem_cons.mp hm with rfl | hm
      · decide
      · obtain rfl | rfl := List.mem_pair.mp hm
        · decide
        · exact absurd hv.1 (by decide)

/-- A reply without an object of experimental features leaves them as they were. -/
theorem not_asked_empty : ∃ t writes, oneExperiment.updateFeatureList 1 experimentDocuments [0x7b, 0x7d]
      { featuresFlippedOn := some ["experiment"], state := fun _ => .FlippedOn } = some (t, writes) ∧
    ¬ Asked oneExperiment ((experimentDocuments [0x7b, 0x7d]).getD [])
      { featuresFlippedOn := some ["experiment"], state := fun _ => .FlippedOn } t writes := by
  refine ⟨_, _, rfl, fun h => ?_⟩
  obtain ⟨obj, -, ho, -⟩ := (h.experiment "experiment" (by decide)).mp (by decide)
  cases ho

end VpnClient.Features.FeatureList
