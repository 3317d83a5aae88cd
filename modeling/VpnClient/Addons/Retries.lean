import VpnClient.Addons.IndexedAddons

/-! What bytes with another hash leave of an add-on, and whether a refresh downloads what is still missing. -/

namespace VpnClient.Addons

open Ipc (Bytes JsonObject)
open Library.Runs Library.Tables Tasks

namespace AddonIndex

/-- The index is written to the directory, with its signature if that is needed. -/
def Writable (io : Answers) (index indexSignature : Bytes) : Prop :=
  AddonDirectory.writable io indexFilename index = true ∧
    (io.signatureVerificationNeeded = true →
      AddonDirectory.writable io indexSignatureFilename indexSignature = true)

instance (io : Answers) (index indexSignature : Bytes) : Decidable (Writable io index indexSignature) :=
  inferInstanceAs (Decidable (_ ∧ (_ → _)))

variable {formats : Formats} {io : Answers} {index indexSignature : Bytes} {dir : AddonDirectory} {obj : JsonObject}

lemma written_iff_writable :
    (write io index indexSignature dir).2 = true ↔ Writable io index indexSignature := by
  rw [write, Writable, AddonDirectory.writeToFile]
  by_cases hi : AddonDirectory.writable io indexFilename index = true
  · rw [if_pos hi]
    dsimp only
    rw [AddonDirectory.writeToFile]
    by_cases hn : io.signatureVerificationNeeded = true
    · rw [if_pos hn]
      by_cases hw : AddonDirectory.writable io indexSignatureFilename indexSignature = true
      · simp [hw, hi]
      · simp [hw, hn]
    · simp [hn, hi]
  · rw [if_neg hi]
    simp [hi]

/-- An index that is valid is passed on if it is not the one of the directory and can be written there. -/
lemma update_of_valid (h : validate formats io index indexSignature = some obj) :
    (update formats io index indexSignature dir).2 =
      if read io dir ≠ some (index, indexSignature) ∧ Writable io index indexSignature then
        some (extractAddonsFromIndex obj)
      else none := by
  rw [update]
  by_cases hr : read io dir = some (index, indexSignature)
  · rw [if_pos hr, if_neg fun hc => hc.1 hr]
  · rw [if_neg hr, h]
    dsimp only
    by_cases hw : Writable io index indexSignature
    · rw [if_pos (written_iff_writable.mpr hw), if_pos ⟨hr, hw⟩]
    · rw [if_neg fun h => hw (written_iff_writable.mp h), if_neg fun hc => hw hc.2]

end AddonIndex

namespace AddonManager

/-- The add-on that is loaded under the id, and its file. -/
def stored (addonId : String) (s : AddonManager) : Option Addon × Option Bytes :=
  ((s.addons.lookup addonId).bind (·.addon), s.directory.lookup (fileName addonId))

/-- The version that the manager has for the id. -/
def version (addonId : String) (s : AddonManager) : Option Bytes := (s.addons.lookup addonId).map (·.sha256)

/-- The manager has the version that the index lists, or a task is to download it. -/
def Covered (s : AddonManager) (a : AddonData) : Prop :=
  s.version a.addonId = some a.sha256 ∨ .addon a.addonId a.sha256 ∈ s.queue.pending

instance (s : AddonManager) (a : AddonData) : Decidable (s.Covered a) := inferInstanceAs (Decidable (_ ∨ _))

/-- There is nothing to lose under the id: no entry, or one without an add-on and without a file that can be removed. -/
def Expendable (io : Answers) (addonId : String) (s : AddonManager) : Prop :=
  addonId ∈ s.addons → (s.addons.lookup addonId).bind (·.addon) = none ∧
    ((io.getDirectory && io.removes (fileName addonId)) = true → s.directory.lookup (fileName addonId) = none)

variable {formats : Formats} {io : Answers} {s : AddonManager} {a b : AddonData} {addonId id : String}
  {data sha256 hash : Bytes} {addonData : AddonData}

lemma stored_unloadAndRemove : (s.unloadAndRemove io addonId).stored addonId =
    (none, if io.getDirectory && io.removes (fileName addonId) then none
      else s.directory.lookup (fileName addonId)) := by
  rw [stored, unloadAndRemove, removeAddon, unload, AddonDirectory.deleteFile]
  dsimp only
  rw [AList.lookup_erase, Option.bind_none]
  split
  · rw [AList.lookup_erase]
  · rfl

lemma stored_storeAndLoadAddon_iff (h : formats.sha256 data ≠ sha256) :
    (s.storeAndLoadAddon formats io data addonId sha256).stored addonId = s.stored addonId ↔
      s.Expendable io addonId := by
  rw [storeAndLoadAddon, Expendable, if_pos h]
  by_cases hm : addonId ∈ s.addons
  · rw [if_pos hm, stored_unloadAndRemove, stored, Prod.mk.injEq, eq_comm]
    simp only [hm, forall_const]
    apply and_congr_right
    intro
    by_cases hr : (io.getDirectory && io.removes (fileName addonId)) = true
    · rw [if_pos hr, eq_comm]
      exact ⟨fun he _ => he, fun he => he hr⟩
    · rw [if_neg hr]
      exact ⟨fun _ hc => absurd hc hr, fun _ => rfl⟩
  · rw [if_neg hm]
    exact ⟨fun _ hc => absurd hc hm, fun _ => rfl⟩

lemma version_insert : (s.insert addonId addonData).version id =
    if id = addonId then some addonData.sha256 else s.version id := by
  rw [version, version, AddonManager.insert, lookup_insert]
  split <;> rfl

/-- What is loaded keeps the versions of the entries. -/
lemma version_loadManifest {resource : Bytes} (h : s.version id = some hash) :
    (s.loadManifest io resource).1.version id = some hash := by
  rw [loadManifest]
  cases hc : io.create resource with
  | none => exact h
  | some created =>
    dsimp only
    rw [version_insert]
    split
    · next he =>
      rw [version, he] at h
      obtain ⟨data, hd, hs⟩ := Option.map_eq_some_iff.mp h
      rw [hd, Option.getD_some, hs]
    · exact h

lemma version_validateAndLoad (h : s.version id = some hash) (checkSha256 : Bool) :
    (s.validateAndLoad formats io addonId sha256 checkSha256).1.version id = some hash := by
  rw [validateAndLoad]
  by_cases hm : addonId ∈ s.addons
  · rw [if_pos hm]
    exact h
  · have hne : id ≠ addonId := by
      rintro rfl
      rw [version, AList.lookup_eq_none.mpr hm] at h
      cases h
    have hi : ∀ (t : AddonManager) data, t.version id = some hash → (t.insert addonId data).version id = some hash := by
      intro t data ht
      rw [version_insert, if_neg hne, ht]
    rw [if_neg hm]
    dsimp only
    split
    · exact hi s _ h
    · split
      · exact hi _ _ (hi s _ h)
      · exact version_loadManifest (hi _ _ (hi s _ h))

lemma version_of_validateAndLoad {checkSha256 : Bool}
    (h : (s.validateAndLoad formats io addonId sha256 checkSha256).2 = true) :
    (s.validateAndLoad formats io addonId sha256 checkSha256).1.version addonId = some sha256 := by
  rw [validateAndLoad] at h ⊢
  split at h
  · cases h
  · next hm =>
    rw [if_neg hm]
    dsimp only at h ⊢
    split at h
    · cases h
    · next hc =>
      rw [if_neg hc]
      split at h
      · cases h
      · apply version_loadManifest
        rw [version_insert, if_pos rfl]

lemma Covered.mono (h : s.Covered a) {t : AddonManager} (hv : ∀ hash, s.version a.addonId = some hash →
    t.version a.addonId = some hash) (hq : s.queue.pending ⊆ t.queue.pending) : t.Covered a :=
  h.imp (hv _) (@hq _)

lemma Covered.scheduleTask (h : s.Covered a) (task : AddonTask) : (s.scheduleTask task).Covered a := by
  apply h.mono (t := s.scheduleTask task) fun _ hv => hv
  rw [AddonManager.scheduleTask, TaskQueue.pending_scheduleTask]
  exact List.subset_append_left ..

variable (formats io a) in
/-- An add-on is loaded in the version that is listed, or a task is scheduled for it. -/
lemma fetchAddon_eq (p : AddonManager × Bool) : ∃ t : AddonManager,
    (∀ b, p.1.Covered b → t.Covered b) ∧ ((fetchAddon formats io p a).1 = t ∧ t.version a.addonId = some a.sha256 ∨
      (fetchAddon formats io p a).1 = t.scheduleTask (.addon a.addonId a.sha256)) := by
  by_cases hm : a.addonId ∈ p.1.addons
  · refine ⟨p.1, fun _ => id, ?_⟩
    rw [fetchAddon, if_pos hm]
    split
    · next hv => exact .inl ⟨rfl, of_decide_eq_true hv⟩
    · exact .inr rfl
  · refine ⟨(p.1.validateAndLoad formats io a.addonId a.sha256 true).1, fun b hb => ?_, ?_⟩
    · apply hb.mono fun _ hv => version_validateAndLoad hv true
      rw [queue_validateAndLoad]
      exact List.Subset.refl _
    · rw [fetchAddon, if_neg hm]
      split
      · next hv =>
        left
        refine ⟨rfl, ?_⟩
        obtain hl | hv := Bool.or_eq_true_iff.mp hv
        · exact version_of_validateAndLoad hl
        · exact of_decide_eq_true hv
      · exact .inr rfl

lemma Covered.fetchAddon {p : AddonManager × Bool} (h : p.1.Covered b) : (fetchAddon formats io p a).1.Covered b := by
  obtain ⟨t, ht, he⟩ := fetchAddon_eq formats io a p
  obtain ⟨he, -⟩ | he := he
  · exact he ▸ ht b h
  · exact he ▸ (ht b h).scheduleTask _

lemma covered_fetchAddon {p : AddonManager × Bool} : (fetchAddon formats io p a).1.Covered a := by
  obtain ⟨t, -, he⟩ := fetchAddon_eq formats io a p
  obtain ⟨he, hv⟩ | he := he
  · exact .inl (he ▸ hv)
  · right
    rw [he, AddonManager.scheduleTask, TaskQueue.pending_scheduleTask]
    exact List.mem_append_right _ List.mem_cons_self

lemma covered_fetchAddons {p : AddonManager × Bool} {addons : List AddonData} :
    ∀ a ∈ addons, (addons.foldl (fetchAddon formats io) p).1.Covered a := by
  induction addons using List.reverseRecOn with
  | nil => exact List.forall_mem_nil _
  | append_singleton addons b ih =>
    intro a ha
    rw [List.foldl_append, List.foldl_cons, List.foldl_nil]
    obtain ha | ha := List.mem_append.mp ha
    · exact (ih a ha).fetchAddon
    · obtain rfl := List.mem_singleton.mp ha
      exact covered_fetchAddon

lemma covered_updateAddonsList {addons : List AddonData} :
    ∀ a ∈ addons, (s.updateAddonsList formats io (some addons)).Covered a := by
  intro a ha
  rw [updateAddonsList]
  split
  · exact (covered_fetchAddons a ha).scheduleTask _
  · exact covered_fetchAddons a ha

lemma covered_updateIndex_iff {index indexSignature : Bytes} {obj : JsonObject}
    (h : AddonIndex.validate formats io index indexSignature = some obj) :
    (∀ a ∈ AddonIndex.extractAddonsFromIndex obj, (s.updateIndex formats io true index indexSignature).Covered a) ↔
      AddonIndex.read io s.directory ≠ some (index, indexSignature) ∧ AddonIndex.Writable io index indexSignature ∨
        ∀ a ∈ AddonIndex.extractAddonsFromIndex obj, s.Covered a := by
  rw [updateIndex, if_neg (by simp)]
  dsimp only
  rw [AddonIndex.update_of_valid h]
  by_cases hc : AddonIndex.read io s.directory ≠ some (index, indexSignature) ∧
      AddonIndex.Writable io index indexSignature
  · rw [if_pos hc]
    exact ⟨fun _ => .inl hc, fun _ => covered_updateAddonsList⟩
  · rw [if_neg hc, or_iff_right hc]
    exact Iff.rfl

/-- For bytes that do not match, and for an index that is valid. -/
theorem kept_and_covered_iff (formats : Formats) (io : Answers) (s : AddonManager) :
    (∀ data addonId sha256, formats.sha256 data ≠ sha256 →
      ((s.storeAndLoadAddon formats io data addonId sha256).stored addonId = s.stored addonId ↔
        s.Expendable io addonId)) ∧
    ∀ index indexSignature obj, AddonIndex.validate formats io index indexSignature = some obj →
      ((∀ a ∈ AddonIndex.extractAddonsFromIndex obj, (s.updateIndex formats io true index indexSignature).Covered a) ↔
        AddonIndex.read io s.directory ≠ some (index, indexSignature) ∧ AddonIndex.Writable io index indexSignature ∨
          ∀ a ∈ AddonIndex.extractAddonsFromIndex obj, s.Covered a) :=
  ⟨fun _ _ _ h => stored_storeAndLoadAddon_iff h, fun _ _ _ h => covered_updateIndex_iff h⟩

lemma validate_indexText : AddonIndex.validate sample (answers true) (indexText (some sha256OfA)) [] =
    some (indexObject (some sha256OfA)) := by
  have hi : indexText (some sha256OfA) ≠ indexText none := by decide +kernel
  have hj : sample.fromJson (indexText (some sha256OfA)) = some (indexObject (some sha256OfA)) := by
    simp [sample, hi]
  have hv : AddonIndex.toString (indexObject (some sha256OfA)) "api_version" = AddonIndex.apiVersion ∧
      (AddonIndex.toArray (indexObject (some sha256OfA)) "addons").all AddonIndex.validateSingleAddonIndex = true := by
    decide +kernel
  have hx : AddonIndex.validateIndex sample (indexText (some sha256OfA)) = some (indexObject (some sha256OfA)) := by
    rw [AddonIndex.validateIndex, hj]
    exact if_pos hv
  rw [AddonIndex.validate, hx]
  rfl

theorem kept_and_covered_new : (create sample (answers true) ∅).Expendable (answers true) "guide" ∧
    ∀ a ∈ AddonIndex.extractAddonsFromIndex (indexObject (some sha256OfA)),
      ((create sample (answers true) ∅).updateIndex sample (answers true) true (indexText (some sha256OfA)) []).Covered a := by
  obtain ⟨hk, hc⟩ := kept_and_covered_iff sample (answers true) (create sample (answers true) ∅)
  constructor
  · exact (hk (ascii "c") "guide" (AddonIndex.fromHex sha256OfA) (by decide +kernel)).mp (by decide +kernel)
  · exact (hc _ [] _ validate_indexText).mpr (.inl ⟨by decide +kernel, by decide +kernel⟩)

/-- The first version, and another one for which a task is to run. -/
def outdated : List Event :=
  [.refreshAddons, indexEnded (some sha256OfA) (answers true), .downloadEnded (some (ascii "a")) (answers true),
    .functionEnded, .refreshAddons, indexEnded (some sha256OfB) (answers true)]

/-- The first version could not be downloaded. -/
def missing : List Event :=
  [.refreshAddons, indexEnded (some sha256OfA) (answers true), .downloadEnded none (answers true), .functionEnded]

/-- A corrupt download removes the add-on that it was to replace, and a refresh with the same index does not try again
what could not be downloaded. -/
theorem lost_and_uncovered_addon :
    (∃ data sha256, sample.sha256 data ≠ sha256 ∧
      ((run (step sample) (create sample (answers true) ∅) outdated).storeAndLoadAddon sample (answers true) data "guide"
        sha256).stored "guide" ≠ (run (step sample) (create sample (answers true) ∅) outdated).stored "guide") ∧
    ∃ index obj, AddonIndex.validate sample (answers true) index [] = some obj ∧
      ∃ a ∈ AddonIndex.extractAddonsFromIndex obj,
        ¬((run (step sample) (create sample (answers true) ∅) missing).updateIndex sample (answers true) true index
          []).Covered a := by
  constructor
  · exact ⟨ascii "c", AddonIndex.fromHex sha256OfB, by decide +kernel, by decide +kernel⟩
  · refine ⟨_, _, validate_indexText, ⟨AddonIndex.fromHex sha256OfA, "guide", none⟩, by decide +kernel, ?_⟩
    decide +kernel

end AddonManager

end VpnClient.Addons
