import VpnClient.Addons.AddonManager

/-! What the manager holds once its tasks have run: add-ons of the last index, in the versions it lists. -/

namespace VpnClient.Addons.AddonManager

open Ipc (Bytes JsonObject)
open Library.Runs Library.Tables Tasks

/-- The manager holds what the last index lists, as far as it could be loaded. -/
structure Settled (formats : Formats) (s : AddonManager) : Prop where
  known : ∀ addonId addonData, s.addons.lookup addonId = some addonData → ∃ a ∈ s.accepted, a.addonId = addonId
  keyed : ∀ addonId addonData addon,
    s.addons.lookup addonId = some addonData → addonData.addon = some addon → addon.id = addonId
  verified : ∀ addonId addonData addon, s.addons.lookup addonId = some addonData → addonData.addon = some addon →
    formats.sha256 addon.resource = addonData.sha256
  listed : ∀ addonId addonData, s.addons.lookup addonId = some addonData → addonData.addon.isSome = true →
    ∃ a ∈ s.accepted, a.addonId = addonId ∧ a.sha256 = addonData.sha256

/-- The manifest in the listed file names the id under which the file is listed. -/
def Published (formats : Formats) (io : Answers) (addonId : String) (sha256 : Bytes) : Prop :=
  ∀ resource, formats.sha256 resource = sha256 → ∀ id ∈ io.create resource, id = addonId

/-- The last index lists the version, or another one of the add-on that one of the tasks downloads. -/
def Wanted (tasks : List AddonTask) (addonId : String) (sha256 : Bytes) (s : AddonManager) : Prop :=
  ∃ a ∈ s.accepted, a.addonId = addonId ∧ (a.sha256 = sha256 ∨ .addon addonId a.sha256 ∈ tasks)

variable (formats : Formats)

/-- What the index lists is named in its manifest as it is listed, and the version a download leaves, be it the one
it has stored or, if it fails, the one from before, is wanted. -/
def Fresh (s : AddonManager) : Event → Prop
  | .refreshAddons | .scheduleOther | .functionEnded | .reset _ => True
  | .updateIndex _ index _ io | .indexEnded _ index _ io =>
    ∀ a ∈ AddonIndex.listed formats index, Published formats io a.addonId a.sha256
  | .downloadEnded data io => ∀ addonId sha256, s.queue.runningTask = some (.addon addonId sha256) →
    (data = none → ∀ addonData, s.addons.lookup addonId = some addonData → addonData.addon.isSome = true →
      s.Wanted s.queue.tasks addonId addonData.sha256) ∧
    ∀ bytes, data = some bytes → formats.sha256 bytes = sha256 →
      (io.getDirectory && io.writes (fileName addonId)) = true →
      s.Wanted s.queue.tasks addonId sha256 ∧ Published formats io addonId sha256

/-- What holds while the entries of `rest` are still to be looked at. -/
structure Consistent (rest : List AddonData) (s : AddonManager) : Prop where
  known : ∀ addonId addonData, s.addons.lookup addonId = some addonData → ∃ a ∈ s.accepted, a.addonId = addonId
  loaded : ∀ addonId addonData addon, s.addons.lookup addonId = some addonData → addonData.addon = some addon →
    addon.id = addonId ∧ formats.sha256 addon.resource = addonData.sha256 ∧
      ((∃ a ∈ rest, a.addonId = addonId) ∨ s.Wanted s.queue.pending addonId addonData.sha256)

variable {formats} {io : Answers} {s t : AddonManager} {a : AddonData} {rest addons : List AddonData}
  {addonId : String} {sha256 : Bytes} {addonData : AddonData} {tasks tasks' : List AddonTask}

lemma Wanted.mono (h : s.Wanted tasks addonId sha256) (ha : t.accepted = s.accepted)
    (ht : ∀ addonId sha256, .addon addonId sha256 ∈ tasks → .addon addonId sha256 ∈ tasks') :
    t.Wanted tasks' addonId sha256 := by
  obtain ⟨a, hm, hi, hs⟩ := h
  exact ⟨a, ha ▸ hm, hi, hs.imp_right (ht _ _)⟩

lemma Consistent.mono (h : Consistent formats rest s) (ht : t.addons = s.addons) (ha : t.accepted = s.accepted)
    (hp : ∀ addonId sha256, .addon addonId sha256 ∈ s.queue.pending → .addon addonId sha256 ∈ t.queue.pending) :
    Consistent formats rest t where
  known addonId addonData hl := ha ▸ h.known addonId addonData (ht ▸ hl)
  loaded addonId addonData addon hl hs := by
    obtain ⟨hi, hv, hw⟩ := h.loaded addonId addonData addon (ht ▸ hl) hs
    exact ⟨hi, hv, hw.imp_right (·.mono ha hp)⟩

lemma Consistent.insert (h : Consistent formats rest s) (hk : ∃ a ∈ s.accepted, a.addonId = addonId)
    (hl : ∀ addon, addonData.addon = some addon → addon.id = addonId ∧
      formats.sha256 addon.resource = addonData.sha256 ∧ s.Wanted s.queue.pending addonId addonData.sha256) :
    Consistent formats rest (s.insert addonId addonData) := by
  constructor
  · intro id data hd
    by_cases he : id = addonId
    · exact he ▸ hk
    · exact h.known id data ((AList.lookup_insert_ne he).symm.trans hd)
  · intro id data addon hd ha
    by_cases he : id = addonId
    · subst he
      obtain rfl : addonData = data := Option.some.inj ((AList.lookup_insert _).symm.trans hd)
      obtain ⟨hi, hv, hw⟩ := hl addon ha
      exact ⟨hi, hv, .inr hw⟩
    · exact h.loaded id data addon ((AList.lookup_insert_ne he).symm.trans hd) ha

lemma lookup_of_registerResource {resource : Bytes} (h : s.registerResource io addonId = some resource) :
    s.directory.lookup (fileName addonId) = some resource := by
  rw [registerResource] at h
  split at h
  · exact h
  · cases h

lemma sha256_of_validates (h : s.validates formats io addonId sha256 = true) {resource : Bytes}
    (hl : s.directory.lookup (fileName addonId) = some resource) : formats.sha256 resource = sha256 := by
  rw [validates, AddonDirectory.readFile, hl] at h
  split at h
  · cases h
  · next addonFileContents hr =>
    split at hr
    · cases hr
      exact beq_iff_eq.mp h
    · cases hr

lemma validateAndLoad_eq (hn : addonId ∉ s.addons) (checkSha256 : Bool) (hc : checkSha256 = false →
      ∀ bytes, s.directory.lookup (fileName addonId) = some bytes → formats.sha256 bytes = sha256)
    (hp : Published formats io addonId sha256) :
    ∃ addonData, (s.validateAndLoad formats io addonId sha256 checkSha256).1 = s.insert addonId addonData ∧
      (addonData.addon = none ∧ (s.validateAndLoad formats io addonId sha256 checkSha256).2 = false ∨
        ∃ resource, addonData = ⟨sha256, addonId, some ⟨addonId, resource⟩⟩ ∧ formats.sha256 resource = sha256) := by
  rw [validateAndLoad, if_neg hn]
  dsimp only
  have hi : ∀ data data', (s.insert addonId data).insert addonId data' = s.insert addonId data' := by
    intro data data'
    simp only [AddonManager.insert, AList.insert_insert]
  rw [hi]
  split
  · exact ⟨_, rfl, .inl ⟨rfl, rfl⟩⟩
  · next hv =>
    cases hr : (s.insert addonId { sha256, addonId, addon := none }).registerResource io addonId with
    | none => exact ⟨_, rfl, .inl ⟨rfl, rfl⟩⟩
    | some resource =>
      have hl := lookup_of_registerResource hr
      have hs : formats.sha256 resource = sha256 := by
        cases checkSha256 with
        | false => exact hc rfl resource hl
        | true =>
          simp only [Bool.true_and, Bool.or_eq_true, Bool.not_eq_true', not_or, Bool.not_eq_false] at hv
          exact sha256_of_validates hv.2 hl
      simp only [loadManifest]
      cases hm : io.create resource with
      | none => exact ⟨_, rfl, .inl ⟨rfl, rfl⟩⟩
      | some id =>
        obtain rfl : id = addonId := hp resource hs id hm
        refine ⟨⟨sha256, id, some ⟨id, resource⟩⟩, ?_, .inr ⟨resource, rfl, hs⟩⟩
        simp only [hi]
        simp only [AddonManager.insert, AList.lookup_insert, Option.getD_some]

lemma Consistent.validateAndLoad (h : Consistent formats rest s) (hn : addonId ∉ s.addons) (checkSha256 : Bool)
    (hc : checkSha256 = false →
      ∀ bytes, s.directory.lookup (fileName addonId) = some bytes → formats.sha256 bytes = sha256)
    (hp : Published formats io addonId sha256) (hw : s.Wanted s.queue.pending addonId sha256) :
    Consistent formats rest (s.validateAndLoad formats io addonId sha256 checkSha256).1 := by
  obtain ⟨addonData, he, hd⟩ := validateAndLoad_eq hn checkSha256 hc hp
  obtain ⟨a, hm, hi, -⟩ := id hw
  rw [he]
  refine h.insert ⟨a, hm, hi⟩ ?_
  intro addon ha
  rcases hd with ⟨hd, -⟩ | ⟨resource, rfl, hr⟩
  · rw [hd] at ha
    cases ha
  · obtain rfl : (⟨addonId, resource⟩ : Addon) = addon := Option.some.inj ha
    exact ⟨rfl, hr, hw⟩

lemma Consistent.tail (h : Consistent formats (a :: rest) s)
    (hw : ∀ addonData, s.addons.lookup a.addonId = some addonData → addonData.addon.isSome = true →
      s.Wanted s.queue.pending a.addonId addonData.sha256) : Consistent formats rest s where
  known := h.known
  loaded addonId addonData addon hl hs := by
    obtain ⟨hi, hv, ⟨b, hb, rfl⟩ | hd⟩ := h.loaded addonId addonData addon hl hs
    · rcases List.mem_cons.mp hb with rfl | hb
      · exact ⟨hi, hv, .inr (hw addonData hl (by simp [hs]))⟩
      · exact ⟨hi, hv, .inl ⟨b, hb, rfl⟩⟩
    · exact ⟨hi, hv, .inr hd⟩

lemma Consistent.scheduleTask (h : Consistent formats rest s) (task : AddonTask) :
    Consistent formats rest (s.scheduleTask task) := by
  refine h.mono rfl rfl ?_
  intro addonId sha256 hm
  rw [AddonManager.scheduleTask, TaskQueue.pending_scheduleTask]
  exact List.mem_append_left _ hm

lemma Consistent.fetchAddon {p : AddonManager × Bool} (h : Consistent formats (a :: rest) p.1)
    (ha : a ∈ p.1.accepted) (hp : Published formats io a.addonId a.sha256) :
    Consistent formats rest (fetchAddon formats io p a).1 ∧ (fetchAddon formats io p a).1.accepted = p.1.accepted := by
  have hw : p.1.Wanted p.1.queue.pending a.addonId a.sha256 := ⟨a, ha, rfl, .inl rfl⟩
  rw [AddonManager.fetchAddon]
  obtain ⟨loaded, he⟩ : ∃ loaded, loaded = (if a.addonId ∈ p.1.addons then (p.1, false)
    else p.1.validateAndLoad formats io a.addonId a.sha256 true) := ⟨_, rfl⟩
  rw [← he]
  obtain ⟨hl, hq, hs⟩ : Consistent formats (a :: rest) loaded.1 ∧ loaded.1.accepted = p.1.accepted ∧
      (loaded.2 = true → (loaded.1.addons.lookup a.addonId).map (·.sha256) = some a.sha256) := by
    split at he
    · rw [he]
      exact ⟨h, rfl, by simp⟩
    · next hn =>
      obtain ⟨addonData, hi, hd⟩ := validateAndLoad_eq hn true (by simp) hp
      have hc := h.validateAndLoad hn true (by simp) hp hw
      rw [he]
      refine ⟨hc, by rw [hi]; rfl, ?_⟩
      intro ht
      rcases hd with ⟨-, hf⟩ | ⟨resource, rfl, -⟩
      · simp [hf] at ht
      · rw [hi, AddonManager.insert, AList.lookup_insert]
        rfl
  split
  · next hc =>
    have hc : (loaded.1.addons.lookup a.addonId).map (·.sha256) = some a.sha256 := by
      rcases Bool.or_eq_true_iff.mp hc with hc | hc
      · exact hs hc
      · exact of_decide_eq_true hc
    refine ⟨hl.tail ?_, hq⟩
    intro addonData hd _
    rw [hd] at hc
    exact ⟨a, hq ▸ ha, rfl, .inl (Option.some.inj hc).symm⟩
  · refine ⟨(hl.scheduleTask _).tail ?_, hq⟩
    intro addonData _ _
    refine ⟨a, (hq ▸ ha : a ∈ loaded.1.accepted), rfl, .inr ?_⟩
    rw [AddonManager.scheduleTask, TaskQueue.pending_scheduleTask]
    exact List.mem_append_right _ (List.mem_singleton_self _)

lemma Consistent.fetchAddons {p : AddonManager × Bool} (h : Consistent formats rest p.1)
    (ha : ∀ a ∈ rest, a ∈ p.1.accepted) (hp : ∀ a ∈ rest, Published formats io a.addonId a.sha256) :
    Consistent formats [] (rest.foldl (AddonManager.fetchAddon formats io) p).1 := by
  induction rest generalizing p with
  | nil => exact h
  | cons a rest ih =>
    obtain ⟨hc, hq⟩ := h.fetchAddon (ha a List.mem_cons_self) (hp a List.mem_cons_self)
    exact ih hc (fun b hb => hq ▸ ha b (List.mem_cons_of_mem a hb)) fun b hb => hp b (List.mem_cons_of_mem a hb)

lemma foldl_unloadAndRemove (io : Answers) (s : AddonManager) (ks : List String) :
    (∀ k, (ks.foldl (unloadAndRemove io) s).addons.lookup k = if k ∈ ks then none else s.addons.lookup k) ∧
      (ks.foldl (unloadAndRemove io) s).accepted = s.accepted ∧ (ks.foldl (unloadAndRemove io) s).queue = s.queue := by
  induction ks generalizing s with
  | nil => exact ⟨by simp, rfl, rfl⟩
  | cons k ks ih =>
    obtain ⟨hl, ha, hq⟩ := ih (s.unloadAndRemove io k)
    refine ⟨?_, ha, hq⟩
    intro k'
    rw [List.foldl_cons, hl, unloadAndRemove, removeAddon, unload, lookup_erase]
    by_cases he : k' = k <;> simp [he]

lemma Consistent.removeUnknown (h : Consistent formats [] s) (io : Answers) (addons : List AddonData) :
    Consistent formats addons
      ((s.addonsToBeRemoved addons).foldl (unloadAndRemove io) { s with accepted := addons }) := by
  obtain ⟨hl, ha, -⟩ := foldl_unloadAndRemove io { s with accepted := addons } (s.addonsToBeRemoved addons)
  have hk : ∀ addonId addonData, ((s.addonsToBeRemoved addons).foldl (unloadAndRemove io)
      { s with accepted := addons }).addons.lookup addonId = some addonData →
      s.addons.lookup addonId = some addonData ∧ ∃ a ∈ addons, a.addonId = addonId := by
    intro addonId addonData hd
    rw [hl] at hd
    split at hd
    · cases hd
    · next hn =>
      refine ⟨hd, ?_⟩
      have hm : addonId ∈ s.addons.keys := AList.lookup_isSome.mp (by rw [hd]; rfl)
      simpa [addonsToBeRemoved, hm] using hn
  constructor
  · intro addonId addonData hd
    rw [ha]
    exact (hk addonId addonData hd).2
  · intro addonId addonData addon hd hs
    obtain ⟨hd, hr⟩ := hk addonId addonData hd
    obtain ⟨hi, hv, -⟩ := h.loaded addonId addonData addon hd hs
    exact ⟨hi, hv, .inl hr⟩

lemma Consistent.updateAddonsList (h : Consistent formats [] s)
    (hp : ∀ a ∈ addons, Published formats io a.addonId a.sha256) :
    Consistent formats [] (s.updateAddonsList formats io (some addons)) := by
  have ha := (foldl_unloadAndRemove io { s with accepted := addons } (s.addonsToBeRemoved addons)).2.1
  have hf := (h.removeUnknown io addons).fetchAddons (p := (_, false)) (fun a hm => ha ▸ hm) hp
  simp only [AddonManager.updateAddonsList]
  split
  · exact hf.scheduleTask _
  · exact hf.mono rfl rfl fun _ _ h => h

lemma Consistent.updateIndex (h : Consistent formats [] s) (status : Bool) (index indexSignature : Bytes)
    (hp : ∀ a ∈ AddonIndex.listed formats index, Published formats io a.addonId a.sha256) :
    Consistent formats [] (s.updateIndex formats io status index indexSignature) := by
  rw [AddonManager.updateIndex]
  split
  · exact h.mono rfl rfl fun _ _ h => h
  · cases hu : (AddonIndex.update formats io index indexSignature s.directory).2 with
    | none =>
      simp only [hu, AddonManager.updateAddonsList]
      exact h.mono rfl rfl fun _ _ h => h
    | some addons =>
      simp only [hu]
      obtain rfl := AddonIndex.listed_of_update hu
      exact Consistent.updateAddonsList (h.mono rfl rfl fun _ _ h => h) hp

lemma Consistent.taskCompleted (h : Consistent formats [] s) {task : AddonTask}
    (hr : s.queue.runningTask = some task) (ht : ∀ addonId sha256, task ≠ .addon addonId sha256) :
    Consistent formats [] s.taskCompleted := by
  refine h.mono rfl rfl ?_
  intro addonId sha256 hm
  rw [TaskQueue.pending_eq_cons hr] at hm
  exact (List.mem_cons.mp hm).resolve_left fun he => ht addonId sha256 he.symm

lemma queue_validateAndLoad (checkSha256 : Bool) :
    (s.validateAndLoad formats io addonId sha256 checkSha256).1.queue = s.queue := by
  rw [validateAndLoad]
  split
  · rfl
  · dsimp only
    split
    · rfl
    · split
      · rfl
      · rw [loadManifest]
        split <;> rfl

lemma runningTask_fetchAddon {p : AddonManager × Bool} {task : AddonTask} (h : p.1.queue.runningTask = some task) :
    (fetchAddon formats io p a).1.queue.runningTask = some task := by
  rw [fetchAddon]
  have hl : (if a.addonId ∈ p.1.addons then (p.1, false)
      else p.1.validateAndLoad formats io a.addonId a.sha256 true).1.queue = p.1.queue := by
    split
    · rfl
    · exact queue_validateAndLoad true
  generalize (if a.addonId ∈ p.1.addons then (p.1, false)
    else p.1.validateAndLoad formats io a.addonId a.sha256 true) = loaded at hl ⊢
  split
  · exact hl ▸ h
  · exact TaskQueue.runningTask_scheduleTask (hl ▸ h) _

lemma runningTask_updateIndex {task : AddonTask} (h : s.queue.runningTask = some task) (status : Bool)
    (index indexSignature : Bytes) :
    (s.updateIndex formats io status index indexSignature).queue.runningTask = some task := by
  have hf : ∀ (rest : List AddonData) (p : AddonManager × Bool), p.1.queue.runningTask = some task →
      (rest.foldl (fetchAddon formats io) p).1.queue.runningTask = some task := by
    intro rest
    induction rest with
    | nil => exact fun p hp => hp
    | cons a rest ih => exact fun p hp => ih _ (runningTask_fetchAddon hp)
  rw [AddonManager.updateIndex]
  split
  · exact h
  · cases hu : (AddonIndex.update formats io index indexSignature s.directory).2 with
    | none =>
      simp only [hu, AddonManager.updateAddonsList]
      exact h
    | some addons =>
      simp only [hu, AddonManager.updateAddonsList]
      split
      · exact TaskQueue.runningTask_scheduleTask (hf addons _ (by rw [(foldl_unloadAndRemove ..).2.2]; exact h)) _
      · exact hf addons _ (by rw [(foldl_unloadAndRemove ..).2.2]; exact h)

lemma Consistent.downloaded (h : Consistent formats [] s) (hr : s.queue.runningTask = some (.addon addonId sha256))
    (ha : t.accepted = s.accepted) (hq : t.queue = s.queue)
    (hn : ∀ id ≠ addonId, t.addons.lookup id = s.addons.lookup id)
    (hd : ∀ addonData, t.addons.lookup addonId = some addonData → (∃ a ∈ s.accepted, a.addonId = addonId) ∧
      ∀ addon, addonData.addon = some addon → addon.id = addonId ∧ formats.sha256 addon.resource = addonData.sha256 ∧
        s.Wanted s.queue.tasks addonId addonData.sha256) : Consistent formats [] t.taskCompleted := by
  have hp : t.taskCompleted.queue.pending = s.queue.tasks := by
    rw [AddonManager.taskCompleted, hq, TaskQueue.taskCompleted, TaskQueue.pending_maybeRunTask]
    rfl
  constructor
  · intro id data hl
    by_cases he : id = addonId
    · subst he
      exact ha ▸ (hd data hl).1
    · exact ha ▸ h.known id data ((hn id he).symm.trans hl)
  · intro id data addon hl hs
    by_cases he : id = addonId
    · subst he
      obtain ⟨hi, hv, hw⟩ := (hd data hl).2 addon hs
      exact ⟨hi, hv, .inr (hw.mono ha fun _ _ hm => hp ▸ hm)⟩
    · obtain ⟨hi, hv, ⟨a, hm, -⟩ | ⟨a, hm, hai, hw⟩⟩ := h.loaded id data addon ((hn id he).symm.trans hl) hs
      · exact absurd hm List.not_mem_nil
      · refine ⟨hi, hv, .inr ⟨a, ha ▸ hm, hai, hw.imp_right ?_⟩⟩
        intro ht
        rw [TaskQueue.pending, hr, Option.toList_some, List.singleton_append] at ht
        rw [hp]
        apply (List.mem_cons.mp ht).resolve_left
        rintro heq
        exact he (AddonTask.addon.inj heq).1

lemma lookup_replaced (io : Answers) (s : AddonManager) (addonId id : String) :
    (if addonId ∈ s.addons then s.unloadAndRemove io addonId else s).addons.lookup id =
      if id = addonId then none else s.addons.lookup id := by
  split
  · rw [unloadAndRemove, removeAddon, unload, lookup_erase]
  · next hn =>
    split
    · next he => rw [he, AList.lookup_eq_none.mpr hn]
    · rfl

lemma Consistent.downloadEnded (h : Consistent formats [] s)
    (hr : s.queue.runningTask = some (.addon addonId sha256)) {data : Option Bytes}
    (hf : s.Fresh formats (.downloadEnded data io)) :
    Consistent formats [] (s.downloadEnded formats io data addonId sha256).taskCompleted := by
  obtain ⟨hfn, hfs⟩ := hf addonId sha256 hr
  cases data with
  | none =>
    apply h.downloaded hr rfl rfl (fun _ _ => rfl)
    intro addonData hl
    refine ⟨h.known addonId addonData hl, ?_⟩
    intro addon hs
    obtain ⟨hi, hv, -⟩ := h.loaded addonId addonData addon hl hs
    exact ⟨hi, hv, hfn rfl addonData hl (by rw [hs]; rfl)⟩
  | some bytes =>
    rw [AddonManager.downloadEnded, storeAndLoadAddon]
    have hl := lookup_replaced io s addonId
    have ha : (if addonId ∈ s.addons then s.unloadAndRemove io addonId else s).accepted = s.accepted := by
      split <;> rfl
    have hq : (if addonId ∈ s.addons then s.unloadAndRemove io addonId else s).queue = s.queue := by
      split <;> rfl
    generalize (if addonId ∈ s.addons then s.unloadAndRemove io addonId else s) = r at hl ha hq ⊢
    have hg : Consistent formats [] r.taskCompleted := by
      apply h.downloaded hr ha hq (fun id hn => by rw [hl, if_neg hn])
      intro addonData hs
      rw [hl, if_pos rfl] at hs
      cases hs
    split
    · exact hg
    · next hs =>
      rw [AddonDirectory.writeToFile]
      by_cases hw : AddonDirectory.writable io (fileName addonId) bytes = true
      · rw [if_pos hw]
        obtain ⟨hw, hp⟩ := hfs bytes rfl (not_not.mp hs) (Bool.and_eq_true_iff.mp hw).1
        obtain ⟨addonData, he, hd⟩ := validateAndLoad_eq
          (s := { r with directory := r.directory.insert (fileName addonId) bytes })
          (AList.lookup_eq_none.mp ((hl addonId).trans (if_pos rfl))) false
          (fun _ bytes' hb => by
            rw [AList.lookup_insert] at hb
            exact Option.some.inj hb ▸ not_not.mp hs) hp
        dsimp only
        rw [he]
        refine h.downloaded hr ha hq (fun id hn => ?_) ?_
        · exact (AList.lookup_insert_ne hn).trans ((hl id).trans (if_neg hn))
        · intro data hs
          obtain rfl : addonData = data := Option.some.inj ((AList.lookup_insert _).symm.trans hs)
          obtain ⟨a, hm, hi, ht⟩ := hw
          refine ⟨⟨a, hm, hi⟩, ?_⟩
          intro addon hs
          rcases hd with ⟨hd, -⟩ | ⟨resource, rfl, hv⟩
          · rw [hd] at hs
            cases hs
          · obtain rfl : (⟨addonId, resource⟩ : Addon) = addon := Option.some.inj hs
            exact ⟨rfl, hv, a, hm, hi, ht⟩
      · rw [if_neg hw]
        exact hg

lemma Consistent.step (h : Consistent formats [] s) {e : Event} (hf : s.Fresh formats e) :
    Consistent formats [] (s.step formats e) := by
  cases e with
  | refreshAddons => exact h.scheduleTask _
  | scheduleOther => exact h.scheduleTask _
  | updateIndex status index indexSignature io => exact h.updateIndex status index indexSignature hf
  | indexEnded status index indexSignature io =>
    rw [AddonManager.step]
    split
    · next hr =>
      exact (h.updateIndex status index indexSignature hf).taskCompleted
        (runningTask_updateIndex hr status index indexSignature) (by simp)
    · exact h
  | downloadEnded data io =>
    rw [AddonManager.step]
    split
    · next hr => exact h.downloadEnded hr hf
    · exact h
  | functionEnded =>
    rw [AddonManager.step]
    split
    · next hr => exact Consistent.taskCompleted (h.mono rfl rfl fun _ _ h => h) hr (by simp)
    · next hr => exact h.taskCompleted hr (by simp)
    · exact h
  | reset io =>
    obtain ⟨hl, ha, hq⟩ := foldl_unloadAndRemove io { s with directory := s.directory.reset io } s.addons.keys
    have hn : ∀ k, (s.addons.keys.foldl (unloadAndRemove io)
        { s with directory := s.directory.reset io }).addons.lookup k = none := by
      intro k
      rw [hl]
      split
      · rfl
      · next hk => exact AList.lookup_eq_none.mpr hk
    refine Consistent.scheduleTask ⟨?_, ?_⟩ _
    · intro addonId addonData hd
      rw [hn] at hd
      cases hd
    · intro addonId addonData addon hd
      rw [hn] at hd
      cases hd

lemma Consistent.create {directory : AddonDirectory}
    (hp : ∀ addons, AddonIndex.getOnDiskAddonsList formats io directory = some addons →
      ∀ a ∈ addons, Published formats io a.addonId a.sha256) : Consistent formats [] (create formats io directory) := by
  have he : Consistent formats [] { directory } := ⟨by simp, by simp⟩
  rw [AddonManager.create]
  cases hd : AddonIndex.getOnDiskAddonsList formats io directory with
  | none => exact he
  | some addons => exact he.updateAddonsList (hp addons hd)

lemma Consistent.settled (h : Consistent formats [] s) (hp : s.queue.pending = []) : Settled formats s where
  known := h.known
  keyed addonId addonData addon hl hs := (h.loaded addonId addonData addon hl hs).1
  verified addonId addonData addon hl hs := (h.loaded addonId addonData addon hl hs).2.1
  listed addonId addonData hl hs := by
    obtain ⟨addon, hs⟩ := Option.isSome_iff_exists.mp hs
    obtain ⟨-, -, ⟨a, hm, -⟩ | ⟨a, hm, hi, hv | ht⟩⟩ := h.loaded addonId addonData addon hl hs
    · exact absurd hm List.not_mem_nil
    · exact ⟨a, hm, hi, hv⟩
    · rw [hp] at ht
      exact absurd ht List.not_mem_nil

/-- Once no task is left, the manager holds what the last index lists, in every run in which manifests name what the
index lists, and downloads leave what is wanted. -/
theorem settled_of_fresh (formats : Formats) (io : Answers) (directory : AddonDirectory)
    (hd : ∀ addons, AddonIndex.getOnDiskAddonsList formats io directory = some addons →
      ∀ a ∈ addons, Published formats io a.addonId a.sha256)
    (events : List Event) (hm : Meets (step formats) (Fresh formats) (create formats io directory) events)
    (hp : (run (step formats) (create formats io directory) events).queue.pending = []) :
    Settled formats (run (step formats) (create formats io directory) events) := by
  have hc := hm.invariant (P := Consistent formats []) (fun _ _ h hf => h.step hf) (Consistent.create hd)
  exact hc.settled hp

def ascii (s : String) : Bytes := s.toList.map fun c => c.toNat.toUInt8

def sha256OfA : String := "ca978112ca1bbdcafac231b39a23dc4da786eff8147c4e72b9807785afee48bb"

def sha256OfB : String := "3e23e8160039594a33894f6564e1b1348bbd7a0088d42c4acb73eeaed59c009d"

/-- An index that lists an add-on, or none. -/
def indexText (sha256 : Option String) : Bytes :=
  ascii "\x7b\"api_version\":\"0.1\",\"addons\":[" ++
    sha256.toList.flatMap (fun sha256 =>
      ascii "\x7b\"id\":\"guide\",\"sha256\":\"" ++ ascii sha256 ++ ascii "\"\x7d") ++
    ascii "]\x7d"

def indexObject (sha256 : Option String) : JsonObject :=
  [("api_version", .string "0.1"), ("addons", .array (sha256.toList.map fun sha256 =>
    .object [("id", .string "guide"), ("sha256", .string sha256)]))]

/-- The hashes of two files, and what three indexes are read as. -/
def sample : Formats where
  sha256 file :=
    if file = ascii "a" then AddonIndex.fromHex sha256OfA
    else if file = ascii "b" then AddonIndex.fromHex sha256OfB
    else []
  fromJson index := [none, some sha256OfA, some sha256OfB].findSome? fun sha256 =>
    if index = indexText sha256 then some (indexObject sha256) else none

def answers (registers : Bool) : Answers where
  registerResource _ := registers
  create _ := some "guide"

def indexEnded (sha256 : Option String) (io : Answers) : Event := .indexEnded true (indexText sha256) [] io

theorem settled_guide : Settled sample (run (step sample) (create sample (answers true) ∅)
    [.refreshAddons, indexEnded (some sha256OfA) (answers true), .downloadEnded (some (ascii "a")) (answers true),
      .functionEnded]) := by
  have hp : ∀ sha256, Published sample (answers true) "guide" sha256 := fun _ _ _ _ h => (Option.some.inj h).symm
  apply settled_of_fresh sample (answers true) ∅
  · intro addons h
    have hn : AddonIndex.getOnDiskAddonsList sample (answers true) ∅ = none := rfl
    rw [hn] at h
    cases h
  · refine ⟨trivial, ?_, ?_, trivial, trivial⟩
    · intro a ha
      have hl : AddonIndex.listed sample (indexText (some sha256OfA)) =
        [⟨AddonIndex.fromHex sha256OfA, "guide", none⟩] := by decide +kernel
      rw [hl] at ha
      obtain rfl := List.mem_singleton.mp ha
      exact hp _
    · intro addonId sha256 hr
      have ht : some (AddonTask.addon "guide" (AddonIndex.fromHex sha256OfA)) = some (.addon addonId sha256) :=
        .trans (by decide +kernel) hr
      obtain ⟨rfl, rfl⟩ := AddonTask.addon.inj (Option.some.inj ht)
      refine ⟨by simp, ?_⟩
      intro bytes _ _ _
      exact ⟨⟨⟨AddonIndex.fromHex sha256OfA, "guide", none⟩, by decide +kernel, rfl, .inl rfl⟩, hp _⟩
  · decide +kernel

/-- A second index drops the add-on the first one lists. -/
def dropped : List Event :=
  [.refreshAddons, .refreshAddons, indexEnded (some sha256OfA) (answers false), indexEnded none (answers false),
    .downloadEnded (some (ascii "a")) (answers false), .functionEnded]

/-- A second index lists another version, whose download fails. -/
def failed : List Event :=
  [.refreshAddons, indexEnded (some sha256OfA) (answers true), .downloadEnded (some (ascii "a")) (answers true),
    .functionEnded, .refreshAddons, indexEnded (some sha256OfB) (answers true), .downloadEnded none (answers true),
    .functionEnded]

/-- An add-on that was dropped is there again after its download, and one that could not be downloaded is still there
in the version that is no longer listed. -/
theorem unsettled_addons :
    ((run (step sample) (create sample (answers false) ∅) dropped).queue.pending = [] ∧
      ¬Settled sample (run (step sample) (create sample (answers false) ∅) dropped)) ∧
    (run (step sample) (create sample (answers true) ∅) failed).queue.pending = [] ∧
      ¬Settled sample (run (step sample) (create sample (answers true) ∅) failed) := by
  have hd : (run (step sample) (create sample (answers false) ∅) dropped).queue.pending = [] ∧
      (run (step sample) (create sample (answers false) ∅) dropped).addons.lookup "guide" =
        some ⟨AddonIndex.fromHex sha256OfA, "guide", none⟩ ∧
      (run (step sample) (create sample (answers false) ∅) dropped).accepted = [] := by decide +kernel
  have hf : (run (step sample) (create sample (answers true) ∅) failed).queue.pending = [] ∧
      (run (step sample) (create sample (answers true) ∅) failed).addons.lookup "guide" =
        some ⟨AddonIndex.fromHex sha256OfA, "guide", some ⟨"guide", ascii "a"⟩⟩ ∧
      ¬∃ a ∈ (run (step sample) (create sample (answers true) ∅) failed).accepted,
        a.addonId = "guide" ∧ a.sha256 = AddonIndex.fromHex sha256OfA := by decide +kernel
  refine ⟨⟨hd.1, ?_⟩, hf.1, ?_⟩
  · intro h
    obtain ⟨a, ha, -⟩ := h.known "guide" _ hd.2.1
    rw [hd.2.2] at ha
    cases ha
  · intro h
    exact hf.2.2 (h.listed "guide" _ hf.2.1 rfl)

end VpnClient.Addons.AddonManager
