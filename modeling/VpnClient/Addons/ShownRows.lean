import Mathlib.Data.String.Basic
import VpnClient.Addons.AddonModel

/-! When a view shows the enabled add-ons: exactly as long as no notification comes at a moment at which the add-on
does not change. -/

namespace VpnClient.Addons.AddonModel

open Library Library.RowViews Library.Runs

variable {Id : Type}

def rowsOf (entries : List (Id × Option AddonState)) : List Id :=
  entries.filterMap fun e => if isRow e.2 then some e.1 else none

variable {addonId : Id} {a : AddonState} {v : Option AddonState}
  {entries before after : List (Id × Option AddonState)}

lemma rowsOf_append : rowsOf (before ++ after) = rowsOf before ++ rowsOf after := List.filterMap_append

lemma rowsOf_cons_of_row (h : isRow v = true) : rowsOf ((addonId, v) :: entries) = addonId :: rowsOf entries := by
  rw [rowsOf, List.filterMap_cons_some (b := addonId) (by simp [h])]
  rfl

lemma rowsOf_cons_of_not_row (h : isRow v = false) : rowsOf ((addonId, v) :: entries) = rowsOf entries := by
  rw [rowsOf, List.filterMap_cons_none (by simp [h])]
  rfl

lemma length_rowsOf : (rowsOf entries).length = entries.countP fun e => isRow e.2 := by
  induction entries with
  | nil => rfl
  | cons e entries ih =>
    cases h : isRow e.2 with
    | false => simp [rowsOf_cons_of_not_row h, ih, h]
    | true => simp [rowsOf_cons_of_row h, ih, h]

lemma dataOf_eq (row : ℕ) : dataOf entries row = (rowsOf entries)[row]? := by
  induction entries generalizing row with
  | nil => rfl
  | cons e entries ih =>
    rw [dataOf]
    cases h : isRow e.2 with
    | false =>
      rw [rowsOf_cons_of_not_row h]
      exact ih row
    | true =>
      rw [rowsOf_cons_of_row h]
      cases row with
      | zero => rfl
      | succ row => exact ih row

variable [LinearOrder Id] {s : AddonModel Id}

/-- The view has a row for each that is counted, with what is at that row. -/
def Sound (s : AddonModel Id) : Prop := s.view = some ((List.range s.count).map s.data)

instance (s : AddonModel Id) : Decidable (Sound s) := inferInstanceAs (Decidable (_ = _))

/-- A dismissed message is not enabled again, by its conditions or by its status, and a message is dismissed only while
it is enabled; an add-on that is enabled is not replaced by one that is not. -/
def Orderly (s : AddonModel Id) : Event Id → Prop
  | .load addonId manifest => s.addons.lookup addonId = none → ∀ m ∈ manifest, m.status ≠ some .Dismissed →
    isRow (s.addon m.id) = true → m.conditionApplied = true
  | .unload _ | .addonNotification _ => True
  | .watcherChanged addonId enabled => ∀ a ∈ s.addon addonId, a.status = some .Dismissed → enabled = a.m_enabled
  | .dismiss addonId => s.isMessage addonId = true → isRow (s.addon addonId) = true
  | .markAsRead addonId | .resetMessage addonId => (s.addon addonId).bind (·.status) ≠ some .Dismissed

lemma shown_eq : (List.range s.count).map s.data = (rowsOf s.addons.entries).map some := by
  rw [count, ← length_rowsOf]
  apply List.ext_getElem
  · simp
  · intro row h _
    have hr : row < (rowsOf s.addons.entries).length := by simpa using h
    simp [data, dataOf_eq, hr]

lemma sound_iff : Sound s ↔ s.view = some ((rowsOf s.addons.entries).map some) := by rw [Sound, shown_eq]

lemma posOf_append (h : ∀ e ∈ before, e.1 ≠ addonId) :
    posOf addonId (before ++ (addonId, some a) :: after) = some (rowsOf before).length := by
  induction before with
  | nil => simp [posOf, rowsOf]
  | cons e before ih =>
    have hi := ih fun f hf => h f (List.mem_cons_of_mem e hf)
    rw [List.cons_append, posOf, if_neg (h e List.mem_cons_self), hi]
    cases hr : isRow e.2 with
    | false =>
      rw [rowsOf_cons_of_not_row hr]
      split <;> rfl
    | true =>
      rw [rowsOf_cons_of_row hr]
      obtain ⟨b, hb⟩ : ∃ b, e.2 = some b := by
        cases he : e.2 with
        | none => simp [he, isRow] at hr
        | some b => exact ⟨b, rfl⟩
      simp [hb]

omit [LinearOrder Id] in
lemma exists_of_row (h : isRow v = true) : ∃ a, v = some a ∧ a.enabled = true := by
  cases v with
  | none => cases h
  | some a => exact ⟨a, rfl, h⟩

lemma exists_splits (h : s.addon addonId = some a) : ∃ before after, s.addons.Splits addonId (some a) before after :=
  SortedMap.exists_splits (Option.join_eq_some_iff.mp h)

lemma addon_of_splits (h : s.addons.Splits addonId v before after) : s.addon addonId = v := by
  rw [addon, h.lookup]
  rfl

lemma rows_of_splits (h : s.addons.Splits addonId v before after) :
    rowsOf s.addons.entries = rowsOf before ++ rowsOf ((addonId, v) :: after) := by
  rw [h.entries, rowsOf_append]

lemma update_of_splits (h : s.addons.Splits addonId (some a) before after) (f : AddonState → AddonState) :
    (s.update addonId f).addons.Splits addonId (some (f a)) before after ∧ (s.update addonId f).view = s.view := by
  rw [update, addon_of_splits h]
  exact ⟨h.insert _, rfl⟩

lemma conditionChanged_of_splits (h : s.addons.Splits addonId (some a) before after) (enabled : Bool) :
    s.conditionChanged addonId enabled =
      if !enabled then s.removeRows (rowsOf before).length else s.insertRows (rowsOf before).length := by
  rw [conditionChanged, h.entries, posOf_append fun e he => (h.lesser e he).ne]

lemma enable_of_splits (h : s.addons.Splits addonId (some a) before after) :
    (s.enable addonId).addons.Splits addonId (some { a with m_enabled := true }) before after ∧
      (s.enable addonId).view = insertRow (rowsOf before).length
        (rowsOf ((addonId, some { a with m_enabled := true }) :: after)).head? s.view := by
  obtain ⟨hs, hv⟩ := update_of_splits h fun addon => { addon with m_enabled := true }
  rw [enable, conditionChanged_of_splits hs]
  refine ⟨hs, ?_⟩
  simp only [insertRows, hv, data, dataOf_eq, rows_of_splits hs, Bool.not_true]
  rw [List.getElem?_append_right le_rfl, Nat.sub_self, ← List.head?_eq_getElem?]
  rfl

lemma disable_of_splits (h : s.addons.Splits addonId (some a) before after) :
    (s.disable addonId).addons.Splits addonId (some { a with m_enabled := false }) before after ∧
      (s.disable addonId).view = removeRow (rowsOf before).length s.view := by
  obtain ⟨hs, hv⟩ := update_of_splits h fun addon => { addon with m_enabled := false }
  rw [disable, conditionChanged_of_splits hs]
  exact ⟨hs, congrArg (removeRow (rowsOf before).length) hv⟩

lemma sound_of_splits_iff (h : s.addons.Splits addonId v before after) :
    Sound s ↔ s.view = some ((rowsOf before).map some ++ (rowsOf ((addonId, v) :: after)).map some) := by
  rw [sound_iff, rows_of_splits h, List.map_append]

lemma sound_enable_iff (h : Sound s) (hs : s.addons.Splits addonId (some a) before after) (he : a.enabled = false) :
    Sound (s.enable addonId) ↔ a.status ≠ some .Dismissed := by
  obtain ⟨hn, hv⟩ := enable_of_splits hs
  rw [(sound_of_splits_iff hs).mp h, rowsOf_cons_of_not_row (show isRow (some a) = false from he),
    ← List.length_map some, insertRow_append] at hv
  rw [sound_of_splits_iff hn, hv]
  by_cases hd : a.status = some .Dismissed
  · have hr : isRow (some { a with m_enabled := true }) = false := by simp [isRow, AddonState.enabled, hd]
    rw [rowsOf_cons_of_not_row hr]
    simp [hd]
  · have hr : isRow (some { a with m_enabled := true }) = true := by simp [isRow, AddonState.enabled, hd]
    rw [rowsOf_cons_of_row hr]
    simp [hd]

lemma sound_disable_iff (h : Sound s) (hs : s.addons.Splits addonId (some a) before after) :
    Sound (s.disable addonId) ↔ a.enabled = true := by
  obtain ⟨hn, hv⟩ := disable_of_splits hs
  have hr : isRow (some { a with m_enabled := false }) = false := rfl
  rw [sound_of_splits_iff hn, hv, rowsOf_cons_of_not_row hr, (sound_of_splits_iff hs).mp h]
  cases he : a.enabled with
  | false =>
    rw [rowsOf_cons_of_not_row (show isRow (some a) = false from he)]
    exact iff_of_false removeRow_ne (by simp)
  | true =>
    rw [rowsOf_cons_of_row (show isRow (some a) = true from he), ← List.length_map some]
    exact iff_of_true removeRow_append rfl

lemma sound_update_iff (hs : s.addons.Splits addonId (some a) before after) {f : AddonState → AddonState}
    (hf : (f a).enabled = a.enabled) : Sound (s.update addonId f) ↔ Sound s := by
  obtain ⟨hn, hv⟩ := update_of_splits hs f
  rw [sound_of_splits_iff hn, sound_of_splits_iff hs, hv]
  cases he : a.enabled with
  | false =>
    rw [rowsOf_cons_of_not_row (show isRow (some a) = false from he),
      rowsOf_cons_of_not_row (show isRow (some (f a)) = false from hf.trans he)]
  | true =>
    rw [rowsOf_cons_of_row (show isRow (some a) = true from he),
      rowsOf_cons_of_row (show isRow (some (f a)) = true from hf.trans he)]

/-- A dismissed message is disabled. -/
def Hidden (s : AddonModel Id) : Prop :=
  ∀ e ∈ s.addons.entries, ∀ a ∈ e.2, a.status = some .Dismissed → a.m_enabled = false

lemma Hidden.addon (h : Hidden s) (ha : s.addon addonId = some a) (hd : a.status = some .Dismissed) :
    a.m_enabled = false := by
  obtain ⟨before, after, hs⟩ := exists_splits ha
  exact h (addonId, some a) (by rw [hs.entries]; simp) a rfl hd

lemma Hidden.insert {t : AddonModel Id} (h : Hidden s) (ht : t.addons = s.addons.insert addonId v)
    (hv : ∀ a ∈ v, a.status = some .Dismissed → a.m_enabled = false) : Hidden t := by
  intro e he a ha hd
  rcases SortedMap.mem_insert (ht ▸ he) with rfl | he
  · exact hv a ha hd
  · exact h e he a ha hd

lemma Hidden.update (h : Hidden s) {f : AddonState → AddonState}
    (hf : ∀ a, s.addon addonId = some a → (f a).status = some .Dismissed → (f a).m_enabled = false) :
    Hidden (s.update addonId f) := by
  rw [AddonModel.update]
  split
  · exact h
  · next addon ha =>
    apply h.insert rfl
    rintro a hm hd
    obtain rfl : f addon = a := Option.some.inj hm
    exact hf addon ha hd

lemma addons_conditionChanged (enabled : Bool) : (s.conditionChanged addonId enabled).addons = s.addons := by
  rw [conditionChanged]
  split
  · rfl
  · split <;> rfl

lemma Hidden.enable (h : Hidden s) (hd : ∀ a, s.addon addonId = some a → a.status ≠ some .Dismissed) :
    Hidden (s.enable addonId) := by
  rw [Hidden, AddonModel.enable, addons_conditionChanged]
  exact h.update fun a ha he => absurd he (hd a ha)

lemma Hidden.disable (h : Hidden s) : Hidden (s.disable addonId) := by
  rw [Hidden, AddonModel.disable, addons_conditionChanged]
  exact h.update fun _ _ _ => rfl

structure Shown (s : AddonModel Id) : Prop where
  sound : Sound s
  hidden : Hidden s

lemma sound_watcherChanged_iff (h : Shown s) (enabled : Bool) :
    Orderly s (.watcherChanged addonId enabled) ↔ Sound (s.watcherChanged addonId enabled) := by
  rw [Orderly, watcherChanged]
  cases ha : s.addon addonId with
  | none => exact iff_of_true (by simp) h.sound
  | some a =>
    obtain ⟨before, after, hs⟩ := exists_splits ha
    simp only [Option.mem_some, forall_eq']
    split_ifs with he ht
    · exact iff_of_true (fun _ => he) h.sound
    · have hm : a.m_enabled = false := by simpa [ht] using he
      rw [sound_enable_iff h.sound hs (by simp [AddonState.enabled, hm])]
      simp [he]
    · have hm : a.m_enabled = true := by simpa [ht] using he
      have hd : a.status ≠ some .Dismissed := fun hd => by simp [h.hidden.addon ha hd] at hm
      rw [sound_disable_iff h.sound hs]
      simp [AddonState.enabled, hm, hd]

lemma Hidden.watcherChanged (h : Hidden s) {enabled : Bool} (ho : Orderly s (.watcherChanged addonId enabled)) :
    Hidden (s.watcherChanged addonId enabled) := by
  rw [AddonModel.watcherChanged]
  split
  · exact h
  · next a ha =>
    split_ifs with he ht
    · exact h
    · apply h.enable
      intro b hb hd
      obtain rfl : a = b := Option.some.inj (ha.symm.trans hb)
      exact he (ho a ha hd)
    · exact h.disable

lemma not_sound_of_dismissed (h : Shown s) (hs : s.addons.Splits addonId (some a) before after)
    (hd : a.status = some .Dismissed) (newStatus : MessageStatus) (hn : newStatus ≠ .Dismissed) :
    ¬Sound ((s.enable addonId).update addonId fun addon => { addon with status := some newStatus }) := by
  have hm : a.m_enabled = false := h.hidden.addon (addon_of_splits hs) hd
  obtain ⟨he, hv⟩ := enable_of_splits hs
  obtain ⟨hu, hw⟩ := update_of_splits he fun addon => { addon with status := some newStatus }
  have ha : isRow (some a) = false := by simp [isRow, AddonState.enabled, hm]
  have hr : isRow (some { a with m_enabled := true }) = false := by simp [isRow, AddonState.enabled, hd]
  have hk : isRow (some { m_enabled := true, status := some newStatus }) = true := by
    simp [isRow, AddonState.enabled, hn]
  rw [(sound_of_splits_iff hs).mp h.sound, rowsOf_cons_of_not_row ha, rowsOf_cons_of_not_row hr,
    ← List.length_map some, insertRow_append] at hv
  rw [sound_of_splits_iff hu, hw, hv, rowsOf_cons_of_row hk]
  intro heq
  have heq := List.append_cancel_left (Option.some.inj heq)
  have hh : (rowsOf after).head? = some addonId := (List.cons.inj heq).1
  obtain ⟨e, hm, hi⟩ := List.mem_filterMap.mp (List.mem_of_mem_head? hh)
  split at hi
  · exact (hs.greater e hm).ne' (Option.some.inj hi)
  · cases hi

lemma sound_updateMessageStatus_iff (h : Shown s) (newStatus : MessageStatus) (hn : newStatus ≠ .Dismissed) :
    (s.addon addonId).bind (·.status) ≠ some .Dismissed ↔ Sound (s.updateMessageStatus addonId newStatus) := by
  rw [updateMessageStatus]
  cases ha : s.addon addonId with
  | none => exact iff_of_true (by simp) h.sound
  | some a =>
    obtain ⟨before, after, hs⟩ := exists_splits ha
    rw [Option.bind_some]
    cases hst : a.status with
    | none => exact iff_of_true (by simp) h.sound
    | some status =>
      by_cases hd : status = .Dismissed
      · rw [hd] at hst ⊢
        simp only [hn.symm, if_false, if_true]
        exact iff_of_false (by simp) (not_sound_of_dismissed h hs hst newStatus hn)
      · apply iff_of_true (by simpa using hd)
        simp only [hd, if_false]
        split
        · exact h.sound
        · apply (sound_update_iff hs ?_).mpr h.sound
          have hs' : (some status != some MessageStatus.Dismissed) = true := by simpa using hd
          have hn' : (some newStatus != some MessageStatus.Dismissed) = true := by simpa using hn
          simp only [AddonState.enabled, hst, hs', hn']

lemma Hidden.updateMessageStatus (h : Hidden s) {newStatus : MessageStatus} (hn : newStatus ≠ .Dismissed)
    (hd : (s.addon addonId).bind (·.status) ≠ some .Dismissed) :
    Hidden (s.updateMessageStatus addonId newStatus) := by
  rw [AddonModel.updateMessageStatus]
  split
  · exact h
  · next status ha =>
    have hs : status ≠ .Dismissed := fun he => hd (ha.trans (congrArg some he))
    split
    · exact h
    · exact h.update fun a _ he => absurd (Option.some.inj he) hn

lemma sound_dismiss_iff (h : Shown s) : Orderly s (.dismiss addonId) ↔ Sound (s.dismiss addonId) := by
  rw [Orderly, dismiss]
  cases hm : s.isMessage addonId with
  | false => exact iff_of_true (by simp) h.sound
  | true =>
    obtain ⟨a, ha, hst⟩ : ∃ a, s.addon addonId = some a ∧ a.status.isSome = true := by
      cases ha : s.addon addonId with
      | none => simp [isMessage, ha] at hm
      | some a => exact ⟨a, rfl, by simpa [isMessage, ha] using hm⟩
    obtain ⟨before, after, hs⟩ := exists_splits ha
    obtain ⟨hd, hv⟩ := disable_of_splits hs
    have hu : Sound ((s.disable addonId).updateMessageStatus addonId .Dismissed) ↔ Sound (s.disable addonId) := by
      rw [updateMessageStatus, addon_of_splits hd, Option.bind_some]
      obtain ⟨status, hst⟩ := Option.isSome_iff_exists.mp hst
      simp only [hst]
      split
      · exact Iff.rfl
      · exact sound_update_iff hd (by simp [AddonState.enabled])
    rw [if_pos rfl, hu, sound_disable_iff h.sound hs, ha]
    exact ⟨fun h => h rfl, fun h _ => h⟩

lemma Hidden.dismiss (h : Hidden s) : Hidden (s.dismiss addonId) := by
  rw [AddonModel.dismiss]
  split
  · next hm =>
    obtain ⟨a, ha⟩ : ∃ a, s.addon addonId = some a := by
      cases ha : s.addon addonId with
      | none => simp [isMessage, ha] at hm
      | some a => exact ⟨a, rfl⟩
    obtain ⟨before, after, hs⟩ := exists_splits ha
    obtain ⟨hd, -⟩ := disable_of_splits hs
    rw [AddonModel.updateMessageStatus]
    split
    · exact h.disable
    · split
      · exact h.disable
      · apply h.disable.update
        intro b hb _
        rw [addon_of_splits hd] at hb
        obtain rfl := Option.some.inj hb
        rfl
  · exact h

lemma Shown.maybeAddonNotification (h : Shown s) : Shown (s.maybeAddonNotification addonId) := by
  rw [AddonModel.maybeAddonNotification]
  split
  · next hr =>
    have hd : (s.addon addonId).bind (·.status) ≠ some .Dismissed := by rw [hr]; decide
    exact ⟨(sound_updateMessageStatus_iff h .Notified (by decide)).mp hd, h.hidden.updateMessageStatus (by decide) hd⟩
  · exact h

lemma rowsOf_erase (hr : isRow (s.addon addonId) = false) :
    rowsOf (s.addons.erase addonId).entries = rowsOf s.addons.entries := by
  cases hl : s.addons.lookup addonId with
  | none => rw [SortedMap.erase_of_lookup_none hl]
  | some v =>
    obtain ⟨before, after, hs⟩ := SortedMap.exists_splits hl
    rw [addon_of_splits hs] at hr
    rw [hs.erase, rowsOf_append, rows_of_splits hs, rowsOf_cons_of_not_row hr]

lemma rowsOf_insert (hr : isRow (s.addon addonId) = false) (hv : isRow v = false) :
    rowsOf (s.addons.insert addonId v).entries = rowsOf s.addons.entries := by
  cases hl : s.addons.lookup addonId with
  | none =>
    obtain ⟨before, after, he, hs⟩ := SortedMap.exists_insert hl v
    rw [hs.entries, he, rowsOf_append, rowsOf_append, rowsOf_cons_of_not_row hv]
  | some w =>
    obtain ⟨before, after, hs⟩ := SortedMap.exists_splits hl
    rw [addon_of_splits hs] at hr
    rw [(hs.insert v).entries, rowsOf_append, rows_of_splits hs, rowsOf_cons_of_not_row hr, rowsOf_cons_of_not_row hv]

lemma Shown.unload (h : Shown s) : Shown (s.unload addonId) := by
  have he : ∀ t : AddonModel Id, Shown t → isRow (t.addon addonId) = false →
      Shown { t with addons := t.addons.erase addonId } := by
    intro t ht hr
    refine ⟨?_, fun e hm => ht.hidden e (SortedMap.mem_erase hm)⟩
    rw [sound_iff, rowsOf_erase hr]
    exact sound_iff.mp ht.sound
  rw [AddonModel.unload]
  cases hr : isRow (s.addon addonId) with
  | false => exact he s h hr
  | true =>
    obtain ⟨a, ha, hb⟩ := exists_of_row hr
    obtain ⟨before, after, hs⟩ := exists_splits ha
    have hd : Shown (s.disable addonId) := ⟨(sound_disable_iff h.sound hs).mpr hb, h.hidden.disable⟩
    apply he _ hd
    rw [addon_of_splits (disable_of_splits hs).1]
    rfl

lemma mem_rowsOf_iff : addonId ∈ rowsOf s.addons.entries ↔ isRow (s.addon addonId) = true := by
  constructor
  · intro hm
    obtain ⟨e, he, hi⟩ := List.mem_filterMap.mp hm
    split at hi
    · next hr =>
      obtain rfl := Option.some.inj hi
      rw [addon, SortedMap.lookup_of_mem he]
      exact hr
    · cases hi
  · intro hr
    obtain ⟨a, ha, hb⟩ := exists_of_row hr
    obtain ⟨before, after, hs⟩ := exists_splits ha
    rw [rows_of_splits hs, rowsOf_cons_of_row (show isRow (some a) = true from hb)]
    simp

lemma sound_insert_iff (h : Sound s) (hv : isRow v = false) :
    isRow (s.addon addonId) = false ↔ Sound { s with addons := s.addons.insert addonId v } := by
  rw [sound_iff] at h ⊢
  rw [h]
  constructor
  · intro hr
    rw [rowsOf_insert hr hv]
  · intro hs
    by_contra hr
    rw [Bool.not_eq_false] at hr
    obtain ⟨a, ha, hb⟩ := exists_of_row hr
    obtain ⟨before, after, hw⟩ := exists_splits ha
    have := congrArg List.length (Option.some.inj hs)
    rw [List.length_map, List.length_map, (hw.insert v).entries, rowsOf_append, rows_of_splits hw,
      rowsOf_cons_of_not_row hv, rowsOf_cons_of_row (show isRow (some a) = true from hb)] at this
    simp at this

lemma sound_load_iff (h : Shown s) (manifest : Option (Manifest Id)) :
    Orderly s (.load addonId manifest) ↔ Sound (s.validateAndLoad addonId manifest) := by
  rw [Orderly, validateAndLoad]
  cases hl : s.addons.lookup addonId with
  | some v => exact iff_of_true (by simp) h.sound
  | none =>
    have hn : s.addon addonId = none := by rw [addon, hl]; rfl
    have hi : Sound { s with addons := s.addons.insert addonId none } :=
      (sound_insert_iff h.sound rfl).mp (by rw [hn]; rfl)
    cases manifest with
    | none => exact iff_of_true (by simp) hi
    | some m =>
      have ha : isRow (addon m.id { s with addons := s.addons.insert addonId none }) = isRow (s.addon m.id) := by
        rw [Bool.eq_iff_iff, ← mem_rowsOf_iff, ← mem_rowsOf_iff, rowsOf_insert (by rw [hn]; rfl) rfl]
      simp only [Option.isSome_none, Bool.false_eq_true, if_false, loadManifest, AddonState.create]
      by_cases hd : m.status = some .Dismissed
      · rw [if_pos hd]
        exact iff_of_true (by simp [hd]) hi
      · rw [if_neg hd]
        have he : AddonState.enabled { m_enabled := m.conditionApplied, status := m.status } = m.conditionApplied := by
          simp [AddonState.enabled, hd]
        simp only [he]
        cases hc : m.conditionApplied with
        | true => exact iff_of_true (by simp [hc]) rfl
        | false =>
          simp only [Bool.false_eq_true, if_false]
          rw [← sound_insert_iff hi (by rfl), ha]
          simp [hc, hd]

lemma Hidden.load (h : Hidden s) (manifest : Option (Manifest Id)) :
    Hidden (s.validateAndLoad addonId manifest) := by
  rw [validateAndLoad]
  split
  · exact h
  · have hi : Hidden { s with addons := s.addons.insert addonId none } := h.insert rfl (by simp)
    cases manifest with
    | none => exact hi
    | some m =>
      simp only [loadManifest, AddonState.create]
      by_cases hd : m.status = some .Dismissed
      · rw [if_pos hd]
        exact hi
      · rw [if_neg hd]
        have hv : ∀ t : AddonModel Id, t.addons = (s.addons.insert addonId none).insert m.id
            (some { m_enabled := m.conditionApplied, status := m.status }) → Hidden t := by
          intro t ht
          apply hi.insert ht
          intro a ha he
          obtain rfl := Option.some.inj ha
          exact absurd he hd
        dsimp only
        split
        · exact hv _ rfl
        · exact hv _ rfl

lemma sound_step_iff (h : Shown s) (e : Event Id) : Orderly s e ↔ Sound (s.step e) := by
  cases e with
  | load addonId manifest => exact sound_load_iff h manifest
  | unload addonId => exact iff_of_true trivial h.unload.sound
  | watcherChanged addonId enabled => exact sound_watcherChanged_iff h enabled
  | dismiss addonId => exact sound_dismiss_iff h
  | markAsRead addonId => exact sound_updateMessageStatus_iff h .Read (by decide)
  | resetMessage addonId => exact sound_updateMessageStatus_iff h .Received (by decide)
  | addonNotification addonId => exact iff_of_true trivial h.maybeAddonNotification.sound

lemma Hidden.step (h : Shown s) {e : Event Id} (ho : Orderly s e) : Hidden (s.step e) := by
  cases e with
  | load addonId manifest => exact h.hidden.load manifest
  | unload addonId => exact h.unload.hidden
  | watcherChanged addonId enabled => exact h.hidden.watcherChanged ho
  | dismiss addonId => exact h.hidden.dismiss
  | markAsRead addonId => exact h.hidden.updateMessageStatus (by decide) ho
  | resetMessage addonId => exact h.hidden.updateMessageStatus (by decide) ho
  | addonNotification addonId => exact h.maybeAddonNotification.hidden

/-- The view shows the enabled add-ons throughout exactly the runs in which no notification comes at a moment at which
the add-on does not change. -/
theorem sound_iff_orderly (events : List (Event Id)) :
    Meets step Orderly (empty : AddonModel Id) events ↔ ∀ before, before <+: events → Sound (run step empty before) :=
  meets_iff_throughout (P := Shown) (fun _ e h ho => ⟨(sound_step_iff h e).mp ho, Hidden.step h ho⟩)
    (fun _ e h => sound_step_iff h e) ⟨rfl, by simp [Hidden, empty, SortedMap.empty]⟩ rfl

/-- A message whose conditions begin to apply while it is dismissed gets a row, one that is dismissed twice loses one
it does not have, and one that is dismissed no more is not in the row it gets. -/
theorem unsound_messages :
    ¬Sound (run step empty [.load "message" (some ⟨"message", some .Received, true⟩), .dismiss "message",
      .watcherChanged "message" true]) ∧
    ¬Sound (run step empty [.load "message" (some ⟨"message", some .Received, true⟩), .dismiss "message",
      .dismiss "message"]) ∧
    ¬Sound (run step empty [.load "message" (some ⟨"message", some .Received, true⟩), .dismiss "message",
      .resetMessage "message"]) := by
  decide +kernel

end VpnClient.Addons.AddonModel
