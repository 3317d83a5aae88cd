import VpnClient.Library.KeyedLists
import VpnClient.Library.Results
import VpnClient.Library.Runs
import VpnClient.Library.Sorting
import VpnClient.Models.DeviceModel

/-! The comparator that the devices are sorted by, which puts a current device before itself. -/

namespace VpnClient.Models.DeviceOrder

open Library

variable {keys : Keys} {a b : Device} {devices : List Device}

/-- The place of a device: the current ones first, and the others from the newest to the oldest. -/
def rank (keys : Keys) (device : Device) : WithBot ℤᵒᵈ :=
  if device.isCurrentDevice keys then ⊥ else ↑(OrderDual.toDual device.createdAt)

def CurrentFirst (keys : Keys) (devices : List Device) : Prop :=
  devices.Pairwise fun a b =>
    (b.isCurrentDevice keys → a.isCurrentDevice keys) ∧
      (!a.isCurrentDevice keys → !b.isCurrentDevice keys → b.createdAt ≤ a.createdAt)

/-- The comparator orders the devices, and the sorted ones are the same with the current ones first. -/
structure Sound (sorting : ComparatorSort Device) (keys : Keys) (devices : List Device) : Prop where
  orders : Orders (sortCallback keys) devices
  perm : (sorting.sort (sortCallback keys) devices).Perm devices
  currentFirst : CurrentFirst keys (sorting.sort (sortCallback keys) devices)

lemma rank_of_current (h : a.isCurrentDevice keys = true) : rank keys a = ⊥ := if_pos h

lemma rank_of_other (h : a.isCurrentDevice keys = false) : rank keys a = ↑(OrderDual.toDual a.createdAt) :=
  if_neg (Bool.eq_false_iff.mp h)

/-- The comparator is that of the places, apart from two current devices, each of which it puts before the other. -/
lemma sortCallback_iff : sortCallback keys a b = true ↔
    rank keys a < rank keys b ∨ a.isCurrentDevice keys = true ∧ b.isCurrentDevice keys = true := by
  rw [sortCallback]
  cases ha : a.isCurrentDevice keys with
  | true =>
    cases hb : b.isCurrentDevice keys with
    | true => simp
    | false => simp [rank_of_current ha, rank_of_other hb]
  | false =>
    cases hb : b.isCurrentDevice keys with
    | true => simp [rank_of_current hb]
    | false => simp [rank_of_other ha, rank_of_other hb]

lemma sortCallback_iff_rank (h : ∀ d ∈ devices, d.isCurrentDevice keys = false) :
    ∀ a ∈ devices, ∀ b ∈ devices, sortCallback keys a b = true ↔ rank keys a < rank keys b := by
  intro a ha b _
  rw [sortCallback_iff, h a ha]
  simp

lemma currentFirst_of_rank (h : devices.Pairwise fun a b => rank keys a ≤ rank keys b) : CurrentFirst keys devices := by
  apply h.imp
  intro a b hab
  cases ha : a.isCurrentDevice keys with
  | true => simp
  | false =>
    cases hb : b.isCurrentDevice keys with
    | true => simp [rank_of_other ha, rank_of_current hb] at hab
    | false => simpa [rank_of_other ha, rank_of_other hb] using hab

/-- Without the slip, any list of devices is sorted as it should be. -/
lemma currentFirst_sort_rank (sorting : ComparatorSort Device) (keys : Keys) (devices : List Device) :
    CurrentFirst keys (sorting.sort (fun a b => rank keys a < rank keys b) devices) := by
  apply currentFirst_of_rank
  apply sorting.ordered_of_rank
  intro a _ b _
  exact decide_eq_true_iff

lemma orders_iff_no_current : Orders (sortCallback keys) devices ↔ ∀ d ∈ devices, d.isCurrentDevice keys = false := by
  constructor
  · intro h d hd
    apply Bool.eq_false_iff.mpr
    intro hc
    have hs : sortCallback keys d d = true := sortCallback_iff.mpr (.inr ⟨hc, hc⟩)
    rw [h.irrefl hd] at hs
    exact Bool.false_ne_true hs
  · exact fun h => orders_of_rank (rank keys) (sortCallback_iff_rank h)

theorem sound_iff_no_current (sorting : ComparatorSort Device) (keys : Keys) (devices : List Device) :
    Sound sorting keys devices ↔ ∀ d ∈ devices, d.isCurrentDevice keys = false := by
  constructor
  · exact fun h => orders_iff_no_current.mp h.orders
  · intro h
    have ho := orders_iff_no_current.mpr h
    have hr := sortCallback_iff_rank h
    exact ⟨ho, sorting.perm _ _ ho, currentFirst_of_rank (sorting.ordered_of_rank (rank keys) hr)⟩

def device (name publicKey : String) (createdAt : ℤ) : Device := ⟨name, name, createdAt, publicKey, "", ""⟩

/-- A list with the current device, and one with two of them, each of which is put before the other. -/
theorem not_orders_current :
    ¬Orders (sortCallback ⟨"key"⟩) [device "phone" "key" 2, device "laptop" "other" 1] ∧
      sortCallback ⟨"key"⟩ (device "phone" "key" 2) (device "tablet" "key" 1) = true ∧
      sortCallback ⟨"key"⟩ (device "tablet" "key" 1) (device "phone" "key" 2) = true := by
  refine ⟨?_, by decide, by decide⟩
  intro h
  have hs : sortCallback ⟨"key"⟩ (device "phone" "key" 2) (device "phone" "key" 2) = true := by decide
  rw [h.irrefl List.mem_cons_self] at hs
  exact Bool.false_ne_true hs

example : (insertion Device).sort (sortCallback ⟨""⟩) [device "laptop" "other" 1, device "phone" "key" 2] =
    [device "phone" "key" 2, device "laptop" "other" 1] := by decide

end VpnClient.Models.DeviceOrder

/-! The two lists of devices over any sequence of refreshes and removals. -/

namespace VpnClient.Models

open Ipc Library Library.KeyedLists Library.Results Library.Runs

namespace DeviceModel

variable (documents : Documents) (sorting : ComparatorSort Device)

/-- The devices that a document lists. -/
def document (json : Bytes) : Option (List Device) :=
  (documents.fromJson json).bind fun obj => (obj.array? "devices").bind fun values =>
    values.mapM (Device.fromJson documents)

/-- What an observer keeps of the calls: the devices of the last document that was parsed less those removed since, and
the keys for which the list was last sorted. -/
structure Account where
  devices : List Device := []
  keys : Keys := ⟨""⟩

def observe (m : DeviceModel) (event : Event) (a : Account) : Account :=
  match event with
  | .fromJson keys s =>
    if s ≠ [] ∧ m.rawJson = s then a else ((document documents s).map fun devices => ⟨devices, keys⟩).getD a
  | .startDeviceRemoval _ => a
  | .stopDeviceRemoval publicKey keys => if publicKey ∈ m.removedDevices.map (·.publicKey) then { a with keys } else a
  | .removeDevice publicKey => { a with devices := a.devices.filter (·.publicKey ≠ publicKey) }

/-- The current device is the first one, and the others follow by non-increasing creation time. -/
def Ordered (keys : Keys) (devices : List Device) : Prop :=
  devices.Pairwise fun a b => b.publicKey ≠ keys.publicKey ∧ (a.publicKey = keys.publicKey ∨ b.createdAt ≤ a.createdAt)

/-- What a refresh makes of the lists: without a result they are unchanged, and with one the devices in removal are
those that were and that the document still lists. -/
def Refreshed (m : DeviceModel) : Event → Prop
  | .fromJson keys s =>
    if (m.fromJson documents sorting keys s).1 then
      ∀ doc, document documents s = some doc → ∀ publicKey,
        publicKey ∈ (m.fromJson documents sorting keys s).2.removedDevices.map (·.publicKey) ↔
          publicKey ∈ m.removedDevices.map (·.publicKey) ∧ publicKey ∈ doc.map (·.publicKey)
    else (m.fromJson documents sorting keys s).2.devices = m.devices ∧
      (m.fromJson documents sorting keys s).2.removedDevices = m.removedDevices
  | .startDeviceRemoval _ => True
  | .stopDeviceRemoval _ _ => True
  | .removeDevice _ => True

/-- The two lists together hold the devices of the account, each once. -/
structure Kept (p : DeviceModel × Account) : Prop where
  lists : (p.1.devices ++ p.1.removedDevices).Perm p.2.devices
  nodup : ((p.1.devices ++ p.1.removedDevices).map (·.publicKey)).Nodup
  ordered : Ordered p.2.keys p.1.devices
  resets : p.1.resets = 0

def next (p : DeviceModel × Account) (event : Event) : DeviceModel × Account :=
  watch (step documents sorting) (observe documents) p event

def Exact (p : DeviceModel × Account) (event : Event) : Prop :=
  Refreshed documents sorting p.1 event ∧ Kept (next documents sorting p event)

/-- A refresh brings a document. -/
def Event.Parsed : Event → Prop
  | .fromJson _ s => (document documents s).isSome
  | .startDeviceRemoval _ => True
  | .stopDeviceRemoval _ _ => True
  | .removeDevice _ => True

/-- The devices of the document of a refresh have distinct keys. -/
def Event.Distinct : Event → Prop
  | .fromJson _ s => ∀ doc, document documents s = some doc → (doc.map (·.publicKey)).Nodup
  | .startDeviceRemoval _ => True
  | .stopDeviceRemoval _ _ => True
  | .removeDevice _ => True

/-- What a call sorts, and for which keys. -/
def sorts (m : DeviceModel) : Event → Option (Keys × List Device)
  | .fromJson keys s =>
    if s ≠ [] ∧ m.rawJson = s then none
    else (document documents s).map fun doc =>
      (keys, doc.filter (·.publicKey ∉ m.removedDevices.map (·.publicKey)))
  | .stopDeviceRemoval publicKey keys =>
    (m.removedDevices.find? (·.publicKey = publicKey)).map fun device => (keys, m.devices ++ [device])
  | .startDeviceRemoval _ | .removeDevice _ => none

/-- A refresh brings a document, and no list with a current device is sorted. -/
def Fits (p : DeviceModel × Account) (event : Event) : Prop :=
  event.Parsed documents ∧ ∀ c ∈ sorts documents p.1 event, ∀ device ∈ c.2, device.isCurrentDevice c.1 = false

/-- What the bytes that were last parsed list includes the devices of the account. -/
structure Inv (p : DeviceModel × Account) : Prop extends Kept p where
  listed : p.1.rawJson ≠ [] → ∃ doc, document documents p.1.rawJson = some doc ∧ p.2.devices ⊆ doc

variable {documents sorting} {m : DeviceModel} {a : Account} {keys : Keys} {s : Bytes} {doc l : List Device}
  {publicKey : String} {ks : List String} {values : List JsonValue}

lemma appendDevices_of_some (h : values.mapM (Device.fromJson documents) = some doc) :
    m.appendDevices documents ks values = (true,
      { m with devices := m.devices ++ doc.filter (·.publicKey ∉ ks)
               removedDevices := m.removedDevices ++ doc.filter (·.publicKey ∈ ks) }) := by
  replace h := mapM_some_iff.mp h
  induction h generalizing m with
  | nil => simp [appendDevices]
  | @cons value device values doc hd _ ih =>
    rw [appendDevices, hd]
    dsimp only
    rw [ih]
    by_cases hk : device.publicKey ∈ ks <;> simp [hk]

lemma appendDevices_of_none (h : values.mapM (Device.fromJson documents) = none) :
    (m.appendDevices documents ks values).1 = false ∧ (m.appendDevices documents ks values).2.resets = m.resets := by
  induction values generalizing m with
  | nil => simp at h
  | cons value values ih =>
    rw [appendDevices]
    cases hd : Device.fromJson documents value with
    | none => exact ⟨rfl, rfl⟩
    | some device =>
      have hv : values.mapM (Device.fromJson documents) = none := by
        rw [List.mapM_cons, hd, Option.bind_eq_bind, Option.bind_some, Option.bind_eq_bind] at h
        cases hv : values.mapM (Device.fromJson documents) with
        | none => rfl
        | some rest => simp [hv] at h
      have hi := fun m => ih (m := m) hv
      dsimp only
      refine ⟨(hi _).1, (hi _).2.trans ?_⟩
      split <;> rfl

lemma fromJsonInternal_of_some (h : document documents s = some doc) :
    m.fromJsonInternal documents sorting keys s = (true,
      { rawJson := []
        devices := sorting.sort (sortCallback keys) (doc.filter (·.publicKey ∉ m.removedDevices.map (·.publicKey)))
        removedDevices := doc.filter (·.publicKey ∈ m.removedDevices.map (·.publicKey))
        resets := m.resets
        changed := m.changed + 1 }) := by
  rw [document, Option.bind_eq_some_iff] at h
  obtain ⟨obj, ho, h⟩ := h
  rw [Option.bind_eq_some_iff] at h
  obtain ⟨values, hv, h⟩ := h
  rw [fromJsonInternal, ho]
  dsimp only
  rw [hv]
  dsimp only
  rw [appendDevices_of_some h]
  rfl

variable (m sorting keys) in
lemma fromJsonInternal_of_none (h : document documents s = none) :
    (m.fromJsonInternal documents sorting keys s).1 = false ∧
      (m.fromJsonInternal documents sorting keys s).2.resets = m.resets + 1 := by
  rw [fromJsonInternal]
  cases ho : documents.fromJson s with
  | none => exact ⟨rfl, rfl⟩
  | some obj =>
    dsimp only
    cases hv : obj.array? "devices" with
    | none => exact ⟨rfl, rfl⟩
    | some values =>
      have hn : values.mapM (Device.fromJson documents) = none := by simpa [document, ho, hv] using h
      dsimp only
      rw [(appendDevices_of_none hn).1]
      exact ⟨rfl, (appendDevices_of_none hn).2⟩

lemma ordered_sort (h : ∀ device ∈ l, device.isCurrentDevice keys = false) :
    Ordered keys (sorting.sort (sortCallback keys) l) := by
  have ho := DeviceOrder.orders_iff_no_current.mpr h
  have hm {device : Device} (hd : device ∈ sorting.sort (sortCallback keys) l) :
      device.isCurrentDevice keys = false := h device ((sorting.perm _ l ho).mem_iff.mp hd)
  apply (sorting.ordered _ l ho).imp_of_mem
  intro a b ha hb hc
  rw [sortCallback, hm hb, hm ha] at hc
  exact ⟨by simpa [Device.isCurrentDevice] using hm hb, .inr (by simpa using hc)⟩

lemma Kept.of_perm (h : (m.devices ++ m.removedDevices).Perm a.devices) (hn : (a.devices.map (·.publicKey)).Nodup)
    (ho : Ordered a.keys m.devices) (hr : m.resets = 0) : Kept (m, a) :=
  ⟨h, (h.map _).nodup_iff.mpr hn, ho, hr⟩

lemma Kept.nodup_account (h : Kept (m, a)) : (a.devices.map (·.publicKey)).Nodup := (h.lists.map _).nodup_iff.mp h.nodup

variable (sorting keys) in
lemma fromJson_of_some (hs : ¬(s ≠ [] ∧ m.rawJson = s)) (h : document documents s = some doc) :
    m.fromJson documents sorting keys s = (true,
      { rawJson := s
        devices := sorting.sort (sortCallback keys) (doc.filter (·.publicKey ∉ m.removedDevices.map (·.publicKey)))
        removedDevices := doc.filter (·.publicKey ∈ m.removedDevices.map (·.publicKey))
        resets := m.resets
        changed := m.changed + 1 }) := by
  rw [fromJson, if_neg hs, fromJsonInternal_of_some h]
  rfl

lemma fromJson_of_none (hs : ¬(s ≠ [] ∧ m.rawJson = s)) (h : document documents s = none) :
    (m.fromJson documents sorting keys s).1 = false ∧
      (m.fromJson documents sorting keys s).2.resets = m.resets + 1 := by
  have hi := fromJsonInternal_of_none sorting m keys h
  rw [fromJson, if_neg hs]
  dsimp only
  rw [hi.1]
  exact ⟨rfl, hi.2⟩

lemma Inv.fromJson (h : Inv documents (m, a)) (hd : Event.Distinct documents (.fromJson keys s))
    (hp : Fits documents (m, a) (.fromJson keys s)) :
    Exact documents sorting (m, a) (.fromJson keys s) ∧ Inv documents (next documents sorting (m, a) (.fromJson keys s)) := by
  by_cases hs : s ≠ [] ∧ m.rawJson = s
  · have hf : m.fromJson documents sorting keys s = (true, m) := if_pos hs
    have hn : next documents sorting (m, a) (.fromJson keys s) = (m, a) := by
      simp only [next, watch, DeviceModel.step, observe, hf, if_pos hs]
    rw [Exact, hn]
    refine ⟨⟨?_, h.toKept⟩, h⟩
    rw [Refreshed, hf, if_pos rfl]
    intro doc hdoc publicKey
    rw [iff_self_and]
    intro hr
    obtain ⟨doc', hdoc', hl⟩ := h.listed (hs.2 ▸ hs.1)
    obtain rfl : doc' = doc := by
      rw [hs.2, hdoc] at hdoc'
      exact (Option.some.inj hdoc').symm
    obtain ⟨device, hm, rfl⟩ := List.mem_map.mp hr
    exact List.mem_map_of_mem (hl (h.lists.subset (List.mem_append_right _ hm)))
  · obtain ⟨doc, hdoc⟩ := Option.isSome_iff_exists.mp hp.1
    have hc := hp.2 (keys, doc.filter (·.publicKey ∉ m.removedDevices.map (·.publicKey)))
      (by rw [sorts, if_neg hs, hdoc]; rfl)
    have hf := fromJson_of_some sorting keys hs hdoc
    have hn : next documents sorting (m, a) (.fromJson keys s) = ((m.fromJson documents sorting keys s).2, ⟨doc, keys⟩) := by
      simp only [next, watch, DeviceModel.step, observe, if_neg hs, hdoc, Option.map_some, Option.getD_some]
    have hx : ∀ ks : List String, (doc.filter (·.publicKey ∉ ks) ++ doc.filter (·.publicKey ∈ ks)).Perm doc := by
      intro ks
      have hq := List.filter_append_perm (fun device : Device => decide (device.publicKey ∉ ks)) doc
      simpa using hq
    have hk : Kept (next documents sorting (m, a) (.fromJson keys s)) := by
      rw [hn, hf]
      apply Kept.of_perm
      · exact ((sorting.perm _ _ (DeviceOrder.orders_iff_no_current.mpr hc)).append_right _).trans (hx _)
      · exact hd doc hdoc
      · exact ordered_sort hc
      · exact h.resets
    refine ⟨⟨?_, hk⟩, hk, ?_⟩
    · rw [Refreshed, hf, if_pos rfl]
      intro doc' hdoc' publicKey
      obtain rfl : doc = doc' := Option.some.inj (hdoc.symm.trans hdoc')
      simp only [List.mem_map, List.mem_filter, decide_eq_true_eq]
      constructor
      · rintro ⟨device, ⟨hm, hr⟩, rfl⟩
        exact ⟨hr, device, hm, rfl⟩
      · rintro ⟨hr, device, hm, rfl⟩
        exact ⟨device, ⟨hm, hr⟩, rfl⟩
    · intro _
      rw [hn, hf]
      exact ⟨doc, hdoc, List.Subset.refl doc⟩

/-- A call that keeps the devices of the account, and the order of those that are not in removal. -/
lemma Inv.of_perm {m' : DeviceModel} {a' : Account} (h : Inv documents (m, a))
    (hp : (m'.devices ++ m'.removedDevices).Perm (m.devices ++ m.removedDevices)) (hd : a'.devices = a.devices)
    (ho : Ordered a'.keys m'.devices) (hr : m'.resets = m.resets) (hj : m'.rawJson = m.rawJson) :
    Inv documents (m', a') := by
  constructor
  · apply Kept.of_perm
    · exact hd ▸ hp.trans h.lists
    · exact hd ▸ h.nodup_account
    · exact ho
    · exact hr.trans h.resets
  · dsimp only
    rw [hj, hd]
    exact h.listed

lemma Inv.startDeviceRemoval (h : Inv documents (m, a)) (publicKey : String) :
    Inv documents (m.startDeviceRemovalFromPublicKey publicKey, a) := by
  rw [startDeviceRemovalFromPublicKey]
  cases hf : m.devices.find? (·.publicKey = publicKey) with
  | none => exact h
  | some device => exact h.of_perm (perm_move hf) rfl (h.ordered.sublist List.eraseP_sublist) rfl rfl

variable (sorting) in
lemma Inv.stopDeviceRemoval (h : Inv documents (m, a)) (publicKey : String) (keys : Keys)
    (hp : Fits documents (m, a) (.stopDeviceRemoval publicKey keys)) :
    Inv documents (next documents sorting (m, a) (.stopDeviceRemoval publicKey keys)) := by
  rw [next, watch, DeviceModel.step, stopDeviceRemovalFromPublicKey, observe]
  cases hf : m.removedDevices.find? (·.publicKey = publicKey) with
  | none =>
    rw [if_neg]
    · exact h
    · intro hm
      obtain ⟨device, hd, rfl⟩ := List.mem_map.mp hm
      simpa using List.find?_eq_none.mp hf device hd
  | some device =>
    have hk : publicKey ∈ m.removedDevices.map (·.publicKey) := by
      have hd : device.publicKey = publicKey := by simpa using List.find?_some hf
      rw [← hd]
      exact List.mem_map_of_mem (List.mem_of_find?_eq_some hf)
    have hx : ((m.devices ++ [device]) ++ m.removedDevices.eraseP (·.publicKey = publicKey)).Perm
        (m.devices ++ m.removedDevices) := by
      rw [List.append_assoc]
      exact (perm_of_find? hf).append_left _
    have hc := hp.2 (keys, m.devices ++ [device]) (by rw [sorts, hf]; rfl)
    have ho := DeviceOrder.orders_iff_no_current.mpr hc
    rw [if_pos hk]
    exact h.of_perm (((sorting.perm _ _ ho).append_right _).trans hx) rfl (ordered_sort hc) rfl rfl

lemma removeDevice_eq (hd : (m.devices.map (·.publicKey)).Nodup) (hr : (m.removedDevices.map (·.publicKey)).Nodup)
    (publicKey : String) :
    (m.removeDeviceFromPublicKey publicKey).devices = m.devices.filter (·.publicKey ≠ publicKey) ∧
      (m.removeDeviceFromPublicKey publicKey).removedDevices = m.removedDevices.filter (·.publicKey ≠ publicKey) ∧
      (m.removeDeviceFromPublicKey publicKey).resets = m.resets ∧
      (m.removeDeviceFromPublicKey publicKey).rawJson = m.rawJson := by
  rw [← eraseP_eq_filter hd, ← eraseP_eq_filter hr, removeDeviceFromPublicKey]
  cases hf : m.devices.find? (·.publicKey = publicKey) with
  | none => exact ⟨(List.eraseP_of_forall_not (List.find?_eq_none.mp hf)).symm, rfl, rfl, rfl⟩
  | some device => exact ⟨rfl, rfl, rfl, rfl⟩

variable (sorting) in
lemma Inv.removeDevice (h : Inv documents (m, a)) (publicKey : String) :
    Inv documents (next documents sorting (m, a) (.removeDevice publicKey)) := by
  have hn := h.nodup
  rw [List.map_append] at hn
  obtain ⟨hd, hr, he, hj⟩ := removeDevice_eq (List.nodup_append.mp hn).1 (List.nodup_append.mp hn).2.1 publicKey
  rw [next, watch, DeviceModel.step, observe]
  constructor
  · apply Kept.of_perm
    · dsimp only
      rw [hd, hr, ← List.filter_append]
      exact h.lists.filter _
    · exact (List.filter_sublist.map _).nodup h.nodup_account
    · rw [hd]
      exact h.ordered.sublist List.filter_sublist
    · exact he.trans h.resets
  · dsimp only
    rw [hj]
    intro hne
    obtain ⟨doc, hdoc, hl⟩ := h.listed hne
    exact ⟨doc, hdoc, fun device hm => hl (List.mem_filter.mp hm).1⟩

variable (sorting) in
lemma Inv.step (h : Inv documents (m, a)) (event : Event) (hd : event.Distinct documents)
    (hp : Fits documents (m, a) event) :
    Exact documents sorting (m, a) event ∧ Inv documents (next documents sorting (m, a) event) := by
  cases event with
  | fromJson keys s => exact h.fromJson hd hp
  | startDeviceRemoval publicKey =>
    have hi := h.startDeviceRemoval publicKey
    exact ⟨⟨trivial, hi.toKept⟩, hi⟩
  | stopDeviceRemoval publicKey keys =>
    have hi := h.stopDeviceRemoval sorting publicKey keys hp
    exact ⟨⟨trivial, hi.toKept⟩, hi⟩
  | removeDevice publicKey =>
    have hi := h.removeDevice sorting publicKey
    exact ⟨⟨trivial, hi.toKept⟩, hi⟩

/-- A refresh that fails leaves the reset of the model begun. -/
lemma Inv.parsed_of_exact (h : Inv documents (m, a)) {event : Event} (he : Exact documents sorting (m, a) event) :
    event.Parsed documents := by
  cases event with
  | fromJson keys s =>
    rw [Event.Parsed, Option.isSome_iff_ne_none]
    intro hn
    have hs : ¬(s ≠ [] ∧ m.rawJson = s) := by
      rintro ⟨hs, rfl⟩
      obtain ⟨doc, hdoc, -⟩ := h.listed hs
      simp [hdoc] at hn
    have hr : (m.fromJson documents sorting keys s).2.resets = 0 := he.2.resets
    rw [(fromJson_of_none hs hn).2] at hr
    omega
  | startDeviceRemoval publicKey => trivial
  | stopDeviceRemoval publicKey keys => trivial
  | removeDevice publicKey => trivial

variable (sorting) in
/-- A sort that loses the elements of what it need not sort loses devices of the account. -/
lemma Inv.fits_of_exact (h : Inv documents (m, a)) {event : Event}
    (he : Exact documents sorting.spoil (m, a) event) : Fits documents (m, a) event := by
  refine ⟨h.parsed_of_exact he, fun c hc => ?_⟩
  by_contra hn
  have hs := sorting.spoil_of_not_orders fun ho => hn (DeviceOrder.orders_iff_no_current.mp ho)
  have hlen := he.2.lists.length_eq
  cases event with
  | fromJson keys s =>
    by_cases hs' : s ≠ [] ∧ m.rawJson = s
    · rw [sorts, if_pos hs'] at hc
      cases hc
    · rw [sorts, if_neg hs'] at hc
      obtain ⟨doc, hdoc, rfl⟩ := Option.map_eq_some_iff.mp hc
      have hf := fromJson_of_some sorting.spoil keys hs' hdoc
      simp only [next, watch, DeviceModel.step, observe, if_neg hs', hdoc, Option.map_some, Option.getD_some, hf, hs,
        List.nil_append] at hlen
      have hall := List.length_filter_eq_length_iff.mp hlen
      refine hn fun device hm => absurd (hall device (List.mem_filter.mp hm).1) ?_
      simpa using (List.mem_filter.mp hm).2
  | stopDeviceRemoval publicKey keys =>
    obtain ⟨device, hf, rfl⟩ := Option.mem_map.mp hc
    have ha : (observe documents m (.stopDeviceRemoval publicKey keys) a).devices = a.devices := by
      rw [observe]
      split <;> rfl
    have hr : (m.removedDevices.eraseP (·.publicKey = publicKey)).length + 1 = m.removedDevices.length := by
      exact (perm_of_find? hf).length_eq
    have hm := h.lists.length_eq
    rw [next, watch, ha, DeviceModel.step, stopDeviceRemovalFromPublicKey, Option.mem_def.mp hf] at hlen
    simp only [beginResetModel, endResetModel, emitChanged, hs, List.nil_append] at hlen
    simp only [List.length_append] at hm
    omega
  | startDeviceRemoval publicKey => cases hc
  | removeDevice publicKey => cases hc

variable (sorting) in
lemma next_spoil {event : Event} (hp : Fits documents (m, a) event) :
    next documents sorting.spoil (m, a) event = next documents sorting (m, a) event := by
  have hs {c : Keys × List Device} (hc : c ∈ sorts documents m event) :
      sorting.spoil.sort (sortCallback c.1) c.2 = sorting.sort (sortCallback c.1) c.2 :=
    sorting.spoil_of_orders (DeviceOrder.orders_iff_no_current.mpr (hp.2 c hc))
  cases event with
  | fromJson keys s =>
    by_cases hs' : s ≠ [] ∧ m.rawJson = s
    · simp only [next, watch, DeviceModel.step, fromJson, if_pos hs']
    · obtain ⟨doc, hdoc⟩ := Option.isSome_iff_exists.mp hp.1
      have hc : (keys, doc.filter (·.publicKey ∉ m.removedDevices.map (·.publicKey))) ∈
          sorts documents m (.fromJson keys s) := by
        rw [sorts, if_neg hs', hdoc]
        rfl
      simp only [next, watch, DeviceModel.step, fromJson_of_some _ keys hs' hdoc, hs hc]
  | stopDeviceRemoval publicKey keys =>
    rw [next, next, watch, watch, DeviceModel.step, DeviceModel.step, stopDeviceRemovalFromPublicKey,
      stopDeviceRemovalFromPublicKey]
    cases hf : m.removedDevices.find? (·.publicKey = publicKey) with
    | none => rfl
    | some device =>
      have hc : (keys, m.devices ++ [device]) ∈ sorts documents m (.stopDeviceRemoval publicKey keys) := by
        rw [sorts, hf]
        rfl
      simp only [beginResetModel, hs hc]
  | startDeviceRemoval publicKey => rfl
  | removeDevice publicKey => rfl

lemma inv_initial : Inv documents ({}, {}) := by
  constructor
  · exact Kept.of_perm .nil List.nodup_nil .nil rfl
  · exact fun h => absurd rfl h

/-- Whatever `std::sort` makes of a list that its comparator does not order, the lists are exact after each call, exactly
if each refresh brings a document and no list with a current device is sorted. -/
theorem exact_iff_sortable (documents : Documents) (events : List Event)
    (hd : ∀ event ∈ events, event.Distinct documents) :
    (∀ sorting : ComparatorSort Device, Meets (next documents sorting) (Exact documents sorting) ({}, {}) events) ↔
      ∀ sorting : ComparatorSort Device, Meets (next documents sorting) (Fits documents) ({}, {}) events := by
  have hi : Inv documents ({}, {}) := inv_initial
  generalize (({}, {}) : DeviceModel × Account) = p at hi
  constructor
  · intro h sorting
    have hm := h sorting.spoil
    clear h
    induction events generalizing p with
    | nil => trivial
    | cons event events ih =>
      rw [List.forall_mem_cons] at hd
      have hp := hi.fits_of_exact sorting hm.1
      refine ⟨hp, ih hd.2 _ (hi.step sorting event hd.1 hp).2 ?_⟩
      rw [← next_spoil sorting hp]
      exact hm.2
  · intro h sorting
    have hm := h sorting
    clear h
    induction events generalizing p with
    | nil => trivial
    | cons event events ih =>
      rw [List.forall_mem_cons] at hd
      obtain ⟨he, hi⟩ := hi.step sorting event hd.1 hm.1
      exact ⟨he, ih hd.2 _ hi hm.2⟩

/-- A device as a document lists it. -/
def listed (name publicKey : String) : JsonValue :=
  .object [("name", .string name), ("pubkey", .string publicKey), ("created_at", .string ""),
    ("ipv4_address", .string "10.0.0.2/32"), ("ipv6_address", .string "fc00::2/128")]

/-- The only document lists a laptop and a phone. -/
def oneDocument : Documents where
  fromJson s := if s = [0x7b, 0x7d] then some [("devices", .array [listed "laptop" "key", listed "phone" "other"])]
    else none
  dateFromString _ := some 0

def refreshes : List Event :=
  [.fromJson ⟨"new"⟩ [0x7b, 0x7d], .startDeviceRemoval "key", .fromJson ⟨"new"⟩ [0x7b, 0x7d],
    .stopDeviceRemoval "key" ⟨"new"⟩, .removeDevice "other"]

theorem exact_with_removal :
    (∀ sorting : ComparatorSort Device, Meets (next oneDocument sorting) (Exact oneDocument sorting) ({}, {}) refreshes) ↔
      ∀ sorting : ComparatorSort Device, Meets (next oneDocument sorting) (Fits oneDocument) ({}, {}) refreshes := by
  have hd : document oneDocument [0x7b, 0x7d] = some [⟨"laptop", "", 0, "key", "10.0.0.2/32", "fc00::2/128"⟩,
      ⟨"phone", "", 0, "other", "10.0.0.2/32", "fc00::2/128"⟩] := by rfl
  exact exact_iff_sortable oneDocument refreshes (by simp [refreshes, Event.Distinct, hd])

/-- Malformed bytes empty the list. -/
theorem inexact_refreshes :
    ¬Meets (next oneDocument (insertion Device)) (Exact oneDocument (insertion Device)) ({}, {})
      [.fromJson ⟨"new"⟩ [0x7b, 0x7d], .fromJson ⟨"new"⟩ [0x5b]] := by
  rintro ⟨-, ⟨hr, -⟩, -⟩
  rw [Refreshed, if_neg (by decide +kernel)] at hr
  exact absurd hr.1 (by decide +kernel)

end DeviceModel

end VpnClient.Models
