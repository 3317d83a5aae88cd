import Mathlib.Data.List.Lex
import Mathlib.Data.List.Sort
import Mathlib.Data.String.Basic
import VpnClient.Library.Runs
import VpnClient.Library.Tables

/-! Groups of settings that share a key, and which of them are told about a change in the storage. -/

namespace VpnClient.Settings.SettingGroup

open Library.Runs Library.Tables

/-- The parts of a key between its slashes. -/
abbrev Key := List String

/-- A key as the storage knows it, without the empty parts of leading, trailing and doubled slashes. -/
def normalized (key : Key) : Key := key.filter (· ≠ "")

structure Group where
  groupKey : Key
  acceptedKeys : List Key := []
  deriving DecidableEq

/-- The values in the storage, where a value may be null, the settings that are registered with the groups that are
connected to each of them, and the groups. `emitted` has the groups that emit `changed` in an operation. -/
structure State (V : Type) where
  storage : Table Key (Option V)
  registered : Table Key (List ℕ) := ∅
  groups : List Group := []
  emitted : List ℕ := []
  dereferencedNull : Bool := false

namespace State

variable {V : Type} [DecidableEq V]

section Storage

variable (storage : Table Key (Option V))

/-- The storage removes a key with all that are below it. -/
def removeKey (key : Key) : Table Key (Option V) :=
  (storage.keys.filter fun k => key.isPrefixOf k).foldl (fun t k => AList.erase k t) storage

def getAllKeys (group : Key) : List Key :=
  (storage.keys.filter fun k => group.isPrefixOf k && k ≠ group).map fun k => k.drop group.length

end Storage

section Setting

variable (s : State V) (key : Key)

def isSet : Bool := (s.storage.lookup (normalized key)).isSome

/-- The stored value, and null by default. -/
def value : Option V := (s.storage.lookup (normalized key)).getD none

def changed : State V := { s with emitted := s.emitted ++ (s.registered.lookup key).getD [] }

def setSetting (value : Option V) : State V :=
  if !s.isSet key ∨ s.value key ≠ value then
    changed { s with storage := s.storage.insert (normalized key) value } key
  else s

def removeSetting : State V :=
  if !s.isSet key then s else changed { s with storage := removeKey s.storage (normalized key) } key

def resetSetting (removeWhenReset : Bool) : State V := if !removeWhenReset then s else s.removeSetting key

end Setting

/-- The setting is created if it is not registered, and the group is connected to it. -/
def addSetting (s : State V) (id : ℕ) (group : Group) (key : Key) : State V :=
  let fullKey := group.groupKey ++ key
  { s with registered := s.registered.insert fullKey ((s.registered.lookup fullKey).getD [] ++ [id]) }

def createSettingGroup (s : State V) (group : Group) : State V :=
  (getAllKeys s.storage (normalized group.groupKey)).foldl (fun s' key => s'.addSetting s.groups.length group key)
    { s with groups := s.groups ++ [group] }

def isAcceptedKey (group : Group) (key : Key) : Bool := group.acceptedKeys.length = 0 || group.acceptedKeys.contains key

def get (s : State V) (group : Group) (key : Key) : Option V :=
  match s.registered.lookup (group.groupKey ++ key) with
  | none => none
  | some _ => s.value (group.groupKey ++ key)

def set (s : State V) (id : ℕ) (group : Group) (key : Key) (value : Option V) : State V :=
  if !isAcceptedKey group key then s
  else
    let fullKey := group.groupKey ++ key
    let s := if (s.registered.lookup fullKey).isNone then s.addSetting id group key else s
    s.setSetting fullKey value

/-- The signal of a setting that is looked up. -/
def changedOf (s : State V) (fullKey : Key) : State V :=
  match s.registered.lookup fullKey with
  | none => { s with dereferencedNull := true }
  | some _ => s.changed fullKey

def remove (s : State V) (group : Group) : State V :=
  let keys := getAllKeys s.storage (normalized group.groupKey)
  let s := { s with storage := removeKey s.storage (normalized group.groupKey) }
  keys.foldl (fun s key => s.changedOf (group.groupKey ++ key)) s

def registeredKeys (s : State V) : List Key := s.registered.keys.insertionSort (· ≤ ·)

def reset (removeWhenReset : Bool) (s : State V) : State V :=
  s.registeredKeys.foldl (fun s key => s.resetSetting key removeWhenReset) s

def hardReset (s : State V) : State V := s.registeredKeys.foldl changed { s with storage := ∅ }

end State

/-- The operations on the groups, which are known by their number, on the settings and on the manager. -/
inductive Op (V : Type) where
  | createSettingGroup (group : Group)
  | set (id : ℕ) (key : Key) (value : Option V)
  | remove (id : ℕ)
  | setSetting (key : Key) (value : Option V)
  | removeSetting (key : Key)
  | reset
  | hardReset

open State

section Steps

variable {V : Type} [DecidableEq V] (removeWhenReset : Bool)

def operate (s : State V) : Op V → State V
  | .createSettingGroup group => s.createSettingGroup group
  | .set id key value =>
    match s.groups[id]? with
    | none => s
    | some group => s.set id group key value
  | .remove id =>
    match s.groups[id]? with
    | none => s
    | some group => s.remove group
  | .setSetting key value => if (s.registered.lookup key).isNone then s else s.setSetting key value
  | .removeSetting key => if (s.registered.lookup key).isNone then s else s.removeSetting key
  | .reset => s.reset removeWhenReset
  | .hardReset => s.hardReset

def step (s : State V) (op : Op V) : State V := operate removeWhenReset { s with emitted := [] } op

end Steps

/-- A key without empty parts. -/
def Normal (key : Key) : Prop := "" ∉ key

def Group.covers (group : Group) (key : Key) : Prop := group.groupKey <+: key ∧ key ≠ group.groupKey

instance (group : Group) : DecidablePred group.covers := fun _ => inferInstanceAs (Decidable (_ ∧ _))

instance : DecidablePred Normal := fun _ => inferInstanceAs (Decidable (_ ∉ _))

section Storage

variable {V : Type} {storage : Table Key (Option V)} {group : Group} {key k : Key}

lemma Normal.normalized (h : Normal key) : normalized key = key :=
  List.filter_eq_self.mpr fun _ hp => decide_eq_true fun he => h (he ▸ hp)

lemma normal_normalized (key : Key) : Normal (SettingGroup.normalized key) := fun h => by
  simp [SettingGroup.normalized] at h

lemma Normal.append (hk : Normal key) (h : Normal k) : Normal (key ++ k) := fun hm =>
  (List.mem_append.mp hm).elim hk h

lemma covers_append (h : k ≠ []) : group.covers (group.groupKey ++ k) := by
  refine ⟨List.prefix_append .., fun he => h ?_⟩
  exact List.append_right_eq_self.mp he

lemma exists_of_covers (h : group.covers k) : ∃ key, key ≠ [] ∧ k = group.groupKey ++ key := by
  obtain ⟨⟨key, rfl⟩, hn⟩ := h
  exact ⟨key, fun he => hn (by rw [he, List.append_nil]), rfl⟩

lemma lookup_removeKey : (removeKey storage key).lookup k = if key <+: k then none else storage.lookup k := by
  have hm : k ∈ storage.keys.filter (fun k => key.isPrefixOf k) ↔ k ∈ storage ∧ key <+: k := by
    simp [List.mem_filter, AList.mem_keys]
  rw [removeKey, lookup_foldl_erase]
  by_cases hp : key <+: k
  · rw [if_pos hp]
    split_ifs with hk
    · rfl
    · exact AList.lookup_eq_none.mpr fun hs => hk (hm.mpr ⟨hs, hp⟩)
  · rw [if_neg hp, if_neg fun hk => hp (hm.mp hk).2]

lemma mem_getAllKeys {g : Key} : key ∈ getAllKeys storage g ↔ key ≠ [] ∧ g ++ key ∈ storage := by
  rw [getAllKeys, List.mem_map]
  constructor
  · rintro ⟨k, hk, rfl⟩
    obtain ⟨hm, hp⟩ := List.mem_filter.mp hk
    simp only [Bool.and_eq_true, List.isPrefixOf_iff_prefix, decide_eq_true_eq] at hp
    obtain ⟨⟨rest, rfl⟩, hn⟩ := hp
    rw [List.drop_left]
    exact ⟨fun he => hn (by rw [he, List.append_nil]), AList.mem_keys.mpr hm⟩
  · rintro ⟨hn, hm⟩
    refine ⟨g ++ key, List.mem_filter.mpr ⟨AList.mem_keys.mp hm, ?_⟩, List.drop_left⟩
    simpa using hn

end Storage

variable {V : Type} {s t : State V} {group : Group} {key k : Key} {keys : List Key} {id : ℕ}
  {removeWhenReset : Bool}

/-- The groups that are connected to a setting. -/
def State.listeners (s : State V) (key : Key) : List ℕ := (s.registered.lookup key).getD []

/-- Some keys lose their values, and the groups of those that had one emit. -/
structure Wipes (keys : List Key) (s t : State V) : Prop where
  registered : t.registered = s.registered
  groups : t.groups = s.groups
  dereferencedNull : t.dereferencedNull = s.dereferencedNull
  lookup : ∀ k, t.storage.lookup k = if k ∈ keys then none else s.storage.lookup k
  emitted : ∀ id, id ∈ t.emitted ↔ id ∈ s.emitted ∨ ∃ k ∈ keys, k ∈ s.storage ∧ id ∈ s.listeners k

/-- Nothing is stored below a key. -/
def Lowest (s : State V) (key : Key) : Prop := ∀ k ∈ s.storage.keys, key <+: k → k = key

lemma wipes_removeSetting (hn : Normal key) (hl : key ∈ s.storage → Lowest s key) : Wipes [key] s (s.removeSetting key) := by
  rw [removeSetting, isSet, hn.normalized]
  cases hv : s.storage.lookup key with
  | none =>
    have hm : key ∉ s.storage := AList.lookup_eq_none.mp hv
    rw [if_pos (by simp)]
    refine ⟨rfl, rfl, rfl, fun k => ?_, fun id => ?_⟩
    · split_ifs with hk
      · rw [List.mem_singleton.mp hk]
        exact hv
      · rfl
    · simp [hm]
  | some value =>
    have hm : key ∈ s.storage := AList.lookup_isSome.mp (by rw [hv]; rfl)
    rw [if_neg (by simp)]
    refine ⟨rfl, rfl, rfl, fun k => ?_, fun id => ?_⟩
    · change (removeKey s.storage key).lookup k = _
      rw [lookup_removeKey]
      simp only [List.mem_singleton]
      by_cases hk : k = key
      · rw [if_pos hk, if_pos (hk ▸ List.prefix_refl _)]
      · rw [if_neg hk]
        split_ifs with hp
        · exact (AList.lookup_eq_none.mpr fun hs => hk (hl hm k (AList.mem_keys.mp hs) hp)).symm
        · rfl
    · change id ∈ s.emitted ++ s.listeners key ↔ _
      simp [hm]

lemma Wipes.trans {others : List Key} {u : State V} (hs : Wipes keys s t) (ht : Wipes others t u) :
    Wipes (keys ++ others) s u := by
  refine ⟨ht.registered.trans hs.registered, ht.groups.trans hs.groups,
    ht.dereferencedNull.trans hs.dereferencedNull, fun k => ?_, fun id => ?_⟩
  · rw [ht.lookup, hs.lookup]
    simp only [List.mem_append]
    split_ifs <;> tauto
  · have hl (k : Key) : t.listeners k = s.listeners k := by rw [listeners, listeners, hs.registered]
    have hm (k : Key) : k ∈ t.storage ↔ k ∉ keys ∧ k ∈ s.storage := by
      rw [← AList.lookup_isSome, ← AList.lookup_isSome, hs.lookup]
      split_ifs with hk <;> simp [hk]
    rw [ht.emitted, hs.emitted, or_assoc]
    simp only [hl, hm, List.mem_append]
    refine or_congr_right ⟨?_, ?_⟩
    · rintro (⟨k, hk, hst, hi⟩ | ⟨k, hk, hst, hi⟩)
      · exact ⟨k, Or.inl hk, hst, hi⟩
      · exact ⟨k, Or.inr hk, hst.2, hi⟩
    · rintro ⟨k, hk, hst, hi⟩
      by_cases hkeys : k ∈ keys
      · exact Or.inl ⟨k, hkeys, hst, hi⟩
      · exact Or.inr ⟨k, hk.resolve_left hkeys, ⟨hkeys, hst⟩, hi⟩

lemma Wipes.mem_of_mem (h : Wipes keys s t) (hk : k ∈ t.storage) : k ∈ s.storage := by
  rw [← AList.lookup_isSome, h.lookup] at hk
  split_ifs at hk
  · cases hk
  · exact AList.lookup_isSome.mp hk

lemma Wipes.lowest (h : Wipes keys s t) (hl : Lowest s key) : Lowest t key := fun k hk =>
  hl k (AList.mem_keys.mp (h.mem_of_mem (AList.mem_keys.mpr hk)))

lemma wipes_refl (s : State V) : Wipes [] s s := ⟨rfl, rfl, rfl, fun _ => rfl, by simp⟩

lemma wipes_resetSettings (hn : ∀ k ∈ keys, Normal k) (hl : ∀ k ∈ keys, k ∈ s.storage → Lowest s k) :
    Wipes keys s (keys.foldl (fun s key => s.resetSetting key true) s) := by
  induction keys generalizing s with
  | nil => exact wipes_refl s
  | cons key keys ih =>
    have h : Wipes [key] s (s.resetSetting key true) :=
      wipes_removeSetting (hn key List.mem_cons_self) (hl key List.mem_cons_self)
    refine h.trans (ih (fun k hk => hn k (List.mem_cons_of_mem key hk)) fun k hk hs => ?_)
    exact h.lowest (hl k (List.mem_cons_of_mem key hk) (h.mem_of_mem hs))

lemma mem_registeredKeys : key ∈ s.registeredKeys ↔ key ∈ s.registered := by
  rw [registeredKeys, List.mem_insertionSort, AList.mem_keys]

lemma foldl_changed (keys : List Key) (s : State V) :
    keys.foldl changed s = { s with emitted := s.emitted ++ keys.flatMap s.listeners } := by
  induction keys generalizing s with
  | nil => simp
  | cons key keys ih =>
    rw [List.foldl_cons, ih, List.flatMap_cons, ← List.append_assoc]
    rfl

lemma foldl_changedOf (s : State V) (hr : ∀ k ∈ keys, group.groupKey ++ k ∈ s.registered) :
    keys.foldl (fun s key => s.changedOf (group.groupKey ++ key)) s =
      (keys.map (group.groupKey ++ ·)).foldl changed s := by
  induction keys generalizing s with
  | nil => rfl
  | cons key keys ih =>
    have hc : s.changedOf (group.groupKey ++ key) = s.changed (group.groupKey ++ key) := by
      obtain ⟨ls, hls⟩ := Option.isSome_iff_exists.mp (AList.lookup_isSome.mpr (hr key List.mem_cons_self))
      rw [changedOf, hls]
    rw [List.foldl_cons, List.map_cons, List.foldl_cons, hc]
    exact ih _ fun k hk => hr k (List.mem_cons_of_mem key hk)

lemma wipes_remove (hg : Normal group.groupKey) (hs : group.groupKey ∉ s.storage)
    (hr : ∀ k ∈ s.storage, group.covers k → k ∈ s.registered) :
    Wipes (s.storage.keys.filter group.covers) s (s.remove group) := by
  have hm (k : Key) : k ∈ s.storage.keys.filter group.covers ↔ k ∈ s.storage ∧ group.covers k := by
    simp [List.mem_filter, AList.mem_keys]
  have hk : ∀ key ∈ getAllKeys s.storage group.groupKey, group.groupKey ++ key ∈ s.registered := by
    intro key hkey
    obtain ⟨hne, hst⟩ := mem_getAllKeys.mp hkey
    exact hr _ hst (covers_append hne)
  rw [remove, hg.normalized, foldl_changedOf { s with storage := removeKey s.storage group.groupKey } hk, foldl_changed]
  refine ⟨rfl, rfl, rfl, fun k => ?_, fun id => ?_⟩
  · dsimp only
    rw [lookup_removeKey]
    simp only [hm]
    by_cases hp : group.groupKey <+: k
    · rw [if_pos hp]
      split_ifs with hc
      · rfl
      · have hn : k ∉ s.storage := by
          intro hst
          by_cases he : k = group.groupKey
          · exact hs (he ▸ hst)
          · exact hc ⟨hst, hp, he⟩
        exact (AList.lookup_eq_none.mpr hn).symm
    · rw [if_neg hp, if_neg fun hc => hp hc.2.1]
  · rw [List.mem_append]
    refine or_congr_right ⟨fun h => ?_, ?_⟩
    · obtain ⟨k, hkeys, hi⟩ := List.mem_flatMap.mp h
      obtain ⟨key, hkey, rfl⟩ := List.mem_map.mp hkeys
      obtain ⟨hne, hst⟩ := mem_getAllKeys.mp hkey
      exact ⟨_, (hm _).mpr ⟨hst, covers_append hne⟩, hst, hi⟩
    · rintro ⟨k, hkey, hst, hi⟩
      obtain ⟨key, hne, rfl⟩ := exists_of_covers ((hm k).mp hkey).2
      exact List.mem_flatMap.mpr ⟨_, List.mem_map.mpr ⟨key, mem_getAllKeys.mpr ⟨hne, hst⟩, rfl⟩, hi⟩

/-- A key gets a value, and its groups emit if it had another one. -/
structure Writes (key : Key) (value : Option V) (s t : State V) : Prop where
  registered : t.registered = s.registered
  groups : t.groups = s.groups
  dereferencedNull : t.dereferencedNull = s.dereferencedNull
  lookup : ∀ k, t.storage.lookup k = if k = key then some value else s.storage.lookup k
  emitted : ∀ id, id ∈ t.emitted ↔ id ∈ s.emitted ∨ s.storage.lookup key ≠ some value ∧ id ∈ s.listeners key

lemma writes_setSetting [DecidableEq V] {value : Option V} (hn : Normal key) :
    Writes key value s (s.setSetting key value) := by
  rw [setSetting, isSet, State.value, hn.normalized]
  by_cases hv : s.storage.lookup key = some value
  · rw [if_neg (by simp [hv])]
    refine ⟨rfl, rfl, rfl, fun k => ?_, by simp [hv]⟩
    split_ifs with hk
    · rw [hk, hv]
    · rfl
  · have hc : (!(s.storage.lookup key).isSome) = true ∨ (s.storage.lookup key).getD none ≠ value := by
      cases hl : s.storage.lookup key with
      | none => exact Or.inl rfl
      | some other => exact Or.inr fun he => hv (by rw [hl, ← he]; rfl)
    rw [if_pos hc]
    refine ⟨rfl, rfl, rfl, fun k => lookup_insert, fun id => ?_⟩
    change id ∈ s.emitted ++ s.listeners key ↔ _
    simp [hv]

/-- A group is connected to the settings of some keys. -/
structure Connects (id : ℕ) (keys : List Key) (s t : State V) : Prop where
  storage : t.storage = s.storage
  groups : t.groups = s.groups
  emitted : t.emitted = s.emitted
  dereferencedNull : t.dereferencedNull = s.dereferencedNull
  mem_registered : ∀ k, k ∈ t.registered ↔ k ∈ s.registered ∨ k ∈ keys
  listeners : ∀ k i, i ∈ t.listeners k ↔ i ∈ s.listeners k ∨ i = id ∧ k ∈ keys

lemma connects_addSetting (s : State V) (id : ℕ) (group : Group) (key : Key) :
    Connects id [group.groupKey ++ key] s (s.addSetting id group key) := by
  refine ⟨rfl, rfl, rfl, rfl, fun k => ?_, fun k i => ?_⟩
  · rw [addSetting, AList.mem_insert, List.mem_singleton, or_comm]
  · rw [State.listeners, addSetting, lookup_insert]
    by_cases hk : k = group.groupKey ++ key
    · rw [if_pos hk, hk]
      simp [State.listeners]
    · rw [if_neg hk]
      simp [State.listeners, hk]

lemma Connects.trans {others : List Key} {u : State V} (hs : Connects id keys s t) (ht : Connects id others t u) :
    Connects id (keys ++ others) s u := by
  refine ⟨ht.storage.trans hs.storage, ht.groups.trans hs.groups, ht.emitted.trans hs.emitted,
    ht.dereferencedNull.trans hs.dereferencedNull, fun k => ?_, fun k i => ?_⟩
  · rw [ht.mem_registered, hs.mem_registered, List.mem_append, or_assoc]
  · rw [ht.listeners, hs.listeners, List.mem_append, or_assoc, and_or_left]

lemma connects_foldl (s : State V) (id : ℕ) (group : Group) (keys : List Key) :
    Connects id (keys.map (group.groupKey ++ ·)) s (keys.foldl (fun s key => s.addSetting id group key) s) := by
  induction keys generalizing s with
  | nil => exact ⟨rfl, rfl, rfl, rfl, by simp, by simp⟩
  | cons key keys ih => exact (connects_addSetting s id group key).trans (ih _)

lemma connects_createSettingGroup (s : State V) (hn : Normal group.groupKey) :
    Connects s.groups.length ((getAllKeys s.storage group.groupKey).map (group.groupKey ++ ·))
      { s with groups := s.groups ++ [group] } (s.createSettingGroup group) := by
  rw [createSettingGroup, hn.normalized]
  exact connects_foldl _ _ _ _

/-- What is last set at each key and not removed since, after an operation. -/
def observe (removeWhenReset : Bool) (s : State V) (op : Op V) (last : Key → Option (Option V)) :
    Key → Option (Option V) :=
  match op with
  | .createSettingGroup _ => last
  | .set id key value =>
    match s.groups[id]? with
    | none => last
    | some group =>
      if isAcceptedKey group key then Function.update last (group.groupKey ++ key) (some value) else last
  | .remove id =>
    match s.groups[id]? with
    | none => last
    | some group => fun k => if group.covers k then none else last k
  | .setSetting key value => if key ∈ s.registered then Function.update last key (some value) else last
  | .removeSetting key => if key ∈ s.registered then Function.update last key none else last
  | .reset => fun k => if removeWhenReset = true ∧ k ∈ s.registered then none else last k
  | .hardReset => fun _ => none

/-- A group emits if and only if a value under its key has changed, it gives what was last set, and no setting that is
not registered was dereferenced. -/
structure Correct (before after : State V) (last : Key → Option (Option V)) : Prop where
  signals : ∀ id group, after.groups[id]? = some group →
    (id ∈ after.emitted ↔ ∃ k, group.covers k ∧ after.storage.lookup k ≠ before.storage.lookup k)
  values : ∀ group ∈ after.groups, ∀ key ≠ [], after.get group key = (last (group.groupKey ++ key)).getD none
  registered : after.dereferencedNull = false

/-- The operations of which all groups with a changed value are told. A group is created when every registered setting
under its key has a value, a setting is registered when no other group has its key, what is removed has nothing else
below it, and for `hardReset` each group with a setting has a value. -/
def Allowed (removeWhenReset : Bool) (s : State V) : Op V → Prop
  | .createSettingGroup group =>
    Normal group.groupKey ∧ ∀ k ∈ s.registered.keys, group.covers k → k ∈ s.storage
  | .set id key _ => ∀ group, s.groups[id]? = some group → isAcceptedKey group key = true →
    key ≠ [] ∧ Normal key ∧ (group.groupKey ++ key ∈ s.registered ∨
      ∀ i other, s.groups[i]? = some other → other.covers (group.groupKey ++ key) → i = id)
  | .remove id => ∀ group, s.groups[id]? = some group → group.groupKey ∉ s.storage
  | .setSetting _ _ => True
  | .removeSetting key => key ∈ s.registered → key ∈ s.storage → Lowest s key
  | .reset => removeWhenReset = true → ∀ key ∈ s.registered.keys, key ∈ s.storage → Lowest s key
  | .hardReset => ∀ group ∈ s.groups, (∃ k ∈ s.registered.keys, group.covers k) → ∃ k ∈ s.storage.keys, group.covers k

/-- Every group is connected to every registered setting under its key, and what is stored under its key is
registered. -/
structure Inv (s : State V) (last : Key → Option (Option V)) : Prop where
  storage : ∀ k ∈ s.storage, Normal k
  registered : ∀ k ∈ s.registered, Normal k
  groups : ∀ group ∈ s.groups, Normal group.groupKey
  listeners : ∀ id group k, s.groups[id]? = some group → (id ∈ s.listeners k ↔ k ∈ s.registered ∧ group.covers k)
  fresh : ∀ id k, id ∈ s.listeners k → id < s.groups.length
  stored : ∀ group ∈ s.groups, ∀ k ∈ s.storage, group.covers k → k ∈ s.registered
  last : ∀ k, last k = s.storage.lookup k
  dereferencedNull : s.dereferencedNull = false

variable {last last' : Key → Option (Option V)}

lemma Inv.values (hi : Inv s last) (hg : group ∈ s.groups) (hk : key ≠ []) :
    s.get group key = (last (group.groupKey ++ key)).getD none := by
  rw [State.get, hi.last]
  cases hr : s.registered.lookup (group.groupKey ++ key) with
  | none =>
    have hn : group.groupKey ++ key ∉ s.storage := fun hs =>
      AList.lookup_eq_none.mp hr (hi.stored group hg _ hs (covers_append hk))
    rw [AList.lookup_eq_none.mpr hn]
    rfl
  | some ls =>
    have hm : group.groupKey ++ key ∈ s.registered := AList.lookup_isSome.mp (by rw [hr]; rfl)
    dsimp only
    rw [State.value, (hi.registered _ hm).normalized]

lemma Inv.cleared (hi : Inv s last) : Inv { s with emitted := [] } last :=
  ⟨hi.storage, hi.registered, hi.groups, hi.listeners, hi.fresh, hi.stored, hi.last, hi.dereferencedNull⟩

lemma Inv.of_storage (hi : Inv s last) (hr : t.registered = s.registered) (hg : t.groups = s.groups)
    (hd : t.dereferencedNull = s.dereferencedNull) (hl : ∀ k, last' k = t.storage.lookup k)
    (hs : ∀ k ∈ t.storage, k ∈ s.storage ∨ k ∈ s.registered) : Inv t last' := by
  have hls (k : Key) : t.listeners k = s.listeners k := by rw [State.listeners, State.listeners, hr]
  refine ⟨fun k hk => (hs k hk).elim (hi.storage k) (hi.registered k), ?_, ?_, ?_, ?_, ?_, hl, ?_⟩
  · rw [hr]
    exact hi.registered
  · rw [hg]
    exact hi.groups
  · intro id group k hgr
    rw [hg] at hgr
    rw [hls, hr]
    exact hi.listeners id group k hgr
  · intro id k hk
    rw [hls] at hk
    rw [hg]
    exact hi.fresh id k hk
  · intro group hgr k hk hc
    rw [hg] at hgr
    rw [hr]
    exact (hs k hk).elim (fun h => hi.stored group hgr k h hc) id
  · rw [hd]
    exact hi.dereferencedNull

lemma Inv.correct (ht : Inv t last') (hsig : ∀ id group, t.groups[id]? = some group →
    (id ∈ t.emitted ↔ ∃ k, group.covers k ∧ t.storage.lookup k ≠ s.storage.lookup k)) :
    Inv t last' ∧ Correct s t last' :=
  ⟨ht, hsig, fun _ hg _ hk => ht.values hg hk, ht.dereferencedNull⟩

section Ops

variable (hi : Inv s last)
include hi

lemma Inv.mem_listeners (hg : s.groups[id]? = some group) (hk : k ∈ s.registered) :
    id ∈ s.listeners k ↔ group.covers k := by
  rw [hi.listeners id group k hg, and_iff_right hk]

lemma Inv.writes {value : Option V} (he : s.emitted = []) (hr : key ∈ s.registered) (h : Writes key value s t) :
    Inv t (Function.update last key (some value)) ∧ Correct s t (Function.update last key (some value)) := by
  apply Inv.correct
  · refine hi.of_storage h.registered h.groups h.dereferencedNull (fun k => ?_) fun k hk => ?_
    · rw [h.lookup, Function.update_apply, hi.last]
    · rw [← AList.lookup_isSome, h.lookup] at hk
      by_cases hkk : k = key
      · exact Or.inr (hkk ▸ hr)
      · rw [if_neg hkk] at hk
        exact Or.inl (AList.lookup_isSome.mp hk)
  · intro id group hg
    rw [h.groups] at hg
    rw [h.emitted, he, hi.mem_listeners hg hr]
    constructor
    · rintro (hn | ⟨hne, hc⟩)
      · cases hn
      · exact ⟨key, hc, by rw [h.lookup, if_pos rfl]; exact hne.symm⟩
    · rintro ⟨k, hc, hne⟩
      rw [h.lookup] at hne
      by_cases hkk : k = key
      · rw [if_pos hkk, hkk] at hne
        exact Or.inr ⟨hne.symm, hkk ▸ hc⟩
      · rw [if_neg hkk] at hne
        exact absurd rfl hne

lemma Inv.wipes (he : s.emitted = []) (hr : ∀ k ∈ keys, k ∈ s.registered)
    (hl : ∀ k, last' k = if k ∈ keys then none else last k) (h : Wipes keys s t) : Inv t last' ∧ Correct s t last' := by
  apply Inv.correct
  · refine hi.of_storage h.registered h.groups h.dereferencedNull (fun k => ?_) fun k hk => Or.inl (h.mem_of_mem hk)
    rw [h.lookup, hl, hi.last]
  · intro id group hg
    rw [h.groups] at hg
    rw [h.emitted, he]
    constructor
    · rintro (hn | ⟨k, hk, hs, hid⟩)
      · cases hn
      · refine ⟨k, (hi.mem_listeners hg (hr k hk)).mp hid, ?_⟩
        rw [h.lookup, if_pos hk]
        exact fun hn => AList.lookup_eq_none.mp hn.symm hs
    · rintro ⟨k, hc, hne⟩
      rw [h.lookup] at hne
      by_cases hk : k ∈ keys
      · rw [if_pos hk] at hne
        have hs : k ∈ s.storage := by
          by_contra hn
          exact hne (AList.lookup_eq_none.mpr hn).symm
        exact Or.inr ⟨k, hk, hs, (hi.mem_listeners hg (hr k hk)).mpr hc⟩
      · rw [if_neg hk] at hne
        exact absurd rfl hne

lemma Inv.addSetting (hg : s.groups[id]? = some group) (hk : key ≠ []) (hn : Normal key)
    (hr : group.groupKey ++ key ∉ s.registered)
    (ho : ∀ i other, s.groups[i]? = some other → other.covers (group.groupKey ++ key) → i = id) :
    Inv (s.addSetting id group key) last := by
  have h := connects_addSetting s id group key
  have hm (k : Key) : k ∈ (s.addSetting id group key).registered ↔ k ∈ s.registered ∨ k = group.groupKey ++ key := by
    rw [h.mem_registered, List.mem_singleton]
  have hgn := hi.groups group (List.mem_of_getElem? hg)
  refine ⟨hi.storage, fun k hkr => ?_, hi.groups, fun i other k hother => ?_, fun i k hik => ?_, fun other ho' k hks hc => ?_,
    hi.last, hi.dereferencedNull⟩
  · rcases (hm k).mp hkr with hkr | rfl
    · exact hi.registered k hkr
    · exact hgn.append hn
  · have hother' : s.groups[i]? = some other := hother
    rw [h.listeners, hm, List.mem_singleton, hi.listeners i other k hother]
    by_cases hkk : k = group.groupKey ++ key
    · subst hkk
      constructor
      · rintro (⟨hkr, -⟩ | ⟨rfl, -⟩)
        · exact absurd hkr hr
        · obtain rfl := Option.some.inj (hg.symm.trans hother')
          exact ⟨Or.inr rfl, covers_append hk⟩
      · exact fun hc => Or.inr ⟨ho i other hother' hc.2, rfl⟩
    · simp [hkk]
  · rw [h.listeners] at hik
    rcases hik with hik | ⟨rfl, -⟩
    · exact hi.fresh i k hik
    · exact (List.getElem?_eq_some_iff.mp hg).1
  · exact (hm k).mpr (Or.inl (hi.stored other ho' k hks hc))

lemma Inv.createSettingGroup (hn : Normal group.groupKey)
    (hr : ∀ k ∈ s.registered.keys, group.covers k → k ∈ s.storage) : Inv (s.createSettingGroup group) last := by
  have h := connects_createSettingGroup s hn
  have hkeys (k : Key) : k ∈ (getAllKeys s.storage group.groupKey).map (group.groupKey ++ ·) ↔
      k ∈ s.storage ∧ group.covers k := by
    constructor
    · intro hk
      obtain ⟨key, hkey, rfl⟩ := List.mem_map.mp hk
      obtain ⟨hne, hst⟩ := mem_getAllKeys.mp hkey
      exact ⟨hst, covers_append hne⟩
    · rintro ⟨hst, hc⟩
      obtain ⟨key, hne, rfl⟩ := exists_of_covers hc
      exact List.mem_map.mpr ⟨key, mem_getAllKeys.mpr ⟨hne, hst⟩, rfl⟩
  have hm (k : Key) : k ∈ (s.createSettingGroup group).registered ↔
      k ∈ s.registered ∨ k ∈ s.storage ∧ group.covers k := by
    rw [h.mem_registered, hkeys]
  have hl (k : Key) (i : ℕ) : i ∈ (s.createSettingGroup group).listeners k ↔
      i ∈ s.listeners k ∨ i = s.groups.length ∧ k ∈ s.storage ∧ group.covers k := by
    rw [h.listeners, hkeys]
    rfl
  have hgroups : (s.createSettingGroup group).groups = s.groups ++ [group] := h.groups
  have hstorage : (s.createSettingGroup group).storage = s.storage := h.storage
  refine ⟨?_, ?_, ?_, ?_, ?_, ?_, ?_, h.dereferencedNull.trans hi.dereferencedNull⟩
  · rw [hstorage]
    exact hi.storage
  · intro k hk
    rcases (hm k).mp hk with hk | ⟨hk, -⟩
    · exact hi.registered k hk
    · exact hi.storage k hk
  · intro other ho
    rw [hgroups, List.mem_append, List.mem_singleton] at ho
    rcases ho with ho | rfl
    · exact hi.groups other ho
    · exact hn
  · intro i other k ho
    rw [hgroups] at ho
    rw [hl, hm]
    rcases lt_or_ge i s.groups.length with hlt | hge
    · rw [List.getElem?_append_left hlt] at ho
      rw [hi.listeners i other k ho]
      constructor
      · rintro (⟨hk, hc⟩ | ⟨rfl, -⟩)
        · exact ⟨Or.inl hk, hc⟩
        · exact absurd hlt (lt_irrefl _)
      · rintro ⟨hk | ⟨hs, -⟩, hc⟩
        · exact Or.inl ⟨hk, hc⟩
        · exact Or.inl ⟨hi.stored other (List.mem_of_getElem? ho) k hs hc, hc⟩
    · rw [List.getElem?_append_right hge, List.getElem?_singleton] at ho
      obtain ⟨hlen, rfl⟩ : i - s.groups.length = 0 ∧ group = other := by
        split_ifs at ho with hz
        exact ⟨hz, Option.some.inj ho⟩
      obtain rfl : i = s.groups.length := by omega
      constructor
      · rintro (hf | ⟨-, hs, hc⟩)
        · exact absurd (hi.fresh _ k hf) (lt_irrefl _)
        · exact ⟨Or.inr ⟨hs, hc⟩, hc⟩
      · rintro ⟨hk | ⟨hs, -⟩, hc⟩
        · exact Or.inr ⟨rfl, hr k (AList.mem_keys.mp hk) hc, hc⟩
        · exact Or.inr ⟨rfl, hs, hc⟩
  · intro i k hik
    rw [hgroups, List.length_append, List.length_singleton]
    rcases (hl k i).mp hik with hik | ⟨rfl, -⟩
    · have := hi.fresh i k hik
      omega
    · omega
  · intro other ho k hk hc
    rw [hstorage] at hk
    rw [hgroups, List.mem_append, List.mem_singleton] at ho
    rcases ho with ho | rfl
    · exact (hm k).mpr (Or.inl (hi.stored other ho k hk hc))
    · exact (hm k).mpr (Or.inr ⟨hk, hc⟩)
  · rw [hstorage]
    exact hi.last

end Ops

lemma Inv.unchanged (hi : Inv s last) (he : s.emitted = []) : Inv s last ∧ Correct s s last := by
  refine Inv.correct hi fun id group _ => ?_
  rw [he]
  simp

lemma isNone_lookup : (s.registered.lookup key).isNone = true ↔ key ∉ s.registered := by
  rw [Option.isNone_iff_eq_none, AList.lookup_eq_none]

lemma set_accepted [DecidableEq V] {value : Option V} (h : isAcceptedKey group key = true) :
    s.set id group key value = (if group.groupKey ++ key ∈ s.registered then s
      else s.addSetting id group key).setSetting (group.groupKey ++ key) value := by
  rw [State.set, if_neg (by simp [h])]
  simp only [isNone_lookup, ite_not]

lemma correct_set [DecidableEq V] {value : Option V} (hi : Inv s last) (he : s.emitted = [])
    (ha : Allowed removeWhenReset s (.set id key value)) :
    Inv (operate removeWhenReset s (.set id key value)) (observe removeWhenReset s (.set id key value) last) ∧
      Correct s (operate removeWhenReset s (.set id key value))
        (observe removeWhenReset s (.set id key value) last) := by
  rw [operate, observe]
  cases hg : s.groups[id]? with
  | none => exact hi.unchanged he
  | some group =>
    dsimp only
    by_cases hacc : isAcceptedKey group key = true
    · obtain ⟨hk, hn, ho⟩ := ha group hg hacc
      have hfull := (hi.groups group (List.mem_of_getElem? hg)).append hn
      rw [set_accepted hacc, if_pos hacc]
      by_cases hr : group.groupKey ++ key ∈ s.registered
      · rw [if_pos hr]
        exact hi.writes he hr (writes_setSetting hfull)
      · rw [if_neg hr]
        have hi' := hi.addSetting hg hk hn hr (ho.resolve_left hr)
        have hr' : group.groupKey ++ key ∈ (s.addSetting id group key).registered :=
          ((connects_addSetting s id group key).mem_registered _).mpr (Or.inr List.mem_cons_self)
        have hw : Writes (group.groupKey ++ key) value (s.addSetting id group key) _ := writes_setSetting hfull
        obtain ⟨ht, hc⟩ := hi'.writes he hr' hw
        exact ⟨ht, hc.signals, hc.values, hc.registered⟩
    · rw [State.set, if_pos (by simpa using hacc), if_neg hacc]
      exact hi.unchanged he

lemma correct_hardReset (hi : Inv s last) (he : s.emitted = [])
    (ha : ∀ group ∈ s.groups, (∃ k ∈ s.registered.keys, group.covers k) → ∃ k ∈ s.storage.keys, group.covers k) :
    Inv s.hardReset (fun _ => none) ∧ Correct s s.hardReset fun _ => none := by
  have hempty (k : Key) : (∅ : Table Key (Option V)).lookup k = none :=
    AList.lookup_eq_none.mpr (AList.notMem_empty k)
  rw [hardReset, foldl_changed]
  apply Inv.correct
  · refine hi.of_storage rfl rfl rfl (fun k => (hempty k).symm) fun k hk => ?_
    exact absurd hk (AList.notMem_empty k)
  · intro id group hg
    have hg' : s.groups[id]? = some group := hg
    have hgm := List.mem_of_getElem? hg'
    dsimp only
    rw [he, List.nil_append, List.mem_flatMap]
    constructor
    · rintro ⟨k, hk, hid⟩
      have hk := mem_registeredKeys.mp hk
      obtain ⟨k', hk', hc⟩ := ha group hgm ⟨k, AList.mem_keys.mp hk, (hi.mem_listeners hg' hk).mp hid⟩
      refine ⟨k', hc, fun hn => ?_⟩
      rw [hempty] at hn
      exact AList.lookup_eq_none.mp hn.symm (AList.mem_keys.mpr hk')
    · rintro ⟨k, hc, hne⟩
      rw [hempty] at hne
      have hs : k ∈ s.storage := by
        by_contra hn
        exact hne (AList.lookup_eq_none.mpr hn).symm
      have hr := hi.stored group hgm k hs hc
      exact ⟨k, mem_registeredKeys.mpr hr, (hi.mem_listeners hg' hr).mpr hc⟩

lemma foldl_resetSetting_false (s : State V) (keys : List Key) :
    keys.foldl (fun s key => s.resetSetting key false) s = s := by
  induction keys with
  | nil => rfl
  | cons key keys ih => exact ih

lemma correct_operate [DecidableEq V] (op : Op V) (hi : Inv s last) (he : s.emitted = [])
    (ha : Allowed removeWhenReset s op) :
    Inv (operate removeWhenReset s op) (observe removeWhenReset s op last) ∧
      Correct s (operate removeWhenReset s op) (observe removeWhenReset s op last) := by
  cases op with
  | createSettingGroup group =>
    have h := connects_createSettingGroup s ha.1
    refine Inv.correct (hi.createSettingGroup ha.1 ha.2) fun id other _ => ?_
    change id ∈ (s.createSettingGroup group).emitted ↔
      ∃ k, other.covers k ∧ (s.createSettingGroup group).storage.lookup k ≠ s.storage.lookup k
    rw [h.emitted, h.storage]
    simp [he]
  | set id key value => exact correct_set hi he ha
  | remove id =>
    rw [operate, observe]
    cases hg : s.groups[id]? with
    | none => exact hi.unchanged he
    | some group =>
      have hgm := List.mem_of_getElem? hg
      have hm (k : Key) : k ∈ s.storage.keys.filter group.covers ↔ k ∈ s.storage ∧ group.covers k := by
        simp [List.mem_filter, AList.mem_keys]
      refine hi.wipes he (fun k hk => ?_) (fun k => ?_)
        (wipes_remove (hi.groups group hgm) (ha group hg) (hi.stored group hgm))
      · exact hi.stored group hgm k ((hm k).mp hk).1 ((hm k).mp hk).2
      · simp only [hm]
        split_ifs with hc hf hf
        · rfl
        · rw [hi.last]
          exact (AList.lookup_eq_none.mpr fun hs => hf ⟨hs, hc⟩).symm
        · exact absurd hf.2 hc
        · rfl
  | setSetting key value =>
    rw [operate, observe]
    simp only [isNone_lookup, ite_not]
    by_cases hr : key ∈ s.registered
    · rw [if_pos hr, if_pos hr]
      exact hi.writes he hr (writes_setSetting (hi.registered key hr))
    · rw [if_neg hr, if_neg hr]
      exact hi.unchanged he
  | removeSetting key =>
    rw [operate, observe]
    simp only [isNone_lookup, ite_not]
    by_cases hr : key ∈ s.registered
    · rw [if_pos hr, if_pos hr]
      refine hi.wipes he (fun k hk => List.mem_singleton.mp hk ▸ hr) (fun k => ?_)
        (wipes_removeSetting (hi.registered key hr) (ha hr))
      simp only [List.mem_singleton, Function.update_apply]
    · rw [if_neg hr, if_neg hr]
      exact hi.unchanged he
  | reset =>
    rw [operate, observe, reset]
    cases removeWhenReset with
    | false =>
      rw [foldl_resetSetting_false]
      simp only [Bool.false_eq_true, false_and, if_false]
      exact hi.unchanged he
    | true =>
      refine hi.wipes he (fun k hk => mem_registeredKeys.mp hk) (fun k => ?_) (wipes_resetSettings
        (fun k hk => hi.registered k (mem_registeredKeys.mp hk))
        fun k hk => ha rfl k (AList.mem_keys.mp (mem_registeredKeys.mp hk)))
      simp only [mem_registeredKeys, true_and]
  | hardReset => exact correct_hardReset hi he ha

/-- A storage with some contents, before there are groups. -/
def initial (contents : List (Key × Option V)) : State V where
  storage := contents.foldl (fun t e => t.insert (normalized e.1) e.2) ∅

lemma normal_of_mem_foldl {contents : List (Key × Option V)} {t : Table Key (Option V)} (ht : ∀ k ∈ t, Normal k) :
    ∀ k ∈ contents.foldl (fun t e => t.insert (normalized e.1) e.2) t, Normal k := by
  induction contents generalizing t with
  | nil => exact ht
  | cons e contents ih =>
    apply ih
    intro k hk
    rw [AList.mem_insert] at hk
    rcases hk with rfl | hk
    · exact normal_normalized e.1
    · exact ht k hk

lemma inv_initial (contents : List (Key × Option V)) :
    Inv (initial contents) fun k => (initial contents).storage.lookup k := by
  have hn (k : Key) : k ∉ (∅ : Table Key (List ℕ)) := AList.notMem_empty k
  have hl (k : Key) : (initial contents).listeners k = [] := by
    change ((∅ : Table Key (List ℕ)).lookup k).getD [] = []
    rw [AList.lookup_eq_none.mpr (hn k)]
    rfl
  refine ⟨normal_of_mem_foldl fun k hk => absurd hk (AList.notMem_empty k), fun k hk => absurd hk (hn k), ?_, ?_, ?_, ?_,
    fun _ => rfl, rfl⟩
  · intro group hg
    cases hg
  · intro id group k hg
    cases hg
  · intro id k hk
    rw [hl] at hk
    cases hk
  · intro group hg
    cases hg

lemma correct_step [DecidableEq V] {op : Op V} (hi : Inv s last) (ha : Allowed removeWhenReset s op) :
    Inv (step removeWhenReset s op) (observe removeWhenReset s op last) ∧
      Correct s (step removeWhenReset s op) (observe removeWhenReset s op last) := by
  have ha' : Allowed removeWhenReset { s with emitted := [] } op := by cases op <;> exact ha
  have ho : observe removeWhenReset { s with emitted := [] } op last = observe removeWhenReset s op last := by
    cases op <;> rfl
  obtain ⟨ht, hc⟩ := correct_operate op hi.cleared rfl ha'
  rw [ho] at ht hc
  exact ⟨ht, hc.signals, hc.values, hc.registered⟩

/-- In a run of allowed operations every operation is correct. -/
theorem correct_of_allowed (V : Type) [DecidableEq V] (removeWhenReset : Bool) (contents : List (Key × Option V))
    (ops : List (Op V)) (h : Meets (step removeWhenReset) (Allowed removeWhenReset) (initial contents) ops) :
    Meets (watch (step removeWhenReset) (observe removeWhenReset))
      (fun p op => Correct p.1 (step removeWhenReset p.1 op) (observe removeWhenReset p.1 op p.2))
      (initial contents, fun k => (initial contents).storage.lookup k) ops := by
  have hw := (meets_watch (observe removeWhenReset) fun k => (initial contents).storage.lookup k).mpr h
  exact hw.along (P := fun p => Inv p.1 p.2) (fun p op hi ha => (correct_step hi ha).1)
    (fun p op hi ha => (correct_step hi ha).2) (inv_initial contents)

def oneGroup : Group := { groupKey := ["g"] }

def writes : List (Op ℕ) := [.createSettingGroup oneGroup, .set 0 ["k"] (some 1), .setSetting ["g", "k"] (some 2)]

theorem correct_writes : Meets (watch (step true) (observe true))
    (fun p op => Correct p.1 (step true p.1 op) (observe true p.1 op p.2))
    (initial [], fun k => (initial []).storage.lookup k) writes := by
  refine correct_of_allowed ℕ true [] writes ⟨⟨by decide, ?_⟩, ?_, trivial, trivial⟩
  · intro k hk
    cases hk
  · intro group hg _
    obtain rfl : oneGroup = group := Option.some.inj hg
    refine ⟨by decide, by decide, Or.inr fun i other ho _ => ?_⟩
    cases i with
    | zero => rfl
    | succ i => cases ho

/-- Two groups with the same key, of which the first registers a setting. -/
def twoGroups : List (Op ℕ) := [.createSettingGroup oneGroup, .createSettingGroup oneGroup, .set 0 ["k"] (some 1)]

theorem not_correct_twoGroups : ¬ Meets (watch (step true) (observe true))
    (fun p op => Correct p.1 (step true p.1 op) (observe true p.1 op p.2))
    (initial [], fun k => (initial []).storage.lookup k) twoGroups := by
  intro h
  have hs := h.2.2.1.signals 1 oneGroup rfl
  have hn : 1 ∉ (run (step true) (initial []) twoGroups).emitted := by decide +kernel
  apply hn
  exact hs.mpr ⟨["g", "k"], by decide, by decide +kernel⟩

end VpnClient.Settings.SettingGroup
