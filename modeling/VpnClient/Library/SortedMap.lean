import Mathlib.Tactic

/-! Maps that are iterated over in the order of their keys: where an entry stands, and what comes before it. -/

namespace VpnClient.Library

structure SortedMap (K V : Type) [LinearOrder K] where
  entries : List (K × V)
  sorted : entries.Pairwise (·.1 < ·.1)
  deriving DecidableEq

namespace SortedMap

variable {K V : Type} [LinearOrder K]

def insertEntry (k : K) (v : V) : List (K × V) → List (K × V)
  | [] => [(k, v)]
  | e :: entries =>
    if k < e.1 then (k, v) :: e :: entries
    else if k = e.1 then (k, v) :: entries
    else e :: insertEntry k v entries

variable {k : K} {v w : V} {e : K × V} {entries before after : List (K × V)} {m : SortedMap K V}

lemma mem_insertEntry (h : e ∈ insertEntry k v entries) : e = (k, v) ∨ e ∈ entries := by
  induction entries with
  | nil => exact .inl (List.mem_singleton.mp h)
  | cons f entries ih =>
    rw [insertEntry] at h
    split_ifs at h
    · exact List.mem_cons.mp h
    · exact (List.mem_cons.mp h).imp_right (List.mem_cons_of_mem f)
    · rcases List.mem_cons.mp h with rfl | h
      · exact .inr List.mem_cons_self
      · exact (ih h).imp_right (List.mem_cons_of_mem f)

lemma sorted_insertEntry (h : entries.Pairwise (·.1 < ·.1)) : (insertEntry k v entries).Pairwise (·.1 < ·.1) := by
  induction entries with
  | nil => exact List.pairwise_singleton ..
  | cons f entries ih =>
    obtain ⟨hf, he⟩ := List.pairwise_cons.mp h
    rw [insertEntry]
    split_ifs with hl hk
    · refine List.pairwise_cons.mpr ⟨?_, h⟩
      intro e hm
      rcases List.mem_cons.mp hm with rfl | hm
      · exact hl
      · exact hl.trans (hf e hm)
    · exact List.pairwise_cons.mpr ⟨fun e hm => hk ▸ hf e hm, he⟩
    · refine List.pairwise_cons.mpr ⟨?_, ih he⟩
      intro e hm
      rcases mem_insertEntry hm with rfl | hm
      · exact lt_of_le_of_ne (not_lt.mp hl) (Ne.symm hk)
      · exact hf e hm

def empty : SortedMap K V := { entries := [], sorted := .nil }

def insert (k : K) (v : V) (m : SortedMap K V) : SortedMap K V :=
  { entries := insertEntry k v m.entries, sorted := sorted_insertEntry m.sorted }

def erase (k : K) (m : SortedMap K V) : SortedMap K V :=
  { entries := m.entries.filter (·.1 ≠ k), sorted := m.sorted.filter _ }

def lookup (k : K) (m : SortedMap K V) : Option V := (m.entries.find? (·.1 = k)).map (·.2)

lemma mem_insert (h : e ∈ (m.insert k v).entries) : e = (k, v) ∨ e ∈ m.entries := mem_insertEntry h

lemma mem_erase (h : e ∈ (m.erase k).entries) : e ∈ m.entries := List.mem_of_mem_filter h

lemma insertEntry_append (hb : ∀ e ∈ before, e.1 < k) :
    insertEntry k v (before ++ after) = before ++ insertEntry k v after := by
  induction before with
  | nil => rfl
  | cons f before ih =>
    have hf := hb f List.mem_cons_self
    rw [List.cons_append, insertEntry, if_neg hf.not_gt, if_neg hf.ne', ih fun e he => hb e (List.mem_cons_of_mem f he)]
    rfl

/-- The entry of a key stands after those of the lesser and before those of the greater keys. -/
structure Splits (m : SortedMap K V) (k : K) (v : V) (before after : List (K × V)) : Prop where
  entries : m.entries = before ++ (k, v) :: after
  lesser : ∀ e ∈ before, e.1 < k
  greater : ∀ e ∈ after, k < e.1

lemma exists_splits_of_mem (h : (k, v) ∈ m.entries) : ∃ before after, Splits m k v before after := by
  obtain ⟨before, after, hs⟩ := List.append_of_mem h
  have hp := hs ▸ m.sorted
  obtain ⟨-, ha, hb⟩ := List.pairwise_append.mp hp
  exact ⟨before, after, hs, fun e he => hb e he (k, v) List.mem_cons_self, (List.pairwise_cons.mp ha).1⟩

lemma Splits.lookup (h : Splits m k v before after) : m.lookup k = some v := by
  have hb : before.find? (·.1 = k) = none := List.find?_eq_none.mpr fun e he => by simpa using (h.lesser e he).ne
  rw [SortedMap.lookup, h.entries, List.find?_append, hb]
  simp

lemma exists_splits (h : m.lookup k = some v) : ∃ before after, Splits m k v before after := by
  rw [lookup, Option.map_eq_some_iff] at h
  obtain ⟨e, he, rfl⟩ := h
  obtain rfl : e.1 = k := by simpa using List.find?_some he
  exact exists_splits_of_mem (List.mem_of_find?_eq_some he)

lemma lookup_of_mem (h : (k, v) ∈ m.entries) : m.lookup k = some v := by
  obtain ⟨before, after, hs⟩ := exists_splits_of_mem h
  exact hs.lookup

lemma Splits.insert (h : Splits m k v before after) (w : V) : Splits (m.insert k w) k w before after := by
  refine ⟨?_, h.lesser, h.greater⟩
  change insertEntry k w m.entries = _
  rw [h.entries, insertEntry_append h.lesser, insertEntry, if_neg (lt_irrefl k), if_pos rfl]

lemma Splits.erase (h : Splits m k v before after) : (m.erase k).entries = before ++ after := by
  have hb : before.filter (·.1 ≠ k) = before := List.filter_eq_self.mpr fun e he => by simpa using (h.lesser e he).ne
  have ha : after.filter (·.1 ≠ k) = after := List.filter_eq_self.mpr fun e he => by simpa using (h.greater e he).ne'
  change m.entries.filter _ = _
  rw [h.entries, List.filter_append, hb, List.filter_cons_of_neg (by simp), ha]

lemma erase_of_lookup_none (h : m.lookup k = none) : (m.erase k).entries = m.entries := by
  refine List.filter_eq_self.mpr fun e he => ?_
  simpa using List.find?_eq_none.mp (Option.map_eq_none_iff.mp h) e he

lemma exists_insertEntry (hn : ∀ e ∈ entries, e.1 ≠ k) :
    ∃ before after, entries = before ++ after ∧ insertEntry k v entries = before ++ (k, v) :: after := by
  induction entries with
  | nil => exact ⟨[], [], rfl, rfl⟩
  | cons f entries ih =>
    rw [insertEntry]
    split_ifs with hl hk
    · exact ⟨[], f :: entries, rfl, rfl⟩
    · exact absurd hk.symm (hn f List.mem_cons_self)
    · obtain ⟨before, after, rfl, hi⟩ := ih fun e he => hn e (List.mem_cons_of_mem f he)
      exact ⟨f :: before, after, rfl, congrArg (f :: ·) hi⟩

lemma exists_insert (h : m.lookup k = none) (v : V) :
    ∃ before after, m.entries = before ++ after ∧ Splits (m.insert k v) k v before after := by
  obtain ⟨before, after, hs, hi⟩ := exists_insertEntry (v := v) fun e he => by
    simpa using List.find?_eq_none.mp (Option.map_eq_none_iff.mp h) e he
  have hp : (before ++ (k, v) :: after).Pairwise (·.1 < ·.1) := hi ▸ sorted_insertEntry m.sorted
  obtain ⟨-, ha, hb⟩ := List.pairwise_append.mp hp
  exact ⟨before, after, hs, hi, fun f hf => hb f hf (k, v) List.mem_cons_self, (List.pairwise_cons.mp ha).1⟩

def keys (m : SortedMap K V) : List K := m.entries.map (·.1)

lemma nodup_keys (m : SortedMap K V) : m.keys.Nodup := (List.pairwise_map.mpr m.sorted).imp fun h => h.ne

lemma mem_keys_insertEntry {k' : K} :
    k' ∈ (insertEntry k v entries).map (·.1) ↔ k' = k ∨ k' ∈ entries.map (·.1) := by
  induction entries with
  | nil => simp [insertEntry]
  | cons f entries ih =>
    rw [insertEntry]
    split_ifs with hl hk
    · simp
    · simp [hk]
    · rw [List.map_cons, List.mem_cons, ih, List.map_cons, List.mem_cons]
      exact or_left_comm

lemma mem_keys_insert {k' : K} : k' ∈ (m.insert k v).keys ↔ k' = k ∨ k' ∈ m.keys := mem_keys_insertEntry

end SortedMap

end VpnClient.Library
