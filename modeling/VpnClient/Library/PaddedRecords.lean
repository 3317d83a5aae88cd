import VpnClient.Library.LittleEndian

/-! Records that start with their own length, one behind the other, each padded to a multiple of an alignment. -/

namespace VpnClient.Library.PaddedRecords

open LittleEndian

abbrev Bytes := List UInt8

/-- The length of a record is in its first `lengthSize` bytes and counts the `header`. -/
structure Layout where
  alignTo : ℕ
  header : ℕ
  lengthSize : ℕ
  align_pos : 0 < alignTo
  lengthSize_pos : 0 < lengthSize
  lengthSize_le : lengthSize ≤ header

namespace Layout

variable (l : Layout)

def align (n : ℕ) : ℕ := (n + l.alignTo - 1) / l.alignTo * l.alignTo

def length (data : Bytes) : ℕ := value (data.take l.lengthSize)

/-- A record with the length of its content, where `rest` is what the header has behind the length. -/
def record (rest body : Bytes) : Bytes :=
  bytes l.lengthSize (l.lengthSize + rest.length + body.length) ++ rest ++ body

def padded (r : Bytes) : Bytes := r ++ List.replicate (l.align r.length - r.length) 0

/-- The loop over the records, which ends at one that does not fit. -/
def walk (data : Bytes) : List Bytes :=
  if data.length < l.header ∨ l.length data < l.header ∨ data.length < l.length data then []
  else data.take (l.length data) :: walk (data.drop (l.align (l.length data)))
termination_by data.length
decreasing_by
  have hp := l.lengthSize_pos
  have hh := l.lengthSize_le
  have ha : l.length data ≤ l.align (l.length data) := by
    have hd := Nat.div_add_mod (l.length data + l.alignTo - 1) l.alignTo
    have hm := Nat.mod_lt (l.length data + l.alignTo - 1) l.align_pos
    rw [align, Nat.mul_comm]
    omega
  rw [List.length_drop]
  omega

/-- Bytes that are a record: the header fits, and the length is that of the bytes. -/
structure IsRecord (r : Bytes) : Prop where
  header_le : l.header ≤ r.length
  length_eq : l.length r = r.length

variable {l} {r more data rest body : Bytes} {rs : List Bytes} {m n : ℕ}

lemma le_align (l : Layout) (n : ℕ) : n ≤ l.align n := by
  have hd := Nat.div_add_mod (n + l.alignTo - 1) l.alignTo
  have hm := Nat.mod_lt (n + l.alignTo - 1) l.align_pos
  have hp := l.align_pos
  rw [align, Nat.mul_comm]
  omega

lemma align_of_dvd (h : l.alignTo ∣ n) : l.align n = n := by
  obtain ⟨k, rfl⟩ := h
  have hp := l.align_pos
  have hd : (l.alignTo * k + l.alignTo - 1) / l.alignTo = k := by
    rw [Nat.add_sub_assoc hp, Nat.mul_add_div hp, Nat.div_eq_of_lt (by omega), Nat.add_zero]
  rw [align, hd, Nat.mul_comm]

@[simp] lemma length_padded (l : Layout) (r : Bytes) : (l.padded r).length = l.align r.length := by
  have := l.le_align r.length
  simp [padded]
  omega

lemma length_record : (l.record rest body).length = l.lengthSize + rest.length + body.length := by
  simp [record]
  omega

lemma isRecord_record (hr : l.lengthSize + rest.length = l.header)
    (hb : l.header + body.length < 256 ^ l.lengthSize) : l.IsRecord (l.record rest body) where
  header_le := by
    rw [length_record]
    omega
  length_eq := by
    rw [length, length_record, record, List.append_assoc, List.take_left' (length_bytes ..), value_bytes, hr,
      Nat.mod_eq_of_lt hb]

lemma drop_record (hr : l.lengthSize + rest.length = l.header) : (l.record rest body).drop l.header = body := by
  rw [record]
  exact List.drop_left' (by simp [hr])

lemma IsRecord.length_append (h : l.IsRecord r) (more : Bytes) : l.length (r ++ more) = r.length := by
  have hl := l.lengthSize_le
  have hh := h.header_le
  rw [← h.length_eq, length, length, List.take_append_of_le_length (by omega)]

lemma IsRecord.walk_append (h : l.IsRecord r) (data : Bytes) :
    l.walk (r ++ data) = r :: l.walk ((r ++ data).drop (l.align r.length)) := by
  have hh := h.header_le
  have hl := h.length_append data
  have hn : ¬ ((r ++ data).length < l.header ∨ l.length (r ++ data) < l.header ∨
      (r ++ data).length < l.length (r ++ data)) := by
    rw [hl, List.length_append]
    omega
  rw [walk, if_neg hn, hl, List.take_left]

/-- A padded record is the first that the loop finds, whatever is behind it. -/
lemma IsRecord.walk_padded (h : l.IsRecord r) (more : Bytes) : l.walk (l.padded r ++ more) = r :: l.walk more := by
  have he : l.padded r ++ more = r ++ (List.replicate (l.align r.length - r.length) 0 ++ more) := by
    rw [padded, List.append_assoc]
  rw [he, h.walk_append, ← he, List.drop_left' (length_padded l r)]

lemma walk_nil (l : Layout) : l.walk [] = [] := by
  have hp := l.lengthSize_pos
  have hl := l.lengthSize_le
  rw [walk, if_pos (.inl (by simp; omega))]

lemma walk_flatMap_append (h : ∀ r ∈ rs, l.IsRecord r) (more : Bytes) :
    l.walk (rs.flatMap l.padded ++ more) = rs ++ l.walk more := by
  induction rs with
  | nil => rfl
  | cons r rs ih =>
    rw [List.flatMap_cons, List.append_assoc, (h r List.mem_cons_self).walk_padded,
      ih fun r hr => h r (List.mem_cons_of_mem _ hr), List.cons_append]

lemma walk_flatMap (h : ∀ r ∈ rs, l.IsRecord r) : l.walk (rs.flatMap l.padded) = rs := by
  have hw := walk_flatMap_append h []
  rwa [List.append_nil, walk_nil, List.append_nil] at hw

lemma IsRecord.walk_self (h : l.IsRecord r) : l.walk r = [r] := by
  have hw := h.walk_append []
  rw [List.append_nil, List.drop_eq_nil_of_le (l.le_align _), walk_nil] at hw
  exact hw

end Layout

end VpnClient.Library.PaddedRecords
