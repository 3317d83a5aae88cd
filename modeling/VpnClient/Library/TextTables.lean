import VpnClient.Library.LittleEndian

/-! Buffers with a table of records of one size and, behind it, the texts that the records point to. -/

namespace VpnClient.Library.TextTables

open LittleEndian

abbrev Bytes := List UInt8

def zeros (n : ℕ) : Bytes := List.replicate n 0

/-- The buffer with the data at a position, if they lie within it. -/
def write (pos : ℕ) (data buffer : Bytes) : Option Bytes :=
  if pos + data.length ≤ buffer.length then some (buffer.take pos ++ data ++ buffer.drop (pos + data.length)) else none

/-- How an item becomes a record and a text, and what of it is read back from a record. -/
structure Format (A B : Type) where
  size : ℕ
  record : A → ℕ → Bytes
  text : A → Bytes
  item : Bytes → B
  offset : Bytes → ℕ
  length : Bytes → ℕ
  length_record : ∀ a o, (record a o).length ≤ size

structure Cursor where
  buffer : Bytes
  entry : ℕ
  stringDest : ℕ
  stringOffset : ℕ

namespace Format

variable {A B : Type} (f : Format A B)

/-- The loop over the items, which writes each record and each text. -/
def fill : List A → Cursor → Option Cursor
  | [], c => some c
  | a :: items, c => do
    let buffer ← write c.entry (f.record a c.stringOffset) c.buffer
    let buffer ← write c.stringDest (f.text a) buffer
    fill items
      { buffer
        entry := c.entry + f.size
        stringDest := c.stringDest + (f.text a).length
        stringOffset := c.stringOffset + (f.text a).length }

def texts (items : List A) : Bytes := items.flatMap f.text

def entry (a : A) (o : ℕ) : Bytes := f.record a o ++ zeros (f.size - (f.record a o).length)

def table : List A → ℕ → Bytes
  | [], _ => []
  | a :: items, o => f.entry a o ++ table items (o + (f.text a).length)

/-- The loop over the entries, which fails if a text is not within the area of the texts. -/
def decode (area : Bytes) : ℕ → Bytes → Option (List (B × Bytes))
  | 0, _ => some []
  | n + 1, entries =>
    if f.offset entries + f.length entries ≤ area.length then
      (decode area n (entries.drop f.size)).map
        ((f.item entries, (area.drop (f.offset entries)).take (f.length entries)) :: ·)
    else none

/-- The record of an item is read back, whatever follows it. An empty text may be said to be further in front. -/
structure Reads (item : A → B) (a : A) (o : ℕ) : Prop where
  item : ∀ more, f.item (f.record a o ++ more) = item a
  length : ∀ more, f.length (f.record a o ++ more) = (f.text a).length
  offset_le : ∀ more, f.offset (f.record a o ++ more) ≤ o
  offset : f.text a ≠ [] → ∀ more, f.offset (f.record a o ++ more) = o

end Format

section Writes

variable {before window data after : Bytes}

lemma zeros_add (m n : ℕ) : zeros (m + n) = zeros m ++ zeros n := (List.replicate_append_replicate ..).symm

@[simp] lemma length_zeros (n : ℕ) : (zeros n).length = n := List.length_replicate ..

lemma write_append (h : data.length = window.length) :
    write before.length data (before ++ (window ++ after)) = some (before ++ (data ++ after)) := by
  rw [write, if_pos (by simp only [List.length_append]; omega), List.take_left, h, ← List.append_assoc before window,
    ← List.length_append, List.drop_left, List.append_assoc]

lemma write_front (h : data.length = window.length) : write 0 data (window ++ after) = some (data ++ after) :=
  @write_append [] window data after h

end Writes

namespace Format

variable {A B : Type} {f : Format A B} {a : A} {items : List A}

lemma length_entry (a : A) (o : ℕ) : (f.entry a o).length = f.size := by
  have h := f.length_record a o
  rw [entry, List.length_append, length_zeros]
  omega

lemma length_table (items : List A) (o : ℕ) : (f.table items o).length = f.size * items.length := by
  induction items generalizing o with
  | nil => rfl
  | cons a items ih => rw [table, List.length_append, length_entry, ih, List.length_cons, Nat.mul_succ, add_comm]

lemma texts_cons (a : A) (items : List A) : f.texts (a :: items) = f.text a ++ f.texts items := List.flatMap_cons

variable (f) in
lemma write_item (a : A) (before written : Bytes) (n k : ℕ) :
    ((write before.length (f.record a written.length)
        (before ++ zeros (f.size * (n + 1)) ++ written ++ zeros ((f.text a).length + k))).bind fun buffer =>
      write (before.length + f.size * (n + 1) + written.length) (f.text a) buffer) =
    some (before ++ f.entry a written.length ++ zeros (f.size * n) ++ (written ++ f.text a) ++ zeros k) := by
  have hr := f.length_record a written.length
  have hz : zeros (f.size * (n + 1)) = zeros (f.record a written.length).length ++
      (zeros (f.size - (f.record a written.length).length) ++ zeros (f.size * n)) := by
    rw [← zeros_add, ← zeros_add]
    congr 1
    rw [Nat.mul_succ]
    omega
  have hw : write before.length (f.record a written.length)
      (before ++ zeros (f.size * (n + 1)) ++ written ++ zeros ((f.text a).length + k)) =
      some (before ++ f.entry a written.length ++ zeros (f.size * n) ++ written ++
        (zeros (f.text a).length ++ zeros k)) := by
    rw [hz, zeros_add (f.text a).length, entry]
    simp only [List.append_assoc]
    exact write_append (length_zeros _).symm
  have hl : (before ++ f.entry a written.length ++ zeros (f.size * n) ++ written).length =
      before.length + f.size * (n + 1) + written.length := by
    simp only [List.length_append, length_entry, length_zeros, Nat.mul_succ]
    omega
  rw [hw, Option.bind_some, ← hl, write_append (length_zeros _).symm]
  simp only [List.append_assoc]

theorem exists_fill (items : List A) (before written : Bytes) :
    ∃ c, f.fill items ⟨before ++ zeros (f.size * items.length) ++ written ++ zeros (f.texts items).length,
        before.length, before.length + f.size * items.length + written.length, written.length⟩ = some c ∧
      c.buffer = before ++ f.table items written.length ++ (written ++ f.texts items) := by
  induction items generalizing before written with
  | nil => exact ⟨_, rfl, by simp [zeros, table, texts]⟩
  | cons a items ih =>
    have hw := f.write_item a before written items.length (f.texts items).length
    obtain ⟨c, hc, hb⟩ := ih (before ++ f.entry a written.length) (written ++ f.text a)
    simp only [List.length_append, length_entry] at hc hb
    refine ⟨c, ?_, ?_⟩
    · obtain ⟨buffer, h1, h2⟩ := Option.bind_eq_some_iff.mp hw
      have hd : before.length + f.size * (items.length + 1) + written.length + (f.text a).length =
          before.length + f.size + f.size * items.length + (written.length + (f.text a).length) := by
        rw [Nat.mul_succ]
        omega
      rw [fill, texts_cons, List.length_append, List.length_cons]
      simp only [Option.bind_eq_bind, h1, h2, Option.bind_some, hd]
      exact hc
    · rw [hb, table, texts_cons]
      simp only [List.append_assoc]

/-- What is decoded are the items with their texts. -/
theorem decode_table {item : A → B} (area written more : Bytes) (ha : area = written ++ f.texts items)
    (h : ∀ a ∈ items, ∀ o ≤ area.length, f.Reads item a o) :
    f.decode area items.length (f.table items written.length ++ more) = some (items.map fun a => (item a, f.text a)) := by
  induction items generalizing written with
  | nil => rfl
  | cons a items ih =>
    rw [texts_cons] at ha
    have hl : written.length + (f.text a).length ≤ area.length := by
      rw [ha]
      simp only [List.length_append]
      omega
    have hr := h a List.mem_cons_self written.length (by omega)
    have hs : f.table (a :: items) written.length ++ more = f.record a written.length ++
        (zeros (f.size - (f.record a written.length).length) ++
          (f.table items (written.length + (f.text a).length) ++ more)) := by
      rw [table, entry]
      simp only [List.append_assoc]
    have hd : (f.table (a :: items) written.length ++ more).drop f.size =
        f.table items (written ++ f.text a).length ++ more := by
      rw [table, List.append_assoc, List.drop_left' (length_entry a _), List.length_append]
    have ht : (area.drop (f.offset (f.table (a :: items) written.length ++ more))).take (f.text a).length =
        f.text a := by
      by_cases he : f.text a = []
      · rw [he]
        rfl
      · rw [hs, hr.offset he, ha, List.drop_left, List.take_left]
    have ho := hr.offset_le (zeros (f.size - (f.record a written.length).length) ++
      (f.table items (written.length + (f.text a).length) ++ more))
    rw [List.length_cons, decode, hd, ih (written ++ f.text a) (by rw [ha, List.append_assoc])
      fun b hb => h b (List.mem_cons_of_mem a hb)]
    rw [hs, hr.length, ← hs, ht, hs, hr.item, if_pos (by omega)]
    rfl

end Format

end VpnClient.Library.TextTables
