import Mathlib.Tactic

/-! Texts as UTF-8 bytes and as UTF-16 code units, which agree on ASCII characters alone. -/

namespace VpnClient.Library.Utf16

def unitsOfChar (c : Char) : List UInt16 :=
  if c.toNat < 0x10000 then [UInt16.ofNat c.toNat]
  else [UInt16.ofNat (0xD800 + (c.toNat - 0x10000) / 0x400), UInt16.ofNat (0xDC00 + (c.toNat - 0x10000) % 0x400)]

def units (s : List Char) : List UInt16 := s.flatMap unitsOfChar

def bytes (s : List Char) : List UInt8 := s.flatMap String.utf8EncodeChar

/-- Each byte as a code unit. -/
def widen (bs : List UInt8) : List UInt16 := bs.map UInt8.toUInt16

variable {c : Char} {s : List Char}

lemma utf8EncodeChar_ascii (hc : c.toNat < 128) : String.utf8EncodeChar c = [UInt8.ofNat c.toNat] :=
  if_pos (Nat.le_of_lt_succ hc)

lemma widen_ascii (hc : c.toNat < 128) : widen (String.utf8EncodeChar c) = unitsOfChar c := by
  rw [utf8EncodeChar_ascii hc, unitsOfChar, if_pos (by omega)]
  apply congrArg (· :: [])
  rw [← UInt16.toNat_inj, UInt8.toNat_toUInt16, UInt8.toNat_ofNat', UInt16.toNat_ofNat']
  omega

lemma length_utf8 (c : Char) : (String.utf8EncodeChar c).length =
    if c.toNat ≤ 0x7F then 1 else if c.toNat ≤ 0x7FF then 2 else if c.toNat ≤ 0xFFFF then 3 else 4 := by
  rw [String.utf8EncodeChar, Char.toNat]
  split_ifs <;> rfl

lemma length_unitsOfChar (c : Char) : (unitsOfChar c).length = if c.toNat < 0x10000 then 1 else 2 := by
  rw [unitsOfChar]
  split_ifs <;> rfl

lemma length_unitsOfChar_le (c : Char) : (unitsOfChar c).length ≤ (String.utf8EncodeChar c).length := by
  rw [length_utf8, length_unitsOfChar]
  split_ifs <;> omega

lemma length_unitsOfChar_lt (hc : ¬ c.toNat < 128) :
    (unitsOfChar c).length < (String.utf8EncodeChar c).length := by
  rw [length_utf8, length_unitsOfChar]
  split_ifs <;> omega

lemma length_units_le (s : List Char) : (units s).length ≤ (bytes s).length := by
  induction s with
  | nil => exact le_rfl
  | cons c s ih =>
    rw [units, bytes, List.flatMap_cons, List.flatMap_cons, List.length_append, List.length_append]
    exact Nat.add_le_add (length_unitsOfChar_le c) ih

/-- The bytes are the code units if and only if all characters are ASCII. -/
lemma widen_bytes_iff : widen (bytes s) = units s ↔ ∀ c ∈ s, c.toNat < 128 := by
  induction s with
  | nil => simp [widen, bytes, units]
  | cons c s ih =>
    have hw : widen (bytes (c :: s)) = widen (String.utf8EncodeChar c) ++ widen (bytes s) := List.map_append
    have hu : units (c :: s) = unitsOfChar c ++ units s := rfl
    rw [hw, hu, List.forall_mem_cons, ← ih]
    constructor
    · intro he
      by_cases hc : c.toNat < 128
      · rw [widen_ascii hc] at he
        exact ⟨hc, List.append_cancel_left he⟩
      · have hl := congrArg List.length he
        have h1 := length_unitsOfChar_lt hc
        have h2 := length_units_le s
        simp only [widen, List.length_append, List.length_map] at hl
        omega
    · rintro ⟨hc, he⟩
      rw [widen_ascii hc, he]

lemma zero_notMem_utf8EncodeChar (hc : c.toNat ≠ 0) : 0 ∉ String.utf8EncodeChar c := by
  have h0 : ∀ n : ℕ, (0 : UInt8) = UInt8.ofNat n ↔ n % 256 = 0 := by
    intro n
    rw [← UInt8.toNat_inj, UInt8.toNat_ofNat', UInt8.toNat_zero, eq_comm]
  have hv : c.val.toNat ≠ 0 := hc
  have hlt := c.val.toNat_lt
  rw [String.utf8EncodeChar]
  split_ifs <;> simp only [List.mem_cons, List.not_mem_nil, or_false, not_or, h0] <;> omega

lemma zero_notMem_bytes (hs : ∀ c ∈ s, c.toNat ≠ 0) : 0 ∉ bytes s := by
  rw [bytes, List.mem_flatMap]
  rintro ⟨c, hc, h0⟩
  exact zero_notMem_utf8EncodeChar (hs c hc) h0

end VpnClient.Library.Utf16
