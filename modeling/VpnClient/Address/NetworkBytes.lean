import VpnClient.Address.IPAddress

/-! Addresses as bytes in network order, and masks of bytes. -/

namespace VpnClient.Address

open Library.BinaryBlocks

/-- The bits of a list of bytes, the most significant one of each byte first. -/
def bitsOf (data : List UInt8) : Bits := fun i => (data.getD (i / 8) 0).toBitVec.getMsbD (i % 8)

def QHostAddress.toBytes : QHostAddress → List UInt8
  | ipv4 a => (List.range 4).map fun i => ⟨a.extractLsb' (24 - 8 * i) 8⟩
  | ipv6 a => a.toList.map UInt8.ofBitVec

/-- A byte that starts with `ones` ones. -/
def maskByte (ones : ℕ) : UInt8 := if ones ≥ 8 then 0xff else ~~~((0xff : UInt8) >>> UInt8.ofNat ones)

def cidrMask : ℕ → ℕ → List UInt8
  | 0, _ => []
  | size + 1, ones => maskByte ones :: cidrMask size (ones - 8)

def masked (data mask : List UInt8) : List UInt8 := List.zipWith (· &&& ·) data mask

variable {x y : UInt8} {a b : List UInt8} {i ones size : ℕ}

lemma bitsOf_cons_of_lt (h : i < 8) : bitsOf (x :: a) i = x.toBitVec.getMsbD i := by
  simp [bitsOf, Nat.div_eq_of_lt h, Nat.mod_eq_of_lt h]

lemma bitsOf_cons_add : bitsOf (x :: a) (8 + i) = bitsOf a i := by
  simp [bitsOf, Nat.add_comm 8 i]

lemma agree_bitsOf_cons :
    Agree ones (bitsOf (x :: a)) (bitsOf (y :: b)) ↔
      (∀ i < 8, i < ones → x.toBitVec.getMsbD i = y.toBitVec.getMsbD i) ∧
        Agree (ones - 8) (bitsOf a) (bitsOf b) := by
  constructor
  · intro h
    refine ⟨fun i hi ho => ?_, fun i hi => ?_⟩
    · have := h i ho
      rwa [bitsOf_cons_of_lt hi, bitsOf_cons_of_lt hi] at this
    · have := h (8 + i) (by omega)
      rwa [bitsOf_cons_add, bitsOf_cons_add] at this
  · rintro ⟨hx, ha⟩ i ho
    by_cases hi : i < 8
    · rw [bitsOf_cons_of_lt hi, bitsOf_cons_of_lt hi]
      exact hx i hi ho
    · obtain ⟨j, rfl⟩ := Nat.exists_eq_add_of_le (Nat.not_lt.mp hi)
      rw [bitsOf_cons_add, bitsOf_cons_add]
      exact ha j (by omega)

lemma getMsbD_maskByte (h : i < 8) : (maskByte ones).toBitVec.getMsbD i = decide (i < ones) := by
  by_cases ho : ones ≥ 8
  · have hm : maskByte ones = 0xff := if_pos ho
    rw [hm, decide_eq_true (h.trans_le ho)]
    exact (by decide : ∀ i < 8, (0xff : UInt8).toBitVec.getMsbD i = true) i h
  · exact (by decide : ∀ ones < 8, ∀ i < 8, (maskByte ones).toBitVec.getMsbD i = decide (i < ones)) ones
      (Nat.not_le.mp ho) i h

lemma and_maskByte_eq_iff :
    x &&& maskByte ones = y &&& maskByte ones ↔ ∀ i < 8, i < ones → x.toBitVec.getMsbD i = y.toBitVec.getMsbD i := by
  rw [← UInt8.toBitVec_inj, UInt8.toBitVec_and, UInt8.toBitVec_and]
  constructor
  · intro h i hi ho
    have hb := congrArg (·.getMsbD i) h
    simpa [BitVec.getMsbD_and, getMsbD_maskByte hi, ho] using hb
  · intro h
    apply BitVec.eq_of_getMsbD_eq
    intro i hi
    rw [BitVec.getMsbD_and, BitVec.getMsbD_and, getMsbD_maskByte hi]
    by_cases ho : i < ones
    · rw [h i hi ho]
    · simp [ho]

lemma masked_eq_iff (ha : a.length = size) (hb : b.length = size) (ho : ones ≤ 8 * size) :
    masked a (cidrMask size ones) = masked b (cidrMask size ones) ↔ Agree ones (bitsOf a) (bitsOf b) := by
  induction size generalizing a b ones with
  | zero =>
    obtain rfl : ones = 0 := by omega
    simp [masked, cidrMask]
  | succ size ih =>
    obtain ⟨x, a, rfl⟩ := List.exists_cons_of_length_eq_add_one ha
    obtain ⟨y, b, rfl⟩ := List.exists_cons_of_length_eq_add_one hb
    have ih' := @ih a b (ones - 8) (by simpa using ha) (by simpa using hb) (by omega)
    rw [agree_bitsOf_cons, ← ih', ← and_maskByte_eq_iff]
    simp [masked, cidrMask]

namespace QHostAddress

lemma length_toBytes (address : QHostAddress) : 8 * address.toBytes.length = address.width := by
  cases address <;> simp [toBytes, width, protocol]

lemma bits_toBytes (address : QHostAddress) (h : i < address.width) : bitsOf address.toBytes i = address.bits i := by
  cases address with
  | ipv4 a =>
    have hi : i < 32 := h
    have hd : i / 8 < 4 := by omega
    simp only [bitsOf, toBytes, bits, List.getD_eq_getElem?_getD, List.getElem?_map, List.getElem?_range hd,
      Option.map_some, Option.getD_some]
    rw [BitVec.getMsbD_eq_getLsbD, BitVec.getMsbD_eq_getLsbD, BitVec.getLsbD_extractLsb']
    have hs : 24 - 8 * (i / 8) + (8 - 1 - i % 8) = 32 - 1 - i := by omega
    have hm : i % 8 < 8 := Nat.mod_lt i (by decide)
    have hl : 8 - 1 - i % 8 < 8 := by omega
    simp only [hi, hm, hl, hs, decide_true, Bool.true_and]
  | ipv6 a =>
    have hi : i < 128 := h
    have hd : i / 8 < 16 := by omega
    simp [bitsOf, toBytes, bits, Q_IPV6ADDR.byte, hd]

end QHostAddress

end VpnClient.Address
