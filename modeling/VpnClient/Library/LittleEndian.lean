import Mathlib.Tactic
import Mathlib.Data.Nat.Digits.Defs

/-! Numbers as bytes, the least significant one first. -/

namespace VpnClient.Library.LittleEndian

/-- The lowest `width` bytes of a number. -/
def bytes : ℕ → ℕ → List UInt8
  | 0, _ => []
  | width + 1, n => UInt8.ofNat (n % 256) :: bytes width (n / 256)

def value (data : List UInt8) : ℕ := Nat.ofDigits 256 (data.map UInt8.toNat)

@[simp] lemma length_bytes (width n : ℕ) : (bytes width n).length = width := by
  induction width generalizing n with
  | zero => rfl
  | succ width ih => rw [bytes, List.length_cons, ih]

lemma value_bytes (width n : ℕ) : value (bytes width n) = n % 256 ^ width := by
  induction width generalizing n with
  | zero => simp [bytes, value, Nat.mod_one]
  | succ width ih =>
    have hd : value (bytes (width + 1) n) = n % 256 + 256 * value (bytes width (n / 256)) := by
      simp [bytes, value, Nat.ofDigits_cons]
    rw [hd, ih, pow_succ', Nat.mod_mul]

lemma bytes_value (data : List UInt8) : bytes data.length (value data) = data := by
  induction data with
  | nil => rfl
  | cons b data ih =>
    have hb := b.toNat_lt
    have hv : value (b :: data) = b.toNat + 256 * value data := by simp [value, Nat.ofDigits_cons]
    have hm : (b.toNat + 256 * value data) % 256 = b.toNat := by omega
    have hd : (b.toNat + 256 * value data) / 256 = value data := by omega
    rw [List.length_cons, bytes, hv, hm, hd, ih, UInt8.ofNat_toNat]

lemma eq_bytes_iff {width n : ℕ} {data : List UInt8} (hl : data.length = width) (hn : n < 256 ^ width) :
    data = bytes width n ↔ value data = n := by
  constructor
  · rintro rfl
    rw [value_bytes, Nat.mod_eq_of_lt hn]
  · rintro rfl
    rw [← hl, bytes_value]

end VpnClient.Library.LittleEndian
