import Mathlib.Tactic
import Mathlib.Data.Nat.ModEq

/-! The checksum of the Internet protocols: the one's complement of the one's complement sum of 16-bit words. -/

namespace VpnClient.Library.InternetChecksum

/-- One's complement addition: a carry comes back in at the low end. -/
def add (a b : ℕ) : ℕ := if a + b < 65536 then a + b else a + b - 65535

def words : List UInt8 → List ℕ
  | [] => []
  | [hi] => [hi.toNat * 256]
  | hi :: lo :: data => (hi.toNat * 256 + lo.toNat) :: words data

def sum (data : List UInt8) : ℕ := (words data).foldr add 0

/-- The receiver's check: with its checksum in place, a message sums up to ones. -/
def Valid (data : List UInt8) : Prop := sum data = 65535

instance (data : List UInt8) : Decidable (Valid data) := inferInstanceAs (Decidable (_ = _))

/-- What all the end-around carries leave of an unbounded sum. -/
def residue (n : ℕ) : ℕ := if n = 0 then 0 else (n - 1) % 65535 + 1

variable {n : ℕ} {w : ℕ} {data front back : List UInt8}

lemma residue_le (n : ℕ) : residue n ≤ 65535 := by
  unfold residue
  split <;> omega

lemma add_residue (hw : w < 65536) : add w (residue n) = residue (w + n) := by
  rcases Nat.eq_zero_or_pos n with rfl | hn
  · rw [add, residue, residue]
    grind
  · have hwn : w + n ≠ 0 := by omega
    rw [residue, if_neg hn.ne', residue, if_neg hwn, add]
    split <;> omega

lemma residue_eq_ones_iff : residue n = 65535 ↔ n ≠ 0 ∧ n % 65535 = 0 := by
  unfold residue
  split <;> omega

lemma residue_add_complement (n : ℕ) : residue (n + (65535 - residue n)) = 65535 := by
  rw [residue_eq_ones_iff]
  unfold residue
  split <;> omega

lemma lt_of_mem_words (hw : w ∈ words data) : w < 65536 := by
  induction data using words.induct with
  | case1 => simp [words] at hw
  | case2 hi =>
    have := hi.toNat_lt
    simp only [words, List.mem_singleton] at hw
    omega
  | case3 hi lo data ih =>
    have := hi.toNat_lt
    have := lo.toNat_lt
    rcases List.mem_cons.mp hw with rfl | hw
    · omega
    · exact ih hw

lemma foldr_add : ∀ ws : List ℕ, (∀ w ∈ ws, w < 65536) → ws.foldr add 0 = residue ws.sum
  | [], _ => rfl
  | w :: ws, hw => by
    rw [List.foldr_cons, foldr_add ws fun v hv => hw v (List.mem_cons_of_mem w hv),
      add_residue (hw w List.mem_cons_self), List.sum_cons]

lemma sum_eq_residue (data : List UInt8) : sum data = residue (words data).sum :=
  foldr_add _ fun _ hw => lt_of_mem_words hw

lemma valid_iff : Valid data ↔ (words data).sum ≠ 0 ∧ (words data).sum % 65535 = 0 := by
  rw [Valid, sum_eq_residue, residue_eq_ones_iff]

lemma words_append (he : front.length % 2 = 0) : words (front ++ back) = words front ++ words back := by
  induction front using words.induct with
  | case1 => rfl
  | case2 hi => simp at he
  | case3 hi lo front ih =>
    have hf : front.length % 2 = 0 := by simp only [List.length_cons] at he; omega
    rw [List.cons_append, List.cons_append, words, ih hf, words, List.cons_append]

/-- The sum of the words as a host reads them that stores the low byte of a word first. -/
def swappedSum : List UInt8 → ℕ
  | [] => 0
  | [lo] => lo.toNat
  | lo :: hi :: data => lo.toNat + hi.toNat * 256 + swappedSum data

lemma swappedSum_le (data : List UInt8) : swappedSum data ≤ 65535 * ((data.length + 1) / 2) := by
  induction data using swappedSum.induct with
  | case1 => exact Nat.zero_le _
  | case2 lo =>
    have := lo.toNat_lt
    simp only [swappedSum, List.length_cons, List.length_nil]
    omega
  | case3 lo hi data ih =>
    have := lo.toNat_lt
    have := hi.toNat_lt
    simp only [swappedSum, List.length_cons]
    omega

/-- Swapping the bytes of each word multiplies the sum by 256, up to multiples of 65535. -/
lemma swappedSum_eq (data : List UInt8) :
    ∃ lows ≤ swappedSum data, swappedSum data + 65535 * lows = 256 * (words data).sum := by
  induction data using words.induct with
  | case1 => exact ⟨0, le_rfl, rfl⟩
  | case2 lo =>
    refine ⟨lo.toNat, le_rfl, ?_⟩
    simp only [swappedSum, words, List.sum_cons, List.sum_nil]
    omega
  | case3 lo hi data ih =>
    obtain ⟨lows, hle, hl⟩ := ih
    refine ⟨lo.toNat + lows, ?_, ?_⟩
    · simp only [swappedSum]
      omega
    · simp only [swappedSum, words, List.sum_cons]
      omega

lemma swappedSum_append (he : front.length % 2 = 0) :
    swappedSum (front ++ back) = swappedSum front + swappedSum back := by
  induction front using swappedSum.induct with
  | case1 => simp [swappedSum]
  | case2 lo => simp at he
  | case3 lo hi front ih =>
    have hf : front.length % 2 = 0 := by simp only [List.length_cons] at he; omega
    rw [List.cons_append, List.cons_append, swappedSum, ih hf, swappedSum]
    omega

lemma valid_iff_swapped : Valid data ↔ residue (swappedSum data) = 65535 := by
  obtain ⟨lows, hle, hl⟩ := swappedSum_eq data
  rw [valid_iff, residue_eq_ones_iff]
  omega

/-- The checksum field that belongs to a message with the bytes `front` before the field and `back` after it. -/
def field (front back : List UInt8) : List UInt8 :=
  let checksum := 65535 - sum (front ++ 0 :: 0 :: back)
  [UInt8.ofNat (checksum / 256), UInt8.ofNat (checksum % 256)]

lemma valid_field (he : front.length % 2 = 0) : Valid (front ++ (field front back ++ back)) := by
  have hc : (words (front ++ 0 :: 0 :: back)).sum = (words front).sum + (words back).sum := by
    simp [words_append he, words]
  have hr := residue_le ((words front).sum + (words back).sum)
  have hw : words (field front back ++ back) =
      (65535 - residue ((words front).sum + (words back).sum)) :: words back := by
    simp only [field, sum_eq_residue, hc, List.cons_append, List.nil_append, words, UInt8.toNat_ofNat']
    congr 1
    omega
  rw [Valid, sum_eq_residue, words_append he, hw, List.sum_append, List.sum_cons]
  refine (congrArg residue ?_).trans (residue_add_complement ((words front).sum + (words back).sum))
  omega

end VpnClient.Library.InternetChecksum
