import Mathlib.Tactic
import Mathlib.Data.Set.Basic
import Mathlib.Order.CompletePartialOrder

/-! Blocks of binary words: all words that share their first `n` bits with a given one. -/

namespace VpnClient.Library.BinaryBlocks

abbrev Bits := ℕ → Bool

variable {f g h : Bits} {m n : ℕ}

def Agree (n : ℕ) (f g : Bits) : Prop := ∀ i < n, f i = g i

def block (n : ℕ) (f : Bits) : Set Bits := {g | Agree n f g}

@[simp] lemma mem_block : g ∈ block n f ↔ Agree n f g := Iff.rfl

@[simp] lemma agree_zero : Agree 0 f g := by simp [Agree]

lemma Agree.refl (n : ℕ) (f : Bits) : Agree n f f := fun _ _ => rfl

lemma Agree.symm (h : Agree n f g) : Agree n g f := fun i hi => (h i hi).symm

lemma Agree.trans (hf : Agree n f g) (hg : Agree n g h) : Agree n f h :=
  fun i hi => (hf i hi).trans (hg i hi)

lemma Agree.mono (hm : m ≤ n) (h : Agree n f g) : Agree m f g := fun i hi => h i (hi.trans_le hm)

lemma agree_succ : Agree (n + 1) f g ↔ Agree n f g ∧ f n = g n := by
  simp only [Agree, Nat.lt_succ_iff_lt_or_eq]
  grind

lemma xor_shift_eq_zero {w r : ℕ} (a b : BitVec w) (hr : r ≤ w) :
    (a ^^^ b) >>> (w - r) = 0 ↔ Agree r (a.getMsbD ·) (b.getMsbD ·) := by
  constructor
  · intro h i hi
    have hb := congrArg (fun x => x.getMsbD (w - r + i)) h
    have hl : w - r + i < w := by omega
    simpa [BitVec.getMsbD_ushiftRight, BitVec.getMsbD_xor, hl] using hb
  · intro h
    apply BitVec.eq_of_getMsbD_eq
    intro i hi
    have hs : ¬ i < w - r → a.getMsbD (i - (w - r)) = b.getMsbD (i - (w - r)) :=
      fun hi' => h (i - (w - r)) (by omega)
    simp only [BitVec.getMsbD_ushiftRight, BitVec.getMsbD_xor, BitVec.ofNat_eq_ofNat,
      BitVec.getMsbD_zero]
    grind

lemma block_subset (hm : m ≤ n) (hf : Agree m f g) : block n g ⊆ block m f :=
  fun _ hh => hf.trans (Agree.mono hm hh)

/-- `half n b f` fixes bit `n` of `f`, so that it names one half of the block of `f`. -/
def half (n : ℕ) (b : Bool) (f : Bits) : Bits := Function.update f n b

@[simp] lemma half_self (b : Bool) : half n b f n = b := by simp [half]

lemma half_of_ne {i : ℕ} (b : Bool) (hi : i ≠ n) : half n b f i = f i := by simp [half, hi]

lemma agree_half (b : Bool) : Agree (n + 1) (half n b f) g ↔ Agree n f g ∧ g n = b := by
  rw [agree_succ, half_self]
  refine and_congr ⟨fun h i hi => ?_, fun h i hi => ?_⟩ eq_comm
  · rw [← h i hi, half_of_ne b (by omega)]
  · rw [half_of_ne b (by omega), h i hi]

end VpnClient.Library.BinaryBlocks
