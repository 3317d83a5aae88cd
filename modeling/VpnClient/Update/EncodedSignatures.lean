import VpnClient.Library.Der
import VpnClient.Update.TrustedUpdates

/-! Content signatures are encoded as strict parsers take them, if their two numbers have no needless leading zeros,
and are split without a panic, if they have two bytes. -/

namespace VpnClient.Update.Signature.Balrog

open Ipc (Bytes)
open Library.Der Library.Results

variable {Certificate PublicKey Name A : Type} {P : Primitives Certificate PublicKey Name}
  {chain : List Certificate} {input data decoded : Bytes} {signature : String}

/-- The two numbers of a signature. -/
def r (input : Bytes) : Bytes := input.take (input.length / 2)

def s (input : Bytes) : Bytes := input.drop (input.length / 2)

/-- The bytes and lengths of integers are encoded as they are given. -/
def EncodesAsGiven (P : Primitives Certificate PublicKey Name) : Prop :=
  ∀ r s, P.integersToDer r s = some (sequenceOf [integer r, integer s])

/-- What is returned for two numbers of one length is a sequence of integers that a strict parser takes. -/
def Strict (P : Primitives Certificate PublicKey Name) (input : Bytes) : Prop :=
  Even input.length → 2 ≤ input.length → ∃ x y, IsInteger (value (r input)) x ∧ IsInteger (value (s input)) y ∧
    ecdsaSignatureToAsn1 P input = .ok (sequenceOf [integer x, integer y])

lemma topBit_iff (b : UInt8) : b &&& 0x80 ≠ 0 ↔ 0x80 ≤ b := by
  cases b with
  | ofBitVec b =>
    cases b with
    | ofFin b =>
      revert b
      decide +kernel

lemma toSigned_eq (h : input ≠ []) : toSigned input = .ok (signed input) := by
  cases input with
  | nil => exact absurd rfl h
  | cons b input => simp only [toSigned, signed, topBit_iff]

lemma r_ne_nil (h : 2 ≤ input.length) : r input ≠ [] := by
  rw [r, ← List.length_pos_iff, List.length_take]
  omega

lemma s_ne_nil (h : 2 ≤ input.length) : s input ≠ [] := by
  rw [s, ← List.length_pos_iff, List.length_drop]
  omega

lemma ecdsaSignatureToAsn1_eq (hp : EncodesAsGiven P) (h : 2 ≤ input.length) :
    ecdsaSignatureToAsn1 P input = .ok (sequenceOf [integer (signed (r input)), integer (signed (s input))]) := by
  have hr := toSigned_eq (r_ne_nil h)
  have hs := toSigned_eq (s_ne_nil h)
  rw [r] at hr
  rw [s] at hs
  rw [ecdsaSignatureToAsn1, hr, hs]
  exact congrArg (fun der => get der BalrogError.SignatureDecodeError) (hp _ _)

lemma ecdsaSignatureToAsn1_short (h : input.length < 2) : ecdsaSignatureToAsn1 P input = .error .panicked := by
  have hr : input.take (input.length / 2) = [] := by
    rw [Nat.div_eq_of_lt h, List.take_zero]
  rw [ecdsaSignatureToAsn1, hr]
  rfl

lemma strict_iff (hp : EncodesAsGiven P) (h : 2 ≤ input.length) :
    Strict P input ↔ (Even input.length → Tight (r input) ∧ Tight (s input)) := by
  have hr := isInteger_signed_iff (r_ne_nil h)
  have hs := isInteger_signed_iff (s_ne_nil h)
  have he := ecdsaSignatureToAsn1_eq hp h
  apply forall_congr'
  intro _
  constructor
  · intro hi
    obtain ⟨x, y, hx, hy, hxy⟩ := hi h
    rw [he] at hxy
    obtain ⟨rfl, rfl⟩ := sequenceOf_inj (hx.length_le (signed_ne_nil (r_ne_nil h)) signed_positive value_signed)
      (hy.length_le (signed_ne_nil (s_ne_nil h)) signed_positive value_signed) (Except.ok.inj hxy)
    exact ⟨hr.mp hx, hs.mp hy⟩
  · rintro ⟨hx, hy⟩ -
    exact ⟨_, _, hr.mpr hx, hs.mpr hy, he⟩

lemma strict_short (h : input.length < 2) : Strict P input := by
  intro _ hl
  omega

lemma ensure_ne_panicked {condition : Bool} {error : BalrogError} : ensure condition error ≠ .error .panicked := by
  cases condition <;> simp [ensure]

lemma get_ne_panicked {value : Option A} {error : BalrogError} : get value error ≠ .error .panicked := by
  cases value <;> simp [get]

lemma fromX509_ne_panicked {result : Except X509Error A} : fromX509 result ≠ .error .panicked := by
  cases result <;> simp [fromX509, Except.mapError]

lemma verifyContentSignature_panicked_iff (hd : P.base64Decode signature = some decoded) :
    verifyContentSignature P chain data signature = .error .panicked ↔
      chain.all (isCodeSigning P) = true ∧ chain ≠ [] ∧ ecdsaSignatureToAsn1 P decoded = .error .panicked := by
  simp only [verifyContentSignature, bind_error_iff, ensure_ok_iff, get_ok_iff, ensure_ne_panicked, get_ne_panicked,
    fromX509_ne_panicked, hd, false_or, or_false, and_false, exists_false, exists_const]
  cases chain with
  | nil => simp
  | cons leaf chain => simp

lemma tight_of_length (h : input.length < 2) : Tight input := by
  match input with
  | [] | [_] => trivial
  | _ :: _ :: _ => simp at h

lemma halves_tight (h : input.length < 2) : Tight (r input) ∧ Tight (s input) := by
  constructor
  · apply tight_of_length
    rw [r, List.length_take]
    omega
  · apply tight_of_length
    rw [s, List.length_drop]
    omega

/-- The encoding is strict and there is no panic, just if there are no needless zeros and two bytes. -/
theorem strict_iff_tight (hp : EncodesAsGiven P) (chain : List Certificate) (data : Bytes)
    (hd : P.base64Decode signature = some decoded) :
    Strict P decoded ∧ verifyContentSignature P chain data signature ≠ .error .panicked ↔
      (Even decoded.length → Tight (r decoded) ∧ Tight (s decoded)) ∧
        (2 ≤ decoded.length ∨ chain = [] ∨ chain.all (isCodeSigning P) = false) := by
  rw [Ne, verifyContentSignature_panicked_iff hd]
  by_cases hl : 2 ≤ decoded.length
  · have he : ecdsaSignatureToAsn1 P decoded ≠ .error .panicked := by
      rw [ecdsaSignatureToAsn1_eq hp hl]
      exact fun h => by cases h
    rw [strict_iff hp hl]
    exact and_congr_right fun _ => iff_of_true (fun h => he h.2.2) (Or.inl hl)
  · have hs := not_le.mp hl
    have he : ecdsaSignatureToAsn1 P decoded = .error .panicked := ecdsaSignatureToAsn1_short hs
    apply and_congr
    · exact iff_of_true (strict_short hs) fun _ => halves_tight hs
    · cases hc : chain.all (isCodeSigning P) <;> simp [hl, he]

/-- Certificates that may sign code, with integers that are encoded as they are given. -/
def encoding : Primitives Unit Unit Unit :=
  { Update.Balrog.trustful with
    base64Decode := fun signature => [("", []), ("AQE", [1, 1]), ("AAEAAQ", [0, 1, 0, 1])].lookup signature
    integersToDer := fun r s => some (sequenceOf [integer r, integer s]) }

theorem strict_one_one :
    Strict encoding [1, 1] ∧ verifyContentSignature encoding [()] [0x61] "AQE" ≠ .error .panicked :=
  (strict_iff_tight (fun _ _ => rfl) [()] [0x61] (by decide +kernel)).mpr ⟨by decide, by decide⟩

/-- Leading zeros are kept, and an empty signature ends the process. -/
theorem not_strict : ¬ Strict encoding [0, 1, 0, 1] ∧
    verifyContentSignature encoding [()] [0x61] "" = .error .panicked := by
  constructor
  · rw [strict_iff (fun _ _ => rfl) (by decide)]
    decide
  · have hd : encoding.base64Decode "" = some [] := by decide +kernel
    exact (verifyContentSignature_panicked_iff hd).mpr ⟨rfl, by simp, rfl⟩

end VpnClient.Update.Signature.Balrog
