import Mathlib.Tactic
import Mathlib.Data.Nat.Digits.Defs

/-! Numbers and bytes as texts: decimals, hexadecimal digits and the digits of base 64. -/

namespace VpnClient.Library.TextCodes

abbrev Text := List Char

section Decimals

def digitChar (d : ℕ) : Char := Char.ofNat (48 + d)

def digitValue (c : Char) : Option ℕ := if 48 ≤ c.toNat ∧ c.toNat ≤ 57 then some (c.toNat - 48) else none

def decimal (n : ℕ) : Text := if n = 0 then ['0'] else (Nat.digits 10 n).reverse.map digitChar

/-- The number that a text of digits stands for. -/
def ofDecimal (text : Text) : Option ℕ :=
  if text = [] then none else (text.mapM digitValue).map fun digits => digits.foldl (fun n d => 10 * n + d) 0

lemma digitValue_digitChar : ∀ d < 10, digitValue (digitChar d) = some d := by decide

lemma mapM_digitChar {digits : List ℕ} (h : ∀ d ∈ digits, d < 10) :
    (digits.map digitChar).mapM digitValue = some digits := by
  induction digits with
  | nil => rfl
  | cons d digits ih =>
    obtain ⟨hd, hds⟩ := List.forall_mem_cons.mp h
    rw [List.map_cons, List.mapM_cons, digitValue_digitChar d hd, ih hds]
    rfl

lemma foldl_reverse (digits : List ℕ) : digits.reverse.foldl (fun n d => 10 * n + d) 0 = Nat.ofDigits 10 digits := by
  rw [List.foldl_reverse, Nat.ofDigits_eq_foldr]
  congr 1
  funext d n
  simp only [Nat.cast_id]
  omega

lemma ofDecimal_decimal (n : ℕ) : ofDecimal (decimal n) = some n := by
  rw [decimal]
  split
  case isTrue h =>
    subst h
    decide
  case isFalse h =>
    have hn : (Nat.digits 10 n).reverse.map digitChar ≠ [] := by simpa [Nat.digits_eq_nil_iff_eq_zero] using h
    have hd : ∀ d ∈ (Nat.digits 10 n).reverse, d < 10 := fun d hd =>
      Nat.digits_lt_base (by decide) (List.mem_reverse.mp hd)
    rw [ofDecimal, if_neg hn, mapM_digitChar hd, Option.map_some, foldl_reverse, Nat.ofDigits_digits]

lemma digitChar_mem (n : ℕ) : ∀ c ∈ decimal n, 48 ≤ c.toNat ∧ c.toNat ≤ 57 := by
  have hc : ∀ d < 10, 48 ≤ (digitChar d).toNat ∧ (digitChar d).toNat ≤ 57 := by decide
  intro c hm
  rw [decimal] at hm
  split at hm
  case isTrue =>
    rw [List.mem_singleton] at hm
    subst hm
    decide
  case isFalse =>
    obtain ⟨d, hd, rfl⟩ := List.mem_map.mp hm
    exact hc d (Nat.digits_lt_base (by decide) (List.mem_reverse.mp hd))

end Decimals

section Hexadecimals

def hexChar (d : ℕ) : Char := if d < 10 then Char.ofNat (48 + d) else Char.ofNat (87 + d)

def hexValue (c : Char) : Option ℕ :=
  if 48 ≤ c.toNat ∧ c.toNat ≤ 57 then some (c.toNat - 48)
  else if 97 ≤ c.toNat ∧ c.toNat ≤ 102 then some (c.toNat - 87)
  else if 65 ≤ c.toNat ∧ c.toNat ≤ 70 then some (c.toNat - 55)
  else none

def toHex (data : List UInt8) : Text := data.flatMap fun b => [hexChar (b.toNat / 16), hexChar (b.toNat % 16)]

def ofHexPairs : List ℕ → List UInt8
  | hi :: lo :: digits => UInt8.ofNat (hi * 16 + lo) :: ofHexPairs digits
  | _ => []

/-- Other characters are skipped, and of an odd number of digits the first one is a byte of its own. -/
def fromHex (text : Text) : List UInt8 :=
  let digits := text.filterMap hexValue
  if digits.length % 2 = 0 then ofHexPairs digits
  else (digits.take 1).map UInt8.ofNat ++ ofHexPairs (digits.drop 1)

lemma hexValue_hexChar : ∀ d < 16, hexValue (hexChar d) = some d := by decide

lemma filterMap_toHex (data : List UInt8) :
    (toHex data).filterMap hexValue = data.flatMap fun b => [b.toNat / 16, b.toNat % 16] := by
  induction data with
  | nil => rfl
  | cons b data ih =>
    have hb := b.toNat_lt
    have hd : toHex (b :: data) = hexChar (b.toNat / 16) :: hexChar (b.toNat % 16) :: toHex data := rfl
    rw [hd, List.filterMap_cons_some (hexValue_hexChar _ (by omega)),
      List.filterMap_cons_some (hexValue_hexChar _ (by omega)), ih]
    rfl

lemma ofHexPairs_flatMap (data : List UInt8) :
    ofHexPairs (data.flatMap fun b => [b.toNat / 16, b.toNat % 16]) = data := by
  induction data with
  | nil => rfl
  | cons b data ih =>
    have hb : UInt8.ofNat (b.toNat / 16 * 16 + b.toNat % 16) = b := by
      rw [Nat.div_add_mod', UInt8.ofNat_toNat]
    rw [List.flatMap_cons, List.cons_append, List.cons_append, List.nil_append, ofHexPairs, hb, ih]

lemma fromHex_toHex (data : List UInt8) : fromHex (toHex data) = data := by
  have hl : (data.flatMap fun b => [b.toNat / 16, b.toNat % 16]).length % 2 = 0 := by simp
  rw [fromHex, filterMap_toHex, if_pos hl, ofHexPairs_flatMap]

lemma hexChar_mem (data : List UInt8) : ∀ c ∈ toHex data, (hexValue c).isSome := by
  intro c hm
  obtain ⟨b, -, hc⟩ := List.mem_flatMap.mp hm
  have hb := b.toNat_lt
  rcases List.mem_pair.mp hc with rfl | rfl
  · rw [hexValue_hexChar _ (by omega)]
    rfl
  · rw [hexValue_hexChar _ (by omega)]
    rfl

end Hexadecimals

section Base64

def base64Char (d : ℕ) : Char :=
  if d < 26 then Char.ofNat (65 + d)
  else if d < 52 then Char.ofNat (71 + d)
  else if d < 62 then Char.ofNat (d - 4)
  else if d = 62 then '+'
  else '/'

def base64Value (c : Char) : Option ℕ :=
  if 65 ≤ c.toNat ∧ c.toNat ≤ 90 then some (c.toNat - 65)
  else if 97 ≤ c.toNat ∧ c.toNat ≤ 122 then some (c.toNat - 71)
  else if 48 ≤ c.toNat ∧ c.toNat ≤ 57 then some (c.toNat + 4)
  else if c = '+' then some 62
  else if c = '/' then some 63
  else none

def toBase64 : List UInt8 → Text
  | [] => []
  | [a] => [base64Char (a.toNat / 4), base64Char (a.toNat % 4 * 16), '=', '=']
  | [a, b] =>
    [base64Char (a.toNat / 4), base64Char (a.toNat % 4 * 16 + b.toNat / 16), base64Char (b.toNat % 16 * 4), '=']
  | a :: b :: c :: data =>
    base64Char (a.toNat / 4) :: base64Char (a.toNat % 4 * 16 + b.toNat / 16) ::
      base64Char (b.toNat % 16 * 4 + c.toNat / 64) :: base64Char (c.toNat % 64) :: toBase64 data

/-- Other characters are skipped, and a byte is written once there are eight bits. -/
def fromBase64Loop : ℕ → ℕ → Text → List UInt8
  | _, _, [] => []
  | buf, nbits, c :: text =>
    match base64Value c with
    | none => fromBase64Loop buf nbits text
    | some d =>
      if nbits + 6 < 8 then fromBase64Loop (buf * 64 + d) (nbits + 6) text
      else
        UInt8.ofNat ((buf * 64 + d) / 2 ^ (nbits - 2)) ::
          fromBase64Loop ((buf * 64 + d) % 2 ^ (nbits - 2)) (nbits - 2) text

def fromBase64 (text : Text) : List UInt8 := fromBase64Loop 0 0 text

lemma base64Value_base64Char : ∀ d < 64, base64Value (base64Char d) = some d := by decide

variable {d buf : ℕ} {text : Text}

lemma loop_first (hd : d < 64) : fromBase64Loop 0 0 (base64Char d :: text) = fromBase64Loop d 6 text := by
  rw [fromBase64Loop, base64Value_base64Char d hd]
  simp

lemma loop_second (hd : d < 64) : fromBase64Loop buf 6 (base64Char d :: text) =
    UInt8.ofNat ((buf * 64 + d) / 16) :: fromBase64Loop ((buf * 64 + d) % 16) 4 text := by
  rw [fromBase64Loop, base64Value_base64Char d hd]
  rfl

lemma loop_third (hd : d < 64) : fromBase64Loop buf 4 (base64Char d :: text) =
    UInt8.ofNat ((buf * 64 + d) / 4) :: fromBase64Loop ((buf * 64 + d) % 4) 2 text := by
  rw [fromBase64Loop, base64Value_base64Char d hd]
  rfl

lemma loop_fourth (hd : d < 64) : fromBase64Loop buf 2 (base64Char d :: text) =
    UInt8.ofNat (buf * 64 + d) :: fromBase64Loop 0 0 text := by
  rw [fromBase64Loop, base64Value_base64Char d hd]
  simp [Nat.mod_one]

lemma ofNat_eq_of {n : ℕ} {b : UInt8} (h : n = b.toNat) : UInt8.ofNat n = b := by rw [h, UInt8.ofNat_toNat]

lemma fromBase64_toBase64 (data : List UInt8) : fromBase64 (toBase64 data) = data := by
  rw [fromBase64]
  induction data using toBase64.induct with
  | case1 => rfl
  | case2 a =>
    have ha := a.toNat_lt
    rw [toBase64, loop_first (by omega), loop_second (by omega), ofNat_eq_of (b := a) (by omega)]
    rfl
  | case3 a b =>
    have ha := a.toNat_lt
    have hb := b.toNat_lt
    rw [toBase64, loop_first (by omega), loop_second (by omega), loop_third (by omega),
      ofNat_eq_of (b := a) (by omega), ofNat_eq_of (b := b) (by omega)]
    rfl
  | case4 a b c data ih =>
    have ha := a.toNat_lt
    have hb := b.toNat_lt
    have hc := c.toNat_lt
    rw [toBase64, loop_first (by omega), loop_second (by omega), loop_third (by omega), loop_fourth (by omega),
      ofNat_eq_of (b := a) (by omega), ofNat_eq_of (b := b) (by omega), ofNat_eq_of (b := c) (by omega), ih]

end Base64

end VpnClient.Library.TextCodes
