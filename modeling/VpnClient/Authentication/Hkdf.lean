import Mathlib.Tactic

/-! Key derivation with the authentication codes of a hash algorithm: a private key is extracted from the key material,
and expanded to the length that is asked for. -/

namespace VpnClient.Authentication

abbrev Bytes := List UInt8

/-- The authentication codes of some hash algorithms. -/
structure Hmac (Algorithm : Type) where
  hashLength : Algorithm → ℕ
  hash : Bytes → Bytes → Algorithm → Bytes
  hashLength_pos : ∀ method, 0 < hashLength method
  length_hash : ∀ message key method, (hash message key method).length = hashLength method

structure QMessageAuthenticationCode (Algorithm : Type) where
  method : Algorithm
  key : Bytes
  message : Bytes := []

namespace QMessageAuthenticationCode

variable {Algorithm : Type}

def setKey (key : Bytes) (m : QMessageAuthenticationCode Algorithm) : QMessageAuthenticationCode Algorithm :=
  { m with key, message := [] }

def addData (data : Bytes) (m : QMessageAuthenticationCode Algorithm) : QMessageAuthenticationCode Algorithm :=
  { m with message := m.message ++ data }

def result (hmac : Hmac Algorithm) (m : QMessageAuthenticationCode Algorithm) : Bytes :=
  hmac.hash m.message m.key m.method

end QMessageAuthenticationCode

structure HKDF (Algorithm : Type) where
  algorithm : Algorithm
  hmac : QMessageAuthenticationCode Algorithm

namespace HKDF

variable {Algorithm : Type} (hmac : Hmac Algorithm)

def zeroSalt (method : Algorithm) : Bytes := List.replicate (hmac.hashLength method) 0

def create (method : Algorithm) (salt : Bytes) : HKDF Algorithm :=
  let code : QMessageAuthenticationCode Algorithm := { method, key := salt }
  { algorithm := method, hmac := if salt.length = 0 then code.setKey (zeroSalt hmac method) else code }

def setSalt (salt : Bytes) (h : HKDF Algorithm) : HKDF Algorithm := { h with hmac := h.hmac.setKey salt }

def addData (h : HKDF Algorithm) (data : Bytes) : HKDF Algorithm := { h with hmac := h.hmac.addData data }

/-- The loop of `result`. The counter is a `char`, of which only the byte matters. -/
def resultLoop (algorithm : Algorithm) (privkey info : Bytes) (length : ℤ) (counter : UInt8) (block result : Bytes) :
    Bytes :=
  if result.length < length then
    let block := hmac.hash (block ++ info ++ [counter]) privkey algorithm
    resultLoop algorithm privkey info length (counter + 1) block (result ++ block)
  else result
termination_by length.toNat - result.length
decreasing_by
  have hl := hmac.hashLength_pos algorithm
  rw [List.length_append, hmac.length_hash]
  omega

def result (length : ℤ) (info : Bytes) (h : HKDF Algorithm) : Bytes :=
  (resultLoop hmac h.algorithm (h.hmac.result hmac) info length 1 [] []).take length.toNat

end HKDF

/-! The reference, RFC 5869. -/

namespace Rfc5869

variable {Algorithm : Type} (hmac : Hmac Algorithm) (method : Algorithm)

/-- The salt is as many zeros as the hash is long if it is not provided. -/
def extract (salt ikm : Bytes) : Bytes :=
  hmac.hash ikm (if salt = [] then List.replicate (hmac.hashLength method) 0 else salt) method

/-- A number as a single octet, if it fits. -/
def octet (i : ℕ) : Option UInt8 := if h : i < 2 ^ 8 then some ⟨⟨i, h⟩⟩ else none

def T (prk info : Bytes) : ℕ → Option Bytes
  | 0 => some []
  | i + 1 => do
    let previous ← T prk info i
    let counter ← octet (i + 1)
    pure (hmac.hash (previous ++ info ++ [counter]) prk method)

/-- The first octets of the concatenation of as many blocks as are needed. -/
def expand (prk info : Bytes) (length : ℕ) : Option Bytes := do
  let N := ⌈(length : ℚ) / hmac.hashLength method⌉₊
  let blocks ← (List.range N).mapM fun i => T hmac method prk info (i + 1)
  pure (blocks.flatten.take length)

def hkdf (salt ikm info : Bytes) (length : ℕ) : Option Bytes :=
  expand hmac method (extract hmac method salt ikm) info length

end Rfc5869

namespace HKDF

variable {Algorithm : Type} (hmac : Hmac Algorithm)

section Blocks

variable (method : Algorithm) (prk info : Bytes)

/-- The blocks with a counter that wraps around. -/
def block : ℕ → Bytes
  | 0 => []
  | i + 1 => hmac.hash (block i ++ info ++ [UInt8.ofNat (i + 1)]) prk method

def blocks (n : ℕ) : Bytes := (List.range n).flatMap fun i => block hmac method prk info (i + 1)

/-- How many blocks it takes to reach the length. -/
def count (length : ℕ) : ℕ := ⌈(length : ℚ) / hmac.hashLength method⌉₊

variable {hmac method prk info}

lemma blocks_succ (n : ℕ) :
    blocks hmac method prk info (n + 1) = blocks hmac method prk info n ++ block hmac method prk info (n + 1) := by
  simp [blocks, List.range_succ]

lemma length_blocks (n : ℕ) : (blocks hmac method prk info n).length = n * hmac.hashLength method := by
  induction n with
  | zero => simp [blocks]
  | succ n ih => rw [blocks_succ, List.length_append, ih, block, hmac.length_hash, Nat.succ_mul]

lemma blocks_add (n k : ℕ) : ∃ rest, blocks hmac method prk info (n + k) = blocks hmac method prk info n ++ rest := by
  induction k with
  | zero => exact ⟨[], (List.append_nil _).symm⟩
  | succ k ih =>
    obtain ⟨rest, hr⟩ := ih
    refine ⟨rest ++ block hmac method prk info (n + k + 1), ?_⟩
    rw [← Nat.add_assoc, blocks_succ, hr, List.append_assoc]

lemma lt_count {i length : ℕ} : i < count hmac method length ↔ i * hmac.hashLength method < length := by
  have hl : (0 : ℚ) < hmac.hashLength method := Nat.cast_pos.mpr (hmac.hashLength_pos method)
  rw [count, Nat.lt_ceil, lt_div_iff₀ hl]
  exact_mod_cast Iff.rfl

lemma count_mono {length length' : ℕ} (h : length ≤ length') :
    count hmac method length ≤ count hmac method length' := by
  by_contra hlt
  have hc : count hmac method length' < count hmac method length := not_le.mp hlt
  exact lt_irrefl _ (lt_count.mpr ((lt_count.mp hc).trans_le h))

lemma length_le_blocks (length : ℕ) : length ≤ (blocks hmac method prk info (count hmac method length)).length := by
  rw [length_blocks]
  exact not_lt.mp fun h => lt_irrefl _ (lt_count.mpr h)

lemma take_blocks_prefix {length length' : ℕ} (h : length ≤ length') :
    (blocks hmac method prk info (count hmac method length)).take length <+:
      (blocks hmac method prk info (count hmac method length')).take length' := by
  obtain ⟨k, hk⟩ := Nat.exists_eq_add_of_le (count_mono h)
  obtain ⟨rest, hr⟩ := blocks_add _ k
  rw [hk, hr, ← List.take_append_of_le_length (length_le_blocks length)]
  exact List.take_prefix_take_left h

lemma resultLoop_blocks {length : ℕ} (k : ℕ) {i : ℕ} (hk : i + k = count hmac method length) :
    resultLoop hmac method prk info length (UInt8.ofNat (i + 1)) (block hmac method prk info i)
      (blocks hmac method prk info i) = blocks hmac method prk info (count hmac method length) := by
  rw [resultLoop]
  induction k generalizing i with
  | zero =>
    have hi : ¬i * hmac.hashLength method < length := fun h => absurd (lt_count.mpr h) (by omega)
    rw [if_neg (by rw [length_blocks]; exact_mod_cast hi), ← hk, Nat.add_zero]
  | succ k ih =>
    have hi : i * hmac.hashLength method < length := lt_count.mp (by omega)
    rw [if_pos (by rw [length_blocks]; exact_mod_cast hi)]
    have hb : hmac.hash (block hmac method prk info i ++ info ++ [UInt8.ofNat (i + 1)]) prk method =
        block hmac method prk info (i + 1) := rfl
    have hc : UInt8.ofNat (i + 1) + 1 = UInt8.ofNat (i + 1 + 1) := (UInt8.ofNat_add (i + 1) 1).symm
    simp only [hb, hc]
    rw [← blocks_succ, resultLoop]
    exact ih (by omega)

lemma T_eq {n : ℕ} (hn : n < 2 ^ 8) : Rfc5869.T hmac method prk info n = some (block hmac method prk info n) := by
  induction n with
  | zero => rfl
  | succ n ih =>
    have ho : Rfc5869.octet (n + 1) = some (UInt8.ofNat (n + 1)) := by
      rw [Rfc5869.octet, dif_pos hn]
      exact congrArg some (UInt8.toNat_inj.mp (UInt8.toNat_ofNat_of_lt hn).symm)
    rw [Rfc5869.T, ih (by omega), ho]
    rfl

lemma mapM_T {n : ℕ} (hn : n < 2 ^ 8) :
    ∃ bs, (List.range n).mapM (fun i => Rfc5869.T hmac method prk info (i + 1)) = some bs ∧
      bs.flatten = blocks hmac method prk info n := by
  induction n with
  | zero => exact ⟨[], rfl, rfl⟩
  | succ n ih =>
    obtain ⟨bs, hm, hb⟩ := ih (by omega)
    refine ⟨bs ++ [block hmac method prk info (n + 1)], ?_, ?_⟩
    · rw [List.range_succ, List.mapM_append, hm, List.mapM_cons, T_eq hn]
      rfl
    · rw [List.flatten_append, hb, blocks_succ, List.flatten_singleton]

lemma expand_eq {length : ℕ} (h : length ≤ 255 * hmac.hashLength method) :
    Rfc5869.expand hmac method prk info length =
      some ((blocks hmac method prk info (count hmac method length)).take length) := by
  have hc : count hmac method length < 2 ^ 8 := Nat.lt_succ_of_le (not_lt.mp fun hlt => (lt_count.mp hlt).not_ge h)
  obtain ⟨bs, hm, hb⟩ := mapM_T hc
  rw [← hb]
  exact congrArg (· >>= fun blocks => some (blocks.flatten.take length)) hm

end Blocks

variable {hmac} {method : Algorithm} {salt : Bytes}

lemma algorithm_foldl (parts : List Bytes) (h : HKDF Algorithm) : (parts.foldl addData h).algorithm = h.algorithm := by
  induction parts generalizing h with
  | nil => rfl
  | cons data parts ih => exact ih _

lemma hmac_foldl (parts : List Bytes) (h : HKDF Algorithm) :
    (parts.foldl addData h).hmac = h.hmac.addData parts.flatten := by
  induction parts generalizing h with
  | nil => simp [QMessageAuthenticationCode.addData]
  | cons data parts ih =>
    rw [List.foldl_cons, ih]
    simp [addData, QMessageAuthenticationCode.addData]

lemma hmac_create : (create hmac method salt).hmac =
    { method, key := if salt = [] then List.replicate (hmac.hashLength method) 0 else salt } := by
  by_cases hs : salt = []
  · subst hs
    rfl
  · have hl : salt.length ≠ 0 := fun h => hs (List.length_eq_zero_iff.mp h)
    simp [create, hl, hs]

/-- The private key does not depend on how the key material was split. -/
lemma privkey_eq (parts : List Bytes) :
    ((parts.foldl addData (create hmac method salt)).hmac.result hmac) =
      Rfc5869.extract hmac method salt parts.flatten := by
  rw [hmac_foldl, hmac_create, QMessageAuthenticationCode.result, Rfc5869.extract]
  rfl

lemma result_eq (parts : List Bytes) (info : Bytes) (length : ℕ) :
    result hmac length info (parts.foldl addData (create hmac method salt)) =
      (blocks hmac method (Rfc5869.extract hmac method salt parts.flatten) info (count hmac method length)).take
        length := by
  rw [result, privkey_eq, algorithm_foldl, Int.toNat_natCast]
  exact congrArg (List.take length) (resultLoop_blocks _ (Nat.zero_add _))

/-- The derived keys are those of the reference, and a shorter one is the start of a longer one. -/
theorem result_spec (hmac : Hmac Algorithm) (method : Algorithm) (salt info : Bytes) (parts : List Bytes)
    (L L' : ℕ) (h : L ≤ L') (hL : L' ≤ 255 * hmac.hashLength method) :
    let hkdf := parts.foldl addData (create hmac method salt)
    Rfc5869.hkdf hmac method salt parts.flatten info L = some (result hmac L info hkdf) ∧
      result hmac L info hkdf <+: result hmac L' info hkdf := by
  intro hkdf
  rw [result_eq, result_eq, Rfc5869.hkdf, expand_eq (h.trans hL)]
  exact ⟨rfl, take_blocks_prefix h⟩

def testIkm : Bytes := List.replicate 22 0x0b

def testSalt : Bytes := (List.range 13).map UInt8.ofNat

def testInfo : Bytes := (List.range 10).map fun i => UInt8.ofNat (0xf0 + i)

def testPrk : Bytes :=
  [0x07, 0x77, 0x09, 0x36, 0x2c, 0x2e, 0x32, 0xdf, 0x0d, 0xdc, 0x3f, 0x0d, 0xc4, 0x7b, 0xba, 0x63, 0x90, 0xb6, 0xc7,
    0x3b, 0xb5, 0x0f, 0x9c, 0x31, 0x22, 0xec, 0x84, 0x4a, 0xd7, 0xc2, 0xb3, 0xe5]

def testOkm : Bytes :=
  [0x3c, 0xb2, 0x5f, 0x25, 0xfa, 0xac, 0xd5, 0x7a, 0x90, 0x43, 0x4f, 0x64, 0xd0, 0x36, 0x2f, 0x2a, 0x2d, 0x2d, 0x0a,
    0x90, 0xcf, 0x1a, 0x5a, 0x4c, 0x5d, 0xb0, 0x2d, 0x56, 0xec, 0xc4, 0xc5, 0xbf, 0x34, 0x00, 0x72, 0x08, 0xd5, 0xb8,
    0x87, 0x18, 0x58, 0x65, 0xb4, 0xb0, 0xa8, 0x5a, 0x99, 0x3b, 0x89, 0xb9, 0xb6, 0x56, 0x83, 0xd6, 0x0f, 0x01, 0x06,
    0xd2, 0x8f, 0xff, 0x03, 0x9d, 0x0b, 0x6f]

/-- The codes of SHA-256 that a test of the reference needs. -/
def testHmac : Hmac Unit where
  hashLength _ := 32
  hash message key _ :=
    if key = testSalt ∧ message = testIkm then testPrk
    else if key = testPrk ∧ message = testInfo ++ [1] then testOkm.take 32
    else if key = testPrk ∧ message = testOkm.take 32 ++ testInfo ++ [2] then testOkm.drop 32
    else List.replicate 32 0
  hashLength_pos _ := by decide
  length_hash message key method := by split_ifs <;> rfl

theorem result_spec_test :
    let hkdf := [testIkm.take 5, testIkm.drop 5].foldl addData (create testHmac () testSalt)
    result testHmac (42 : ℕ) testInfo hkdf = testOkm.take 42 ∧
      result testHmac (42 : ℕ) testInfo hkdf <+: result testHmac (64 : ℕ) testInfo hkdf := by
  intro hkdf
  have hs := result_spec testHmac () testSalt testInfo [testIkm.take 5, testIkm.drop 5] 42 64 (by decide) (by decide)
  have ho : Rfc5869.hkdf testHmac () testSalt testIkm testInfo 42 = some (testOkm.take 42) := by decide +kernel
  exact ⟨Option.some.inj (hs.1.symm.trans ho), hs.2⟩

end HKDF

end VpnClient.Authentication
