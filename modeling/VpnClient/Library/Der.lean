import VpnClient.Library.LittleEndian

/-! Elements of DER: tags, lengths and contents, and the shortest contents of an integer that is not negative. -/

namespace VpnClient.Library.Der

/-- The number of bytes that start with the most significant one. -/
def value (bytes : List UInt8) : ℕ := LittleEndian.value bytes.reverse

def octets (n : ℕ) : List UInt8 := (LittleEndian.bytes (Nat.digits 256 n).length n).reverse

/-- The short form of a length, or the number of its octets and those octets. -/
def lengthOctets (n : ℕ) : List UInt8 :=
  if n < 0x80 then [.ofNat n] else .ofNat (0x80 + (octets n).length) :: octets n

def element (tag : UInt8) (contents : List UInt8) : List UInt8 := tag :: (lengthOctets contents.length ++ contents)

def integer (contents : List UInt8) : List UInt8 := element 0x02 contents

def sequenceOf (elements : List (List UInt8)) : List UInt8 := element 0x30 elements.flatten

/-- A number without sign as one with sign: a leading bit that is set would make it negative. -/
def signed : List UInt8 → List UInt8
  | [] => []
  | b :: bytes => if 0x80 ≤ b then 0 :: b :: bytes else b :: bytes

/-- A leading zero byte is there for the sign, or for the number zero. -/
def Tight : List UInt8 → Prop
  | b :: c :: _ => b = 0 → 0x80 ≤ c
  | _ => True

/-- The contents of an integer that is not negative, as a strict parser takes them. -/
structure IsInteger (n : ℕ) (contents : List UInt8) : Prop where
  ne_nil : contents ≠ []
  positive : ∀ b ∈ contents.head?, b < 0x80
  tight : Tight contents
  encodes : value contents = n

instance (bytes : List UInt8) : Decidable (Tight bytes) :=
  match bytes with
  | [] | [_] => isTrue trivial
  | _ :: _ :: _ => inferInstanceAs (Decidable (_ → _))

variable {n m : ℕ} {tag b : UInt8} {bytes a c x y : List UInt8}

lemma value_lt (bytes : List UInt8) : value bytes < 256 ^ bytes.length := by
  rw [value, ← LittleEndian.bytes_value bytes.reverse, LittleEndian.value_bytes, List.length_reverse]
  exact Nat.mod_lt _ (by positivity)

lemma value_cons : value (b :: bytes) = b.toNat * 256 ^ bytes.length + value bytes := by
  simp only [value, LittleEndian.value, List.reverse_cons, List.map_append, Nat.ofDigits_append, List.length_map,
    List.length_reverse, List.map_cons, List.map_nil, Nat.ofDigits_singleton]
  ring

lemma value_zero_cons : value (0 :: bytes) = value bytes := by
  rw [value_cons]
  simp

lemma value_signed : value (signed bytes) = value bytes := by
  cases bytes with
  | nil => rfl
  | cons b bytes =>
    rw [signed]
    split_ifs
    · exact value_zero_cons
    · rfl

lemma signed_ne_nil (h : bytes ≠ []) : signed bytes ≠ [] := by
  cases bytes with
  | nil => exact absurd rfl h
  | cons b bytes =>
    rw [signed]
    split_ifs <;> simp

lemma signed_positive : ∀ b ∈ (signed bytes).head?, b < 0x80 := by
  cases bytes with
  | nil => simp [signed]
  | cons b bytes =>
    rw [signed]
    split_ifs with hb
    · simp
    · simpa using hb

lemma tight_signed_iff : Tight (signed bytes) ↔ Tight bytes := by
  cases bytes with
  | nil => rfl
  | cons b bytes =>
    rw [signed]
    split_ifs with hb
    · have ht : Tight (b :: bytes) := by
        cases bytes with
        | nil => trivial
        | cons c bytes =>
          rintro rfl
          simp at hb
      exact iff_of_true (fun _ => hb) ht
    · rfl

lemma isInteger_signed_iff (h : bytes ≠ []) : IsInteger (value bytes) (signed bytes) ↔ Tight bytes := by
  rw [← tight_signed_iff]
  constructor
  · intro hi
    exact hi.tight
  · intro ht
    exact ⟨signed_ne_nil h, signed_positive, ht, value_signed⟩

/-- What a strict parser takes is as short as any contents of the number. -/
lemma IsInteger.length_le (h : IsInteger n a) (hc : c ≠ []) (hp : ∀ b ∈ c.head?, b < 0x80) (hv : value c = n) :
    a.length ≤ c.length := by
  obtain ⟨d, c, rfl⟩ := List.exists_cons_of_ne_nil hc
  obtain ⟨hn, -, ht, ha⟩ := h
  have hd : d.toNat < 128 := UInt8.lt_iff_toNat_lt.mp (hp d rfl)
  have hl := value_lt (d :: c)
  have hs : value (d :: c) < 128 * 256 ^ c.length := by
    have hr := value_lt c
    rw [value_cons]
    nlinarith
  rw [hv, ← ha] at hl hs
  match a with
  | [] => exact absurd rfl hn
  | [b] => simp
  | b :: e :: a =>
    by_cases hb : b = 0
    · have he : 128 ≤ e.toNat := UInt8.le_iff_toNat_le.mp (ht hb)
      rw [hb, value_zero_cons, value_cons] at hs
      have hm := Nat.mul_le_mul_right (256 ^ a.length) he
      have hle : 256 ^ a.length < 256 ^ c.length := by linarith
      have hlt := (Nat.pow_lt_pow_iff_right (by norm_num)).mp hle
      simpa using hlt
    · have hb' : 1 ≤ b.toNat := by
        rw [Nat.one_le_iff_ne_zero]
        exact fun h => hb (UInt8.toNat_inj.mp h)
      rw [value_cons] at hl
      have hm := Nat.mul_le_mul_right (256 ^ (e :: a).length) hb'
      have hle : 256 ^ (e :: a).length < 256 ^ (d :: c).length := by linarith
      have hlt := (Nat.pow_lt_pow_iff_right (by norm_num)).mp hle
      simpa using hlt

lemma length_lengthOctets_le (h : n ≤ m) : (lengthOctets n).length ≤ (lengthOctets m).length := by
  have hd := Nat.le_length_digits_le 256 n m h
  rw [lengthOctets, lengthOctets]
  split_ifs
  · rfl
  · simp
  · omega
  · simpa [octets] using hd

lemma length_element_lt (h : a.length < c.length) : (element tag a).length < (element tag c).length := by
  have hl := length_lengthOctets_le h.le
  simp only [element, List.length_cons, List.length_append]
  omega

lemma length_element_le (h : a.length ≤ c.length) : (element tag a).length ≤ (element tag c).length := by
  have hl := length_lengthOctets_le h
  simp only [element, List.length_cons, List.length_append]
  omega

lemma element_inj : element tag a = element tag c ↔ a = c := by
  constructor
  · intro h
    have hl : a.length = c.length := by
      rcases lt_trichotomy a.length c.length with hl | hl | hl
      · exact absurd (congrArg List.length h) (length_element_lt hl).ne
      · exact hl
      · exact absurd (congrArg List.length h) (length_element_lt hl).ne'
    rw [element, element, hl] at h
    exact List.append_cancel_left (List.cons.inj h).2
  · rintro rfl
    rfl

/-- Shorter contents cannot make up the same sequence. -/
lemma sequenceOf_inj (ha : a.length ≤ x.length) (hc : c.length ≤ y.length)
    (h : sequenceOf [integer x, integer y] = sequenceOf [integer a, integer c]) : x = a ∧ y = c := by
  have hf := element_inj.mp h
  simp only [List.flatten_cons, List.flatten_nil, List.append_nil] at hf
  have hl := congrArg List.length hf
  have ha' : (integer a).length ≤ (integer x).length := length_element_le ha
  have hc' : (integer c).length ≤ (integer y).length := length_element_le hc
  simp only [List.length_append] at hl
  obtain ⟨hx, hy⟩ := List.append_inj hf (by omega)
  exact ⟨element_inj.mp hx, element_inj.mp hy⟩

end VpnClient.Library.Der
