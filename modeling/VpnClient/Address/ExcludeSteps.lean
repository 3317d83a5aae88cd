import VpnClient.Address.ExcludeAddresses

/-! When the removal of a prefix ends, where the host bits of both prefixes may be set. -/

namespace VpnClient.Address.IPAddress

open Library.BinaryBlocks

variable {p ip lo hi : IPAddress} {fuel : ℕ} {result r : List IPAddress}

/-- Host bits of `p` are host bits of `ip` too, and behind the prefix of `ip` both have the same. -/
structure Covered (p ip : IPAddress) : Prop where
  behind : ∀ i, ip.prefixLength ≤ i → p.address.bits i = ip.address.bits i
  between : ∀ i, p.prefixLength ≤ i → i < ip.prefixLength → p.address.bits i = true → ip.address.bits i = true

/-- What the loop asks of the prefix that it halves. -/
structure Around (ip p : IPAddress) : Prop where
  protocol : p.address.protocol = ip.address.protocol
  length_le : p.prefixLength ≤ ip.prefixLength
  agree : Agree p.prefixLength p.address.bits ip.address.bits

/-- Whether an exclusion returns a list after at most 128 halvings. -/
def Terminates (p ip : IPAddress) : Prop := ∃ r, p.excludeAddresses 128 ip = .ok r

/-- The two subnets, of which the first keeps the address. -/
structure Halves (p lo hi : IPAddress) : Prop where
  subnets : p.subnets = [lo, hi]
  address : lo.address = p.address
  protocol : hi.address.protocol = p.address.protocol
  length_lo : lo.prefixLength = p.prefixLength + 1
  length_hi : hi.prefixLength = p.prefixLength + 1
  bits : hi.address.bits = half p.prefixLength true p.address.bits

lemma exists_halves (hl : p.prefixLength < p.address.width) : ∃ lo hi, Halves p lo hi := by
  obtain ⟨address, n⟩ := p
  cases address with
  | ipv4 a =>
    have hn : n < 32 := hl
    refine ⟨⟨.ipv4 a, n + 1⟩, ⟨.ipv4 (a ||| 0x80000000#32 >>> n), n + 1⟩, ?_, rfl, rfl, rfl, rfl, ipv4_bits_set a hn⟩
    simp [IPAddress.subnets, hn]
  | ipv6 a =>
    have hn : n < 128 := hl
    refine ⟨⟨.ipv6 a, n + 1⟩, ⟨.ipv6 (a.setIfInBounds (n / 8) (a.byte (n / 8) ||| 0x80#8 >>> (n % 8))), n + 1⟩, ?_,
      rfl, rfl, rfl, rfl, ipv6_bits_set a hn⟩
    simp [IPAddress.subnets, hn]

lemma subnets_single (hl : p.address.width ≤ p.prefixLength) : p.subnets = [p] := by
  obtain ⟨address, n⟩ := p
  cases address with
  | ipv4 a => exact if_pos hl
  | ipv6 a => exact if_pos hl

lemma bits_injective {a b : QHostAddress} (hp : a.protocol = b.protocol) (h : a.bits = b.bits) : a = b :=
  QHostAddress.bits_ext hp fun i _ => congrFun h i

lemma eq_of_bits (hp : p.address.protocol = ip.address.protocol) (hl : p.prefixLength = ip.prefixLength)
    (h : p.address.bits = ip.address.bits) : p = ip :=
  IPAddress.ext (bits_injective hp h) hl

section Steps

lemma Halves.around_lo_iff (h : Halves p lo hi) (ha : Around ip p) (hl : p.prefixLength < p.address.width) :
    ip.subnetOf lo = true ↔ p.prefixLength < ip.prefixLength ∧
      p.address.bits p.prefixLength = ip.address.bits p.prefixLength := by
  have hle : lo.prefixLength ≤ lo.address.width := by rw [h.length_lo, h.address]; exact hl
  rw [subnetOf_iff hle, h.length_lo, h.address, agree_succ]
  exact ⟨fun h => ⟨h.2.1, h.2.2.2⟩, fun h => ⟨ha.protocol, h.1, ha.agree, h.2⟩⟩

lemma Halves.around_hi_iff (h : Halves p lo hi) (ha : Around ip p) (hl : p.prefixLength < p.address.width) :
    ip.subnetOf hi = true ↔ p.prefixLength < ip.prefixLength ∧ ip.address.bits p.prefixLength = true := by
  have hle : hi.prefixLength ≤ hi.address.width := by rw [h.length_hi, QHostAddress.width_eq h.protocol]; exact hl
  rw [subnetOf_iff hle, h.length_hi, h.protocol, h.bits, agree_half]
  exact ⟨fun h => ⟨h.2.1, h.2.2.2⟩, fun h => ⟨ha.protocol, h.1, ha.agree, h.2⟩⟩

lemma Halves.around_lo (h : Halves p lo hi) (ha : Around ip p) (hl : p.prefixLength < p.address.width)
    (hs : ip.subnetOf lo = true) : Around ip lo := by
  obtain ⟨hlt, hb⟩ := (h.around_lo_iff ha hl).mp hs
  constructor
  case protocol => exact h.address ▸ ha.protocol
  case length_le => exact h.length_lo ▸ hlt
  case agree =>
    rw [h.length_lo, h.address, agree_succ]
    exact ⟨ha.agree, hb⟩

lemma Halves.around_hi (h : Halves p lo hi) (ha : Around ip p) (hl : p.prefixLength < p.address.width)
    (hs : ip.subnetOf hi = true) : Around ip hi := by
  obtain ⟨hlt, hb⟩ := (h.around_hi_iff ha hl).mp hs
  constructor
  case protocol => exact h.protocol.trans ha.protocol
  case length_le => exact h.length_hi ▸ hlt
  case agree =>
    rw [h.length_hi, h.bits, agree_half]
    exact ⟨ha.agree, hb⟩

/-- The first half is covered exactly where the whole is, if it is around `ip`. -/
lemma Halves.covered_lo_iff (h : Halves p lo hi)
    (hb : p.address.bits p.prefixLength = ip.address.bits p.prefixLength) : Covered lo ip ↔ Covered p ip := by
  constructor
  · intro hc
    refine ⟨fun i hi => h.address ▸ hc.behind i hi, fun i hn hm hi => ?_⟩
    rcases hn.eq_or_lt with rfl | hn
    · exact hb ▸ hi
    · exact hc.between i (by rw [h.length_lo]; omega) hm (h.address ▸ hi)
  · intro hc
    refine ⟨fun i hi => h.address ▸ hc.behind i hi, fun i hn hm hi => ?_⟩
    rw [h.length_lo] at hn
    exact hc.between i (by omega) hm (h.address ▸ hi)

lemma Halves.covered_hi_iff (h : Halves p lo hi) (hlt : p.prefixLength < ip.prefixLength)
    (hb : ip.address.bits p.prefixLength = true) : Covered hi ip ↔ Covered p ip := by
  have hbits (i : ℕ) (hi' : i ≠ p.prefixLength) : hi.address.bits i = p.address.bits i := by
    rw [h.bits, half_of_ne true hi']
  constructor
  · intro hc
    refine ⟨fun i hi => hbits i (by omega) ▸ hc.behind i hi, fun i hn hm hi => ?_⟩
    rcases hn.eq_or_lt with rfl | hn
    · exact hb
    · exact hc.between i (by rw [h.length_hi]; omega) hm (hbits i (by omega) ▸ hi)
  · intro hc
    refine ⟨fun i hi => hbits i (by omega) ▸ hc.behind i hi, fun i hn hm hi => ?_⟩
    rw [h.length_hi] at hn
    exact hc.between i (by omega) hm (hbits i (by omega) ▸ hi)

/-- One of the halves is `ip` exactly where all is covered and one bit is left. -/
lemma Halves.eq_iff (h : Halves p lo hi) (ha : Around ip p) :
    lo = ip ∨ hi = ip ↔ ip.prefixLength = p.prefixLength + 1 ∧ Covered p ip := by
  constructor
  · rintro (rfl | rfl)
    · exact ⟨h.length_lo, fun i _ => by rw [h.address], fun i _ _ hi => by rw [h.address]; exact hi⟩
    · refine ⟨h.length_hi, fun i hi => ?_, fun i hn hm _ => ?_⟩
      · rw [h.length_hi] at hi
        rw [h.bits, half_of_ne true (by omega)]
      · rw [h.length_hi] at hm
        obtain rfl : i = p.prefixLength := by omega
        rw [h.bits, half_self]
  · rintro ⟨hl, hc⟩
    cases hb : ip.address.bits p.prefixLength with
    | false =>
      left
      refine eq_of_bits (h.address ▸ ha.protocol) (h.length_lo.trans hl.symm) (h.address ▸ ?_)
      funext i
      rcases lt_trichotomy i p.prefixLength with hi | rfl | hi
      · exact ha.agree i hi
      · rw [hb, ← Bool.not_eq_true]
        exact fun hp => by simp [hc.between _ le_rfl (by omega) hp] at hb
      · exact hc.behind i (by omega)
    | true =>
      right
      refine eq_of_bits (h.protocol.trans ha.protocol) (h.length_hi.trans hl.symm) ?_
      funext i
      rw [h.bits]
      rcases lt_trichotomy i p.prefixLength with hi | rfl | hi
      · rw [half_of_ne true hi.ne, ha.agree i hi]
      · rw [half_self, hb]
      · rw [half_of_ne true hi.ne', hc.behind i (by omega)]

end Steps

/-- The loop never returns from a prefix that is not covered, by induction on its rounds. -/
lemma excludeLoop_ne_ok (ha : Around ip p) (hc : Covered p ip → p.prefixLength = ip.prefixLength) :
    excludeLoop ip fuel p.subnets result ≠ .ok r := by
  induction fuel generalizing p result with
  | zero => simp [excludeLoop]
  | succ fuel ih =>
    rcases le_or_gt p.address.width p.prefixLength with hl | hl
    · rw [subnets_single hl]
      simp [excludeLoop]
    · obtain ⟨lo, hi, h⟩ := exists_halves hl
      have hne : lo ≠ ip ∧ hi ≠ ip := by
        rw [← not_or, h.eq_iff ha]
        rintro ⟨hl, hcov⟩
        have := hc hcov
        omega
      rw [h.subnets, excludeLoop, if_pos hne]
      split_ifs with hlo hhi
      · obtain ⟨hlt, hb⟩ := (h.around_lo_iff ha hl).mp hlo
        apply ih (h.around_lo ha hl hlo)
        intro hcov
        have := hc ((h.covered_lo_iff hb).mp hcov)
        omega
      · obtain ⟨hlt, hb⟩ := (h.around_hi_iff ha hl).mp hhi
        apply ih (h.around_hi ha hl hhi)
        intro hcov
        have := hc ((h.covered_hi_iff hlt hb).mp hcov)
        omega
      · simp

lemma exists_excludeLoop (d : ℕ) (ha : Around ip p) (hc : Covered p ip)
    (hd : ip.prefixLength = p.prefixLength + (d + 1)) (hw : ip.prefixLength ≤ ip.address.width) (hf : d + 1 ≤ fuel) :
    ∃ r, excludeLoop ip fuel p.subnets result = .ok r := by
  induction d generalizing p result fuel with
  | zero =>
    obtain ⟨fuel, rfl⟩ : ∃ k, fuel = k + 1 := ⟨fuel - 1, by omega⟩
    obtain ⟨lo, hi, h⟩ := exists_halves (p := p) (by rw [QHostAddress.width_eq ha.protocol]; omega)
    have he : ¬ (lo ≠ ip ∧ hi ≠ ip) := by
      rw [← not_or, not_not, h.eq_iff ha]
      exact ⟨hd, hc⟩
    rw [h.subnets, excludeLoop, if_neg he]
    split_ifs
    · exact ⟨_, rfl⟩
    · exact ⟨_, rfl⟩
  | succ d ih =>
    obtain ⟨fuel, rfl⟩ : ∃ k, fuel = k + 1 := ⟨fuel - 1, by omega⟩
    have hl : p.prefixLength < p.address.width := by rw [QHostAddress.width_eq ha.protocol]; omega
    obtain ⟨lo, hi, h⟩ := exists_halves hl
    have hne : lo ≠ ip ∧ hi ≠ ip := by
      rw [← not_or, h.eq_iff ha]
      rintro ⟨hl, -⟩
      omega
    rw [h.subnets, excludeLoop, if_pos hne]
    by_cases hlo : ip.subnetOf lo = true
    case pos =>
      obtain ⟨hlt, hb⟩ := (h.around_lo_iff ha hl).mp hlo
      rw [if_pos hlo]
      exact ih (h.around_lo ha hl hlo) ((h.covered_lo_iff hb).mpr hc) (by rw [h.length_lo]; omega) (by omega)
    case neg =>
      have hb : ip.address.bits p.prefixLength = true := by
        by_contra hb
        rw [h.around_lo_iff ha hl, not_and] at hlo
        have hp : ¬ p.address.bits p.prefixLength = true := fun hp => hb (hc.between _ le_rfl (by omega) hp)
        rw [Bool.not_eq_true] at hb hp
        exact hlo (by omega) (hp.trans hb.symm)
      have hhi := (h.around_hi_iff ha hl).mpr ⟨by omega, hb⟩
      rw [if_neg hlo, if_pos hhi]
      exact ih (h.around_hi ha hl hhi) ((h.covered_hi_iff (by omega) hb).mpr hc) (by rw [h.length_hi]; omega) (by omega)

lemma Covered.prefix_lt (hc : Covered p ip) (ha : Around ip p) (hne : ip ≠ p) : p.prefixLength < ip.prefixLength := by
  refine lt_of_le_of_ne ha.length_le fun he => hne (eq_of_bits ha.protocol.symm he.symm ?_)
  funext i
  rcases lt_or_ge i p.prefixLength with hi | hi
  · exact (ha.agree i hi).symm
  · exact (hc.behind i (by omega)).symm

/-- The removal of a subnet ends exactly where its host bits cover those of the prefix that it is removed from. -/
theorem terminates_iff_covered (p ip : IPAddress) (hp : p.prefixLength ≤ p.address.width)
    (hi : ip.prefixLength ≤ ip.address.width) (hs : ip.subnetOf p = true) (hne : ip ≠ p) :
    Terminates p ip ↔ Covered p ip := by
  obtain ⟨hprot, hl, hagree⟩ := (subnetOf_iff hp).mp hs
  have ha : Around ip p := ⟨hprot, hl, hagree⟩
  have hw := width_le ip.address
  rw [Terminates]
  constructor
  · rintro ⟨r, hr⟩
    by_contra hc
    rw [excludeAddresses] at hr
    split_ifs at hr
    exact excludeLoop_ne_ok ha (fun h => absurd h hc) hr
  · intro hc
    have hlt := hc.prefix_lt ha hne
    obtain ⟨lo, hi', h⟩ := exists_halves (p := p) (by rw [QHostAddress.width_eq hprot]; omega)
    rw [excludeAddresses, if_pos (by rw [h.subnets]; simp)]
    exact exists_excludeLoop (ip.prefixLength - p.prefixLength - 1) ha hc (by omega) hi (by omega)

/-- The prefix of 24 bits is removed from that of 8 bits. -/
theorem terminates_iff_covered_ten : Terminates ⟨.ipv4 0x0a000000#32, 8⟩ ⟨.ipv4 0x0a000000#32, 24⟩ ↔
    Covered ⟨.ipv4 0x0a000000#32, 8⟩ ⟨.ipv4 0x0a000000#32, 24⟩ :=
  terminates_iff_covered ⟨.ipv4 0x0a000000#32, 8⟩ ⟨.ipv4 0x0a000000#32, 24⟩ (by decide) (by decide) (by decide)
    (by decide)

/-- The last bit of the prefix that is halved stays set in all halves, so none of them is the one to remove. -/
theorem not_terminates_host_bit : IPAddress.subnetOf ⟨.ipv4 0x0a000000#32, 24⟩ ⟨.ipv4 0x0a000001#32, 8⟩ = true ∧
    ¬ Terminates ⟨.ipv4 0x0a000001#32, 8⟩ ⟨.ipv4 0x0a000000#32, 24⟩ := by
  refine ⟨by decide, ?_⟩
  rintro ⟨r, hr⟩
  have he : excludeAddresses 128 ⟨.ipv4 0x0a000001#32, 8⟩ ⟨.ipv4 0x0a000000#32, 24⟩ = .error .assertion := by
    decide +kernel
  rw [he] at hr
  cases hr

end VpnClient.Address.IPAddress
