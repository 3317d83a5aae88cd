import VpnClient.Address.IPAddress

/-! The result of `excludeAddresses` covers the set difference of the two lists. -/

namespace VpnClient.Address

open Library.BinaryBlocks

namespace IPAddress

variable {p q ip exclude : IPAddress} {h : QHostAddress}

lemma byte_eq_iff (a b : Q_IPV6ADDR) (j : ℕ) :
    a.byte j = b.byte j ↔
      ∀ i, 8 * j ≤ i → i < 8 * j + 8 → (QHostAddress.ipv6 a).bits i = (QHostAddress.ipv6 b).bits i := by
  constructor
  · intro h i hl hu
    have hd : i / 8 = j := by omega
    simp [QHostAddress.bits, hd, h]
  · intro h
    apply BitVec.eq_of_getMsbD_eq
    intro i hi
    have hb := h (8 * j + i) (by omega) (by omega)
    have hd : (8 * j + i) / 8 = j := by omega
    have hm : (8 * j + i) % 8 = i := by omega
    simpa only [QHostAddress.bits, hd, hm] using hb

lemma ipv6_agree_iff (a b : Q_IPV6ADDR) (n : ℕ) :
    Agree n (QHostAddress.ipv6 a).bits (QHostAddress.ipv6 b).bits ↔
      (∀ j < n / 8, a.byte j = b.byte j) ∧
        Agree (n % 8) ((a.byte (n / 8)).getMsbD ·) ((b.byte (n / 8)).getMsbD ·) := by
  constructor
  · intro h
    refine ⟨fun j hj => (byte_eq_iff a b j).mpr fun i _ hu => h i (by omega), fun i hi => ?_⟩
    have hb := h (8 * (n / 8) + i) (by omega)
    have hd : (8 * (n / 8) + i) / 8 = n / 8 := by omega
    have hm : (8 * (n / 8) + i) % 8 = i := by omega
    simpa only [QHostAddress.bits, hd, hm] using hb
  · rintro ⟨hb, hr⟩ i hi
    by_cases hj : i / 8 < n / 8
    · exact (byte_eq_iff a b (i / 8)).mp (hb _ hj) i (by omega) (by omega)
    · have hd : i / 8 = n / 8 := by omega
      have hh := hr (i % 8) (by omega)
      simpa only [QHostAddress.bits, hd] using hh

lemma contains_iff (hl : p.prefixLength ≤ p.address.width) :
    p.contains h = true ↔
      h.protocol = p.address.protocol ∧ Agree p.prefixLength p.address.bits h.bits := by
  obtain ⟨address, n⟩ := p
  rw [contains]
  by_cases hp : h.protocol = address.protocol
  · by_cases hn : n = 0
    · simp [hp, hn]
    · cases address with
      | ipv4 a =>
        cases h with
        | ipv4 b =>
          have hs : _ ↔ Agree n (QHostAddress.ipv4 a).bits (QHostAddress.ipv4 b).bits :=
            xor_shift_eq_zero a b hl
          have hle : n ≤ 32 := hl
          by_cases hlt : n < 32
          · simpa [QHostAddress.protocol, QHostAddress.toIPv4Address, hn, hlt] using hs
          · obtain rfl : n = 32 := by omega
            simpa [QHostAddress.protocol, QHostAddress.toIPv4Address, QHostAddress.width] using hs
        | ipv6 b => simp [QHostAddress.protocol] at hp
      | ipv6 a =>
        cases h with
        | ipv4 b => simp [QHostAddress.protocol] at hp
        | ipv6 b =>
          have hs := xor_shift_eq_zero (a.byte (n / 8)) (b.byte (n / 8)) (r := n % 8) (by omega)
          simp only [QHostAddress.protocol, QHostAddress.toIPv6Address, hn, ipv6_agree_iff]
          by_cases hb : ∀ j < n / 8, a.byte j = b.byte j
          · by_cases hr : n % 8 = 0
            · simp [hr]
            · simpa [hr] using fun _ => hs
          · have hb' : ∃ j < n / 8, ¬ a.byte j = b.byte j := by simpa using hb
            simp [hb, hb']
  · simp [hp]

lemma mem_hosts (hl : p.prefixLength ≤ p.address.width) :
    h ∈ p.hosts ↔ h.protocol = p.address.protocol ∧ h.bits ∈ block p.prefixLength p.address.bits :=
  contains_iff hl

lemma subnetOf_iff (hl : q.prefixLength ≤ q.address.width) :
    p.subnetOf q = true ↔ q.address.protocol = p.address.protocol ∧
      q.prefixLength ≤ p.prefixLength ∧ Agree q.prefixLength q.address.bits p.address.bits := by
  rw [subnetOf]
  by_cases hp : q.address.protocol = p.address.protocol
  · by_cases hlt : p.prefixLength < q.prefixLength
    · simp only [hp, hlt, ne_eq, not_true, if_false, if_true, Bool.false_eq_true, true_and, false_iff]
      omega
    · simp [hp, hlt, contains_iff hl, not_lt.mp hlt]
  · simp [hp]

/-- `q` is the half of `p` whose first free bit is `b`. -/
structure IsHalf (p : IPAddress) (b : Bool) (q : IPAddress) : Prop where
  protocol_eq : q.address.protocol = p.address.protocol
  length_eq : q.prefixLength = p.prefixLength + 1
  bits_eq : q.address.bits = half p.prefixLength b p.address.bits

lemma half_false_self (hp : p.Canonical) : half p.prefixLength false p.address.bits = p.address.bits := by
  rw [half, ← hp.host_bits p.prefixLength le_rfl, Function.update_eq_self]

lemma getMsbD_bit {w n i : ℕ} (hn : n < w) :
    (BitVec.twoPow w (w - 1) >>> n).getMsbD i = decide (i = n) := by
  simp only [BitVec.getMsbD_ushiftRight, BitVec.getMsbD_twoPow]
  grind

lemma ipv4_bits_set (a : BitVec 32) {n : ℕ} (hn : n < 32) :
    (QHostAddress.ipv4 (a ||| 0x80000000#32 >>> n)).bits = half n true (QHostAddress.ipv4 a).bits := by
  funext i
  have hb : (0x80000000#32 >>> n).getMsbD i = decide (i = n) := getMsbD_bit hn
  by_cases hi : i = n <;> simp [QHostAddress.bits, half, hb, hi, hn]

lemma byte_setIfInBounds (a : Q_IPV6ADDR) (v : BitVec 8) {i : ℕ} (hi : i < 16) (j : ℕ) :
    Q_IPV6ADDR.byte (a.setIfInBounds i v) j = if j = i then v else a.byte j := by
  unfold Q_IPV6ADDR.byte
  by_cases hj : j = i
  · subst hj
    simp [hi]
  · simp [hj, Ne.symm hj]

lemma ipv6_bits_set (a : Q_IPV6ADDR) {n : ℕ} (hn : n < 128) :
    (QHostAddress.ipv6 (a.setIfInBounds (n / 8) (a.byte (n / 8) ||| 0x80#8 >>> (n % 8)))).bits =
      half n true (QHostAddress.ipv6 a).bits := by
  funext i
  have hb : (0x80#8 >>> (n % 8)).getMsbD (i % 8) = decide (i % 8 = n % 8) := getMsbD_bit (by omega)
  simp only [QHostAddress.bits, byte_setIfInBounds a _ (show n / 8 < 16 by omega)]
  by_cases hi : i = n
  · subst hi
    simp [hb]
  · rw [half_of_ne true hi]
    by_cases hd : i / 8 = n / 8
    · have hm : i % 8 ≠ n % 8 := by omega
      simp [hd, hb, hm]
    · simp [hd]

lemma subnets_halves (hp : p.Canonical) (hl : p.prefixLength < p.address.width) :
    ∃ lo hi, p.subnets = [lo, hi] ∧ IsHalf p false lo ∧ IsHalf p true hi := by
  have hlow := half_false_self hp
  obtain ⟨address, n⟩ := p
  cases address with
  | ipv4 a =>
    have hn : n < 32 := hl
    refine ⟨⟨.ipv4 a, n + 1⟩, ⟨.ipv4 (a ||| 0x80000000#32 >>> n), n + 1⟩, ?_, ?_, ?_⟩
    · simp [subnets, hn]
    · exact ⟨rfl, rfl, hlow.symm⟩
    · exact ⟨rfl, rfl, ipv4_bits_set a hn⟩
  | ipv6 a =>
    have hn : n < 128 := hl
    refine ⟨⟨.ipv6 a, n + 1⟩, ⟨.ipv6 (a.setIfInBounds (n / 8) (a.byte (n / 8) ||| 0x80#8 >>> (n % 8))),
      n + 1⟩, ?_, ?_, ?_⟩
    · simp [subnets, hn]
    · exact ⟨rfl, rfl, hlow.symm⟩
    · exact ⟨rfl, rfl, ipv6_bits_set a hn⟩

lemma IsHalf.canonical {b : Bool} (hq : IsHalf p b q) (hp : p.Canonical)
    (hl : p.prefixLength < p.address.width) : q.Canonical where
  length_le := by rw [hq.length_eq, QHostAddress.width_eq hq.protocol_eq]; omega
  host_bits i hi := by
    rw [hq.length_eq] at hi
    rw [hq.bits_eq, half_of_ne b (by omega), hp.host_bits i (by omega)]

lemma IsHalf.mem_hosts {b : Bool} (hq : IsHalf p b q) (hp : p.Canonical)
    (hl : p.prefixLength < p.address.width) :
    h ∈ q.hosts ↔ h ∈ p.hosts ∧ h.bits p.prefixLength = b := by
  rw [IPAddress.mem_hosts (hq.canonical hp hl).length_le, IPAddress.mem_hosts hp.length_le,
    hq.protocol_eq, hq.length_eq, hq.bits_eq, mem_block, mem_block, agree_half, and_assoc]

lemma IsHalf.eq {b : Bool} (hq : IsHalf p b q) (hi : ip.Canonical)
    (hprot : ip.address.protocol = p.address.protocol) (hl : ip.prefixLength = p.prefixLength + 1)
    (ha : Agree p.prefixLength p.address.bits ip.address.bits)
    (hb : ip.address.bits p.prefixLength = b) (hp : p.Canonical) : q = ip := by
  have hbits : q.address.bits = ip.address.bits := by
    funext i
    rw [hq.bits_eq]
    rcases lt_trichotomy i p.prefixLength with hi' | rfl | hi'
    · rw [half_of_ne b hi'.ne, ha i hi']
    · rw [half_self, hb]
    · rw [half_of_ne b hi'.ne', hp.host_bits i hi'.le, hi.host_bits i (by omega)]
  have haddr : q.address = ip.address :=
    QHostAddress.bits_ext (hq.protocol_eq.trans hprot.symm) fun i _ => congrFun hbits i
  exact IPAddress.ext haddr (hq.length_eq.trans hl.symm)

lemma IsHalf.subnetOf_iff {b : Bool} (hq : IsHalf p b q) (hp : p.Canonical)
    (hprot : ip.address.protocol = p.address.protocol) (hl : p.prefixLength < ip.prefixLength)
    (hw : p.prefixLength < p.address.width)
    (ha : Agree p.prefixLength p.address.bits ip.address.bits) :
    ip.subnetOf q = true ↔ ip.address.bits p.prefixLength = b := by
  rw [IPAddress.subnetOf_iff (hq.canonical hp hw).length_le, hq.protocol_eq, hq.length_eq, hq.bits_eq,
    agree_half]
  exact ⟨fun h => h.2.2.2, fun h => ⟨hprot.symm, hl, ha, h⟩⟩

/-- The prefixes of `r` partition what `p` covers outside `ip`. -/
structure Carves (p ip : IPAddress) (r : List IPAddress) : Prop where
  canonical : ∀ q ∈ r, q.Canonical
  covers : ∀ h, (∃ q ∈ r, h ∈ q.hosts) ↔ h ∈ p.hosts ∧ h ∉ ip.hosts
  disjoint : r.Pairwise (fun q q' => Disjoint q.hosts q'.hosts)

lemma Carves.single {near far : IPAddress} {b : Bool} (hp : p.Canonical)
    (hw : p.prefixLength < p.address.width) (hn : IsHalf p b near) (hf : IsHalf p (!b) far) :
    Carves p near [far] where
  canonical := by simpa using hf.canonical hp hw
  covers h := by
    simp only [List.mem_singleton, exists_eq_left, hf.mem_hosts hp hw, hn.mem_hosts hp hw]
    cases b <;> cases h.bits p.prefixLength <;> simp
  disjoint := by simp

lemma Carves.cons {near far : IPAddress} {b : Bool} {r : List IPAddress} (hp : p.Canonical)
    (hw : p.prefixLength < p.address.width) (hn : IsHalf p b near) (hf : IsHalf p (!b) far)
    (hr : Carves near ip r) (hi : ip.hosts ⊆ near.hosts) : Carves p ip (far :: r) where
  canonical := by
    intro q hq
    rcases List.mem_cons.mp hq with rfl | hq
    · exact hf.canonical hp hw
    · exact hr.canonical q hq
  covers h := by
    have hi' := @hi h
    simp only [hn.mem_hosts hp hw] at hi'
    simp only [List.mem_cons, exists_eq_or_imp, hr.covers, hf.mem_hosts hp hw, hn.mem_hosts hp hw]
    cases b <;> cases hb : h.bits p.prefixLength <;> simp_all
  disjoint := by
    refine List.pairwise_cons.mpr ⟨fun q hq => ?_, hr.disjoint⟩
    rw [Set.disjoint_left]
    intro h hh hq'
    have hn' := ((hr.covers h).mp ⟨q, hq, hq'⟩).1
    rw [hf.mem_hosts hp hw] at hh
    rw [hn.mem_hosts hp hw] at hn'
    simp [hn'.2] at hh

lemma hosts_subset (hp : p.prefixLength ≤ p.address.width) (hi : ip.prefixLength ≤ ip.address.width)
    (h : ip.subnetOf p = true) : ip.hosts ⊆ p.hosts := by
  obtain ⟨hprot, hl, ha⟩ := (subnetOf_iff hp).mp h
  intro a ha'
  rw [mem_hosts hi] at ha'
  exact (mem_hosts hp).mpr ⟨ha'.1.trans hprot.symm, block_subset hl ha ha'.2⟩

/-- From the halves of a block around `ip`, the loop ends within one round for each bit that
`ip` has more than the block. -/
lemma excludeLoop_carves (hi : ip.Canonical) (d : ℕ) :
    ∀ p : IPAddress, p.Canonical → ip.address.protocol = p.address.protocol →
      ip.prefixLength = p.prefixLength + (d + 1) →
      Agree p.prefixLength p.address.bits ip.address.bits →
      ∃ r, Carves p ip r ∧ ∀ fuel result, d + 1 ≤ fuel →
        excludeLoop ip fuel p.subnets result = .ok (result ++ r) := by
  induction d with
  | zero =>
    intro p hp hprot hl ha
    have hw : p.prefixLength < p.address.width := by
      have := hi.length_le
      rw [QHostAddress.width_eq hprot] at this
      omega
    obtain ⟨lo, hi', hs, hlo, hhi⟩ := subnets_halves hp hw
    rw [hs]
    cases hb : ip.address.bits p.prefixLength with
    | false =>
      obtain rfl := hlo.eq hi hprot hl ha hb hp
      refine ⟨[hi'], Carves.single hp hw hlo hhi, fun fuel result hfuel => ?_⟩
      obtain ⟨fuel, rfl⟩ : ∃ k, fuel = k + 1 := ⟨fuel - 1, by omega⟩
      simp [excludeLoop]
    | true =>
      obtain rfl := hhi.eq hi hprot hl ha hb hp
      have hne : lo ≠ hi' := by
        rintro rfl
        have := congrFun (hlo.bits_eq.symm.trans hhi.bits_eq) p.prefixLength
        simp at this
      refine ⟨[lo], Carves.single hp hw hhi hlo, fun fuel result hfuel => ?_⟩
      obtain ⟨fuel, rfl⟩ : ∃ k, fuel = k + 1 := ⟨fuel - 1, by omega⟩
      simp [excludeLoop, hne]
  | succ d ih =>
    intro p hp hprot hl ha
    have hw : p.prefixLength < p.address.width := by
      have := hi.length_le
      rw [QHostAddress.width_eq hprot] at this
      omega
    obtain ⟨lo, hi', hs, hlo, hhi⟩ := subnets_halves hp hw
    have hlo_ne : lo ≠ ip := by rintro rfl; have := hlo.length_eq; omega
    have hhi_ne : hi' ≠ ip := by rintro rfl; have := hhi.length_eq; omega
    -- the half that contains `ip` is halved next, the other one goes into the result
    have hnext : ∀ {b : Bool} {near far : IPAddress}, IsHalf p b near → IsHalf p (!b) far →
        ip.address.bits p.prefixLength = b →
        ∃ r, Carves p ip r ∧ ∀ fuel result, d + 1 ≤ fuel →
          excludeLoop ip fuel near.subnets (result ++ [far]) = .ok (result ++ r) := by
      intro b near far hn hf hb
      have hsub := (hn.subnetOf_iff hp hprot (by omega) hw ha).mpr hb
      have hnc := hn.canonical hp hw
      obtain ⟨-, -, han⟩ := (subnetOf_iff hnc.length_le).mp hsub
      obtain ⟨r, hc, hr⟩ := ih near hnc (hprot.trans hn.protocol_eq.symm) (by rw [hn.length_eq]; omega) han
      refine ⟨far :: r, hc.cons hp hw hn hf (hosts_subset hnc.length_le hi.length_le hsub),
        fun fuel result hfuel => ?_⟩
      rw [hr fuel _ hfuel, List.append_assoc, List.singleton_append]
    cases hb : ip.address.bits p.prefixLength with
    | false =>
      obtain ⟨r, hc, hr⟩ := hnext hlo hhi hb
      refine ⟨r, hc, fun fuel result hfuel => ?_⟩
      obtain ⟨fuel, rfl⟩ : ∃ k, fuel = k + 1 := ⟨fuel - 1, by omega⟩
      rw [hs, excludeLoop, if_pos ⟨hlo_ne, hhi_ne⟩,
        if_pos ((hlo.subnetOf_iff hp hprot (by omega) hw ha).mpr hb)]
      exact hr fuel result (by omega)
    | true =>
      obtain ⟨r, hc, hr⟩ := hnext hhi hlo hb
      refine ⟨r, hc, fun fuel result hfuel => ?_⟩
      obtain ⟨fuel, rfl⟩ : ∃ k, fuel = k + 1 := ⟨fuel - 1, by omega⟩
      have hnot : ¬ ip.subnetOf lo = true := by
        rw [hlo.subnetOf_iff hp hprot (by omega) hw ha, hb]
        simp
      rw [hs, excludeLoop, if_pos ⟨hlo_ne, hhi_ne⟩, if_neg hnot,
        if_pos ((hhi.subnetOf_iff hp hprot (by omega) hw ha).mpr hb)]
      exact hr fuel result (by omega)

lemma width_le (a : QHostAddress) : a.width ≤ 128 := by
  rw [QHostAddress.width]
  split <;> omega

lemma excludeAddresses_carves (hp : p.Canonical) (hi : ip.Canonical) (hs : ip.subnetOf p = true)
    (hne : ip ≠ p) :
    ∃ r, Carves p ip r ∧ ∀ fuel, 128 ≤ fuel → p.excludeAddresses fuel ip = .ok r := by
  obtain ⟨hprot, hl, ha⟩ := (subnetOf_iff hp.length_le).mp hs
  have hw := width_le ip.address
  have hil := hi.length_le
  have hlt : p.prefixLength < ip.prefixLength := by
    refine lt_of_le_of_ne hl fun he => hne (IPAddress.ext (QHostAddress.bits_ext hprot.symm ?_) he.symm)
    intro i _
    by_cases hip : i < p.prefixLength
    · exact (ha i hip).symm
    · rw [hp.host_bits i (by omega), hi.host_bits i (by omega)]
  obtain ⟨r, hc, hr⟩ := excludeLoop_carves hi (ip.prefixLength - p.prefixLength - 1) p hp
    hprot.symm (by omega) ha
  obtain ⟨lo, hi', hsub, -⟩ := subnets_halves hp (by rw [QHostAddress.width_eq hprot]; omega)
  refine ⟨r, hc, fun fuel hfuel => ?_⟩
  simpa [excludeAddresses, hsub] using hr fuel [] (by omega)

lemma overlaps_eq_false_iff (hp : p.Canonical) (hq : q.Canonical) :
    p.overlaps q = false ↔ Disjoint p.hosts q.hosts := by
  constructor
  · intro ho
    rw [Set.disjoint_left]
    intro h hhp hhq
    rw [mem_hosts hp.length_le] at hhp
    rw [mem_hosts hq.length_le] at hhq
    have hprot : p.address.protocol = q.address.protocol := hhp.1.symm.trans hhq.1
    unfold overlaps at ho
    split at ho
    · next hlt =>
      rw [← Bool.not_eq_true, contains_iff hp.length_le] at ho
      exact ho ⟨hprot.symm, Agree.trans hhp.2 (Agree.mono hlt.le hhq.2).symm⟩
    · next hlt =>
      rw [← Bool.not_eq_true, contains_iff hq.length_le] at ho
      exact ho ⟨hprot, Agree.trans hhq.2 (Agree.mono (not_lt.mp hlt) hhp.2).symm⟩
  · intro hd
    rw [Set.disjoint_left] at hd
    have hself : ∀ {r : IPAddress}, r.Canonical → r.address ∈ r.hosts := fun hr =>
      (mem_hosts hr.length_le).mpr ⟨rfl, Agree.refl _ _⟩
    rw [overlaps]
    split
    · exact Bool.not_eq_true _ ▸ fun hc => hd hc (hself hq)
    · exact Bool.not_eq_true _ ▸ fun hc => hd (hself hp) hc

lemma subnetOf_of_overlaps (hp : p.Canonical) (hq : q.Canonical) (ho : p.overlaps q = true) :
    q.subnetOf p = true ∨ p.subnetOf q = true := by
  unfold overlaps at ho
  split at ho
  · next hlt =>
    obtain ⟨hprot, ha⟩ := (contains_iff hp.length_le).mp ho
    exact .inl ((subnetOf_iff hp.length_le).mpr ⟨hprot.symm, hlt.le, ha⟩)
  · next hlt =>
    obtain ⟨hprot, ha⟩ := (contains_iff hq.length_le).mp ho
    exact .inr ((subnetOf_iff hq.length_le).mpr ⟨hprot.symm, not_lt.mp hlt, ha⟩)

/-- The prefixes of `new` partition what those of `old` cover outside `removed`. -/
structure Removes (removed : Set QHostAddress) (old new : List IPAddress) : Prop where
  canonical : ∀ q ∈ new, q.Canonical
  covers : ∀ h, (∃ q ∈ new, h ∈ q.hosts) ↔ (∃ q ∈ old, h ∈ q.hosts) ∧ h ∉ removed
  disjoint : old.Pairwise (fun q q' => Disjoint q.hosts q'.hosts) →
    new.Pairwise (fun q q' => Disjoint q.hosts q'.hosts)

lemma Removes.append {removed : Set QHostAddress} {old₁ old₂ new₁ new₂ : List IPAddress}
    (h₁ : Removes removed old₁ new₁) (h₂ : Removes removed old₂ new₂) :
    Removes removed (old₁ ++ old₂) (new₁ ++ new₂) where
  canonical q hq := (List.mem_append.mp hq).elim (h₁.canonical q) (h₂.canonical q)
  covers h := by
    have e₁ := h₁.covers h
    have e₂ := h₂.covers h
    simp only [List.mem_append, or_and_right, exists_or] at e₁ e₂ ⊢
    rw [e₁, e₂]
  disjoint hd := by
    obtain ⟨hd₁, hd₂, hc⟩ := List.pairwise_append.mp hd
    refine List.pairwise_append.mpr ⟨h₁.disjoint hd₁, h₂.disjoint hd₂, fun q hq q' hq' => ?_⟩
    rw [Set.disjoint_left]
    intro h hh hh'
    obtain ⟨⟨r, hr, hrh⟩, -⟩ := (h₁.covers h).mp ⟨q, hq, hh⟩
    obtain ⟨⟨r', hr', hrh'⟩, -⟩ := (h₂.covers h).mp ⟨q', hq', hh'⟩
    exact Set.disjoint_left.mp (hc r hr r' hr') hrh hrh'

lemma Removes.trans {removed removed' : Set QHostAddress} {l₁ l₂ l₃ : List IPAddress}
    (h₁ : Removes removed l₁ l₂) (h₂ : Removes removed' l₂ l₃) :
    Removes (removed ∪ removed') l₁ l₃ where
  canonical := h₂.canonical
  covers h := by rw [h₂.covers, h₁.covers, Set.mem_union, not_or, and_assoc]
  disjoint hd := h₂.disjoint (h₁.disjoint hd)

lemma excludeFrom_removes (he : exclude.Canonical) (results : List IPAddress)
    (hr : ∀ ip ∈ results, ip.Canonical) :
    ∃ new, Removes exclude.hosts results new ∧
      ∀ fuel, 128 ≤ fuel → excludeFrom fuel exclude results = .ok new := by
  induction results with
  | nil => exact ⟨[], ⟨by simp, by simp, fun _ => .nil⟩, fun _ _ => rfl⟩
  | cons ip results ih =>
    have hip := hr ip (by simp)
    obtain ⟨new, hrem, hnew⟩ := ih fun q hq => hr q (by simp [hq])
    have hsingle : ∀ {range : List IPAddress}, Removes exclude.hosts [ip] range →
        Removes exclude.hosts (ip :: results) (range ++ new) := fun h => h.append hrem
    cases ho : ip.overlaps exclude with
    | false =>
      have hd := Set.disjoint_left.mp ((overlaps_eq_false_iff hip he).mp ho)
      refine ⟨[ip] ++ new, hsingle ⟨by simpa using hip, fun h => by simpa using @hd h, fun _ => by simp⟩,
        fun fuel hfuel => ?_⟩
      simp [excludeFrom, ho, hnew fuel hfuel, pure, Except.pure, bind, Except.bind]
    | true =>
      by_cases hs : exclude.subnetOf ip = true ∧ exclude ≠ ip
      · obtain ⟨range, hc, hrange⟩ := excludeAddresses_carves hip he hs.1 hs.2
        refine ⟨range ++ new, hsingle ⟨hc.canonical, fun h => by simpa using hc.covers h,
          fun _ => hc.disjoint⟩, fun fuel hfuel => ?_⟩
        simp [excludeFrom, ho, hs, hrange fuel hfuel, hnew fuel hfuel, bind, Except.bind, pure, Except.pure]
      · have hsub : ip.hosts ⊆ exclude.hosts := by
          by_cases hse : exclude.subnetOf ip = true
          · rw [not_and_not_right.mp hs hse]
          · exact hosts_subset he.length_le hip.length_le
              ((subnetOf_of_overlaps hip he ho).resolve_left hse)
        refine ⟨[] ++ new, hsingle ⟨by simp, fun h => by simpa using @hsub h, fun _ => .nil⟩,
          fun fuel hfuel => ?_⟩
        simp [excludeFrom, ho, hs, hnew fuel hfuel, pure, Except.pure, bind, Except.bind]

end IPAddress

lemma excludeAddresses_removes (excludeList : List IPAddress) :
    ∀ sourceList : List IPAddress, (∀ p ∈ sourceList, p.Canonical) → (∀ p ∈ excludeList, p.Canonical) →
      ∃ r, IPAddress.Removes {h | ∃ e ∈ excludeList, h ∈ e.hosts} sourceList r ∧
        ∀ fuel, 128 ≤ fuel → excludeAddresses fuel sourceList excludeList = .ok r := by
  induction excludeList with
  | nil =>
    intro sourceList hs _
    exact ⟨sourceList, ⟨hs, by simp, id⟩, fun _ _ => rfl⟩
  | cons e excludeList ih =>
    intro sourceList hs he
    obtain ⟨new, hrem, hnew⟩ := IPAddress.excludeFrom_removes (he e (by simp)) sourceList hs
    obtain ⟨r, hrem', hr⟩ := ih new hrem.canonical fun p hp => he p (by simp [hp])
    refine ⟨r, ?_, fun fuel hfuel => ?_⟩
    · have hu : {h | ∃ e' ∈ e :: excludeList, h ∈ IPAddress.hosts e'} =
          e.hosts ∪ {h | ∃ e' ∈ excludeList, h ∈ IPAddress.hosts e'} := by
        ext h
        simp
      rw [hu]
      exact hrem.trans hrem'
    · simpa [excludeAddresses, hnew fuel hfuel, bind, Except.bind] using hr fuel hfuel

/-- On canonical prefixes `excludeAddresses` ends, its result covers what the sources cover
outside the excluded prefixes, in canonical prefixes, disjoint if the sources are. -/
theorem excludeAddresses_difference (sourceList excludeList : List IPAddress)
    (hs : ∀ p ∈ sourceList, p.Canonical) (he : ∀ p ∈ excludeList, p.Canonical) :
    ∃ r, (∀ fuel, 128 ≤ fuel → excludeAddresses fuel sourceList excludeList = .ok r) ∧
      (∀ h : QHostAddress, (∃ p ∈ r, p.contains h = true) ↔
        (∃ p ∈ sourceList, p.contains h = true) ∧ ¬ ∃ e ∈ excludeList, e.contains h = true) ∧
      (∀ p ∈ r, p.Canonical) ∧
      (sourceList.Pairwise (fun p q => Disjoint p.hosts q.hosts) →
        r.Pairwise (fun p q => Disjoint p.hosts q.hosts)) := by
  obtain ⟨r, hrem, hr⟩ := excludeAddresses_removes excludeList sourceList hs he
  exact ⟨r, hr, hrem.covers, hrem.canonical, hrem.disjoint⟩

theorem excludeAddresses_difference_instance :
    ∃ r, (∀ fuel, 128 ≤ fuel →
        excludeAddresses fuel [⟨.ipv4 0, 0⟩] [⟨.ipv4 0x80000000#32, 1⟩] = .ok r) ∧
      (∀ h : QHostAddress, (∃ p ∈ r, p.contains h = true) ↔
        (∃ p ∈ [(⟨.ipv4 0, 0⟩ : IPAddress)], p.contains h = true) ∧
          ¬ ∃ e ∈ [(⟨.ipv4 0x80000000#32, 1⟩ : IPAddress)], e.contains h = true) ∧
      (∀ p ∈ r, p.Canonical) ∧
      ([(⟨.ipv4 0, 0⟩ : IPAddress)].Pairwise (fun p q => Disjoint p.hosts q.hosts) →
        r.Pairwise (fun p q => Disjoint p.hosts q.hosts)) := by
  refine excludeAddresses_difference _ _ ?_ ?_
  · simp only [List.mem_singleton, forall_eq]
    exact ⟨by decide, fun i _ => by simp [QHostAddress.bits]⟩
  · simp only [List.mem_singleton, forall_eq]
    refine ⟨by decide, fun i hi => ?_⟩
    have hb : (0x80000000#32).getMsbD i = decide (i = 0) := IPAddress.getMsbD_bit (n := 0) (by omega)
    have hi' : i ≠ 0 := by simp only at hi; omega
    simp [QHostAddress.bits, hb, hi']

example : excludeAddresses 128 [⟨.ipv4 0x0a000000#32, 8⟩] [⟨.ipv4 0x0a400000#32, 10⟩] =
    .ok [⟨.ipv4 0x0a800000#32, 9⟩, ⟨.ipv4 0x0a000000#32, 10⟩] := by decide

end VpnClient.Address
