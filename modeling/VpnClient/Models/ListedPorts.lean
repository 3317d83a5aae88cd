import VpnClient.Models.ServerCountryModel

/-! The ports that are chosen are those listed, if the numbers of each range are ports and their count is not wrapped
to zero. -/

namespace VpnClient.Models.ListedPorts

open Client.Server (portLoop choosePort)

abbrev PortRange := UInt32 × UInt32

variable (r p : UInt32) (range : PortRange) (ranges : List PortRange)

/-- The count that `choosePort` computes. -/
def portCount : UInt32 := ranges.foldl (fun length range => length + (range.2 - range.1 + 1)) 0

/-- The numbers from the first to the second one, past the largest one if need be. -/
def span : List UInt32 := (List.range ((range.2 - range.1).toNat + 1)).map fun i => range.1 + .ofNat i

def numbers : List UInt32 := ranges.flatMap span

def IsPort : Prop := 1 ≤ p ∧ p ≤ 65535

def Listed : Prop := ∃ range ∈ ranges, range.1 ≤ p ∧ p ≤ range.2

def Disjoint : Prop := ranges.Pairwise fun a b => ∀ p, ¬(a.1 ≤ p ∧ p ≤ a.2 ∧ b.1 ≤ p ∧ p ≤ b.2)

/-- The ports that are chosen are those listed, without a division by zero. -/
structure ChoosesPorts (s : Client.Server) : Prop where
  divides : portCount s.portRanges ≠ 0
  chosen (generate : UInt32) : IsPort (choosePort generate s) ∧ Listed (choosePort generate s) s.portRanges
  covers : Disjoint s.portRanges → ∀ p, Listed p s.portRanges → ∃ generate, choosePort generate s = p

def Valid : Prop := 1 ≤ range.1 ∧ range.1 ≤ range.2 ∧ range.2 ≤ 65535

instance : Decidable (Valid range) := inferInstanceAs (Decidable (_ ∧ _ ∧ _))

instance : Decidable (∀ range ∈ ranges, Valid range) := List.decidableBAll _ ranges

/-- The numbers that a count wrapped at `2 ^ 32` leaves to choose from. -/
def reached : List UInt32 := (numbers ranges).take ((numbers ranges).length % 2 ^ 32)

/-- The numbers left by a wrapped count are ports of the ranges. -/
structure Spared : Prop where
  wrapped : 2 ^ 32 ≤ (numbers ranges).length
  ne_zero : (numbers ranges).length % 2 ^ 32 ≠ 0
  ports : ∀ p ∈ reached ranges, IsPort p ∧ Listed p ranges
  covers : Disjoint ranges → ∀ p, Listed p ranges → p ∈ reached ranges

def Fits : Prop :=
  if ∀ range ∈ ranges, Valid range then (numbers ranges).length % 2 ^ 32 ≠ 0 else Spared ranges

lemma length_span : (span range).length = (range.2 - range.1).toNat + 1 := by simp [span]

lemma numbers_cons : numbers (range :: ranges) = span range ++ numbers ranges := List.flatMap_cons

lemma length_numbers_cons :
    (numbers (range :: ranges)).length = (range.2 - range.1).toNat + 1 + (numbers ranges).length := by
  rw [numbers_cons, List.length_append, length_span]

lemma toNat_foldl (length : UInt32) :
    (ranges.foldl (fun length range => length + (range.2 - range.1 + 1)) length).toNat =
      (length.toNat + (numbers ranges).length) % 2 ^ 32 := by
  induction ranges generalizing length with
  | nil => simp [numbers, Nat.mod_eq_of_lt length.toNat_lt]
  | cons range ranges ih =>
    rw [List.foldl_cons, ih, UInt32.toNat_add, UInt32.toNat_add, Nat.add_mod_mod, Nat.mod_add_mod, Nat.add_assoc,
      length_numbers_cons]
    rfl

lemma toNat_portCount : (portCount ranges).toNat = (numbers ranges).length % 2 ^ 32 := by
  rw [portCount, toNat_foldl, UInt32.toNat_zero, Nat.zero_add]

lemma portCount_ne_zero_iff : portCount ranges ≠ 0 ↔ (numbers ranges).length % 2 ^ 32 ≠ 0 := by
  rw [← toNat_portCount, ne_eq, ne_eq, ← UInt32.toNat_inj]
  rfl

lemma numbers_portLoop (h : r.toNat < (numbers ranges).length) :
    (numbers ranges)[r.toNat]? = some (portLoop r ranges) := by
  induction ranges generalizing r with
  | nil => exact absurd h (Nat.not_lt_zero _)
  | cons range ranges ih =>
    rw [numbers_cons, List.getElem?_append, portLoop, length_span]
    rw [length_numbers_cons] at h
    have hr := r.toNat_lt
    split
    case isTrue hle =>
      rw [if_pos (UInt32.le_iff_toNat_le.mpr (by omega)), span, List.getElem?_map, List.getElem?_range hle,
        Option.map_some, UInt32.ofNat_toNat, UInt32.add_comm]
    case isFalse hlt =>
      have hs : (range.2 - range.1 + 1).toNat = (range.2 - range.1).toNat + 1 := by
        rw [UInt32.toNat_add, UInt32.toNat_one, Nat.mod_eq_of_lt (by omega)]
      have hd := UInt32.toNat_sub_of_le r (range.2 - range.1 + 1) (UInt32.le_iff_toNat_le.mpr (by omega))
      rw [hs] at hd
      rw [if_neg (fun hle => hlt (Nat.lt_succ_of_le (UInt32.le_iff_toNat_le.mp hle))), ← hd]
      exact ih _ (by omega)

lemma mem_reached_iff : p ∈ reached ranges ↔
    ∃ r : UInt32, r.toNat < (numbers ranges).length % 2 ^ 32 ∧ portLoop r ranges = p := by
  have hle := Nat.mod_le (numbers ranges).length (2 ^ 32)
  rw [reached, List.mem_iff_getElem?]
  constructor
  case mp =>
    rintro ⟨i, hi⟩
    have hlt : i < (numbers ranges).length % 2 ^ 32 := by
      by_contra hlt
      rw [List.getElem?_take, if_neg hlt] at hi
      exact Option.some_ne_none p hi.symm
    have hn : (UInt32.ofNat i).toNat = i := UInt32.toNat_ofNat_of_lt' (by simp only [UInt32.size]; omega)
    have := numbers_portLoop (.ofNat i) ranges (by omega)
    rw [hn] at this
    rw [List.getElem?_take_of_lt hlt, this] at hi
    exact ⟨.ofNat i, by omega, Option.some_inj.mp hi⟩
  case mpr =>
    rintro ⟨r, hr, rfl⟩
    exact ⟨r.toNat, by rw [List.getElem?_take_of_lt hr, numbers_portLoop r ranges (by omega)]⟩

lemma mem_reached_iff_choosePort (s : Client.Server) (h : portCount s.portRanges ≠ 0) :
    p ∈ reached s.portRanges ↔ ∃ generate, choosePort generate s = p := by
  have hs : s.portRanges ≠ [] := by
    rintro hs
    rw [hs] at h
    exact h rfl
  have hg (generate : UInt32) : choosePort generate s = portLoop (generate % portCount s.portRanges) s.portRanges := by
    rw [choosePort, if_neg hs]
    rfl
  have hc := toNat_portCount s.portRanges
  have hz := (portCount_ne_zero_iff _).mp h
  simp only [hg]
  rw [mem_reached_iff]
  constructor
  case mp =>
    rintro ⟨r, hr, rfl⟩
    exact ⟨r, by rw [UInt32.mod_eq_of_lt (UInt32.lt_iff_toNat_lt.mpr (by omega))]⟩
  case mpr =>
    rintro ⟨generate, rfl⟩
    refine ⟨generate % portCount s.portRanges, ?_, rfl⟩
    rw [UInt32.toNat_mod, hc]
    exact Nat.mod_lt _ (Nat.pos_of_ne_zero hz)

lemma choosesPorts_iff_reached (s : Client.Server) :
    ChoosesPorts s ↔ (numbers s.portRanges).length % 2 ^ 32 ≠ 0 ∧
      (∀ p ∈ reached s.portRanges, IsPort p ∧ Listed p s.portRanges) ∧
      (Disjoint s.portRanges → ∀ p, Listed p s.portRanges → p ∈ reached s.portRanges) := by
  rw [← portCount_ne_zero_iff]
  constructor
  case mp =>
    intro h
    simp only [mem_reached_iff_choosePort _ s h.divides]
    refine ⟨h.divides, ?_, h.covers⟩
    rintro p ⟨generate, rfl⟩
    exact h.chosen generate
  case mpr =>
    rintro ⟨hd, hp, hc⟩
    simp only [mem_reached_iff_choosePort _ s hd] at hp hc
    exact ⟨hd, fun generate => hp _ ⟨generate, rfl⟩, hc⟩

variable {range ranges p}

lemma mem_span_of_le (h : range.1 ≤ p) (hp : p ≤ range.2 ∨ range.2 < range.1) : p ∈ span range := by
  rw [UInt32.lt_iff_toNat_lt, UInt32.le_iff_toNat_le] at hp
  rw [UInt32.le_iff_toNat_le] at h
  have hlt := p.toNat_lt
  have h₁ := range.1.toNat_lt
  have h₂ := range.2.toNat_lt
  refine List.mem_map.mpr ⟨(p - range.1).toNat, List.mem_range.mpr ?_, ?_⟩
  · rw [UInt32.toNat_sub, UInt32.toNat_sub]
    omega
  · rw [UInt32.ofNat_toNat, UInt32.add_comm, UInt32.sub_add_cancel]

lemma le_of_mem_span (h : range.1 ≤ range.2) (hp : p ∈ span range) : range.1 ≤ p ∧ p ≤ range.2 := by
  obtain ⟨i, hi, rfl⟩ := List.mem_map.mp hp
  have hs := UInt32.toNat_sub_of_le _ _ h
  have h₂ := range.2.toNat_lt
  rw [UInt32.le_iff_toNat_le] at h
  rw [List.mem_range] at hi
  have hn : (UInt32.ofNat i).toNat = i := UInt32.toNat_ofNat_of_lt' (by simp only [UInt32.size]; omega)
  rw [UInt32.le_iff_toNat_le, UInt32.le_iff_toNat_le, UInt32.toNat_add, hn, Nat.mod_eq_of_lt (by omega)]
  omega

lemma nodup_span : (span range).Nodup := by
  refine List.Nodup.map_on ?_ List.nodup_range
  intro i hi j hj h
  have hlt := (range.2 - range.1).toNat_lt
  rw [List.mem_range] at hi hj
  rw [UInt32.add_right_inj, ← UInt32.toNat_inj, UInt32.toNat_ofNat_of_lt' (by simp only [UInt32.size]; omega),
    UInt32.toNat_ofNat_of_lt' (by simp only [UInt32.size]; omega)] at h
  exact h

lemma mem_numbers_of_listed (h : Listed p ranges) : p ∈ numbers ranges := by
  obtain ⟨range, hr, h₁, h₂⟩ := h
  exact List.mem_flatMap.mpr ⟨range, hr, mem_span_of_le h₁ (.inl h₂)⟩

section Valid

variable (hv : ∀ range ∈ ranges, Valid range)
include hv

lemma port_of_mem_numbers (hp : p ∈ numbers ranges) : IsPort p ∧ Listed p ranges := by
  obtain ⟨range, hr, hp⟩ := List.mem_flatMap.mp hp
  obtain ⟨h₁, h, h₂⟩ := hv range hr
  obtain ⟨hl, hg⟩ := le_of_mem_span h hp
  exact ⟨⟨UInt32.le_trans h₁ hl, UInt32.le_trans hg h₂⟩, range, hr, hl, hg⟩

lemma nodup_numbers (hd : Disjoint ranges) : (numbers ranges).Nodup := by
  refine List.nodup_flatMap.mpr ⟨fun range _ => nodup_span, hd.imp_of_mem ?_⟩
  intro a b ha hb hab p hpa hpb
  obtain ⟨ha₁, ha₂⟩ := le_of_mem_span (hv a ha).2.1 hpa
  obtain ⟨hb₁, hb₂⟩ := le_of_mem_span (hv b hb).2.1 hpb
  exact hab p ⟨ha₁, ha₂, hb₁, hb₂⟩

lemma length_numbers_le (hd : Disjoint ranges) : (numbers ranges).length ≤ 65535 := by
  have hn := (nodup_numbers hv hd).map fun _ _ => UInt32.toNat_inj.mp
  have hs : ((numbers ranges).map UInt32.toNat).toFinset ⊆ Finset.Icc 1 65535 := by
    intro n hn
    obtain ⟨p, hp, rfl⟩ := List.mem_map.mp (List.mem_toFinset.mp hn)
    obtain ⟨h₁, h₂⟩ := (port_of_mem_numbers hv hp).1
    exact Finset.mem_Icc.mpr ⟨UInt32.le_iff_toNat_le.mp h₁, UInt32.le_iff_toNat_le.mp h₂⟩
  simpa [List.toFinset_card_of_nodup hn] using Finset.card_le_card hs

lemma choosesPorts_of_valid (s : Client.Server) (hs : s.portRanges = ranges) :
    ChoosesPorts s ↔ (numbers ranges).length % 2 ^ 32 ≠ 0 := by
  subst hs
  rw [choosesPorts_iff_reached, and_iff_left]
  constructor
  · intro p hp
    exact port_of_mem_numbers hv (List.mem_of_mem_take hp)
  · intro hd p hp
    have hl := length_numbers_le hv hd
    rw [reached, Nat.mod_eq_of_lt (by omega), List.take_length]
    exact mem_numbers_of_listed hp

end Valid

lemma valid_of_ports (h : ∀ p ∈ numbers ranges, IsPort p) : ∀ range ∈ ranges, Valid range := by
  intro range hr
  have hs : ∀ p ∈ span range, IsPort p := fun p hp => h p (List.mem_flatMap.mpr ⟨range, hr, hp⟩)
  have hle : range.1 ≤ range.2 := by
    by_contra hgt
    have := hs (.ofNat (2 ^ 32 - 1)) (mem_span_of_le (UInt32.le_iff_toNat_le.mpr ?_) (.inr (UInt32.not_le.mp hgt)))
    · exact absurd this.2 (by decide)
    · exact Nat.le_of_lt_succ range.1.toNat_lt
  exact ⟨(hs range.1 (mem_span_of_le UInt32.le_rfl (.inl hle))).1, hle,
    (hs range.2 (mem_span_of_le hle (.inl UInt32.le_rfl))).2⟩

lemma choosesPorts_of_not_valid (s : Client.Server) (hv : ¬∀ range ∈ s.portRanges, Valid range) :
    ChoosesPorts s ↔ Spared s.portRanges := by
  rw [choosesPorts_iff_reached]
  constructor
  case mp =>
    rintro ⟨hz, hp, hc⟩
    refine ⟨?_, hz, hp, hc⟩
    by_contra hlt
    rw [reached, Nat.mod_eq_of_lt (Nat.lt_of_not_le hlt), List.take_length] at hp
    exact hv (valid_of_ports fun p h => (hp p h).1)
  case mpr =>
    intro h
    exact ⟨h.ne_zero, h.ports, h.covers⟩

theorem choosesPorts_iff_fits (s : Client.Server) : ChoosesPorts s ↔ Fits s.portRanges := by
  rw [Fits]
  split
  case isTrue hv => exact choosesPorts_of_valid hv s rfl
  case isFalse hv => exact choosesPorts_of_not_valid s hv

/-- A server with one range of ports, as a document can list it. -/
def oneRange (first second : ℚ) : Ipc.JsonObject :=
  [("hostname", .string "host"), ("ipv4_addr_in", .string "a"), ("ipv4_gateway", .string "b"),
    ("public_key", .string "key"), ("weight", .double 1),
    ("port_ranges", .array [.array [.double first, .double second]])]

theorem not_choosesPorts :
    (∃ server ∈ Server.fromJson "cc" "City" (oneRange 5 4), ¬ChoosesPorts server.toServer) ∧
      ∃ server ∈ Server.fromJson "cc" "City" (oneRange 0 0), ¬ChoosesPorts server.toServer := by
  constructor
  · refine ⟨_, rfl, fun h => h.divides ?_⟩
    decide +kernel
  · refine ⟨_, rfl, fun h => absurd (h.chosen 0).1.1 ?_⟩
    decide +kernel

end VpnClient.Models.ListedPorts
