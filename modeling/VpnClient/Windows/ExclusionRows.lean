import VpnClient.Windows.CapturedRoutes

/-! The row of the system by which the monitor excludes a destination: it follows the best of the other rows to it. -/

namespace VpnClient.Windows

open Address Library.BinaryBlocks

namespace WindowsRouteMonitor

open RouteMonitor

/-- A row over which the destination is reached without the tunnel, and that does not bear the mark of the monitor. -/
structure Candidate (m : WindowsRouteMonitor) (data row : MIB_IPFORWARD_ROW2) : Prop where
  contains : Within data.destinationPrefix row.destinationPrefix
  outside : row.interfaceLuid ≠ m.luid
  unmarked : ¬(row.protocol = data.protocol ∧ row.metric = data.metric)
  connected : (m.interfaceMetrics data.destinationPrefix.address row.interfaceLuid).isSome

def cost (m : WindowsRouteMonitor) (data row : MIB_IPFORWARD_ROW2) : ℕ :=
  min (row.metric.toNat + ((m.interfaceMetrics data.destinationPrefix.address row.interfaceLuid).getD 0).toNat)
    ULONG_MAX.toNat

/-- A candidate of maximal prefix length and, among those, of minimal metric. -/
structure IsBest (m : WindowsRouteMonitor) (data : MIB_IPFORWARD_ROW2) (table : List MIB_IPFORWARD_ROW2)
    (row : MIB_IPFORWARD_ROW2) : Prop where
  mem : row ∈ table
  candidate : m.Candidate data row
  best : ∀ other ∈ table, m.Candidate data other →
    other.destinationPrefix.prefixLength < row.destinationPrefix.prefixLength ∨
      other.destinationPrefix.prefixLength = row.destinationPrefix.prefixLength ∧ m.cost data row ≤ m.cost data other

/-- The rows that the monitor holds in the system to exclude a destination. -/
def rowsTo (m : WindowsRouteMonitor) (dest : IPAddress) : List MIB_IPFORWARD_ROW2 :=
  m.created.filter fun row => row.interfaceLuid ≠ m.luid ∧ row.destinationPrefix = dest

/-- The data are those of the row that the monitor last created for the destination, if it has one. -/
def Holds (m : WindowsRouteMonitor) (data : MIB_IPFORWARD_ROW2) : Prop :=
  m.rowsTo data.destinationPrefix = if data.interfaceLuid = 0 then [] else [data]

/-- The destination has one row, which goes the way of the best one, unless there is none, or the best is that of the
destination itself, or is on the interface that stands for none. -/
def Excluded (m m' : WindowsRouteMonitor) (data : MIB_IPFORWARD_ROW2) (table : List MIB_IPFORWARD_ROW2) : Prop :=
  (∀ row ∈ table, ¬m.Candidate data row) ∧ m'.rowsTo data.destinationPrefix = [] ∨
    ∃ row, m.IsBest data table row ∧
      if row.destinationPrefix.prefixLength = data.destinationPrefix.prefixLength ∨ row.interfaceLuid = 0 then
        m'.rowsTo data.destinationPrefix = []
      else ∃ exclusion, m'.rowsTo data.destinationPrefix = [exclusion] ∧
        exclusion.interfaceLuid = row.interfaceLuid ∧ exclusion.nextHop = row.nextHop

variable {m : WindowsRouteMonitor} {data row other : MIB_IPFORWARD_ROW2} {table : List MIB_IPFORWARD_ROW2}
  {best : BestMatch}

lemma toNat_routeMetric (a b : UInt32) : (routeMetric a b).toNat = min (a.toNat + b.toNat) ULONG_MAX.toNat := by
  have ha := a.toNat_lt
  have hb := b.toNat_lt
  have hm : ULONG_MAX.toNat = 2 ^ 32 - 1 := rfl
  rw [routeMetric]
  split
  · next h =>
    rw [UInt32.lt_iff_toNat_lt, UInt32.toNat_add] at h
    omega
  · next h =>
    rw [UInt32.lt_iff_toNat_lt, UInt32.toNat_add] at h
    rw [UInt32.toNat_add]
    omega

/-- The best match when the row is the best so far. -/
def chosen (m : WindowsRouteMonitor) (data row : MIB_IPFORWARD_ROW2) : BestMatch where
  nexthop := row.nextHop
  bestMatch := row.destinationPrefix.prefixLength
  bestMetric :=
    routeMetric row.metric ((m.interfaceMetrics data.destinationPrefix.address row.interfaceLuid).getD 0)
  bestLuid :=
    if row.destinationPrefix.prefixLength = data.destinationPrefix.prefixLength then 0 else row.interfaceLuid

lemma toNat_bestMetric : (m.chosen data row).bestMetric.toNat = m.cost data row := toNat_routeMetric ..

lemma matchRow_of_not_candidate (h : ¬m.Candidate data row) : m.matchRow data best row = best := by
  have hn : ¬row.interfaceLuid = m.luid → ¬(row.protocol = data.protocol ∧ row.metric = data.metric) →
      ¬(!routeContainsDest row.destinationPrefix data.destinationPrefix) = true →
      m.interfaceMetrics data.destinationPrefix.address row.interfaceLuid = none := by
    intro h₁ h₂ h₃
    by_contra hc
    apply h
    exact ⟨routeContainsDest_iff.mp (by simpa using h₃), h₁, h₂, Option.isSome_iff_ne_none.mpr hc⟩
  rw [matchRow]
  split_ifs with h₁ h₂ h₃ h₄
  · rfl
  · rfl
  · rfl
  · rfl
  · rw [hn h₁ h₃ h₄]
  · rw [hn h₁ h₃ h₄]

lemma matchRow_of_candidate (h : m.Candidate data row) : m.matchRow data best row =
    if row.destinationPrefix.prefixLength < best.bestMatch ∨ row.destinationPrefix.prefixLength = best.bestMatch ∧
      best.bestMetric ≤ (m.chosen data row).bestMetric then best else m.chosen data row := by
  obtain ⟨metric, hm⟩ := Option.isSome_iff_exists.mp h.connected
  have hc := routeContainsDest_iff.mpr h.contains
  rw [matchRow, if_neg h.outside]
  by_cases hl : row.destinationPrefix.prefixLength < best.bestMatch
  · rw [if_pos hl, if_pos (.inl hl)]
  · rw [if_neg hl, if_neg h.unmarked, hc, hm]
    simp only [chosen, hm, hl, false_or, Option.getD_some, Bool.not_true, Bool.false_eq_true, if_false, ge_iff_le]

/-- What the loop has found in the rows it has seen. -/
def Found (m : WindowsRouteMonitor) (data : MIB_IPFORWARD_ROW2) (seen : List MIB_IPFORWARD_ROW2) (best : BestMatch) :
    Prop :=
  (∀ row ∈ seen, ¬m.Candidate data row) ∧ best = { nexthop := unspecified data.destinationPrefix.address } ∨
    ∃ row, m.IsBest data seen row ∧ best = m.chosen data row

lemma IsBest.concat (h : m.IsBest data table row) (hr : m.Candidate data other →
    other.destinationPrefix.prefixLength < row.destinationPrefix.prefixLength ∨
      other.destinationPrefix.prefixLength = row.destinationPrefix.prefixLength ∧
        m.cost data row ≤ m.cost data other) : m.IsBest data (table ++ [other]) row := by
  refine ⟨List.mem_append_left _ h.mem, h.candidate, ?_⟩
  intro r hm
  rcases List.mem_append.mp hm with hm | hm
  · exact h.best r hm
  · rw [List.mem_singleton.mp hm]
    exact hr

lemma isBest_concat_self (hr : m.Candidate data row) (ht : ∀ other ∈ table, m.Candidate data other →
    other.destinationPrefix.prefixLength < row.destinationPrefix.prefixLength ∨
      other.destinationPrefix.prefixLength = row.destinationPrefix.prefixLength ∧
        m.cost data row ≤ m.cost data other) : m.IsBest data (table ++ [row]) row := by
  refine ⟨List.mem_append_right _ (List.mem_singleton_self row), hr, ?_⟩
  intro r hm
  rcases List.mem_append.mp hm with hm | hm
  · exact ht r hm
  · rw [List.mem_singleton.mp hm]
    exact fun _ => .inr ⟨rfl, le_rfl⟩

lemma Found.matchRow (h : m.Found data table best) (row : MIB_IPFORWARD_ROW2) :
    m.Found data (table ++ [row]) (m.matchRow data best row) := by
  by_cases hc : m.Candidate data row
  · right
    rw [matchRow_of_candidate hc]
    obtain ⟨hn, rfl⟩ | ⟨old, ho, rfl⟩ := h
    · refine ⟨row, isBest_concat_self hc fun other hm ho => absurd ho (hn other hm), ?_⟩
      rw [if_neg]
      dsimp only
      omega
    · split
      · next hle =>
        refine ⟨old, ho.concat fun _ => ?_, rfl⟩
        rw [UInt32.le_iff_toNat_le, toNat_bestMetric, toNat_bestMetric] at hle
        simpa [chosen] using hle
      · next hle =>
        refine ⟨row, isBest_concat_self hc fun other hm hother => ?_, rfl⟩
        rw [UInt32.le_iff_toNat_le, toNat_bestMetric, toNat_bestMetric] at hle
        have hb := ho.best other hm hother
        simp only [chosen, Nat.cast_lt, Nat.cast_inj] at hle
        omega
  · rw [matchRow_of_not_candidate hc]
    obtain ⟨hn, rfl⟩ | ⟨old, ho, rfl⟩ := h
    · refine .inl ⟨?_, rfl⟩
      intro r hm
      rcases List.mem_append.mp hm with hm | hm
      · exact hn r hm
      · rwa [List.mem_singleton.mp hm]
    · exact .inr ⟨old, ho.concat fun h => absurd h hc, rfl⟩

lemma found_foldl (table : List MIB_IPFORWARD_ROW2) : m.Found data table
    (table.foldl (m.matchRow data) { nexthop := unspecified data.destinationPrefix.address }) := by
  induction table using List.reverseRecOn with
  | nil => exact .inl ⟨List.forall_mem_nil _, rfl⟩
  | append_singleton table row ih =>
    rw [List.foldl_append]
    exact ih.matchRow row

lemma Found.bestLuid_ne (h : m.Found data table best) : best.bestLuid ≠ m.luid := by
  obtain ⟨-, rfl⟩ | ⟨row, hr, rfl⟩ := h
  · exact m.luid_ne.symm
  · dsimp only [chosen]
    split
    · exact m.luid_ne.symm
    · exact hr.candidate.outside

/-- The row of the destination that leads by the best match. -/
def exclusion (data : MIB_IPFORWARD_ROW2) (best : BestMatch) : MIB_IPFORWARD_ROW2 :=
  { data with interfaceLuid := best.bestLuid, nextHop := best.nexthop }

lemma rowsTo_deleteIpForwardEntry2 (h : m.Holds data) :
    (if data.interfaceLuid ≠ 0 then m.deleteIpForwardEntry2 data else m).rowsTo data.destinationPrefix = [] := by
  rw [Holds] at h
  by_cases hz : data.interfaceLuid = 0
  · rw [if_neg (not_not.mpr hz)]
    rwa [if_pos hz] at h
  · rw [if_neg hz] at h
    rw [if_pos hz, rowsTo, deleteIpForwardEntry2, List.filter_comm]
    rw [rowsTo] at h
    rw [h]
    simp

lemma rowsTo_createIpForwardEntry2 (hl : row.interfaceLuid ≠ m.luid) :
    (m.createIpForwardEntry2 row).rowsTo row.destinationPrefix = m.rowsTo row.destinationPrefix ++ [row] := by
  rw [rowsTo, createIpForwardEntry2, List.filter_append]
  simp [hl, rowsTo]

lemma updateExclusionRoute_eq (h : m.Holds data) (table : List MIB_IPFORWARD_ROW2) :
    ∃ best, m.Found data table best ∧ (m.updateExclusionRoute data table).1 = exclusion data best ∧
      (m.updateExclusionRoute data table).2.rowsTo data.destinationPrefix =
        if best.bestLuid = 0 then [] else [exclusion data best] := by
  have hf : m.Found data table (table.foldl (m.matchRow data) _) := found_foldl table
  refine ⟨_, hf, ?_⟩
  rw [updateExclusionRoute]
  generalize table.foldl (m.matchRow data) { nexthop := unspecified data.destinationPrefix.address } = best at hf
  dsimp only
  split
  · next hs =>
    have he : exclusion data best = data := by rw [exclusion, ← hs.1, hs.2]
    rw [he, ← hs.1]
    exact ⟨rfl, h⟩
  · have hd := rowsTo_deleteIpForwardEntry2 h
    refine ⟨rfl, ?_⟩
    by_cases hz : best.bestLuid = 0
    · rw [if_pos hz, if_neg (not_not.mpr hz)]
      exact hd
    · rw [if_neg hz, if_pos hz]
      have hm : (if data.interfaceLuid ≠ 0 then m.deleteIpForwardEntry2 data else m).luid = m.luid := by
        split_ifs <;> rfl
      have hl : (exclusion data best).interfaceLuid ≠ m.luid := hf.bestLuid_ne
      have hc := rowsTo_createIpForwardEntry2 (hm.symm ▸ hl)
      exact hc.trans (by rw [show (exclusion data best).destinationPrefix = data.destinationPrefix from rfl, hd]; rfl)

theorem excluded_by_best (m : WindowsRouteMonitor) (data : MIB_IPFORWARD_ROW2) (table : List MIB_IPFORWARD_ROW2)
    (h : m.Holds data) : m.Excluded (m.updateExclusionRoute data table).2 data table ∧
      (m.updateExclusionRoute data table).2.Holds (m.updateExclusionRoute data table).1 ∧
      ∀ route dest, routeContainsDest route dest = true ↔ Within dest route := by
  obtain ⟨best, hf, hd, hr⟩ := updateExclusionRoute_eq h table
  refine ⟨?_, ?_, fun route dest => routeContainsDest_iff⟩
  · obtain ⟨hn, rfl⟩ | ⟨row, hb, rfl⟩ := hf
    · exact .inl ⟨hn, hr⟩
    · refine .inr ⟨row, hb, ?_⟩
      rw [hr]
      by_cases hp : row.destinationPrefix.prefixLength = data.destinationPrefix.prefixLength
      · simp [chosen, hp]
      · by_cases hl : row.interfaceLuid = 0
        · simp [chosen, hl]
        · simp [chosen, hp, hl, exclusion]
  · rw [hd]
    exact hr

/-- The tunnel has the interface 1, and the other connected ones are 0 and 2. -/
def office : WindowsRouteMonitor where
  luid := 1
  luid_ne := by decide
  interfaceMetricsIpv4 luid := if luid = 0 ∨ luid = 2 then some 25 else none

def host : MIB_IPFORWARD_ROW2 := exclusionRow ⟨.ipv4 0x0a010203, 32⟩

def gateway (interfaceLuid : Luid) (protocol metric : UInt32) : MIB_IPFORWARD_ROW2 where
  interfaceLuid
  destinationPrefix := privateNetwork
  nextHop := .ipv4 0x0a0000fe
  metric
  protocol

/-- The row to the host as the monitor has set it over another gateway, and the monitor that holds it. -/
def former : MIB_IPFORWARD_ROW2 := { host with interfaceLuid := 2, nextHop := .ipv4 0x0a0000fd }

def officeBefore : WindowsRouteMonitor := office.createIpForwardEntry2 former

/-- Two ways to the host over a longer prefix, of which the second is the better one, one over a shorter prefix, one
through the tunnel, and the row of the monitor itself. -/
def officeTable : List MIB_IPFORWARD_ROW2 :=
  [{ gateway 2 3 20 with destinationPrefix := ⟨.ipv4 0x0a010000, 16⟩ },
    { gateway 2 3 10 with destinationPrefix := ⟨.ipv4 0x0a010000, 16⟩, nextHop := .ipv4 0x0a0100fe },
    gateway 2 3 0, { gateway 1 3 0 with destinationPrefix := ⟨.ipv4 0x0a010200, 24⟩ }, former]

theorem excluded_by_gateway :
    officeBefore.Excluded (officeBefore.updateExclusionRoute former officeTable).2 former officeTable ∧
      (officeBefore.updateExclusionRoute former officeTable).2.Holds
        (officeBefore.updateExclusionRoute former officeTable).1 ∧
      ∀ route dest, routeContainsDest route dest = true ↔ Within dest route :=
  excluded_by_best officeBefore former officeTable rfl

/-- A row of somebody else that bears the mark of the monitor, and one on the interface that stands for none, lead to
the destination but are not followed; and a longer prefix does not contain a destination with which it agrees. -/
theorem not_excluded_by_marked : office.Holds host ∧
    (∀ row ∈ [gateway 2 MIB_IPPROTO_NETMGMT EXCLUSION_ROUTE_METRIC, gateway 0 3 0],
      row ∉ office.created ∧ row.interfaceLuid ≠ office.luid ∧
        (office.interfaceMetrics host.destinationPrefix.address row.interfaceLuid).isSome = true ∧
        routeContainsDest row.destinationPrefix host.destinationPrefix = true ∧
        row.destinationPrefix.prefixLength ≠ host.destinationPrefix.prefixLength ∧
        (office.updateExclusionRoute host [row]).2.rowsTo host.destinationPrefix = []) ∧
    Agree 9 (QHostAddress.ipv4 0x0a000000).bits privateNetwork.address.bits ∧
      routeContainsDest ⟨.ipv4 0x0a000000, 9⟩ privateNetwork = false :=
  ⟨rfl, by decide +kernel, Agree.refl _ _, by decide +kernel⟩

end WindowsRouteMonitor

end VpnClient.Windows
