import VpnClient.Library.MarkSweep
import VpnClient.Library.Runs
import VpnClient.Windows.WindowsRouteMonitor

/-! The routes of the system that the monitor captures: which are cloned, and when the clones follow the table. -/

namespace VpnClient.Windows

open Address Library.BinaryBlocks Library.MarkSweep Library.Runs

namespace RouteMonitor

/-- Every address of the destination has the prefix. -/
def Within (dest route : IPAddress) : Prop :=
  route.address.protocol = dest.address.protocol ∧ route.prefixLength ≤ dest.prefixLength ∧
    Agree route.prefixLength route.address.bits dest.address.bits

variable {x y : UInt8} {a b : List UInt8} {n : ℕ}

lemma shift_eq_iff (h : n < 8) : (n = 0 ∨ x >>> UInt8.ofNat (8 - n) = y >>> UInt8.ofNat (8 - n)) ↔
    ∀ i < 8, i < n → x.toBitVec.getMsbD i = y.toBitVec.getMsbD i := by
  have ha : Agree n (x.toBitVec.getMsbD ·) (y.toBitVec.getMsbD ·) ↔
      ∀ i < 8, i < n → x.toBitVec.getMsbD i = y.toBitVec.getMsbD i :=
    ⟨fun ha i _ hi => ha i hi, fun ha i hi => ha i (hi.trans h) hi⟩
  by_cases hn : n = 0
  · simp [hn]
  have hs : ((UInt8.ofNat (8 - n)).toBitVec % 8).toNat = 8 - n := by
    simp
    omega
  rw [← ha, ← xor_shift_eq_zero _ _ h.le, or_iff_right hn, ← UInt8.toBitVec_inj, UInt8.toBitVec_shiftRight,
    UInt8.toBitVec_shiftRight, BitVec.ushiftRight_eq', BitVec.ushiftRight_eq', hs, BitVec.ushiftRight_xor_distrib]
  exact BitVec.xor_eq_zero_iff.symm

lemma prefixcmp_iff (h : a.length = b.length) : prefixcmp a b n = true ↔ Agree n (bitsOf a) (bitsOf b) := by
  induction a generalizing b n with
  | nil =>
    obtain rfl := List.length_eq_zero_iff.mp h.symm
    simp [prefixcmp, Agree.refl]
  | cons x a ih =>
    obtain ⟨y, b, rfl⟩ := List.exists_cons_of_length_eq_add_one h.symm
    rw [agree_bitsOf_cons, ← ih (by simpa using h)]
    by_cases hn : n < 8
    · have hz : n - 8 = 0 := by omega
      rw [← shift_eq_iff hn, hz]
      simp [prefixcmp, Nat.div_eq_of_lt hn, Nat.mod_eq_of_lt hn]
    · obtain ⟨k, rfl⟩ := Nat.exists_eq_add_of_le (Nat.not_lt.mp hn)
      have hb : (∀ i < 8, i < 8 + k → x.toBitVec.getMsbD i = y.toBitVec.getMsbD i) ↔ x = y := by
        rw [← UInt8.toBitVec_inj]
        refine ⟨fun hb => BitVec.eq_of_getMsbD_eq fun i hi => hb i hi (by omega), fun hxy i _ _ => by rw [hxy]⟩
      rw [hb, Nat.add_sub_cancel_left]
      simp [prefixcmp, and_assoc]

lemma bitsOf_toBytes (address : QHostAddress) : bitsOf address.toBytes = address.bits := by
  funext i
  by_cases hi : i < address.width
  · exact address.bits_toBytes hi
  · have hl : address.toBytes.length ≤ i / 8 := by
      have := address.length_toBytes
      omega
    have hb : bitsOf address.toBytes i = false := by simp [bitsOf, hl]
    rw [hb]
    cases address with
    | ipv4 a => simp_all [QHostAddress.bits, QHostAddress.width, QHostAddress.protocol]
    | ipv6 a =>
      have hw : 16 ≤ i / 8 := by
        simp only [QHostAddress.width, QHostAddress.protocol] at hi
        omega
      simp [QHostAddress.bits, Q_IPV6ADDR.byte, hw]

lemma routeContainsDest_iff {route dest : IPAddress} : routeContainsDest route dest = true ↔ Within dest route := by
  unfold routeContainsDest Within
  by_cases hp : route.address.protocol = dest.address.protocol
  · have hl : route.address.toBytes.length = dest.address.toBytes.length := by
      have h₁ := route.address.length_toBytes
      have h₂ := dest.address.length_toBytes
      rw [QHostAddress.width_eq hp] at h₁
      omega
    simp only [hp, ne_eq, not_true_eq_false, if_false, true_and]
    by_cases hn : route.prefixLength ≤ dest.prefixLength
    · rw [if_neg (Nat.not_lt.mpr hn), prefixcmp_iff hl, bitsOf_toBytes, bitsOf_toBytes]
      exact (and_iff_right hn).symm
    · simp [Nat.not_le.mp hn, hn]
  · simp [hp]

end RouteMonitor

namespace WindowsRouteMonitor

open RouteMonitor

/-- A row of the table that is to be captured: it does not lead into the tunnel, is not the default route, was not
created by the monitor, and leads to a routable destination outside the excluded prefixes. -/
structure Wanted (luid : Luid) (excluded : List IPAddress) (row : MIB_IPFORWARD_ROW2) : Prop where
  outside : row.interfaceLuid ≠ luid
  specific : row.destinationPrefix.prefixLength ≠ 0
  foreign : ¬(row.protocol = MIB_IPPROTO_NETMGMT ∧ row.metric = EXCLUSION_ROUTE_METRIC)
  routable : row.destinationPrefix.address.isRoutable = true
  included : ∀ route ∈ excluded, ¬Within row.destinationPrefix route

abbrev excluded (m : WindowsRouteMonitor) : List IPAddress := m.exclusionRoutes.map (·.1)

abbrev cloned (m : WindowsRouteMonitor) : List IPAddress := m.clonedRoutes.map (·.1)

def table (ip : IpHelper) (m : WindowsRouteMonitor) : List MIB_IPFORWARD_ROW2 := ip.routes ++ m.created

def InFamily (family : AddressFamily) (dest : IPAddress) : Bool :=
  family == .AF_UNSPEC || familyOf dest.address == family

/-- The destinations of the family that are cloned are those of the rows to capture. -/
def Captures (ip : IpHelper) (family : AddressFamily) (excluded : List IPAddress) (m : WindowsRouteMonitor) : Prop :=
  ∀ dest, InFamily family dest = true →
    (dest ∈ m.cloned ↔ ∃ row ∈ m.table ip, Wanted m.luid excluded row ∧ row.destinationPrefix = dest)

/-- Each cloned destination has exactly one clone in the table, and no other has one. -/
def Cloned (m : WindowsRouteMonitor) : Prop :=
  ∀ dest, (m.created.filter fun row => row.interfaceLuid = m.luid ∧ row.destinationPrefix = dest).length =
    if dest ∈ m.cloned then 1 else 0

/-- What the monitor stores about an exclusion route. -/
structure Excludes (luid : Luid) (dest : IPAddress) (data : MIB_IPFORWARD_ROW2) : Prop where
  destinationPrefix : data.destinationPrefix = dest
  outside : data.interfaceLuid ≠ luid
  protocol : data.protocol = MIB_IPPROTO_NETMGMT
  metric : data.metric = EXCLUSION_ROUTE_METRIC

/-- The clones with the counts of the rows that match them. -/
def withCounts (luid : Luid) (c : Counts IPAddress) : List (IPAddress × MIB_IPFORWARD_ROW2) :=
  c.map fun e => (e.1, { clone luid e.1 with age := e.2 })

/-- The monitor and the table hold the clones with the given counts. -/
structure Represents (m : WindowsRouteMonitor) (c : Counts IPAddress) : Prop where
  clonedRoutes : m.clonedRoutes = withCounts m.luid c
  nodup : c.keys.Nodup
  created : (m.created.filter fun row => row.interfaceLuid = m.luid) = c.keys.map (clone m.luid)
  exclusions : ∀ route ∈ m.exclusionRoutes, Excludes m.luid route.1 route.2
  own : ∀ row ∈ m.created, row.interfaceLuid ≠ m.luid →
    row.protocol = MIB_IPPROTO_NETMGMT ∧ row.metric = EXCLUSION_ROUTE_METRIC

variable {m m' : WindowsRouteMonitor} {c : Counts IPAddress} {ip : IpHelper} {family : AddressFamily}
  {row data : MIB_IPFORWARD_ROW2} {rows : List MIB_IPFORWARD_ROW2} {dest : IPAddress} {removed : List IPAddress}

lemma Represents.cloned (h : m.Represents c) : m.cloned = c.keys := by
  simp [WindowsRouteMonitor.cloned, h.clonedRoutes, withCounts, Function.comp_def]

lemma captures_iff (h : m.Represents c) : m.captures row = true ↔ Wanted m.luid m.excluded row := by
  have he : m.isRouteExcluded row.destinationPrefix = true ↔
      ∃ route ∈ m.excluded, Within row.destinationPrefix route := by
    unfold isRouteExcluded
    rw [List.any_eq_true]
    constructor
    · rintro ⟨route, hr, hc⟩
      refine ⟨route.1, List.mem_map_of_mem hr, ?_⟩
      rwa [routeContainsDest_iff, (h.exclusions route hr).destinationPrefix] at hc
    · rintro ⟨dest, hd, hw⟩
      obtain ⟨route, hr, rfl⟩ := List.mem_map.mp hd
      refine ⟨route, hr, ?_⟩
      rwa [routeContainsDest_iff, (h.exclusions route hr).destinationPrefix]
  unfold captures
  constructor
  · intro hc
    split_ifs at hc with h₁ h₂ h₃ h₄
    exact ⟨h₁, h₂, h₃, hc, fun route hr hw => h₄ (he.mpr ⟨route, hr, hw⟩)⟩
  · rintro ⟨h₁, h₂, h₃, h₄, h₅⟩
    have hn : ¬m.isRouteExcluded row.destinationPrefix = true := fun hx => by
      obtain ⟨route, hr, hw⟩ := he.mp hx
      exact h₅ route hr hw
    simp [h₁, h₂, h₃, h₄, hn]

variable (ip) in
lemma wanted_table (h : m.Represents c) (excluded : List IPAddress) {p : MIB_IPFORWARD_ROW2 → Prop} :
    (∃ row ∈ m.table ip, Wanted m.luid excluded row ∧ p row) ↔
      ∃ row ∈ ip.routes, Wanted m.luid excluded row ∧ p row := by
  constructor
  · rintro ⟨row, hr, hw, hp⟩
    rcases List.mem_append.mp hr with hr | hr
    · exact ⟨row, hr, hw, hp⟩
    · exact absurd (h.own row hr hw.outside) hw.foreign
  · rintro ⟨row, hr, hw, hp⟩
    exact ⟨row, List.mem_append_left _ hr, hw, hp⟩

lemma Represents.isCloned (h : m.Represents c) : m.Cloned := by
  intro dest
  have hf : (m.created.filter fun row => row.interfaceLuid = m.luid ∧ row.destinationPrefix = dest) =
      (c.keys.filter (· == dest)).map (clone m.luid) := by
    have hs : (m.created.filter fun row => row.interfaceLuid = m.luid ∧ row.destinationPrefix = dest) =
        (m.created.filter fun row => row.interfaceLuid = m.luid).filter fun row => row.destinationPrefix == dest := by
      rw [List.filter_filter]
      exact List.filter_congr fun row _ => by rw [Bool.decide_and, Bool.and_comm]; rfl
    rw [hs, h.created, List.filter_map]
    rfl
  rw [hf, List.length_map, h.cloned, ← List.countP_eq_length_filter]
  split
  · next hm => exact List.count_eq_one_of_mem h.nodup hm
  · next hm => exact List.count_eq_zero_of_not_mem hm

/-- What a change to the clones must leave as it is. -/
structure SameRest (m m' : WindowsRouteMonitor) : Prop where
  luid : m'.luid = m.luid
  exclusionRoutes : m'.exclusionRoutes = m.exclusionRoutes
  defaultRouteCapture : m'.defaultRouteCapture = m.defaultRouteCapture

lemma SameRest.refl (m : WindowsRouteMonitor) : SameRest m m := ⟨rfl, rfl, rfl⟩

lemma SameRest.trans {m'' : WindowsRouteMonitor} (h : SameRest m m') (h' : SameRest m' m'') : SameRest m m'' :=
  ⟨h'.luid.trans h.luid, h'.exclusionRoutes.trans h.exclusionRoutes,
    h'.defaultRouteCapture.trans h.defaultRouteCapture⟩

variable (row) in
lemma sameRest_captureRow : SameRest m (m.captureRow row) := by
  unfold captureRow
  split
  · exact .refl m
  · dsimp only
    split <;> exact ⟨rfl, rfl, rfl⟩

variable (row) in
lemma Represents.captureRow (h : m.Represents c) :
    (m.captureRow row).Represents (if m.captures row then mark c row.destinationPrefix else c) := by
  unfold WindowsRouteMonitor.captureRow
  cases hc : m.captures row with
  | false => exact h
  | true =>
    simp only [Bool.not_true, Bool.false_eq_true, if_false, if_true]
    have hi : row.destinationPrefix ∈ m.clonedRoutes.map (·.1) ↔ row.destinationPrefix ∈ c.keys := by
      rw [← h.cloned]
    by_cases hm : row.destinationPrefix ∈ c.keys
    · rw [if_pos (hi.mpr hm)]
      refine ⟨?_, (keys_mark_of_mem hm).symm ▸ h.nodup, ?_, h.exclusions, h.own⟩
      · simp only [h.clonedRoutes, withCounts, mark, if_pos hm, List.map_map]
        refine List.map_congr_left fun e _ => ?_
        simp only [Function.comp_apply]
        split <;> rfl
      · rw [keys_mark_of_mem hm]
        exact h.created
    · have hk := keys_mark_of_not_mem hm
      have hf : ((m.created ++ [clone m.luid row.destinationPrefix]).filter fun r => r.interfaceLuid = m.luid) =
          c.keys.map (clone m.luid) ++ [clone m.luid row.destinationPrefix] := by
        rw [List.filter_append, h.created]
        simp [clone]
      rw [if_neg (mt hi.mp hm)]
      refine ⟨?_, ?_, ?_, h.exclusions, fun r hr hl => ?_⟩
      · simp [h.clonedRoutes, withCounts, mark, if_neg hm, createIpForwardEntry2, clone]
      · rw [hk]
        exact List.nodup_append.mpr ⟨h.nodup, List.nodup_singleton _, fun a ha b hb hab =>
          hm (List.mem_singleton.mp hb ▸ hab ▸ ha)⟩
      · rw [hk, List.map_append]
        exact hf
      · rcases List.mem_append.mp hr with hr | hr
        · exact h.own r hr hl
        · rw [List.mem_singleton.mp hr] at hl
          exact absurd rfl hl

lemma captures_congr (h : SameRest m m') : m'.captures row = m.captures row := by
  unfold captures isRouteExcluded
  rw [h.luid, h.exclusionRoutes]

lemma Represents.captureRows (h : m.Represents c) (rows : List MIB_IPFORWARD_ROW2) :
    (rows.foldl WindowsRouteMonitor.captureRow m).Represents
        (((rows.filter m.captures).map (·.destinationPrefix)).foldl mark c) ∧
      SameRest m (rows.foldl WindowsRouteMonitor.captureRow m) := by
  induction rows generalizing m c with
  | nil => exact ⟨h, .refl m⟩
  | cons row rows ih =>
    have hs := sameRest_captureRow (m := m) row
    obtain ⟨hr, hs'⟩ := ih (h.captureRow row)
    refine ⟨?_, hs.trans hs'⟩
    have hf : rows.filter (m.captureRow row).captures = rows.filter m.captures :=
      List.filter_congr fun r _ => captures_congr hs
    rw [hf] at hr
    rw [List.foldl_cons, List.filter_cons]
    cases hc : m.captures row <;> simpa [hc] using hr

lemma foldl_deleteIpForwardEntry2 (routes : List (IPAddress × MIB_IPFORWARD_ROW2)) (m : WindowsRouteMonitor) :
    routes.foldl (fun m route => m.deleteIpForwardEntry2 route.2) m =
      { m with
        created := m.created.filter fun r => routes.all fun route =>
          ¬(r.interfaceLuid = route.2.interfaceLuid ∧ r.destinationPrefix = route.2.destinationPrefix ∧
            r.nextHop = route.2.nextHop) } := by
  induction routes generalizing m with
  | nil => simp
  | cons route routes ih =>
    rw [List.foldl_cons, ih]
    simp only [deleteIpForwardEntry2, List.filter_filter, List.all_cons, Bool.and_comm]

lemma Represents.created_delete (h : m.Represents c) (d : Counts IPAddress) :
    ((m.created.filter fun r => (withCounts m.luid d).all fun route =>
        ¬(r.interfaceLuid = route.2.interfaceLuid ∧ r.destinationPrefix = route.2.destinationPrefix ∧
          r.nextHop = route.2.nextHop)).filter fun row => row.interfaceLuid = m.luid) =
      (c.keys.filter (· ∉ d.keys)).map (clone m.luid) := by
  rw [List.filter_comm, h.created, List.filter_map]
  refine congrArg (List.map _) (List.filter_congr fun dest _ => ?_)
  rw [Bool.eq_iff_iff, Function.comp_apply, List.all_eq_true, decide_eq_true_iff]
  constructor
  · intro ha hm
    obtain ⟨e, he, rfl⟩ := List.mem_map.mp hm
    have hn := ha _ (List.mem_map_of_mem he)
    exact of_decide_eq_true hn ⟨rfl, rfl, rfl⟩
  · intro hn route hr
    obtain ⟨e, he, rfl⟩ := List.mem_map.mp hr
    refine decide_eq_true fun hs => hn ?_
    have hd : dest = e.1 := hs.2.1
    exact hd ▸ List.mem_map_of_mem he

lemma inUse_clone (luid : Luid) (e : IPAddress × ℕ) :
    inUse family { clone luid e.1 with age := e.2 } = stays (InFamily family) e := by
  unfold inUse stays InFamily clone
  by_cases h : e.2 > 0
  · simp [h]
  · simp [h, bne]

variable (family) in
lemma Represents.sweepRoutes (h : m.Represents c) :
    (m.sweepRoutes family).Represents (sweep (InFamily family) c) ∧ SameRest m (m.sweepRoutes family) := by
  have hr : (m.clonedRoutes.filter fun route => !inUse family route.2) =
      withCounts m.luid (c.filter fun e => !stays (InFamily family) e) := by
    rw [h.clonedRoutes, withCounts, List.filter_map]
    refine congrArg (List.map _) (List.filter_congr fun e _ => ?_)
    rw [Function.comp_apply, inUse_clone]
  have hk : ((m.clonedRoutes.filter fun route => inUse family route.2).map fun route =>
      (route.1, { route.2 with age := 0 })) = withCounts m.luid (sweep (InFamily family) c) := by
    rw [h.clonedRoutes, withCounts, List.filter_map, List.map_map, withCounts, sweep, List.map_map]
    refine congrArg₂ List.map rfl (List.filter_congr fun e _ => ?_)
    rw [Function.comp_apply, inUse_clone]
  unfold WindowsRouteMonitor.sweepRoutes
  simp only [hr, foldl_deleteIpForwardEntry2]
  refine ⟨⟨hk, nodup_keys_sweep h.nodup, ?_, h.exclusions, fun r hr hl => ?_⟩, ⟨rfl, rfl, rfl⟩⟩
  · rw [keys_sweep h.nodup]
    exact h.created_delete _
  · exact h.own r (List.mem_filter.mp hr).1 hl

lemma updateInterfaceMetrics_eq (ip : IpHelper) (family : AddressFamily) (m : WindowsRouteMonitor) :
    ∃ ipv4 ipv6, m.updateInterfaceMetrics ip family =
      { m with interfaceMetricsIpv4 := ipv4, interfaceMetricsIpv6 := ipv6 } := by
  unfold updateInterfaceMetrics
  dsimp only
  generalize (if family = .AF_INET ∨ family = .AF_UNSPEC then fun _ => none else m.interfaceMetricsIpv4) = ipv4
  generalize (if family = .AF_INET6 ∨ family = .AF_UNSPEC then fun _ => none else m.interfaceMetricsIpv6) = ipv6
  generalize ip.interfaces.filter _ = rows
  induction rows generalizing ipv4 ipv6 with
  | nil => exact ⟨ipv4, ipv6, rfl⟩
  | cons row rows ih =>
    rw [List.foldl_cons]
    split_ifs
    · exact ih ipv4 ipv6
    · exact ih ipv4 ipv6
    · cases row.family with
      | AF_UNSPEC => exact ih ipv4 ipv6
      | AF_INET => exact ih _ ipv6
      | AF_INET6 => exact ih ipv4 _

variable (data) in
lemma bestLuid_ne (rows : List MIB_IPFORWARD_ROW2) {best : BestMatch} (h : best.bestLuid ≠ m.luid) :
    (rows.foldl (matchRow m data) best).bestLuid ≠ m.luid := by
  induction rows generalizing best with
  | nil => exact h
  | cons row rows ih =>
    refine ih ?_
    unfold matchRow
    split
    · exact h
    · next h₁ =>
      split
      · exact h
      split
      · exact h
      split
      · exact h
      split
      · exact h
      · split
        · exact h
        · dsimp only
          split
          · exact m.luid_ne.symm
          · exact h₁

lemma Represents.delete (h : m.Represents c) (hd : Excludes m.luid dest data) :
    (m.deleteIpForwardEntry2 data).Represents c := by
  refine ⟨h.clonedRoutes, h.nodup, ?_, h.exclusions, fun r hr hl => h.own r (List.mem_filter.mp hr).1 hl⟩
  refine Eq.trans ?_ h.created
  refine (List.filter_comm ..).trans (List.filter_eq_self.mpr fun r hr => decide_eq_true fun hs => hd.outside ?_)
  exact hs.1.symm.trans (of_decide_eq_true (List.mem_filter.mp hr).2)

variable (rows) in
lemma Represents.updateExclusionRoute (h : m.Represents c) (hd : Excludes m.luid dest data) :
    (m.updateExclusionRoute data rows).2.Represents c ∧ Excludes m.luid dest (m.updateExclusionRoute data rows).1 ∧
      SameRest m (m.updateExclusionRoute data rows).2 := by
  have hb := bestLuid_ne data rows
    (show ({ nexthop := unspecified data.destinationPrefix.address } : BestMatch).bestLuid ≠ m.luid from m.luid_ne.symm)
  have hcre : ∀ {m' : WindowsRouteMonitor} {row}, m'.Represents c → Excludes m'.luid dest row →
      (m'.createIpForwardEntry2 row).Represents c := by
    intro m' row h hd
    refine ⟨h.clonedRoutes, h.nodup, ?_, h.exclusions, fun r hr hl => ?_⟩
    · have hn : ([row].filter fun row => row.interfaceLuid = m'.luid) = [] := by simp [hd.outside]
      exact (List.filter_append ..).trans ((congrArg₂ (· ++ ·) h.created hn).trans (List.append_nil _))
    · rcases List.mem_append.mp hr with hr | hr
      · exact h.own r hr hl
      · rw [List.mem_singleton.mp hr]
        exact ⟨hd.protocol, hd.metric⟩
  unfold WindowsRouteMonitor.updateExclusionRoute
  generalize rows.foldl (matchRow m data) _ = best at hb ⊢
  dsimp only
  split
  · exact ⟨h, hd, .refl m⟩
  · have hd' : Excludes m.luid dest { data with interfaceLuid := best.bestLuid, nextHop := best.nexthop } :=
      ⟨hd.destinationPrefix, hb, hd.protocol, hd.metric⟩
    refine ⟨?_, hd', ?_⟩
    · split_ifs
      · exact hcre (h.delete hd) hd'
      · exact hcre h hd'
      · exact h.delete hd
      · exact h
    · split_ifs <;> exact ⟨rfl, rfl, rfl⟩

variable (rows) in
lemma Represents.updateExclusionRoutes (h : m.Represents c) {routes : List (IPAddress × MIB_IPFORWARD_ROW2)}
    (hr : ∀ route ∈ routes, Excludes m.luid route.1 route.2) :
    (updateExclusionRoutes rows routes m).2.Represents c ∧
      (updateExclusionRoutes rows routes m).1.map (·.1) = routes.map (·.1) ∧
      (∀ route ∈ (updateExclusionRoutes rows routes m).1, Excludes m.luid route.1 route.2) ∧
      SameRest m (updateExclusionRoutes rows routes m).2 := by
  induction routes generalizing m with
  | nil => exact ⟨h, rfl, by simp [WindowsRouteMonitor.updateExclusionRoutes], .refl m⟩
  | cons route routes ih =>
    obtain ⟨dest, data⟩ := route
    obtain ⟨hd, hr⟩ := List.forall_mem_cons.mp hr
    obtain ⟨h', hd', hs⟩ := h.updateExclusionRoute rows hd
    obtain ⟨h'', hk, hr', hs'⟩ := ih h' fun route hm => hs.luid ▸ hr route hm
    refine ⟨h'', ?_, ?_, hs.trans hs'⟩
    · simp only [WindowsRouteMonitor.updateExclusionRoutes, List.map_cons, hk]
    · simp only [WindowsRouteMonitor.updateExclusionRoutes, List.forall_mem_cons]
      exact ⟨hd', fun route hm => hs.luid ▸ hr' route hm⟩

/-- Between two operations no clone has a count, and without the capture there is none. -/
structure Settled (m : WindowsRouteMonitor) : Prop where
  represents : m.Represents (m.cloned.map fun dest => (dest, 0))
  disabled : m.defaultRouteCapture = false → m.cloned = []

lemma Represents.settled (h : m.Represents c) (hz : ∀ e ∈ c, e.2 = 0)
    (hd : m.defaultRouteCapture = false → c = []) : m.Settled := by
  have hc : m.cloned.map (fun dest => (dest, 0)) = c := by
    rw [h.cloned, List.map_map]
    refine (List.map_congr_left fun e he => ?_).trans (List.map_id c)
    exact Prod.ext rfl (hz e he).symm
  exact ⟨hc ▸ h, fun hf => by rw [h.cloned, hd hf]; rfl⟩

lemma Settled.updateCapturedRoutesFrom (h : m.Settled) (hc : m.defaultRouteCapture = true)
    (hr : rows = (m.table ip).filter (matchesFamily family)) :
    ∃ c, (m.updateCapturedRoutesFrom family rows).Represents c ∧ (∀ e ∈ c, e.2 = 0) ∧
      SameRest m (m.updateCapturedRoutesFrom family rows) ∧
      ∀ dest, InFamily family dest = true → (dest ∈ c.keys ↔
        ∃ row ∈ ip.routes, Wanted m.luid m.excluded row ∧ row.destinationPrefix = dest) := by
  obtain ⟨hm, hs⟩ := h.represents.captureRows rows
  obtain ⟨hm', hs'⟩ := hm.sweepRoutes family
  have hu : m.updateCapturedRoutesFrom family rows = (rows.foldl captureRow m).sweepRoutes family := by
    simp [WindowsRouteMonitor.updateCapturedRoutesFrom, hc]
  rw [hu]
  refine ⟨_, hm', fun e he => sweep_zero he, hs.trans hs', fun dest hd => ?_⟩
  have hz : ∀ e ∈ m.cloned.map (fun dest => (dest, 0)), e.2 = 0 := fun e he => by
    obtain ⟨_, -, rfl⟩ := List.mem_map.mp he
    rfl
  have hk := mem_keys_sweep dest (InFamily family) h.represents.nodup hz
    ((rows.filter m.captures).map (·.destinationPrefix))
  rw [hk, hd, ← wanted_table ip h.represents]
  simp only [Bool.true_eq_false, and_false, or_false]
  constructor
  · intro hm
    obtain ⟨row, hrow, rfl⟩ := List.mem_map.mp hm
    obtain ⟨hrow, hcap⟩ := List.mem_filter.mp hrow
    rw [hr] at hrow
    exact ⟨row, (List.mem_filter.mp hrow).1, (captures_iff h.represents).mp hcap, rfl⟩
  · rintro ⟨row, hrow, hw, rfl⟩
    refine List.mem_map_of_mem (List.mem_filter.mpr ⟨?_, (captures_iff h.represents).mpr hw⟩)
    rw [hr]
    exact List.mem_filter.mpr ⟨hrow, hd⟩

inductive Event where
  | addExclusionRoute (dest : IPAddress)
  | deleteExclusionRoute (dest : IPAddress)
  | setDetaultRouteCapture (enable : Bool)
  | routeChanged

/-- The family of the routes that an operation affects. -/
def Event.affected : Event → AddressFamily
  | .addExclusionRoute dest => familyOf dest.address
  | .deleteExclusionRoute dest => familyOf dest.address
  | .setDetaultRouteCapture _ => .AF_UNSPEC
  | .routeChanged => .AF_UNSPEC

/-- An operation, with what the system contains at its time. -/
def step (m : WindowsRouteMonitor) (e : IpHelper × Event) : WindowsRouteMonitor :=
  match e.2 with
  | .addExclusionRoute dest => (m.addExclusionRoute e.1 dest).2
  | .deleteExclusionRoute dest => (m.deleteExclusionRoute e.1 dest).2
  | .setDetaultRouteCapture enable => m.setDetaultRouteCapture enable
  | .routeChanged => m.routeChanged e.1

/-- What holds after an operation. -/
structure Exact (m : WindowsRouteMonitor) (e : IpHelper × Event) : Prop where
  captures : (m.step e).defaultRouteCapture = true → e.2 ≠ .setDetaultRouteCapture true →
    (m.step e).Captures e.1 e.2.affected (m.step e).excluded
  cloned : (m.step e).Cloned
  disabled : (m.step e).defaultRouteCapture = false → (m.step e).cloned = []

/-- The condition on an operation while the capture is enabled: a new exclusion contains no route that is to be
captured, and an operation that does not look at the table finds captured what is to be captured after it. -/
def Fresh (m : WindowsRouteMonitor) (e : IpHelper × Event) : Prop :=
  m.defaultRouteCapture = true →
    match e.2 with
    | .addExclusionRoute dest =>
      if dest.address.isRoutable = true ∧ dest ∉ m.excluded then
        ∀ row ∈ m.table e.1, Wanted m.luid m.excluded row → ¬Within row.destinationPrefix dest
      else m.Captures e.1 (familyOf dest.address) m.excluded
    | .deleteExclusionRoute dest => m.Captures e.1 (familyOf dest.address) (m.excluded.filter (· ≠ dest))
    | .setDetaultRouteCapture _ => True
    | .routeChanged => True

lemma captures_iff_represents (h : m.Represents c) {excluded : List IPAddress} :
    m.Captures ip family excluded ↔ ∀ dest, InFamily family dest = true →
      (dest ∈ c.keys ↔ ∃ row ∈ ip.routes, Wanted m.luid excluded row ∧ row.destinationPrefix = dest) := by
  simp only [Captures, h.cloned, wanted_table _ h]

lemma wanted_concat {luid : Luid} {excluded : List IPAddress} :
    Wanted luid (excluded ++ [dest]) row ↔ Wanted luid excluded row ∧ ¬Within row.destinationPrefix dest := by
  constructor
  · intro h
    refine ⟨⟨h.outside, h.specific, h.foreign, h.routable, fun route hr => ?_⟩, ?_⟩
    · exact h.included route (List.mem_append_left _ hr)
    · exact h.included dest (List.mem_append_right _ (List.mem_singleton_self dest))
  · rintro ⟨h, hn⟩
    refine ⟨h.outside, h.specific, h.foreign, h.routable, fun route hr => ?_⟩
    rcases List.mem_append.mp hr with hr | hr
    · exact h.included route hr
    · exact List.mem_singleton.mp hr ▸ hn

lemma captures_concat {c : Counts IPAddress} {luid : Luid} {excluded : List IPAddress}
    (h : ∀ dest', InFamily (familyOf dest.address) dest' = true → (dest' ∈ c.keys ↔
      ∃ row ∈ ip.routes, Wanted luid excluded row ∧ row.destinationPrefix = dest')) :
    (∀ dest', InFamily (familyOf dest.address) dest' = true → (dest' ∈ c.keys ↔
      ∃ row ∈ ip.routes, Wanted luid (excluded ++ [dest]) row ∧ row.destinationPrefix = dest')) ↔
      ∀ row ∈ ip.routes, Wanted luid excluded row → ¬Within row.destinationPrefix dest := by
  constructor
  · intro hc row hrow hw hwithin
    have hf : InFamily (familyOf dest.address) row.destinationPrefix = true := by
      simp [InFamily, familyOf, hwithin.1]
    obtain ⟨row', -, hw', he⟩ := (hc _ hf).mp ((h _ hf).mpr ⟨row, hrow, hw, rfl⟩)
    exact (wanted_concat.mp hw').2 (he ▸ hwithin)
  · intro hn dest' hf
    rw [h dest' hf]
    constructor
    · rintro ⟨row, hrow, hw, he⟩
      exact ⟨row, hrow, wanted_concat.mpr ⟨hw, hn row hrow hw⟩, he⟩
    · rintro ⟨row, hrow, hw, he⟩
      exact ⟨row, hrow, (wanted_concat.mp hw).1, he⟩

variable (rows) in
lemma Settled.update (h : m.Settled) (hr : rows = (m.table ip).filter (matchesFamily family)) :
    ∃ c, (m.updateCapturedRoutesFrom family rows).Represents c ∧ (∀ e ∈ c, e.2 = 0) ∧
      SameRest m (m.updateCapturedRoutesFrom family rows) ∧ (m.defaultRouteCapture = false → c = []) ∧
      (m.defaultRouteCapture = true → ∀ dest, InFamily family dest = true → (dest ∈ c.keys ↔
        ∃ row ∈ ip.routes, Wanted m.luid m.excluded row ∧ row.destinationPrefix = dest)) := by
  cases hc : m.defaultRouteCapture with
  | false =>
    have hu : m.updateCapturedRoutesFrom family rows = m := by
      simp [WindowsRouteMonitor.updateCapturedRoutesFrom, hc]
    have hn : m.cloned.map (fun dest => (dest, 0)) = [] := by rw [h.disabled hc, List.map_nil]
    exact ⟨[], by rw [hu, ← hn]; exact h.represents, by simp, hu.symm ▸ .refl m, fun _ => rfl, by simp⟩
  | true =>
    obtain ⟨c, hm, hz, hs, hk⟩ := h.updateCapturedRoutesFrom hc hr
    exact ⟨c, hm, hz, hs, by simp, fun _ => hk⟩

variable (ip) (family) in
lemma Settled.updateInterfaceMetrics (h : m.Settled) :
    (m.updateInterfaceMetrics ip family).Settled ∧ SameRest m (m.updateInterfaceMetrics ip family) ∧
      (m.updateInterfaceMetrics ip family).created = m.created := by
  obtain ⟨ipv4, ipv6, hm⟩ := updateInterfaceMetrics_eq ip family m
  have hr := h.represents
  rw [hm]
  exact ⟨⟨⟨hr.clonedRoutes, hr.nodup, hr.created, hr.exclusions, hr.own⟩, h.disabled⟩, ⟨rfl, rfl, rfl⟩, rfl⟩

/-- The monitor after it has looked at the table. -/
def refreshed (ip : IpHelper) (family : AddressFamily) (m : WindowsRouteMonitor) : WindowsRouteMonitor :=
  (m.updateInterfaceMetrics ip family).updateCapturedRoutesFrom family ((m.table ip).filter (matchesFamily family))

lemma Settled.refreshed (h : m.Settled) (ip : IpHelper) (family : AddressFamily) :
    ∃ c, (m.refreshed ip family).Represents c ∧ (∀ e ∈ c, e.2 = 0) ∧ SameRest m (m.refreshed ip family) ∧
      (m.defaultRouteCapture = false → c = []) ∧
      (m.defaultRouteCapture = true → ∀ dest, InFamily family dest = true → (dest ∈ c.keys ↔
        ∃ row ∈ ip.routes, Wanted m.luid m.excluded row ∧ row.destinationPrefix = dest)) := by
  obtain ⟨h₁, hs₁, hc⟩ := h.updateInterfaceMetrics ip family
  have ht : (m.updateInterfaceMetrics ip family).table ip = m.table ip := congrArg (ip.routes ++ ·) hc
  obtain ⟨c, hr, hz, hs₂, hn, hk⟩ := h₁.update ((m.table ip).filter (matchesFamily family)) (by rw [ht])
  rw [hs₁.defaultRouteCapture, hs₁.luid, excluded, hs₁.exclusionRoutes] at hk
  exact ⟨c, hr, hz, hs₁.trans hs₂, hs₁.defaultRouteCapture ▸ hn, hk⟩

/-- What an operation comes to: the monitor stays settled, and captures what it must under the condition. -/
def Follows (m m' : WindowsRouteMonitor) (e : IpHelper × Event) : Prop :=
  m'.Settled ∧ ((m'.defaultRouteCapture = true → e.2 ≠ .setDetaultRouteCapture true →
    m'.Captures e.1 e.2.affected m'.excluded) ↔ m.Fresh e)

lemma follows_addExclusionRoute (h : m.Settled) :
    Follows m (m.addExclusionRoute ip dest).2 (ip, .addExclusionRoute dest) := by
  unfold Follows Fresh
  simp only [ne_eq, reduceCtorEq, not_false_eq_true, forall_const, Event.affected]
  by_cases hnew : dest.address.isRoutable = true ∧ dest ∉ m.excluded
  · obtain ⟨c, hc, hz, hs, hn, hk⟩ := h.refreshed ip (familyOf dest.address)
    let rows := (m.table ip).filter (matchesFamily (familyOf dest.address))
    let m₁ := m.refreshed ip (familyOf dest.address)
    have hd : Excludes m₁.luid dest (exclusionRow dest) := ⟨rfl, m₁.luid_ne.symm, rfl, rfl⟩
    obtain ⟨hc', hd', hs'⟩ := hc.updateExclusionRoute rows hd
    have he : (m.addExclusionRoute ip dest).2 = { (m₁.updateExclusionRoute (exclusionRow dest) rows).2 with
        exclusionRoutes := (m₁.updateExclusionRoute (exclusionRow dest) rows).2.exclusionRoutes ++
          [(dest, (m₁.updateExclusionRoute (exclusionRow dest) rows).1)] } := by
      simp [addExclusionRoute, hnew.1, hnew.2, getIpForwardTable2, refreshed, m₁, rows, table]
    have hs'' := hs.trans hs'
    generalize m₁.updateExclusionRoute (exclusionRow dest) rows = r at hc' hd' hs'' he
    rw [he, if_pos hnew]
    have hr : Represents { r.2 with exclusionRoutes := r.2.exclusionRoutes ++ [(dest, r.1)] } c := by
      refine ⟨hc'.clonedRoutes, hc'.nodup, hc'.created, fun route hm => ?_, hc'.own⟩
      rcases List.mem_append.mp hm with hm | hm
      · exact hc'.exclusions route hm
      · rw [List.mem_singleton.mp hm]
        exact hs''.luid.trans hs.luid.symm ▸ hd'
    refine ⟨hr.settled hz fun hf => hn (hs''.defaultRouteCapture.symm.trans hf), ?_⟩
    rw [captures_iff_represents hr]
    dsimp only
    rw [hs''.defaultRouteCapture]
    refine forall_congr' fun hcap => ?_
    have hx : excluded { r.2 with exclusionRoutes := r.2.exclusionRoutes ++ [(dest, r.1)] } =
        m.excluded ++ [dest] := by simp [excluded, hs''.exclusionRoutes]
    rw [hx, hs''.luid, captures_concat (hk hcap)]
    simpa using not_congr (wanted_table ip h.represents m.excluded
      (p := fun row => Within row.destinationPrefix dest)).symm
  · have he : (m.addExclusionRoute ip dest).2 = m := by
      unfold addExclusionRoute
      by_cases hr : dest.address.isRoutable = true
      · rw [if_neg (by simp [hr]), if_pos (not_not.mp fun hm => hnew ⟨hr, hm⟩)]
      · rw [if_pos (by simpa using hr)]
    rw [he, if_neg hnew]
    exact ⟨h, Iff.rfl⟩

lemma follows_deleteExclusionRoute (h : m.Settled) :
    Follows m (m.deleteExclusionRoute ip dest).2 (ip, .deleteExclusionRoute dest) := by
  unfold Follows Fresh deleteExclusionRoute
  simp only [ne_eq, reduceCtorEq, not_false_eq_true, forall_const, Event.affected]
  cases hf : m.exclusionRoutes.find? (·.1 = dest) with
  | none =>
    have hx : (m.excluded.filter fun d => ¬d = dest) = m.excluded := by
      refine List.filter_eq_self.mpr fun d hd => ?_
      obtain ⟨route, hr, rfl⟩ := List.mem_map.mp hd
      simpa using List.find?_eq_none.mp hf route hr
    rw [hx]
    exact ⟨h, Iff.rfl⟩
  | some route =>
    obtain ⟨dest', data⟩ := route
    have hd := h.represents.exclusions _ (List.mem_of_find?_eq_some hf)
    have hr := h.represents.delete hd
    have hr' : Represents ({ m with exclusionRoutes := m.exclusionRoutes.filter (·.1 ≠ dest) }.deleteIpForwardEntry2
        data) (m.cloned.map fun dest => (dest, 0)) :=
      ⟨hr.clonedRoutes, hr.nodup, hr.created, fun route hm => hr.exclusions route (List.mem_filter.mp hm).1, hr.own⟩
    have hu : ∀ (m : WindowsRouteMonitor) family, m.updateCapturedRoutes ip family = m := fun m family => by
      simp [updateCapturedRoutes, getIpForwardTable2]
    have hx : (m.exclusionRoutes.filter fun route => ¬route.1 = dest).map (·.1) =
        m.excluded.filter fun d => ¬d = dest := by
      rw [excluded, List.filter_map]
      rfl
    dsimp only
    rw [hu]
    refine ⟨⟨hr', h.disabled⟩, forall_congr' fun _ => ?_⟩
    rw [captures_iff_represents hr', captures_iff_represents h.represents]
    exact hx ▸ Iff.rfl

lemma follows_setDetaultRouteCapture (h : m.Settled) (enable : Bool) :
    Follows m (m.setDetaultRouteCapture enable) (ip, .setDetaultRouteCapture enable) := by
  have hr := h.represents
  cases enable with
  | true =>
    refine ⟨⟨⟨hr.clonedRoutes, hr.nodup, hr.created, hr.exclusions, hr.own⟩, fun hf => by cases hf⟩, ?_⟩
    simp [Fresh]
  | false =>
    have hs : Represents (m.setDetaultRouteCapture false) [] := by
      have hk : (Counts.keys (m.cloned.map fun dest => (dest, 0))).filter
          (· ∉ Counts.keys (m.cloned.map fun dest => (dest, 0))) = [] :=
        List.filter_eq_nil_iff.mpr fun dest hd => by simpa using hd
      have hd := hr.created_delete (m.cloned.map fun dest => (dest, 0))
      rw [hk, ← hr.clonedRoutes] at hd
      unfold setDetaultRouteCapture
      simp only [Bool.not_false, if_true, foldl_deleteIpForwardEntry2]
      exact ⟨rfl, List.nodup_nil, hd, hr.exclusions, fun r hr' hl => hr.own r (List.mem_filter.mp hr').1 hl⟩
    refine ⟨hs.settled (by simp) fun _ => rfl, ?_⟩
    have hf : (m.setDetaultRouteCapture false).defaultRouteCapture = false := by
      simp [setDetaultRouteCapture, foldl_deleteIpForwardEntry2]
    simp [Fresh, hf]

lemma follows_routeChanged (h : m.Settled) : Follows m (m.routeChanged ip) (ip, .routeChanged) := by
  obtain ⟨c, hc, hz, hs, hn, hk⟩ := h.refreshed ip .AF_UNSPEC
  let rows := (m.table ip).filter (matchesFamily .AF_UNSPEC)
  let m₁ := m.refreshed ip .AF_UNSPEC
  obtain ⟨hc', hkeys, hr', hs'⟩ := hc.updateExclusionRoutes rows hc.exclusions
  have he : m.routeChanged ip = { (updateExclusionRoutes rows m₁.exclusionRoutes m₁).2 with
      exclusionRoutes := (updateExclusionRoutes rows m₁.exclusionRoutes m₁).1 } := by
    simp [routeChanged, getIpForwardTable2, refreshed, m₁, rows, table]
  have hs'' := hs.trans hs'
  generalize updateExclusionRoutes rows m₁.exclusionRoutes m₁ = r at hc' hkeys hr' hs'' he
  have hr : Represents { r.2 with exclusionRoutes := r.1 } c :=
    ⟨hc'.clonedRoutes, hc'.nodup, hc'.created,
      fun route hm => hs''.luid.trans hs.luid.symm ▸ hr' route hm, hc'.own⟩
  have hx : excluded { r.2 with exclusionRoutes := r.1 } = m.excluded := hkeys.trans (congrArg _ hs.exclusionRoutes)
  rw [he]
  refine ⟨hr.settled hz fun hf => hn (hs''.defaultRouteCapture.symm.trans hf), ?_⟩
  refine iff_of_true (fun hcap _ => ?_) (by simp [Fresh])
  rw [captures_iff_represents hr, hx]
  have hk := hk (hs''.defaultRouteCapture.symm.trans hcap)
  rw [← hs''.luid] at hk
  exact hk

lemma follows_step (h : m.Settled) (e : IpHelper × Event) : Follows m (m.step e) e := by
  obtain ⟨ip, e⟩ := e
  cases e with
  | addExclusionRoute dest => exact follows_addExclusionRoute h
  | deleteExclusionRoute dest => exact follows_deleteExclusionRoute h
  | setDetaultRouteCapture enable => exact follows_setDetaultRouteCapture h enable
  | routeChanged => exact follows_routeChanged h

lemma exact_iff_fresh (h : m.Settled) (e : IpHelper × Event) : Exact m e ↔ m.Fresh e := by
  obtain ⟨hs, hf⟩ := follows_step h e
  rw [← hf]
  exact ⟨Exact.captures, fun hc => ⟨hc, hs.represents.isCloned, hs.disabled⟩⟩

def initial (luid : {luid : Luid // luid ≠ 0}) : WindowsRouteMonitor where
  luid := luid.1
  luid_ne := luid.2

lemma settled_initial (luid : {luid : Luid // luid ≠ 0}) : (initial luid).Settled :=
  ⟨⟨rfl, List.nodup_nil, rfl, by simp [initial], by simp [initial]⟩, fun _ => rfl⟩

theorem captured_exactly (luid : {luid : Luid // luid ≠ 0}) (events : List (IpHelper × Event)) :
    Meets step Exact (initial luid) events ↔ Meets step Fresh (initial luid) events :=
  meets_congr (P := Settled) (fun _ e h _ => (follows_step h e).1) (fun _ e h => exact_iff_fresh h e)
    (settled_initial luid)

def privateNetwork : IPAddress := ⟨.ipv4 0x0a000000, 8⟩

def lan : IpHelper where
  routes := [{ interfaceLuid := 2, destinationPrefix := privateNetwork, nextHop := .ipv4 0 }]
  interfaces := []

/-- A captured route stays captured when it is excluded, and stays free when its exclusion is deleted. -/
theorem not_captured_exactly :
    ¬Meets step Exact (initial ⟨1, by decide⟩)
        [(lan, .setDetaultRouteCapture true), (lan, .routeChanged), (lan, .addExclusionRoute privateNetwork)] ∧
      ¬Meets step Exact (initial ⟨1, by decide⟩)
        [(lan, .setDetaultRouteCapture true), (lan, .addExclusionRoute privateNetwork), (lan, .routeChanged),
          (lan, .deleteExclusionRoute privateNetwork)] := by
  constructor
  · rintro ⟨-, -, h, -⟩
    have hc := (h.captures (by decide +kernel) (by simp) privateNetwork (by decide)).mp (by decide +kernel)
    obtain ⟨row, -, hw, he⟩ := hc
    exact hw.included privateNetwork (by decide +kernel) (he ▸ ⟨rfl, le_rfl, Agree.refl _ _⟩)
  · rintro ⟨-, -, -, h, -⟩
    have hc := h.captures (by decide +kernel) (by simp) privateNetwork (by decide)
    generalize hm : WindowsRouteMonitor.step _ _ = m at hc
    have hx : m.excluded = [] := hm ▸ by decide +kernel
    have hr : { interfaceLuid := 2, destinationPrefix := privateNetwork, nextHop := .ipv4 0 } ∈ m.table lan :=
      hm ▸ by decide +kernel
    have hl : m.luid = 1 := hm ▸ by decide +kernel
    refine absurd (hc.mpr ⟨_, hr, ⟨hl ▸ by decide, by decide, by decide, by decide +kernel, ?_⟩, rfl⟩)
      (hm ▸ by decide +kernel)
    simp [hx]

end WindowsRouteMonitor

end VpnClient.Windows
