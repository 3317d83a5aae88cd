import VpnClient.Address.NetworkBytes
import VpnClient.Windows.WindowsRouteMonitor
import VpnClient.Library.Selections
import VpnClient.Windows.ExclusionRows

/-! The routes around the tunnel for the connections that the proxy makes. -/

namespace VpnClient.Windows

open Address

/-- Whether the address is in the subnet; a netmask that is too long stands for all bits. -/
def isInSubnet (dest subnet : QHostAddress) (netmask : ℕ) : Bool :=
  if subnet.protocol ≠ dest.protocol then false
  else
    let mask := cidrMask (dest.width / 8) (min netmask dest.width)
    masked dest.toBytes mask == masked subnet.toBytes mask

structure InterfaceData where
  metric : UInt32 := 0
  ipv4addr : Option QHostAddress := none
  ipv6addr : Option QHostAddress := none

structure WindowsBypass where
  interfaceData : List (Luid × InterfaceData) := []
  routeTableIpv4 : List MIB_IPFORWARD_ROW2 := []
  routeTableIpv6 : List MIB_IPFORWARD_ROW2 := []

/-- The routes of a family if they can be had, and the interface of the tunnel, which is zero if there is none. -/
structure RouteTables where
  getIpForwardTable2 : AddressFamily → Option (List MIB_IPFORWARD_ROW2)
  getVpnLuid : Luid

namespace WindowsBypass

open RouteMonitor

def data (luid : Luid) (w : WindowsBypass) : InterfaceData := (w.interfaceData.lookup luid).getD {}

def table (dest : QHostAddress) (w : WindowsBypass) : List MIB_IPFORWARD_ROW2 :=
  match dest.protocol with
  | .IPv4Protocol => w.routeTableIpv4
  | .IPv6Protocol => w.routeTableIpv6

def sourceAddress (dest : QHostAddress) (data : InterfaceData) : Option QHostAddress :=
  match dest.protocol with
  | .IPv4Protocol => data.ipv4addr
  | .IPv6Protocol => data.ipv6addr

/-- The best route so far in the loop of `lookupRoute`. -/
structure BestRoute where
  bestLength : ℤ := -1
  bestMetric : UInt32 := ULONG_MAX
  bestMatch : Option MIB_IPFORWARD_ROW2 := none

def rowMetric (w : WindowsBypass) (row : MIB_IPFORWARD_ROW2) : UInt32 :=
  WindowsRouteMonitor.routeMetric row.metric (w.data row.interfaceLuid).metric

def lookupRow (dest : QHostAddress) (w : WindowsBypass) (best : BestRoute) (row : MIB_IPFORWARD_ROW2) : BestRoute :=
  if row.destinationPrefix.address.protocol ≠ dest.protocol then best
  else if row.destinationPrefix.prefixLength < best.bestLength then best
  else if !isInSubnet dest row.destinationPrefix.address row.destinationPrefix.prefixLength then best
  else if sourceAddress dest (w.data row.interfaceLuid) = none then best
  else if row.destinationPrefix.prefixLength = best.bestLength ∧ w.rowMetric row < best.bestMetric then best
  else
    { bestLength := row.destinationPrefix.prefixLength
      bestMetric := w.rowMetric row
      bestMatch := some row }

def lookupRoute (dest : QHostAddress) (w : WindowsBypass) : Option MIB_IPFORWARD_ROW2 :=
  ((w.table dest).foldl (w.lookupRow dest) {}).bestMatch

def updateTable (system : RouteTables) (family : AddressFamily) : List MIB_IPFORWARD_ROW2 :=
  match system.getIpForwardTable2 family with
  | none => []
  | some mib =>
    let tableSize := mib.countP fun row => row.interfaceLuid ≠ system.getVpnLuid
    if tableSize = mib.length then [] else mib.filter fun row => row.interfaceLuid ≠ system.getVpnLuid

def refreshRoutes (system : RouteTables) (family : AddressFamily) (w : WindowsBypass) : WindowsBypass :=
  match family with
  | .AF_UNSPEC =>
    { w with
      routeTableIpv4 := updateTable system .AF_INET
      routeTableIpv6 := updateTable system .AF_INET6 }
  | .AF_INET => { w with routeTableIpv4 := updateTable system .AF_INET }
  | .AF_INET6 => { w with routeTableIpv6 := updateTable system .AF_INET6 }

end WindowsBypass

end VpnClient.Windows

/-! The routes that the proxy chooses are those of the system, unless routes of one length differ in their metric. -/

namespace VpnClient.Windows

open Address Library.BinaryBlocks Library.Selections

namespace WindowsBypass

open RouteMonitor WindowsRouteMonitor

/-- The row contains the destination and is on an interface with a source address of its family. -/
structure Eligible (w : WindowsBypass) (dest : QHostAddress) (row : MIB_IPFORWARD_ROW2) : Prop where
  protocol : row.destinationPrefix.address.protocol = dest.protocol
  contains : Agree (min row.destinationPrefix.prefixLength dest.width) dest.bits row.destinationPrefix.address.bits
  source : sourceAddress dest (w.data row.interfaceLuid) ≠ none

def cost (w : WindowsBypass) (row : MIB_IPFORWARD_ROW2) : ℕ :=
  min (row.metric.toNat + (w.data row.interfaceLuid).metric.toNat) ULONG_MAX.toNat

/-- The row is as good as the other one, or better. -/
def Beats (w : WindowsBypass) (row other : MIB_IPFORWARD_ROW2) : Prop :=
  other.destinationPrefix.prefixLength < row.destinationPrefix.prefixLength ∨
    other.destinationPrefix.prefixLength = row.destinationPrefix.prefixLength ∧ w.cost row ≤ w.cost other

/-- The rows of a family around the tunnel, if one of its rows leads into the tunnel. -/
def around (system : RouteTables) (family : AddressFamily) : List MIB_IPFORWARD_ROW2 :=
  let rows := (system.getIpForwardTable2 family).getD []
  if ∃ row ∈ rows, row.interfaceLuid = system.getVpnLuid then
    rows.filter fun row => row.interfaceLuid ≠ system.getVpnLuid
  else []

structure Refreshes (w : WindowsBypass) (system : RouteTables) (family : AddressFamily) : Prop where
  ipv4 : (w.refreshRoutes system family).routeTableIpv4 =
    if family = .AF_INET6 then w.routeTableIpv4 else around system .AF_INET
  ipv6 : (w.refreshRoutes system family).routeTableIpv6 =
    if family = .AF_INET then w.routeTableIpv6 else around system .AF_INET6

/-- The lookup finds a best row for the destination, in whatever order the rows are, and the tables are refreshed. -/
structure Routes (w : WindowsBypass) (dest : QHostAddress) : Prop where
  none_iff : w.lookupRoute dest = none ↔ ∀ row ∈ w.table dest, ¬w.Eligible dest row
  best : ∀ row ∈ w.lookupRoute dest, row ∈ w.table dest ∧ w.Eligible dest row ∧
    ∀ other ∈ w.table dest, w.Eligible dest other → w.Beats row other
  perm : ∀ ipv4 ipv6, w.routeTableIpv4.Perm ipv4 → w.routeTableIpv6.Perm ipv6 →
    ∀ row ∈ w.lookupRoute dest,
      ∃ row' ∈ { w with routeTableIpv4 := ipv4, routeTableIpv6 := ipv6 }.lookupRoute dest,
        row'.destinationPrefix.prefixLength = row.destinationPrefix.prefixLength ∧ w.cost row' = w.cost row
  refreshes : ∀ system family, w.Refreshes system family

/-- No row that is eligible is longer. -/
def Longest (w : WindowsBypass) (dest : QHostAddress) (row : MIB_IPFORWARD_ROW2) : Prop :=
  row ∈ w.table dest ∧ w.Eligible dest row ∧ ∀ other ∈ w.table dest, w.Eligible dest other →
    other.destinationPrefix.prefixLength ≤ row.destinationPrefix.prefixLength

variable {w : WindowsBypass} {dest subnet : QHostAddress} {row other : MIB_IPFORWARD_ROW2} {best : BestRoute}
  {system : RouteTables} {family : AddressFamily}

lemma isInSubnet_iff {n : ℕ} : isInSubnet dest subnet n = true ↔
    subnet.protocol = dest.protocol ∧ Agree (min n dest.width) dest.bits subnet.bits := by
  rw [isInSubnet]
  by_cases hp : subnet.protocol = dest.protocol
  · have hd := dest.length_toBytes
    have hs := subnet.length_toBytes
    rw [QHostAddress.width_eq hp] at hs
    rw [if_neg (not_not.mpr hp), beq_iff_eq, masked_eq_iff (by omega) (by omega) (by omega), bitsOf_toBytes,
      bitsOf_toBytes, and_iff_right hp]
  · simp [hp]

instance (row : MIB_IPFORWARD_ROW2) : Decidable (w.Eligible dest row) :=
  decidable_of_iff (isInSubnet dest row.destinationPrefix.address row.destinationPrefix.prefixLength = true ∧
    sourceAddress dest (w.data row.interfaceLuid) ≠ none)
    ⟨fun h => ⟨(isInSubnet_iff.mp h.1).1, (isInSubnet_iff.mp h.1).2, h.2⟩,
      fun h => ⟨isInSubnet_iff.mpr ⟨h.protocol, h.contains⟩, h.source⟩⟩

lemma toNat_rowMetric : (w.rowMetric row).toNat = w.cost row := toNat_routeMetric ..

/-- The loop compares the lengths first, and takes the row of the greater metric. -/
def key (w : WindowsBypass) (row : MIB_IPFORWARD_ROW2) : ℕ ×ₗ ℕ :=
  toLex (row.destinationPrefix.prefixLength, w.cost row)

/-- The variables of the loop when the row is the best so far, or there is none. -/
def bestRoute (w : WindowsBypass) : Option MIB_IPFORWARD_ROW2 → BestRoute
  | none => {}
  | some row =>
    { bestLength := row.destinationPrefix.prefixLength, bestMetric := w.rowMetric row, bestMatch := some row }

lemma bestMatch_bestRoute (best : Option MIB_IPFORWARD_ROW2) : (w.bestRoute best).bestMatch = best := by
  cases best <;> rfl

lemma lookupRow_of_not_eligible (h : ¬w.Eligible dest row) : w.lookupRow dest best row = best := by
  rw [lookupRow]
  split_ifs with h₁ h₂ h₃ h₄ h₅
  · rfl
  · rfl
  · rfl
  · rfl
  · rfl
  · obtain ⟨hp, hc⟩ := isInSubnet_iff.mp (by simpa using h₃)
    exact absurd ⟨hp, hc, h₄⟩ h

lemma lookupRow_of_eligible (h : w.Eligible dest row) (best : Option MIB_IPFORWARD_ROW2) :
    w.lookupRow dest (w.bestRoute best) row = w.bestRoute (prefer w.key best row) := by
  have hs : isInSubnet dest row.destinationPrefix.address row.destinationPrefix.prefixLength = true :=
    isInSubnet_iff.mpr ⟨h.protocol, h.contains⟩
  rw [lookupRow, if_neg (not_not.mpr h.protocol), hs]
  simp only [Bool.not_true, Bool.false_eq_true, if_false, if_neg h.source]
  cases best with
  | none =>
    rw [if_neg, if_neg]
    · rfl
    · rintro ⟨hl, -⟩
      simp only [bestRoute] at hl
      omega
    · simp only [bestRoute]
      omega
  | some b =>
    rw [prefer]
    simp only [bestRoute, Nat.cast_lt, Nat.cast_inj, key, Prod.Lex.toLex_lt_toLex, UInt32.lt_iff_toNat_lt,
      toNat_rowMetric]
    split_ifs <;> first | rfl | omega

lemma foldl_lookupRow (rows : List MIB_IPFORWARD_ROW2) : rows.foldl (w.lookupRow dest) {} =
    w.bestRoute (select w.key (rows.filter fun row => w.Eligible dest row)) := by
  induction rows using List.reverseRecOn with
  | nil => rfl
  | append_singleton rows row ih =>
    rw [List.foldl_append, List.foldl_cons, List.foldl_nil, ih, List.filter_append]
    by_cases h : w.Eligible dest row
    · have hf : [row].filter (fun row => w.Eligible dest row) = [row] := by simp [h]
      rw [lookupRow_of_eligible h, hf, select_concat]
    · have hf : [row].filter (fun row => w.Eligible dest row) = [] := by simp [h]
      rw [lookupRow_of_not_eligible h, hf, List.append_nil]

lemma lookupRoute_eq :
    w.lookupRoute dest = select w.key ((w.table dest).filter fun row => w.Eligible dest row) := by
  rw [lookupRoute, foldl_lookupRow, bestMatch_bestRoute]

lemma mem_eligible : row ∈ (w.table dest).filter (fun row => w.Eligible dest row) ↔
    row ∈ w.table dest ∧ w.Eligible dest row := by
  rw [List.mem_filter, decide_eq_true_eq]

lemma lookupRoute_eq_none_iff : w.lookupRoute dest = none ↔ ∀ row ∈ w.table dest, ¬w.Eligible dest row := by
  rw [lookupRoute_eq, select_eq_none_iff, List.filter_eq_nil_iff]
  simp only [decide_eq_true_eq]

lemma longest_of_lookupRoute (h : w.lookupRoute dest = some row) :
    w.Longest dest row ∧ ∀ other, w.Longest dest other → w.cost other ≤ w.cost row := by
  rw [lookupRoute_eq] at h
  have hm := mem_eligible.mp (mem_of_select h)
  have hle : ∀ other ∈ w.table dest, w.Eligible dest other → w.key other ≤ w.key row :=
    fun other ho he => le_of_select h (mem_eligible.mpr ⟨ho, he⟩)
  constructor
  · refine ⟨hm.1, hm.2, fun other ho he => ?_⟩
    have := hle other ho he
    rw [key, key, Prod.Lex.toLex_le_toLex] at this
    exact this.elim (·.le) (·.1.le)
  · intro other ho
    have hk := hle other ho.1 ho.2.1
    have hl := ho.2.2 row hm.1 hm.2
    rw [key, key, Prod.Lex.toLex_le_toLex] at hk
    dsimp only at hk
    exact hk.elim (fun hlt => absurd hlt (Nat.not_lt.mpr hl)) (·.2)

lemma updateTable_eq : updateTable system family = around system family := by
  rw [updateTable, around]
  cases system.getIpForwardTable2 family with
  | none => simp
  | some mib =>
    simp only [Option.getD_some]
    by_cases ht : ∃ row ∈ mib, row.interfaceLuid = system.getVpnLuid
    · rw [if_pos ht, if_neg]
      rw [List.countP_eq_length]
      obtain ⟨row, hr, hl⟩ := ht
      exact fun hn => absurd hl (by simpa using hn row hr)
    · rw [if_neg ht, if_pos]
      rw [List.countP_eq_length]
      exact fun row hr => by simpa using fun hl => ht ⟨row, hr, hl⟩

lemma refreshes (w : WindowsBypass) (system : RouteTables) (family : AddressFamily) : w.Refreshes system family := by
  constructor <;> cases family <;> simp [refreshRoutes, updateTable_eq]

lemma exists_lookupRoute_of_perm {ipv4 ipv6 : List MIB_IPFORWARD_ROW2} (h₄ : w.routeTableIpv4.Perm ipv4)
    (h₆ : w.routeTableIpv6.Perm ipv6) (h : w.lookupRoute dest = some row) :
    ∃ row' ∈ { w with routeTableIpv4 := ipv4, routeTableIpv6 := ipv6 }.lookupRoute dest,
      row'.destinationPrefix.prefixLength = row.destinationPrefix.prefixLength ∧ w.cost row' = w.cost row := by
  have he (r : MIB_IPFORWARD_ROW2) :
      { w with routeTableIpv4 := ipv4, routeTableIpv6 := ipv6 }.Eligible dest r ↔ w.Eligible dest r :=
    ⟨fun h => ⟨h.protocol, h.contains, h.source⟩, fun h => ⟨h.protocol, h.contains, h.source⟩⟩
  have ht : (w.table dest).Perm ({ w with routeTableIpv4 := ipv4, routeTableIpv6 := ipv6 }.table dest) := by
    rw [table, table]
    cases dest.protocol with
    | IPv4Protocol => exact h₄
    | IPv6Protocol => exact h₆
  have hp := ht.filter fun row => w.Eligible dest row
  have hk : { w with routeTableIpv4 := ipv4, routeTableIpv6 := ipv6 }.lookupRoute dest = select w.key
      (({ w with routeTableIpv4 := ipv4, routeTableIpv6 := ipv6 }.table dest).filter fun row => w.Eligible dest row) := by
    rw [lookupRoute_eq]
    simp only [he]
    rfl
  rw [lookupRoute_eq] at h
  obtain ⟨hn, hnil⟩ | ⟨row', hs, -⟩ := select_spec w.key
    (({ w with routeTableIpv4 := ipv4, routeTableIpv6 := ipv6 }.table dest).filter fun row => w.Eligible dest row)
  · rw [hnil, List.perm_nil] at hp
    rw [hp] at h
    cases h
  · have heq := key_eq_of_perm hp h hs
    rw [key, key, toLex_inj, Prod.mk.injEq] at heq
    exact ⟨row', hk.trans hs, heq.1.symm, heq.2.symm⟩

theorem routes_iff (w : WindowsBypass) (dest : QHostAddress) : w.Routes dest ↔
    ∀ row other, w.Longest dest row → w.Longest dest other → w.cost row = w.cost other := by
  constructor
  case mp =>
    intro h
    have hbest : ∀ row, w.Longest dest row → ∀ best ∈ w.lookupRoute dest, w.cost row = w.cost best := by
      intro row hr best hb
      obtain ⟨hl, hmax⟩ := longest_of_lookupRoute hb
      apply (hmax row hr).antisymm
      have hlen := hl.2.2 row hr.1 hr.2.1
      have hlen' := hr.2.2 best hl.1 hl.2.1
      exact ((h.best best hb).2.2 row hr.1 hr.2.1).elim (fun hlt => absurd hlt (Nat.not_lt.mpr hlen')) (·.2)
    intro row other hr ho
    obtain ⟨best, hb⟩ := Option.ne_none_iff_exists'.mp fun hn => lookupRoute_eq_none_iff.mp hn row hr.1 hr.2.1
    rw [hbest row hr best hb, hbest other ho best hb]
  case mpr =>
    intro h
    refine ⟨lookupRoute_eq_none_iff, fun row hr => ?_, fun _ _ h₄ h₆ row hr => exists_lookupRoute_of_perm h₄ h₆ hr,
      w.refreshes⟩
    have hl := (longest_of_lookupRoute hr).1
    refine ⟨hl.1, hl.2.1, fun other ho he => ?_⟩
    obtain hlt | heq := Nat.lt_or_eq_of_le (hl.2.2 other ho he)
    · exact .inl hlt
    · have hother : w.Longest dest other := ⟨ho, he, fun r hr hre => (hl.2.2 r hr hre).trans_eq heq.symm⟩
      exact .inr ⟨heq, (h row other hl hother).le⟩

/-- A default route over an interface. -/
def defaultRoute (luid : Luid) (metric : UInt32) : MIB_IPFORWARD_ROW2 :=
  { interfaceLuid := luid, destinationPrefix := ⟨.ipv4 0, 0⟩, nextHop := .ipv4 0, metric }

def twoDefaultRoutes : WindowsBypass where
  interfaceData := [(1, { ipv4addr := some (.ipv4 1) }), (2, { ipv4addr := some (.ipv4 2) })]
  routeTableIpv4 := [defaultRoute 1 10, defaultRoute 2 20]

theorem not_routes_two_default_routes : ¬twoDefaultRoutes.Routes (.ipv4 0x08080808) := by
  intro h
  have hl : twoDefaultRoutes.lookupRoute (.ipv4 0x08080808) = some (defaultRoute 2 20) := by decide +kernel
  have hb := (h.best _ hl).2.2 (defaultRoute 1 10) (by decide +kernel) (by decide +kernel)
  rw [Beats] at hb
  exact absurd hb (by decide +kernel)

end WindowsBypass

end VpnClient.Windows
