import VpnClient.Address.IPAddress
import VpnClient.Address.NetworkBytes

/-! The route monitor on Windows: the routes around the tunnel, and the routes of the ip that it clones into it. -/

namespace VpnClient.Windows

open Address

inductive AddressFamily where
  | AF_UNSPEC
  | AF_INET
  | AF_INET6
  deriving DecidableEq, Repr

abbrev Luid := UInt64

def NO_ERROR : UInt32 := 0

def ULONG_MAX : UInt32 := 0xffffffff

def MIB_IPPROTO_NETMGMT : UInt32 := 3

def EXCLUSION_ROUTE_METRIC : UInt32 := 0x5e72

structure MIB_IPFORWARD_ROW2 where
  interfaceLuid : Luid := 0
  destinationPrefix : IPAddress
  nextHop : QHostAddress
  metric : UInt32 := 0
  protocol : UInt32 := 0
  age : ℕ := 0
  deriving DecidableEq

structure MIB_IPINTERFACE_ROW where
  family : AddressFamily
  interfaceLuid : Luid
  connected : Bool
  metric : UInt32

/-- The routing table without the routes that the monitor has created, and the table of interfaces. -/
structure IpHelper where
  routes : List MIB_IPFORWARD_ROW2
  interfaces : List MIB_IPINTERFACE_ROW

namespace RouteMonitor

def familyOf (address : QHostAddress) : AddressFamily :=
  match address.protocol with
  | .IPv4Protocol => .AF_INET
  | .IPv6Protocol => .AF_INET6

/-- The address of the family with every bit zero. -/
def unspecified (address : QHostAddress) : QHostAddress :=
  match address with
  | .ipv4 _ => .ipv4 0
  | .ipv6 _ => .ipv6 (Vector.replicate 16 0)

def matchesFamily (family : AddressFamily) (row : MIB_IPFORWARD_ROW2) : Bool :=
  family == .AF_UNSPEC || familyOf row.destinationPrefix.address == family

/-- Whether `prefixcmp` returns zero. -/
def prefixcmp (a b : List UInt8) (bits : ℕ) : Bool :=
  a.take (bits / 8) == b.take (bits / 8) &&
    (bits % 8 == 0 ||
      a.getD (bits / 8) 0 >>> UInt8.ofNat (8 - bits % 8) == b.getD (bits / 8) 0 >>> UInt8.ofNat (8 - bits % 8))

def routeContainsDest (route dest : IPAddress) : Bool :=
  if route.address.protocol ≠ dest.address.protocol then false
  else if route.prefixLength > dest.prefixLength then false
  else prefixcmp route.address.toBytes dest.address.toBytes route.prefixLength

end RouteMonitor

/-- The monitor of a tunnel interface, with the routes that it has created in the routing table. -/
structure WindowsRouteMonitor where
  luid : Luid
  luid_ne : luid ≠ 0
  exclusionRoutes : List (IPAddress × MIB_IPFORWARD_ROW2) := []
  clonedRoutes : List (IPAddress × MIB_IPFORWARD_ROW2) := []
  defaultRouteCapture : Bool := false
  interfaceMetricsIpv4 : Luid → Option UInt32 := fun _ => none
  interfaceMetricsIpv6 : Luid → Option UInt32 := fun _ => none
  created : List MIB_IPFORWARD_ROW2 := []

namespace WindowsRouteMonitor

open RouteMonitor

def createIpForwardEntry2 (row : MIB_IPFORWARD_ROW2) (m : WindowsRouteMonitor) : WindowsRouteMonitor :=
  { m with created := m.created ++ [row] }

/-- An entry is found by its interface, its destination and its next hop. -/
def deleteIpForwardEntry2 (row : MIB_IPFORWARD_ROW2) (m : WindowsRouteMonitor) : WindowsRouteMonitor :=
  { m with
    created := m.created.filter fun r =>
      ¬(r.interfaceLuid = row.interfaceLuid ∧ r.destinationPrefix = row.destinationPrefix ∧ r.nextHop = row.nextHop) }

def getIpForwardTable2 (ip : IpHelper) (family : AddressFamily) (m : WindowsRouteMonitor) :
    UInt32 × List MIB_IPFORWARD_ROW2 :=
  (NO_ERROR, (ip.routes ++ m.created).filter (matchesFamily family))

def updateInterfaceMetrics (ip : IpHelper) (family : AddressFamily) (m : WindowsRouteMonitor) :
    WindowsRouteMonitor :=
  let m :=
    { m with
      interfaceMetricsIpv4 :=
        if family = .AF_INET ∨ family = .AF_UNSPEC then fun _ => none else m.interfaceMetricsIpv4
      interfaceMetricsIpv6 :=
        if family = .AF_INET6 ∨ family = .AF_UNSPEC then fun _ => none else m.interfaceMetricsIpv6 }
  (ip.interfaces.filter fun row => family = .AF_UNSPEC ∨ row.family = family).foldl (fun m row =>
    if row.interfaceLuid = m.luid then m
    else if !row.connected then m
    else
      match row.family with
      | .AF_INET =>
        { m with interfaceMetricsIpv4 := Function.update m.interfaceMetricsIpv4 row.interfaceLuid (some row.metric) }
      | .AF_INET6 =>
        { m with interfaceMetricsIpv6 := Function.update m.interfaceMetricsIpv6 row.interfaceLuid (some row.metric) }
      | .AF_UNSPEC => m) m

def interfaceMetrics (address : QHostAddress) (m : WindowsRouteMonitor) : Luid → Option UInt32 :=
  match address.protocol with
  | .IPv6Protocol => m.interfaceMetricsIpv6
  | .IPv4Protocol => m.interfaceMetricsIpv4

/-- The metric of a route over an interface, which does not exceed the largest one. -/
def routeMetric (row interface : UInt32) : UInt32 := if row + interface < row then ULONG_MAX else row + interface

/-- The best match so far in the loop of `updateExclusionRoute`. -/
structure BestMatch where
  nexthop : QHostAddress
  bestLuid : Luid := 0
  bestMatch : ℤ := -1
  bestMetric : UInt32 := ULONG_MAX

def matchRow (m : WindowsRouteMonitor) (data : MIB_IPFORWARD_ROW2) (best : BestMatch) (row : MIB_IPFORWARD_ROW2) :
    BestMatch :=
  if row.interfaceLuid = m.luid then best
  else if row.destinationPrefix.prefixLength < best.bestMatch then best
  else if row.protocol = data.protocol ∧ row.metric = data.metric then best
  else if !routeContainsDest row.destinationPrefix data.destinationPrefix then best
  else
    match m.interfaceMetrics data.destinationPrefix.address row.interfaceLuid with
    | none => best
    | some metric =>
      if row.destinationPrefix.prefixLength = best.bestMatch ∧ routeMetric row.metric metric ≥ best.bestMetric then
        best
      else
        { nexthop := row.nextHop
          bestMatch := row.destinationPrefix.prefixLength
          bestMetric := routeMetric row.metric metric
          bestLuid :=
            if row.destinationPrefix.prefixLength = data.destinationPrefix.prefixLength then 0
            else row.interfaceLuid }

def updateExclusionRoute (data : MIB_IPFORWARD_ROW2) (table : List MIB_IPFORWARD_ROW2) (m : WindowsRouteMonitor) :
    MIB_IPFORWARD_ROW2 × WindowsRouteMonitor :=
  let best := table.foldl (matchRow m data) { nexthop := unspecified data.destinationPrefix.address }
  if data.interfaceLuid = best.bestLuid ∧ best.nexthop = data.nextHop then (data, m)
  else
    let m := if data.interfaceLuid ≠ 0 then m.deleteIpForwardEntry2 data else m
    let data := { data with interfaceLuid := best.bestLuid, nextHop := best.nexthop }
    (data, if data.interfaceLuid ≠ 0 then m.createIpForwardEntry2 data else m)

def isRouteExcluded (dest : IPAddress) (m : WindowsRouteMonitor) : Bool :=
  m.exclusionRoutes.any fun route => routeContainsDest route.2.destinationPrefix dest

/-- The tests on a row before it is cloned. -/
def captures (m : WindowsRouteMonitor) (row : MIB_IPFORWARD_ROW2) : Bool :=
  if row.interfaceLuid = m.luid then false
  else if row.destinationPrefix.prefixLength = 0 then false
  else if row.protocol = MIB_IPPROTO_NETMGMT ∧ row.metric = EXCLUSION_ROUTE_METRIC then false
  else if m.isRouteExcluded row.destinationPrefix then false
  else row.destinationPrefix.address.isRoutable

/-- The route to a destination through the tunnel. -/
def clone (luid : Luid) (destinationPrefix : IPAddress) : MIB_IPFORWARD_ROW2 where
  interfaceLuid := luid
  destinationPrefix
  nextHop := unspecified destinationPrefix.address
  metric := 0
  protocol := MIB_IPPROTO_NETMGMT
  age := 0

def captureRow (m : WindowsRouteMonitor) (row : MIB_IPFORWARD_ROW2) : WindowsRouteMonitor :=
  if !m.captures row then m
  else
    let dest := row.destinationPrefix
    if dest ∈ m.clonedRoutes.map (·.1) then
      { m with
        clonedRoutes := m.clonedRoutes.map fun route =>
          if route.1 = dest then (route.1, { route.2 with age := route.2.age + 1 }) else route }
    else
      let data := clone m.luid dest
      let m := m.createIpForwardEntry2 data
      { m with clonedRoutes := m.clonedRoutes ++ [(dest, { data with age := data.age + 1 })] }

/-- Whether the scan for removed routes leaves a clone. -/
def inUse (family : AddressFamily) (data : MIB_IPFORWARD_ROW2) : Bool :=
  if data.age > 0 then true
  else family != .AF_UNSPEC && familyOf data.destinationPrefix.address != family

def sweepRoutes (family : AddressFamily) (m : WindowsRouteMonitor) : WindowsRouteMonitor :=
  let removed := m.clonedRoutes.filter fun route => !inUse family route.2
  let m := removed.foldl (fun m route => m.deleteIpForwardEntry2 route.2) m
  { m with
    clonedRoutes := (m.clonedRoutes.filter fun route => inUse family route.2).map fun route =>
      (route.1, { route.2 with age := 0 }) }

/-- The overload of `updateCapturedRoutes` for a table. -/
def updateCapturedRoutesFrom (family : AddressFamily) (table : List MIB_IPFORWARD_ROW2) (m : WindowsRouteMonitor) :
    WindowsRouteMonitor :=
  if !m.defaultRouteCapture then m else (table.foldl captureRow m).sweepRoutes family

def updateCapturedRoutes (ip : IpHelper) (family : AddressFamily) (m : WindowsRouteMonitor) :
    WindowsRouteMonitor :=
  if !m.defaultRouteCapture then m
  else
    let (error, table) := m.getIpForwardTable2 ip family
    if error ≠ NO_ERROR then m.updateCapturedRoutesFrom family table else m

/-- The row for a new exclusion route. -/
def exclusionRow (destinationPrefix : IPAddress) : MIB_IPFORWARD_ROW2 where
  destinationPrefix
  nextHop := unspecified destinationPrefix.address
  metric := EXCLUSION_ROUTE_METRIC
  protocol := MIB_IPPROTO_NETMGMT

def addExclusionRoute (ip : IpHelper) (dest : IPAddress) (m : WindowsRouteMonitor) :
    Bool × WindowsRouteMonitor :=
  if !dest.address.isRoutable then (true, m)
  else if dest ∈ m.exclusionRoutes.map (·.1) then (false, m)
  else
    let family := familyOf dest.address
    let (result, table) := m.getIpForwardTable2 ip family
    if result ≠ NO_ERROR then (false, m)
    else
      let m := m.updateInterfaceMetrics ip family
      let m := m.updateCapturedRoutesFrom family table
      let (data, m) := m.updateExclusionRoute (exclusionRow dest) table
      (true, { m with exclusionRoutes := m.exclusionRoutes ++ [(dest, data)] })

def deleteExclusionRoute (ip : IpHelper) (dest : IPAddress) (m : WindowsRouteMonitor) :
    Bool × WindowsRouteMonitor :=
  match m.exclusionRoutes.find? (·.1 = dest) with
  | none => (true, m)
  | some (_, data) =>
    let m := { m with exclusionRoutes := m.exclusionRoutes.filter (·.1 ≠ dest) }
    let m := m.deleteIpForwardEntry2 data
    (true, m.updateCapturedRoutes ip (familyOf data.destinationPrefix.address))

def setDetaultRouteCapture (enable : Bool) (m : WindowsRouteMonitor) : WindowsRouteMonitor :=
  let m := { m with defaultRouteCapture := enable }
  if !m.defaultRouteCapture then
    { m.clonedRoutes.foldl (fun m route => m.deleteIpForwardEntry2 route.2) m with clonedRoutes := [] }
  else m

def updateExclusionRoutes (table : List MIB_IPFORWARD_ROW2) :
    List (IPAddress × MIB_IPFORWARD_ROW2) → WindowsRouteMonitor →
      List (IPAddress × MIB_IPFORWARD_ROW2) × WindowsRouteMonitor
  | [], m => ([], m)
  | (dest, data) :: routes, m =>
    let (data, m) := m.updateExclusionRoute data table
    let (routes, m) := updateExclusionRoutes table routes m
    ((dest, data) :: routes, m)

def routeChanged (ip : IpHelper) (m : WindowsRouteMonitor) : WindowsRouteMonitor :=
  let (result, table) := m.getIpForwardTable2 ip .AF_UNSPEC
  if result ≠ NO_ERROR then m
  else
    let m := m.updateInterfaceMetrics ip .AF_UNSPEC
    let m := m.updateCapturedRoutesFrom .AF_UNSPEC table
    let (exclusionRoutes, m) := updateExclusionRoutes table m.exclusionRoutes m
    { m with exclusionRoutes }

end WindowsRouteMonitor

end VpnClient.Windows
