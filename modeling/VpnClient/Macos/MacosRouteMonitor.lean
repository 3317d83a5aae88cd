import VpnClient.Address.NetworkBytes
import VpnClient.Library.LittleEndian
import VpnClient.Library.Tables

/-! The route monitor on macOS: it follows the default routes on a routing socket, and keeps the exclusion routes
through them. -/

namespace VpnClient.Macos

open Address Library Library.Tables

def AF_UNSPEC : UInt8 := 0
def AF_INET : UInt8 := 2
def AF_LINK : UInt8 := 18
def AF_INET6 : UInt8 := 30

def RTA_DST : ℕ := 0x1
def RTA_GATEWAY : ℕ := 0x2
def RTA_NETMASK : ℕ := 0x4
def RTA_IFP : ℕ := 0x10

def RTF_UP : ℕ := 0x1
def RTF_GATEWAY : ℕ := 0x2
def RTF_STATIC : ℕ := 0x800
def RTF_IFSCOPE : ℕ := 0x1000000

inductive RtmType where
  | RTM_ADD
  | RTM_DELETE
  | RTM_CHANGE
  | RTM_GET
  | other
  deriving DecidableEq, Repr

structure RtMsghdr where
  type : RtmType
  index : ℕ
  flags : ℕ := RTF_UP
  addrs : ℕ
  pid : ℕ := 0

/-- An address of a message starts with its length and its family. -/
def saLen (sa : List UInt8) : ℕ := (sa.getD 0 0).toNat

def saFamily (sa : List UInt8) : UInt8 := sa.getD 1 0

/-- The bytes that belong to the address. -/
def saBytes (sa : List UInt8) : List UInt8 := sa.take (saLen sa)

def sizeofSockaddrIn : ℕ := 16
def sizeofSockaddrIn6 : ℕ := 28
def sizeofSockaddrStorage : ℕ := 128

def pad (size : ℕ) : ℕ := if size % 4 ≠ 0 then size + (4 - size % 4) else size

/-- An address without a length takes four bytes. -/
def paddedSize (sa : List UInt8) : ℕ := if saLen sa = 0 then 4 else pad (saLen sa)

/-- The loop of `parseAddrList` in at most `fuel` rounds. -/
def parseFrom : ℕ → List UInt8 → List (List UInt8)
  | 0, _ => []
  | fuel + 1, payload =>
    if payload.length < 2 then []
    else if paddedSize payload > payload.length then []
    else payload.take (paddedSize payload) :: parseFrom fuel (payload.drop (paddedSize payload))

def parseAddrList (payload : List UInt8) : List (List UInt8) := parseFrom payload.length payload

lemma paddedSize_pos (sa : List UInt8) : 0 < paddedSize sa := by
  rw [paddedSize, pad]
  split
  · exact Nat.succ_pos 3
  · split <;> omega

lemma parseFrom_eq {fuel : ℕ} {payload : List UInt8} (h : payload.length ≤ fuel) :
    parseFrom fuel payload = parseAddrList payload := by
  rw [parseAddrList]
  induction fuel using Nat.strongRec generalizing payload with
  | ind fuel ih =>
    have hp := paddedSize_pos payload
    cases hl : payload.length with
    | zero => cases fuel <;> simp [parseFrom, hl]
    | succ n =>
      obtain ⟨fuel, rfl⟩ := Nat.exists_eq_add_one_of_ne_zero (by omega : fuel ≠ 0)
      have hd : (payload.drop (paddedSize payload)).length ≤ n := by
        rw [List.length_drop]
        omega
      simp only [parseFrom]
      rw [ih fuel (by omega) (hd.trans (by omega)), ih n (by omega) hd]

lemma parseAddrList_eq (payload : List UInt8) :
    parseAddrList payload =
      if payload.length < 2 then []
      else if paddedSize payload > payload.length then []
      else payload.take (paddedSize payload) :: parseAddrList (payload.drop (paddedSize payload)) := by
  have hp := paddedSize_pos payload
  cases hl : payload.length with
  | zero => simp [parseAddrList, parseFrom, hl]
  | succ n =>
    have hd : (payload.drop (paddedSize payload)).length ≤ n := by
      rw [List.length_drop]
      omega
    rw [← parseFrom_eq hd, parseAddrList, hl, parseFrom, hl]

/-- A message whose addresses are no longer than their families allow. -/
structure RoutingMessage where
  rtm : RtMsghdr
  payload : List UInt8
  wellFormed : ∀ sa ∈ parseAddrList payload, saLen sa ≤
    if saFamily sa = AF_INET then sizeofSockaddrIn
    else if saFamily sa = AF_INET6 then sizeofSockaddrIn6
    else sizeofSockaddrStorage

/-- The bytes of a field of an address, without those that are past its length and so are zero. -/
def field (offset size : ℕ) (sa : List UInt8) : List UInt8 := ((saBytes sa).drop offset).take size

/-- Whether the address is the netmask of a default route. -/
def isDefaultMask (sa : List UInt8) : Bool :=
  if saFamily sa = AF_INET then (field 4 4 sa).all (· == 0)
  else if saFamily sa = AF_INET6 then (field 8 16 sa).all (· == 0)
  else saFamily sa == AF_UNSPEC

def sdlIndex (sdl : List UInt8) : ℕ := LittleEndian.value ((sdl.drop 2).take 2)

def protocolOf (dst : List UInt8) : Option Protocol :=
  if saFamily dst = AF_INET then some .IPv4Protocol
  else if saFamily dst = AF_INET6 then some .IPv6Protocol
  else none

/-- The destination, the gateway and the netmask that a useful route contains. -/
def usefulAddrs (rtm : RtMsghdr) (addrlist : List (List UInt8)) : Option (List UInt8 × List UInt8 × List UInt8) :=
  if rtm.addrs &&& RTA_DST = 0 ∨ rtm.addrs &&& RTA_GATEWAY = 0 ∨ rtm.addrs &&& RTA_NETMASK = 0 then none
  else
    match addrlist with
    | dst :: gateway :: netmask :: _ => some (dst, gateway, netmask)
    | _ => none

/-- The interface index, from the address list if the message has the address of the interface. -/
def interfaceOf (rtm : RtMsghdr) (addrlist : List (List UInt8)) : Option ℕ :=
  if rtm.addrs &&& RTA_IFP ≠ 0 then
    let addridx := ([0x1, 0x2, 0x4, 0x8].filter fun mask => rtm.addrs &&& mask ≠ 0).length
    (addrlist[addridx]?).map fun sdl => if saFamily sdl = AF_LINK then sdlIndex sdl else rtm.index
  else some rtm.index

/-- A message to the kernel, with its addresses and their length. -/
structure RouteRequest where
  type : RtmType
  index : ℕ
  flags : ℕ
  addrs : List (ℕ × List UInt8) := []
  msglen : ℕ := 0

def rtmMaxSize : ℕ := sizeofSockaddrIn6 * 2 + sizeofSockaddrStorage

def rtmAppendAddr (rtaddr : ℕ) (sa : List UInt8) (rtm : RouteRequest) : RouteRequest :=
  if rtm.msglen + saLen sa > rtmMaxSize then rtm
  else { rtm with addrs := rtm.addrs ++ [(rtaddr, saBytes sa)], msglen := pad (rtm.msglen + saLen sa) }

/-- The address of a family with the bytes of a host or of a mask. -/
def sockaddr (protocol : Protocol) (data : List UInt8) : List UInt8 :=
  match protocol with
  | .IPv4Protocol => [16, AF_INET, 0, 0] ++ data ++ List.replicate 8 0
  | .IPv6Protocol => [28, AF_INET6, 0, 0, 0, 0, 0, 0] ++ data ++ List.replicate 4 0

def dstAddr (p : IPAddress) : List UInt8 := sockaddr p.address.protocol p.address.toBytes

def netmaskAddr (p : IPAddress) : List UInt8 :=
  sockaddr p.address.protocol (cidrMask p.address.toBytes.length p.prefixLength)

/-- What the kernel knows a route by: its masked destination and its mask. -/
structure Network where
  address : List UInt8
  netmask : List UInt8
  deriving DecidableEq

structure Hop where
  ifindex : ℕ
  gateway : List UInt8
  deriving DecidableEq

inductive Errno where
  | EEXIST
  | ESRCH
  | EINVAL
  deriving DecidableEq, Repr

/-- The routes of the kernel that the monitor has requested. -/
abbrev Routes := Table Network Hop

/-- What the kernel does with a message. It has no other reason to fail, and the index does not select the route to
delete, as the route is not scoped. -/
def writeRoute (rtm : RouteRequest) (routes : Routes) : Option Errno × Routes :=
  match rtm.addrs.lookup RTA_DST with
  | none => (some .EINVAL, routes)
  | some dst =>
    let netmask := (rtm.addrs.lookup RTA_NETMASK).getD (List.replicate dst.length 0xff)
    let network : Network := ⟨masked dst netmask, netmask⟩
    match rtm.type, rtm.addrs.lookup RTA_GATEWAY with
    | .RTM_ADD, some gateway => (if network ∈ routes then some .EEXIST else none, add network ⟨rtm.index, gateway⟩ routes)
    | .RTM_CHANGE, some gateway =>
      (if network ∈ routes then none else some .ESRCH, change network ⟨rtm.index, gateway⟩ routes)
    | .RTM_DELETE, _ => (if network ∈ routes then none else some .ESRCH, AList.erase network routes)
    | _, _ => (some .EINVAL, routes)

/-- The monitor of a tunnel interface in a process, with the routes of the kernel. -/
structure MacosRouteMonitor where
  ifindex : ℕ
  pid : ℕ
  exclusionRoutes : List IPAddress := []
  defaultGatewayIpv4 : List UInt8 := []
  defaultGatewayIpv6 : List UInt8 := []
  defaultIfindexIpv4 : ℕ := 0
  defaultIfindexIpv6 : ℕ := 0
  routes : Routes := ∅

namespace MacosRouteMonitor

def defaultGateway (protocol : Protocol) (m : MacosRouteMonitor) : List UInt8 :=
  match protocol with
  | .IPv4Protocol => m.defaultGatewayIpv4
  | .IPv6Protocol => m.defaultGatewayIpv6

def defaultIfindex (protocol : Protocol) (m : MacosRouteMonitor) : ℕ :=
  match protocol with
  | .IPv4Protocol => m.defaultIfindexIpv4
  | .IPv6Protocol => m.defaultIfindexIpv6

def setDefault (protocol : Protocol) (gateway : List UInt8) (ifindex : ℕ) (m : MacosRouteMonitor) : MacosRouteMonitor :=
  match protocol with
  | .IPv4Protocol => { m with defaultGatewayIpv4 := gateway, defaultIfindexIpv4 := ifindex }
  | .IPv6Protocol => { m with defaultGatewayIpv6 := gateway, defaultIfindexIpv6 := ifindex }

def rtmSendRoute (action : RtmType) (p : IPAddress) (ifindex : ℕ) (gateway : Option (List UInt8))
    (m : MacosRouteMonitor) : Bool × MacosRouteMonitor :=
  let rtm := rtmAppendAddr RTA_DST (dstAddr p) ⟨action, ifindex, RTF_STATIC ||| RTF_UP, [], 0⟩
  let rtm :=
    match gateway with
    | none => rtm
    | some gateway =>
      let family := saFamily gateway
      rtmAppendAddr RTA_GATEWAY gateway
        (if family = AF_INET ∨ family = AF_INET6 then { rtm with flags := rtm.flags ||| RTF_GATEWAY } else rtm)
  let rtm := rtmAppendAddr RTA_NETMASK (netmaskAddr p) rtm
  let (error, routes) := writeRoute rtm m.routes
  (error = none ∨ (action = .RTM_ADD ∧ error = some .EEXIST) ∨ (action = .RTM_DELETE ∧ error = some .ESRCH),
    { m with routes })

/-- The request for each exclusion route of the family. -/
def sendRoutes (action : RtmType) (protocol : Protocol) (ifindex : ℕ) (gateway : Option (List UInt8))
    (m : MacosRouteMonitor) : MacosRouteMonitor :=
  (m.exclusionRoutes.filter (·.address.protocol = protocol)).foldl
    (fun m p => (m.rtmSendRoute action p ifindex gateway).2) m

/-- A route of neither family leaves the protocol uninitialized. -/
def handleRtmDelete (rtm : RtMsghdr) (payload : List UInt8) (uninitialized : Protocol) (m : MacosRouteMonitor) :
    MacosRouteMonitor :=
  let addrlist := parseAddrList payload
  if rtm.index = m.ifindex then m
  else
    match usefulAddrs rtm addrlist with
    | none => m
    | some (dst, _, netmask) =>
      if rtm.flags &&& RTF_IFSCOPE ≠ 0 then m
      else if !isDefaultMask netmask then m
      else
        match protocolOf dst with
        | some protocol => (m.setDefault protocol [] 0).sendRoutes .RTM_DELETE protocol rtm.index none
        | none => m.sendRoutes .RTM_DELETE uninitialized rtm.index none

def handleRtmUpdate (rtm : RtMsghdr) (payload : List UInt8) (m : MacosRouteMonitor) : MacosRouteMonitor :=
  let addrlist := parseAddrList payload
  match usefulAddrs rtm addrlist with
  | none => m
  | some (dst, gateway, netmask) =>
    if rtm.flags &&& RTF_IFSCOPE ≠ 0 then m
    else if rtm.index = m.ifindex then m
    else if rtm.pid = m.pid ∧ rtm.type ≠ .RTM_GET then m
    else
      match interfaceOf rtm addrlist with
      | none => m
      | some ifindex =>
        if !isDefaultMask netmask then m
        else
          match protocolOf dst with
          | none => m
          | some protocol =>
            let action := if m.defaultIfindex protocol ≠ 0 then .RTM_CHANGE else .RTM_ADD
            (m.setDefault protocol gateway ifindex).sendRoutes action protocol ifindex (some gateway)

/-- What `rtsockReady` does with one of the messages that it has read. -/
def handleMessage (msg : RoutingMessage) (uninitialized : Protocol) (m : MacosRouteMonitor) : MacosRouteMonitor :=
  match msg.rtm.type with
  | .RTM_ADD | .RTM_CHANGE | .RTM_GET => m.handleRtmUpdate msg.rtm msg.payload
  | .RTM_DELETE => m.handleRtmDelete msg.rtm msg.payload uninitialized
  | .other => m

def addExclusionRoute (p : IPAddress) (m : MacosRouteMonitor) : Bool × MacosRouteMonitor :=
  if p ∈ m.exclusionRoutes then (false, m)
  else
    let m := { m with exclusionRoutes := m.exclusionRoutes ++ [p] }
    if p.address.protocol = .IPv4Protocol ∧ m.defaultIfindexIpv4 ≠ 0 ∧ m.defaultGatewayIpv4 ≠ [] then
      m.rtmSendRoute .RTM_ADD p m.defaultIfindexIpv4 (some m.defaultGatewayIpv4)
    else if p.address.protocol = .IPv6Protocol ∧ m.defaultIfindexIpv6 ≠ 0 ∧ m.defaultGatewayIpv6 ≠ [] then
      m.rtmSendRoute .RTM_ADD p m.defaultIfindexIpv6 (some m.defaultGatewayIpv6)
    else (true, m)

def deleteExclusionRoute (p : IPAddress) (m : MacosRouteMonitor) : Bool × MacosRouteMonitor :=
  let m := { m with exclusionRoutes := m.exclusionRoutes.filter (· ≠ p) }
  match p.address.protocol with
  | .IPv4Protocol => m.rtmSendRoute .RTM_DELETE p m.defaultIfindexIpv4 none
  | .IPv6Protocol => m.rtmSendRoute .RTM_DELETE p m.defaultIfindexIpv6 none

/-- A round of the loop of `flushExclusionRoutes`, which takes the first of the exclusion routes. -/
def flushFirst (m : MacosRouteMonitor) (p : IPAddress) : MacosRouteMonitor :=
  let m := { m with exclusionRoutes := m.exclusionRoutes.drop 1 }
  match p.address.protocol with
  | .IPv4Protocol => (m.rtmSendRoute .RTM_DELETE p m.defaultIfindexIpv4 none).2
  | .IPv6Protocol => (m.rtmSendRoute .RTM_DELETE p m.defaultIfindexIpv6 none).2

def flushExclusionRoutes (m : MacosRouteMonitor) : MacosRouteMonitor := m.exclusionRoutes.foldl flushFirst m

end MacosRouteMonitor

end VpnClient.Macos
