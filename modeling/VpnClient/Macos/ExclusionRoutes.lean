import VpnClient.Library.Runs
import VpnClient.Macos.MacosRouteMonitor

/-! The exclusion routes of the kernel against the default routes that the monitor has recorded. -/

namespace VpnClient.Macos

open Address Library Library.Runs Library.Tables

/-- What the kernel knows the route to a prefix by. -/
def networkOf (p : IPAddress) : Network := ⟨masked (dstAddr p) (netmaskAddr p), netmaskAddr p⟩

lemma length_toBytes_eq (a : QHostAddress) :
    a.toBytes.length = match a.protocol with | .IPv4Protocol => 4 | .IPv6Protocol => 16 := by
  cases a <;> simp [QHostAddress.toBytes, QHostAddress.protocol]

lemma length_cidrMask (size ones : ℕ) : (cidrMask size ones).length = size := by
  induction size generalizing ones with
  | zero => rfl
  | succ size ih => rw [cidrMask, List.length_cons, ih]

lemma saLen_sockaddr (protocol : Protocol) (data : List UInt8) :
    saLen (sockaddr protocol data) =
      match protocol with | .IPv4Protocol => sizeofSockaddrIn | .IPv6Protocol => sizeofSockaddrIn6 := by
  cases protocol <;> rfl

lemma saBytes_sockaddr {a : QHostAddress} {data : List UInt8} (h : data.length = a.toBytes.length) :
    saBytes (sockaddr a.protocol data) = sockaddr a.protocol data := by
  rw [length_toBytes_eq] at h
  refine List.take_of_length_le (le_of_eq ?_)
  rw [saLen_sockaddr]
  cases hp : a.protocol <;> simp [hp] at h <;> simp [sockaddr, h, sizeofSockaddrIn, sizeofSockaddrIn6]

lemma saBytes_dstAddr (p : IPAddress) : saBytes (dstAddr p) = dstAddr p := saBytes_sockaddr rfl

lemma saBytes_netmaskAddr (p : IPAddress) : saBytes (netmaskAddr p) = netmaskAddr p :=
  saBytes_sockaddr (length_cidrMask _ _)

lemma protocol_eq_of_networkOf {p q : IPAddress} (h : networkOf p = networkOf q) :
    p.address.protocol = q.address.protocol := by
  have hl : saLen (netmaskAddr p) = saLen (netmaskAddr q) := congrArg (fun n => saLen n.netmask) h
  unfold netmaskAddr at hl
  rw [saLen_sockaddr, saLen_sockaddr] at hl
  cases hp : p.address.protocol <;> cases hq : q.address.protocol <;> rw [hp, hq] at hl <;>
    first | rfl | exact absurd hl (by decide)

lemma saLen_dstAddr (p : IPAddress) : saLen (dstAddr p) = saLen (netmaskAddr p) := by
  rw [dstAddr, netmaskAddr, saLen_sockaddr, saLen_sockaddr]

lemma saLen_netmaskAddr (p : IPAddress) : saLen (netmaskAddr p) = 16 ∨ saLen (netmaskAddr p) = 28 := by
  rw [netmaskAddr, saLen_sockaddr]
  cases p.address.protocol
  · exact .inl rfl
  · exact .inr rfl

section

variable (p : IPAddress) (action : RtmType) (index flags msglen : ℕ) (addrs : List (ℕ × List UInt8))

lemma rtmAppendAddr_dst :
    rtmAppendAddr RTA_DST (dstAddr p) ⟨action, index, flags, [], 0⟩ =
      ⟨action, index, flags, [(RTA_DST, dstAddr p)], saLen (netmaskAddr p)⟩ := by
  have hm : rtmMaxSize = 184 := rfl
  rw [rtmAppendAddr]
  rw [saLen_dstAddr, saBytes_dstAddr]
  rcases saLen_netmaskAddr p with hl | hl <;> simp [hl, hm, pad]

lemma rtmAppendAddr_gateway {gateway : List UInt8} (h : saLen gateway ≤ sizeofSockaddrStorage) :
    rtmAppendAddr RTA_GATEWAY gateway ⟨action, index, flags, addrs, saLen (netmaskAddr p)⟩ =
      ⟨action, index, flags, addrs ++ [(RTA_GATEWAY, saBytes gateway)], pad (saLen (netmaskAddr p) + saLen gateway)⟩ := by
  unfold sizeofSockaddrStorage at h
  have hm : rtmMaxSize = 184 := rfl
  exact if_neg (Nat.not_lt.mpr (by rcases saLen_netmaskAddr p with hl | hl <;> dsimp only <;> omega))

lemma rtmAppendAddr_netmask (h : msglen ≤ 156) :
    rtmAppendAddr RTA_NETMASK (netmaskAddr p) ⟨action, index, flags, addrs, msglen⟩ =
      ⟨action, index, flags, addrs ++ [(RTA_NETMASK, netmaskAddr p)], pad (msglen + saLen (netmaskAddr p))⟩ := by
  have hm : rtmMaxSize = 184 := rfl
  rw [rtmAppendAddr]
  rw [if_neg (Nat.not_lt.mpr (by rcases saLen_netmaskAddr p with hl | hl <;> dsimp only <;> omega)), saBytes_netmaskAddr]

lemma pad_le {size : ℕ} (h : size ≤ 156) : pad size ≤ 156 := by
  rw [pad]
  split <;> omega

end

lemma ne_nil_of_mem_parseAddrList {sa payload : List UInt8} (h : sa ∈ parseAddrList payload) : sa ≠ [] := by
  have hf : ∀ fuel payload, ∀ sa ∈ parseFrom fuel payload, sa ≠ [] := by
    intro fuel
    induction fuel with
    | zero => simp [parseFrom]
    | succ fuel ih =>
      intro payload sa hm
      rw [parseFrom] at hm
      split_ifs at hm with h₁ h₂
      · cases hm
      · cases hm
      · rcases List.mem_cons.mp hm with rfl | hm
        · have hp := paddedSize_pos payload
          exact List.ne_nil_of_length_pos (by rw [List.length_take]; omega)
        · exact ih _ _ hm
  exact hf _ _ _ h

lemma mem_of_usefulAddrs {rtm : RtMsghdr} {addrlist : List (List UInt8)} {dst gateway netmask : List UInt8}
    (h : usefulAddrs rtm addrlist = some (dst, gateway, netmask)) : gateway ∈ addrlist := by
  unfold usefulAddrs at h
  split at h
  · cases h
  · split at h
    · cases h
      exact .tail _ (.head _)
    · cases h

namespace MacosRouteMonitor

variable {m : MacosRouteMonitor} {p : IPAddress} {action : RtmType} {ifindex : ℕ} {gateway : List UInt8}

variable (ifindex) in
lemma rtmSendRoute_delete :
    (m.rtmSendRoute .RTM_DELETE p ifindex none).2 = { m with routes := AList.erase (networkOf p) m.routes } := by
  rw [rtmSendRoute]
  dsimp only
  rw [rtmAppendAddr_dst, rtmAppendAddr_netmask]
  · simp [writeRoute, RTA_DST, RTA_NETMASK, List.lookup_cons, networkOf]
  · rcases saLen_netmaskAddr p with hl | hl <;> omega

variable (m) (p) (action) (ifindex) in
lemma rtmSendRoute_gateway (h : saLen gateway ≤ sizeofSockaddrStorage) :
    ∃ flags msglen, (m.rtmSendRoute action p ifindex (some gateway)).2 =
      { m with
        routes := (writeRoute ⟨action, ifindex, flags,
          [(RTA_DST, dstAddr p), (RTA_GATEWAY, saBytes gateway), (RTA_NETMASK, netmaskAddr p)], msglen⟩ m.routes).2 } := by
  have hp : pad (saLen (netmaskAddr p) + saLen gateway) ≤ 156 := by
    unfold sizeofSockaddrStorage at h
    exact pad_le (by rcases saLen_netmaskAddr p with hl | hl <;> omega)
  rw [rtmSendRoute]
  dsimp only
  rw [rtmAppendAddr_dst]
  split
  · rw [rtmAppendAddr_gateway _ _ _ _ _ h, rtmAppendAddr_netmask _ _ _ _ _ _ hp]
    exact ⟨_, _, rfl⟩
  · rw [rtmAppendAddr_gateway _ _ _ _ _ h, rtmAppendAddr_netmask _ _ _ _ _ _ hp]
    exact ⟨_, _, rfl⟩

lemma rtmSendRoute_add (h : saLen gateway ≤ sizeofSockaddrStorage) :
    (m.rtmSendRoute .RTM_ADD p ifindex (some gateway)).2 =
      { m with routes := add (networkOf p) ⟨ifindex, saBytes gateway⟩ m.routes } := by
  obtain ⟨flags, msglen, he⟩ := rtmSendRoute_gateway m p .RTM_ADD ifindex h
  rw [he]
  simp [writeRoute, RTA_DST, RTA_GATEWAY, RTA_NETMASK, List.lookup_cons, networkOf]

lemma rtmSendRoute_change (h : saLen gateway ≤ sizeofSockaddrStorage) :
    (m.rtmSendRoute .RTM_CHANGE p ifindex (some gateway)).2 =
      { m with routes := change (networkOf p) ⟨ifindex, saBytes gateway⟩ m.routes } := by
  obtain ⟨flags, msglen, he⟩ := rtmSendRoute_gateway m p .RTM_CHANGE ifindex h
  rw [he]
  simp [writeRoute, RTA_DST, RTA_GATEWAY, RTA_NETMASK, List.lookup_cons, networkOf]

/-- The networks of the exclusion routes of a family. -/
def networks (protocol : Protocol) (m : MacosRouteMonitor) : List Network :=
  (m.exclusionRoutes.filter (·.address.protocol = protocol)).map networkOf

variable {protocol : Protocol} {network : Network}

lemma mem_networks : network ∈ m.networks protocol ↔
    ∃ p ∈ m.exclusionRoutes, p.address.protocol = protocol ∧ networkOf p = network := by
  simp only [networks, List.mem_map, List.mem_filter, decide_eq_true_eq, and_assoc]

lemma protocol_eq_of_mem_networks {other : Protocol} (h : network ∈ m.networks protocol)
    (ho : network ∈ m.networks other) : protocol = other := by
  obtain ⟨p, -, rfl, hp⟩ := mem_networks.mp h
  obtain ⟨q, -, rfl, hq⟩ := mem_networks.mp ho
  exact protocol_eq_of_networkOf (hp.trans hq.symm)

lemma sendRoutes_eq {gateway : Option (List UInt8)} {request : Network → Routes → Routes}
    (h : ∀ (m : MacosRouteMonitor) p,
      (m.rtmSendRoute action p ifindex gateway).2 = { m with routes := request (networkOf p) m.routes }) :
    m.sendRoutes action protocol ifindex gateway =
      { m with routes := (m.networks protocol).foldl (fun t k => request k t) m.routes } := by
  rw [sendRoutes, networks]
  generalize m.exclusionRoutes.filter (·.address.protocol = protocol) = prefixes
  induction prefixes generalizing m with
  | nil => rfl
  | cons p prefixes ih => rw [List.foldl_cons, ih, h, List.map_cons, List.foldl_cons]

/-- The default route that is recorded, if one is. -/
def recorded (protocol : Protocol) (m : MacosRouteMonitor) : Option Hop :=
  if m.defaultIfindex protocol ≠ 0 ∧ m.defaultGateway protocol ≠ [] then
    some ⟨m.defaultIfindex protocol, saBytes (m.defaultGateway protocol)⟩
  else none

/-- The recorded interface is never that of the tunnel, and the routes of the kernel are those of the excluded prefixes
through what is recorded for their family, if anything is. -/
structure Exact (m : MacosRouteMonitor) : Prop where
  tunnel : ∀ protocol, m.defaultIfindex protocol = m.ifindex → m.ifindex = 0
  installed : ∀ protocol, ∀ network ∈ m.networks protocol, m.routes.lookup network = m.recorded protocol
  others : ∀ network, (∀ protocol, network ∉ m.networks protocol) → m.routes.lookup network = none

inductive Event where
  | message (msg : RoutingMessage) (uninitialized : Protocol)
  | addExclusionRoute (p : IPAddress)
  | deleteExclusionRoute (p : IPAddress)
  | flushExclusionRoutes

def step (m : MacosRouteMonitor) : Event → MacosRouteMonitor
  | .message msg uninitialized => m.handleMessage msg uninitialized
  | .addExclusionRoute p => (m.addExclusionRoute p).2
  | .deleteExclusionRoute p => (m.deleteExclusionRoute p).2
  | .flushExclusionRoutes => m.flushExclusionRoutes

/-- The default route that a message says is deleted. -/
def deletedDefault (msg : RoutingMessage) : Option (Protocol × Hop) :=
  match msg.rtm.type, usefulAddrs msg.rtm (parseAddrList msg.payload) with
  | .RTM_DELETE, some (dst, gateway, netmask) =>
    if isDefaultMask netmask then
      (protocolOf dst).map fun protocol =>
        (protocol, ⟨(interfaceOf msg.rtm (parseAddrList msg.payload)).getD msg.rtm.index, saBytes gateway⟩)
    else none
  | _, _ => none

/-- After the step everything is exact, and if it is the deletion of a default route other than the recorded one, then
what is recorded and the routes are as before. -/
def Sound (m : MacosRouteMonitor) (e : Event) : Prop :=
  (m.step e).Exact ∧ ∀ msg uninitialized, e = .message msg uninitialized → ∀ d ∈ deletedDefault msg,
    m.recorded d.1 ≠ some d.2 →
      (∀ protocol, (m.step e).recorded protocol = m.recorded protocol) ∧
        ∀ network, (m.step e).routes.lookup network = m.routes.lookup network

/-- The destination of the default route whose deletion `handleRtmDelete` acts on. -/
def lostDefault (m : MacosRouteMonitor) (msg : RoutingMessage) : Option (List UInt8) :=
  match usefulAddrs msg.rtm (parseAddrList msg.payload) with
  | none => none
  | some (dst, _, netmask) =>
    if msg.rtm.index = m.ifindex ∨ msg.rtm.flags &&& RTF_IFSCOPE ≠ 0 ∨ isDefaultMask netmask = false then none
    else some dst

/-- The default route that `handleRtmUpdate` takes up: its family, its gateway and its interface. -/
def updatedDefault (m : MacosRouteMonitor) (msg : RoutingMessage) : Option (Protocol × List UInt8 × ℕ) :=
  match usefulAddrs msg.rtm (parseAddrList msg.payload) with
  | none => none
  | some (dst, gateway, netmask) =>
    if msg.rtm.flags &&& RTF_IFSCOPE ≠ 0 ∨ msg.rtm.index = m.ifindex ∨
      (msg.rtm.pid = m.pid ∧ msg.rtm.type ≠ .RTM_GET) ∨ isDefaultMask netmask = false then none
    else
      (interfaceOf msg.rtm (parseAddrList msg.payload)).bind fun ifindex =>
        (protocolOf dst).map fun protocol => (protocol, gateway, ifindex)

/-- The condition on a step. A deletion that is acted on is that of the recorded default route, or nothing is recorded;
one of neither family finds nothing to delete by chance. An update is not through the tunnel, nor through no interface
while there are exclusions. No two exclusions are for the network of one that is deleted. -/
def Undisturbed (m : MacosRouteMonitor) : Event → Prop
  | .message msg uninitialized =>
    match msg.rtm.type with
    | .RTM_DELETE => ∀ dst ∈ m.lostDefault msg,
      match deletedDefault msg with
      | some d => m.recorded d.1 = none ∨ m.recorded d.1 = some d.2
      | none => m.recorded uninitialized = none ∨ m.networks uninitialized = []
    | .RTM_ADD | .RTM_CHANGE | .RTM_GET => ∀ d ∈ m.updatedDefault msg,
      (d.2.2 = m.ifindex → m.ifindex = 0) ∧ (d.2.2 = 0 → m.networks d.1 = [])
    | .other => True
  | .deleteExclusionRoute p =>
    m.recorded p.address.protocol = none ∨ ∀ q ∈ m.exclusionRoutes, networkOf q = networkOf p → q = p
  | .addExclusionRoute _ | .flushExclusionRoutes => True

/-- What a run keeps. -/
structure Inv (m : MacosRouteMonitor) : Prop where
  exact : m.Exact
  gateway : ∀ protocol, m.defaultIfindex protocol ≠ 0 → m.defaultGateway protocol ≠ []
  wellFormed : ∀ protocol, saLen (m.defaultGateway protocol) ≤ sizeofSockaddrStorage

variable {other : Protocol} {msg : RoutingMessage} {uninitialized : Protocol} {dst : List UInt8}

lemma handleRtmDelete_of_none (h : m.lostDefault msg = none) :
    m.handleRtmDelete msg.rtm msg.payload uninitialized = m := by
  unfold lostDefault at h
  unfold handleRtmDelete
  dsimp only
  split
  · rfl
  · next hi =>
    split
    · rfl
    · next dst gateway netmask hu =>
      simp only [hu] at h
      split_ifs at h ⊢ with h₁ h₂ h₃
      · rfl
      · rfl
      · simp_all

lemma useful_of_lost (h : m.lostDefault msg = some dst) : ∃ gateway netmask,
    usefulAddrs msg.rtm (parseAddrList msg.payload) = some (dst, gateway, netmask) ∧
      ¬msg.rtm.index = m.ifindex ∧ ¬msg.rtm.flags &&& RTF_IFSCOPE ≠ 0 ∧ isDefaultMask netmask = true := by
  unfold lostDefault at h
  cases hu : usefulAddrs msg.rtm (parseAddrList msg.payload) with
  | none => simp [hu] at h
  | some d =>
    obtain ⟨dst', gateway, netmask⟩ := d
    simp only [hu] at h
    split at h
    · cases h
    · next hn =>
      obtain rfl := Option.some.inj h
      exact ⟨gateway, netmask, rfl, by simpa using hn⟩

lemma handleRtmDelete_of_protocol (h : m.lostDefault msg = some dst) (hp : protocolOf dst = some protocol) :
    m.handleRtmDelete msg.rtm msg.payload uninitialized =
      (m.setDefault protocol [] 0).sendRoutes .RTM_DELETE protocol msg.rtm.index none := by
  obtain ⟨gateway, netmask, hu, hi, hf, hd⟩ := useful_of_lost h
  unfold handleRtmDelete
  dsimp only
  rw [hu]
  dsimp only
  rw [if_neg hi, if_neg hf, if_neg (by simp [hd]), hp]

lemma handleRtmDelete_of_stray (h : m.lostDefault msg = some dst) (hp : protocolOf dst = none) :
    m.handleRtmDelete msg.rtm msg.payload uninitialized =
      m.sendRoutes .RTM_DELETE uninitialized msg.rtm.index none := by
  obtain ⟨gateway, netmask, hu, hi, hf, hd⟩ := useful_of_lost h
  unfold handleRtmDelete
  dsimp only
  rw [hu]
  dsimp only
  rw [if_neg hi, if_neg hf, if_neg (by simp [hd]), hp]

lemma handleRtmUpdate_of_none (h : m.updatedDefault msg = none) : m.handleRtmUpdate msg.rtm msg.payload = m := by
  unfold updatedDefault at h
  rw [handleRtmUpdate]
  dsimp only
  cases hu : usefulAddrs msg.rtm (parseAddrList msg.payload) with
  | none => rfl
  | some d =>
    obtain ⟨dst, gateway, netmask⟩ := d
    simp only [hu] at h ⊢
    by_cases h₁ : msg.rtm.flags &&& RTF_IFSCOPE ≠ 0
    · rw [if_pos h₁]
    by_cases h₂ : msg.rtm.index = m.ifindex
    · rw [if_neg h₁, if_pos h₂]
    by_cases h₃ : msg.rtm.pid = m.pid ∧ msg.rtm.type ≠ .RTM_GET
    · rw [if_neg h₁, if_neg h₂, if_pos h₃]
    rw [if_neg h₁, if_neg h₂, if_neg h₃]
    cases hi : interfaceOf msg.rtm (parseAddrList msg.payload) with
    | none => rfl
    | some ifindex =>
      cases hm : isDefaultMask netmask with
      | false => rfl
      | true =>
        cases hp : protocolOf dst with
        | none => rfl
        | some protocol =>
          rw [if_neg (not_or.mpr ⟨h₁, not_or.mpr ⟨h₂, not_or.mpr ⟨h₃, by simp [hm]⟩⟩⟩), hi, hp] at h
          cases h

lemma useful_of_updated (h : m.updatedDefault msg = some (protocol, gateway, ifindex)) : ∃ dst netmask,
    usefulAddrs msg.rtm (parseAddrList msg.payload) = some (dst, gateway, netmask) ∧
      ¬msg.rtm.flags &&& RTF_IFSCOPE ≠ 0 ∧ ¬msg.rtm.index = m.ifindex ∧
      ¬(msg.rtm.pid = m.pid ∧ msg.rtm.type ≠ .RTM_GET) ∧ isDefaultMask netmask = true ∧
      interfaceOf msg.rtm (parseAddrList msg.payload) = some ifindex ∧ protocolOf dst = some protocol := by
  unfold updatedDefault at h
  cases hu : usefulAddrs msg.rtm (parseAddrList msg.payload) with
  | none => simp [hu] at h
  | some d =>
    obtain ⟨dst, gateway', netmask⟩ := d
    simp only [hu] at h
    split at h
    · cases h
    · next hn =>
      obtain ⟨h₁, h₂, h₃, h₄⟩ : ¬msg.rtm.flags &&& RTF_IFSCOPE ≠ 0 ∧ ¬msg.rtm.index = m.ifindex ∧
          ¬(msg.rtm.pid = m.pid ∧ msg.rtm.type ≠ .RTM_GET) ∧ ¬isDefaultMask netmask = false := by
        simpa only [not_or] using hn
      obtain ⟨i, hi, hp⟩ := Option.bind_eq_some_iff.mp h
      obtain ⟨p, hpd, he⟩ := Option.map_eq_some_iff.mp hp
      obtain ⟨rfl, rfl, rfl⟩ : p = protocol ∧ gateway' = gateway ∧ i = ifindex := by simpa using he
      exact ⟨dst, netmask, rfl, h₁, h₂, h₃, by simpa using h₄, hi, hpd⟩

lemma handleRtmUpdate_of_some (h : m.updatedDefault msg = some (protocol, gateway, ifindex)) :
    m.handleRtmUpdate msg.rtm msg.payload =
      (m.setDefault protocol gateway ifindex).sendRoutes
        (if m.defaultIfindex protocol ≠ 0 then .RTM_CHANGE else .RTM_ADD) protocol ifindex (some gateway) := by
  obtain ⟨dst, netmask, hu, h₁, h₂, h₃, h₄, hi, hp⟩ := useful_of_updated h
  unfold handleRtmUpdate
  dsimp only
  rw [hu]
  dsimp only
  rw [if_neg h₁, if_neg h₂, if_neg h₃, hi]
  dsimp only
  rw [if_neg (by simp [h₄]), hp]

lemma gateway_of_updatedDefault (h : m.updatedDefault msg = some (protocol, gateway, ifindex)) :
    gateway ≠ [] ∧ saLen gateway ≤ sizeofSockaddrStorage := by
  obtain ⟨dst, netmask, hu, -⟩ := useful_of_updated h
  have hm := mem_of_usefulAddrs hu
  refine ⟨ne_nil_of_mem_parseAddrList hm, (msg.wellFormed gateway hm).trans ?_⟩
  split_ifs <;> decide

section

variable (m) (ifindex) (gateway) (protocol) (other)

lemma defaultIfindex_setDefault : (m.setDefault protocol gateway ifindex).defaultIfindex other =
    if other = protocol then ifindex else m.defaultIfindex other := by
  cases protocol <;> cases other <;> rfl

lemma defaultGateway_setDefault : (m.setDefault protocol gateway ifindex).defaultGateway other =
    if other = protocol then gateway else m.defaultGateway other := by
  cases protocol <;> cases other <;> rfl

lemma networks_setDefault : (m.setDefault protocol gateway ifindex).networks other = m.networks other := by
  cases protocol <;> rfl

lemma routes_setDefault : (m.setDefault protocol gateway ifindex).routes = m.routes := by
  cases protocol <;> rfl

lemma ifindex_setDefault : (m.setDefault protocol gateway ifindex).ifindex = m.ifindex := by
  cases protocol <;> rfl

end

variable {m' : MacosRouteMonitor} {hop : Option Hop}

/-- The exclusion routes of a family are all changed or all deleted, with what is recorded for the family. -/
structure Redirected (m m' : MacosRouteMonitor) (protocol : Protocol) (gateway : List UInt8) (ifindex : ℕ)
    (hop : Option Hop) : Prop where
  ifindex_eq : m'.ifindex = m.ifindex
  networks : ∀ other, m'.networks other = m.networks other
  defaultIfindex : ∀ other, m'.defaultIfindex other = if other = protocol then ifindex else m.defaultIfindex other
  defaultGateway : ∀ other, m'.defaultGateway other = if other = protocol then gateway else m.defaultGateway other
  lookup : ∀ network, m'.routes.lookup network =
    if network ∈ m.networks protocol then hop else m.routes.lookup network

lemma Redirected.recorded_of_ne (hr : Redirected m m' protocol gateway ifindex hop) (h : other ≠ protocol) :
    m'.recorded other = m.recorded other := by
  rw [recorded, hr.defaultIfindex, hr.defaultGateway, if_neg h, if_neg h, recorded]

lemma Redirected.recorded_self (hr : Redirected m m' protocol gateway ifindex hop) :
    m'.recorded protocol = if ifindex ≠ 0 ∧ gateway ≠ [] then some ⟨ifindex, saBytes gateway⟩ else none := by
  rw [recorded, hr.defaultIfindex, hr.defaultGateway, if_pos rfl, if_pos rfl]

lemma Redirected.exact_iff (hr : Redirected m m' protocol gateway ifindex hop) (h : m.Exact) :
    m'.Exact ↔ (ifindex = m.ifindex → m.ifindex = 0) ∧ (hop = m'.recorded protocol ∨ m.networks protocol = []) := by
  constructor
  · intro hx
    constructor
    · intro ht
      exact hr.ifindex_eq ▸ hx.tunnel protocol (by rw [hr.defaultIfindex, if_pos rfl, hr.ifindex_eq, ht])
    · refine or_iff_not_imp_right.mpr fun hn => ?_
      obtain ⟨network, hm⟩ := List.exists_mem_of_ne_nil _ hn
      have hk := hx.installed protocol network ((hr.networks protocol).symm ▸ hm)
      rwa [hr.lookup, if_pos hm] at hk
  · rintro ⟨ht, hh⟩
    refine ⟨fun other => ?_, fun other network hm => ?_, fun network hm => ?_⟩
    · rw [hr.defaultIfindex, hr.ifindex_eq]
      split
      · exact ht
      · exact h.tunnel other
    · rw [hr.networks] at hm
      rw [hr.lookup]
      split
      · next hp =>
        rw [← protocol_eq_of_mem_networks hp hm]
        exact hh.resolve_right (List.ne_nil_of_mem hp)
      · next hp =>
        rw [hr.recorded_of_ne fun he => hp (he ▸ hm), h.installed other network hm]
    · rw [hr.lookup, if_neg (hr.networks protocol ▸ hm protocol)]
      exact h.others network fun other => hr.networks other ▸ hm other

lemma Redirected.inv (hr : Redirected m m' protocol gateway ifindex hop) (h : m.Inv) (he : m'.Exact)
    (hg : ifindex ≠ 0 → gateway ≠ []) (hl : saLen gateway ≤ sizeofSockaddrStorage) : m'.Inv where
  exact := he
  gateway other := by
    rw [hr.defaultIfindex, hr.defaultGateway]
    split
    · exact hg
    · exact h.gateway other
  wellFormed other := by
    rw [hr.defaultGateway]
    split
    · exact hl
    · exact h.wellFormed other

lemma Inv.recorded_eq_none_iff (h : m.Inv) : m.recorded protocol = none ↔ m.defaultIfindex protocol = 0 := by
  rw [recorded]
  split
  · next hr => simp [hr.1]
  · next hr =>
    have hg := h.gateway protocol
    exact iff_of_true rfl (by_contra fun hi => hr ⟨hi, hg hi⟩)

variable (m) (ifindex) (gateway) (protocol) in
lemma redirected_setDefault {requested : Option (List UInt8)} {index : ℕ} (request : Network → Routes → Routes)
    (he : ∀ (m : MacosRouteMonitor) p,
      (m.rtmSendRoute action p index requested).2 = { m with routes := request (networkOf p) m.routes })
    (hl : ∀ network, ((m.networks protocol).foldl (fun t k => request k t) m.routes).lookup network =
      if network ∈ m.networks protocol then hop else m.routes.lookup network) :
    Redirected m ((m.setDefault protocol gateway ifindex).sendRoutes action protocol index requested) protocol gateway
      ifindex hop := by
  rw [sendRoutes_eq he]
  refine ⟨ifindex_setDefault .., networks_setDefault m ifindex gateway protocol,
    defaultIfindex_setDefault m ifindex gateway protocol, defaultGateway_setDefault m ifindex gateway protocol, ?_⟩
  rw [networks_setDefault, routes_setDefault]
  exact hl

lemma Inv.redirected_updated (h : m.Inv) (hu : m.updatedDefault msg = some (protocol, gateway, ifindex)) :
    Redirected m (m.handleRtmUpdate msg.rtm msg.payload) protocol gateway ifindex
      (some ⟨ifindex, saBytes gateway⟩) := by
  obtain ⟨-, hg⟩ := gateway_of_updatedDefault hu
  rw [handleRtmUpdate_of_some hu]
  by_cases hi : m.defaultIfindex protocol = 0
  · rw [if_neg (not_not.mpr hi)]
    refine redirected_setDefault m ifindex gateway protocol (add · _) (fun _ _ => rtmSendRoute_add hg) fun network => ?_
    rw [lookup_foldl_add]
    refine if_ctx_congr Iff.rfl (fun hm => ?_) fun _ => rfl
    rw [h.exact.installed protocol network hm, h.recorded_eq_none_iff.mpr hi, Option.getD_none]
  · rw [if_pos hi]
    refine redirected_setDefault m ifindex gateway protocol (change · _) (fun _ _ => rtmSendRoute_change hg) fun network => ?_
    rw [lookup_foldl_change]
    refine if_ctx_congr Iff.rfl (fun hm => ?_) fun _ => rfl
    obtain ⟨hop, ho⟩ := Option.ne_none_iff_exists'.mp (mt h.recorded_eq_none_iff.mp hi)
    rw [h.exact.installed protocol network hm, ho, Option.map_some]

variable (m) (protocol) in
lemma redirected_deleted (index : ℕ) : Redirected m
    ((m.setDefault protocol [] 0).sendRoutes .RTM_DELETE protocol index none) protocol [] 0 none :=
  redirected_setDefault m 0 [] protocol AList.erase (fun _ _ => rtmSendRoute_delete index) fun _ => lookup_foldl_erase

lemma setDefault_self : m.setDefault protocol (m.defaultGateway protocol) (m.defaultIfindex protocol) = m := by
  cases protocol <;> rfl

variable (m) (protocol) in
lemma redirected_stray (index : ℕ) : Redirected m (m.sendRoutes .RTM_DELETE protocol index none) protocol
    (m.defaultGateway protocol) (m.defaultIfindex protocol) none := by
  have hr := redirected_setDefault m (m.defaultIfindex protocol) (m.defaultGateway protocol) protocol AList.erase
    (fun _ _ => rtmSendRoute_delete index) fun _ => lookup_foldl_erase
  rwa [setDefault_self] at hr

lemma deletedDefault_eq (ht : msg.rtm.type = .RTM_DELETE) (hl : m.lostDefault msg = some dst) : ∃ hop,
    deletedDefault msg = (protocolOf dst).map fun protocol => (protocol, hop) := by
  unfold lostDefault at hl
  rw [deletedDefault]
  cases hu : usefulAddrs msg.rtm (parseAddrList msg.payload) with
  | none => simp [hu] at hl
  | some d =>
    obtain ⟨dst', gateway, netmask⟩ := d
    simp only [hu] at hl
    split at hl
    · cases hl
    · next hn =>
      obtain rfl := Option.some.inj hl
      have hm : isDefaultMask netmask = true := by simpa using fun hf => hn (.inr (.inr hf))
      simp only [ht, hm, if_true]
      exact ⟨_, rfl⟩

/-- What a step is shown to do: it keeps the invariant if it is sound, and is sound if it meets the condition. -/
def Follows (m : MacosRouteMonitor) (e : Event) : Prop :=
  (m.Sound e → (m.step e).Inv) ∧ (m.Sound e ↔ m.Undisturbed e)

lemma Inv.follows_of_eq {e : Event} (h : m.Inv) (hs : m.step e = m) (hu : m.Undisturbed e) : m.Follows e := by
  refine ⟨fun _ => hs.symm ▸ h, iff_of_true ⟨hs.symm ▸ h.exact, fun _ _ _ _ _ _ => ?_⟩ hu⟩
  rw [hs]
  exact ⟨fun _ => rfl, fun _ => rfl⟩

lemma Inv.follows_update (h : m.Inv) (ht : msg.rtm.type ≠ .RTM_DELETE) (ho : msg.rtm.type ≠ .other) :
    m.Follows (.message msg uninitialized) := by
  have hs : m.step (.message msg uninitialized) = m.handleRtmUpdate msg.rtm msg.payload := by
    rw [step, handleMessage]
    cases hm : msg.rtm.type <;> simp_all
  have hc : m.Undisturbed (.message msg uninitialized) ↔ ∀ d ∈ m.updatedDefault msg,
      (d.2.2 = m.ifindex → m.ifindex = 0) ∧ (d.2.2 = 0 → m.networks d.1 = []) := by
    rw [Undisturbed]
    cases hm : msg.rtm.type <;> simp_all
  have hd : deletedDefault msg = none := by
    rw [deletedDefault]
    cases hm : msg.rtm.type <;> simp_all
  cases hu : m.updatedDefault msg with
  | none =>
    refine h.follows_of_eq ?_ (hc.mpr (by simp [hu]))
    rw [hs, handleRtmUpdate_of_none hu]
  | some d =>
    obtain ⟨protocol, gateway, ifindex⟩ := d
    obtain ⟨hne, hg⟩ := gateway_of_updatedDefault hu
    have hr := h.redirected_updated hu
    have he := hr.exact_iff h.exact
    rw [hr.recorded_self] at he
    have hx : m.Sound (.message msg uninitialized) ↔ (m.handleRtmUpdate msg.rtm msg.payload).Exact := by
      refine ⟨fun hx => hs ▸ hx.1, fun hx => ⟨hs.symm ▸ hx, fun msg' u' hm => ?_⟩⟩
      obtain ⟨rfl, rfl⟩ := Event.message.inj hm
      simp [hd]
    refine ⟨fun hx' => hs.symm ▸ hr.inv h (hx.mp hx') (fun _ => hne) hg, hx.trans (he.trans ?_)⟩
    simp only [hc, hu, Option.mem_some_iff, forall_eq', hne, and_true, ne_eq, not_false_eq_true]
    refine and_congr_right fun _ => ?_
    by_cases h₀ : ifindex = 0 <;> simp [h₀]

lemma Inv.follows_delete (h : m.Inv) (ht : msg.rtm.type = .RTM_DELETE) :
    m.Follows (.message msg uninitialized) := by
  have hs : m.step (.message msg uninitialized) = m.handleRtmDelete msg.rtm msg.payload uninitialized := by
    simp [step, handleMessage, ht]
  have hc : m.Undisturbed (.message msg uninitialized) ↔ ∀ dst ∈ m.lostDefault msg,
      match deletedDefault msg with
      | some d => m.recorded d.1 = none ∨ m.recorded d.1 = some d.2
      | none => m.recorded uninitialized = none ∨ m.networks uninitialized = [] := by
    simp [Undisturbed, ht]
  cases hl : m.lostDefault msg with
  | none => exact h.follows_of_eq (hs.trans (handleRtmDelete_of_none hl)) (hc.mpr (by simp [hl]))
  | some dst =>
    obtain ⟨hop, hd⟩ := deletedDefault_eq ht hl
    cases hp : protocolOf dst with
    | none =>
      rw [handleRtmDelete_of_stray hl hp] at hs
      rw [hp] at hd
      have hr := redirected_stray m uninitialized msg.rtm.index
      rw [← hs] at hr
      have he := hr.exact_iff h.exact
      have hx : m.Sound (.message msg uninitialized) ↔ (m.step (.message msg uninitialized)).Exact := by
        refine ⟨And.left, fun hx => ⟨hx, fun msg' u' hm => ?_⟩⟩
        obtain ⟨rfl, rfl⟩ := Event.message.inj hm
        simp [hd]
      refine ⟨fun hx' => hr.inv h hx'.1 (h.gateway _) (h.wellFormed _), hx.trans (he.trans ?_)⟩
      have hrec : (m.step (.message msg uninitialized)).recorded uninitialized = m.recorded uninitialized :=
        hr.recorded_self
      simp only [hc, hl, hd, Option.map_none, Option.mem_some_iff, forall_eq']
      rw [hrec]
      exact (and_iff_right (h.exact.tunnel uninitialized)).trans (or_congr_left eq_comm)
    | some protocol =>
      rw [handleRtmDelete_of_protocol hl hp] at hs
      rw [hp] at hd
      have hr := redirected_deleted m protocol msg.rtm.index
      rw [← hs] at hr
      have he : (m.step (.message msg uninitialized)).Exact := by
        refine (hr.exact_iff h.exact).mpr ⟨fun h₀ => h₀.symm, .inl ?_⟩
        rw [hr.recorded_self]
        rfl
      refine ⟨fun _ => hr.inv h he (fun h₀ => absurd rfl h₀) (by decide), ?_⟩
      have hrec : (m.step (.message msg uninitialized)).recorded protocol = none := hr.recorded_self
      simp only [hc, hl, hd, Option.map_some, Option.mem_some_iff, forall_eq']
      constructor
      · intro hx
        refine or_iff_not_imp_right.mpr fun hn => ?_
        have hk := hx.2 msg uninitialized rfl (protocol, hop) hd hn
        exact (hk.1 protocol).symm.trans hrec
      · intro hor
        refine ⟨he, fun msg' u' hm d hd' hn => ?_⟩
        obtain ⟨rfl, rfl⟩ := Event.message.inj hm
        obtain rfl : (protocol, hop) = d := Option.some.inj (hd.symm.trans hd')
        have h₀ : m.recorded protocol = none := hor.resolve_right hn
        constructor
        · intro other
          by_cases ho : other = protocol
          · rw [ho, hrec, h₀]
          · exact hr.recorded_of_ne ho
        · intro network
          rw [hr.lookup]
          split
          · next hm => rw [h.exact.installed protocol network hm, h₀]
          · rfl

lemma Inv.of_frame (h : m.Inv) (he : m'.Exact) (hi : ∀ other, m'.defaultIfindex other = m.defaultIfindex other)
    (hg : ∀ other, m'.defaultGateway other = m.defaultGateway other) : m'.Inv where
  exact := he
  gateway other := by
    rw [hi, hg]
    exact h.gateway other
  wellFormed other := by
    rw [hg]
    exact h.wellFormed other

variable (p) in
lemma addExclusionRoute_eq (h : m.Inv) (hp : p ∉ m.exclusionRoutes) : (m.addExclusionRoute p).2 =
    { m with
      exclusionRoutes := m.exclusionRoutes ++ [p]
      routes := match m.recorded p.address.protocol with
        | none => m.routes
        | some hop => add (networkOf p) hop m.routes } := by
  have hg := h.wellFormed p.address.protocol
  rw [addExclusionRoute]
  rw [if_neg hp]
  rw [recorded]
  cases hp : p.address.protocol with
  | IPv4Protocol =>
    rw [hp] at hg
    simp only [defaultGateway, defaultIfindex] at hg ⊢
    by_cases hc : m.defaultIfindexIpv4 ≠ 0 ∧ m.defaultGatewayIpv4 ≠ []
    · simp [hc, rtmSendRoute_add hg]
    · simp [hc]
  | IPv6Protocol =>
    rw [hp] at hg
    simp only [defaultGateway, defaultIfindex] at hg ⊢
    by_cases hc : m.defaultIfindexIpv6 ≠ 0 ∧ m.defaultGatewayIpv6 ≠ []
    · simp [hc, rtmSendRoute_add hg]
    · simp [hc]

variable (p) in
lemma Exact.lookup_networkOf (h : m.Exact) : m.routes.lookup (networkOf p) = m.recorded p.address.protocol ∨
    m.routes.lookup (networkOf p) = none := by
  by_cases hm : ∃ other, networkOf p ∈ m.networks other
  · obtain ⟨other, hm⟩ := hm
    obtain ⟨q, -, rfl, hq⟩ := mem_networks.mp hm
    rw [protocol_eq_of_networkOf hq] at hm
    exact .inl (h.installed _ _ hm)
  · exact .inr (h.others _ (not_exists.mp hm))

variable (p) in
lemma Inv.exact_addExclusionRoute (h : m.Inv) (hp : p ∉ m.exclusionRoutes) : (m.addExclusionRoute p).2.Exact := by
  have hl (network : Network) : (m.addExclusionRoute p).2.routes.lookup network =
      if network = networkOf p then m.recorded p.address.protocol else m.routes.lookup network := by
    have hk := h.exact.lookup_networkOf p
    rw [addExclusionRoute_eq p h hp]
    cases ho : m.recorded p.address.protocol with
    | none =>
      rw [ho, or_self] at hk
      dsimp only
      by_cases he : network = networkOf p
      · rw [if_pos he, he, hk]
      · rw [if_neg he]
    | some hop =>
      rw [ho] at hk
      refine lookup_add.trans (if_congr Iff.rfl ?_ rfl)
      rcases hk with hk | hk <;> rw [hk] <;> rfl
  have hr (other) : (m.addExclusionRoute p).2.recorded other = m.recorded other := by
    rw [addExclusionRoute_eq p h hp]
    cases other <;> rfl
  have hn (other network) : network ∈ (m.addExclusionRoute p).2.networks other ↔
      network ∈ m.networks other ∨ (p.address.protocol = other ∧ networkOf p = network) := by
    rw [addExclusionRoute_eq p h hp]
    simp [mem_networks, or_and_right, exists_or]
  refine ⟨fun other => ?_, fun other network hm => ?_, fun network hm => ?_⟩
  · rw [addExclusionRoute_eq p h hp]
    have ht := h.exact.tunnel other
    cases other <;> exact ht
  · rw [hl, hr]
    split
    · next he =>
      rcases (hn other network).mp hm with hm | ⟨rfl, -⟩
      · obtain ⟨q, -, rfl, hq⟩ := mem_networks.mp hm
        rw [protocol_eq_of_networkOf (hq.trans he)]
      · rfl
    · next he =>
      exact h.exact.installed other network (((hn other network).mp hm).resolve_right fun hc => he hc.2.symm)
  · rw [hl, if_neg fun he => hm _ ((hn _ network).mpr (.inr ⟨rfl, he.symm⟩))]
    exact h.exact.others network fun other hk => hm other ((hn other network).mpr (.inl hk))

lemma Inv.follows_addExclusionRoute (h : m.Inv) : m.Follows (.addExclusionRoute p) := by
  by_cases hp : p ∈ m.exclusionRoutes
  · exact h.follows_of_eq (by simp [step, addExclusionRoute, hp]) trivial
  · have he : (m.step (.addExclusionRoute p)).Exact := h.exact_addExclusionRoute p hp
    refine ⟨fun _ => h.of_frame he (fun other => ?_) fun other => ?_, iff_of_true ⟨he, by simp⟩ trivial⟩
    · simp only [step, addExclusionRoute_eq p h hp]
      cases other <;> rfl
    · simp only [step, addExclusionRoute_eq p h hp]
      cases other <;> rfl

lemma deleteExclusionRoute_eq : (m.deleteExclusionRoute p).2 =
    { m with
      exclusionRoutes := m.exclusionRoutes.filter (· ≠ p)
      routes := AList.erase (networkOf p) m.routes } := by
  rw [deleteExclusionRoute]
  cases hp : p.address.protocol <;> simp [rtmSendRoute_delete]

lemma Inv.exact_deleteExclusionRoute_iff (h : m.Inv) : (m.deleteExclusionRoute p).2.Exact ↔
    m.recorded p.address.protocol = none ∨ ∀ q ∈ m.exclusionRoutes, networkOf q = networkOf p → q = p := by
  have hl (network : Network) : (m.deleteExclusionRoute p).2.routes.lookup network =
      if network = networkOf p then none else m.routes.lookup network := by
    rw [deleteExclusionRoute_eq]
    exact lookup_erase
  have hr (other) : (m.deleteExclusionRoute p).2.recorded other = m.recorded other := by
    rw [deleteExclusionRoute_eq]
    cases other <;> rfl
  have hn (other network) : network ∈ (m.deleteExclusionRoute p).2.networks other ↔
      ∃ q ∈ m.exclusionRoutes, q ≠ p ∧ q.address.protocol = other ∧ networkOf q = network := by
    rw [deleteExclusionRoute_eq]
    simp [mem_networks, and_assoc]
  constructor
  · intro hx
    refine or_iff_not_imp_left.mpr fun ho q hq he => by_contra fun hne => ho ?_
    have hk := hx.installed p.address.protocol (networkOf p)
      ((hn _ _).mpr ⟨q, hq, hne, protocol_eq_of_networkOf he, he⟩)
    rw [hl, if_pos rfl, hr] at hk
    exact hk.symm
  · intro hor
    refine ⟨fun other => ?_, fun other network hm => ?_, fun network hm => ?_⟩
    · rw [deleteExclusionRoute_eq]
      have ht := h.exact.tunnel other
      cases other <;> exact ht
    · obtain ⟨q, hq, hne, rfl, rfl⟩ := (hn other network).mp hm
      rw [hl, hr]
      split
      · next he =>
        rw [protocol_eq_of_networkOf he]
        exact (hor.resolve_right fun hc => hne (hc q hq he)).symm
      · exact h.exact.installed _ _ (mem_networks.mpr ⟨q, hq, rfl, rfl⟩)
    · rw [hl]
      split
      · rfl
      · next he =>
        refine h.exact.others network fun other hk => ?_
        obtain ⟨q, hq, hp, rfl⟩ := mem_networks.mp hk
        exact hm other ((hn other _).mpr ⟨q, hq, fun hc => he (hc ▸ rfl), hp, rfl⟩)

lemma Inv.follows_deleteExclusionRoute (h : m.Inv) : m.Follows (.deleteExclusionRoute p) := by
  have hx : m.Sound (.deleteExclusionRoute p) ↔ (m.deleteExclusionRoute p).2.Exact := ⟨And.left, fun hx => ⟨hx, by simp⟩⟩
  refine ⟨fun hs => h.of_frame hs.1 (fun other => ?_) fun other => ?_, hx.trans h.exact_deleteExclusionRoute_iff⟩
  · simp only [step, deleteExclusionRoute_eq]
    cases other <;> rfl
  · simp only [step, deleteExclusionRoute_eq]
    cases other <;> rfl

lemma flushFirst_eq : m.flushFirst p =
    { m with
      exclusionRoutes := m.exclusionRoutes.drop 1
      routes := AList.erase (networkOf p) m.routes } := by
  rw [flushFirst]
  cases p.address.protocol <;> simp [rtmSendRoute_delete]

lemma flushExclusionRoutes_eq : m.flushExclusionRoutes =
    { m with
      exclusionRoutes := []
      routes := (m.exclusionRoutes.map networkOf).foldl (fun t k => AList.erase k t) m.routes } := by
  rw [flushExclusionRoutes]
  generalize hp : m.exclusionRoutes = prefixes
  induction prefixes generalizing m with
  | nil =>
    obtain ⟨ifindex, pid, exclusionRoutes, g₄, g₆, i₄, i₆, routes⟩ := m
    obtain rfl : exclusionRoutes = [] := hp
    rfl
  | cons p prefixes ih =>
    have hd : (m.flushFirst p).exclusionRoutes = prefixes := by rw [flushFirst_eq, hp, List.drop_one, List.tail_cons]
    rw [List.foldl_cons, ih hd, flushFirst_eq]
    rfl

lemma Inv.follows_flushExclusionRoutes (h : m.Inv) : m.Follows .flushExclusionRoutes := by
  have hs : m.step .flushExclusionRoutes = m.flushExclusionRoutes := rfl
  rw [flushExclusionRoutes_eq] at hs
  have hn (other) : (m.step .flushExclusionRoutes).networks other = [] := by
    rw [hs]
    rfl
  have he : (m.step .flushExclusionRoutes).Exact := by
    refine ⟨fun other => ?_, fun other network hm => ?_, fun network _ => ?_⟩
    · have ht := h.exact.tunnel other
      rw [hs]
      cases other <;> exact ht
    · rw [hn] at hm
      cases hm
    · rw [hs]
      apply lookup_foldl_erase.trans
      split
      · rfl
      · next hm =>
        refine h.exact.others network fun other hk => hm ?_
        obtain ⟨q, hq, -, rfl⟩ := mem_networks.mp hk
        exact List.mem_map_of_mem hq
  refine ⟨fun _ => h.of_frame he (fun other => ?_) fun other => ?_, iff_of_true ⟨he, by simp⟩ trivial⟩
  · rw [hs]
    cases other <;> rfl
  · rw [hs]
    cases other <;> rfl

lemma Inv.follows (h : m.Inv) (e : Event) : m.Follows e := by
  cases e with
  | message msg uninitialized =>
    by_cases ht : msg.rtm.type = .RTM_DELETE
    · exact h.follows_delete ht
    · by_cases ho : msg.rtm.type = .other
      · exact h.follows_of_eq (by simp [step, handleMessage, ho]) (by simp [Undisturbed, ho])
      · exact h.follows_update ht ho
  | addExclusionRoute p => exact h.follows_addExclusionRoute
  | deleteExclusionRoute p => exact h.follows_deleteExclusionRoute
  | flushExclusionRoutes => exact h.follows_flushExclusionRoutes

/-- The monitor of an interface before any message. -/
def initial (ifindex pid : ℕ) : MacosRouteMonitor where
  ifindex := ifindex
  pid := pid

lemma inv_initial (ifindex pid : ℕ) : (initial ifindex pid).Inv where
  exact := {
    tunnel := fun other h => by cases other <;> exact h.symm
    installed := fun other network hm => by cases hm
    others := fun _ _ => rfl }
  gateway other h := by cases other <;> exact absurd rfl h
  wellFormed other := by cases other <;> exact Nat.zero_le _

/-- Every step of a run is sound if and only if every step of it meets the condition. -/
theorem routes_sound (ifindex pid : ℕ) (events : List Event) :
    Meets step Sound (initial ifindex pid) events ↔ Meets step Undisturbed (initial ifindex pid) events :=
  meets_congr (P := Inv) (fun _ e h => (h.follows e).1) (fun _ e h => (h.follows e).2) (inv_initial ifindex pid)

/-- The addresses of the default route through a gateway of four bytes. -/
def defaultAddrs (gateway : List UInt8) : List UInt8 :=
  [16, AF_INET, 0, 0] ++ List.replicate 12 0 ++ [16, AF_INET, 0, 0] ++ gateway ++ List.replicate 8 0 ++ [0, 0, 0, 0]

def wired : RoutingMessage where
  rtm := { type := .RTM_ADD, index := 4, addrs := 0x7 }
  payload := defaultAddrs [192, 168, 1, 1]
  wellFormed := by decide +kernel

def wirelessLost : RoutingMessage where
  rtm := { type := .RTM_DELETE, index := 5, addrs := 0x7 }
  payload := defaultAddrs [10, 0, 0, 1]
  wellFormed := by decide +kernel

/-- A reply whose interface address is that of the interface with index nine. -/
def throughTunnel : RoutingMessage where
  rtm := { type := .RTM_GET, index := 4, addrs := 0x17 }
  payload := defaultAddrs [192, 168, 1, 1] ++ [20, AF_LINK, 9, 0] ++ List.replicate 16 0
  wellFormed := by decide +kernel

/-- The deletion of another default route clears the recorded one, and a reply can record the tunnel. -/
theorem routes_unsound :
    ¬Meets step Sound (initial 9 1)
        [.message wired .IPv4Protocol, .addExclusionRoute ⟨.ipv4 0x08080808, 32⟩,
          .message wirelessLost .IPv4Protocol] ∧
      ¬Meets step Sound (initial 9 1) [.message throughTunnel .IPv4Protocol] := by
  constructor
  · rintro ⟨-, -, h, -⟩
    have hr := (h.2 wirelessLost .IPv4Protocol rfl (.IPv4Protocol, ⟨5, [16, 2, 0, 0, 10, 0, 0, 1] ++ List.replicate 8 0⟩)
      (by decide +kernel) (by decide +kernel)).1 .IPv4Protocol
    exact absurd hr (by decide +kernel)
  · rintro ⟨h, -⟩
    exact absurd (h.1.tunnel .IPv4Protocol (by decide +kernel)) (by decide +kernel)

end MacosRouteMonitor

end VpnClient.Macos
