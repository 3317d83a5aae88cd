import VpnClient.Address.ExcludeAddresses
import VpnClient.Linux.Netfilter

/-! The firewall that the daemon sets up: which packets leave the host around the tunnel. -/

namespace VpnClient.Linux

open Address Library Library.Nftables

structure IPAddressList where
  v6 : List IPAddress
  v4 : List IPAddress

def IPAddressList.flatten (list : IPAddressList) : List IPAddress := list.v6 ++ list.v4

namespace RFC1918

def ipv4 : List IPAddress :=
  [⟨.ipv4 0x0a000000, 8⟩, ⟨.ipv4 0xac100000, 12⟩, ⟨.ipv4 0xc0a80000, 16⟩]

end RFC1918

namespace RFC4193

def ipv6 : List IPAddress := [⟨.ipv6 #v[0xfc, 0, 0, 0, 0, 0, 0, 0, 0, 0, 0, 0, 0, 0, 0, 0], 7⟩]

end RFC4193

namespace RFC4291

def ipv6LinkLocalAddressBlock : IPAddress := ⟨.ipv6 #v[0xfe#8, 0x80#8, 0, 0, 0, 0, 0, 0, 0, 0, 0, 0, 0, 0, 0, 0], 10⟩

def ipv6MulticastAddressBlock : IPAddress := ⟨.ipv6 #v[0xff, 0, 0, 0, 0, 0, 0, 0, 0, 0, 0, 0, 0, 0, 0, 0], 8⟩

end RFC4291

namespace RFC1112

def ipv4MulticastAddressBlock : IPAddress := ⟨.ipv4 0xe0000000, 4⟩

end RFC1112

def getExcludedIPAddressRanges : IPAddressList where
  v6 := RFC4193.ipv6 ++ [RFC4291.ipv6LinkLocalAddressBlock, RFC4291.ipv6MulticastAddressBlock]
  v4 := RFC1918.ipv4 ++ [RFC1112.ipv4MulticastAddressBlock]

namespace LinuxFirewall

open NftCtx

/-- The context once the firewall is up. If a step fails, the tables are removed again. -/
def up (flush : NftCtx → Bool) (ifname : InterfaceName) (fwmark : UInt32) (ctx : NftCtx) : Option NftCtx := do
  let ctx ← ctx.NetfilterCreateTables flush
  let ctx ← ctx.NetfilterApplyFwMark flush fwmark
  let ctx ← ctx.NetfilterRestrictTraffic flush ifname
  let ctx ← ctx.NetfilterIsolateIpv6 flush
  let ctx ← getExcludedIPAddressRanges.flatten.foldlM (fun ctx ip => ctx.NetfilterAllowPrefix flush ip) ctx
  let ctx ← ctx.NetfilterAllowDHCP flush
  let ctx ← ctx.NetfilterAllowNDP
  ctx.NetfilterBlockDNS flush

/-- The rules before those that reject. -/
def accepting (ifname : InterfaceName) (fwmark : UInt32) : List Exprs :=
  nftRestrictTraffic ifname fwmark ++ getExcludedIPAddressRanges.flatten.map allowPrefix ++ allowDHCP ++ allowNDP

lemma eq_of_nftCommit {flush : NftCtx → Bool} {ctx ctx' : NftCtx} (h : ctx.nftCommit flush = some ctx') :
    ctx' = ctx := by
  unfold nftCommit at h
  split_ifs at h
  exact (Option.some.inj h).symm

lemma output_foldlM {flush : NftCtx → Bool} {ranges : List IPAddress} {ctx ctx' : NftCtx}
    (h : ranges.foldlM (fun ctx ip => ctx.NetfilterAllowPrefix flush ip) ctx = some ctx') :
    ctx'.output = ctx.output ++ ranges.map allowPrefix := by
  induction ranges generalizing ctx with
  | nil =>
    obtain rfl : ctx = ctx' := Option.some.inj h
    simp
  | cons ip ranges ih =>
    rw [List.foldlM_cons] at h
    obtain ⟨ctx₁, h₁, h₂⟩ := Option.bind_eq_some_iff.mp h
    rw [ih h₂, eq_of_nftCommit h₁]
    simp [addRules]

lemma output_up {flush : NftCtx → Bool} {ifname : InterfaceName} {fwmark : UInt32} {ctx ctx' : NftCtx}
    (h : up flush ifname fwmark ctx = some ctx') :
    ctx'.output = ctx.output ++ (accepting ifname fwmark ++ blockDNS) := by
  obtain ⟨ctx₁, h₁, h⟩ := Option.bind_eq_some_iff.mp h
  obtain ⟨ctx₂, h₂, h⟩ := Option.bind_eq_some_iff.mp h
  obtain ⟨ctx₃, h₃, h⟩ := Option.bind_eq_some_iff.mp h
  obtain ⟨ctx₄, h₄, h⟩ := Option.bind_eq_some_iff.mp h
  obtain ⟨ctx₅, h₅, h⟩ := Option.bind_eq_some_iff.mp h
  obtain ⟨ctx₆, h₆, h⟩ := Option.bind_eq_some_iff.mp h
  obtain ⟨ctx₇, h₇, h⟩ := Option.bind_eq_some_iff.mp h
  have hm : ctx₂ = { ctx₁ with fwmark } := by
    unfold NetfilterApplyFwMark at h₂
    split_ifs at h₂
    exact eq_of_nftCommit h₂
  have h₇' : ctx₇ = ctx₆.addRules allowNDP := (Option.some.inj h₇).symm
  rw [eq_of_nftCommit h, h₇', eq_of_nftCommit h₆]
  simp only [addRules]
  rw [output_foldlM h₅, eq_of_nftCommit h₄, eq_of_nftCommit h₃, hm, eq_of_nftCommit h₁]
  simp [addRules, accepting, List.append_assoc]

section

variable {ifname : InterfaceName} {fwmark : UInt32} {addrset : List Data} {p : OutgoingPacket}

/-- The verdict of the chain on a packet. -/
def Accepted (ctx : NftCtx) (addrset : List Data) (p : OutgoingPacket) : Prop :=
  evalChain (fun _ => addrset) p.toPacket .drop ctx.output = .accept

/-- A packet of the daemon's own: for the host itself, through the tunnel, with the mark or to a server. -/
def Exempt (ifname : InterfaceName) (fwmark : UInt32) (addrset : List Data) (p : OutgoingPacket) : Prop :=
  p.oifType = ARPHRD_LOOPBACK ∨ p.oifname = ifname ∨ p.mark = fwmark ∨
    p.daddr.protocol = .IPv4Protocol ∧ p.l4proto = some IPPROTO_UDP ∧ p.daddr.toBytes ∈ addrset

def IsDHCP (p : OutgoingPacket) : Prop :=
  p.l4proto = some IPPROTO_UDP ∧ (p.sport = some DHCPV4_CLIENT_PORT ∧ p.dport = some DHCPV4_SERVER_PORT ∨
    p.sport = some DHCPV4_SERVER_PORT ∧ p.dport = some DHCPV4_CLIENT_PORT)

/-- A router solicitation, a neighbour solicitation or a neighbour advertisement. -/
def IsNDP (p : OutgoingPacket) : Prop :=
  p.l4proto = some IPPROTO_ICMPV6 ∧ ∃ type ∈ [(133 : UInt8), 135, 136], p.transportHeader.take 2 = [type, 0]

def IsExcluded (p : OutgoingPacket) : Prop :=
  ∃ ip ∈ getExcludedIPAddressRanges.flatten, ip.contains p.daddr = true

def IsDNS (p : OutgoingPacket) : Prop :=
  (p.l4proto = some IPPROTO_UDP ∨ p.l4proto = some IPPROTO_TCP) ∧ p.dport = some DNS_PORT

lemma regular_excluded : ∀ ip ∈ getExcludedIPAddressRanges.flatten, Regular ip := by
  intro ip hm
  simp only [getExcludedIPAddressRanges, IPAddressList.flatten, RFC4193.ipv6, RFC1918.ipv4, List.cons_append,
    List.nil_append, List.mem_cons, List.not_mem_nil, or_false] at hm
  rcases hm with rfl | rfl | rfl | rfl | rfl | rfl | rfl <;> exact ⟨by decide, by decide⟩

lemma regular_ndp : Regular ROUTER_SOLICITATION_OUT_DST_ADDR ∧ Regular SOLICITED_NODE_MULTICAST ∧
    Regular IPV6_LINK_LOCAL :=
  ⟨⟨by decide, by decide⟩, ⟨by decide, by decide⟩, ⟨by decide, by decide⟩⟩

lemma not_restrictTraffic (h : ¬Exempt ifname fwmark addrset p) :
    ∀ rule ∈ nftRestrictTraffic ifname fwmark, evalRule (fun _ => addrset) p.toPacket rule [] ≠ some .accept := by
  obtain ⟨hl, hi, hm, hs⟩ : p.oifType ≠ ARPHRD_LOOPBACK ∧ p.oifname ≠ ifname ∧ p.mark ≠ fwmark ∧
      ¬(p.daddr.protocol = .IPv4Protocol ∧ p.l4proto = some IPPROTO_UDP ∧ p.daddr.toBytes ∈ addrset) := by
    simpa only [Exempt, not_or] using h
  intro rule hr he
  simp only [nftRestrictTraffic, List.mem_cons, List.not_mem_nil, or_false] at hr
  obtain rfl | rfl | rfl | rfl := hr
  · obtain ⟨data, hd, he⟩ := evalRule_metadata.mp he
    obtain ⟨hc, -⟩ := evalRule_cmp.mp he
    obtain rfl := Option.some.inj hd
    rw [List.take_of_length_le (by simp), nativeEndian_inj p.oifType.toNat_lt ARPHRD_LOOPBACK.toNat_lt] at hc
    exact hl (UInt16.toNat_inj.mp hc)
  · obtain ⟨data, hd, he⟩ := evalRule_metadata.mp he
    obtain ⟨hc, -⟩ := evalRule_cmp.mp he
    obtain rfl := Option.some.inj hd
    rw [List.take_of_length_le (by simp [nftIfname]), nftIfname_inj] at hc
    exact hi hc
  · obtain ⟨data, hd, he⟩ := evalRule_metadata.mp he
    obtain ⟨hc, he⟩ := evalRule_cmp.mp he
    obtain rfl := Option.some.inj hd
    obtain ⟨hp, he⟩ := eval_matchL4Proto.mp he
    have hv : p.daddr.protocol = .IPv4Protocol := by
      cases hv : p.daddr.protocol with
      | IPv4Protocol => rfl
      | IPv6Protocol =>
        rw [hv] at hc
        exact absurd hc (by decide)
    have ho : 16 = daddrOffset p.daddr.protocol := by
      rw [hv]
      rfl
    have hlen : 4 = p.daddr.toBytes.length := by
      have := QHostAddress.length_toBytes p.daddr
      simp only [QHostAddress.width, hv] at this
      omega
    rw [ho, eval_daddr hlen, evalRule_lookup] at he
    exact hs ⟨hv, hp, he.1⟩
  · obtain ⟨data, hd, he⟩ := evalRule_metadata.mp he
    obtain ⟨hc, -⟩ := evalRule_cmp.mp he
    obtain rfl := Option.some.inj hd
    rw [List.take_of_length_le (by simp), nativeEndian_inj p.mark.toNat_lt fwmark.toNat_lt] at hc
    exact hm (UInt32.toNat_inj.mp hc)

lemma eval_allowPrefix {ip : IPAddress} (hr : Regular ip) :
    evalRule (fun _ => addrset) p.toPacket (allowPrefix ip) [] = some .accept ↔ ip.contains p.daddr = true := by
  rw [allowPrefix, eval_buildIpNetExpr hr]
  exact and_iff_left rfl

lemma isDHCP_of_allowDHCP {rule : Exprs} (hr : rule ∈ allowDHCP)
    (he : evalRule (fun _ => addrset) p.toPacket rule [] = some .accept) : IsDHCP p := by
  simp only [allowDHCP, List.mem_cons, List.not_mem_nil, or_false] at hr
  obtain rfl | rfl := hr
  · obtain ⟨hp, he⟩ := eval_matchL4Proto.mp he
    obtain ⟨hs, he⟩ := (eval_port (by decide)).mp he
    obtain ⟨data, -, he⟩ := evalRule_metadata.mp he
    obtain ⟨-, he⟩ := evalRule_cmp.mp he
    obtain ⟨-, he⟩ := evalRule_payload.mp he
    obtain ⟨-, he⟩ := evalRule_cmp.mp he
    obtain ⟨-, he⟩ := eval_matchL4Proto.mp he
    obtain ⟨hd, -⟩ := (eval_port (by decide)).mp he
    exact ⟨hp, .inl ⟨hs, hd⟩⟩
  · obtain ⟨hp, he⟩ := eval_matchL4Proto.mp he
    obtain ⟨hs, he⟩ := (eval_port (by decide)).mp he
    obtain ⟨-, he⟩ := eval_matchL4Proto.mp he
    obtain ⟨hd, -⟩ := (eval_port (by decide)).mp he
    exact ⟨hp, .inr ⟨hs, hd⟩⟩

lemma isNDP_of_allowNDP {rule : Exprs} (hr : rule ∈ allowNDP)
    (he : evalRule (fun _ => addrset) p.toPacket rule [] = some .accept) : IsNDP p := by
  obtain ⟨h₁, h₂, h₃⟩ := regular_ndp
  simp only [allowNDP, List.mem_cons, List.not_mem_nil, or_false] at hr
  obtain rfl | rfl | rfl | rfl := hr
  · obtain ⟨⟨hp, ht⟩, -⟩ := eval_matchIcmpv6.mp ((eval_buildIpNetExpr h₁).mp he).2
    exact ⟨hp, 133, by simp, ht⟩
  · obtain ⟨⟨hp, ht⟩, -⟩ := eval_matchIcmpv6.mp ((eval_buildIpNetExpr h₂).mp he).2
    exact ⟨hp, 135, by simp, ht⟩
  · obtain ⟨⟨hp, ht⟩, -⟩ := eval_matchIcmpv6.mp ((eval_buildIpNetExpr h₃).mp he).2
    exact ⟨hp, 135, by simp, ht⟩
  · obtain ⟨⟨hp, ht⟩, -⟩ := eval_matchIcmpv6.mp ((eval_buildIpNetExpr h₃).mp he).2
    exact ⟨hp, 136, by simp, ht⟩

lemma verdict_accepting (ifname : InterfaceName) (fwmark : UInt32) :
    ∀ rule ∈ accepting ifname fwmark, ∀ kind, .verdict kind ∈ rule → kind = .accept := by
  intro rule hr kind hk
  simp only [accepting, List.mem_append, List.mem_map] at hr
  obtain ((hr | ⟨ip, -, rfl⟩) | hr) | hr := hr
  · simp only [nftRestrictTraffic, List.mem_cons, List.not_mem_nil, or_false] at hr
    obtain rfl | rfl | rfl | rfl := hr <;> simpa [matchL4Proto, accept] using hk
  · simpa [allowPrefix, buildIpNetExpr, accept] using hk
  · simp only [allowDHCP, List.mem_cons, List.not_mem_nil, or_false] at hr
    obtain rfl | rfl := hr <;> simpa [matchL4Proto, matchSport, matchDport, accept] using hk
  · simp only [allowNDP, List.mem_cons, List.not_mem_nil, or_false] at hr
    obtain rfl | rfl | rfl | rfl := hr <;> simpa [buildIpNetExpr, matchIcmpv6, matchL4Proto, accept] using hk

lemma verdict_blockDNS : ∀ rule ∈ blockDNS, .verdict .accept ∉ rule := by
  intro rule hr
  simp only [blockDNS, List.mem_cons, List.not_mem_nil, or_false] at hr
  obtain rfl | rfl := hr <;> simp [matchL4Proto, matchDport, reject]

lemma accepted_iff {flush : NftCtx → Bool} {ctx : NftCtx} (hu : up flush ifname fwmark {} = some ctx)
    (h : ¬Exempt ifname fwmark addrset p) :
    Accepted ctx addrset p ↔ IsExcluded p ∨
      ∃ rule ∈ allowDHCP ++ allowNDP, evalRule (fun _ => addrset) p.toPacket rule [] = some .accept := by
  rw [Accepted, output_up hu, List.nil_append, evalChain_append_iff (by decide) (verdict_accepting ifname fwmark)
    verdict_blockDNS]
  constructor
  · rintro ⟨rule, hr, he⟩
    simp only [accepting, List.append_assoc, List.mem_append, List.mem_map] at hr
    obtain hr | ⟨ip, hm, rfl⟩ | hr := hr
    · exact (not_restrictTraffic h rule hr he).elim
    · exact .inl ⟨ip, hm, (eval_allowPrefix (regular_excluded ip hm)).mp he⟩
    · exact .inr ⟨rule, List.mem_append.mpr hr, he⟩
  · rintro (⟨ip, hm, hc⟩ | ⟨rule, hr, he⟩)
    · refine ⟨allowPrefix ip, ?_, (eval_allowPrefix (regular_excluded ip hm)).mpr hc⟩
      simp only [accepting, List.mem_append, List.mem_map]
      exact .inl (.inl (.inr ⟨ip, hm, rfl⟩))
    · refine ⟨rule, ?_, he⟩
      rw [accepting, List.append_assoc]
      exact List.mem_append_right _ hr

lemma not_isDNS_of_isDHCP (h : IsDHCP p) : ¬IsDNS p := by
  rintro ⟨-, hd⟩
  obtain ⟨-, ⟨-, h⟩ | ⟨-, h⟩⟩ := h <;> exact absurd (h.symm.trans hd) (by decide)

lemma not_isDNS_of_isNDP (h : IsNDP p) : ¬IsDNS p := by
  rintro ⟨hp | hp, -⟩ <;> exact absurd (h.1.symm.trans hp) (by decide)

/-- Of the packets that are none of the daemon's own, only DHCP, neighbour discovery and what is sent to an excluded
range leave the host, and exactly those to port 53 get out that are sent to an excluded range. -/
theorem output_restricted (flush : NftCtx → Bool) (ifname : InterfaceName) (fwmark : UInt32) (ctx : NftCtx)
    (addrset : List Data) (p : OutgoingPacket) (hu : up flush ifname fwmark {} = some ctx)
    (h : ¬Exempt ifname fwmark addrset p) :
    ((Accepted ctx addrset p → IsDHCP p ∨ IsNDP p ∨ IsExcluded p) ∧ (IsDNS p → ¬Accepted ctx addrset p)) ↔
      ¬(IsDNS p ∧ IsExcluded p) := by
  have ha := accepted_iff hu h
  have hrules (rule : Exprs) (hr : rule ∈ allowDHCP ++ allowNDP)
      (he : evalRule (fun _ => addrset) p.toPacket rule [] = some .accept) : IsDHCP p ∨ IsNDP p :=
    (List.mem_append.mp hr).imp (isDHCP_of_allowDHCP · he) (isNDP_of_allowNDP · he)
  constructor
  · rintro ⟨-, hb⟩ ⟨hd, he⟩
    exact hb hd (ha.mpr (.inl he))
  · intro hn
    refine ⟨fun hacc => ?_, fun hd hacc => ?_⟩
    · obtain he | ⟨rule, hr, he⟩ := ha.mp hacc
      · exact .inr (.inr he)
      · exact (hrules rule hr he).imp id .inl
    · obtain he | ⟨rule, hr, he⟩ := ha.mp hacc
      · exact hn ⟨hd, he⟩
      · obtain h | h := hrules rule hr he
        · exact not_isDNS_of_isDHCP h hd
        · exact not_isDNS_of_isNDP h hd

end

/-- "moz0" -/
def tunnelName : InterfaceName := ⟨[0x6d, 0x6f, 0x7a, 0x30], by decide, by decide⟩

/-- A DNS query that leaves by "eth0". -/
def query (daddr : BitVec 32) : OutgoingPacket where
  oifType := 1
  oifname := ⟨[0x65, 0x74, 0x68, 0x30], by decide, by decide⟩
  mark := 0
  daddr := .ipv4 daddr
  networkHeader := List.replicate 16 0 ++ (QHostAddress.ipv4 daddr).toBytes
  l4proto := some IPPROTO_UDP
  transportHeader := [0xc0, 0, 0, 53, 0, 8, 0, 0]
  header_daddr := ⟨List.replicate 16 0, [], by simp, rfl⟩

lemma not_exempt_query (daddr : BitVec 32) : ¬Exempt tunnelName 0xca6c [] (query daddr) := by
  rintro (h | h | h | h)
  · exact (by decide : (1 : UInt16) ≠ ARPHRD_LOOPBACK) h
  · exact (by decide : ([0x65, 0x74, 0x68, 0x30] : Data) ≠ [0x6d, 0x6f, 0x7a, 0x30]) (congrArg InterfaceName.name h)
  · exact (by decide : (0 : UInt32) ≠ 0xca6c) h
  · exact List.not_mem_nil h.2.2

lemma isDNS_query (daddr : BitVec 32) : IsDNS (query daddr) := ⟨.inl rfl, rfl⟩

theorem output_restricted_query :
    ∃ ctx, up (fun _ => true) tunnelName 0xca6c {} = some ctx ∧ ¬Accepted ctx [] (query 0x08080808) := by
  have he : ¬IsExcluded (query 0x08080808) := by
    rw [IsExcluded]
    decide
  exact ⟨_, rfl, ((output_restricted (fun _ => true) tunnelName 0xca6c _ [] (query 0x08080808) rfl
    (not_exempt_query _)).mpr fun h => he h.2).2 (isDNS_query _)⟩

/-- A query to a resolver in the local network goes out in the clear. -/
theorem output_local_query :
    ∃ ctx, up (fun _ => true) tunnelName 0xca6c {} = some ctx ∧ ¬Exempt tunnelName 0xca6c [] (query 0xc0a80101) ∧
      IsDNS (query 0xc0a80101) ∧ Accepted ctx [] (query 0xc0a80101) := by
  have he : IsExcluded (query 0xc0a80101) := by
    rw [IsExcluded]
    decide
  have hu : up (fun _ => true) tunnelName 0xca6c {} = some _ := rfl
  exact ⟨_, hu, not_exempt_query _, isDNS_query _, (accepted_iff hu (not_exempt_query _)).mpr (.inl he)⟩

end LinuxFirewall

end VpnClient.Linux
