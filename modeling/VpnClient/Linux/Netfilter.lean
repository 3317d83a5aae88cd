import VpnClient.Address.ExcludeAddresses
import VpnClient.Address.NetworkBytes
import VpnClient.Library.LittleEndian
import VpnClient.Library.Nftables

/-! The output chain of `netfilter.go`: the rules that its functions append. -/

namespace VpnClient.Linux

open Address Library Library.Nftables

def NFPROTO_IPV4 : UInt8 := 2

def NFPROTO_IPV6 : UInt8 := 10

def IPPROTO_TCP : UInt8 := 6

def IPPROTO_UDP : UInt8 := 17

def IPPROTO_ICMPV6 : UInt8 := 58

def ETH_P_IP : ℕ := 0x0800

def ETH_P_IPV6 : ℕ := 0x86dd

def ARPHRD_LOOPBACK : UInt16 := 772

def DHCPV4_SERVER_PORT : ℕ := 67

def DHCPV4_CLIENT_PORT : ℕ := 68

def DNS_PORT : ℕ := 53

/-- The number of a family, for a rule and in a frame, and where its header has the destination. -/
def nfproto : Protocol → UInt8
  | .IPv4Protocol => NFPROTO_IPV4
  | .IPv6Protocol => NFPROTO_IPV6

def etherType : Protocol → ℕ
  | .IPv4Protocol => ETH_P_IP
  | .IPv6Protocol => ETH_P_IPV6

def daddrOffset : Protocol → ℕ
  | .IPv4Protocol => 16
  | .IPv6Protocol => 24

def nativeEndian (width n : ℕ) : Data := LittleEndian.bytes width n

def bigEndian (width n : ℕ) : Data := (LittleEndian.bytes width n).reverse

inductive MetaKey where
  | NFPROTO
  | PROTOCOL
  | L4PROTO
  | OIFTYPE
  | OIFNAME
  | MARK

inductive PayloadBase where
  | NetworkHeader
  | TransportHeader

/-- The set of the addresses of servers. -/
inductive SetName where
  | addrset

abbrev Exprs := Rule MetaKey PayloadBase SetName

/-- The name of a network interface, which ends before the sixteenth byte. -/
@[ext] structure InterfaceName where
  name : Data
  length_lt : name.length < 16
  nonzero : 0 ∉ name

def nftIfname (n : InterfaceName) : Data := ((n.name ++ [0]) ++ List.replicate 16 0).take 16

/-- An outgoing packet. The transport protocol is missing if it cannot be told, and the transport header if the
packet is a later fragment. -/
structure OutgoingPacket where
  oifType : UInt16
  oifname : InterfaceName
  mark : UInt32
  daddr : QHostAddress
  networkHeader : Data
  l4proto : Option UInt8
  transportHeader : Data
  header_daddr : ∃ before after, networkHeader = before ++ daddr.toBytes ++ after ∧
    before.length = daddrOffset daddr.protocol

namespace OutgoingPacket

def toPacket (p : OutgoingPacket) : Packet MetaKey PayloadBase where
  metadata
    | .NFPROTO => some [nfproto p.daddr.protocol]
    | .PROTOCOL => some (bigEndian 2 (etherType p.daddr.protocol))
    | .L4PROTO => p.l4proto.map ([·])
    | .OIFTYPE => some (nativeEndian 2 p.oifType.toNat)
    | .OIFNAME => some (nftIfname p.oifname)
    | .MARK => some (nativeEndian 4 p.mark.toNat)
  header
    | .NetworkHeader => p.networkHeader
    | .TransportHeader => p.transportHeader

/-- The number in two bytes of the transport header. -/
def port (offset : ℕ) (p : OutgoingPacket) : Option ℕ :=
  if offset + 2 ≤ p.transportHeader.length then
    some (LittleEndian.value ((p.transportHeader.drop offset).take 2).reverse)
  else none

def sport (p : OutgoingPacket) : Option ℕ := p.port 0

def dport (p : OutgoingPacket) : Option ℕ := p.port 2

end OutgoingPacket

/-- The context with the rules of the output chain, the addresses of the servers and the mark of the packets that
go around the tunnel. -/
structure NftCtx where
  output : List Exprs := []
  addrset : List Data := []
  fwmark : UInt32 := 0

/-- The network and the mask of a prefix. -/
structure IPNet where
  ip : Data
  mask : Data

def ParseCIDR (ip : IPAddress) : IPNet :=
  let bytes := ip.address.toBytes
  let mask := cidrMask bytes.length ip.prefixLength
  { ip := masked bytes mask, mask }

def To4 (ip : Data) : Option Data :=
  if ip.length = 4 then some ip
  else if ip.length = 16 ∧ ip.take 12 = List.replicate 10 0 ++ [0xff, 0xff] then some (ip.drop 12)
  else none

/-- The expressions that match packets to a network, with what follows them. -/
def buildIpNetExpr (ipnet : IPNet) (rest : Exprs) : Exprs :=
  let ipsize := ipnet.ip.length
  let (iptype, ip, offset) :=
    match To4 ipnet.ip with
    | some ip => (NFPROTO_IPV4, ip, 16)
    | none => (NFPROTO_IPV6, ipnet.ip, 24)
  [.metadata .NFPROTO, .cmp [iptype], .payload .NetworkHeader offset ipsize,
    .bitwise ipnet.mask (List.replicate ipsize 0), .cmp ip] ++ rest

def matchL4Proto (proto : UInt8) (rest : Exprs) : Exprs := .metadata .L4PROTO :: .cmp [proto] :: rest

def matchSport (port : ℕ) (rest : Exprs) : Exprs :=
  .payload .TransportHeader 0 2 :: .cmp (bigEndian 2 port) :: rest

def matchDport (port : ℕ) (rest : Exprs) : Exprs :=
  .payload .TransportHeader 2 2 :: .cmp (bigEndian 2 port) :: rest

/-- Matches an ICMPv6 message of the type with code zero. -/
def matchIcmpv6 (type : UInt8) (rest : Exprs) : Exprs :=
  matchL4Proto IPPROTO_ICMPV6 (.payload .TransportHeader 0 1 :: .cmp [type] ::
    .payload .TransportHeader 1 1 :: .cmp [0] :: rest)

def accept : Exprs := [.verdict .accept]

def reject : Exprs := [.verdict .reject]

namespace NftCtx

variable (flush : NftCtx → Bool)

def addRules (rules : List Exprs) (ctx : NftCtx) : NftCtx := { ctx with output := ctx.output ++ rules }

/-- Sends what has been queued to the kernel. -/
def nftCommit (ctx : NftCtx) : Option NftCtx := if flush ctx then some ctx else none

/-- What is there already stays as it is. -/
def NetfilterCreateTables (ctx : NftCtx) : Option NftCtx := nftCommit flush ctx

def NetfilterRemoveTables (ctx : NftCtx) : Option NftCtx := nftCommit flush { ctx with output := [], addrset := [] }

def NetfilterApplyFwMark (fwmark : UInt32) (ctx : NftCtx) : Option NftCtx :=
  if fwmark = 0 then none else nftCommit flush { ctx with fwmark }

def nftRestrictTraffic (ifname : InterfaceName) (fwmark : UInt32) : List Exprs :=
  [.metadata .OIFTYPE :: .cmp (nativeEndian 2 ARPHRD_LOOPBACK.toNat) :: accept,
    .metadata .OIFNAME :: .cmp (nftIfname ifname) :: accept,
    .metadata .PROTOCOL :: .cmp (bigEndian 2 ETH_P_IP) ::
      matchL4Proto IPPROTO_UDP (.payload .NetworkHeader 16 4 :: .lookup .addrset :: accept),
    .metadata .MARK :: .cmp (nativeEndian 4 fwmark.toNat) :: accept]

def NetfilterRestrictTraffic (ifname : InterfaceName) (ctx : NftCtx) : Option NftCtx :=
  nftCommit flush (ctx.addRules (nftRestrictTraffic ifname ctx.fwmark))

/-- The rule that this adds is none of the output chain. -/
def NetfilterIsolateIpv6 (ctx : NftCtx) : Option NftCtx := nftCommit flush ctx

def allowPrefix (ip : IPAddress) : Exprs := buildIpNetExpr (ParseCIDR ip) accept

def NetfilterAllowPrefix (ip : IPAddress) (ctx : NftCtx) : Option NftCtx :=
  nftCommit flush (ctx.addRules [allowPrefix ip])

def allowDHCP : List Exprs :=
  [matchL4Proto IPPROTO_UDP (matchSport DHCPV4_CLIENT_PORT (.metadata .NFPROTO :: .cmp [NFPROTO_IPV4] ::
      .payload .NetworkHeader 16 4 :: .cmp [0xff, 0xff, 0xff, 0xff] ::
      matchL4Proto IPPROTO_UDP (matchDport DHCPV4_SERVER_PORT accept))),
    matchL4Proto IPPROTO_UDP (matchSport DHCPV4_SERVER_PORT (matchL4Proto IPPROTO_UDP (matchDport DHCPV4_CLIENT_PORT accept)))]

def NetfilterAllowDHCP (ctx : NftCtx) : Option NftCtx := nftCommit flush (ctx.addRules allowDHCP)

/-- ff02::2/128 -/
def ROUTER_SOLICITATION_OUT_DST_ADDR : IPAddress :=
  ⟨.ipv6 #v[0xff, 0x02, 0, 0, 0, 0, 0, 0, 0, 0, 0, 0, 0, 0, 0, 0x02], 128⟩

/-- ff02::1:ff00:0/104 -/
def SOLICITED_NODE_MULTICAST : IPAddress :=
  ⟨.ipv6 #v[0xff, 0x02, 0, 0, 0, 0, 0, 0, 0, 0, 0, 0x01, 0xff, 0, 0, 0], 104⟩

/-- fe80::/10 -/
def IPV6_LINK_LOCAL : IPAddress :=
  ⟨.ipv6 #v[0xfe, 0x80, 0, 0, 0, 0, 0, 0, 0, 0, 0, 0, 0, 0, 0, 0], 10⟩

def allowNDP : List Exprs :=
  [buildIpNetExpr (ParseCIDR ROUTER_SOLICITATION_OUT_DST_ADDR) (matchIcmpv6 133 accept),
    buildIpNetExpr (ParseCIDR SOLICITED_NODE_MULTICAST) (matchIcmpv6 135 accept),
    buildIpNetExpr (ParseCIDR IPV6_LINK_LOCAL) (matchIcmpv6 135 accept),
    buildIpNetExpr (ParseCIDR IPV6_LINK_LOCAL) (matchIcmpv6 136 accept)]

/-- The rules for neighbour discovery are queued only, and go out with the next commit. -/
def NetfilterAllowNDP (ctx : NftCtx) : Option NftCtx := some (ctx.addRules allowNDP)

def blockDNS : List Exprs :=
  [matchL4Proto IPPROTO_UDP (matchDport DNS_PORT reject), matchL4Proto IPPROTO_TCP (matchDport DNS_PORT reject)]

def NetfilterBlockDNS (ctx : NftCtx) : Option NftCtx := nftCommit flush (ctx.addRules blockDNS)

end NftCtx

section Rules

variable {sets : SetName → List Data} {p : OutgoingPacket} {rest : Exprs} {register : Data} {kind : Verdict}

lemma nativeEndian_inj {width m n : ℕ} (hm : m < 256 ^ width) (hn : n < 256 ^ width) :
    nativeEndian width m = nativeEndian width n ↔ m = n := by
  rw [nativeEndian, nativeEndian, LittleEndian.eq_bytes_iff (LittleEndian.length_bytes _ _) hn,
    LittleEndian.value_bytes, Nat.mod_eq_of_lt hm]

@[simp] lemma length_nativeEndian (width n : ℕ) : (nativeEndian width n).length = width := by simp [nativeEndian]

@[simp] lemma length_bigEndian (width n : ℕ) : (bigEndian width n).length = width := by simp [bigEndian]

lemma takeWhile_nftIfname (n : InterfaceName) : (nftIfname n).takeWhile (· ≠ 0) = n.name := by
  have hz : nftIfname n = n.name ++ List.replicate (16 - n.name.length) 0 := by
    have hr : [0] ++ List.replicate 16 0 = List.replicate 17 (0 : UInt8) := rfl
    rw [nftIfname, List.append_assoc, hr, List.take_append, List.take_of_length_le n.length_lt.le, List.take_replicate,
      Nat.min_eq_left (by omega)]
  obtain ⟨k, hk⟩ := Nat.exists_eq_succ_of_ne_zero (Nat.sub_ne_zero_of_lt n.length_lt)
  rw [hz, hk, List.replicate_succ, List.takeWhile_append_of_pos]
  · simp
  · intro b hb
    have : b ≠ 0 := fun h => n.nonzero (h ▸ hb)
    simpa using this

lemma nftIfname_inj {m n : InterfaceName} : nftIfname m = nftIfname n ↔ m = n := by
  refine ⟨fun h => InterfaceName.ext ?_, fun h => congrArg nftIfname h⟩
  rw [← takeWhile_nftIfname m, h, takeWhile_nftIfname n]

lemma eval_matchL4Proto {proto : UInt8} :
    evalRule sets p.toPacket (matchL4Proto proto rest) register = some kind ↔
      p.l4proto = some proto ∧ evalRule sets p.toPacket rest [proto] = some kind := by
  rw [matchL4Proto, evalRule_metadata]
  constructor
  · rintro ⟨data, hd, h⟩
    obtain ⟨proto', hp, rfl⟩ := Option.map_eq_some_iff.mp hd
    obtain ⟨he, hr⟩ := evalRule_cmp.mp h
    obtain rfl : proto' = proto := by simpa using he
    exact ⟨hp, hr⟩
  · rintro ⟨hp, h⟩
    exact ⟨[proto], Option.map_eq_some_iff.mpr ⟨proto, hp, rfl⟩, evalRule_cmp.mpr ⟨rfl, h⟩⟩

lemma eval_port {offset port : ℕ} (hp : port < 2 ^ 16) :
    evalRule sets p.toPacket (.payload .TransportHeader offset 2 :: .cmp (bigEndian 2 port) :: rest) register = some kind ↔
      p.port offset = some port ∧ evalRule sets p.toPacket rest (bigEndian 2 port) = some kind := by
  rw [evalRule_payload, evalRule_cmp, length_bigEndian, OutgoingPacket.port]
  have hh : p.toPacket.header .TransportHeader = p.transportHeader := rfl
  rw [hh]
  by_cases hl : offset + 2 ≤ p.transportHeader.length
  · let data := (p.transportHeader.drop offset).take 2
    have hd : data.take 2 = data := by rw [List.take_take, Nat.min_self]
    have hlen : data.reverse.length = 2 := by
      simp [data]
      omega
    have hv : data = bigEndian 2 port ↔ LittleEndian.value data.reverse = port := by
      rw [bigEndian, ← List.reverse_eq_iff, LittleEndian.eq_bytes_iff hlen hp]
    rw [if_pos hl, Option.some.injEq, hd, ← hv]
    constructor
    · rintro ⟨-, he, h⟩
      exact ⟨he, he ▸ h⟩
    · rintro ⟨he, h⟩
      rw [← he] at h
      exact ⟨hl, he, h⟩
  · simp [hl]

lemma nfproto_inj {proto proto' : Protocol} : nfproto proto = nfproto proto' ↔ proto = proto' := by
  cases proto <;> cases proto' <;> decide

lemma eval_nfproto {proto : Protocol} :
    evalRule sets p.toPacket (.metadata .NFPROTO :: .cmp [nfproto proto] :: rest) register = some kind ↔
      p.daddr.protocol = proto ∧ evalRule sets p.toPacket rest [nfproto proto] = some kind := by
  rw [evalRule_metadata]
  constructor
  · rintro ⟨data, hd, h⟩
    obtain ⟨he, hr⟩ := evalRule_cmp.mp h
    obtain rfl := Option.some.inj hd
    have hp : p.daddr.protocol = proto := nfproto_inj.mp (List.head_eq_of_cons_eq he)
    rw [hp] at hr
    exact ⟨hp, hr⟩
  · rintro ⟨rfl, h⟩
    exact ⟨_, rfl, evalRule_cmp.mpr ⟨rfl, h⟩⟩

lemma eval_daddr {size : ℕ} (hs : size = p.daddr.toBytes.length) :
    evalRule sets p.toPacket (.payload .NetworkHeader (daddrOffset p.daddr.protocol) size :: rest) register = some kind ↔
      evalRule sets p.toPacket rest p.daddr.toBytes = some kind := by
  obtain ⟨before, after, hn, hb⟩ := p.header_daddr
  have hh : p.toPacket.header .NetworkHeader = p.networkHeader := rfl
  rw [evalRule_payload, hh, hn, ← hb, hs, List.append_assoc, List.drop_left, List.take_left]
  apply and_iff_right
  simp

lemma length_masked {data mask : Data} (h : mask.length = data.length) : (masked data mask).length = data.length := by
  simp [masked, h]

lemma length_cidrMask (size ones : ℕ) : (cidrMask size ones).length = size := by
  induction size generalizing ones with
  | zero => rfl
  | succ size ih => rw [cidrMask, List.length_cons, ih]

lemma length_mask (ip : IPAddress) : (ParseCIDR ip).mask.length = ip.address.toBytes.length := length_cidrMask _ _

lemma length_ip (ip : IPAddress) : (ParseCIDR ip).ip.length = ip.address.toBytes.length :=
  length_masked (length_mask ip)

lemma zipWith_xor_zeros (data : Data) : List.zipWith (· ^^^ ·) data (List.replicate data.length 0) = data := by
  induction data with
  | nil => rfl
  | cons b data ih => simp [List.replicate_succ, ih]

/-- The network is one of the family of its address, which is not that of IPv4 addresses within IPv6. -/
def Regular (ip : IPAddress) : Prop :=
  ip.prefixLength ≤ ip.address.width ∧ (ip.address.protocol = .IPv6Protocol → To4 (ParseCIDR ip).ip = none)

lemma eval_network {ip : IPAddress} (hl : ip.prefixLength ≤ ip.address.width) :
    evalRule sets p.toPacket (.metadata .NFPROTO :: .cmp [nfproto ip.address.protocol] ::
        .payload .NetworkHeader (daddrOffset ip.address.protocol) (ParseCIDR ip).ip.length ::
        .bitwise (ParseCIDR ip).mask (List.replicate (ParseCIDR ip).ip.length 0) :: .cmp (ParseCIDR ip).ip :: rest)
        register = some kind ↔
      ip.contains p.daddr = true ∧ evalRule sets p.toPacket rest (ParseCIDR ip).ip = some kind := by
  rw [eval_nfproto, IPAddress.contains_iff hl, and_assoc]
  refine and_congr_right fun hp => ?_
  have hw := QHostAddress.width_eq hp
  have hbytes : p.daddr.toBytes.length = ip.address.toBytes.length := by
    have h₁ := QHostAddress.length_toBytes p.daddr
    have h₂ := QHostAddress.length_toBytes ip.address
    omega
  have hmask : (masked p.daddr.toBytes (ParseCIDR ip).mask).length = (ParseCIDR ip).ip.length := by
    rw [length_masked ((length_mask ip).trans hbytes.symm), length_ip, hbytes]
  have hagree : masked p.daddr.toBytes (ParseCIDR ip).mask = (ParseCIDR ip).ip ↔
      Library.BinaryBlocks.Agree ip.prefixLength ip.address.bits p.daddr.bits := by
    have ho : ip.prefixLength ≤ 8 * ip.address.toBytes.length := by rwa [QHostAddress.length_toBytes]
    refine (masked_eq_iff hbytes rfl ho).trans ⟨fun h i hi => ?_, fun h i hi => ?_⟩
    · rw [← QHostAddress.bits_toBytes _ (hi.trans_le hl), ← QHostAddress.bits_toBytes _ (hw ▸ hi.trans_le hl)]
      exact (h i hi).symm
    · rw [QHostAddress.bits_toBytes _ (hi.trans_le hl), QHostAddress.bits_toBytes _ (hw ▸ hi.trans_le hl)]
      exact (h i hi).symm
  have hxor := zipWith_xor_zeros (masked p.daddr.toBytes (ParseCIDR ip).mask)
  rw [hmask] at hxor
  rw [← hp, eval_daddr (by rw [length_ip, hbytes])]
  change evalRule sets p.toPacket (.cmp (ParseCIDR ip).ip :: rest)
    (List.zipWith (· ^^^ ·) (masked p.daddr.toBytes (ParseCIDR ip).mask) (List.replicate _ 0)) = some kind ↔ _
  rw [hxor, evalRule_cmp, ← hmask, List.take_length, hagree]
  refine and_congr_right fun h => ?_
  rw [hagree.mpr h]

lemma eval_buildIpNetExpr {ip : IPAddress} (hr : Regular ip) :
    evalRule sets p.toPacket (buildIpNetExpr (ParseCIDR ip) rest) register = some kind ↔
      ip.contains p.daddr = true ∧ evalRule sets p.toPacket rest (ParseCIDR ip).ip = some kind := by
  cases hp : ip.address.protocol with
  | IPv4Protocol =>
    have hl : (ParseCIDR ip).ip.length = 4 := by
      have hw := QHostAddress.length_toBytes ip.address
      simp only [QHostAddress.width, hp] at hw
      rw [length_ip]
      omega
    have ht : To4 (ParseCIDR ip).ip = some (ParseCIDR ip).ip := if_pos hl
    simp only [buildIpNetExpr, ht, List.cons_append, List.nil_append]
    have hn := @eval_network sets p rest register kind ip hr.1
    rwa [hp] at hn
  | IPv6Protocol =>
    simp only [buildIpNetExpr, hr.2 hp, List.cons_append, List.nil_append]
    have hn := @eval_network sets p rest register kind ip hr.1
    rwa [hp] at hn

lemma eval_matchIcmpv6 {type : UInt8} :
    evalRule sets p.toPacket (matchIcmpv6 type rest) register = some kind ↔
      (p.l4proto = some IPPROTO_ICMPV6 ∧ p.transportHeader.take 2 = [type, 0]) ∧
        evalRule sets p.toPacket rest [0] = some kind := by
  have hh : p.toPacket.header .TransportHeader = p.transportHeader := rfl
  rw [matchIcmpv6, eval_matchL4Proto, evalRule_payload, evalRule_cmp, evalRule_payload, evalRule_cmp, hh, and_assoc]
  refine and_congr_right fun _ => ?_
  cases p.transportHeader with
  | nil => simp
  | cons a header =>
    cases header with
    | nil => simp
    | cons b header =>
      constructor
      · rintro ⟨-, ha, -, hb, h⟩
        simp_all
      · rintro ⟨hab, h⟩
        simp_all

end Rules

end VpnClient.Linux
