import VpnClient.Address.NetworkBytes
import VpnClient.Library.PaddedRecords

/-! The messages by which the daemon on Linux sets routes and routing rules, and those that it receives of links. -/

namespace VpnClient.Linux.RouteMessages

open Address Library.LittleEndian Library.PaddedRecords

def WG_FIREWALL_MARK : ℕ := 0xca6c
def WG_ROUTE_TABLE : ℕ := 0xca6c

def AF_INET : ℕ := 2
def AF_INET6 : ℕ := 10

def NLMSG_DONE : ℕ := 3
def RTM_NEWLINK : ℕ := 16
def RTM_DELLINK : ℕ := 17
def RTM_NEWROUTE : ℕ := 24
def RTM_DELROUTE : ℕ := 25
def RTM_NEWRULE : ℕ := 32
def RTM_DELRULE : ℕ := 33

def NLM_F_REQUEST : ℕ := 0x1
def NLM_F_ACK : ℕ := 0x4
def NLM_F_REPLACE : ℕ := 0x100
def NLM_F_CREATE : ℕ := 0x400

def RTA_DST : ℕ := 1
def RTA_OIF : ℕ := 4
def RTA_TABLE : ℕ := 15
def FRA_DST : ℕ := 1
def FRA_FWMARK : ℕ := 10
def FRA_TABLE : ℕ := 15

def RTN_UNICAST : ℕ := 1
def RTN_THROW : ℕ := 9
def RT_TABLE_UNSPEC : ℕ := 0
def RT_SCOPE_UNIVERSE : ℕ := 0
def RTPROT_BOOT : ℕ := 3
def FR_ACT_TO_TBL : ℕ := 1
def FIB_RULE_INVERT : ℕ := 2

/-- The layout of messages, whose header has the length, the type, the flags, the number and the sender. -/
def nlmsgs : Layout := ⟨4, 16, 4, by decide, by decide, by decide⟩

/-- The layout of attributes, whose header has the length and the type. -/
def attrs : Layout := ⟨4, 4, 2, by decide, by decide, by decide⟩

/-- The size of the headers of a route and of a rule. -/
def sizeofRtm : ℕ := 12

/-- A message in a buffer of zeros, whose payload is what is behind its header. -/
structure NlMsg where
  type : ℕ
  flags : ℕ
  seq : ℕ
  pid : ℕ
  payload : Bytes
  deriving DecidableEq

namespace NlMsg

def nlmsgLen (nlmsg : NlMsg) : ℕ := nlmsgs.header + nlmsg.payload.length

def toBytes (nlmsg : NlMsg) : Bytes :=
  nlmsgs.record (bytes 2 nlmsg.type ++ bytes 2 nlmsg.flags ++ bytes 4 nlmsg.seq ++ bytes 4 nlmsg.pid) nlmsg.payload

/-- An rtattr that does not fit into the buffer is left out. -/
def nlmsgAppendAttr (maxlen attrtype : ℕ) (attrdata : Bytes) (nlmsg : NlMsg) : NlMsg :=
  let newlen := nlmsgs.align nlmsg.nlmsgLen + attrs.align (attrs.header + attrdata.length)
  if newlen ≤ maxlen then
    { nlmsg with
      payload := nlmsg.payload ++ List.replicate (nlmsgs.align nlmsg.nlmsgLen - nlmsg.nlmsgLen) 0 ++
        attrs.padded (attrs.record (bytes 2 attrtype) attrdata) }
  else nlmsg

def nlmsgAppendAttr32 (maxlen attrtype value : ℕ) (nlmsg : NlMsg) : NlMsg :=
  nlmsg.nlmsgAppendAttr maxlen attrtype (bytes 4 value)

@[simp] lemma type_nlmsgAppendAttr (maxlen attrtype : ℕ) (attrdata : Bytes) (nlmsg : NlMsg) :
    (nlmsg.nlmsgAppendAttr maxlen attrtype attrdata).type = nlmsg.type := by
  rw [nlmsgAppendAttr]
  split_ifs <;> rfl

@[simp] lemma flags_nlmsgAppendAttr (maxlen attrtype : ℕ) (attrdata : Bytes) (nlmsg : NlMsg) :
    (nlmsg.nlmsgAppendAttr maxlen attrtype attrdata).flags = nlmsg.flags := by
  rw [nlmsgAppendAttr]
  split_ifs <;> rfl

end NlMsg

/-- What is read of a message: the header of the route or the rule, and the attributes. -/
structure Request where
  type : ℕ
  flags : ℕ
  header : Bytes
  attributes : List (ℕ × Bytes)
  deriving DecidableEq

namespace Request

def readAttr (attr : Bytes) : ℕ × Bytes := (value ((attr.drop 2).take 2), attr.drop attrs.header)

def readMessage (message : Bytes) : Request where
  type := value ((message.drop 4).take 2)
  flags := value ((message.drop 6).take 2)
  header := (message.drop nlmsgs.header).take sizeofRtm
  attributes := (attrs.walk (message.drop (nlmsgs.header + sizeofRtm))).map readAttr

/-- The reading of a datagram with one message. -/
def read (data : Bytes) : Option Request :=
  match nlmsgs.walk data with
  | [message] => some (readMessage message)
  | _ => none

end Request

/-- The family of an address, as `buildAllowedIp` takes it over. -/
def family (address : QHostAddress) : ℕ :=
  match address.protocol with
  | .IPv4Protocol => AF_INET
  | .IPv6Protocol => AF_INET6

/-- What the object keeps for its messages, which carry `pid`; its socket is bound to a number of its own. The bytes
of an address are those that `buildAllowedIp` means to read, from a text that is freed before `inet_pton` sees it. -/
structure WireguardUtilsLinux where
  pid : ℕ
  nlseq : ℕ := 0
  ifindex : ℕ := 0
  ifflags : BitVec 32 := 0
  routesExcluded : List IPAddress := []
  deriving DecidableEq

namespace WireguardUtilsLinux

/-- The space of an rtattr with so many bytes. -/
def rtaSpace (size : ℕ) : ℕ := attrs.align (attrs.header + size)

def nlmsgSpace (size : ℕ) : ℕ := nlmsgs.align (nlmsgs.header + size)

def rtmSendRule (action flags addrfamily : ℕ) (s : WireguardUtilsLinux) : NlMsg × WireguardUtilsLinux :=
  let maxlen := nlmsgSpace (sizeofRtm + 2 * rtaSpace 4)
  let rule : Bytes :=
    [UInt8.ofNat addrfamily, 0, 0, 0, UInt8.ofNat RT_TABLE_UNSPEC, 0, 0, UInt8.ofNat FR_ACT_TO_TBL] ++
      bytes 4 FIB_RULE_INVERT
  let nlmsg : NlMsg := { type := action, flags, seq := s.nlseq, pid := s.pid, payload := rule }
  ((nlmsg.nlmsgAppendAttr32 maxlen FRA_FWMARK WG_FIREWALL_MARK).nlmsgAppendAttr32 maxlen FRA_TABLE WG_ROUTE_TABLE,
    { s with nlseq := s.nlseq + 1 })

def rtmSendRoute (action : ℕ) (dest : IPAddress) (type flags : ℕ) (s : WireguardUtilsLinux) :
    NlMsg × WireguardUtilsLinux :=
  let maxlen := nlmsgSpace (sizeofRtm + 2 * rtaSpace 4 + rtaSpace 16)
  let rtm : Bytes :=
    [UInt8.ofNat (family dest.address), UInt8.ofNat dest.prefixLength, 0, 0, UInt8.ofNat RT_TABLE_UNSPEC,
      UInt8.ofNat RTPROT_BOOT, UInt8.ofNat RT_SCOPE_UNIVERSE, UInt8.ofNat type] ++ bytes 4 0
  let nlmsg : NlMsg :=
    { type := action, flags := flags ||| NLM_F_REQUEST ||| NLM_F_ACK, seq := s.nlseq, pid := s.pid, payload := rtm }
  let nlmsg := nlmsg.nlmsgAppendAttr32 maxlen RTA_TABLE WG_ROUTE_TABLE
  let nlmsg := nlmsg.nlmsgAppendAttr maxlen RTA_DST dest.address.toBytes
  let nlmsg := if type = RTN_UNICAST then nlmsg.nlmsgAppendAttr32 maxlen RTA_OIF s.ifindex else nlmsg
  (nlmsg, { s with nlseq := s.nlseq + 1 })

def rtmIncludePeer (action : ℕ) (dest : IPAddress) (flags : ℕ) (s : WireguardUtilsLinux) :
    NlMsg × WireguardUtilsLinux :=
  let maxlen := nlmsgSpace (sizeofRtm + rtaSpace 16 + 2 * rtaSpace 4)
  let rule : Bytes :=
    [UInt8.ofNat (family dest.address), UInt8.ofNat dest.prefixLength, 0, 0, UInt8.ofNat RT_TABLE_UNSPEC, 0, 0,
      UInt8.ofNat FR_ACT_TO_TBL] ++ bytes 4 0
  let nlmsg : NlMsg :=
    { type := action, flags := flags ||| NLM_F_REQUEST ||| NLM_F_ACK, seq := s.nlseq, pid := s.pid, payload := rule }
  let nlmsg := nlmsg.nlmsgAppendAttr32 maxlen FRA_FWMARK WG_FIREWALL_MARK
  let nlmsg := nlmsg.nlmsgAppendAttr32 maxlen FRA_TABLE WG_ROUTE_TABLE
  (nlmsg.nlmsgAppendAttr maxlen FRA_DST dest.address.toBytes, { s with nlseq := s.nlseq + 1 })

end WireguardUtilsLinux

section Reading

variable {nlmsg : NlMsg} {header : Bytes} {as : List (ℕ × Bytes)} {maxlen attrtype n : ℕ} {data : Bytes}

def rtattr (a : ℕ × Bytes) : Bytes := attrs.padded (attrs.record (bytes 2 a.1) a.2)

/-- A message whose payload is a header and attributes, in a buffer that holds them. -/
structure Carries (nlmsg : NlMsg) (header : Bytes) (as : List (ℕ × Bytes)) : Prop where
  payload : nlmsg.payload = header ++ as.flatMap rtattr
  header : header.length = sizeofRtm
  attributes : ∀ a ∈ as, a.1 < 2 ^ 16 ∧ a.2.length ≤ 16

lemma align_eq (l : Layout) (ha : l.alignTo = 4) (n : ℕ) : l.align n = (n + 3) / 4 * 4 := by
  rw [Layout.align, ha]
  rfl

lemma length_rtattr (a : ℕ × Bytes) : (rtattr a).length = (4 + a.2.length + 3) / 4 * 4 := by
  rw [rtattr, Layout.length_padded, Layout.length_record, length_bytes, align_eq attrs rfl]
  rfl

lemma dvd_length_flatMap (as : List (ℕ × Bytes)) : 4 ∣ (as.flatMap rtattr).length := by
  induction as with
  | nil => exact dvd_zero 4
  | cons a as ih =>
    rw [List.flatMap_cons, List.length_append, length_rtattr]
    exact dvd_add (Dvd.intro_left _ rfl) ih

lemma Carries.nlmsgLen (h : Carries nlmsg header as) :
    nlmsg.nlmsgLen = 28 + (as.flatMap rtattr).length := by
  rw [NlMsg.nlmsgLen, h.payload, List.length_append, h.header]
  have hn : nlmsgs.header + sizeofRtm = 28 := rfl
  omega

variable (maxlen attrtype data) in
lemma Carries.append (h : Carries nlmsg header as) (ha : attrtype < 2 ^ 16) (hd : data.length ≤ 16)
    (hm : nlmsg.nlmsgLen + (rtattr (attrtype, data)).length ≤ maxlen) :
    Carries (nlmsg.nlmsgAppendAttr maxlen attrtype data) header (as ++ [(attrtype, data)]) where
  payload := by
    have hl : nlmsgs.align nlmsg.nlmsgLen = nlmsg.nlmsgLen := by
      apply Layout.align_of_dvd
      rw [h.nlmsgLen]
      exact dvd_add (by decide) (dvd_length_flatMap as)
    have hs : attrs.align (attrs.header + data.length) = (rtattr (attrtype, data)).length := by
      rw [length_rtattr, align_eq attrs rfl]
      rfl
    rw [NlMsg.nlmsgAppendAttr, hl, hs, if_pos hm]
    simp [h.payload, rtattr]
  header := h.header
  attributes a hm := by
    rcases List.mem_append.mp hm with hm | hm
    · exact h.attributes a hm
    · obtain rfl := List.mem_singleton.mp hm
      exact ⟨ha, hd⟩

lemma isRecord_rtattr (hd : data.length ≤ 16) : attrs.IsRecord (attrs.record (bytes 2 n) data) := by
  have hp : 256 ^ attrs.lengthSize = 65536 := rfl
  have hh : attrs.header = 4 := rfl
  exact Layout.isRecord_record rfl (by omega)

lemma readAttr_record (ha : n < 2 ^ 16) : Request.readAttr (attrs.record (bytes 2 n) data) = (n, data) := by
  have hv : value (bytes 2 n) = n := by
    rw [value_bytes, Nat.mod_eq_of_lt (by simpa using ha)]
  have hd : (attrs.record (bytes 2 n) data).drop 2 = bytes 2 n ++ data := by
    rw [Layout.record, List.append_assoc]
    exact List.drop_left' (length_bytes 2 _)
  rw [Request.readAttr, hd, List.take_left' (length_bytes 2 n), hv]
  exact Prod.ext rfl (Layout.drop_record rfl)

lemma readAttrs (h : ∀ a ∈ as, a.1 < 2 ^ 16 ∧ a.2.length ≤ 16) :
    (attrs.walk (as.flatMap rtattr)).map Request.readAttr = as := by
  have hf : as.flatMap rtattr = (as.map fun a => attrs.record (bytes 2 a.1) a.2).flatMap attrs.padded := by
    rw [List.flatMap_map]
    rfl
  rw [hf, Layout.walk_flatMap, List.map_map]
  · calc as.map (Request.readAttr ∘ fun a => attrs.record (bytes 2 a.1) a.2) = as.map id :=
          List.map_congr_left fun a ha => readAttr_record (h a ha).1
      _ = as := List.map_id as
  · intro r hr
    obtain ⟨a, ha, rfl⟩ := List.mem_map.mp hr
    exact isRecord_rtattr (h a ha).2

lemma Carries.nlmsgLen_le (h : Carries nlmsg header as) : nlmsg.nlmsgLen ≤ 28 + 20 * as.length := by
  have hs : ∀ n ∈ as.map fun a => (rtattr a).length, n ≤ 20 := by
    intro n hn
    obtain ⟨a, ha, rfl⟩ := List.mem_map.mp hn
    have hd := (h.attributes a ha).2
    rw [length_rtattr]
    omega
  have hl := List.sum_le_card_nsmul _ 20 hs
  rw [List.length_map, smul_eq_mul] at hl
  rw [h.nlmsgLen, List.length_flatMap]
  omega

lemma Carries.read (h : Carries nlmsg header as) (ht : nlmsg.type < 2 ^ 16) (hf : nlmsg.flags < 2 ^ 16)
    (ha : as.length ≤ 3) : Request.read nlmsg.toBytes = some ⟨nlmsg.type, nlmsg.flags, header, as⟩ := by
  have hl : nlmsg.nlmsgLen < 2 ^ 32 := by
    have := h.nlmsgLen_le
    omega
  have hr : nlmsgs.IsRecord nlmsg.toBytes := Layout.isRecord_record rfl hl
  have hv : ∀ {n : ℕ}, n < 2 ^ 16 → value (bytes 2 n) = n := fun hn => by
    rw [value_bytes, Nat.mod_eq_of_lt (by simpa using hn)]
  have hd : nlmsg.toBytes.drop 4 = bytes 2 nlmsg.type ++ (bytes 2 nlmsg.flags ++ bytes 4 nlmsg.seq ++
      bytes 4 nlmsg.pid ++ nlmsg.payload) := by
    rw [NlMsg.toBytes, Layout.record]
    simp only [List.append_assoc]
    exact List.drop_left' (length_bytes 4 _)
  have hp : nlmsg.toBytes.drop nlmsgs.header = nlmsg.payload := Layout.drop_record rfl
  have hs : nlmsg.toBytes.drop 6 =
      bytes 2 nlmsg.flags ++ (bytes 4 nlmsg.seq ++ (bytes 4 nlmsg.pid ++ nlmsg.payload)) := by
    rw [show 6 = 4 + 2 from rfl, ← List.drop_drop, hd, List.drop_left' (length_bytes 2 _)]
    simp only [List.append_assoc]
  rw [Request.read, hr.walk_self]
  dsimp only
  rw [Request.readMessage, hd, List.take_left' (length_bytes 2 _), hv ht, hs, List.take_left' (length_bytes 2 _), hv hf,
    ← List.drop_drop, hp, h.payload, List.take_left' h.header, List.drop_left' h.header, readAttrs h.attributes]

end Reading

/-- A route as a message asks for it. -/
structure Route where
  table : ℕ
  family : ℕ
  dstLen : ℕ
  dst : Bytes
  type : ℕ
  oif : Option ℕ
  deriving DecidableEq

/-- A routing rule as a message asks for it. -/
structure Rule where
  family : ℕ
  dst : Option (ℕ × Bytes)
  fwmark : ℕ
  inverted : Bool
  table : ℕ
  deriving DecidableEq

namespace Request

def rtattr (attrtype : ℕ) (request : Request) : Option Bytes := request.attributes.lookup attrtype

def headerByte (i : ℕ) (request : Request) : ℕ := (request.header.getD i 0).toNat

/-- An attribute of the table takes the place of the table in the header. -/
def route (request : Request) : Option Route := do
  let dst ← request.rtattr RTA_DST
  pure
    { table := ((request.rtattr RTA_TABLE).map value).getD (request.headerByte 4)
      family := request.headerByte 0
      dstLen := request.headerByte 1
      dst
      type := request.headerByte 7
      oif := (request.rtattr RTA_OIF).map value }

def rule (request : Request) : Option Rule := do
  let fwmark ← request.rtattr FRA_FWMARK
  pure
    { family := request.headerByte 0
      dst := (request.rtattr FRA_DST).map fun dst => (request.headerByte 1, dst)
      fwmark := value fwmark
      inverted := value (request.header.drop 8) / FIB_RULE_INVERT % 2 = 1
      table := ((request.rtattr FRA_TABLE).map value).getD (request.headerByte 4) }

end Request

namespace WireguardUtilsLinux

variable {s : WireguardUtilsLinux} {dest : IPAddress} {action flags type addrfamily : ℕ}

lemma length_toBytes_le (address : QHostAddress) : address.toBytes.length ≤ 16 := by
  have hl := address.length_toBytes
  cases address with
  | ipv4 a =>
    have hw : (QHostAddress.ipv4 a).width = 32 := rfl
    omega
  | ipv6 a =>
    have hw : (QHostAddress.ipv6 a).width = 128 := rfl
    omega

lemma carries_header (action flags seq pid : ℕ) {header : Bytes} (h : header.length = sizeofRtm) :
    Carries { type := action, flags, seq, pid, payload := header } header [] :=
  ⟨(List.append_nil header).symm, h, fun _ ha => absurd ha List.not_mem_nil⟩

lemma length_rtattr32 (attrtype v : ℕ) : (rtattr (attrtype, bytes 4 v)).length = 8 := by
  rw [length_rtattr, length_bytes]

lemma length_rtattr_address (attrtype : ℕ) (address : QHostAddress) :
    (rtattr (attrtype, address.toBytes)).length ≤ 20 := by
  have ha := length_toBytes_le address
  rw [length_rtattr]
  dsimp only
  omega

/-- The attributes of the messages fit into their buffers, each after those before it. -/
lemma fits {nlmsg : NlMsg} {header : Bytes} {as : List (ℕ × Bytes)} {n maxlen : ℕ} (h : Carries nlmsg header as)
    (hn : 28 + (as.map fun a => (rtattr a).length).sum + n ≤ maxlen) : nlmsg.nlmsgLen + n ≤ maxlen := by
  rw [h.nlmsgLen, List.length_flatMap]
  exact hn

def routeHeader (dest : IPAddress) (type : ℕ) : Bytes :=
  [UInt8.ofNat (family dest.address), UInt8.ofNat dest.prefixLength, 0, 0, UInt8.ofNat RT_TABLE_UNSPEC,
    UInt8.ofNat RTPROT_BOOT, UInt8.ofNat RT_SCOPE_UNIVERSE, UInt8.ofNat type] ++ bytes 4 0

def routeAttributes (dest : IPAddress) (type ifindex : ℕ) : List (ℕ × Bytes) :=
  [(RTA_TABLE, bytes 4 WG_ROUTE_TABLE), (RTA_DST, dest.address.toBytes)] ++
    if type = RTN_UNICAST then [(RTA_OIF, bytes 4 ifindex)] else []

lemma carries_rtmSendRoute :
    Carries (s.rtmSendRoute action dest type flags).1 (routeHeader dest type)
      (routeAttributes dest type s.ifindex) := by
  have ht := length_rtattr32 RTA_TABLE WG_ROUTE_TABLE
  have hd := length_rtattr_address RTA_DST dest.address
  have ho := length_rtattr32 RTA_OIF s.ifindex
  have h₀ := carries_header action (flags ||| NLM_F_REQUEST ||| NLM_F_ACK) s.nlseq s.pid
    (show (routeHeader dest type).length = sizeofRtm by simp [routeHeader, sizeofRtm])
  have h₁ := h₀.append 64 RTA_TABLE (bytes 4 WG_ROUTE_TABLE) (by decide) (by simp) (fits h₀ (by simp; omega))
  have h₂ := h₁.append 64 RTA_DST dest.address.toBytes (by decide) (length_toBytes_le _) (fits h₁ (by simp; omega))
  have hm : nlmsgSpace (sizeofRtm + 2 * rtaSpace 4 + rtaSpace 16) = 64 := by decide
  rw [rtmSendRoute, hm, routeAttributes]
  dsimp only
  split_ifs with hu
  · exact h₂.append 64 RTA_OIF (bytes 4 s.ifindex) (by decide) (by simp) (fits h₂ (by simp; omega))
  · rw [List.append_nil]
    exact h₂

def ruleHeader (family dstLen flags : ℕ) : Bytes :=
  [UInt8.ofNat family, UInt8.ofNat dstLen, 0, 0, UInt8.ofNat RT_TABLE_UNSPEC, 0, 0, UInt8.ofNat FR_ACT_TO_TBL] ++
    bytes 4 flags

def ruleAttributes : List (ℕ × Bytes) :=
  [(FRA_FWMARK, bytes 4 WG_FIREWALL_MARK), (FRA_TABLE, bytes 4 WG_ROUTE_TABLE)]

variable (s) in
lemma carries_rule (action flags addrfamily dstLen v : ℕ) {maxlen : ℕ} (hm : 44 ≤ maxlen) :
    Carries (({ type := action, flags, seq := s.nlseq, pid := s.pid, payload := ruleHeader addrfamily dstLen v } :
      NlMsg).nlmsgAppendAttr32 maxlen FRA_FWMARK WG_FIREWALL_MARK |>.nlmsgAppendAttr32 maxlen FRA_TABLE WG_ROUTE_TABLE)
      (ruleHeader addrfamily dstLen v) ruleAttributes := by
  have hf := length_rtattr32 FRA_FWMARK WG_FIREWALL_MARK
  have ht := length_rtattr32 FRA_TABLE WG_ROUTE_TABLE
  have h₀ := carries_header action flags s.nlseq s.pid
    (show (ruleHeader addrfamily dstLen v).length = sizeofRtm by simp [ruleHeader, sizeofRtm])
  have h₁ := h₀.append maxlen FRA_FWMARK (bytes 4 WG_FIREWALL_MARK) (by decide) (by simp) (fits h₀ (by simp; omega))
  exact h₁.append maxlen FRA_TABLE (bytes 4 WG_ROUTE_TABLE) (by decide) (by simp) (fits h₁ (by simp; omega))

lemma carries_rtmSendRule :
    Carries (s.rtmSendRule action flags addrfamily).1 (ruleHeader addrfamily 0 FIB_RULE_INVERT) ruleAttributes :=
  carries_rule s action flags addrfamily 0 FIB_RULE_INVERT (by decide)

lemma carries_rtmIncludePeer :
    Carries (s.rtmIncludePeer action dest flags).1 (ruleHeader (family dest.address) dest.prefixLength 0)
      (ruleAttributes ++ [(FRA_DST, dest.address.toBytes)]) := by
  have hm : nlmsgSpace (sizeofRtm + rtaSpace 16 + 2 * rtaSpace 4) = 64 := by decide
  have hf := length_rtattr32 FRA_FWMARK WG_FIREWALL_MARK
  have ht := length_rtattr32 FRA_TABLE WG_ROUTE_TABLE
  have hd := length_rtattr_address FRA_DST dest.address
  rw [rtmIncludePeer, hm]
  have h₂ := carries_rule s action (flags ||| NLM_F_REQUEST ||| NLM_F_ACK) (family dest.address) dest.prefixLength 0
    (show 44 ≤ 64 by decide)
  exact h₂.append 64 FRA_DST dest.address.toBytes (by decide) (length_toBytes_le _)
    (fits h₂ (by simp [ruleAttributes]; omega))

lemma family_lt (address : QHostAddress) : family address < 256 := by
  cases address <;> exact of_decide_eq_true rfl

lemma toNat_ofNat {n : ℕ} (h : n < 256) : (UInt8.ofNat n).toNat = n := by
  rw [UInt8.toNat_ofNat']
  exact Nat.mod_eq_of_lt h

lemma prefixLength_lt (h : dest.prefixLength ≤ dest.address.width) : dest.prefixLength < 256 := by
  have hw : dest.address.width ≤ 128 := by
    rw [QHostAddress.width]
    cases dest.address.protocol <;> decide
  omega

lemma value_bytes4 {n : ℕ} (h : n < 2 ^ 32) : value (bytes 4 n) = n := by
  rw [value_bytes]
  exact Nat.mod_eq_of_lt h

/-- The route of a message that was made by `rtmSendRoute`. -/
def routeOf (dest : IPAddress) (type ifindex : ℕ) : Route where
  table := WG_ROUTE_TABLE
  family := family dest.address
  dstLen := dest.prefixLength
  dst := dest.address.toBytes
  type
  oif := if type = RTN_UNICAST then some ifindex else none

/-- What an object may be asked to send: the numbers fit into their fields. -/
structure Sendable (s : WireguardUtilsLinux) (action flags : ℕ) : Prop where
  ifindex : s.ifindex < 2 ^ 32
  action : action < 2 ^ 16
  flags : flags < 2 ^ 16

lemma flags_lt (h : flags < 2 ^ 16) : flags ||| NLM_F_REQUEST ||| NLM_F_ACK < 2 ^ 16 :=
  Nat.or_lt_two_pow (Nat.or_lt_two_pow h (by decide)) (by decide)

lemma read_rtmSendRoute (h : s.Sendable action flags) (hd : dest.prefixLength ≤ dest.address.width) (ht : type < 256) :
    ∃ request, Request.read (s.rtmSendRoute action dest type flags).1.toBytes = some request ∧ request.type = action ∧
      request.flags = flags ||| NLM_F_REQUEST ||| NLM_F_ACK ∧ request.route = some (routeOf dest type s.ifindex) := by
  have hx : (s.rtmSendRoute action dest type flags).1.type = action := by
    rw [rtmSendRoute]
    dsimp only
    split_ifs <;> simp [NlMsg.nlmsgAppendAttr32]
  have hf : (s.rtmSendRoute action dest type flags).1.flags = flags ||| NLM_F_REQUEST ||| NLM_F_ACK := by
    rw [rtmSendRoute]
    dsimp only
    split_ifs <;> simp [NlMsg.nlmsgAppendAttr32]
  have hn : (routeAttributes dest type s.ifindex).length ≤ 3 := by
    rw [routeAttributes]
    split_ifs <;> simp
  refine ⟨_, carries_rtmSendRoute.read (hx.trans_lt h.action) (hf.trans_lt (flags_lt h.flags)) hn, hx, hf, ?_⟩
  have hp := toNat_ofNat (prefixLength_lt hd)
  have hw : value (bytes 4 WG_ROUTE_TABLE) = WG_ROUTE_TABLE := by decide
  by_cases hu : type = RTN_UNICAST
  · simp [Request.route, Request.rtattr, Request.headerByte, routeHeader, routeAttributes, routeOf, hu, hp, hw,
      family_lt, value_bytes4 h.ifindex, List.lookup_cons, RTA_TABLE, RTA_DST, RTA_OIF, RTN_UNICAST]
  · simp [Request.route, Request.rtattr, Request.headerByte, routeHeader, routeAttributes, routeOf, hu, hp, hw,
      family_lt, toNat_ofNat ht, List.lookup_cons, RTA_TABLE, RTA_DST, RTA_OIF]

lemma read_rtmSendRule (h : s.Sendable action flags) (ha : addrfamily < 256) :
    ∃ request, Request.read (s.rtmSendRule action flags addrfamily).1.toBytes = some request ∧ request.type = action ∧
      request.flags = flags ∧ request.rule = some
        { family := addrfamily, dst := none, fwmark := WG_FIREWALL_MARK, inverted := true
          table := WG_ROUTE_TABLE } := by
  have hx : (s.rtmSendRule action flags addrfamily).1.type = action := by simp [rtmSendRule, NlMsg.nlmsgAppendAttr32]
  have hf : (s.rtmSendRule action flags addrfamily).1.flags = flags := by simp [rtmSendRule, NlMsg.nlmsgAppendAttr32]
  refine ⟨_, carries_rtmSendRule.read (hx.trans_lt h.action) (hf.trans_lt h.flags) (by decide), hx, hf, ?_⟩
  have hm : value (bytes 4 WG_FIREWALL_MARK) = WG_FIREWALL_MARK := by decide
  have hw : value (bytes 4 WG_ROUTE_TABLE) = WG_ROUTE_TABLE := by decide
  have hi : value (bytes 4 FIB_RULE_INVERT) / FIB_RULE_INVERT % 2 = 1 := by decide
  simp [Request.rule, Request.rtattr, Request.headerByte, ruleHeader, ruleAttributes, hm, hw, hi, toNat_ofNat ha,
    List.lookup_cons, FRA_FWMARK, FRA_TABLE, FRA_DST]

lemma read_rtmIncludePeer (h : s.Sendable action flags) (hd : dest.prefixLength ≤ dest.address.width) :
    ∃ request, Request.read (s.rtmIncludePeer action dest flags).1.toBytes = some request ∧ request.type = action ∧
      request.flags = flags ||| NLM_F_REQUEST ||| NLM_F_ACK ∧ request.rule = some
        { family := family dest.address, dst := some (dest.prefixLength, dest.address.toBytes)
          fwmark := WG_FIREWALL_MARK, inverted := false, table := WG_ROUTE_TABLE } := by
  have hx : (s.rtmIncludePeer action dest flags).1.type = action := by simp [rtmIncludePeer, NlMsg.nlmsgAppendAttr32]
  have hf : (s.rtmIncludePeer action dest flags).1.flags = flags ||| NLM_F_REQUEST ||| NLM_F_ACK := by
    simp [rtmIncludePeer, NlMsg.nlmsgAppendAttr32]
  have hn : (ruleAttributes ++ [(FRA_DST, dest.address.toBytes)]).length ≤ 3 := by simp [ruleAttributes]
  refine ⟨_, carries_rtmIncludePeer.read (hx.trans_lt h.action) (hf.trans_lt (flags_lt h.flags)) hn, hx, hf, ?_⟩
  have hp := toNat_ofNat (prefixLength_lt hd)
  have hm : value (bytes 4 WG_FIREWALL_MARK) = WG_FIREWALL_MARK := by decide
  have hw : value (bytes 4 WG_ROUTE_TABLE) = WG_ROUTE_TABLE := by decide
  have hi : value (bytes 4 0) / FIB_RULE_INVERT % 2 = 0 := by decide
  simp [Request.rule, Request.rtattr, Request.headerByte, ruleHeader, ruleAttributes, hm, hw, hi, hp,
    family_lt, List.lookup_cons, FRA_FWMARK, FRA_TABLE, FRA_DST]

variable (addrfamily) in
/-- Every message is read as the route or the rule that it was made for, with all its attributes. -/
theorem reads_requests (h : s.Sendable action flags) (hd : dest.prefixLength ≤ dest.address.width) (ht : type < 256)
    (ha : addrfamily < 256) :
    (∃ request, Request.read (s.rtmSendRoute action dest type flags).1.toBytes = some request ∧
        request.type = action ∧ request.flags = flags ||| NLM_F_REQUEST ||| NLM_F_ACK ∧
        request.route = some (routeOf dest type s.ifindex)) ∧
      (∃ request, Request.read (s.rtmSendRule action flags addrfamily).1.toBytes = some request ∧
        request.type = action ∧ request.flags = flags ∧ request.rule = some
          { family := addrfamily, dst := none, fwmark := WG_FIREWALL_MARK, inverted := true
            table := WG_ROUTE_TABLE }) ∧
      ∃ request, Request.read (s.rtmIncludePeer action dest flags).1.toBytes = some request ∧
        request.type = action ∧ request.flags = flags ||| NLM_F_REQUEST ||| NLM_F_ACK ∧ request.rule = some
          { family := family dest.address, dst := some (dest.prefixLength, dest.address.toBytes)
            fwmark := WG_FIREWALL_MARK, inverted := false, table := WG_ROUTE_TABLE } :=
  ⟨read_rtmSendRoute h hd ht, read_rtmSendRule h ha, read_rtmIncludePeer h hd⟩

theorem reads_requests_gateway :
    ∃ request, Request.read (rtmSendRoute RTM_NEWROUTE ⟨.ipv4 0x0a400001, 32⟩ RTN_UNICAST
        (NLM_F_CREATE ||| NLM_F_REPLACE) { pid := 7, ifindex := 3 }).1.toBytes = some request ∧ request.type = RTM_NEWROUTE ∧
      request.flags = NLM_F_CREATE ||| NLM_F_REPLACE ||| NLM_F_REQUEST ||| NLM_F_ACK ∧
      request.route = some (routeOf ⟨.ipv4 0x0a400001, 32⟩ RTN_UNICAST 3) :=
  (reads_requests AF_INET (s := { pid := 7, ifindex := 3 }) ⟨by decide, by decide, by decide⟩
    (by decide) (by decide) (by decide)).1

end WireguardUtilsLinux

end VpnClient.Linux.RouteMessages
