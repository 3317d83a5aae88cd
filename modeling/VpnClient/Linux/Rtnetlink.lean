import VpnClient.Library.Attempts
import VpnClient.Linux.RouteMessages

/-! The kernel as the daemon on Linux deals with it: a parameter, and what is documented of it. -/

namespace VpnClient.Linux.RouteMessages

open Address Library.Attempts Library.LittleEndian Library.PaddedRecords

/-- The key of a route in the table of the daemon. -/
structure RouteKey where
  family : ℕ
  dstLen : ℕ
  dst : Bytes
  deriving DecidableEq

def routeKey (p : IPAddress) : RouteKey := ⟨family p.address, p.prefixLength, p.address.toBytes⟩

/-- A prefix without host bits. -/
abbrev Prefix := {p : IPAddress // p.Canonical}

def nlmsgType (nlmsg : Bytes) : ℕ := value ((nlmsg.drop 4).take 2)

def ifiIndex (msg : Bytes) : ℕ := value ((msg.drop 4).take 4)

/-- The calls that the daemon makes of the kernel, where `recv` reads into its buffer, what others do to it, and what
can be seen of it: the index of the wireguard interface, whether an interface is up and takes the routes of a family,
and the routes of the table. -/
structure Kernel (κ ω : Type) where
  wgAddDevice : Attempt κ
  wgDelDevice : Attempt κ
  ifNametoindex : κ → ℕ
  sendto : Bytes → Attempt κ
  recv : κ → Option Bytes × κ
  others : ω → κ → κ
  device : κ → Option ℕ
  takes : κ → ℕ → ℕ → Bool
  routes : κ → RouteKey → Option Route

/-- A message asks for a route, in the way that all messages of the daemon do. -/
def Asks (data : Bytes) (action flags : ℕ) (route : Route) : Prop :=
  ∃ request, Request.read data = some request ∧ request.type = action ∧
    request.flags = flags ||| NLM_F_REQUEST ||| NLM_F_ACK ∧ request.route = some route

section Messages

variable (type : ℕ) (p : IPAddress)

abbrev newRoute := WireguardUtilsLinux.rtmSendRoute RTM_NEWROUTE p type (NLM_F_CREATE ||| NLM_F_REPLACE)

abbrev delRoute := WireguardUtilsLinux.rtmSendRoute RTM_DELROUTE p type 0

end Messages

namespace Kernel

variable {κ ω : Type} (K : Kernel κ ω)

/-- What rtnetlink and the interfaces are documented to do. A message is acknowledged and others are told, but the
socket drops what does not fit, so that nothing is said of what waits in it; a link of which it is told that it is
gone is not there. A route that is not the one to delete may stay or go, as it does in the one family or the other. -/
structure Documented : Prop where
  ifNametoindex_lt (k : κ) : K.ifNametoindex k < 2 ^ 32
  routes_wgAddDevice (k : κ) : K.routes (K.wgAddDevice k).2 = K.routes k
  wgAddDevice (k : κ) : (K.wgAddDevice k).1 = true → K.device k = none
  not_wgAddDevice (k : κ) : (K.wgAddDevice k).1 = false → K.device (K.wgAddDevice k).2 = K.device k
  wgDelDevice (k : κ) : (K.wgDelDevice k).1 = true → ∃ index, K.device k = some index ∧
    K.device (K.wgDelDevice k).2 = none ∧
      ∀ key, K.routes (K.wgDelDevice k).2 key = (K.routes k key).filter fun route => route.oif ≠ some index
  not_wgDelDevice (k : κ) : (K.wgDelDevice k).1 = false →
    K.device (K.wgDelDevice k).2 = K.device k ∧ K.routes (K.wgDelDevice k).2 = K.routes k
  device_sendto (data : Bytes) (k : κ) : K.device (K.sendto data k).2 = K.device k
  not_sendto (data : Bytes) (k : κ) : (K.sendto data k).1 = false → K.routes (K.sendto data k).2 = K.routes k
  rule (data : Bytes) (k : κ) (request : Request) : Request.read data = some request →
    request.type = RTM_NEWRULE ∨ request.type = RTM_DELRULE → K.routes (K.sendto data k).2 = K.routes k
  newRoute (data : Bytes) (k : κ) (p : Prefix) (type ifindex : ℕ) : type = RTN_UNICAST ∨ type = RTN_THROW →
    Asks data RTM_NEWROUTE (NLM_F_CREATE ||| NLM_F_REPLACE) (WireguardUtilsLinux.routeOf p.1 type ifindex) →
    (K.sendto data k).1 = true → K.routes (K.sendto data k).2 =
      if type = RTN_THROW ∨ K.takes k ifindex (family p.1.address) = true then
        Function.update (K.routes k) (routeKey p.1) (some (WireguardUtilsLinux.routeOf p.1 type ifindex))
      else K.routes k
  delRoute (data : Bytes) (k : κ) (p : Prefix) (type ifindex : ℕ) : type = RTN_UNICAST ∨ type = RTN_THROW →
    Asks data RTM_DELROUTE 0 (WireguardUtilsLinux.routeOf p.1 type ifindex) → (K.sendto data k).1 = true →
    ∃ left, K.routes (K.sendto data k).2 = Function.update (K.routes k) (routeKey p.1) left ∧
      (left = none ∨ left = K.routes k (routeKey p.1)) ∧
      ∀ route, K.routes k (routeKey p.1) = some route → route.type = type →
        route.oif = (WireguardUtilsLinux.routeOf p.1 type ifindex).oif → left = none
  recv (k : κ) : K.device (K.recv k).2 = K.device k ∧ K.routes (K.recv k).2 = K.routes k
  dellink (k : κ) (data nlmsg : Bytes) : (K.recv k).1 = some data → nlmsg ∈ nlmsgs.walk data →
    nlmsgType nlmsg = RTM_DELLINK → K.device k ≠ some (ifiIndex (nlmsg.drop nlmsgs.header))
  others (o : ω) (k : κ) : K.device (K.others o k) = K.device k ∧ K.routes (K.others o k) = K.routes k

/-- There is a route through the interface for a prefix. -/
def Unicast (k : κ) (p : Prefix) : Prop :=
  ∃ route, K.routes k (routeKey p.1) = some route ∧ route.type = RTN_UNICAST ∧ route.oif.isSome = true ∧
    route.oif = K.device k

end Kernel

section Tables

/-- What waits in a socket: an acknowledgement, with the header of its message, or that a link is gone. -/
inductive Note where
  | ack (header : Bytes)
  | gone (index : UInt32)

def NLMSG_ERROR : ℕ := 2

def Note.toNlMsg : Note → NlMsg
  | .ack header => { type := NLMSG_ERROR, flags := 0, seq := 0, pid := 0, payload := bytes 4 0 ++ header.take 16 }
  | .gone index =>
    { type := RTM_DELLINK, flags := 0, seq := 0, pid := 0
      payload := bytes 4 0 ++ bytes 4 index.toNat ++ bytes 4 0 ++ bytes 4 0 }

/-- A kernel with the table of the daemon, whose socket holds all that comes. -/
structure Tables where
  device : Option UInt32 := none
  up : Bool := false
  next : UInt32 := 3
  routes : RouteKey → Option Route := fun _ => none
  waiting : List Note := []

namespace Tables

def takes (k : Tables) (index : ℕ) : Bool := k.up && k.device.map UInt32.toNat == some index

/-- A route is set unless its interface takes none, and one of the same type and interface is deleted. -/
def handle (k : Tables) (request : Request) : RouteKey → Option Route :=
  match request.route with
  | none => k.routes
  | some route =>
    let key : RouteKey := ⟨route.family, route.dstLen, route.dst⟩
    if request.type = RTM_NEWROUTE then
      if route.oif.all k.takes then Function.update k.routes key (some route) else k.routes
    else if request.type = RTM_DELROUTE then
      if (k.routes key).any fun old => old.type = route.type ∧ old.oif = route.oif then
        Function.update k.routes key none
      else k.routes
    else k.routes

end Tables

def tables : Kernel Tables Unit where
  wgAddDevice k :=
    if k.device = none then (true, { k with device := some k.next, up := false, next := k.next + 1 }) else (false, k)
  wgDelDevice k :=
    match k.device with
    | none => (false, k)
    | some index =>
      (true, { k with
        device := none, up := false, waiting := k.waiting ++ [.gone index]
        routes := fun key => (k.routes key).filter fun route => route.oif ≠ some index.toNat })
  ifNametoindex k := (k.device.map UInt32.toNat).getD 0
  sendto data k :=
    (true, { k with
      routes := ((Request.read data).map k.handle).getD k.routes, waiting := k.waiting ++ [.ack data] })
  recv k :=
    match k.waiting with
    | [] => (none, k)
    | .ack header :: waiting => (some (Note.ack header).toNlMsg.toBytes, { k with waiting })
    | .gone index :: waiting =>
      (if k.device = some index then none else some (Note.gone index).toNlMsg.toBytes, { k with waiting })
  others _ k := { k with up := k.device.isSome }
  device k := k.device.map UInt32.toNat
  takes k index _ := k.takes index
  routes k := k.routes

lemma walk_toBytes (note : Note) :
    nlmsgs.walk note.toNlMsg.toBytes = [note.toNlMsg.toBytes] ∧
      nlmsgType note.toNlMsg.toBytes = note.toNlMsg.type ∧
      note.toNlMsg.toBytes.drop nlmsgs.header = note.toNlMsg.payload := by
  have hl : note.toNlMsg.payload.length ≤ 20 := by
    cases note with
    | ack header =>
      simp only [Note.toNlMsg, List.length_append, length_bytes, List.length_take]
      omega
    | gone index => simp [Note.toNlMsg]
  have ht : note.toNlMsg.type < 2 ^ 16 := by
    cases note <;> exact of_decide_eq_true rfl
  have hr : nlmsgs.IsRecord note.toNlMsg.toBytes :=
    Layout.isRecord_record rfl (lt_of_le_of_lt (Nat.add_le_add_left hl _) (by decide))
  refine ⟨hr.walk_self, ?_, Layout.drop_record rfl⟩
  have hd : note.toNlMsg.toBytes.drop 4 = bytes 2 note.toNlMsg.type ++ (bytes 2 note.toNlMsg.flags ++
      bytes 4 note.toNlMsg.seq ++ bytes 4 note.toNlMsg.pid ++ note.toNlMsg.payload) := by
    rw [NlMsg.toBytes, Layout.record]
    simp only [List.append_assoc]
    exact List.drop_left' (length_bytes 4 _)
  rw [nlmsgType, hd, List.take_left' (length_bytes 2 _), value_bytes]
  exact Nat.mod_eq_of_lt ht

lemma ifiIndex_gone (index : UInt32) : ifiIndex (Note.gone index).toNlMsg.payload = index.toNat := by
  have hd : (Note.gone index).toNlMsg.payload.drop 4 = bytes 4 index.toNat ++ (bytes 4 0 ++ bytes 4 0) := by
    rw [Note.toNlMsg, List.append_assoc, List.append_assoc]
    exact List.drop_left' (length_bytes 4 0)
  rw [ifiIndex, hd, List.take_left' (length_bytes 4 _), value_bytes]
  exact Nat.mod_eq_of_lt index.toNat_lt

lemma tables_dellink (k : Tables) (data nlmsg : Bytes) (hr : (tables.recv k).1 = some data)
    (hm : nlmsg ∈ nlmsgs.walk data) (ht : nlmsgType nlmsg = RTM_DELLINK) :
    tables.device k ≠ some (ifiIndex (nlmsg.drop nlmsgs.header)) := by
  simp only [tables] at hr
  split at hr
  · cases hr
  · obtain rfl := Option.some.inj hr
    obtain ⟨hw, htype, -⟩ := walk_toBytes (.ack ‹_›)
    rw [hw, List.mem_singleton] at hm
    rw [hm, htype] at ht
    cases ht
  · next index _ _ =>
    dsimp only at hr
    split_ifs at hr with hd
    obtain rfl := Option.some.inj hr
    obtain ⟨hw, -, hp⟩ := walk_toBytes (.gone index)
    rw [hw, List.mem_singleton] at hm
    rw [hm, hp, ifiIndex_gone]
    intro h
    obtain ⟨i, hi, he⟩ := Option.map_eq_some_iff.mp h
    exact hd (hi.trans (congrArg some (UInt32.toNat_inj.mp he)))

lemma tables_documented : tables.Documented where
  ifNametoindex_lt k := by
    cases h : k.device with
    | none => simp [tables, h]
    | some index => simpa [tables, h] using index.toNat_lt
  routes_wgAddDevice k := by
    simp only [tables]
    split_ifs <;> rfl
  wgAddDevice k h := by
    simp only [tables] at h ⊢
    split_ifs at h with hd
    rw [hd]
    rfl
  not_wgAddDevice k h := by
    simp only [tables] at h ⊢
    split_ifs at h ⊢
    rfl
  wgDelDevice k h := by
    simp only [tables] at h ⊢
    split at h
    · cases h
    · next index hd => exact ⟨index.toNat, by rw [hd]; rfl, rfl, fun _ => rfl⟩
  not_wgDelDevice k h := by
    simp only [tables] at h ⊢
    split at h
    · exact ⟨rfl, rfl⟩
    · cases h
  device_sendto _ _ := rfl
  not_sendto _ _ h := by cases h
  rule data k request hr ht := by
    have hn : request.type ≠ RTM_NEWROUTE ∧ request.type ≠ RTM_DELROUTE := by
      rcases ht with h | h <;> rw [h] <;> decide
    simp only [tables, hr, Option.map_some, Option.getD_some, Tables.handle, if_neg hn.1, if_neg hn.2]
    split <;> rfl
  newRoute data k p type ifindex ht ha _ := by
    obtain ⟨request, hr, hty, -, hroute⟩ := ha
    simp only [tables, hr, Option.map_some, Option.getD_some, Tables.handle, hroute, if_pos hty]
    rcases ht with rfl | rfl <;>
      simp [WireguardUtilsLinux.routeOf, routeKey, RTN_UNICAST, RTN_THROW]
  delRoute data k p type ifindex ht ha _ := by
    obtain ⟨request, hr, hty, -, hroute⟩ := ha
    have hn : request.type ≠ RTM_NEWROUTE := by
      rw [hty]
      decide
    simp only [tables, hr, Option.map_some, Option.getD_some, Tables.handle, hroute, if_neg hn, if_pos hty]
    split_ifs with hany
    · exact ⟨none, rfl, .inl rfl, fun _ _ _ _ => rfl⟩
    · refine ⟨_, (Function.update_eq_self _ _).symm, .inr rfl, fun route hk htype ho => absurd ?_ hany⟩
      have hk' : k.routes ⟨(WireguardUtilsLinux.routeOf p.1 type ifindex).family,
        (WireguardUtilsLinux.routeOf p.1 type ifindex).dstLen,
        (WireguardUtilsLinux.routeOf p.1 type ifindex).dst⟩ = some route := hk
      rw [hk', Option.any_some, decide_eq_true_iff]
      exact ⟨htype, ho⟩
  recv k := by
    simp only [tables]
    split <;> exact ⟨rfl, rfl⟩
  dellink := tables_dellink
  others _ _ := ⟨rfl, rfl⟩

lemma canonical_ipv4 {a : BitVec 32} {n : ℕ} (hn : n ≤ 32) (h : ∀ i < 32, n ≤ i → a.getMsbD i = false) :
    IPAddress.Canonical ⟨.ipv4 a, n⟩ where
  length_le := hn
  host_bits i hi := by
    by_cases hlt : i < 32
    · exact h i hlt hi
    · exact BitVec.getMsbD_of_ge _ _ (Nat.le_of_not_lt hlt)

def gatewayNetwork : Prefix := ⟨⟨.ipv4 0x0a400000, 10⟩, canonical_ipv4 (by decide) (by decide)⟩

def localNetwork : Prefix := ⟨⟨.ipv4 0xc0a80000, 16⟩, canonical_ipv4 (by decide) (by decide)⟩

end Tables

end VpnClient.Linux.RouteMessages
