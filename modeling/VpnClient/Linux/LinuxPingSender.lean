import VpnClient.Library.InternetChecksum
import VpnClient.Library.PacketFilters

/-! The sender of the pings on Linux: what it puts on the wire, and which packets it takes for replies. -/

namespace VpnClient.Linux.EchoMessages

open Library.InternetChecksum Library.PacketFilters

namespace PingSender

/-- The words of the host have the low byte first, and an odd byte is the low one of a last word. -/
def inetChecksumLoop (sum : BitVec 32) : List UInt8 → BitVec 32
  | [] => sum
  | [last] => sum + BitVec.ofNat 32 last.toNat
  | lo :: hi :: w => inetChecksumLoop (sum + BitVec.ofNat 32 (lo.toNat + hi.toNat * 256)) w

def inetChecksum (data : List UInt8) : UInt16 :=
  let sum := inetChecksumLoop 0 data
  let sum := sum.sshiftRight 16 + (sum &&& 0xffff)
  let sum := sum + sum.sshiftRight 16
  UInt16.ofBitVec (~~~ sum.setWidth 16)

end PingSender

def ICMP_ECHOREPLY : UInt8 := 0
def ICMP_ECHO : UInt8 := 8

def htons (n : UInt16) : UInt16 := UInt16.ofNat (n.toNat % 256 * 256 + n.toNat / 256)

/-- The bytes of a field in the memory of the host. -/
def hostBytes (n : UInt16) : List UInt8 := [UInt8.ofNat (n.toNat % 256), UInt8.ofNat (n.toNat / 256)]

def ofHostBytes (lo hi : UInt8) : UInt16 := UInt16.ofNat (lo.toNat + hi.toNat * 256)

structure icmphdr where
  type : UInt8 := 0
  code : UInt8 := 0
  checksum : UInt16 := 0
  id : UInt16 := 0
  sequence : UInt16 := 0
  deriving DecidableEq

namespace icmphdr

def bytes (packet : icmphdr) : List UInt8 :=
  packet.type :: packet.code :: (hostBytes packet.checksum ++ hostBytes packet.id ++ hostBytes packet.sequence)

def sizeof : ℕ := 8

def ofBytes : List UInt8 → icmphdr
  | type :: code :: c₁ :: c₂ :: i₁ :: i₂ :: s₁ :: s₂ :: _ =>
    { type, code, checksum := ofHostBytes c₁ c₂, id := ofHostBytes i₁ i₂, sequence := ofHostBytes s₁ s₂ }
  | _ => {}

end icmphdr

/-- The length of the header of an IP packet, which its first byte gives in words of four bytes. -/
def iphdrlen : List UInt8 → ℕ
  | [] => 0
  | first :: _ => first.toNat % 16 * 4

inductive Errno where
  | EPERM
  | EACCES
  | other (errno : ℕ)
  deriving DecidableEq

/-- A datagram socket has an identifier of the kernel's choice, and a raw one the filter that was attached to it. -/
inductive Socket where
  | datagram (port : UInt16)
  | raw (filter : Option (List Instruction))
  deriving DecidableEq

structure LinuxPingSender where
  socket : Option Socket := none
  ident : UInt16 := 0
  deriving DecidableEq

/-- What the calls to the system come to: the error of the datagram socket, whether the raw one is created, whether its
filter is attached and whether the address is bound. -/
structure Env where
  pid : ℕ
  port : UInt16
  datagramErrno : Option Errno
  raw : Bool
  attached : Bool
  bound : Bool

namespace LinuxPingSender

def bpf_prog (ident : UInt16) : List Instruction :=
  [.ldxMsh 0,
    .ldInd 2 4,
    .jeq ident.toNat 1 0,
    .ret 0,
    .ldInd 1 0,
    .jeq ICMP_ECHOREPLY.toNat 1 0,
    .ret 0,
    .ret (2 ^ 32 - 1)]

def createSocket (env : Env) : LinuxPingSender :=
  match env.datagramErrno with
  | none => { socket := some (.datagram env.port), ident := 0 }
  | some errno =>
    if errno ≠ .EPERM ∧ errno ≠ .EACCES then {}
    else if ¬ env.raw then {}
    else
      let ident := UInt16.ofNat (env.pid % 65536)
      { socket := some (.raw (if env.attached then some (bpf_prog ident) else none)), ident }

def construct (env : Env) : LinuxPingSender :=
  let s := createSocket env
  if s.socket.isSome ∧ ¬ env.bound then { s with socket := none } else s

def isValid (s : LinuxPingSender) : Bool := s.socket.isSome

def sendPing (sequence : UInt16) (s : LinuxPingSender) : List UInt8 :=
  let packet : icmphdr := { type := ICMP_ECHO, id := htons s.ident, sequence := htons sequence }
  icmphdr.bytes { packet with checksum := PingSender.inetChecksum packet.bytes }

/-- `data` is what `recvfrom` has put into the buffer. -/
def icmpSocketReady (data : List UInt8) : Option UInt16 :=
  if data.length = 0 then none
  else if icmphdr.sizeof ≤ data.length then
    let packet := icmphdr.ofBytes data
    if packet.type = ICMP_ECHOREPLY then some (htons packet.sequence) else none
  else none

def rawSocketReady (data : List UInt8) (s : LinuxPingSender) : Option UInt16 :=
  let rc := data.length
  if rc = 0 then none
  else if rc < iphdrlen data ∨ iphdrlen data < 20 then none
  else if PingSender.inetChecksum (data.drop (iphdrlen data)) ≠ 0 then none
  else if iphdrlen data + icmphdr.sizeof ≤ rc then
    let packet := icmphdr.ofBytes (data.drop (iphdrlen data))
    if packet.type = ICMP_ECHOREPLY ∧ packet.id = htons s.ident then some (htons packet.sequence) else none
  else none

/-- The notifier calls the slot that the constructor has chosen by the identifier. -/
def activated (data : List UInt8) (s : LinuxPingSender) : Option UInt16 :=
  if s.ident ≠ 0 then s.rawSocketReady data else icmpSocketReady data

end LinuxPingSender

/-! The messages as the protocol has them. -/

def networkBytes (n : UInt16) : List UInt8 := [UInt8.ofNat (n.toNat / 256), UInt8.ofNat (n.toNat % 256)]

/-- An echo message with a right checksum, whose fields are in network byte order, and whose code is any. -/
def IsEcho (type : UInt8) (ident sequence : UInt16) (message : List UInt8) : Prop :=
  Valid message ∧
    ∃ code c₁ c₂ data, message = type :: code :: c₁ :: c₂ :: (networkBytes ident ++ (networkBytes sequence ++ data))

/-- The answer of a host has the data of the request and a checksum of its own. -/
def echoReply : List UInt8 → List UInt8
  | _ :: _ :: _ :: _ :: data => [0, 0] ++ (field [0, 0] data ++ data)
  | message => message

/-- A packet of the fourth version with a whole header. -/
def IsIPv4 (packet : List UInt8) : Prop :=
  (packet.head?.map fun first => first.toNat / 16) = some 4 ∧ 20 ≤ iphdrlen packet ∧ iphdrlen packet ≤ packet.length

instance (packet : List UInt8) : Decidable (IsIPv4 packet) := inferInstanceAs (Decidable (_ ∧ _))

def bufferSize : ℕ := 2048

namespace Socket

/-- The socket before a filter is attached to it. -/
def unfiltered : Socket → Socket
  | raw _ => raw none
  | datagram port => datagram port

/-- The message of a packet as far as its checksum is computed: by the sender over what it has read, or by the system
over the whole. -/
def kept (packet : List UInt8) : Socket → List UInt8
  | raw _ => (packet.take bufferSize).drop (iphdrlen packet)
  | datagram _ => packet.drop (iphdrlen packet)

end Socket

/-- What the system does for a socket: the message that leaves for one that is sent, and what `recvfrom` reads for a
packet, unless that is not given to the socket. -/
structure Sockets where
  transmitted : Socket → List UInt8 → List UInt8
  given : Socket → List UInt8 → Option (List UInt8)

/-- What is documented of the sockets. Any packet may be withheld, as one for another address or one that comes when
the buffer is full. A raw socket is given whole packets that its filter passes; a datagram socket sends with its own
identifier, and is given the messages to this identifier whose checksum is right. -/
structure Sockets.Documented (sockets : Sockets) : Prop where
  transmitted_raw (filter : Option (List Instruction)) (message : List UInt8) :
    sockets.transmitted (.raw filter) message = message
  transmitted_datagram (port ident sequence : UInt16) (message : List UInt8) :
    IsEcho ICMP_ECHO ident sequence message →
      IsEcho ICMP_ECHO port sequence (sockets.transmitted (.datagram port) message) ∧
        (sockets.transmitted (.datagram port) message).length = message.length
  filtered (program : List Instruction) (packet : List UInt8) : sockets.given (.raw (some program)) packet =
    if Passes program packet then sockets.given (.raw none) packet else none
  raw (packet data : List UInt8) : sockets.given (.raw none) packet = some data →
    IsIPv4 packet ∧ data = packet.take bufferSize
  datagram (port : UInt16) (packet data : List UInt8) : sockets.given (.datagram port) packet = some data →
    IsIPv4 packet ∧ Valid (packet.drop (iphdrlen packet)) ∧ 8 ≤ (packet.drop (iphdrlen packet)).length ∧
      (packet.drop (iphdrlen packet + 4)).take 2 = networkBytes port ∧
      data = (packet.drop (iphdrlen packet)).take bufferSize

namespace LinuxPingSender

variable (sockets : Sockets)

/-- The sequence number that the sender reports for a packet on the wire. -/
def receives (packet : List UInt8) (s : LinuxPingSender) : Option UInt16 :=
  s.socket.bind fun socket => (sockets.given socket packet).bind s.activated

def transmits (sequence : UInt16) (s : LinuxPingSender) : Option (List UInt8) :=
  s.socket.map fun socket => sockets.transmitted socket (s.sendPing sequence)

/-- The identifier of the messages on the wire. -/
def wireIdent (s : LinuxPingSender) : UInt16 :=
  match s.socket with
  | some (.datagram port) => port
  | _ => s.ident

/-- A raw socket without an identifier is read as if it were a datagram socket. -/
def listens (s : LinuxPingSender) : Bool :=
  match s.socket with
  | none => false
  | some (.datagram _) => true
  | some (.raw _) => s.ident ≠ 0

structure WellFormed (s : LinuxPingSender) : Prop where
  datagram : ∀ port, s.socket = some (.datagram port) → s.ident = 0
  raw : ∀ program, s.socket = some (.raw (some program)) → program = bpf_prog s.ident

end LinuxPingSender

section Fields

variable {n m ident sequence : UInt16} {lo hi : UInt8} {data message packet : List UInt8}

lemma toNat_htons (n : UInt16) : (htons n).toNat = n.toNat % 256 * 256 + n.toNat / 256 := by
  have := n.toNat_lt
  rw [htons, UInt16.toNat_ofNat']
  omega

lemma hostBytes_htons (n : UInt16) : hostBytes (htons n) = networkBytes n := by
  have := n.toNat_lt
  rw [hostBytes, networkBytes, toNat_htons]
  congr 2
  · omega
  · congr 2
    omega

lemma toNat_ofHostBytes (lo hi : UInt8) : (ofHostBytes lo hi).toNat = lo.toNat + hi.toNat * 256 := by
  have := lo.toNat_lt
  have := hi.toNat_lt
  rw [ofHostBytes, UInt16.toNat_ofNat']
  omega

lemma swap_eq_iff {a b k : ℕ} (ha : a < 256) (hk : k < 65536) :
    a + b * 256 = k % 256 * 256 + k / 256 ↔ a = k / 256 ∧ b = k % 256 := by
  have hq : k / 256 < 256 := by omega
  have hr : k % 256 < 256 := by omega
  generalize k / 256 = q at *
  generalize k % 256 = r at *
  omega

lemma cons_eq_networkBytes_iff : [lo, hi] = networkBytes n ↔ lo.toNat = n.toNat / 256 ∧ hi.toNat = n.toNat % 256 := by
  have hq : n.toNat / 256 % 256 = n.toNat / 256 := by have := n.toNat_lt; omega
  simp only [networkBytes, List.cons.injEq, and_true, ← UInt8.toNat_inj, UInt8.toNat_ofNat', Nat.reducePow, hq,
    Nat.mod_mod]

lemma ofHostBytes_eq_htons_iff : ofHostBytes lo hi = htons n ↔ [lo, hi] = networkBytes n := by
  rw [cons_eq_networkBytes_iff, ← UInt16.toNat_inj, toNat_ofHostBytes, toNat_htons]
  exact swap_eq_iff lo.toNat_lt n.toNat_lt

lemma networkBytes_injective : Function.Injective networkBytes := by
  intro n m h
  have hn : (UInt8.ofNat (n.toNat / 256)).toNat = n.toNat / 256 ∧ (UInt8.ofNat (n.toNat % 256)).toNat = n.toNat % 256 :=
    cons_eq_networkBytes_iff.mp rfl
  have hm : (UInt8.ofNat (n.toNat / 256)).toNat = m.toNat / 256 ∧ (UInt8.ofNat (n.toNat % 256)).toNat = m.toNat % 256 :=
    cons_eq_networkBytes_iff.mp h
  rw [← UInt16.toNat_inj]
  omega

lemma htons_htons (n : UInt16) : htons (htons n) = n := by
  have := n.toNat_lt
  rw [← UInt16.toNat_inj, toNat_htons, toNat_htons]
  omega

lemma htons_ofHostBytes_iff : htons (ofHostBytes lo hi) = n ↔ [lo, hi] = networkBytes n := by
  rw [← ofHostBytes_eq_htons_iff]
  constructor
  · rintro rfl
    rw [htons_htons]
  · intro h
    rw [h, htons_htons]

end Fields

section Checksum

open PingSender

variable {data : List UInt8}

lemma toNat_inetChecksumLoop (sum : BitVec 32) (data : List UInt8) :
    (inetChecksumLoop sum data).toNat = (sum.toNat + swappedSum data) % 2 ^ 32 := by
  induction data using swappedSum.induct generalizing sum with
  | case1 => simp [inetChecksumLoop, swappedSum, Nat.mod_eq_of_lt sum.isLt]
  | case2 last => simp [inetChecksumLoop, swappedSum]
  | case3 lo hi w ih =>
    rw [inetChecksumLoop, ih, swappedSum]
    simp only [BitVec.toNat_add, BitVec.toNat_ofNat]
    omega

lemma fold_eq {n : ℕ} (hn : n < 2 ^ 31) :
    (n / 65536 + n % 65536 + (n / 65536 + n % 65536) / 65536) % 65536 = residue n := by
  unfold residue
  split
  case isTrue h => omega
  case isFalse h =>
    -- The high half counts as much as the low one, as 65536 is one more than the modulus.
    have hm : (n - 1) % 65535 = (n / 65536 + n % 65536 - 1) % 65535 := by
      have hd : n - 1 = n / 65536 + n % 65536 - 1 + 65535 * (n / 65536) := by omega
      rw [hd, Nat.add_mul_mod_self_left]
    have hp : 0 < n / 65536 + n % 65536 := by omega
    have hl : n / 65536 + n % 65536 ≤ 98302 := by omega
    rw [hm]
    generalize n / 65536 + n % 65536 = a at hp hl
    rcases Nat.lt_or_ge a 65536 with ha | ha
    · rw [Nat.div_eq_of_lt ha, Nat.mod_eq_of_lt (by omega : a - 1 < 65535)]
      omega
    · have hc : a / 65536 = 1 := by omega
      rw [hc]
      omega

lemma toNat_sshiftRight {sum : BitVec 32} (h : sum.toNat < 2 ^ 31) :
    (sum.sshiftRight 16).toNat = sum.toNat / 65536 := by
  rw [BitVec.sshiftRight_eq_of_msb_false (BitVec.msb_eq_false_iff_two_mul_lt.mpr (by omega)),
    BitVec.toNat_ushiftRight, Nat.shiftRight_eq_div_pow]

lemma toNat_folds {sum : BitVec 32} (h : sum.toNat < 2 ^ 31) :
    let first := sum.sshiftRight 16 + (sum &&& 0xffff)
    (first + first.sshiftRight 16).toNat % 65536 = residue sum.toNat := by
  intro first
  have hand : (sum &&& 0xffff).toNat = sum.toNat % 65536 := by
    rw [BitVec.toNat_and]
    exact Nat.and_two_pow_sub_one_eq_mod _ 16
  have hfirst : first.toNat = sum.toNat / 65536 + sum.toNat % 65536 := by
    rw [BitVec.toNat_add, toNat_sshiftRight h, hand]
    exact Nat.mod_eq_of_lt (by omega)
  rw [BitVec.toNat_add, toNat_sshiftRight (by omega), hfirst, ← fold_eq h]
  omega

lemma toNat_inetChecksum (hl : data.length ≤ 65536) :
    (inetChecksum data).toNat = 65535 - residue (swappedSum data) := by
  have hs := swappedSum_le data
  have hn : swappedSum data < 2 ^ 31 := by omega
  have hsum : (inetChecksumLoop 0 data).toNat = swappedSum data := by
    rw [toNat_inetChecksumLoop]
    simp only [BitVec.ofNat_eq_ofNat, BitVec.toNat_ofNat]
    omega
  rw [inetChecksum, UInt16.toNat_ofBitVec, BitVec.toNat_not, BitVec.toNat_setWidth, ← hsum]
  exact congrArg (65535 - ·) (toNat_folds (by rw [hsum]; exact hn))

lemma inetChecksum_eq_zero (hl : data.length ≤ 65536) : inetChecksum data = 0 ↔ Valid data := by
  have hr := residue_le (swappedSum data)
  rw [valid_iff_swapped, ← UInt16.toNat_inj, toNat_inetChecksum hl]
  simp only [UInt16.toNat_zero]
  omega

end Checksum

section Messages

open LinuxPingSender

variable {s : LinuxPingSender} {ident port sequence : UInt16} {type : UInt8} {data message packet : List UInt8}

lemma eq_cons_of_length (hl : 8 ≤ message.length) :
    ∃ type code c₁ c₂ i₁ i₂ s₁ s₂ data, message = type :: code :: c₁ :: c₂ :: i₁ :: i₂ :: s₁ :: s₂ :: data := by
  rcases message with _ | ⟨type, _ | ⟨code, _ | ⟨c₁, _ | ⟨c₂, _ | ⟨i₁, _ | ⟨i₂, _ | ⟨s₁, _ | ⟨s₂, data⟩⟩⟩⟩⟩⟩⟩⟩
  case cons.cons.cons.cons.cons.cons.cons.cons => exact ⟨type, code, c₁, c₂, i₁, i₂, s₁, s₂, data, rfl⟩
  all_goals simp at hl

lemma read_iff : (8 ≤ message.length ∧ (icmphdr.ofBytes message).type = type ∧
      (icmphdr.ofBytes message).id = htons ident ∧ htons (icmphdr.ofBytes message).sequence = sequence) ↔
    ∃ code c₁ c₂ data,
      message = type :: code :: c₁ :: c₂ :: (networkBytes ident ++ (networkBytes sequence ++ data)) := by
  constructor
  · rintro ⟨hl, ht, hi, hs⟩
    obtain ⟨type', code, c₁, c₂, i₁, i₂, s₁, s₂, data, rfl⟩ := eq_cons_of_length hl
    rw [icmphdr.ofBytes] at ht hi hs
    rw [ofHostBytes_eq_htons_iff] at hi
    rw [htons_ofHostBytes_iff] at hs
    exact ⟨code, c₁, c₂, data, by rw [← hi, ← hs, ← ht]; rfl⟩
  · rintro ⟨code, c₁, c₂, data, rfl⟩
    refine ⟨by simp [networkBytes], rfl, ?_, ?_⟩
    · exact ofHostBytes_eq_htons_iff.mpr rfl
    · exact htons_ofHostBytes_iff.mpr rfl

lemma ofBytes_take (hl : 8 ≤ message.length) : icmphdr.ofBytes (message.take bufferSize) = icmphdr.ofBytes message := by
  obtain ⟨type, code, c₁, c₂, i₁, i₂, s₁, s₂, data, rfl⟩ := eq_cons_of_length hl
  rfl

lemma rawSocketReady_iff (hl : data.length ≤ bufferSize) : s.rawSocketReady data = some sequence ↔
    20 ≤ iphdrlen data ∧ iphdrlen data ≤ data.length ∧
      IsEcho ICMP_ECHOREPLY s.ident sequence (data.drop (iphdrlen data)) := by
  have hc : PingSender.inetChecksum (data.drop (iphdrlen data)) = 0 ↔ Valid (data.drop (iphdrlen data)) := by
    apply inetChecksum_eq_zero
    rw [List.length_drop]
    rw [bufferSize] at hl
    omega
  have hn : iphdrlen data + icmphdr.sizeof ≤ data.length ↔
      iphdrlen data ≤ data.length ∧ 8 ≤ (data.drop (iphdrlen data)).length := by
    rw [icmphdr.sizeof, List.length_drop]
    omega
  rw [IsEcho, ← read_iff, rawSocketReady]
  simp only [ne_eq, hc, hn]
  grind

lemma icmpSocketReady_iff : icmpSocketReady data = some sequence ↔ 8 ≤ data.length ∧
    (icmphdr.ofBytes data).type = ICMP_ECHOREPLY ∧ htons (icmphdr.ofBytes data).sequence = sequence := by
  rw [icmpSocketReady, icmphdr.sizeof]
  grind

lemma toNat_eq_iff {hi lo : UInt8} : hi.toNat * 256 + lo.toNat = ident.toNat ↔ [hi, lo] = networkBytes ident := by
  have := hi.toNat_lt
  have := lo.toNat_lt
  rw [cons_eq_networkBytes_iff]
  omega

lemma take_two_eq_iff {rest : List UInt8} : rest.take 2 = networkBytes ident ↔
    ∃ hi lo data, rest = hi :: lo :: data ∧ hi.toNat * 256 + lo.toNat = ident.toNat := by
  constructor
  · intro h
    rcases rest with _ | ⟨hi, _ | ⟨lo, data⟩⟩
    · simp [networkBytes] at h
    · simp [networkBytes] at h
    · exact ⟨hi, lo, data, rfl, toNat_eq_iff.mpr h⟩
  · rintro ⟨hi, lo, data, rfl, h⟩
    exact toNat_eq_iff.mp h

/-- The filter passes what looks like a reply to this sender, whatever the header is. -/
lemma passes_iff : Passes (bpf_prog ident) packet ↔
    packet[iphdrlen packet]? = some ICMP_ECHOREPLY ∧
      (packet.drop (iphdrlen packet + 4)).take 2 = networkBytes ident := by
  rw [Passes, bpf_prog, run_ldxMsh_ne_zero]
  simp only [run_ldInd_ne_zero, run_guard_ne_zero, run_ret, take_two_eq_iff, ← load_two_eq_some, load_one]
  cases packet with
  | nil => simp
  | cons first rest =>
    have hb (k : ℕ) : (∃ value, ((first :: rest)[k]?).map UInt8.toNat = some value ∧ value = ICMP_ECHOREPLY.toNat) ↔
        (first :: rest)[k]? = some ICMP_ECHOREPLY := by
      cases (first :: rest)[k]? with
      | none => simp
      | some byte => simp [UInt8.toNat_inj]
    rw [iphdrlen, Nat.mul_comm, ← hb]
    constructor
    · rintro ⟨value, hv, word, hw, rfl, byte, hbyte, rfl, -⟩
      obtain rfl : first.toNat = value := by simpa using hv
      exact ⟨⟨_, hbyte, rfl⟩, hw⟩
    · rintro ⟨⟨byte, hbyte, rfl⟩, hw⟩
      exact ⟨first.toNat, rfl, ident.toNat, hw, rfl, _, hbyte, rfl, by decide⟩

lemma iphdrlen_le (packet : List UInt8) : iphdrlen packet ≤ 60 := by
  cases packet with
  | nil => exact Nat.zero_le _
  | cons first rest =>
    rw [iphdrlen]
    omega

lemma iphdrlen_take (packet : List UInt8) : iphdrlen (packet.take bufferSize) = iphdrlen packet := by
  cases packet with
  | nil => rfl
  | cons first rest => rfl

/-- The filter lets each packet through that the sender accepts, though it sees more of it. -/
lemma passes_of_isEcho (h : IsEcho ICMP_ECHOREPLY ident sequence ((packet.take bufferSize).drop (iphdrlen packet))) :
    Passes (bpf_prog ident) packet := by
  obtain ⟨-, code, c₁, c₂, data, he⟩ := h
  rw [List.drop_take] at he
  obtain ⟨rest, hr⟩ : ∃ rest, packet.drop (iphdrlen packet) =
      ICMP_ECHOREPLY :: code :: c₁ :: c₂ :: (networkBytes ident ++ (networkBytes sequence ++ data)) ++ rest :=
    ⟨_, by rw [← he]; exact (List.take_append_drop _ _).symm⟩
  rw [passes_iff]
  constructor
  · rw [← Nat.add_zero (iphdrlen packet), ← List.getElem?_drop, hr]
    rfl
  · rw [← List.drop_drop, hr]
    rfl

/-- A packet that is read as a message has its version where the type should be. -/
lemma icmpSocketReady_packet (h : IsIPv4 packet) : icmpSocketReady (packet.take bufferSize) = none := by
  rw [Option.eq_none_iff_forall_ne_some]
  intro sequence hs
  obtain ⟨hl, ht, -⟩ := icmpSocketReady_iff.mp hs
  have hl : 8 ≤ packet.length := by
    rw [List.length_take] at hl
    omega
  rw [ofBytes_take hl] at ht
  obtain ⟨type, code, c₁, c₂, i₁, i₂, s₁, s₂, data, rfl⟩ := eq_cons_of_length hl
  obtain rfl : type = ICMP_ECHOREPLY := ht
  have hv := h.1
  rw [List.head?_cons, Option.map_some] at hv
  revert hv
  decide

/-- A message that the system has found to be to the identifier of the socket. -/
lemma icmpSocketReady_message (hv : Valid message) (hl : 8 ≤ message.length)
    (hp : (message.drop 4).take 2 = networkBytes port) :
    icmpSocketReady (message.take bufferSize) = some sequence ↔ IsEcho ICMP_ECHOREPLY port sequence message := by
  rw [IsEcho, ← read_iff, icmpSocketReady_iff, List.length_take, ofBytes_take hl]
  have hi : (icmphdr.ofBytes message).id = htons port := by
    obtain ⟨type, code, c₁, c₂, i₁, i₂, s₁, s₂, data, rfl⟩ := eq_cons_of_length hl
    exact ofHostBytes_eq_htons_iff.mpr hp
  have hb : 8 ≤ min bufferSize message.length := le_min (by decide) hl
  constructor
  · rintro ⟨-, ht, hs⟩
    exact ⟨hv, hl, ht, hi, hs⟩
  · rintro ⟨-, -, ht, -, hs⟩
    exact ⟨hb, ht, hs⟩

end Messages

namespace LinuxPingSender

variable {s : LinuxPingSender} {env : Env} {packet : List UInt8} {sequence : UInt16} {socket : Socket}

lemma wellFormed_none (hs : s.socket = none) : s.WellFormed := by
  constructor
  · intro port h
    rw [hs] at h
    cases h
  · intro program h
    rw [hs] at h
    cases h

lemma wellFormed_createSocket (env : Env) : (createSocket env).WellFormed := by
  rw [createSocket]
  split
  case h_1 => exact ⟨fun _ _ => rfl, fun _ h => by cases h⟩
  case h_2 errno _ =>
    split_ifs
    · exact wellFormed_none rfl
    · refine ⟨fun _ h => ?_, fun _ h => ?_⟩ <;> cases h
      rfl
    · refine ⟨fun _ h => ?_, fun _ h => ?_⟩ <;> cases h
    · exact wellFormed_none rfl

lemma wellFormed_construct (env : Env) : (construct env).WellFormed := by
  rw [construct]
  split
  · exact wellFormed_none rfl
  · exact wellFormed_createSocket env

variable {sockets : Sockets}

lemma receives_datagram (hS : sockets.Documented) (port : UInt16) :
    (sockets.given (.datagram port) packet).bind icmpSocketReady = some sequence ↔
      (sockets.given (.datagram port) packet).isSome = true ∧
        IsEcho ICMP_ECHOREPLY port sequence (packet.drop (iphdrlen packet)) := by
  cases hg : sockets.given (.datagram port) packet with
  | none => simp
  | some data =>
    obtain ⟨-, hv, hl, hp, rfl⟩ := hS.datagram port packet data hg
    rw [← List.drop_drop] at hp
    rw [Option.bind_some, icmpSocketReady_message hv hl hp]
    simp

/-- The filter keeps nothing from the sender that it would accept. -/
lemma receives_raw (hS : sockets.Documented) {filter : Option (List Instruction)}
    (hf : ∀ program ∈ filter, program = bpf_prog s.ident) :
    (sockets.given (.raw filter) packet).bind s.rawSocketReady = some sequence ↔
      (sockets.given (.raw none) packet).isSome = true ∧
        IsEcho ICMP_ECHOREPLY s.ident sequence ((packet.take bufferSize).drop (iphdrlen packet)) := by
  have hunfiltered : (sockets.given (.raw none) packet).bind s.rawSocketReady = some sequence ↔
      (sockets.given (.raw none) packet).isSome = true ∧
        IsEcho ICMP_ECHOREPLY s.ident sequence ((packet.take bufferSize).drop (iphdrlen packet)) := by
    cases hg : sockets.given (.raw none) packet with
    | none => simp
    | some data =>
      obtain ⟨⟨-, hp, hn⟩, rfl⟩ := hS.raw packet data hg
      have hh := iphdrlen_le packet
      have hl : iphdrlen packet ≤ (packet.take bufferSize).length := by
        rw [List.length_take, bufferSize]
        omega
      rw [Option.bind_some, rawSocketReady_iff (List.length_take_le _ _), iphdrlen_take]
      exact ⟨fun h => ⟨rfl, h.2.2⟩, fun h => ⟨hp, hl, h.2⟩⟩
  cases filter with
  | none => exact hunfiltered
  | some program =>
    obtain rfl := hf program rfl
    rw [hS.filtered]
    split_ifs with hpass
    · exact hunfiltered
    · exact iff_of_false (by simp) fun h => hpass (passes_of_isEcho h.2)

/-- What the sender reports are the sequence numbers of the replies to its identifier that its socket is given. -/
lemma WellFormed.receives_iff (hS : sockets.Documented) (h : s.WellFormed) :
    s.receives sockets packet = some sequence ↔
      ∃ socket, s.socket = some socket ∧ s.listens = true ∧ (sockets.given socket.unfiltered packet).isSome = true ∧
        IsEcho ICMP_ECHOREPLY s.wireIdent sequence (socket.kept packet) := by
  rw [receives, Option.bind_eq_some_iff]
  refine exists_congr fun socket => and_congr_right fun hs => ?_
  cases socket with
  | datagram port =>
    have ha : s.activated = icmpSocketReady := by
      funext data
      rw [activated, if_neg (not_not.mpr (h.datagram port hs))]
    have hl : s.listens = true := by rw [listens, hs]
    have hw : s.wireIdent = port := by rw [wireIdent, hs]
    rw [ha, hw, receives_datagram hS, Socket.kept]
    exact (and_iff_right hl).symm
  | raw filter =>
    have hw : s.wireIdent = s.ident := by rw [wireIdent, hs]
    have hl : s.listens = true ↔ s.ident ≠ 0 := by simp [listens, hs]
    have hf : ∀ program ∈ filter, program = bpf_prog s.ident := by
      rintro program rfl
      exact h.raw program hs
    rw [hw, hl, Socket.kept]
    by_cases hi : s.ident = 0
    · have ha : activated (packet.take bufferSize) s = icmpSocketReady (packet.take bufferSize) := by
        rw [activated, if_neg (not_not.mpr hi)]
      refine iff_of_false (fun hr => ?_) fun hr => hr.1 hi
      obtain ⟨data, hg, hd⟩ := Option.bind_eq_some_iff.mp hr
      -- Without an identifier a packet is read as if it were a message.
      have hraw : sockets.given (.raw none) packet = some data := by
        cases filter with
        | none => exact hg
        | some program =>
          rw [hS.filtered] at hg
          split_ifs at hg
          exact hg
      obtain ⟨hp, rfl⟩ := hS.raw packet data hraw
      rw [ha, icmpSocketReady_packet hp] at hd
      cases hd
    · have ha : s.activated = s.rawSocketReady := by
        funext data
        rw [activated, if_pos hi]
      rw [ha, receives_raw hS hf]
      exact (and_iff_right hi).symm

/-- A sender that is used, as it is valid, fails to listen when the lower half of the process's identifier is zero and
there is no datagram socket. -/
lemma listens_iff (env : Env) : (construct env).listens = true ↔
    (construct env).isValid = true ∧ (env.datagramErrno = none ∨ env.pid % 65536 ≠ 0) := by
  have hp : UInt16.ofNat (env.pid % 65536) = 0 ↔ env.pid % 65536 = 0 := by
    rw [← UInt16.toNat_inj, UInt16.toNat_ofNat']
    simp
  rw [construct, createSocket]
  cases env.datagramErrno with
  | none => cases hb : env.bound <;> simp [listens, isValid]
  | some errno =>
    by_cases he : errno ≠ .EPERM ∧ errno ≠ .EACCES
    · simp [he, listens, isValid]
    · cases hr : env.raw <;> cases hb : env.bound <;> simp [he, hp, listens, isValid]

/-- Sockets that are given all that they may be. -/
def plainSockets : Sockets where
  transmitted
    | .datagram port, type :: code :: _ :: _ :: _ :: _ :: data =>
      [type, code] ++ (field [type, code] (networkBytes port ++ data) ++ (networkBytes port ++ data))
    | _, message => message
  given
    | .raw filter, packet =>
      if IsIPv4 packet ∧ packet[9]? = some 1 ∧ ∀ program ∈ filter, Passes program packet then
        some (packet.take bufferSize)
      else none
    | .datagram port, packet =>
      let message := packet.drop (iphdrlen packet)
      if IsIPv4 packet ∧ packet[9]? = some 1 ∧ Valid message ∧ 8 ≤ message.length ∧
        (packet.drop (iphdrlen packet + 4)).take 2 = networkBytes port
      then some (message.take bufferSize) else none

lemma plainSockets_documented : plainSockets.Documented where
  transmitted_raw _ _ := rfl
  transmitted_datagram port ident sequence message h := by
    obtain ⟨-, code, c₁, c₂, data, rfl⟩ := h
    exact ⟨⟨valid_field (by simp), code, _, _, data, rfl⟩, by simp [plainSockets, field, networkBytes]⟩
  filtered program packet := by
    simp only [plainSockets, Option.mem_def, Option.some.injEq, forall_eq', reduceCtorEq, false_implies, implies_true,
      and_true]
    by_cases hp : Passes program packet
    · simp [hp]
    · simp [hp]
  raw packet data h := by
    simp only [plainSockets] at h
    split_ifs at h with hc
    exact ⟨hc.1, (Option.some.inj h).symm⟩
  datagram port packet data h := by
    simp only [plainSockets] at h
    split_ifs at h with hc
    exact ⟨hc.1, hc.2.2.1, hc.2.2.2.1, hc.2.2.2.2, (Option.some.inj h).symm⟩

theorem construct_receives_iff (hS : sockets.Documented) (env : Env) (packet : List UInt8) (sequence : UInt16) :
    (construct env).receives sockets packet = some sequence ↔
      ∃ socket, (construct env).socket = some socket ∧ (construct env).listens = true ∧
        (sockets.given socket.unfiltered packet).isSome = true ∧
        IsEcho ICMP_ECHOREPLY (construct env).wireIdent sequence (socket.kept packet) :=
  (wellFormed_construct env).receives_iff hS

/-- A process that may open raw sockets only. -/
def rawEnv : Env where
  pid := 70000
  port := 0
  datagramErrno := some .EACCES
  raw := true
  attached := true
  bound := true

/-- A whole header of an IPv4 packet for the control messages. -/
def plainHeader : List UInt8 := [0x45, 0, 0, 28, 0, 0, 0, 0, 64, 1, 0, 0, 0, 0, 0, 0, 0, 0, 0, 0]

theorem construct_receives_reply :
    (construct rawEnv).receives plainSockets (plainHeader ++ [0, 0, 0xee, 0x89, 0x11, 0x70, 0, 6]) = some 6 := by
  refine (construct_receives_iff plainSockets_documented rawEnv _ 6).mpr ⟨_, rfl, by decide, by decide +kernel, ?_⟩
  exact ⟨by decide, 0, 0xee, 0x89, [], by decide +kernel⟩

end LinuxPingSender

section Sending

open LinuxPingSender

variable {s : LinuxPingSender} {ident sequence : UInt16} {message header : List UInt8} {socket : Socket}

lemma swappedSum_hostBytes (n : UInt16) : swappedSum (hostBytes n) = n.toNat := by
  have := n.toNat_lt
  simp only [hostBytes, swappedSum, UInt8.toNat_ofNat']
  omega

lemma swappedSum_bytes (packet : icmphdr) :
    swappedSum packet.bytes = swappedSum (icmphdr.bytes { packet with checksum := 0 }) + packet.checksum.toNat := by
  have hb (p : icmphdr) : swappedSum p.bytes = swappedSum [p.type, p.code] +
      (p.checksum.toNat + (p.id.toNat + p.sequence.toNat)) := by
    have he : p.bytes = [p.type, p.code] ++ (hostBytes p.checksum ++ (hostBytes p.id ++ hostBytes p.sequence)) := by
      simp [icmphdr.bytes]
    rw [he, swappedSum_append (by simp), swappedSum_append (by simp [hostBytes]),
      swappedSum_append (by simp [hostBytes]), swappedSum_hostBytes, swappedSum_hostBytes, swappedSum_hostBytes]
  rw [hb, hb]
  simp only [UInt16.toNat_zero]
  omega

lemma isEcho_sendPing (sequence : UInt16) (s : LinuxPingSender) :
    IsEcho ICMP_ECHO s.ident sequence (s.sendPing sequence) := by
  constructor
  · rw [valid_iff_swapped, sendPing, swappedSum_bytes]
    simp only
    rw [toNat_inetChecksum (by simp [icmphdr.bytes, hostBytes])]
    exact residue_add_complement _
  · have hb (packet : icmphdr) : ∃ c₁ c₂, packet.bytes =
        packet.type :: packet.code :: c₁ :: c₂ :: (hostBytes packet.id ++ hostBytes packet.sequence) :=
      ⟨_, _, rfl⟩
    obtain ⟨c₁, c₂, he⟩ := hb { type := ICMP_ECHO, checksum := _, id := htons s.ident, sequence := htons sequence }
    rw [hostBytes_htons, hostBytes_htons] at he
    exact ⟨0, c₁, c₂, [], by rw [sendPing, he, List.append_nil]⟩

variable {sockets : Sockets}

lemma isEcho_of_transmits (hS : sockets.Documented) (ht : s.transmits sockets sequence = some message) :
    message.length = 8 ∧ IsEcho ICMP_ECHO s.wireIdent sequence message := by
  obtain ⟨socket, hs, rfl⟩ := Option.map_eq_some_iff.mp ht
  rw [wireIdent, hs]
  cases socket with
  | datagram port =>
    obtain ⟨he, hl⟩ := hS.transmitted_datagram port s.ident sequence _ (isEcho_sendPing sequence s)
    exact ⟨hl, he⟩
  | raw filter =>
    rw [hS.transmitted_raw]
    exact ⟨rfl, isEcho_sendPing sequence s⟩

lemma length_echoReply (hl : 4 ≤ message.length) : (echoReply message).length = message.length := by
  rcases message with _ | ⟨type, _ | ⟨code, _ | ⟨c₁, _ | ⟨c₂, data⟩⟩⟩⟩
  case cons.cons.cons.cons => simp [echoReply, field]
  all_goals simp at hl

lemma IsEcho.echoReply (h : IsEcho ICMP_ECHO ident sequence message) :
    IsEcho ICMP_ECHOREPLY ident sequence (echoReply message) := by
  obtain ⟨-, code, c₁, c₂, data, rfl⟩ := h
  exact ⟨valid_field (by simp), 0, _, _, data, rfl⟩

lemma iphdrlen_append (h : IsIPv4 header) : iphdrlen (header ++ message) = iphdrlen header := by
  cases header with
  | nil => cases h.1
  | cons first rest => rfl

lemma IsIPv4.append (h : IsIPv4 header) : IsIPv4 (header ++ message) := by
  rw [IsIPv4, iphdrlen_append h, List.length_append]
  refine ⟨?_, h.2.1, by have := h.2.2; omega⟩
  cases header with
  | nil => cases h.1
  | cons first rest => exact h.1

lemma kept_append (h : IsIPv4 header) (hh : iphdrlen header = header.length) (hl : message.length = 8) :
    socket.kept (header ++ message) = message := by
  have hn := iphdrlen_le header
  cases socket with
  | datagram port => rw [Socket.kept, iphdrlen_append h, hh, List.drop_left]
  | raw filter =>
    rw [Socket.kept, iphdrlen_append h, hh, List.take_of_length_le, List.drop_left]
    rw [List.length_append, bufferSize]
    omega

/-- The answer of a host to a ping is reported if the socket is given it. -/
lemma receives_echoReply (hS : sockets.Documented) (hw : s.WellFormed) (hs : s.socket = some socket)
    (hlisten : s.listens = true) (h : IsIPv4 header) (hh : iphdrlen header = header.length) (hl : message.length = 8)
    (he : IsEcho ICMP_ECHO s.wireIdent sequence message) {other : UInt16} :
    s.receives sockets (header ++ echoReply message) = some other ↔
      (sockets.given socket.unfiltered (header ++ echoReply message)).isSome = true ∧ sequence = other := by
  have hk : socket.kept (header ++ echoReply message) = echoReply message :=
    kept_append h hh (by rw [length_echoReply (by omega), hl])
  rw [hw.receives_iff hS]
  constructor
  · rintro ⟨socket', hs', -, hg, -, code, c₁, c₂, data, hm⟩
    obtain rfl := Option.some.inj (hs.symm.trans hs')
    refine ⟨hg, ?_⟩
    rw [hk] at hm
    obtain ⟨-, code', c₁', c₂', data', hm'⟩ := he.echoReply
    rw [hm'] at hm
    simp only [List.cons.injEq, true_and] at hm
    obtain ⟨-, -, -, hm⟩ := hm
    have hb := (List.append_inj (List.append_inj hm rfl).2 rfl).1
    exact networkBytes_injective hb
  · rintro ⟨hg, rfl⟩
    refine ⟨socket, hs, hlisten, hg, ?_⟩
    rw [hk]
    exact he.echoReply

end Sending

end VpnClient.Linux.EchoMessages
