import VpnClient.Library.TextTables
import VpnClient.Macos.MacosRouteMonitor

/-! Routing messages in their buffers: the addresses that are appended to a message are those that are read back from
its payload. -/

namespace VpnClient.Macos.RoutingBuffers

open Library.TextTables

def sizeofRtMsghdr : ℕ := 92

/-- A message in a buffer, whose memory is that behind the header. -/
structure MessageBuffer where
  msglen : UInt16
  addrs : BitVec 32
  memory : Bytes

/-- An address that is as long as its first byte says. -/
structure Sockaddr where
  bytes : Bytes
  pos : 0 < bytes.length
  length_eq : saLen bytes = bytes.length

namespace MessageBuffer

/-- A message without addresses, in a buffer of zeros. -/
def empty (size : ℕ) : MessageBuffer := ⟨UInt16.ofNat sizeofRtMsghdr, 0, zeros size⟩

def align (msglen : UInt16) : UInt16 := if msglen % 4 ≠ 0 then msglen + (4 - msglen % 4) else msglen

/-- It fails if bytes were to be copied past the end of the buffer. -/
def rtmAppendAddr (maxlen : ℕ) (rtaddr : BitVec 32) (sa : Bytes) (rtm : MessageBuffer) : Option MessageBuffer :=
  if rtm.msglen.toNat + saLen sa > maxlen then some rtm
  else do
    let memory ← write (rtm.msglen.toNat - sizeofRtMsghdr) (saBytes sa) rtm.memory
    pure { msglen := align (rtm.msglen + UInt16.ofNat (saLen sa)), addrs := rtm.addrs ||| rtaddr, memory }

/-- Appends addresses, each under a bit of its own. -/
def appendAll (maxlen : ℕ) : List (Fin 32 × Sockaddr) → MessageBuffer → Option MessageBuffer
  | [], rtm => some rtm
  | a :: addresses, rtm => do
    let rtm ← rtm.rtmAppendAddr maxlen (BitVec.twoPow 32 a.1) a.2.bytes
    appendAll maxlen addresses rtm

/-- The bytes of the message behind its header. -/
def payload (rtm : MessageBuffer) : Bytes := rtm.memory.take (rtm.msglen.toNat - sizeofRtMsghdr)

end MessageBuffer

open MessageBuffer

/-- An address with the zeros that follow it in a message. -/
def padded (sa : Bytes) : Bytes := sa ++ zeros (pad sa.length - sa.length)

/-- The length of the payload that some addresses need. -/
def room (addresses : List (Fin 32 × Sockaddr)) : ℕ := (addresses.map fun a => pad a.2.bytes.length).sum

/-- A message with a payload in a buffer, of which the rest is zero. -/
structure Holds (size : ℕ) (content : Bytes) (rtm : MessageBuffer) : Prop where
  msglen : rtm.msglen.toNat = sizeofRtMsghdr + content.length
  memory : rtm.memory = content ++ zeros (size - content.length)
  aligned : content.length % 4 = 0

section Pad

variable {size : ℕ} {sa more : Bytes}

lemma le_pad (size : ℕ) : size ≤ pad size := by
  rw [pad]
  split <;> omega

lemma pad_mod (size : ℕ) : pad size % 4 = 0 := by
  rw [pad]
  split <;> omega

lemma pad_add {m n : ℕ} (h : m % 4 = 0) : pad (m + n) = m + pad n := by
  have hm : (m + n) % 4 = n % 4 := by omega
  simp only [pad, hm]
  split <;> omega

/-- Where the capacity is a multiple of four, what fits before it is padded fits afterwards. -/
lemma pad_le_iff {n : ℕ} (h : size % 4 = 0) : pad n ≤ size ↔ n ≤ size := by
  rw [pad]
  split <;> omega

lemma length_padded (sa : Bytes) : (padded sa).length = pad sa.length := by
  rw [padded, List.length_append, length_zeros]
  exact Nat.add_sub_cancel' (le_pad _)

lemma saLen_lt (sa : Bytes) : saLen sa < 256 := UInt8.toNat_lt _

lemma saLen_append (h : 0 < sa.length) : saLen (sa ++ more) = saLen sa := by
  obtain ⟨b, rest, rfl⟩ := List.exists_cons_of_length_pos h
  rfl

end Pad

section Append

variable {size maxlen : ℕ} {content sa : Bytes} {rtaddr : BitVec 32} {rtm rtm' : MessageBuffer}

lemma toNat_align {msglen : UInt16} (h : pad msglen.toNat < 2 ^ 16) : (align msglen).toNat = pad msglen.toNat := by
  have hm : (msglen % 4).toNat = msglen.toNat % 4 := UInt16.toNat_mod ..
  have hz : msglen % 4 ≠ 0 ↔ msglen.toNat % 4 ≠ 0 := by
    rw [← hm, Ne, Ne, ← UInt16.toNat_inj]
    rfl
  have hle : msglen % 4 ≤ 4 := UInt16.le_iff_toNat_le.mpr (by rw [hm]; exact (Nat.mod_lt _ (by decide)).le)
  have hs : (4 - msglen % 4).toNat = 4 - msglen.toNat % 4 := by
    rw [UInt16.toNat_sub_of_le _ _ hle, hm]
    rfl
  rw [align, pad]
  rw [pad] at h
  by_cases hc : msglen.toNat % 4 ≠ 0
  · rw [if_pos hc] at h ⊢
    rw [if_pos (hz.mpr hc), UInt16.toNat_add, hs, Nat.mod_eq_of_lt h]
  · rw [if_neg hc, if_neg (mt hz.mp hc)]

lemma holds_empty (size : ℕ) : Holds size [] (empty size) := ⟨rfl, rfl, rfl⟩

lemma Holds.payload (h : Holds size content rtm) : rtm.payload = content := by
  rw [MessageBuffer.payload, h.msglen, h.memory, Nat.add_sub_cancel_left, List.take_left]

/-- An address for which there is room is copied into the zeros behind the payload. -/
lemma Holds.append (h : Holds size content rtm) (rtaddr : BitVec 32) (hsa : (saBytes sa).length = saLen sa)
    (hroom : content.length + pad (saLen sa) ≤ size)
    (hlen : sizeofRtMsghdr + content.length + pad (saLen sa) < 2 ^ 16) :
    ∃ rtm', rtm.rtmAppendAddr (sizeofRtMsghdr + size) rtaddr sa = some rtm' ∧
      Holds size (content ++ padded (saBytes sa)) rtm' := by
  have hp := le_pad (saLen sa)
  have hlp : (padded (saBytes sa)).length = pad (saLen sa) := by rw [length_padded, hsa]
  have hz : zeros (size - content.length) =
      zeros (saLen sa) ++ zeros (size - content.length - saLen sa) := by
    rw [← zeros_add]
    congr 1
    omega
  have hw : write (rtm.msglen.toNat - sizeofRtMsghdr) (saBytes sa) rtm.memory =
      some (content ++ padded (saBytes sa) ++ zeros (size - (content ++ padded (saBytes sa)).length)) := by
    rw [h.msglen, Nat.add_sub_cancel_left, h.memory, hz, write_append (by rw [hsa, length_zeros])]
    have hrest : zeros (size - content.length - saLen sa) = zeros (pad (saLen sa) - saLen sa) ++
        zeros (size - (content ++ padded (saBytes sa)).length) := by
      rw [← zeros_add, List.length_append, hlp]
      congr 1
      omega
    rw [hrest, padded, hsa]
    simp only [List.append_assoc]
  have hmod : (sizeofRtMsghdr + content.length) % 4 = 0 := by
    rw [Nat.add_mod, h.aligned]
    rfl
  have hn : (rtm.msglen + UInt16.ofNat (saLen sa)).toNat = sizeofRtMsghdr + content.length + saLen sa := by
    rw [UInt16.toNat_add, h.msglen, UInt16.toNat_ofNat_of_lt' ((saLen_lt sa).trans (by decide)),
      Nat.mod_eq_of_lt (by omega)]
  have hpad : pad (sizeofRtMsghdr + content.length + saLen sa) = sizeofRtMsghdr + content.length + pad (saLen sa) :=
    pad_add hmod
  refine ⟨⟨align (rtm.msglen + UInt16.ofNat (saLen sa)), rtm.addrs ||| rtaddr,
    content ++ padded (saBytes sa) ++ zeros (size - (content ++ padded (saBytes sa)).length)⟩, ?_, ?_, rfl, ?_⟩
  · rw [MessageBuffer.rtmAppendAddr, if_neg (by rw [h.msglen]; omega), hw]
    rfl
  · show (align (rtm.msglen + UInt16.ofNat (saLen sa))).toNat = _
    rw [toNat_align (by rw [hn, hpad]; omega), hn, hpad, List.length_append, hlp, Nat.add_assoc]
  · rw [List.length_append, hlp, Nat.add_mod, h.aligned, pad_mod]

lemma Sockaddr.saBytes_bytes (sa : Sockaddr) : saBytes sa.bytes = sa.bytes :=
  List.take_of_length_le sa.length_eq.ge

lemma Holds.appendAll (h : Holds size content rtm) {addresses : List (Fin 32 × Sockaddr)}
    (hroom : content.length + room addresses ≤ size)
    (hlen : sizeofRtMsghdr + content.length + room addresses < 2 ^ 16) :
    ∃ rtm', rtm.appendAll (sizeofRtMsghdr + size) addresses = some rtm' ∧
      Holds size (content ++ addresses.flatMap fun a => padded a.2.bytes) rtm' := by
  induction addresses generalizing content rtm with
  | nil => exact ⟨rtm, rfl, by simpa using h⟩
  | cons a addresses ih =>
    have hr : room (a :: addresses) = pad a.2.bytes.length + room addresses := List.sum_cons
    rw [hr] at hroom hlen
    have hsa : (saBytes a.2.bytes).length = saLen a.2.bytes := by rw [a.2.saBytes_bytes, a.2.length_eq]
    obtain ⟨rtm', ha, h'⟩ := h.append (BitVec.twoPow 32 a.1) hsa (by rw [a.2.length_eq]; omega)
      (by rw [a.2.length_eq]; omega)
    rw [a.2.saBytes_bytes] at h'
    have hc : (content ++ padded a.2.bytes).length = content.length + pad a.2.bytes.length := by
      rw [List.length_append, length_padded]
    obtain ⟨rtm'', hall, h''⟩ := ih h' (by omega) (by omega)
    refine ⟨rtm'', ?_, ?_⟩
    · rw [MessageBuffer.appendAll, ha]
      exact hall
    · rwa [List.flatMap_cons, ← List.append_assoc]

/-- There are no more addresses than bits, and so their length is a number of 16 bits. -/
lemma room_le {addresses : List (Fin 32 × Sockaddr)} (h : (addresses.map Prod.fst).Pairwise (· < ·)) :
    room addresses ≤ 32 * 256 := by
  have hn : (addresses.map Prod.fst).Nodup := h.imp fun hlt => ne_of_lt hlt
  have hl : addresses.length ≤ 32 := by simpa using hn.length_le_card
  have hp : ∀ n ∈ addresses.map fun a => pad a.2.bytes.length, n ≤ 256 := by
    intro n hm
    obtain ⟨a, -, rfl⟩ := List.mem_map.mp hm
    have hlt := saLen_lt a.2.bytes
    rw [a.2.length_eq] at hlt
    exact (pad_le_iff (by rfl)).mpr hlt.le
  have hs := List.sum_le_card_nsmul _ _ hp
  rw [List.length_map, smul_eq_mul] at hs
  exact hs.trans (Nat.mul_le_mul_right 256 hl)

lemma addrs_rtmAppendAddr (h : rtm.rtmAppendAddr maxlen rtaddr sa = some rtm') :
    rtm'.addrs = rtm.addrs ∨ rtm'.addrs = rtm.addrs ||| rtaddr := by
  rw [MessageBuffer.rtmAppendAddr] at h
  split_ifs at h
  · exact .inl (congrArg addrs (Option.some.inj h).symm)
  · obtain ⟨memory, -, hm⟩ := Option.bind_eq_some_iff.mp h
    exact .inr (congrArg addrs (Option.some.inj hm).symm)

lemma addrs_appendAll {addresses : List (Fin 32 × Sockaddr)} (h : rtm.appendAll maxlen addresses = some rtm') {i : ℕ}
    (hi : rtm'.addrs.getLsbD i = true) : rtm.addrs.getLsbD i = true ∨ ∃ a ∈ addresses, a.1.val = i := by
  induction addresses generalizing rtm with
  | nil => exact .inl (Option.some.inj h ▸ hi)
  | cons a addresses ih =>
    obtain ⟨next, ha, hall⟩ := Option.bind_eq_some_iff.mp h
    obtain hn | ⟨a', hm, he⟩ := ih hall
    · obtain he | he := addrs_rtmAppendAddr ha
      · exact .inl (he ▸ hn)
      · rw [he, BitVec.getLsbD_or, BitVec.getLsbD_twoPow, Bool.or_eq_true] at hn
        obtain hn | hn := hn
        · exact .inl hn
        · simp only [Bool.and_eq_true, decide_eq_true_eq] at hn
          exact .inr ⟨a, List.mem_cons_self, hn.2⟩
    · exact .inr ⟨a', List.mem_cons_of_mem a hm, he⟩

/-- What is asserted whenever an address is appended. -/
theorem asserted (maxlen size : ℕ) (before after : List (Fin 32 × Sockaddr)) (a : Fin 32 × Sockaddr)
    (h : ((before ++ a :: after).map Prod.fst).Pairwise (· < ·)) {rtm : MessageBuffer}
    (hall : (empty size).appendAll maxlen before = some rtm) : rtm.addrs &&& BitVec.twoPow 32 a.1 = 0 := by
  apply BitVec.eq_of_getLsbD_eq
  intro i _
  have hz : (0 : BitVec 32).getLsbD i = false := BitVec.getLsbD_zero
  rw [BitVec.getLsbD_and, BitVec.getLsbD_twoPow, hz, Bool.and_eq_false_iff]
  by_cases hi : rtm.addrs.getLsbD i = true
  · right
    obtain he | ⟨a', hm, he⟩ := addrs_appendAll hall hi
    · simp [empty] at he
    · rw [List.map_append, List.pairwise_append] at h
      have hlt := h.2.2 a'.1 (List.mem_map_of_mem hm) a.1 (List.mem_map_of_mem List.mem_cons_self)
      have hne : a.1.val ≠ i := fun hai => absurd hlt (by rw [Fin.lt_def]; omega)
      simp [hne]
  · exact .inl (Bool.eq_false_iff.mpr hi)

end Append

section Parse

/-- The entries are one slice of the payload after the other, each as long as its first byte says, and what is left is
too short for another one. -/
structure Slices (payload : Bytes) (entries : List Bytes) : Prop where
  rest : ∃ rest, payload = entries.flatten ++ rest ∧ (rest.length < 2 ∨ rest.length < paddedSize rest)
  length : ∀ entry ∈ entries, entry.length = paddedSize entry

lemma paddedSize_take (payload : Bytes) : paddedSize (payload.take (paddedSize payload)) = paddedSize payload := by
  cases payload with
  | nil => rw [List.take_nil]
  | cons b rest =>
    obtain ⟨n, hn⟩ := Nat.exists_eq_add_one_of_ne_zero (paddedSize_pos (b :: rest)).ne'
    rw [hn, List.take_succ_cons, ← hn]
    rfl

lemma slices_parseAddrList (payload : Bytes) : Slices payload (parseAddrList payload) := by
  induction hn : payload.length using Nat.strongRec generalizing payload with
  | ind n ih =>
    rw [parseAddrList_eq]
    split_ifs with hs hp
    · exact ⟨⟨payload, rfl, .inl hs⟩, fun _ hm => absurd hm List.not_mem_nil⟩
    · exact ⟨⟨payload, rfl, .inr hp⟩, fun _ hm => absurd hm List.not_mem_nil⟩
    · have hpos := paddedSize_pos payload
      have hl : (payload.drop (paddedSize payload)).length < n := by
        rw [List.length_drop]
        omega
      obtain ⟨⟨rest, he, hr⟩, hlen⟩ := ih _ hl _ rfl
      constructor
      · refine ⟨rest, ?_, hr⟩
        rw [List.flatten_cons, List.append_assoc, ← he, List.take_append_drop]
      · intro entry hm
        obtain rfl | hm := List.mem_cons.mp hm
        · rw [paddedSize_take, List.length_take, min_eq_left (not_lt.mp hp)]
        · exact hlen entry hm

lemma parseAddrList_padded (sa : Sockaddr) (more : Bytes) :
    parseAddrList (padded sa.bytes ++ more) = padded sa.bytes :: parseAddrList more := by
  have hpos := sa.pos
  have hle := le_pad sa.bytes.length
  have hmod := pad_mod sa.bytes.length
  have hsize : paddedSize (padded sa.bytes ++ more) = (padded sa.bytes).length := by
    rw [paddedSize, padded, List.append_assoc, saLen_append sa.pos, sa.length_eq, if_neg sa.pos.ne', ← padded,
      length_padded]
  have hlen : (padded sa.bytes ++ more).length = pad sa.bytes.length + more.length := by
    rw [List.length_append, length_padded]
  rw [parseAddrList_eq, if_neg (by rw [hlen]; omega), if_neg (by rw [hsize, List.length_append]; omega), hsize,
    List.take_left, List.drop_left]

lemma parseAddrList_flatMap {A : Type} {f : A → Bytes} {addresses : List A}
    (h : ∀ a ∈ addresses, 0 < (f a).length ∧ saLen (f a) = (f a).length) :
    parseAddrList (addresses.flatMap fun a => padded (f a)) = addresses.map fun a => padded (f a) := by
  induction addresses with
  | nil => rfl
  | cons a addresses ih =>
    have ha := h a List.mem_cons_self
    have ht := ih fun a' hm => h a' (List.mem_cons_of_mem a hm)
    rw [List.flatMap_cons, parseAddrList_padded ⟨f a, ha.1, ha.2⟩, ht, List.map_cons]

end Parse

/-- What is appended to an empty message with enough room is read back. -/
def RoundTrips (size : ℕ) (addresses : List (Fin 32 × Sockaddr)) : Prop :=
  ∃ rtm, (empty size).appendAll (sizeofRtMsghdr + size) addresses = some rtm ∧
    parseAddrList rtm.payload = addresses.map fun a => padded a.2.bytes

theorem roundTrips_parse :
    (∀ size addresses, (addresses.map Prod.fst).Pairwise (· < ·) → room addresses ≤ size → RoundTrips size addresses) ∧
      (∀ payload fuel, payload.length ≤ fuel → parseFrom fuel payload = parseAddrList payload) ∧
      (∀ payload, Slices payload (parseAddrList payload)) ∧
      ∀ maxlen rtaddr sa (rtm : MessageBuffer), rtm.msglen.toNat + saLen sa > maxlen →
        rtm.rtmAppendAddr maxlen rtaddr sa = some rtm := by
  refine ⟨?_, fun _ _ => parseFrom_eq, slices_parseAddrList, fun _ _ _ _ h => if_pos h⟩
  intro size addresses h hroom
  have hlen := room_le h
  obtain ⟨rtm, hall, hr⟩ := (holds_empty size).appendAll (by rwa [List.length_nil, zero_add])
    (by rw [List.length_nil, add_zero]; exact (Nat.add_le_add_left hlen _).trans_lt (by decide))
  refine ⟨rtm, hall, ?_⟩
  rw [hr.payload, List.nil_append]
  exact parseAddrList_flatMap fun a _ => ⟨a.2.pos, a.2.length_eq⟩

/-- A host and a short netmask. -/
def hostAndMask : List (Fin 32 × Sockaddr) :=
  [(0, ⟨[16, 2, 0, 0, 10, 0, 0, 1, 0, 0, 0, 0, 0, 0, 0, 0], by decide, rfl⟩), (2, ⟨[5, 0, 0, 0, 255], by decide, rfl⟩)]

theorem roundTrips_hostAndMask :
    RoundTrips 24 hostAndMask ∧ parseFrom 9 [5, 0, 0, 0, 255] = parseAddrList [5, 0, 0, 0, 255] ∧
      Slices [0, 1, 2, 3, 4] (parseAddrList [0, 1, 2, 3, 4]) ∧
      (empty 4).rtmAppendAddr 96 1 [5, 0, 0, 0, 255] = some (empty 4) :=
  ⟨roundTrips_parse.1 24 hostAndMask (by decide) (by decide), roundTrips_parse.2.1 [5, 0, 0, 0, 255] 9 (by decide),
    roundTrips_parse.2.2.1 [0, 1, 2, 3, 4], roundTrips_parse.2.2.2 96 1 [5, 0, 0, 0, 255] (empty 4) (by decide)⟩

example : parseAddrList [5, 0, 0, 0, 255, 0, 0, 0, 0, 0, 0, 0, 4] = [[5, 0, 0, 0, 255, 0, 0, 0], [0, 0, 0, 0]] := by
  decide

section Requests

variable {r : RouteRequest} {rtm : MessageBuffer} {sa : Bytes}

/-- The message of a request in the buffer of `rtmSendRoute`. -/
structure Refines (r : RouteRequest) (rtm : MessageBuffer) : Prop where
  holds : Holds rtmMaxSize (r.addrs.flatMap fun a => padded a.2) rtm
  msglen : r.msglen = (r.addrs.flatMap fun a => padded a.2).length

lemma refines_empty (type : RtmType) (index flags : ℕ) : Refines ⟨type, index, flags, [], 0⟩ (empty rtmMaxSize) :=
  ⟨holds_empty rtmMaxSize, rfl⟩

/-- As the capacity is a multiple of four, what fits before it is padded fits afterwards. -/
lemma Refines.append (h : Refines r rtm) (bit : BitVec 32) (rtaddr : ℕ) (hsa : (saBytes sa).length = saLen sa) :
    ∃ rtm', rtm.rtmAppendAddr (sizeofRtMsghdr + rtmMaxSize) bit sa = some rtm' ∧
      Refines (rtmAppendAddr rtaddr sa r) rtm' := by
  have hlen := h.holds.msglen
  rw [← h.msglen] at hlen
  by_cases hfit : r.msglen + saLen sa > rtmMaxSize
  · refine ⟨rtm, if_pos (by rw [hlen]; omega), ?_⟩
    rw [Macos.rtmAppendAddr, if_pos hfit]
    exact h
  · have hal := h.holds.aligned
    rw [← h.msglen] at hal
    have hroom : r.msglen + pad (saLen sa) ≤ rtmMaxSize := by
      rw [← pad_add hal]
      exact (pad_le_iff rfl).mpr (not_lt.mp hfit)
    have hmax : sizeofRtMsghdr + rtmMaxSize < 2 ^ 16 := by decide
    obtain ⟨rtm', ha, h'⟩ := h.holds.append bit hsa (h.msglen ▸ hroom) (by rw [← h.msglen]; omega)
    refine ⟨rtm', ha, ?_⟩
    rw [Macos.rtmAppendAddr, if_neg hfit]
    have hc : (r.addrs ++ [(rtaddr, saBytes sa)]).flatMap (fun a => padded a.2) =
        (r.addrs.flatMap fun a => padded a.2) ++ padded (saBytes sa) := by
      rw [List.flatMap_append, List.flatMap_singleton]
    constructor
    · rw [hc]
      exact h'
    · rw [hc, List.length_append, length_padded, hsa, ← h.msglen, pad_add hal]

/-- The addresses of a request are what is read back from its message. -/
theorem parse_of_refines (h : Refines r rtm) (hr : ∀ a ∈ r.addrs, 0 < a.2.length ∧ saLen a.2 = a.2.length) :
    parseAddrList rtm.payload = r.addrs.map fun a => padded a.2 := by
  rw [h.holds.payload]
  exact parseAddrList_flatMap hr

end Requests

end VpnClient.Macos.RoutingBuffers
