import VpnClient.Library.Runs
import VpnClient.Socks5.ReadyRead

/-! For which ways of splitting a stream into chunks the negotiation is the same as for the whole
stream. -/

namespace VpnClient.Socks5

open Library.Runs

namespace Socks5Connection

/-- What the negotiation with a client decides. -/
structure Negotiation where
  replies : List UInt8
  state : Socks5State
  addressType : UInt8
  requests : List Request
  deriving DecidableEq

def negotiation (c : Socks5Connection) : Negotiation := ⟨c.inSocket.written, c.state, c.addressType, c.requests⟩

/-- The connection after the stream of the client has arrived in `chunks`. -/
def deliver (c : Socks5Connection) (chunks : List (List UInt8)) : Socks5Connection :=
  run step c (chunks.map .clientData)

/-- A chunk may end after `n` bytes of the address part `rest` of a stream: the slot reads nothing
of it then, or finds in it all that it would find in the stream. -/
def CutAllowed (atype : UInt8) (rest : List UInt8) (n : ℕ) : Prop :=
  (atype = 0x01 → n < 6 ∨ rest.length < 12) ∧
  (atype = 0x03 → n = 0 ∨ rest.length < packetLength atype rest ∨
    packetLength atype rest ≤ n ∧ rest.length = packetLength atype rest) ∧
  (atype = 0x04 → n < 18 ∨ rest.length < 36)

/-- The chunks before one of them may end where they do. -/
def SplitsWell (arrived stream : List UInt8) : Prop :=
  ∀ atype rest part, addressPart stream = some (atype, rest) → addressPart arrived = some (atype, part) →
    CutAllowed atype rest part.length

def Pending (arrived : List UInt8) : Prop :=
  ∀ atype rest, addressPart arrived = some (atype, rest) → Waiting atype rest

variable {c c' : Socks5Connection} {atype : UInt8} {rest part data arrived stream : List UInt8}
  {chunks : List (List UInt8)}

lemma deliver_cons (chunk : List UInt8) :
    c.deliver (chunk :: chunks) = (c.step (.clientData chunk)).deliver chunks := rfl

lemma Pending.splitsWell (hp : Pending arrived) : SplitsWell arrived stream := by
  intro atype rest part hs ha
  obtain ⟨h₁, h₃, h₄⟩ := hp atype part ha
  exact ⟨fun h => Or.inl (h₁ h), fun h => Or.inl (by simp [h₃ h]), fun h => Or.inl (h₄ h)⟩

lemma Waiting.of_append (hw : Waiting atype (rest ++ data)) : Waiting atype rest := by
  obtain ⟨h₁, h₃, h₄⟩ := hw
  simp only [List.length_append] at h₁ h₄
  refine ⟨fun h => ?_, fun h => (List.append_eq_nil_iff.mp (h₃ h)).1, fun h => ?_⟩
  · have hl := h₁ h
    omega
  · have hl := h₄ h
    omega

/-- A connection that has acted on more than `n` requests, or has been closed. -/
def Beyond (n : ℕ) (c : Socks5Connection) : Prop :=
  c.Listening ∧ n < c.requests.length ∨ c.state = .Closed ∧ c.inSocket.isOpen = false

lemma Listening.step_beyond (hl : c.Listening) (hw : ¬ Waiting c.addressType (c.inSocket.readable ++ data)) :
    Beyond c.requests.length (c.step (.clientData data)) := by
  have hl' := hl.withReadable (c.inSocket.readable ++ data) c.reads
  rw [hl.step]
  rcases hl'.readAddress with ⟨hw', -⟩ | ⟨request, n, reads, -, hr⟩ | ⟨-, -, -, readable, reads, hr⟩
  · exact absurd hw' hw
  · rw [hr]
    refine Or.inl ⟨(hl'.withReadable _ _).act request, ?_⟩
    rw [act_requests]
    simp [Socks5Connection.withReadable]
  · rw [hr]
    exact Or.inr (closed_failRead _)

lemma beyond_step {n : ℕ} (hb : Beyond n c) : Beyond n (c.step (.clientData data)) := by
  rcases hb with ⟨hl, hn⟩ | ⟨hs, ho⟩
  · by_cases hw : Waiting c.addressType (c.inSocket.readable ++ data)
    · rw [hl.step_waiting hw]
      exact Or.inl ⟨hl.withReadable _ _, hn⟩
    · rcases hl.step_beyond hw with ⟨hl', hn'⟩ | hc
      · exact Or.inl ⟨hl', hn.trans hn'⟩
      · exact Or.inr hc
  · rw [step_clientData_closed ho]
    exact Or.inr ⟨hs, ho⟩

lemma deliver_beyond {n : ℕ} (hb : Beyond n c) : Beyond n (c.deliver chunks) := by
  induction chunks generalizing c with
  | nil => exact hb
  | cons chunk chunks ih => exact ih (beyond_step hb)

lemma deliver_closed (ho : c.inSocket.isOpen = false) : c.deliver chunks = c := by
  induction chunks with
  | nil => rfl
  | cons chunk chunks ih => rw [deliver_cons, step_clientData_closed ho, ih]

lemma Listening.deliver (hl : c.Listening) (hn : chunks ≠ []) :
    if Waiting c.addressType (c.inSocket.readable ++ chunks.flatten) then
      (c.deliver chunks).negotiation = c.negotiation
    else Beyond c.requests.length (c.deliver chunks) := by
  induction chunks generalizing c with
  | nil => exact absurd rfl hn
  | cons chunk chunks ih =>
    rw [deliver_cons, List.flatten_cons, ← List.append_assoc]
    by_cases hc : Waiting c.addressType (c.inSocket.readable ++ chunk)
    · rw [hl.step_waiting hc]
      by_cases hn : chunks = []
      · subst hn
        rw [if_pos (by simpa using hc)]
        rfl
      · exact ih (hl.withReadable (c.inSocket.readable ++ chunk) c.reads) hn
    · rw [if_neg fun hw => hc hw.of_append]
      exact deliver_beyond (hl.step_beyond hc)

lemma supported_of_not_waiting (hw : ¬ Waiting atype rest) : atype = 0x01 ∨ atype = 0x03 ∨ atype = 0x04 := by
  unfold Waiting at hw
  tauto

lemma Accepted.listening (ha : Accepted c c' atype rest)
    (ht : atype = 0x01 ∨ atype = 0x03 ∨ atype = 0x04) : c'.Listening :=
  ⟨ha.state, ha.isOpen, by rw [ha.addressType]; exact ht⟩

lemma Accepted.negotiation_packet {request : Request} {n : ℕ} (ha : Accepted c c' atype rest)
    (hp : addressPacket atype rest = some (request, n)) :
    c'.readAddress.negotiation =
        ⟨c.inSocket.written ++ ServerChoicePacket, .ClientConnectionAddress, atype, c.requests ++ [request]⟩ ∧
      c'.readAddress.Listening ∧ c'.readAddress.inSocket.readable = rest.drop n := by
  have ht := (addressPacket_isSome.mp (by rw [hp]; rfl)).1
  obtain ⟨reads, hr⟩ := readAddress_packet (c := c') (by rw [ha.addressType, ha.readable]; exact hp)
  rw [hr]
  refine ⟨?_, ((ha.listening ht).withReadable _ _).act request, ?_⟩
  · simp [negotiation, act_inSocket, act_state, act_addressType, act_requests, withReadable, ha.written,
      ha.state, ha.addressType, ha.requests]
  · rw [act_inSocket, readable_withReadable, ha.readable]

lemma Accepted.negotiation_incomplete (ha : Accepted c c' 0x03 rest) (hr : rest ≠ [])
    (hp : addressPacket 0x03 rest = none) :
    c'.readAddress.negotiation =
        ⟨c.inSocket.written ++ ServerChoicePacket ++ createServerResponsePacket Socks5Replies.ErrorGeneral.code,
          .Closed, 0x03, c.requests⟩ ∧ c'.readAddress.inSocket.isOpen = false := by
  obtain ⟨readable, reads, hr⟩ := readAddress_incomplete ha.addressType (by rw [ha.readable]; exact hr)
    (by rw [ha.addressType, ha.readable]; exact hp)
  rw [hr]
  refine ⟨?_, rfl⟩
  simp [negotiation, failRead, setError, setState, withReadable, Device.close, Device.write, ha.state, ha.isOpen,
    ha.written, ha.addressType, ha.requests]

variable {socksPort : UInt16} {errorString : String}

lemma deliver_pending (hp : Pending arrived) (data : List UInt8) :
    ((initial socksPort errorString).deliver [arrived]).step (.clientData data) =
      (initial socksPort errorString).deliver [arrived ++ data] := by
  have hr := resume_readGreeting (c := (initial socksPort errorString).receive arrived) data rfl rfl
    (by simpa [initial, receive, Device.receive, Pending] using hp)
  exact hr

lemma exists_accepted (socksPort : UInt16) (errorString : String) (hp : addressPart arrived = some (atype, rest)) :
    ∃ c', Accepted (initial socksPort errorString) c' atype rest ∧
      (initial socksPort errorString).deliver [arrived] = c'.readAddress := by
  obtain ⟨c', ha, hr⟩ := accepted_of_addressPart (c := (initial socksPort errorString).receive arrived) rfl rfl
    (by simpa [initial, receive, Device.receive] using hp)
  exact ⟨c', ⟨ha.state, ha.isOpen, ha.addressType, ha.readable, ha.written, ha.requests, ha.outSockets, ha.lookups⟩, hr⟩

lemma packetLength_append (hr : rest ≠ []) : packetLength atype (rest ++ data) = packetLength atype rest := by
  obtain ⟨length, rest, rfl⟩ := List.exists_cons_of_ne_nil hr
  simp [packetLength]

lemma cutAllowed_packet {request : Request} {n : ℕ} (hp : addressPacket atype part = some (request, n)) :
    CutAllowed atype (part ++ data) part.length ↔ Waiting atype (part.drop n ++ data) := by
  obtain ⟨ht, hl⟩ := addressPacket_isSome.mp (by rw [hp]; rfl)
  have hn : part ≠ [] := by
    rintro rfl
    rcases ht with rfl | rfl | rfl <;> simp [packetLength] at hl
  rw [addressPacket_length hp]
  rw [CutAllowed, Waiting]
  rw [packetLength_append hn]
  rcases ht with rfl | rfl | rfl
  · simp [packetLength] at hl ⊢
    omega
  · have hz : part.length ≠ 0 := by simpa using hn
    have hd : part.drop (packetLength 0x03 part) ++ data = [] ↔
        part.length ≤ packetLength 0x03 part ∧ data.length = 0 := by
      simp
    have h₁ : (0x03 : UInt8) ≠ 0x01 := by decide
    have h₄ : (0x03 : UInt8) ≠ 0x04 := by decide
    simp only [hd, h₁, h₄, false_implies, true_implies, true_and, and_true, List.length_append]
    omega
  · simp [packetLength] at hl ⊢
    omega

lemma not_packetLength_le (hw : ¬ Waiting atype part) (hp : addressPacket atype part = none) :
    ¬ packetLength atype part ≤ part.length := fun hl => by
  simpa [hp] using addressPacket_isSome.mpr ⟨supported_of_not_waiting hw, hl⟩

lemma domainName_of_incomplete (hw : ¬ Waiting atype part) (hp : addressPacket atype part = none) :
    atype = 0x03 ∧ part ≠ [] := by
  have hn := not_packetLength_le hw hp
  rcases supported_of_not_waiting hw with rfl | rfl | rfl
  · simp [Waiting, packetLength] at hw hn
    omega
  · simpa [Waiting] using hw
  · simp [Waiting, packetLength] at hw hn
    omega

lemma cutAllowed_incomplete (hw : ¬ Waiting 0x03 part) (hp : addressPacket 0x03 part = none) :
    CutAllowed 0x03 (part ++ data) part.length ↔ addressPacket 0x03 (part ++ data) = none := by
  have hr := (domainName_of_incomplete hw hp).2
  have hz : part.length ≠ 0 := by simpa using hr
  have hn := not_packetLength_le hw hp
  have h₁ : (0x03 : UInt8) ≠ 0x01 := by decide
  have h₄ : (0x03 : UInt8) ≠ 0x04 := by decide
  rw [← Option.not_isSome_iff_eq_none, addressPacket_isSome, CutAllowed, packetLength_append hr]
  simp only [h₁, h₄, hz, false_implies, true_implies, true_and, and_true, true_or, or_true, false_or]
  omega

lemma Beyond.negotiation_ne {n : ℕ} {replies : List UInt8} {requests : List Request} (hb : Beyond n c)
    (hn : requests.length ≤ n) : c.negotiation ≠ ⟨replies, .ClientConnectionAddress, atype, requests⟩ := by
  intro he
  obtain ⟨-, hs, -, hr⟩ := by simpa [negotiation] using he
  rcases hb with ⟨-, hl⟩ | ⟨hc, -⟩
  · rw [hr] at hl
    omega
  · simp [hc] at hs

lemma deliver_cut (hp : addressPart arrived = some (atype, part)) (hw : ¬ Waiting atype part) (hn : chunks ≠ []) :
    (((initial socksPort errorString).deliver [arrived]).deliver chunks).negotiation =
        ((initial socksPort errorString).deliver [arrived ++ chunks.flatten]).negotiation ↔
      CutAllowed atype (part ++ chunks.flatten) part.length := by
  obtain ⟨c', ha, hd⟩ := exists_accepted socksPort errorString hp
  obtain ⟨c'', ha', hd'⟩ := exists_accepted socksPort errorString (addressPart_append chunks.flatten hp)
  rw [hd, hd']
  cases hq : addressPacket atype part with
  | some packet =>
    obtain ⟨request, n⟩ := packet
    obtain ⟨hs, hl, hr⟩ := ha.negotiation_packet hq
    obtain ⟨hs', -⟩ := ha'.negotiation_packet (addressPacket_append hq)
    have ht : c'.readAddress.addressType = atype := congrArg Negotiation.addressType hs
    have hc := hl.deliver hn
    rw [ht, hr] at hc
    rw [cutAllowed_packet hq, hs']
    by_cases hW : Waiting atype (part.drop n ++ chunks.flatten)
    · rw [if_pos hW] at hc
      simp only [hW, iff_true]
      exact hc.trans hs
    · rw [if_neg hW] at hc
      simp only [hW, iff_false]
      exact hc.negotiation_ne (le_of_eq (congrArg (List.length ∘ Negotiation.requests) hs).symm)
  | none =>
    obtain ⟨rfl, hr⟩ := domainName_of_incomplete hw hq
    obtain ⟨hs, ho⟩ := ha.negotiation_incomplete hr hq
    rw [deliver_closed ho, hs, cutAllowed_incomplete hw hq]
    cases hq' : addressPacket 0x03 (part ++ chunks.flatten) with
    | none =>
      obtain ⟨hs', -⟩ := ha'.negotiation_incomplete (by simp [hr]) hq'
      simp [hs']
    | some packet =>
      obtain ⟨hs', -⟩ := ha'.negotiation_packet hq'
      simp [hs']

lemma CutAllowed.append (hc : CutAllowed atype rest part.length) (hw : ¬ Waiting atype part) :
    CutAllowed atype rest (part ++ data).length := by
  obtain ⟨h₁, h₃, h₄⟩ := hc
  rw [List.length_append]
  rcases supported_of_not_waiting hw with rfl | rfl | rfl
  · have hl : ¬ part.length < 6 := by simpa [Waiting] using hw
    exact ⟨fun h => Or.inr ((h₁ h).resolve_left hl), fun h => by simp at h, fun h => by simp at h⟩
  · have hl : part.length ≠ 0 := by simpa [Waiting] using hw
    refine ⟨fun h => by simp at h, fun h => Or.inr (((h₃ h).resolve_left hl).imp_right ?_), fun h => by simp at h⟩
    exact fun hn => ⟨hn.1.trans (Nat.le_add_right _ _), hn.2⟩
  · have hl : ¬ part.length < 18 := by simpa [Waiting] using hw
    exact ⟨fun h => by simp at h, fun h => by simp at h, fun h => Or.inr ((h₄ h).resolve_left hl)⟩

lemma splitsWell_iff (hp : addressPart arrived = some (atype, part)) :
    SplitsWell arrived (arrived ++ data) ↔ CutAllowed atype (part ++ data) part.length := by
  constructor
  · intro hs
    exact hs _ _ _ (addressPart_append _ hp) hp
  · intro hc atype' rest' part' hs ha
    obtain ⟨rfl, rfl⟩ : atype = atype' ∧ part = part' := by simpa [hp] using ha
    obtain rfl : part ++ data = rest' := by simpa [addressPart_append _ hp] using hs
    exact hc

lemma SplitsWell.append {more : List UInt8} (hs : SplitsWell arrived (arrived ++ data ++ more))
    (hp : addressPart arrived = some (atype, part)) (hw : ¬ Waiting atype part) :
    SplitsWell (arrived ++ data) (arrived ++ data ++ more) := by
  rw [splitsWell_iff (addressPart_append _ hp)]
  rw [List.append_assoc, splitsWell_iff hp, ← List.append_assoc] at hs
  exact hs.append hw

lemma deliver_iff (socksPort : UInt16) (errorString : String) (hp : Pending arrived) :
    (((initial socksPort errorString).deliver [arrived]).deliver chunks).negotiation =
        ((initial socksPort errorString).deliver [arrived ++ chunks.flatten]).negotiation ↔
      ∀ fs, fs <+: chunks → fs ≠ chunks → SplitsWell (arrived ++ fs.flatten) (arrived ++ chunks.flatten) := by
  induction chunks generalizing arrived with
  | nil => simp [deliver]
  | cons chunk chunks ih =>
    have hf : (∀ fs, fs <+: chunk :: chunks → fs ≠ chunk :: chunks →
        SplitsWell (arrived ++ fs.flatten) (arrived ++ (chunk :: chunks).flatten)) ↔
        ∀ fs, fs <+: chunks → fs ≠ chunks →
          SplitsWell (arrived ++ chunk ++ fs.flatten) (arrived ++ chunk ++ chunks.flatten) := by
      constructor
      · intro hs fs hf hn
        simpa using hs (chunk :: fs) (List.cons_prefix_cons.mpr ⟨rfl, hf⟩) (by simpa using hn)
      · intro hs fs hf hn
        cases fs with
        | nil => simpa using hp.splitsWell
        | cons f fs =>
          obtain ⟨rfl, hf'⟩ := List.cons_prefix_cons.mp hf
          simpa using hs fs hf' (by simpa using hn)
    rw [hf, deliver_cons, deliver_pending hp, List.flatten_cons, ← List.append_assoc]
    by_cases hp' : Pending (arrived ++ chunk)
    · exact ih hp'
    · obtain ⟨atype, part, ha, hw⟩ : ∃ atype part, addressPart (arrived ++ chunk) = some (atype, part) ∧
          ¬ Waiting atype part := by simpa [Pending] using hp'
      by_cases hn : chunks = []
      · subst hn
        simp [deliver]
      · rw [deliver_cut ha hw hn, ← splitsWell_iff ha]
        constructor
        · rintro hs fs ⟨more, rfl⟩ -
          rw [List.flatten_append, ← List.append_assoc] at hs ⊢
          exact hs.append ha hw
        · intro hs
          simpa using hs [] List.nil_prefix (Ne.symm hn)

/-- The negotiation does not depend on the chunks exactly if each of them but the last ends before
the address packet, with the stream, or where nothing later is taken for another packet. -/
theorem negotiation_eq_iff (socksPort : UInt16) (errorString : String) (chunks : List (List UInt8)) :
    ((initial socksPort errorString).deliver chunks).negotiation =
        ((initial socksPort errorString).deliver [chunks.flatten]).negotiation ↔
      ∀ fs, fs <+: chunks → fs ≠ chunks → SplitsWell fs.flatten chunks.flatten := by
  have hp : Pending [] := fun _ _ h => by simp [addressPart] at h
  have h₀ : (initial socksPort errorString).deliver [[]] = initial socksPort errorString := rfl
  simpa [h₀] using deliver_iff socksPort errorString hp

/-- A domain name that arrives after its length is rejected. -/
theorem negotiation_domain_name_split :
    let chunks : List (List UInt8) := [[5, 1, 0], [5, 1, 0, 3], [3], [97, 98, 99], [0, 80]]
    let c := (initial 0 "").deliver chunks
    let c' := (initial 0 "").deliver [chunks.flatten]
    c.negotiation = ⟨[5, 0] ++ createServerResponsePacket 1, .Closed, 3, []⟩ ∧
      c'.negotiation = ⟨[5, 0], .ClientConnectionAddress, 3, [.hostname [97, 98, 99] 80]⟩ ∧
      c.negotiation ≠ c'.negotiation := by
  decide

end Socks5Connection

end VpnClient.Socks5
