import VpnClient.Socks5.SingleRequest

/-! The reads of the negotiation take whole packets, and fit into their buffers unless a client announces more
methods than the buffer for them holds. -/

namespace VpnClient.Socks5

open Library.Runs

namespace Socks5Connection

/-- Each read has asked for at most as many bytes as its buffer holds. -/
def Bounded (c : Socks5Connection) : Prop := ∀ read ∈ c.reads, read.1 ≤ read.2

instance (c : Socks5Connection) : Decidable c.Bounded := inferInstanceAs (Decidable (∀ read ∈ c.reads, _))

/-- What was read of the bytes received are whole packets. -/
def Whole (c : Socks5Connection) (received : List UInt8) : Prop :=
  match c.state with
  | .ClientGreeting => received = c.inSocket.readable
  | .AuthenticationMethods => received = 0x05 :: c.authNumber :: c.inSocket.readable
  | .ClientConnectionRequest => ∃ methods, methods.length = c.authNumber.toNat ∧
      received = 0x05 :: c.authNumber :: (methods ++ c.inSocket.readable)
  | .ClientConnectionAddress => ∃ methods packets, methods.length = c.authNumber.toNat ∧
      received = 0x05 :: c.authNumber :: (methods ++ 0x05 :: 0x01 :: 0x00 :: c.addressType ::
        (List.flatten packets ++ c.inSocket.readable)) ∧
      ∀ packet ∈ packets, packet.length = packetLength c.addressType packet
  | .Proxy | .Closed => True

/-- A client whose methods arrive has announced at most as many as the buffer holds. -/
def FitsBuffer (received : List UInt8) : Prop :=
  ∀ nauth rest, received = 0x05 :: nauth :: rest → UInt8.toNat nauth ≤ rest.length → UInt8.toNat nauth ≤ INT8_MAX

/-- The greeting and all its methods. -/
def Greeted (received : List UInt8) : Prop :=
  ∃ nauth rest, received = 0x05 :: nauth :: rest ∧ UInt8.toNat nauth ≤ rest.length

/-- The bytes that are left unread wait for the rest of their packet. -/
def Unread (c : Socks5Connection) (received : List UInt8) : Prop :=
  match c.state with
  | .ClientGreeting => c.inSocket.readable.length < 2
  | .AuthenticationMethods => c.inSocket.readable.length < c.authNumber.toNat
  | .ClientConnectionRequest | .ClientConnectionAddress | .Proxy => Greeted received
  | .Closed => True

/-- No traffic flows before the negotiation is over. -/
def Quiet (c : Socks5Connection) : Prop :=
  match c.state with
  | .ClientGreeting | .AuthenticationMethods | .ClientConnectionRequest => c.outSockets = [] ∧ c.lookups = []
  | .ClientConnectionAddress => ∀ out ∈ c.outSockets, out.connected = false ∧ out.device.bytesToWrite = 0
  | .Proxy | .Closed => True

structure Reading (c : Socks5Connection) (received : List UInt8) : Prop where
  whole : c.Whole received
  unread : c.Unread received
  quiet : c.Quiet
  isOpen : c.inSocket.isOpen = true ↔ c.state ≠ .Closed
  bounded : c.Bounded ↔ FitsBuffer received

variable {c c' : Socks5Connection} {received data rest methods : List UInt8} {nauth : UInt8}

lemma fitsBuffer_cons (hl : nauth.toNat ≤ rest.length) :
    FitsBuffer (0x05 :: nauth :: rest) ↔ nauth.toNat ≤ INT8_MAX := by
  constructor
  · intro hf
    exact hf nauth rest rfl hl
  · rintro hn _ _ heq -
    cases heq
    exact hn

lemma fitsBuffer_of_short (hl : rest.length < nauth.toNat) : FitsBuffer (0x05 :: nauth :: rest) := by
  rintro _ _ heq hle
  cases heq
  omega

lemma fitsBuffer_of_version {version : UInt8} (hv : version ≠ 0x05) : FitsBuffer (version :: rest) := by
  rintro _ _ heq
  cases heq
  exact absurd rfl hv

lemma fitsBuffer_of_length (hl : received.length < 2) : FitsBuffer received := by
  rintro _ rest rfl
  simp at hl

lemma Greeted.append (hg : Greeted received) (data : List UInt8) : Greeted (received ++ data) := by
  obtain ⟨nauth, rest, rfl, hl⟩ := hg
  refine ⟨nauth, rest ++ data, rfl, ?_⟩
  rw [List.length_append]
  omega

lemma Greeted.fitsBuffer_append (hg : Greeted received) : FitsBuffer (received ++ data) ↔ FitsBuffer received := by
  obtain ⟨nauth, rest, rfl, hl⟩ := hg
  rw [List.cons_append, List.cons_append, fitsBuffer_cons hl, fitsBuffer_cons]
  rw [List.length_append]
  omega

lemma greeted_methods (hl : methods.length = nauth.toNat) : Greeted (0x05 :: nauth :: (methods ++ rest)) := by
  refine ⟨nauth, methods ++ rest, rfl, ?_⟩
  rw [List.length_append]
  omega

lemma bounded_congr (hr : c'.reads = c.reads) : c'.Bounded ↔ c.Bounded := by
  rw [Bounded, Bounded, hr]

lemma bounded_append {maxSize size : ℕ} (hr : c'.reads = c.reads ++ [(maxSize, size)]) :
    c'.Bounded ↔ c.Bounded ∧ maxSize ≤ size := by
  rw [Bounded, Bounded, hr]
  simp [or_imp, forall_and]

lemma bounded_readBuffer {maxSize size : ℕ} (hs : maxSize ≤ size) :
    (c.readBuffer maxSize size).2.Bounded ↔ c.Bounded := by
  have hb : (c.readBuffer maxSize size).2.Bounded ↔ c.Bounded ∧ maxSize ≤ size := bounded_append rfl
  rw [hb]
  exact and_iff_left hs

lemma bounded_readPacket {T : Type} [Packet T] {packet : T} (hp : c.readPacket T = some (packet, c')) :
    c'.Bounded ↔ c.Bounded := by
  obtain ⟨_, -, heq⟩ := Option.map_eq_some_iff.mp hp
  cases heq
  rw [bounded_append rfl]
  exact and_iff_left le_rfl

lemma bounded_readDomainName : c.readDomainName.Bounded ↔ c.Bounded := by
  rw [readDomainName]
  split_ifs
  · rfl
  have h₁ := bounded_readBuffer (c := c) (le_refl 1)
  split
  · next length c₁ hr₁ =>
    rw [hr₁] at h₁
    have h₂ : (c₁.readBuffer length.toNat UINT8_MAX).2.Bounded ↔ c₁.Bounded :=
      bounded_readBuffer (Nat.le_of_lt_succ length.toNat_lt)
    split
    · next name c₂ hr₂ =>
      rw [hr₂] at h₂
      have h₃ := bounded_readBuffer (c := c₂) (le_refl 2)
      split
      · next hi lo c₃ hr₃ =>
        rw [hr₃] at h₃
        exact h₃.trans (h₂.trans h₁)
      · next c₃ _ hr₃ =>
        rw [hr₃] at h₃
        exact h₃.trans (h₂.trans h₁)
    · next c₂ hr₂ =>
      rw [hr₂] at h₂
      exact h₂.trans h₁
  · next c₁ _ hr₁ =>
    rw [hr₁] at h₁
    exact h₁

lemma bounded_readAddress : c.readAddress.Bounded ↔ c.Bounded := by
  rw [readAddress]
  split_ifs
  · split
    · rfl
    · next hp =>
      have hb := bounded_readPacket hp
      exact hb
  · exact bounded_readDomainName
  · split
    · rfl
    · next hp =>
      have hb := bounded_readPacket hp
      exact hb
  · rfl

lemma Reading.closed (hb : c.Bounded ↔ FitsBuffer received) : (c.setState .Closed).Reading received :=
  ⟨trivial, trivial, trivial, by simp [setState, Device.close], hb⟩

lemma Reading.failed (hb : c.Bounded ↔ FitsBuffer received) (reason : Socks5Replies) (errorString : String) :
    (c.setError reason errorString).Reading received := Reading.closed hb

/-- What moving bytes changes of a connection plays no part once traffic flows. -/
lemma Reading.traffic (hr : c.Reading received) (hs : c.state = .Proxy ∨ c.state = .Closed)
    (h₁ : c'.state = c.state) (h₂ : c'.inSocket.isOpen = c.inSocket.isOpen) (h₃ : c'.reads = c.reads) :
    c'.Reading received := by
  have hu := hr.unread
  constructor
  case whole => rcases hs with hs | hs <;> simp [Whole, h₁, hs]
  case unread =>
    rcases hs with hs | hs
    · simpa only [Unread, h₁, hs] using hu
    · simp only [Unread, h₁, hs]
  case quiet => rcases hs with hs | hs <;> simp [Quiet, h₁, hs]
  case isOpen => rw [h₁, h₂]; exact hr.isOpen
  case bounded => exact (bounded_congr h₃).trans hr.bounded

lemma Reading.greeted (hr : c.Reading received) (hs : c.state = .ClientConnectionAddress ∨ c.state = .Proxy) :
    Greeted received := by
  have hu := hr.unread
  rcases hs with hs | hs <;> simpa only [Unread, hs] using hu

lemma packetLength_take {atype : UInt8} (n : ℕ) : packetLength atype (rest.take (n + 1)) = packetLength atype rest := by
  cases rest <;> rfl

lemma act_authNumber (request : Request) (c : Socks5Connection) : (act request c).authNumber = c.authNumber := by
  cases request <;> rfl

lemma act_quiet {request : Request} (hs : c.state = .ClientConnectionAddress) (hq : c.Quiet) :
    (act request c).Quiet := by
  rw [Quiet, act_state, hs]
  have ho : ∀ out ∈ c.outSockets, out.connected = false ∧ out.device.bytesToWrite = 0 := by
    simpa only [Quiet, hs] using hq
  cases request with
  | address destAddress port => exact List.forall_mem_cons.mpr ⟨⟨rfl, rfl⟩, ho⟩
  | hostname name port => exact ho

/-- The packet that is acted on is the next whole one. -/
lemma whole_act {request : Request} {n : ℕ} (reads : List (ℕ × ℕ)) (hs : c.state = .ClientConnectionAddress)
    (hw : c.Whole received) (hp : addressPacket c.addressType c.inSocket.readable = some (request, n)) :
    (act request (c.withReadable (c.inSocket.readable.drop n) reads)).Whole received := by
  obtain ⟨methods, packets, hm, he, hall⟩ := by simpa only [Whole, hs] using hw
  have hs' := (act_state request (c.withReadable (c.inSocket.readable.drop n) reads)).trans hs
  have hn := addressPacket_length hp
  have hl : n ≤ c.inSocket.readable.length := by
    rw [hn]
    exact (addressPacket_isSome.mp (by rw [hp]; rfl)).2
  rw [Whole, hs']
  dsimp only
  rw [act_authNumber, act_addressType, act_inSocket]
  refine ⟨methods, packets ++ [c.inSocket.readable.take n], hm, ?_, ?_⟩
  · rw [he]
    simp [withReadable]
  · intro packet hmem
    rcases List.mem_append.mp hmem with hmem | hmem
    · exact hall packet hmem
    · rw [List.mem_singleton.mp hmem, List.length_take, min_eq_left hl]
      cases n with
      | zero =>
        simp only [packetLength] at hn
        split_ifs at hn
      | succ n => exact hn.trans (packetLength_take n).symm

/-- The connection waits for address packets, of which whole ones are read. -/
lemma reading_readAddress (hs : c.state = .ClientConnectionAddress) (ho : c.inSocket.isOpen = true)
    (hw : c.Whole received) (hg : Greeted received) (hq : c.Quiet) (hb : c.Bounded ↔ FitsBuffer received) :
    c.readAddress.Reading received := by
  have hb' := bounded_readAddress.trans hb
  by_cases ht : c.addressType = 0x01 ∨ c.addressType = 0x03 ∨ c.addressType = 0x04
  · have hl : c.Listening := ⟨hs, ho, ht⟩
    rcases hl.readAddress with ⟨-, hr⟩ | ⟨request, n, reads, hp, hr⟩ | ⟨-, -, -, readable, reads, hr⟩
    · rw [hr]
      exact ⟨hw, by simpa only [Unread, hs] using hg, hq, by simp [ho, hs], hb⟩
    · rw [hr] at hb' ⊢
      have hs' := (act_state request (c.withReadable (c.inSocket.readable.drop n) reads)).trans hs
      constructor
      case whole => exact whole_act reads hs hw hp
      case unread => simpa only [Unread, hs'] using hg
      case quiet => exact act_quiet hs hq
      case isOpen =>
        rw [act_inSocket, hs']
        exact iff_of_true ho (by simp)
      case bounded => exact hb'
    · rw [hr] at hb' ⊢
      exact Reading.failed (c := c.withReadable readable reads) hb' _ _
  · rw [readAddress_unsupported ht] at hb' ⊢
    exact Reading.failed (c := c) hb' _ _

lemma reading_readRequest (hs : c.state = .ClientConnectionRequest) (ho : c.inSocket.isOpen = true)
    (hw : c.Whole received) (hq : c.Quiet) (hb : c.Bounded ↔ FitsBuffer received) :
    c.readRequest.Reading received := by
  obtain ⟨methods, hm, he⟩ := by simpa only [Whole, hs] using hw
  have hg : Greeted received := by
    rw [he]
    exact greeted_methods hm
  match hr : c.inSocket.readable with
  | version :: cmd :: rsv :: atype :: rest =>
    have hb' : (c.withReadable rest (c.reads ++ [(4, 4)])).Bounded ↔ FitsBuffer received := by
      rw [bounded_append rfl, hb]
      exact and_iff_left le_rfl
    rw [readRequest_cons hr]
    split_ifs with hv hc
    · exact Reading.failed hb' _ _
    · exact Reading.failed hb' _ _
    · obtain ⟨hv, hz⟩ := by simpa only [not_or, not_not] using hv
      have hn : c.outSockets = [] := by
        simp only [Quiet, hs] at hq
        exact hq.1
      refine reading_readAddress (c := c.acceptRequest atype rest) rfl ho ⟨methods, [], hm, ?_, by simp⟩ hg ?_ hb'
      · rw [he, hr, hv, hz, not_not.mp hc]
        rfl
      · intro out hmem
        exact absurd (hn ▸ hmem : out ∈ []) (List.not_mem_nil)
  | [] | [_] | [_, _] | [_, _, _] =>
    rw [readRequest, readPacket_none (by simp [hr, Packet.size])]
    exact ⟨hw, by simpa only [Unread, hs] using hg, hq, by simp [ho, hs], hb⟩

lemma reading_readMethods (hs : c.state = .AuthenticationMethods) (ho : c.inSocket.isOpen = true)
    (hw : c.Whole received) (hq : c.Quiet) (hb : c.Bounded) : c.readMethods.Reading received := by
  have he : received = 0x05 :: c.authNumber :: c.inSocket.readable := by simpa only [Whole, hs] using hw
  by_cases hl : c.authNumber.toNat ≤ c.inSocket.readable.length
  · rw [readMethods_of_le ho hl]
    have hb' : (c.acceptMethods (c.inSocket.readable.drop c.authNumber.toNat)).Bounded ↔ FitsBuffer received := by
      rw [he, fitsBuffer_cons hl, bounded_append rfl]
      exact and_iff_right hb
    have hq' : c.outSockets = [] ∧ c.lookups = [] := by simpa only [Quiet, hs] using hq
    refine reading_readRequest rfl ?_ ⟨c.inSocket.readable.take c.authNumber.toNat, ?_, ?_⟩ hq' hb'
    · simp [acceptMethods, setState, withReadable, Device.write, ho]
    · rw [List.length_take]
      exact min_eq_left hl
    · simp [he, acceptMethods, setState, withReadable, Device.write, ho]
  · have hc : c.readMethods = c := if_pos (by simpa [Device.bytesAvailable] using hl)
    rw [hc]
    have hf : FitsBuffer received := by
      rw [he]
      exact fitsBuffer_of_short (not_le.mp hl)
    exact ⟨hw, by simpa only [Unread, hs] using not_le.mp hl, hq, by simp [ho, hs], iff_of_true hb hf⟩

lemma reading_readGreeting (hs : c.state = .ClientGreeting) (ho : c.inSocket.isOpen = true)
    (hw : c.Whole received) (hq : c.Quiet) (hb : c.Bounded) : c.readGreeting.Reading received := by
  have he : received = c.inSocket.readable := by simpa only [Whole, hs] using hw
  match hr : c.inSocket.readable with
  | version :: nauth :: rest =>
    have hb' : (c.withReadable rest (c.reads ++ [(2, 2)])).Bounded := (bounded_append rfl).mpr ⟨hb, le_rfl⟩
    rw [readGreeting_cons hr]
    split_ifs with hv
    · have hf : FitsBuffer received := by
        rw [he, hr]
        exact fitsBuffer_of_version hv
      exact Reading.failed (iff_of_true hb' hf) _ _
    · have hq' : c.outSockets = [] ∧ c.lookups = [] := by simpa only [Quiet, hs] using hq
      refine reading_readMethods (c := c.acceptGreeting nauth rest) rfl ho ?_ hq' hb'
      rw [he, hr, not_not.mp hv]
      rfl
  | [] | [_] =>
    rw [readGreeting, readPacket_none (by simp [hr, Packet.size])]
    have hl : c.inSocket.readable.length < 2 := by simp [hr]
    exact ⟨hw, by simpa only [Unread, hs] using hl, hq, by simp [ho, hs],
      iff_of_true hb (fitsBuffer_of_length (by rwa [he]))⟩

lemma whole_receive (data : List UInt8) (ho : c.inSocket.isOpen = true) (hw : c.Whole received) :
    (c.receive data).Whole (received ++ data) := by
  have hr := readable_receive data ho
  have hc : (c.receive data).state = c.state := rfl
  rw [Whole] at hw ⊢
  rw [hc, hr]
  cases hs : c.state with
  | ClientGreeting =>
    obtain rfl : received = c.inSocket.readable := by simpa only [hs] using hw
    rfl
  | AuthenticationMethods =>
    obtain rfl : received = 0x05 :: c.authNumber :: c.inSocket.readable := by simpa only [hs] using hw
    rfl
  | ClientConnectionRequest =>
    obtain ⟨methods, hm, rfl⟩ := by simpa only [hs] using hw
    exact ⟨methods, hm, by simp [receive]⟩
  | ClientConnectionAddress =>
    obtain ⟨methods, packets, hm, rfl, hp⟩ := by simpa only [hs] using hw
    exact ⟨methods, packets, hm, by simp [receive], hp⟩
  | Proxy => trivial
  | Closed => trivial

lemma proxyToOut_frame (watermark : ℕ) : (c.proxyToOut watermark).1.state = c.state ∧
    (c.proxyToOut watermark).1.inSocket.isOpen = c.inSocket.isOpen ∧
    (c.proxyToOut watermark).1.reads = c.reads := by
  cases ho : c.outSockets with
  | nil => simp [proxyToOut, ho]
  | cons out older =>
    obtain ⟨-, hi, -, -⟩ := proxyLoop_frame (c.inSocket.bytesAvailable + 1) c.inSocket out.device
    simp [proxyToOut, ho, proxy, hi]

lemma proxyToIn_frame (watermark : ℕ) : (c.proxyToIn watermark).1.state = c.state ∧
    (c.proxyToIn watermark).1.inSocket.isOpen = c.inSocket.isOpen ∧
    (c.proxyToIn watermark).1.reads = c.reads := by
  cases ho : c.outSockets with
  | nil => simp [proxyToIn, ho]
  | cons out older =>
    obtain ⟨-, -, -, hi⟩ := proxyLoop_frame (out.device.bytesAvailable + 1) out.device c.inSocket
    simp [proxyToIn, ho, proxy, hi]

lemma Reading.proxySend (hr : c.Reading received) (hs : c.state = .Proxy ∨ c.state = .Closed) :
    c.proxySend.Reading received := by
  obtain ⟨h₁, h₂, h₃⟩ := proxyToOut_frame (c := c) c.sendHighWaterMark
  exact hr.traffic hs h₁ h₂ h₃

lemma reading_clientData (hr : c.Reading received) (data : List UInt8) :
    (c.step (.clientData data)).Reading (arrive c (.clientData data) received) := by
  cases ho : c.inSocket.isOpen with
  | false =>
    rw [step_clientData_closed ho, arrive, if_neg (by simp [ho])]
    exact hr
  | true =>
    have hw := whole_receive data ho hr.whole
    have ho' : (c.receive data).inSocket.isOpen = true := by simp [receive, Device.receive, ho]
    have hq : (c.receive data).Quiet := hr.quiet
    have hb : (c.receive data).Bounded ↔ c.Bounded := bounded_congr rfl
    have hu := hr.unread
    have he := hr.whole
    rw [step_clientData ho, arrive, if_pos ho, readyRead]
    have hc : (c.receive data).state = c.state := rfl
    rw [hc]
    cases hs : c.state with
    | ClientGreeting =>
      simp only [Unread, Whole, hs] at hu he
      have hf : FitsBuffer received := fitsBuffer_of_length (by rwa [he])
      exact reading_readGreeting hs ho' hw hq (hb.mpr (hr.bounded.mpr hf))
    | AuthenticationMethods =>
      simp only [Unread, Whole, hs] at hu he
      have hf : FitsBuffer received := by
        rw [he]
        exact fitsBuffer_of_short hu
      exact reading_readMethods hs ho' hw hq (hb.mpr (hr.bounded.mpr hf))
    | ClientConnectionRequest =>
      simp only [Unread, hs] at hu
      exact reading_readRequest hs ho' hw hq (hb.trans (hr.bounded.trans hu.fitsBuffer_append.symm))
    | ClientConnectionAddress =>
      simp only [Unread, hs] at hu
      exact reading_readAddress hs ho' hw (hu.append data) hq (hb.trans (hr.bounded.trans hu.fitsBuffer_append.symm))
    | Proxy =>
      simp only [Unread, hs] at hu
      have hr' : (c.receive data).Reading (received ++ data) := by
        refine ⟨hw, ?_, hq, by simp [ho', hc, hs], hb.trans (hr.bounded.trans hu.fitsBuffer_append.symm)⟩
        simpa only [Unread, hc, hs] using hu.append data
      exact hr'.proxySend (Or.inl hs)
    | Closed => simp [hr.isOpen.mp ho] at hs

lemma Reading.flowing_of_mem {out : OutSocket} (hr : c.Reading received) (ho : out ∈ c.outSockets)
    (hf : out.connected = true ∨ out.device.bytesToWrite ≠ 0) : c.state = .Proxy ∨ c.state = .Closed := by
  have hq := hr.quiet
  cases hs : c.state with
  | ClientGreeting | AuthenticationMethods | ClientConnectionRequest =>
    simp only [Quiet, hs] at hq
    simp [hq.1] at ho
  | ClientConnectionAddress =>
    simp only [Quiet, hs] at hq
    obtain ⟨hn, hz⟩ := hq out ho
    simp [hn, hz] at hf
  | Proxy => exact Or.inl rfl
  | Closed => exact Or.inr rfl

/-- Sockets and lookups come with a request. -/
lemma Reading.requested (hr : c.Reading received) (hn : c.outSockets ≠ [] ∨ c.lookups ≠ []) :
    c.state = .ClientConnectionAddress ∨ c.state = .Proxy ∨ c.state = .Closed := by
  have hq := hr.quiet
  cases hs : c.state with
  | ClientGreeting | AuthenticationMethods | ClientConnectionRequest =>
    simp only [Quiet, hs] at hq
    simp [hq.1, hq.2] at hn
  | ClientConnectionAddress => exact Or.inl rfl
  | Proxy => exact Or.inr (Or.inl rfl)
  | Closed => exact Or.inr (Or.inr rfl)

lemma Reading.outSocketConnected {c : Socks5Connection} (hg : c.inSocket.isOpen = true → Greeted received)
    (hb : c.Bounded ↔ FitsBuffer received) : c.outSocketConnected.Reading received := by
  cases ho : c.inSocket.isOpen with
  | false =>
    have hw : c.inSocket.write (createServerResponsePacket 0x00 c.socksPort) = (false, c.inSocket) :=
      if_neg (by simp [ho])
    rw [Socks5Connection.outSocketConnected, hw]
    exact Reading.failed hb _ _
  | true =>
    let inSocket := (c.inSocket.write (createServerResponsePacket 0x00 c.socksPort)).2
    have hw : c.inSocket.write (createServerResponsePacket 0x00 c.socksPort) = (true, inSocket) := by
      simp [inSocket, Device.write, ho]
    have hi : inSocket.isOpen = true := by simp [inSocket, Device.write, ho]
    rw [Socks5Connection.outSocketConnected, hw]
    have hp : (setState .Proxy { c with inSocket }).Reading received :=
      ⟨trivial, hg ho, trivial, iff_of_true hi (by simp [setState]), hb⟩
    exact hp.proxySend (Or.inl rfl)

lemma reading_dnsFinished (hr : c.Reading received) (i : ℕ) (reply : DnsReply) :
    (c.step (.dnsFinished i reply)).Reading received := by
  simp only [step]
  split
  · next lookup hi =>
    split_ifs
    · have hs := hr.requested (Or.inr (by rintro hn; simp [hn] at hi))
      have hq : ∀ lookup', (c.withLookup i lookup').Reading received := by
        intro lookup'
        refine ⟨hr.whole, hr.unread, ?_, hr.isOpen, hr.bounded⟩
        have hq := hr.quiet
        rcases hs with hs | hs | hs
        · simpa only [Quiet, withLookup, hs] using hq
        · simp only [Quiet, withLookup, hs]
        · simp only [Quiet, withLookup, hs]
      rcases dnsResolutionFinished_cases i lookup reply c with ⟨_, _, he⟩ | ⟨lookup', he⟩ | ⟨destAddress, -, -, he⟩
      · rw [he]
        exact Reading.failed (c := c.withLookup i { lookup with running := false }) hr.bounded _ _
      · rw [he]
        exact hq lookup'
      · rw [he]
        have hq' := (hq { lookup with running := false }).quiet
        refine ⟨hr.whole, hr.unread, ?_, hr.isOpen, hr.bounded⟩
        rcases hs with hs | hs | hs
        · simp only [Quiet, withLookup, configureOutSocket, hs] at hq' ⊢
          exact List.forall_mem_cons.mpr ⟨⟨rfl, rfl⟩, hq'⟩
        · simp only [Quiet, withLookup, configureOutSocket, hs]
        · simp only [Quiet, withLookup, configureOutSocket, hs]
    · exact hr
  · exact hr

lemma reading_step (hr : c.Reading received) (e : Event) : (c.step e).Reading (arrive c e received) := by
  cases e with
  | clientData data => exact reading_clientData hr data
  | inBytesWritten bytes =>
    simp only [step]
    split_ifs
    · rw [bytesWritten]
      split_ifs with hp
      · exact ⟨hr.whole, hr.unread, hr.quiet, hr.isOpen, hr.bounded⟩
      · exact hr.traffic (Or.inl (not_not.mp hp)) rfl rfl rfl
      · obtain ⟨h₁, h₂, h₃⟩ := proxyToOut_frame (c := { c with
          inSocket := c.inSocket.sent bytes, recvIgnoreBytes := 0,
          dataSentReceived := c.dataSentReceived ++ [(0, bytes - c.recvIgnoreBytes)] }) c.recvHighWaterMark
        exact hr.traffic (Or.inl (not_not.mp hp)) h₁ h₂ h₃
    · exact hr
  | inDisconnected => exact Reading.closed hr.bounded
  | inError remoteHostClosed =>
    simp only [step, socketError]
    split_ifs
    · exact Reading.closed hr.bounded
    · exact Reading.failed hr.bounded _ _
  | dnsFinished i reply => exact reading_dnsFinished hr i reply
  | outConnected i =>
    simp only [step]
    split
    · next out hi =>
      split_ifs
      · exact hr
      · have hs := hr.requested (Or.inl (List.ne_nil_of_mem (List.mem_of_getElem? hi)))
        refine Reading.outSocketConnected (fun ho => ?_) hr.bounded
        rcases hs with hs | hs | hs
        · exact hr.greeted (Or.inl hs)
        · exact hr.greeted (Or.inr hs)
        · exact absurd hs (hr.isOpen.mp ho)
    · exact hr
  | outBytesWritten i bytes =>
    simp only [step]
    split
    · next out hi =>
      split_ifs with hb
      · have hs := hr.flowing_of_mem (List.mem_of_getElem? hi) (Or.inr (by omega))
        have hk : Reading { c with
            outSockets := c.outSockets.set i { out with device := out.device.sent bytes }
            dataSentReceived := c.dataSentReceived ++ [(bytes, 0)] } received := hr.traffic hs rfl rfl rfl
        exact hk.proxySend hs
      · exact hr
    · exact hr
  | outReadyRead i data =>
    simp only [step]
    split
    · next out hi =>
      split_ifs with hc
      · have hs := hr.flowing_of_mem (List.mem_of_getElem? hi) (Or.inl (by simp_all))
        obtain ⟨h₁, h₂, h₃⟩ := proxyToIn_frame (c := { c with
          outSockets := c.outSockets.set i { out with device := out.device.receive data } }) c.recvHighWaterMark
        exact hr.traffic hs h₁ h₂ h₃
      · exact hr
    · exact hr
  | outDisconnected i =>
    simp only [step]
    split_ifs
    · exact Reading.closed hr.bounded
    · exact hr
  | outError i remoteHostClosed errorString =>
    simp only [step, socketError]
    split_ifs
    · exact Reading.closed hr.bounded
    · exact Reading.failed hr.bounded _ _
    · exact hr

lemma reading_initial (socksPort : UInt16) (errorString : String) : (initial socksPort errorString).Reading [] :=
  ⟨rfl, Nat.zero_lt_two, ⟨rfl, rfl⟩, by simp [initial],
    iff_of_true (fun _ h => absurd h List.not_mem_nil) (fitsBuffer_of_length Nat.zero_lt_two)⟩

/-- In every run the reads fit into their buffers and take whole packets, exactly if the methods that arrive do. -/
theorem bounded_iff_fitsBuffer (socksPort : UInt16) (errorString : String) (events : List Event) :
    (run step (initial socksPort errorString) events).Bounded ∧
      (run step (initial socksPort errorString) events).Whole ((initial socksPort errorString).arrived events) ↔
    FitsBuffer ((initial socksPort errorString).arrived events) := by
  have hr : Reading (run (watch step arrive) (initial socksPort errorString, []) events).1
      ((initial socksPort errorString).arrived events) :=
    run_invariant (P := fun p : Socks5Connection × List UInt8 => p.1.Reading p.2) (fun p e hp => reading_step hp e)
      (reading_initial socksPort errorString)
  rw [← run_watch arrive []]
  exact (and_iff_left hr.whole).trans hr.bounded

/-- 128 methods are read into a buffer of 127 bytes. -/
theorem not_bounded_methods :
    ¬ (run step (initial 0 "") [.clientData (0x05 :: 0x80 :: List.replicate 128 0x00)]).Bounded := by
  decide +kernel

end Socks5Connection

end VpnClient.Socks5
