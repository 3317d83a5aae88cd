import VpnClient.Library.Runs
import VpnClient.Socks5.ReadyRead

/-! That one request of a client is acted on and that the bytes after it reach the outgoing socket,
as long as the client sends no second packet early. -/

namespace VpnClient.Socks5

open Library.Runs

namespace Socks5Connection

/-- The bytes that a client sent after its address packet. -/
def afterAddress (received : List UInt8) : Option (List UInt8) :=
  (addressPart received).bind fun (atype, rest) => (addressPacket atype rest).map fun (_, n) => rest.drop n

/-- The bytes written to outgoing sockets. -/
def delivered (c : Socks5Connection) : List UInt8 := c.outSockets.flatMap (·.device.written)

/-- Watches which bytes of the client arrive. -/
def arrive (c : Socks5Connection) (e : Event) (received : List UInt8) : List UInt8 :=
  match e with
  | .clientData data => if c.inSocket.isOpen then received ++ data else received
  | _ => received

/-- The bytes of the client that arrive in a run. -/
def arrived (c : Socks5Connection) (events : List Event) : List UInt8 :=
  (run (watch step arrive) (c, []) events).2

/-- At most one request is acted on, by one lookup and one outgoing socket, and what that socket
gets is the stream after the address packet. -/
structure OneRequest (c : Socks5Connection) (received : List UInt8) : Prop where
  requests : c.requests.length ≤ 1
  lookups : c.lookups.length ≤ 1
  outSockets : c.outSockets.length ≤ 1
  delivered : c.delivered <+: (afterAddress received).getD []
  complete : c.state ≠ .Closed → ∀ rest, afterAddress received = some rest →
    c.delivered ++ c.inSocket.readable = rest

/-- While a request waits for its lookup or its socket, too few bytes are there for another packet. -/
def NothingEarly (c : Socks5Connection) : Event → Prop
  | .clientData data => c.inSocket.isOpen = true → c.state = .ClientConnectionAddress → c.requests ≠ [] →
    Waiting c.addressType (c.inSocket.readable ++ data)
  | _ => True

instance (c : Socks5Connection) (e : Event) : Decidable (c.NothingEarly e) :=
  match e with
  | .clientData _ => inferInstanceAs (Decidable (_ → _))
  | .inBytesWritten _ | .inDisconnected | .inError _ | .dnsFinished _ _ | .outConnected _
  | .outBytesWritten _ _ | .outReadyRead _ _ | .outDisconnected _ | .outError _ _ _ => isTrue trivial

/-- No request has been acted on. -/
structure Idle (c : Socks5Connection) : Prop where
  isOpen : c.inSocket.isOpen = true
  requests : c.requests = []
  lookups : c.lookups = []
  outSockets : c.outSockets = []

/-- What the stages of the negotiation have read. -/
def Stage (c : Socks5Connection) (received : List UInt8) : Prop :=
  match c.state with
  | .ClientGreeting => received = c.inSocket.readable
  | .AuthenticationMethods => received = 0x05 :: c.authNumber :: c.inSocket.readable
  | .ClientConnectionRequest => ∃ nauth methods, methods.length = UInt8.toNat nauth ∧
      received = 0x05 :: nauth :: (methods ++ c.inSocket.readable)
  | .ClientConnectionAddress => addressPart received = some (c.addressType, c.inSocket.readable)
  | _ => False

/-- At most one socket has been made or can still be made by a running lookup. -/
def Single (c : Socks5Connection) : Prop :=
  c.requests.length ≤ 1 ∧ c.lookups.length ≤ 1 ∧ c.outSockets.length + c.lookups.countP (·.running) ≤ 1

structure Negotiating (c : Socks5Connection) (received : List UInt8) : Prop where
  idle : c.Idle
  stage : c.Stage received
  before : afterAddress received = none

structure Acting (c : Socks5Connection) (received : List UInt8) : Prop where
  isOpen : c.inSocket.isOpen = true
  state : c.state = .ClientConnectionAddress ∨ c.state = .Proxy
  supported : c.addressType = 0x01 ∨ c.addressType = 0x03 ∨ c.addressType = 0x04
  requests : c.requests ≠ []
  single : c.Single
  outOpen : ∀ out ∈ c.outSockets, out.device.isOpen = true
  after : afterAddress received = some (c.delivered ++ c.inSocket.readable)

structure Ended (c : Socks5Connection) (received : List UInt8) : Prop where
  isOpen : c.inSocket.isOpen = false
  state : c.state = .Closed
  readable : c.inSocket.readable = []
  single : c.Single
  after : c.delivered <+: (afterAddress received).getD []

def Inv (c : Socks5Connection) (received : List UInt8) : Prop :=
  c.Negotiating received ∨ c.Acting received ∨ c.Ended received

variable {c : Socks5Connection} {received data rest : List UInt8} {atype : UInt8}

lemma afterAddress_append (h : afterAddress received = some rest) :
    afterAddress (received ++ data) = some (rest ++ data) := by
  obtain ⟨⟨atype, part⟩, hp, ha⟩ := Option.bind_eq_some_iff.mp h
  obtain ⟨⟨request, n⟩, hq, rfl⟩ := Option.map_eq_some_iff.mp ha
  have hn : n ≤ part.length := by
    rw [addressPacket_length hq]
    exact (addressPacket_isSome.mp (by rw [hq]; rfl)).2
  simp [afterAddress, addressPart_append _ hp, addressPacket_append hq, List.drop_append_of_le_length hn]

lemma afterAddress_waiting (hp : addressPart received = some (atype, rest)) (hw : Waiting atype rest) :
    afterAddress received = none := by
  have hq : addressPacket atype rest = none := by
    rw [← Option.not_isSome_iff_eq_none, addressPacket_isSome]
    rintro ⟨rfl | rfl | rfl, hl⟩
    · have hn := hw.1 rfl
      simp [packetLength] at hl
      omega
    · simp [hw.2.1 rfl, packetLength] at hl
    · have hn := hw.2.2 rfl
      simp [packetLength] at hl
      omega
  simp [afterAddress, hp, hq]

lemma Idle.single (hn : c.Idle) : c.Single := by simp [Single, hn.requests, hn.lookups, hn.outSockets]

lemma Idle.delivered (hn : c.Idle) : c.delivered = [] := by
  simp [Socks5Connection.delivered, hn.outSockets]

lemma Idle.withReadable (hn : c.Idle) (readable : List UInt8) (reads : List (ℕ × ℕ)) :
    (c.withReadable readable reads).Idle := ⟨hn.isOpen, hn.requests, hn.lookups, hn.outSockets⟩

lemma ended_setState (hs : c.Single) (hd : c.delivered <+: (afterAddress received).getD []) :
    (c.setState .Closed).Ended received := by
  refine ⟨rfl, rfl, rfl, ?_, ?_⟩
  · simpa [Single, setState] using hs
  · cases ho : c.outSockets with
    | nil => simp [delivered, setState, ho]
    | cons out older => simpa [delivered, setState, ho, Device.close] using hd

lemma ended_setError (hs : c.Single) (hd : c.delivered <+: (afterAddress received).getD [])
    (reason : Socks5Replies) (errorString : String) : (c.setError reason errorString).Ended received :=
  ended_setState hs hd

lemma Idle.ended_setError (hn : c.Idle) (reason : Socks5Replies) (errorString : String) :
    (c.setError reason errorString).Ended received :=
  Socks5Connection.ended_setError hn.single (by simp [hn.delivered]) reason errorString

lemma Idle.acting {request : Request} {n : ℕ} {reads : List (ℕ × ℕ)} (hn : c.Idle)
    (hs : c.state = .ClientConnectionAddress)
    (ht : c.addressType = 0x01 ∨ c.addressType = 0x03 ∨ c.addressType = 0x04)
    (hp : addressPart received = some (c.addressType, c.inSocket.readable))
    (hq : addressPacket c.addressType c.inSocket.readable = some (request, n)) :
    (act request (c.withReadable (c.inSocket.readable.drop n) reads)).Acting received := by
  have ha : afterAddress received = some (c.inSocket.readable.drop n) := by simp [afterAddress, hp, hq]
  cases request with
  | address destAddress port =>
    constructor <;>
      simp [act, connectTo, configureOutSocket, Single, Socks5Connection.delivered, Socks5Connection.withReadable,
        hn.isOpen, hn.requests, hn.lookups, hn.outSockets, hs, ht, ha]
  | hostname name port =>
    constructor <;>
      simp [act, startLookup, Single, Socks5Connection.delivered, Socks5Connection.withReadable,
        hn.isOpen, hn.requests, hn.lookups, hn.outSockets, hs, ht, ha]

lemma inv_readAddress (hn : c.Idle) (hs : c.state = .ClientConnectionAddress)
    (hp : addressPart received = some (c.addressType, c.inSocket.readable)) : c.readAddress.Inv received := by
  by_cases ht : c.addressType = 0x01 ∨ c.addressType = 0x03 ∨ c.addressType = 0x04
  · have hl : c.Listening := ⟨hs, hn.isOpen, ht⟩
    rcases hl.readAddress with ⟨hw, hr⟩ | ⟨request, n, reads, hq, hr⟩ | ⟨-, -, -, readable, reads, hr⟩
    · rw [hr]
      exact Or.inl ⟨hn, by simp only [Stage, hs]; exact hp, afterAddress_waiting hp hw⟩
    · rw [hr]
      exact Or.inr (Or.inl (hn.acting hs ht hp hq))
    · rw [hr]
      exact Or.inr (Or.inr ((hn.withReadable readable reads).ended_setError _ _))
  · rw [readAddress_unsupported ht]
    exact Or.inr (Or.inr (hn.ended_setError _ _))

lemma inv_readRequest (hn : c.Idle) (hs : c.state = .ClientConnectionRequest) (ha : c.Stage received) :
    c.readRequest.Inv received := by
  match hr : c.inSocket.readable with
  | version :: cmd :: rsv :: atype :: rest =>
    rw [readRequest_cons hr]
    split_ifs with hm hc
    · exact Or.inr (Or.inr ((hn.withReadable _ _).ended_setError _ _))
    · exact Or.inr (Or.inr ((hn.withReadable _ _).ended_setError _ _))
    · obtain ⟨hv, hz⟩ := by simpa only [not_or, not_not] using hm
      obtain ⟨nauth, methods, hl, ht⟩ := by simpa only [Stage, hs] using ha
      refine inv_readAddress (c := c.acceptRequest atype rest) ⟨hn.isOpen, hn.requests, hn.lookups, hn.outSockets⟩
        rfl (addressPart_eq_some.mpr ⟨nauth, methods, hl, ?_⟩)
      rw [ht, hr, hv, hz, not_not.mp hc]
      rfl
  | [] | [_] | [_, _] | [_, _, _] =>
    rw [readRequest, readPacket_none (by simp [hr, Packet.size])]
    obtain ⟨nauth, methods, hl, ht⟩ := by simpa only [Stage, hs] using ha
    exact Or.inl ⟨hn, ha, by simp [ht, hr, afterAddress, addressPart, requestPart, ← hl]⟩

lemma inv_readMethods (hn : c.Idle) (hs : c.state = .AuthenticationMethods) (ha : c.Stage received) :
    c.readMethods.Inv received := by
  by_cases hl : c.authNumber.toNat ≤ c.inSocket.readable.length
  · rw [readMethods_of_le hn.isOpen hl]
    have ho : ∀ rest, (c.acceptMethods rest).Idle := fun rest =>
      ⟨by simp [acceptMethods, setState, Socks5Connection.withReadable, Device.write, hn.isOpen], hn.requests,
        hn.lookups, hn.outSockets⟩
    refine inv_readRequest (ho _) rfl ⟨c.authNumber, c.inSocket.readable.take c.authNumber.toNat, by simpa using hl, ?_⟩
    have ht : received = 0x05 :: c.authNumber :: c.inSocket.readable := by simpa only [Stage, hs] using ha
    simp [ht, acceptMethods, setState, Socks5Connection.withReadable, Device.write, hn.isOpen]
  · have hc : c.readMethods = c := if_pos (by simpa [Device.bytesAvailable] using hl)
    rw [hc]
    have ht : received = 0x05 :: c.authNumber :: c.inSocket.readable := by simpa only [Stage, hs] using ha
    exact Or.inl ⟨hn, ha, by
      simp [ht, afterAddress, addressPart, requestPart, List.drop_eq_nil_of_le (not_le.mp hl).le]⟩

lemma inv_readGreeting (hn : c.Idle) (hs : c.state = .ClientGreeting) (ha : c.Stage received) :
    c.readGreeting.Inv received := by
  match hr : c.inSocket.readable with
  | version :: nauth :: rest =>
    rw [readGreeting_cons hr]
    split_ifs with hv
    · exact Or.inr (Or.inr ((hn.withReadable _ _).ended_setError _ _))
    · have ht : received = c.inSocket.readable := by simpa only [Stage, hs] using ha
      refine inv_readMethods (c := c.acceptGreeting nauth rest) ⟨hn.isOpen, hn.requests, hn.lookups, hn.outSockets⟩
        rfl ?_
      rw [ht, hr, not_not.mp hv]
      rfl
  | [] | [_] =>
    rw [readGreeting, readPacket_none (by simp [hr, Packet.size])]
    have ht : received = c.inSocket.readable := by simpa only [Stage, hs] using ha
    exact Or.inl ⟨hn, ha, by simp [ht, hr, afterAddress, addressPart]⟩

lemma stage_receive (data : List UInt8) (hs : c.Stage received) (ho : c.inSocket.isOpen = true) :
    (c.receive data).Stage (received ++ data) := by
  have hr := readable_receive data ho
  have hc : (c.receive data).state = c.state := rfl
  rw [Stage] at hs ⊢
  rw [hc, hr]
  cases h : c.state with
  | ClientGreeting =>
    obtain rfl : received = c.inSocket.readable := by simpa only [h] using hs
    rfl
  | AuthenticationMethods =>
    obtain rfl : received = 0x05 :: c.authNumber :: c.inSocket.readable := by simpa only [h] using hs
    rfl
  | ClientConnectionRequest =>
    obtain ⟨nauth, methods, hl, rfl⟩ := by simpa only [h] using hs
    exact ⟨nauth, methods, hl, by simp⟩
  | ClientConnectionAddress =>
    have hp : addressPart received = some (c.addressType, c.inSocket.readable) := by simpa only [h] using hs
    exact addressPart_append _ hp
  | Proxy => simp only [h] at hs
  | Closed => simp only [h] at hs

lemma inv_clientData (hn : c.Negotiating received) (data : List UInt8) :
    (c.step (.clientData data)).Inv (received ++ data) := by
  have hi : (c.receive data).Idle :=
    ⟨by simp [receive, Device.receive, hn.idle.isOpen], hn.idle.requests, hn.idle.lookups, hn.idle.outSockets⟩
  have hs := stage_receive data hn.stage hn.idle.isOpen
  have hc : (c.receive data).state = c.state := rfl
  rw [step_clientData hn.idle.isOpen, readyRead, hc]
  cases h : c.state with
  | ClientGreeting => exact inv_readGreeting hi h hs
  | AuthenticationMethods => exact inv_readMethods hi h hs
  | ClientConnectionRequest => exact inv_readRequest hi h hs
  | ClientConnectionAddress =>
    unfold Stage at hs
    rw [hc, h] at hs
    exact inv_readAddress hi h hs
  | Proxy => simpa only [Stage, h] using hn.stage
  | Closed => simpa only [Stage, h] using hn.stage

/-- What moving bytes between the sockets leaves unchanged. -/
structure Keeps (c c' : Socks5Connection) : Prop where
  state : c'.state = c.state
  addressType : c'.addressType = c.addressType
  isOpen : c'.inSocket.isOpen = c.inSocket.isOpen
  requests : c'.requests = c.requests
  lookups : c'.lookups = c.lookups
  outSockets : c'.outSockets.length = c.outSockets.length
  outOpen : (∀ out ∈ c.outSockets, out.device.isOpen = true) → ∀ out ∈ c'.outSockets, out.device.isOpen = true
  bytes : c'.delivered ++ c'.inSocket.readable = c.delivered ++ c.inSocket.readable
  readable : c.inSocket.readable = [] → c'.inSocket.readable = []

lemma Keeps.refl (c : Socks5Connection) : Keeps c c := by constructor <;> simp

lemma Keeps.trans {c₁ c₂ c₃ : Socks5Connection} (h : Keeps c₁ c₂) (h' : Keeps c₂ c₃) : Keeps c₁ c₃ where
  state := h'.state.trans h.state
  addressType := h'.addressType.trans h.addressType
  isOpen := h'.isOpen.trans h.isOpen
  requests := h'.requests.trans h.requests
  lookups := h'.lookups.trans h.lookups
  outSockets := h'.outSockets.trans h.outSockets
  outOpen ho := h'.outOpen (h.outOpen ho)
  bytes := h'.bytes.trans h.bytes
  readable hr := h'.readable (h.readable hr)

/-- Bytes of the client can move without loss. -/
def Flowing (c : Socks5Connection) : Prop :=
  c.outSockets.length ≤ 1 ∧ ((∀ out ∈ c.outSockets, out.device.isOpen = true) ∨ c.inSocket.readable = [])

lemma Keeps.flowing {c' : Socks5Connection} (h : Keeps c c') (hf : c.Flowing) : c'.Flowing :=
  ⟨h.outSockets.le.trans hf.1, hf.2.imp h.outOpen h.readable⟩

lemma Flowing.cases (hf : c.Flowing) : c.outSockets = [] ∨ ∃ out, c.outSockets = [out] ∧
    (out.device.isOpen = true ∨ c.inSocket.readable = []) := by
  obtain ⟨hl, hf⟩ := hf
  match ho : c.outSockets with
  | [] => exact Or.inl rfl
  | [out] => exact Or.inr ⟨out, rfl, hf.imp_left fun h => h out (by simp [ho])⟩
  | _ :: _ :: _ => simp [ho] at hl

lemma Keeps.proxyToOut (hf : c.Flowing) (watermark : ℕ) : Keeps c (c.proxyToOut watermark).1 := by
  rcases hf.cases with ho | ⟨out, ho, hout | hr⟩
  · simpa [Socks5Connection.proxyToOut, ho] using Keeps.refl c
  · constructor <;>
      simp +contextual [Socks5Connection.proxyToOut, ho, proxy_eq hout, transfer, delivered, hout]
  · have hm : moved c.inSocket out.device = 0 := by simp [moved, Device.bytesAvailable, hr]
    constructor <;>
      simp [Socks5Connection.proxyToOut, ho, proxy, proxyLoop_of_moved_zero hm, delivered, hr]

lemma Keeps.proxyToIn (hf : c.Flowing) (watermark : ℕ) : Keeps c (c.proxyToIn watermark).1 := by
  rcases hf.cases with ho | ⟨out, ho, -⟩
  · simpa [Socks5Connection.proxyToIn, ho] using Keeps.refl c
  · obtain ⟨h₁, h₂, h₃, h₄⟩ := proxyLoop_frame (out.device.bytesAvailable + 1) out.device c.inSocket
    constructor <;> simp [Socks5Connection.proxyToIn, ho, proxy, delivered, h₁, h₂, h₃, h₄]

lemma Keeps.sent (bytes : ℕ) : Keeps c { c with inSocket := c.inSocket.sent bytes } := by
  constructor <;> simp [Device.sent, delivered]

lemma Keeps.bytesWritten (hf : c.Flowing) (bytes : ℕ) : Keeps c (c.bytesWritten bytes) := by
  rw [Socks5Connection.bytesWritten]
  split_ifs
  · exact Keeps.refl c
  · constructor <;> simp [delivered]
  · have hk : Keeps c { c with
        recvIgnoreBytes := 0, dataSentReceived := c.dataSentReceived ++ [(0, bytes - c.recvIgnoreBytes)] } := by
      constructor <;> simp [delivered]
    have hp := hk.trans (Keeps.proxyToOut (hk.flowing hf) c.recvHighWaterMark)
    exact ⟨hp.state, hp.addressType, hp.isOpen, hp.requests, hp.lookups, hp.outSockets, hp.outOpen, hp.bytes,
      hp.readable⟩

lemma Keeps.proxySend (hf : c.Flowing) : Keeps c c.proxySend := by
  have hp := Keeps.proxyToOut hf c.sendHighWaterMark
  exact ⟨hp.state, hp.addressType, hp.isOpen, hp.requests, hp.lookups, hp.outSockets, hp.outOpen, hp.bytes,
    hp.readable⟩

lemma Keeps.setOut {i : ℕ} {out : OutSocket} (out' : OutSocket) (hl : c.outSockets.length ≤ 1) (hi : c.outSockets[i]? = some out)
    (ho : out.device.isOpen = true → out'.device.isOpen = true) (hw : out'.device.written = out.device.written)
    (dataSentReceived : List (ℕ × ℕ)) :
    Keeps c { c with outSockets := c.outSockets.set i out', dataSentReceived } := by
  match hs : c.outSockets with
  | [] => simp [hs] at hi
  | [out₀] =>
    obtain ⟨rfl, rfl⟩ : i = 0 ∧ out₀ = out := by
      cases i with
      | zero => simpa [hs] using hi
      | succ i => simp [hs] at hi
    exact ⟨rfl, rfl, rfl, rfl, rfl, by simp [hs], by simpa [hs] using ho, by simp [delivered, hs, hw], id⟩
  | _ :: _ :: _ => simp [hs] at hl

lemma keeps_step {e : Event} (hf : c.Flowing)
    (he : (∃ bytes, e = .inBytesWritten bytes) ∨ (∃ i bytes, e = .outBytesWritten i bytes) ∨
      ∃ i data, e = .outReadyRead i data) : Keeps c (c.step e) := by
  rcases he with ⟨bytes, rfl⟩ | ⟨i, bytes, rfl⟩ | ⟨i, data, rfl⟩
  · simp only [step]
    split_ifs
    · exact (Keeps.sent bytes).trans (Keeps.bytesWritten ((Keeps.sent bytes).flowing hf) bytes)
    · exact Keeps.refl c
  · simp only [step]
    split
    · next out hi =>
      split_ifs
      · have hk := Keeps.setOut { out with device := out.device.sent bytes } hf.1 hi id rfl
          (c.dataSentReceived ++ [(bytes, 0)])
        exact hk.trans (Keeps.proxySend (hk.flowing hf))
      · exact Keeps.refl c
    · exact Keeps.refl c
  · simp only [step]
    split
    · next out hi =>
      split_ifs with ho
      · have hr : (out.device.receive data).written = out.device.written ∧
            (out.device.receive data).isOpen = out.device.isOpen := by
          rw [Device.receive]
          split_ifs <;> exact ⟨rfl, rfl⟩
        have hk := Keeps.setOut { out with device := out.device.receive data } hf.1 hi
          (fun h => hr.2.trans h) hr.1 c.dataSentReceived
        have hp := hk.trans (Keeps.proxyToIn (hk.flowing hf) c.recvHighWaterMark)
        exact ⟨hp.state, hp.addressType, hp.isOpen, hp.requests, hp.lookups, hp.outSockets, hp.outOpen, hp.bytes,
          hp.readable⟩
      · exact Keeps.refl c
    · exact Keeps.refl c

lemma Single.outSockets (hs : c.Single) : c.outSockets.length ≤ 1 :=
  (Nat.le_add_right _ _).trans hs.2.2

lemma Keeps.single {c' : Socks5Connection} (h : Keeps c c') (hs : c.Single) : c'.Single := by
  rw [Single]
  rw [h.requests, h.lookups, h.outSockets]
  exact hs

lemma Acting.flowing (ha : c.Acting received) : c.Flowing := ⟨ha.single.outSockets, Or.inl ha.outOpen⟩

lemma Ended.flowing (he : c.Ended received) : c.Flowing := ⟨he.single.outSockets, Or.inr he.readable⟩

lemma Acting.keeps {c' : Socks5Connection} (ha : c.Acting received) (h : Keeps c c') : c'.Acting received where
  isOpen := h.isOpen.trans ha.isOpen
  state := by rw [h.state]; exact ha.state
  supported := by rw [h.addressType]; exact ha.supported
  requests := by rw [h.requests]; exact ha.requests
  single := h.single ha.single
  outOpen := h.outOpen ha.outOpen
  after := by rw [h.bytes]; exact ha.after

lemma Ended.keeps {c' : Socks5Connection} (he : c.Ended received) (h : Keeps c c') : c'.Ended received where
  isOpen := h.isOpen.trans he.isOpen
  state := h.state.trans he.state
  readable := h.readable he.readable
  single := h.single he.single
  after := by
    have hb : c'.delivered = c.delivered := by simpa [he.readable, h.readable he.readable] using h.bytes
    rw [hb]
    exact he.after

lemma Acting.delivered_prefix (ha : c.Acting received) : c.delivered <+: (afterAddress received).getD [] := by
  rw [ha.after]
  exact List.prefix_append _ _

lemma Single.dnsResolutionFinished {i : ℕ} {lookup : QDnsLookup} (hs : c.Single)
    (hi : c.lookups[i]? = some lookup) (hr : lookup.running = true)
    (hd : c.delivered <+: (afterAddress received).getD []) (reply : DnsReply) :
    (c.dnsResolutionFinished i lookup reply).Ended received ∨
      (∃ lookup', (c.withLookup i lookup').Single ∧
        c.dnsResolutionFinished i lookup reply = c.withLookup i lookup') ∨
      ∃ destAddress lookup', (configureOutSocket destAddress lookup.port (c.withLookup i lookup')).Single ∧
        c.outSockets = [] ∧ c.dnsResolutionFinished i lookup reply =
          configureOutSocket destAddress lookup.port (c.withLookup i lookup') := by
  obtain ⟨hq, hl, ho⟩ := hs
  obtain ⟨rfl, hk⟩ : i = 0 ∧ c.lookups = [lookup] := by
    match h : c.lookups with
    | [] => simp [h] at hi
    | [lookup₀] =>
      cases i with
      | zero => simpa [h] using hi
      | succ i => simp [h] at hi
    | _ :: _ :: _ => simp [h] at hl
  have ho' : c.outSockets = [] := by simpa [hk, hr] using ho
  have hn : ∀ lookup', (c.withLookup 0 lookup').Single := by
    intro lookup'
    refine ⟨hq, by simp [withLookup, hk], ?_⟩
    simp only [withLookup, hk, ho', List.set_cons_zero, List.length_nil, zero_add]
    exact List.countP_le_length
  rcases dnsResolutionFinished_cases 0 lookup reply c with ⟨_, _, he⟩ | ⟨lookup', he⟩ | ⟨_, -, -, he⟩
  · rw [he]
    exact Or.inl (ended_setError (hn _) hd _ _)
  · exact Or.inr (Or.inl ⟨lookup', hn lookup', he⟩)
  · refine Or.inr (Or.inr ⟨_, _, ?_, ho', he⟩)
    simp [configureOutSocket, Single, withLookup, hk, hq, ho']

lemma negotiating_step {e : Event} (hn : c.Negotiating received) : (c.step e).Inv (arrive c e received) := by
  have hi : c.Inv received := Or.inl hn
  have hd : c.delivered <+: (afterAddress received).getD [] := by simp [hn.idle.delivered]
  cases e with
  | clientData data =>
    rw [arrive, if_pos hn.idle.isOpen]
    exact inv_clientData hn data
  | inBytesWritten bytes =>
    have hp : c.state ≠ .Proxy := by
      intro hp
      simpa only [Stage, hp] using hn.stage
    simp only [step]
    split_ifs
    · rw [bytesWritten, if_pos hp]
      exact Or.inl ⟨⟨hn.idle.isOpen, hn.idle.requests, hn.idle.lookups, hn.idle.outSockets⟩, hn.stage, hn.before⟩
    · exact hi
  | inDisconnected => exact Or.inr (Or.inr (ended_setState hn.idle.single hd))
  | inError remoteHostClosed =>
    simp only [step, socketError]
    split_ifs
    · exact Or.inr (Or.inr (ended_setState hn.idle.single hd))
    · exact Or.inr (Or.inr (hn.idle.ended_setError _ _))
  | dnsFinished i reply => simpa [step, arrive, hn.idle.lookups] using hi
  | outConnected i => simpa [step, arrive, hn.idle.outSockets] using hi
  | outBytesWritten i bytes => simpa [step, arrive, hn.idle.outSockets] using hi
  | outReadyRead i data => simpa [step, arrive, hn.idle.outSockets] using hi
  | outDisconnected i => simpa [step, arrive, hn.idle.outSockets] using hi
  | outError i remoteHostClosed errorString => simpa [step, arrive, hn.idle.outSockets] using hi

lemma Acting.outSocketConnected (ha : c.Acting received) : c.outSocketConnected.Acting received := by
  let inSocket := (c.inSocket.write (createServerResponsePacket 0x00 c.socksPort)).2
  have hw : c.inSocket.write (createServerResponsePacket 0x00 c.socksPort) = (true, inSocket) := by
    simp [inSocket, Device.write, ha.isOpen]
  have hi : inSocket.isOpen = true ∧ inSocket.readable = c.inSocket.readable := by
    simp [inSocket, Device.write, ha.isOpen]
  have hp : (setState .Proxy { c with inSocket }).Acting received :=
    ⟨hi.1, Or.inr rfl, ha.supported, ha.requests, ha.single, ha.outOpen, by
      simpa [setState, delivered, hi.2] using ha.after⟩
  rw [Socks5Connection.outSocketConnected, hw]
  exact hp.keeps (Keeps.proxySend hp.flowing)

lemma acting_step {e : Event} (ha : c.Acting received) (hn : c.NothingEarly e) :
    (c.step e).Acting (arrive c e received) ∨ (c.step e).Ended (arrive c e received) := by
  have hd := ha.delivered_prefix
  cases e with
  | clientData data =>
    rw [arrive, if_pos ha.isOpen]
    have hr : (c.receive data).Acting (received ++ data) :=
      ⟨by simp [receive, Device.receive, ha.isOpen], ha.state, ha.supported, ha.requests, ha.single, ha.outOpen, by
        rw [readable_receive _ ha.isOpen, afterAddress_append ha.after]
        simp [delivered, receive]⟩
    rcases ha.state with hs | hs
    · have hl : c.Listening := ⟨hs, ha.isOpen, ha.supported⟩
      rw [hl.step_waiting (hn ha.isOpen hs ha.requests), ← receive_open ha.isOpen]
      exact Or.inl hr
    · have hp : c.step (.clientData data) = (c.receive data).proxySend := by
        rw [step_clientData ha.isOpen]
        simp [readyRead, receive, hs]
      rw [hp]
      exact Or.inl (hr.keeps (Keeps.proxySend hr.flowing))
  | inBytesWritten bytes => exact Or.inl (ha.keeps (keeps_step ha.flowing (Or.inl ⟨bytes, rfl⟩)))
  | outBytesWritten i bytes => exact Or.inl (ha.keeps (keeps_step ha.flowing (Or.inr (Or.inl ⟨i, bytes, rfl⟩))))
  | outReadyRead i data => exact Or.inl (ha.keeps (keeps_step ha.flowing (Or.inr (Or.inr ⟨i, data, rfl⟩))))
  | inDisconnected => exact Or.inr (ended_setState ha.single hd)
  | inError remoteHostClosed =>
    simp only [step, socketError]
    split_ifs
    · exact Or.inr (ended_setState ha.single hd)
    · exact Or.inr (ended_setError ha.single hd _ _)
  | outDisconnected i =>
    simp only [step]
    split_ifs
    · exact Or.inr (ended_setState ha.single hd)
    · exact Or.inl ha
  | outError i remoteHostClosed errorString =>
    simp only [step, socketError]
    split_ifs
    · exact Or.inr (ended_setState ha.single hd)
    · exact Or.inr (ended_setError ha.single hd _ _)
    · exact Or.inl ha
  | dnsFinished i reply =>
    simp only [step]
    split
    · next lookup hi =>
      split_ifs with hr
      · rcases ha.single.dnsResolutionFinished hi hr hd reply with he | ⟨_, hs, he⟩ | ⟨_, _, hs, ho, he⟩
        · exact Or.inr he
        · rw [he]
          exact Or.inl ⟨ha.isOpen, ha.state, ha.supported, ha.requests, hs, ha.outOpen, ha.after⟩
        · rw [he]
          refine Or.inl ⟨ha.isOpen, ha.state, ha.supported, ha.requests, hs, by simp [configureOutSocket, withLookup, ho], ?_⟩
          simpa [arrive, configureOutSocket, withLookup, delivered, ho] using ha.after
      · exact Or.inl ha
    · exact Or.inl ha
  | outConnected i =>
    simp only [step]
    split
    · next out hi =>
      split_ifs
      · exact Or.inl ha
      · have hk := Keeps.setOut { out with connected := true } ha.single.outSockets hi id rfl
          c.dataSentReceived
        exact Or.inl (ha.keeps hk).outSocketConnected
    · exact Or.inl ha

lemma ended_step {e : Event} (he : c.Ended received) : (c.step e).Ended (arrive c e received) := by
  have hd := he.after
  cases e with
  | clientData data =>
    rw [arrive, if_neg (by simp [he.isOpen]), step_clientData_closed he.isOpen]
    exact he
  | inBytesWritten bytes => exact he.keeps (keeps_step he.flowing (Or.inl ⟨bytes, rfl⟩))
  | outBytesWritten i bytes => exact he.keeps (keeps_step he.flowing (Or.inr (Or.inl ⟨i, bytes, rfl⟩)))
  | outReadyRead i data => exact he.keeps (keeps_step he.flowing (Or.inr (Or.inr ⟨i, data, rfl⟩)))
  | inDisconnected => exact ended_setState he.single hd
  | inError remoteHostClosed =>
    simp only [step, socketError]
    split_ifs
    · exact ended_setState he.single hd
    · exact ended_setError he.single hd _ _
  | outDisconnected i =>
    simp only [step]
    split_ifs
    · exact ended_setState he.single hd
    · exact he
  | outError i remoteHostClosed errorString =>
    simp only [step, socketError]
    split_ifs
    · exact ended_setState he.single hd
    · exact ended_setError he.single hd _ _
    · exact he
  | dnsFinished i reply =>
    simp only [step]
    split
    · next lookup hi =>
      split_ifs with hr
      · rcases he.single.dnsResolutionFinished hi hr hd reply with he' | ⟨_, hs, he'⟩ | ⟨_, _, hs, ho, he'⟩
        · exact he'
        · rw [he']
          exact ⟨he.isOpen, he.state, he.readable, hs, he.after⟩
        · rw [he']
          refine ⟨he.isOpen, he.state, he.readable, hs, ?_⟩
          simp [configureOutSocket, withLookup, delivered, ho]
      · exact he
    · exact he
  | outConnected i =>
    simp only [step]
    split
    · next out hi =>
      split_ifs
      · exact he
      · have hk := Keeps.setOut { out with connected := true } he.single.outSockets hi id rfl
          c.dataSentReceived
        have he' := he.keeps hk
        have hw : c.inSocket.write (createServerResponsePacket 0x00 c.socksPort) = (false, c.inSocket) :=
          if_neg (by simp [he.isOpen])
        simp only [outSocketConnected, hw]
        exact ended_setError he'.single he'.after _ _
    · exact he

lemma inv_step {e : Event} (hi : c.Inv received) (hn : c.NothingEarly e) : (c.step e).Inv (arrive c e received) := by
  rcases hi with hi | hi | hi
  · exact negotiating_step hi
  · exact Or.inr (acting_step hi hn)
  · exact Or.inr (Or.inr (ended_step hi))

lemma inv_initial (socksPort : UInt16) (errorString : String) : (initial socksPort errorString).Inv [] :=
  Or.inl ⟨⟨rfl, rfl, rfl, rfl⟩, rfl, rfl⟩

lemma Inv.oneRequest (hi : c.Inv received) : c.OneRequest received := by
  rcases hi with hi | hi | hi
  · exact ⟨hi.idle.single.1, hi.idle.single.2.1, hi.idle.single.outSockets, by simp [hi.idle.delivered],
      fun _ rest hr => by simp [hi.before] at hr⟩
  · exact ⟨hi.single.1, hi.single.2.1, hi.single.outSockets, hi.delivered_prefix,
      fun _ rest hr => by simpa [hi.after] using hr⟩
  · exact ⟨hi.single.1, hi.single.2.1, hi.single.outSockets, hi.after, fun hc => absurd hi.state hc⟩

/-- As long as nothing arrives early, one request is acted on and the bytes after it are delivered in order. -/
theorem oneRequest_of_nothingEarly (socksPort : UInt16) (errorString : String) (events : List Event)
    (hm : Meets step NothingEarly (initial socksPort errorString) events) :
    (run step (initial socksPort errorString) events).OneRequest
      ((initial socksPort errorString).arrived events) := by
  have hi := ((meets_watch arrive []).mpr hm).invariant (P := fun p => p.1.Inv p.2)
    (fun p e hp hc => inv_step hp hc) (inv_initial socksPort errorString)
  rw [← run_watch arrive []]
  exact hi.oneRequest

theorem oneRequest_of_nothingEarly_connected : OneRequest
    (run step (initial 0 "") [.clientData [5, 1, 0, 5, 1, 0, 1, 127, 0, 0, 1, 0, 80, 71, 69, 84], .outConnected 0,
      .clientData [32, 47, 32, 72, 84, 84, 80]])
    ((initial 0 "").arrived [.clientData [5, 1, 0, 5, 1, 0, 1, 127, 0, 0, 1, 0, 80, 71, 69, 84], .outConnected 0,
      .clientData [32, 47, 32, 72, 84, 84, 80]]) :=
  oneRequest_of_nothingEarly 0 "" _ (by decide)

/-- Bytes that arrive before the outgoing socket is connected are taken for a second request. -/
theorem oneRequest_early_packet :
    let c := run step (initial 0 "") [.clientData [5, 1, 0, 5, 1, 0, 1, 127, 0, 0, 1, 0, 80],
      .clientData [71, 69, 84, 32, 47, 32]]
    c.outSockets.map (fun out => (out.destAddress, out.port)) =
        [(.ipv4 0x47455420, 12064), (.ipv4 0x7F000001, 80)] ∧
      ∀ received, ¬ c.OneRequest received := by
  refine ⟨by decide, fun received ho => ?_⟩
  have hl := ho.requests
  revert hl
  decide

end Socks5Connection

end VpnClient.Socks5
