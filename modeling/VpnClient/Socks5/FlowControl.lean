import VpnClient.Library.Runs
import VpnClient.Socks5.ReadyRead

/-! In which runs neither direction of a proxied connection is left with bytes that no event moves. -/

namespace VpnClient.Socks5

open Library.Runs

namespace Socks5Connection

/-- The socket of the client and the newest outgoing socket. -/
def devices (c : Socks5Connection) : Option (Device × Device) :=
  c.outSockets.head?.map fun out => (c.inSocket, out.device)

/-- Any report of sent bytes of the outgoing socket resumes the direction from the client. -/
def ResumesToOut (c : Socks5Connection) (out : OutSocket) : Prop :=
  ∀ bytes, 0 < bytes → bytes ≤ out.device.bytesToWrite →
    (c.step (.outBytesWritten 0 bytes)).devices = some (transfer c.inSocket (out.device.sent bytes))

/-- Any report of sent bytes of the socket of the client resumes the direction to the client. -/
def ResumesToIn (c : Socks5Connection) (out : OutSocket) : Prop :=
  ∀ bytes, 0 < bytes → bytes ≤ c.inSocket.bytesToWrite →
    (c.step (.inBytesWritten bytes)).devices = some (transfer out.device (c.inSocket.sent bytes)).swap

/-- Each direction has nothing to move, or waits for a report of sent bytes that resumes it. -/
def FlowControlled (c : Socks5Connection) : Prop :=
  c.state = .Proxy → ∀ out ∈ c.outSockets.head?,
    (c.inSocket.readable = [] ∨ MAX_CONNECTION_BUFFER ≤ out.device.bytesToWrite ∧ c.ResumesToOut out) ∧
    (out.device.readable = [] ∨ MAX_CONNECTION_BUFFER ≤ c.inSocket.bytesToWrite ∧ c.ResumesToIn out)

/-- What arrives for the client fits into its buffer, and no lookup replaces the outgoing socket while
bytes of the client wait for it. -/
def NoBacklog (c : Socks5Connection) : Event → Prop
  | .outReadyRead i data => c.state = .Proxy → i = 0 → ∀ out ∈ c.outSockets.head?, out.connected = true → data ≠ [] →
    c.inSocket.bytesToWrite + data.length ≤ MAX_CONNECTION_BUFFER
  | .dnsFinished i reply => c.state = .Proxy → ∀ lookup ∈ c.lookups[i]?, lookup.running = true →
    reply.error = none → reply.hostAddressRecords ≠ [] → c.inSocket.readable = []
  | _ => True

/-- Nothing is left to move to the client, and something to the outgoing socket only if that is full. -/
structure Open (c : Socks5Connection) : Prop where
  inOpen : c.inSocket.isOpen = true
  outOpen : ∀ out ∈ c.outSockets, out.device.isOpen = true
  connected : c.state ≠ .Proxy → ∀ out ∈ c.outSockets, out.connected = false
  toIn : ∀ out ∈ c.outSockets.head?, out.device.readable = []
  toOut : c.state = .Proxy → ∀ out ∈ c.outSockets.head?,
    c.inSocket.readable = [] ∨ MAX_CONNECTION_BUFFER ≤ out.device.bytesToWrite

def Flows (c : Socks5Connection) : Prop := (c.state = .Closed ∧ c.inSocket.isOpen = false) ∨ c.Open

variable {c : Socks5Connection} {out : OutSocket} {older : List OutSocket} {data : List UInt8}

lemma transfer_full (source target : Device) : (transfer source target).1.readable = [] ∨
    MAX_CONNECTION_BUFFER ≤ (transfer source target).2.bytesToWrite := by
  simp only [transfer, moved, Device.bytesAvailable, List.drop_eq_nil_iff]
  omega

lemma proxyToOut_eq (ho : c.outSockets = out :: older) (hout : out.device.isOpen = true) (watermark : ℕ) :
    (c.proxyToOut watermark).1 = { c with
      inSocket := (transfer c.inSocket out.device).1
      outSockets := { out with device := (transfer c.inSocket out.device).2 } :: older } := by
  simp [proxyToOut, ho, proxy_eq hout]

lemma devices_resumesToOut (ho : c.outSockets = out :: older) (hout : out.device.isOpen = true) :
    c.ResumesToOut out := by
  intro bytes hb hl
  have hs : (out.device.sent bytes).isOpen = true := hout
  simp [step, ho, hb, hl, proxySend, proxyToOut, proxy_eq hs, devices]

lemma Open.flowControlled (ho : c.Open) : c.FlowControlled := by
  intro hs out hh
  obtain ⟨older, he⟩ : ∃ older, c.outSockets = out :: older := List.head?_eq_some_iff.mp hh
  refine ⟨(ho.toOut hs out hh).imp_right fun hf => ⟨hf, ?_⟩, Or.inl (ho.toIn out hh)⟩
  exact devices_resumesToOut he (ho.outOpen out (by simp [he]))

lemma Open.proxyToOut (hi : c.inSocket.isOpen = true) (ho : ∀ out ∈ c.outSockets, out.device.isOpen = true)
    (hc : c.state ≠ .Proxy → ∀ out ∈ c.outSockets, out.connected = false)
    (hr : ∀ out ∈ c.outSockets.head?, out.device.readable = []) (watermark : ℕ) :
    (c.proxyToOut watermark).1.Open := by
  cases h : c.outSockets with
  | nil => constructor <;> simp [Socks5Connection.proxyToOut, h, hi]
  | cons out older =>
    rw [h] at ho hc hr
    rw [proxyToOut_eq h (ho out (by simp))]
    constructor
    · simpa [transfer] using hi
    · simpa [transfer] using ho
    · simpa using hc
    · simpa [transfer] using hr
    · intro _ out' ho'
      obtain rfl : _ = out' := by simpa using ho'
      exact transfer_full c.inSocket out.device

lemma Open.negotiating {c' : Socks5Connection} (ho : c.Open) (hs : c.state ≠ .Proxy) (hs' : c'.state ≠ .Proxy)
    (hi : c'.inSocket.isOpen = c.inSocket.isOpen) (hc : c'.outSockets = c.outSockets) : c'.Open where
  inOpen := hi.trans ho.inOpen
  outOpen := by rw [hc]; exact ho.outOpen
  connected _ := by rw [hc]; exact ho.connected hs
  toIn := by rw [hc]; exact ho.toIn
  toOut h := absurd h hs'

lemma Open.configureOutSocket (ho : c.Open) (hs : c.state = .Proxy → c.inSocket.readable = [])
    (destAddress : Address.QHostAddress) (port : ℕ) : (c.configureOutSocket destAddress port).Open where
  inOpen := ho.inOpen
  outOpen := by simpa [Socks5Connection.configureOutSocket] using ho.outOpen
  connected h := by simpa [Socks5Connection.configureOutSocket] using ho.connected h
  toIn := by simp [Socks5Connection.configureOutSocket]
  toOut h out _ := Or.inl (hs h)

lemma flows_readAddress (ho : c.Open) (hs : c.state = .ClientConnectionAddress) : c.readAddress.Flows := by
  have hp : c.state ≠ .Proxy := by simp [hs]
  by_cases ht : c.addressType = 0x01 ∨ c.addressType = 0x03 ∨ c.addressType = 0x04
  · have hl : c.Listening := ⟨hs, ho.inOpen, ht⟩
    rcases hl.readAddress with ⟨-, hr⟩ | ⟨request, n, reads, -, hr⟩ | ⟨-, -, -, readable, reads, hr⟩
    · rw [hr]
      exact Or.inr ho
    · rw [hr]
      cases request with
      | address destAddress port =>
        have hw : ({ c.withReadable (c.inSocket.readable.drop n) reads with
            requests := c.requests ++ [.address destAddress port] } : Socks5Connection).Open :=
          ho.negotiating hp hp rfl rfl
        exact Or.inr (hw.configureOutSocket (fun h => absurd h hp) destAddress port)
      | hostname name port => exact Or.inr (ho.negotiating hp hp rfl rfl)
    · rw [hr]
      exact Or.inl ⟨rfl, rfl⟩
  · rw [readAddress_unsupported ht]
    exact Or.inl ⟨rfl, rfl⟩

lemma flows_readRequest (ho : c.Open) (hs : c.state ≠ .Proxy) : c.readRequest.Flows := by
  match hr : c.inSocket.readable with
  | version :: cmd :: rsv :: atype :: rest =>
    rw [readRequest_cons hr]
    split_ifs
    · exact Or.inl ⟨rfl, rfl⟩
    · exact Or.inl ⟨rfl, rfl⟩
    · exact flows_readAddress (c := c.acceptRequest atype rest) (ho.negotiating hs nofun rfl rfl) rfl
  | [] | [_] | [_, _] | [_, _, _] =>
    rw [readRequest, readPacket_none (by simp [hr, Packet.size])]
    exact Or.inr ho

lemma flows_readMethods (ho : c.Open) (hs : c.state ≠ .Proxy) : c.readMethods.Flows := by
  by_cases hl : c.authNumber.toNat ≤ c.inSocket.readable.length
  · rw [readMethods_of_le ho.inOpen hl]
    refine flows_readRequest (ho.negotiating hs nofun ?_ rfl) nofun
    simp [acceptMethods, setState, withReadable, Device.write, ho.inOpen]
  · have hc : c.readMethods = c := if_pos (by simpa [Device.bytesAvailable] using hl)
    rw [hc]
    exact Or.inr ho

lemma flows_readGreeting (ho : c.Open) (hs : c.state ≠ .Proxy) : c.readGreeting.Flows := by
  match hr : c.inSocket.readable with
  | version :: nauth :: rest =>
    rw [readGreeting_cons hr]
    split_ifs
    · exact Or.inl ⟨rfl, rfl⟩
    · exact flows_readMethods (c := c.acceptGreeting nauth rest) (ho.negotiating hs nofun rfl rfl) nofun
  | [] | [_] =>
    rw [readGreeting, readPacket_none (by simp [hr, Packet.size])]
    exact Or.inr ho

lemma Open.proxySend (hi : c.inSocket.isOpen = true) (ho : ∀ out ∈ c.outSockets, out.device.isOpen = true)
    (hc : c.state ≠ .Proxy → ∀ out ∈ c.outSockets, out.connected = false)
    (hr : ∀ out ∈ c.outSockets.head?, out.device.readable = []) : c.proxySend.Open := by
  obtain ⟨h₁, h₂, h₃, h₄, h₅⟩ := Open.proxyToOut hi ho hc hr c.sendHighWaterMark
  exact ⟨h₁, h₂, h₃, h₄, h₅⟩

lemma flows_clientData (ho : c.Open) (data : List UInt8) : (c.step (.clientData data)).Flows := by
  have hi : (c.receive data).inSocket.isOpen = true := by simp [receive, Device.receive, ho.inOpen]
  have hc : (c.receive data).state = c.state := rfl
  have ho' : c.state ≠ .Proxy → (c.receive data).Open := fun hs =>
    ho.negotiating hs hs (hi.trans ho.inOpen.symm) rfl
  rw [step_clientData ho.inOpen, readyRead, hc]
  cases hs : c.state with
  | ClientGreeting => exact flows_readGreeting (ho' (by simp [hs])) (by simp [hc, hs])
  | AuthenticationMethods => exact flows_readMethods (ho' (by simp [hs])) (by simp [hc, hs])
  | ClientConnectionRequest => exact flows_readRequest (ho' (by simp [hs])) (by simp [hc, hs])
  | ClientConnectionAddress => exact flows_readAddress (ho' (by simp [hs])) hs
  | Proxy => exact Or.inr (Open.proxySend hi ho.outOpen ho.connected ho.toIn)
  | Closed => exact Or.inr (ho' (by simp [hs]))

lemma forall_set {l : List OutSocket} {i : ℕ} {out' : OutSocket} {p : OutSocket → Prop} (hl : ∀ out ∈ l, p out)
    (hp : p out') : ∀ out ∈ l.set i out', p out := by
  intro out ho
  rcases List.mem_or_eq_of_mem_set ho with ho | rfl
  · exact hl out ho
  · exact hp

lemma forall_head_set {l : List OutSocket} {i : ℕ} {out' : OutSocket} {p : OutSocket → Prop}
    (hl : ∀ out ∈ l.head?, p out) (hp : i = 0 → l ≠ [] → p out') : ∀ out ∈ (l.set i out').head?, p out := by
  match l, i with
  | [], _ => simp
  | _ :: _, 0 => simpa using hp rfl (by simp)
  | _ :: _, _ + 1 => simpa using hl

lemma flows_inBytesWritten (ho : c.Open) (bytes : ℕ) : (c.step (.inBytesWritten bytes)).Flows := by
  have hs : ({ c with inSocket := c.inSocket.sent bytes } : Socks5Connection).Open :=
    ⟨ho.inOpen, ho.outOpen, ho.connected, ho.toIn, ho.toOut⟩
  simp only [step, bytesWritten]
  split_ifs
  · exact Or.inr hs
  · exact Or.inr ⟨hs.inOpen, hs.outOpen, hs.connected, hs.toIn, hs.toOut⟩
  · obtain ⟨h₁, h₂, h₃, h₄, h₅⟩ := Open.proxyToOut (c := { c with
      inSocket := c.inSocket.sent bytes, recvIgnoreBytes := 0,
      dataSentReceived := c.dataSentReceived ++ [(0, bytes - c.recvIgnoreBytes)] })
      hs.inOpen hs.outOpen hs.connected hs.toIn c.recvHighWaterMark
    exact Or.inr ⟨h₁, h₂, h₃, h₄, h₅⟩
  · exact Or.inr ho

lemma flows_outBytesWritten (ho : c.Open) (i bytes : ℕ) : (c.step (.outBytesWritten i bytes)).Flows := by
  simp only [step]
  split
  · next out hi =>
    split_ifs
    · have hm := List.mem_of_getElem? hi
      refine Or.inr (Open.proxySend ho.inOpen (forall_set ho.outOpen (ho.outOpen out hm))
        (fun hs => forall_set (ho.connected hs) (ho.connected hs out hm)) (forall_head_set ho.toIn ?_))
      rintro rfl -
      exact ho.toIn out (by simpa [List.head?_eq_getElem?] using hi)
    · exact Or.inr ho
  · exact Or.inr ho

lemma flows_outConnected (ho : c.Open) (i : ℕ) : (c.step (.outConnected i)).Flows := by
  simp only [step]
  split
  · next out hi =>
    split_ifs
    · exact Or.inr ho
    · have hm := List.mem_of_getElem? hi
      have hw : c.inSocket.write (createServerResponsePacket 0x00 c.socksPort) = (true, _) := if_pos ho.inOpen
      simp only [outSocketConnected, hw]
      refine Or.inr (Open.proxySend ho.inOpen (forall_set ho.outOpen (ho.outOpen out hm))
        (fun hs => absurd rfl hs) (forall_head_set ho.toIn ?_))
      rintro rfl -
      exact ho.toIn out (by simpa [List.head?_eq_getElem?] using hi)
  · exact Or.inr ho

lemma not_resumesToIn (hs : c.state = .Proxy) (ho : c.outSockets = out :: older)
    (hout : out.device.isOpen = true) (hr : out.device.readable ≠ []) (hw : 0 < c.inSocket.bytesToWrite) :
    ¬ c.ResumesToIn out := by
  intro h
  have hd := congrArg (Option.map fun p : Device × Device => p.2.readable.length) (h _ hw le_rfl)
  have hm : (c.step (.inBytesWritten c.inSocket.bytesToWrite)).devices.map (fun p => p.2.readable.length) =
      some out.device.readable.length := by
    have hc : proxy (c.inSocket.sent c.inSocket.bytesToWrite) out.device c.recvHighWaterMark = _ := proxy_eq hout _
    simp only [step, hw, le_rfl, and_self, if_true, bytesWritten, hs, ne_eq, not_true, if_false]
    split_ifs
    · simp [devices, ho]
    · simp [devices, proxyToOut, ho, hc, transfer]
  rw [hm] at hd
  have hl : 0 < out.device.readable.length := List.length_pos_iff.mpr hr
  simp [transfer, moved, Device.bytesAvailable, Device.sent, MAX_CONNECTION_BUFFER] at hd
  omega

lemma Open.proxy_of_connected (ho : c.Open) {i : ℕ} (hi : c.outSockets[i]? = some out) (hc : out.connected = true) :
    c.state = .Proxy := by
  by_contra hs
  simp [ho.connected hs out (List.mem_of_getElem? hi)] at hc

lemma step_outReadyRead_zero (ho : c.Open) (hc : c.outSockets = out :: older) (hcon : out.connected = true)
    (data : List UInt8) : c.step (.outReadyRead 0 data) = { c with
      inSocket := (transfer (out.device.receive data) c.inSocket).2
      outSockets := { out with device := (transfer (out.device.receive data) c.inSocket).1 } :: older
      recvHighWaterMark := (c.step (.outReadyRead 0 data)).recvHighWaterMark } := by
  have hopen := ho.outOpen out (by simp [hc])
  simp [step, hc, hcon, hopen, proxyToIn, proxy_eq ho.inOpen]

lemma open_outReadyRead_succ (ho : c.Open) (i : ℕ) (data : List UInt8) :
    (c.step (.outReadyRead (i + 1) data)).Open := by
  cases hc : c.outSockets with
  | nil => simpa [step, hc] using ho
  | cons out older =>
    simp only [step, hc, List.getElem?_cons_succ]
    split
    · next out' hi =>
      split_ifs
      · have hm : moved out.device c.inSocket = 0 := by
          simp [moved, Device.bytesAvailable, ho.toIn out (by simp [hc])]
        have hout' : out' ∈ c.outSockets := by
          rw [hc]
          exact List.mem_cons_of_mem _ (List.mem_of_getElem? hi)
        simp only [List.set_cons_succ, proxyToIn, proxy_eq ho.inOpen, transfer_of_moved_zero hm]
        have he : out :: older.set i { out' with device := out'.device.receive data } =
            c.outSockets.set (i + 1) { out' with device := out'.device.receive data } := by rw [hc, List.set_cons_succ]
        constructor
        · exact ho.inOpen
        · simp only [he]
          apply forall_set ho.outOpen
          simp [Device.receive, ho.outOpen out' hout']
        · intro hs
          simp only [he]
          exact forall_set (ho.connected hs) (ho.connected hs out' hout')
        · intro out'' ho''
          exact ho.toIn out'' (by rw [hc]; exact ho'')
        · intro hs out'' ho''
          exact ho.toOut hs out'' (by rw [hc]; exact ho'')
      · exact ho
    · exact ho

lemma open_outReadyRead_zero (ho : c.Open) (hn : c.NoBacklog (.outReadyRead 0 data)) :
    (c.step (.outReadyRead 0 data)).Open := by
  cases hc : c.outSockets with
  | nil => simpa [step, hc] using ho
  | cons out older =>
    cases hcon : out.connected with
    | false => simpa [step, hc, hcon] using ho
    | true =>
      have hs := ho.proxy_of_connected (i := 0) (by simp [hc]) hcon
      have hopen := ho.outOpen out (by simp [hc])
      have hrec : out.device.receive data = { out.device with readable := data } := by
        simp [Device.receive, hopen, ho.toIn out (by simp [hc])]
      have hm : data.length ≤ moved { out.device with readable := data } c.inSocket := by
        have hl : data ≠ [] → c.inSocket.bytesToWrite + data.length ≤ MAX_CONNECTION_BUFFER :=
          hn hs rfl out (by simp [hc]) hcon
        cases data with
        | nil => simp
        | cons b bs => simp only [moved, Device.bytesAvailable]; have := hl (List.cons_ne_nil _ _); omega
      rw [step_outReadyRead_zero ho hc hcon, hrec]
      constructor
      · exact ho.inOpen
      · have h := ho.outOpen
        simp only [hc, List.mem_cons, forall_eq_or_imp] at h ⊢
        exact ⟨hopen, h.2⟩
      · exact fun h => absurd hs h
      · intro out' ho'
        obtain rfl : _ = out' := by simpa using ho'
        exact List.drop_eq_nil_of_le hm
      · intro _ out' ho'
        obtain rfl : _ = out' := by simpa using ho'
        exact ho.toOut hs out (by simp [hc])

lemma outReadyRead_zero_iff (ho : c.Open) (data : List UInt8) :
    c.NoBacklog (.outReadyRead 0 data) ↔ (c.step (.outReadyRead 0 data)).FlowControlled := by
  refine ⟨fun hn => (open_outReadyRead_zero ho hn).flowControlled, ?_⟩
  intro hf hs _ out hh hcon hd
  obtain ⟨older, hc⟩ : ∃ older, c.outSockets = out :: older := List.head?_eq_some_iff.mp hh
  have hopen := ho.outOpen out (by simp [hc])
  have hrec : out.device.receive data = { out.device with readable := data } := by
    simp [Device.receive, hopen, ho.toIn out hh]
  by_contra hl
  have hm : moved { out.device with readable := data } c.inSocket < data.length := by
    have h₀ := List.length_pos_iff.mpr hd
    simp only [moved, Device.bytesAvailable]
    omega
  have hr : (transfer { out.device with readable := data } c.inSocket).1.readable ≠ [] := by
    simpa [transfer, List.drop_eq_nil_iff] using hm
  rw [step_outReadyRead_zero ho hc hcon, hrec] at hf
  obtain ⟨-, he | ⟨hb, hres⟩⟩ := hf hs _ rfl
  · exact hr he
  · have hw : 0 < MAX_CONNECTION_BUFFER := by decide
    refine absurd hres (not_resumesToIn ?_ (rfl : _ = _ :: older) ?_ hr ?_)
    · exact hs
    · exact hopen
    · exact hw.trans_le hb

lemma flows_dnsFinished (ho : c.Open) {i : ℕ} {reply : DnsReply} (hn : c.NoBacklog (.dnsFinished i reply)) :
    (c.step (.dnsFinished i reply)).Flows := by
  simp only [step]
  split
  · next lookup hi =>
    split_ifs with hrun
    · have hw : ∀ lookup', (c.withLookup i lookup').Open := fun _ =>
        ⟨ho.inOpen, ho.outOpen, ho.connected, ho.toIn, ho.toOut⟩
      rcases dnsResolutionFinished_cases i lookup reply c with ⟨_, _, he⟩ | ⟨lookup', he⟩ | ⟨_, hs, hr, he⟩
      · rw [he]
        exact Or.inl ⟨rfl, rfl⟩
      · rw [he]
        exact Or.inr (hw lookup')
      · rw [he]
        exact Or.inr ((hw _).configureOutSocket (fun hp => hn hp lookup hi hrun hs hr) _ _)
    · exact Or.inr ho
  · exact Or.inr ho

lemma dnsFinished_iff (ho : c.Open) (i : ℕ) (reply : DnsReply) :
    c.NoBacklog (.dnsFinished i reply) ↔ (c.step (.dnsFinished i reply)).FlowControlled := by
  refine ⟨fun hn => ?_, fun hf hs lookup hi hrun he hr => ?_⟩
  · obtain ⟨hs, -⟩ | ho' := flows_dnsFinished ho hn
    · intro hp
      simp [hs] at hp
    · exact ho'.flowControlled
  · obtain ⟨destAddress, hd⟩ := dnsResolutionFinished_host i lookup he hr c
    have hstep : c.step (.dnsFinished i reply) = c.dnsResolutionFinished i lookup reply := by
      simp [step, Option.mem_def.mp hi, hrun]
    rw [hstep, hd] at hf
    obtain ⟨he | ⟨hb, -⟩, -⟩ := hf hs _ rfl
    · exact he
    · exact absurd hb (Nat.not_le.mpr (by decide : 0 < MAX_CONNECTION_BUFFER))

lemma closed_proxySend (hs : c.state = .Closed) (hi : c.inSocket.isOpen = false) :
    c.proxySend.state = .Closed ∧ c.proxySend.inSocket.isOpen = false := by
  cases h : c.outSockets with
  | nil => simp [proxySend, proxyToOut, h, hs, hi]
  | cons out older =>
    simp [proxySend, proxyToOut, h, hs, proxy, (proxyLoop_frame _ _ _).2.1, hi]

lemma closed_step (hs : c.state = .Closed) (hi : c.inSocket.isOpen = false) (e : Event) :
    (c.step e).state = .Closed ∧ (c.step e).inSocket.isOpen = false := by
  cases e with
  | clientData data => rw [step_clientData_closed hi]; exact ⟨hs, hi⟩
  | inBytesWritten bytes =>
    simp only [step]
    split_ifs
    · rw [bytesWritten, if_pos (by simp [hs])]
      exact ⟨hs, hi⟩
    · exact ⟨hs, hi⟩
  | inDisconnected => exact ⟨rfl, rfl⟩
  | inError remoteHostClosed => cases remoteHostClosed <;> exact ⟨rfl, rfl⟩
  | dnsFinished i reply =>
    simp only [step]
    split
    · next lookup _ =>
      split_ifs
      · rcases dnsResolutionFinished_cases i lookup reply c with ⟨_, _, he⟩ | ⟨_, he⟩ | ⟨_, -, -, he⟩
        · rw [he]
          exact ⟨rfl, rfl⟩
        · rw [he]
          exact ⟨hs, hi⟩
        · rw [he]
          exact ⟨hs, hi⟩
      · exact ⟨hs, hi⟩
    · exact ⟨hs, hi⟩
  | outConnected i =>
    simp only [step]
    split
    · split_ifs
      · exact ⟨hs, hi⟩
      · have hw : c.inSocket.write (createServerResponsePacket 0x00 c.socksPort) = (false, c.inSocket) :=
          if_neg (by simp [hi])
        simp only [outSocketConnected, hw]
        exact closed_failRead _
    · exact ⟨hs, hi⟩
  | outBytesWritten i bytes =>
    simp only [step]
    split
    · split_ifs
      · exact closed_proxySend hs hi
      · exact ⟨hs, hi⟩
    · exact ⟨hs, hi⟩
  | outReadyRead i data =>
    simp only [step]
    split
    · split_ifs
      · rename_i out _ _
        cases h : c.outSockets.set i { out with device := out.device.receive data } with
        | nil => simp [proxyToIn, hs, hi]
        | cons out' older => simp [proxyToIn, hs, proxy, (proxyLoop_frame _ _ _).2.2.2, hi]
      · exact ⟨hs, hi⟩
    · exact ⟨hs, hi⟩
  | outDisconnected i =>
    simp only [step]
    split_ifs
    · exact ⟨rfl, rfl⟩
    · exact ⟨hs, hi⟩
  | outError i remoteHostClosed errorString =>
    simp only [step]
    split_ifs
    · cases remoteHostClosed <;> exact ⟨rfl, rfl⟩
    · exact ⟨hs, hi⟩

lemma flows_step {e : Event} (hf : c.Flows) (hn : c.NoBacklog e) : (c.step e).Flows := by
  obtain ⟨hs, hi⟩ | ho := hf
  · exact Or.inl (closed_step hs hi e)
  · cases e with
    | clientData data => exact flows_clientData ho data
    | inBytesWritten bytes => exact flows_inBytesWritten ho bytes
    | inDisconnected => exact Or.inl ⟨rfl, rfl⟩
    | inError remoteHostClosed => cases remoteHostClosed <;> exact Or.inl ⟨rfl, rfl⟩
    | dnsFinished i reply => exact flows_dnsFinished ho hn
    | outConnected i => exact flows_outConnected ho i
    | outBytesWritten i bytes => exact flows_outBytesWritten ho i bytes
    | outReadyRead i data =>
      cases i with
      | zero => exact Or.inr (open_outReadyRead_zero ho hn)
      | succ i => exact Or.inr (open_outReadyRead_succ ho i data)
    | outDisconnected i =>
      rw [step]
      split_ifs
      · exact Or.inl ⟨rfl, rfl⟩
      · exact Or.inr ho
    | outError i remoteHostClosed errorString =>
      rw [step]
      split_ifs
      · cases remoteHostClosed <;> exact Or.inl ⟨rfl, rfl⟩
      · exact Or.inr ho

lemma Flows.flowControlled (hf : c.Flows) : c.FlowControlled := by
  obtain ⟨hs, -⟩ | ho := hf
  · intro hp
    simp [hs] at hp
  · exact ho.flowControlled

lemma noBacklog_iff {e : Event} (hf : c.Flows) : c.NoBacklog e ↔ (c.step e).FlowControlled := by
  refine ⟨fun hn => (flows_step hf hn).flowControlled, fun hfc => ?_⟩
  obtain ⟨hs, -⟩ | ho := hf
  · cases e <;> simp [NoBacklog, hs]
  · cases e with
    | outReadyRead i data =>
      cases i with
      | zero => exact (outReadyRead_zero_iff ho data).mpr hfc
      | succ i => exact fun _ h => absurd h (Nat.succ_ne_zero i)
    | dnsFinished i reply => exact (dnsFinished_iff ho i reply).mpr hfc
    | clientData | inBytesWritten | inDisconnected | inError | outConnected | outBytesWritten | outDisconnected |
        outError => trivial

/-- Neither direction is ever left waiting exactly as long as there is no backlog for the client. -/
theorem flowControlled_iff (socksPort : UInt16) (errorString : String) (events : List Event) :
    (∀ fs, fs <+: events → (run step (initial socksPort errorString) fs).FlowControlled) ↔
      Meets step NoBacklog (initial socksPort errorString) events := by
  have h₀ : (initial socksPort errorString).Open := by constructor <;> simp [initial]
  exact (meets_iff_throughout (P := Flows) (fun _ _ => flows_step) (fun _ _ => noBacklog_iff) (Or.inr h₀)
    h₀.flowControlled).symm

/-- What arrives right after the outgoing connect overfills the buffer of the client, and no event
moves the last byte. -/
theorem flowControl_backlog :
    ¬ FlowControlled (run step (initial 0 "") [.clientData [5, 1, 0, 5, 1, 0, 1, 127, 0, 0, 1, 0, 80], .outConnected 0,
      .outReadyRead 0 (List.replicate 16385 0)]) := by
  let events : List Event := [.clientData [5, 1, 0, 5, 1, 0, 1, 127, 0, 0, 1, 0, 80], .outConnected 0]
  have h₀ : (initial 0 "").Open := by constructor <;> simp [initial]
  have hm : Meets step NoBacklog (initial 0 "") events := ⟨trivial, trivial, trivial⟩
  have hf : (run step (initial 0 "") events).Flows :=
    hm.invariant (fun _ _ => flows_step) (Or.inr h₀)
  have hs : (run step (initial 0 "") events).state = .Proxy := by decide
  generalize hd : List.replicate 16385 (0 : UInt8) = data
  have hl : data.length = 16385 := by rw [← hd, List.length_replicate]
  intro hc
  have hrun : run step (initial 0 "") (events ++ [.outReadyRead 0 data]) =
      step (run step (initial 0 "") events) (.outReadyRead 0 data) := run_concat
  have hlast : (step (run step (initial 0 "") events) (.outReadyRead 0 data)).FlowControlled := hrun ▸ hc
  have hn : (run step (initial 0 "") events).NoBacklog (.outReadyRead 0 data) := (noBacklog_iff hf).mpr hlast
  have hb := hn hs rfl ((run step (initial 0 "") events).outSockets.head (by decide)) (by decide) (by decide)
    (List.ne_nil_of_length_pos (by omega))
  rw [hl] at hb
  revert hb
  decide

end Socks5Connection

end VpnClient.Socks5
