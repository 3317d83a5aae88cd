import VpnClient.Socks5.Socks5Connection

/-! What the slot for `readyRead` does during the negotiation, stage by stage, and from which
prefixes of a stream it can be resumed. -/

namespace VpnClient.Socks5

namespace Socks5Connection

/-- The connection after the arrival of `data`, before the slot runs. -/
def receive (data : List UInt8) (c : Socks5Connection) : Socks5Connection :=
  { c with inSocket := c.inSocket.receive data }

/-- The address type and the bytes after a request that is accepted. -/
def requestPart : List UInt8 → Option (UInt8 × List UInt8)
  | version :: cmd :: rsv :: atype :: rest =>
    if version = 0x05 ∧ cmd = 0x01 ∧ rsv = 0x00 then some (atype, rest) else none
  | _ => none

/-- The address type and the bytes after the request in the stream of a client. -/
def addressPart : List UInt8 → Option (UInt8 × List UInt8)
  | version :: nauth :: bytes => if version = 0x05 then requestPart (bytes.drop nauth.toNat) else none
  | _ => none

/-- From these bytes of the address part nothing is read. -/
def Waiting (atype : UInt8) (rest : List UInt8) : Prop :=
  (atype = 0x01 → rest.length < 6) ∧ (atype = 0x03 → rest = []) ∧ (atype = 0x04 → rest.length < 18)

instance (atype : UInt8) (rest : List UInt8) : Decidable (Waiting atype rest) := by
  rw [Waiting]
  infer_instance

/-- The request that the address part asks for, and how many bytes it takes. -/
def addressPacket (atype : UInt8) (rest : List UInt8) : Option (Request × ℕ) :=
  if atype = 0x01 then
    if 6 ≤ rest.length then
      some (.address (ipv4Address (rest.take 4)) (ntohs (rest.getD 4 0, rest.getD 5 0)), 6)
    else none
  else if atype = 0x03 then
    match rest with
    | length :: rest =>
      if length.toNat + 2 ≤ rest.length then
        some (.hostname (rest.take length.toNat)
          (ntohs (rest.getD length.toNat 0, rest.getD (length.toNat + 1) 0)), length.toNat + 3)
      else none
    | [] => none
  else if atype = 0x04 then
    if 18 ≤ rest.length then
      some (.address (ipv6Address (rest.take 16)) (ntohs (rest.getD 16 0, rest.getD 17 0)), 18)
    else none
  else none

def act : Request → Socks5Connection → Socks5Connection
  | .address destAddress port => connectTo destAddress port
  | .hostname name port => startLookup name port

/-- The connection with other bytes to read from the client, and another record of its reads. -/
def withReadable (readable : List UInt8) (reads : List (ℕ × ℕ)) (c : Socks5Connection) : Socks5Connection :=
  { c with inSocket := { c.inSocket with readable }, reads }

/-- An attempt of the `i`-th lookup is used up, and leaves it as `lookup`. -/
def withLookup (i : ℕ) (lookup : QDnsLookup) (c : Socks5Connection) : Socks5Connection :=
  { c with dnsLookupAttempts := c.dnsLookupAttempts - 1, lookups := c.lookups.set i lookup }

def acceptGreeting (nauth : UInt8) (rest : List UInt8) (c : Socks5Connection) : Socks5Connection :=
  setState .AuthenticationMethods { c.withReadable rest (c.reads ++ [(2, 2)]) with authNumber := nauth }

def acceptMethods (rest : List UInt8) (c : Socks5Connection) : Socks5Connection :=
  let c := c.withReadable rest (c.reads ++ [(c.authNumber.toNat, INT8_MAX)])
  setState .ClientConnectionRequest { c with inSocket := (c.inSocket.write ServerChoicePacket).2 }

def acceptRequest (atype : UInt8) (rest : List UInt8) (c : Socks5Connection) : Socks5Connection :=
  setState .ClientConnectionAddress { c.withReadable rest (c.reads ++ [(4, 4)]) with addressType := atype }

variable {T : Type} [Packet T] {c : Socks5Connection} {data rest : List UInt8}

lemma readyRead_of_state (h : c.state = .ClientConnectionAddress) : c.readyRead = c.readAddress := by
  simp [readyRead, h]

lemma step_clientData (ho : c.inSocket.isOpen = true) :
    c.step (.clientData data) = (c.receive data).readyRead := if_pos ho

lemma step_clientData_closed (ho : c.inSocket.isOpen = false) : c.step (.clientData data) = c := by
  simp [step, ho]

lemma setError_isOpen (reason : Socks5Replies) (errorString : String) :
    (c.setError reason errorString).inSocket.isOpen = false := rfl

lemma setError_receive (reason : Socks5Replies) (errorString : String) :
    (c.receive data).setError reason errorString = c.setError reason errorString := by
  cases ho : c.inSocket.isOpen <;> cases hs : c.state <;>
    simp [setError, receive, setState, Device.receive, Device.write, Device.close, ho, hs]

lemma readPacket_none (h : c.inSocket.readable.length < Packet.size T) : c.readPacket T = none := by
  rw [readPacket, Socks5.readPacket_none h, Option.map_none]

lemma readPacket_some (h : Packet.size T ≤ c.inSocket.readable.length) : c.readPacket T =
    some (Packet.decode (c.inSocket.readable.take (Packet.size T)),
      c.withReadable (c.inSocket.readable.drop (Packet.size T)) (c.reads ++ [(Packet.size T, Packet.size T)])) := by
  rw [readPacket, readPacket_append (List.take_append_drop (Packet.size T) c.inSocket.readable).symm (by simpa)]
  rfl

lemma receive_open (ho : c.inSocket.isOpen = true) :
    c.receive data = c.withReadable (c.inSocket.readable ++ data) c.reads := by
  simp [receive, withReadable, Device.receive, ho]

lemma readAddress_waiting (ht : c.addressType = 0x01 ∨ c.addressType = 0x03 ∨ c.addressType = 0x04)
    (hw : Waiting c.addressType c.inSocket.readable) : c.readAddress = c := by
  obtain ⟨h₁, h₃, h₄⟩ := hw
  rw [readAddress]
  rcases ht with ht | ht | ht
  · rw [if_pos ht, readPacket_none (h₁ ht)]
  · simp [ht, readDomainName, Device.bytesAvailable, h₃ ht]
  · simp [ht, readPacket_none (T := ClientConnectionAddressIpv6Packet) (h₄ ht)]

lemma readAddress_unsupported (ht : ¬ (c.addressType = 0x01 ∨ c.addressType = 0x03 ∨ c.addressType = 0x04)) :
    c.readAddress = c.setError .ErrorAddressNotSupported "Address type not supported" := by
  obtain ⟨h₁, h₃, h₄⟩ := by simpa only [not_or] using ht
  simp [readAddress, h₁, h₃, h₄]

lemma readBuffer_some {maxSize size : ℕ} (h : maxSize ≤ c.inSocket.readable.length) :
    c.readBuffer maxSize size = (some (c.inSocket.readable.take maxSize),
      c.withReadable (c.inSocket.readable.drop maxSize) (c.reads ++ [(maxSize, size)])) := by
  simp [readBuffer, Device.read, withReadable, h]

lemma readBuffer_none {maxSize size : ℕ} (h : c.inSocket.readable.length < maxSize) :
    c.readBuffer maxSize size = (none, c.withReadable [] (c.reads ++ [(maxSize, size)])) := by
  simp [readBuffer, Device.read, withReadable, List.drop_eq_nil_of_le h.le, h.not_ge]

@[simp] lemma withReadable_withReadable (a b : List UInt8) (r t : List (ℕ × ℕ)) :
    (c.withReadable a r).withReadable b t = c.withReadable b t := rfl

@[simp] lemma readable_withReadable (a : List UInt8) (r : List (ℕ × ℕ)) :
    (c.withReadable a r).inSocket.readable = a := rfl

lemma readDomainName_complete {length : UInt8} (hr : c.inSocket.readable = length :: rest)
    (hl : length.toNat + 2 ≤ rest.length) : ∃ reads, c.readDomainName =
      startLookup (rest.take length.toNat)
        (ntohs (rest.getD length.toNat 0, rest.getD (length.toNat + 1) 0))
        (c.withReadable (rest.drop (length.toNat + 2)) reads) := by
  obtain ⟨hi, lo, tail, ht⟩ : ∃ hi lo tail, rest.drop length.toNat = hi :: lo :: tail := by
    match h : rest.drop length.toNat with
    | hi :: lo :: tail => exact ⟨hi, lo, tail, rfl⟩
    | [_] =>
      have hd := congrArg List.length h
      simp only [List.length_drop, List.length_singleton] at hd
      omega
    | [] =>
      have hd := congrArg List.length h
      simp only [List.length_drop, List.length_nil] at hd
      omega
  have hd : rest.drop (length.toNat + 2) = tail := by rw [← List.drop_drop, ht]; rfl
  have hg : ∀ i, rest.getD (length.toNat + i) 0 = (hi :: lo :: tail).getD i 0 := by
    intro i
    rw [← ht, List.getD_eq_getElem?_getD, List.getD_eq_getElem?_getD, List.getElem?_drop]
  have h₁ : c.readBuffer 1 1 = (some [length], c.withReadable rest (c.reads ++ [(1, 1)])) := by
    rw [readBuffer_some (by simp [hr]), hr]
    rfl
  rw [hd, hg 1, ← Nat.add_zero length.toNat, hg 0]
  simp only [readDomainName, Device.bytesAvailable, hr, List.length_cons, Nat.succ_ne_zero, if_false, h₁,
    Nat.add_zero]
  rw [readBuffer_some (by simp; omega)]
  simp only [readable_withReadable, withReadable_withReadable, ht]
  rw [readBuffer_some (by simp)]
  exact ⟨_, rfl⟩

lemma readDomainName_incomplete {length : UInt8} (hr : c.inSocket.readable = length :: rest)
    (hl : rest.length < length.toNat + 2) : ∃ readable reads,
      c.readDomainName = failRead (c.withReadable readable reads) := by
  have h₁ : c.readBuffer 1 1 = (some [length], c.withReadable rest (c.reads ++ [(1, 1)])) := by
    rw [readBuffer_some (by simp [hr]), hr]
    rfl
  simp only [readDomainName, Device.bytesAvailable, hr, List.length_cons, Nat.succ_ne_zero, if_false, h₁]
  by_cases hn : length.toNat ≤ rest.length
  · rw [readBuffer_some hn]
    simp only [readable_withReadable, withReadable_withReadable]
    rw [readBuffer_none (by simp; omega)]
    exact ⟨_, _, rfl⟩
  · rw [readBuffer_none (by simpa using hn)]
    exact ⟨_, _, rfl⟩

lemma decode_ipv4Packet (bytes : List UInt8) : Packet.decode (bytes.take (Packet.size ClientConnectionAddressIpv4Packet)) =
    (⟨bytes.take 4, bytes.getD 4 0, bytes.getD 5 0⟩ : ClientConnectionAddressIpv4Packet) := by
  simp [Packet.decode, Packet.size, List.take_take]

lemma decode_ipv6Packet (bytes : List UInt8) : Packet.decode (bytes.take (Packet.size ClientConnectionAddressIpv6Packet)) =
    (⟨bytes.take 16, bytes.getD 16 0, bytes.getD 17 0⟩ : ClientConnectionAddressIpv6Packet) := by
  simp [Packet.decode, Packet.size, List.take_take]

lemma readAddress_packet {request : Request} {n : ℕ}
    (hp : addressPacket c.addressType c.inSocket.readable = some (request, n)) : ∃ reads,
      c.readAddress = act request (c.withReadable (c.inSocket.readable.drop n) reads) := by
  unfold addressPacket at hp
  rw [readAddress]
  by_cases h₁ : c.addressType = 0x01
  · rw [if_pos h₁] at hp ⊢
    split_ifs at hp with hl
    obtain ⟨rfl, rfl⟩ := by simpa using hp
    rw [readPacket_some hl, decode_ipv4Packet]
    exact ⟨_, rfl⟩
  rw [if_neg h₁] at hp ⊢
  by_cases h₃ : c.addressType = 0x03
  · rw [if_pos h₃] at hp ⊢
    cases hr : c.inSocket.readable with
    | nil => simp [hr] at hp
    | cons length rest =>
      simp only [hr] at hp
      split_ifs at hp with hl
      obtain ⟨rfl, rfl⟩ := by simpa using hp
      exact readDomainName_complete hr hl
  rw [if_neg h₃] at hp ⊢
  split_ifs at hp ⊢ with h₄ hl
  obtain ⟨rfl, rfl⟩ := by simpa using hp
  rw [readPacket_some hl, decode_ipv6Packet]
  exact ⟨_, rfl⟩

lemma readAddress_incomplete (ht : c.addressType = 0x03) (hr : c.inSocket.readable ≠ [])
    (hp : addressPacket c.addressType c.inSocket.readable = none) : ∃ readable reads,
      c.readAddress = failRead (c.withReadable readable reads) := by
  obtain ⟨length, rest, hr⟩ := List.exists_cons_of_ne_nil hr
  have hl : rest.length < length.toNat + 2 := by
    simpa [addressPacket, ht, hr] using hp
  simpa [readAddress, ht] using readDomainName_incomplete hr hl

lemma readGreeting_cons {version nauth : UInt8} (hr : c.inSocket.readable = version :: nauth :: rest) :
    c.readGreeting =
      if version ≠ 0x05 then
        setError .ErrorGeneral ("SOCKS version " ++ toString version.toNat ++ " not supported")
          (c.withReadable rest (c.reads ++ [(2, 2)]))
      else (c.acceptGreeting nauth rest).readMethods := by
  rw [readGreeting, readPacket_some (by simp [hr, Packet.size]), hr]
  rfl

lemma readMethods_of_le (ho : c.inSocket.isOpen = true) (hl : c.authNumber.toNat ≤ c.inSocket.readable.length) :
    c.readMethods = (c.acceptMethods (c.inSocket.readable.drop c.authNumber.toNat)).readRequest := by
  rw [readMethods, if_neg (by simpa [Device.bytesAvailable] using hl), readBuffer_some hl]
  simp [acceptMethods, Device.write, withReadable, ho]

lemma readRequest_cons {version cmd rsv atype : UInt8}
    (hr : c.inSocket.readable = version :: cmd :: rsv :: atype :: rest) :
    c.readRequest =
      if version ≠ 0x05 ∨ rsv ≠ 0x00 then
        setError .ErrorGeneral "Malformed connection request" (c.withReadable rest (c.reads ++ [(4, 4)]))
      else if cmd ≠ 0x01 then
        setError .ErrorCommandNotSupported "Command not supported" (c.withReadable rest (c.reads ++ [(4, 4)]))
      else (c.acceptRequest atype rest).readAddress := by
  rw [readRequest, readPacket_some (by simp [hr, Packet.size]), hr]
  rfl

lemma readable_receive (data : List UInt8) (ho : c.inSocket.isOpen = true) :
    (c.receive data).inSocket.readable = c.inSocket.readable ++ data := by
  rw [receive_open ho, readable_withReadable]

lemma setError_withReadable (reason : Socks5Replies) (errorString : String) (readable readable' : List UInt8)
    (reads : List (ℕ × ℕ)) : (c.withReadable readable reads).setError reason errorString =
      (c.withReadable readable' reads).setError reason errorString := by
  cases ho : c.inSocket.isOpen <;> cases hs : c.state <;>
    simp [setError, withReadable, setState, Device.write, Device.close, ho, hs]

/-- While no complete address packet and no part of a domain name has arrived, the slot for the
next bytes ends where it would if all bytes had arrived at once. -/
lemma resume_readAddress (hs : c.state = .ClientConnectionAddress) (ho : c.inSocket.isOpen = true)
    (hw : Waiting c.addressType c.inSocket.readable) :
    c.readAddress.step (.clientData data) = (c.receive data).readAddress := by
  by_cases ht : c.addressType = 0x01 ∨ c.addressType = 0x03 ∨ c.addressType = 0x04
  · rw [readAddress_waiting ht hw, step_clientData ho]
    exact readyRead_of_state hs
  · rw [readAddress_unsupported ht, step_clientData_closed (setError_isOpen _ _),
      readAddress_unsupported (c := c.receive data) ht, setError_receive]

lemma resume_readRequest (hs : c.state = .ClientConnectionRequest) (ho : c.inSocket.isOpen = true)
    (hw : ∀ atype rest, requestPart c.inSocket.readable = some (atype, rest) → Waiting atype rest) :
    c.readRequest.step (.clientData data) = (c.receive data).readRequest := by
  match hr : c.inSocket.readable with
  | version :: cmd :: rsv :: atype :: rest =>
    have hr' : (c.receive data).inSocket.readable = version :: cmd :: rsv :: atype :: (rest ++ data) := by
      rw [readable_receive _ ho, hr]
      rfl
    rw [readRequest_cons hr, readRequest_cons hr']
    split_ifs with hm hc
    · rw [step_clientData_closed (setError_isOpen _ _), receive_open ho]
      exact setError_withReadable ..
    · rw [step_clientData_closed (setError_isOpen _ _), receive_open ho]
      exact setError_withReadable ..
    · have hw' : Waiting atype rest := by
        obtain ⟨hv, hz⟩ := by simpa only [not_or, not_not] using hm
        exact hw atype rest (by simp [hr, requestPart, hv, hz, not_not.mp hc])
      rw [resume_readAddress (c := c.acceptRequest atype rest) rfl ho hw']
      simp [acceptRequest, receive, withReadable, setState, Device.receive, ho]
  | [] | [_] | [_, _] | [_, _, _] =>
    have hn : c.readRequest = c := by
      rw [readRequest, readPacket_none (by simp [hr, Packet.size])]
    rw [hn, step_clientData ho]
    simp [readyRead, receive, hs]

lemma resume_readMethods (hs : c.state = .AuthenticationMethods) (ho : c.inSocket.isOpen = true)
    (hw : ∀ atype rest, requestPart (c.inSocket.readable.drop c.authNumber.toNat) = some (atype, rest) →
      Waiting atype rest) :
    c.readMethods.step (.clientData data) = (c.receive data).readMethods := by
  by_cases hl : c.authNumber.toNat ≤ c.inSocket.readable.length
  · have hl' : (c.receive data).authNumber.toNat ≤ (c.receive data).inSocket.readable.length := by
      rw [readable_receive _ ho, List.length_append]
      exact hl.trans (Nat.le_add_right _ _)
    have ho' : ∀ rest, (c.acceptMethods rest).inSocket.isOpen = true := by
      intro rest
      simp [acceptMethods, setState, withReadable, Device.write, ho]
    rw [readMethods_of_le ho hl, readMethods_of_le (by simp [receive, Device.receive, ho]) hl',
      resume_readRequest rfl (ho' _) (by simpa [acceptMethods, setState, withReadable, Device.write, ho] using hw),
      readable_receive _ ho]
    change _ = (acceptMethods ((c.inSocket.readable ++ data).drop c.authNumber.toNat) _).readRequest
    rw [List.drop_append_of_le_length hl]
    simp [acceptMethods, receive, withReadable, setState, Device.receive, Device.write, ho]
  · have hn : c.readMethods = c := if_pos (by simpa [Device.bytesAvailable] using hl)
    rw [hn, step_clientData ho]
    simp [readyRead, receive, hs]

lemma resume_readGreeting (data : List UInt8) (hs : c.state = .ClientGreeting) (ho : c.inSocket.isOpen = true)
    (hw : ∀ atype rest, addressPart c.inSocket.readable = some (atype, rest) → Waiting atype rest) :
    c.readGreeting.step (.clientData data) = (c.receive data).readGreeting := by
  match hr : c.inSocket.readable with
  | version :: nauth :: rest =>
    have hr' : (c.receive data).inSocket.readable = version :: nauth :: (rest ++ data) := by
      rw [readable_receive _ ho, hr]
      rfl
    rw [readGreeting_cons hr, readGreeting_cons hr']
    split_ifs with hv
    · rw [step_clientData_closed (setError_isOpen _ _), receive_open ho]
      exact setError_withReadable ..
    · have hw' : ∀ atype rest', requestPart (rest.drop nauth.toNat) = some (atype, rest') →
          Waiting atype rest' :=
        fun atype rest' hp => hw atype rest' (by simpa [hr, addressPart, not_not.mp hv] using hp)
      rw [resume_readMethods (c := c.acceptGreeting nauth rest) rfl ho hw']
      simp [acceptGreeting, receive, withReadable, setState, Device.receive, ho]
  | [] | [_] =>
    have hn : c.readGreeting = c := by
      rw [readGreeting, readPacket_none (by simp [hr, Packet.size])]
    rw [hn, step_clientData ho]
    simp [readyRead, receive, hs]

/-- What a connection is when the request of the client has been accepted. -/
structure Accepted (c c' : Socks5Connection) (atype : UInt8) (rest : List UInt8) : Prop where
  state : c'.state = .ClientConnectionAddress
  isOpen : c'.inSocket.isOpen = true
  addressType : c'.addressType = atype
  readable : c'.inSocket.readable = rest
  written : c'.inSocket.written = c.inSocket.written ++ ServerChoicePacket
  requests : c'.requests = c.requests
  outSockets : c'.outSockets = c.outSockets
  lookups : c'.lookups = c.lookups

lemma requestPart_eq_some {bytes : List UInt8} {atype : UInt8} :
    requestPart bytes = some (atype, rest) ↔ bytes = 0x05 :: 0x01 :: 0x00 :: atype :: rest := by
  match bytes with
  | [] | [_] | [_, _] | [_, _, _] => simp [requestPart]
  | version :: cmd :: rsv :: atype' :: rest' =>
    simp only [requestPart, Option.ite_none_right_eq_some, Option.some.injEq, Prod.mk.injEq, List.cons.injEq]
    tauto

lemma addressPart_eq_some {bytes : List UInt8} {atype : UInt8} :
    addressPart bytes = some (atype, rest) ↔ ∃ nauth methods, methods.length = UInt8.toNat nauth ∧
      bytes = 0x05 :: nauth :: (methods ++ 0x05 :: 0x01 :: 0x00 :: atype :: rest) := by
  constructor
  · intro hp
    match bytes with
    | [] | [_] => simp [addressPart] at hp
    | version :: nauth :: bytes =>
      obtain ⟨rfl, hd⟩ : version = 0x05 ∧ requestPart (bytes.drop nauth.toNat) = some (atype, rest) := by
        simpa [addressPart] using hp
      rw [requestPart_eq_some] at hd
      have hl : nauth.toNat ≤ bytes.length := by
        by_contra hl
        simp [List.drop_eq_nil_of_le (not_le.mp hl).le] at hd
      exact ⟨nauth, bytes.take nauth.toNat, by simpa using hl, by rw [← hd, List.take_append_drop]⟩
  · rintro ⟨nauth, methods, hl, rfl⟩
    simp [addressPart, requestPart, ← hl]

lemma addressPart_append (data : List UInt8) {bytes : List UInt8} {atype : UInt8} (hp : addressPart bytes = some (atype, rest)) :
    addressPart (bytes ++ data) = some (atype, rest ++ data) := by
  obtain ⟨nauth, methods, hl, rfl⟩ := addressPart_eq_some.mp hp
  exact addressPart_eq_some.mpr ⟨nauth, methods, hl, by simp⟩

lemma accepted_of_addressPart {atype : UInt8} (hs : c.state = .ClientGreeting) (ho : c.inSocket.isOpen = true)
    (hp : addressPart c.inSocket.readable = some (atype, rest)) :
    ∃ c', Accepted c c' atype rest ∧ c.readyRead = c'.readAddress := by
  obtain ⟨nauth, methods, hl, hr⟩ := addressPart_eq_some.mp hp
  let request : List UInt8 := 0x05 :: 0x01 :: 0x00 :: atype :: rest
  let c₁ := c.acceptGreeting nauth (methods ++ request)
  let c₂ := c₁.acceptMethods request
  refine ⟨c₂.acceptRequest atype rest, ?_, ?_⟩
  · constructor <;>
      simp [c₁, c₂, acceptGreeting, acceptMethods, acceptRequest, withReadable, setState, Device.write, ho]
  · have hg : c.readyRead = c.readGreeting := by simp [readyRead, hs]
    have h₁ : c₁.inSocket.readable = methods ++ request := rfl
    have h₂ : c₂.inSocket.readable = request := by
      simp [c₁, c₂, acceptGreeting, acceptMethods, withReadable, setState, Device.write, ho]
    have hm : c₁.authNumber.toNat = methods.length := hl.symm
    rw [hg, readGreeting_cons hr, if_neg (by simp), readMethods_of_le (c := c₁) ho (by simp [hm, h₁]), h₁, hm,
      List.drop_left, readRequest_cons h₂, if_neg (by simp), if_neg (by simp)]

lemma getD_append {i : ℕ} (h : i < rest.length) : (rest ++ data).getD i 0 = rest.getD i 0 := by
  simp [List.getD_eq_getElem?_getD, List.getElem?_append_left h]

lemma addressPacket_append {atype : UInt8} {request : Request} {n : ℕ}
    (hp : addressPacket atype rest = some (request, n)) :
    addressPacket atype (rest ++ data) = some (request, n) := by
  unfold addressPacket at hp ⊢
  by_cases h₁ : atype = 0x01
  · rw [if_pos h₁] at hp ⊢
    split_ifs at hp with hl
    rw [if_pos (by simp; omega), List.take_append_of_le_length (by omega), getD_append (by omega),
      getD_append (by omega)]
    exact hp
  rw [if_neg h₁] at hp ⊢
  by_cases h₃ : atype = 0x03
  · rw [if_pos h₃] at hp ⊢
    cases rest with
    | nil => cases hp
    | cons length rest =>
      dsimp only [List.cons_append] at hp ⊢
      split_ifs at hp with hl
      rw [if_pos (by simp; omega), List.take_append_of_le_length (by omega), getD_append (by omega),
        getD_append (by omega)]
      exact hp
  rw [if_neg h₃] at hp ⊢
  by_cases h₄ : atype = 0x04
  · rw [if_pos h₄] at hp ⊢
    split_ifs at hp with hl
    rw [if_pos (by simp; omega), List.take_append_of_le_length (by omega), getD_append (by omega),
      getD_append (by omega)]
    exact hp
  · rw [if_neg h₄] at hp
    cases hp

/-- The number of bytes of an address packet, of which a domain name tells it in its first byte. -/
def packetLength (atype : UInt8) (rest : List UInt8) : ℕ :=
  if atype = 0x01 then 6 else if atype = 0x03 then (rest.headD 0).toNat + 3 else 18

lemma addressPacket_isSome {atype : UInt8} : (addressPacket atype rest).isSome ↔
    (atype = 0x01 ∨ atype = 0x03 ∨ atype = 0x04) ∧ packetLength atype rest ≤ rest.length := by
  unfold addressPacket packetLength
  by_cases h₁ : atype = 0x01
  · simp [h₁]
  by_cases h₃ : atype = 0x03
  · cases rest with
    | nil => simp [h₃]
    | cons length rest => simp [h₃]
  by_cases h₄ : atype = 0x04
  · simp [h₄]
  · simp [h₁, h₃, h₄]

lemma addressPacket_length {atype : UInt8} {request : Request} {n : ℕ}
    (hp : addressPacket atype rest = some (request, n)) : n = packetLength atype rest := by
  unfold addressPacket at hp
  rw [packetLength]
  split_ifs at hp ⊢ with h₁ hl h₃ h₄ hl
  · exact (by simpa using hp : _ ∧ 6 = n).2.symm
  · cases rest with
    | nil => cases hp
    | cons length rest =>
      dsimp only at hp
      split_ifs at hp
      exact (by simpa using hp : _ ∧ length.toNat + 3 = n).2.symm
  · exact (by simpa using hp : _ ∧ 18 = n).2.symm

lemma act_inSocket (request : Request) (c : Socks5Connection) : (act request c).inSocket = c.inSocket := by
  cases request <;> rfl

lemma act_state (request : Request) (c : Socks5Connection) : (act request c).state = c.state := by
  cases request <;> rfl

lemma act_addressType (request : Request) (c : Socks5Connection) :
    (act request c).addressType = c.addressType := by
  cases request <;> rfl

lemma act_requests (request : Request) (c : Socks5Connection) :
    (act request c).requests = c.requests ++ [request] := by
  cases request <;> rfl

/-- A connection that takes what arrives for an address packet of a supported type. -/
structure Listening (c : Socks5Connection) : Prop where
  state : c.state = .ClientConnectionAddress
  isOpen : c.inSocket.isOpen = true
  supported : c.addressType = 0x01 ∨ c.addressType = 0x03 ∨ c.addressType = 0x04

lemma Listening.withReadable (hl : c.Listening) (readable : List UInt8) (reads : List (ℕ × ℕ)) :
    (c.withReadable readable reads).Listening := ⟨hl.state, hl.isOpen, hl.supported⟩

lemma Listening.act (hl : c.Listening) (request : Request) : (act request c).Listening :=
  ⟨(act_state ..).trans hl.state, by rw [act_inSocket, hl.isOpen], by rw [act_addressType]; exact hl.supported⟩

lemma closed_failRead (c : Socks5Connection) : c.failRead.state = .Closed ∧ c.failRead.inSocket.isOpen = false :=
  ⟨rfl, rfl⟩

lemma Listening.readAddress (hl : c.Listening) :
    Waiting c.addressType c.inSocket.readable ∧ c.readAddress = c ∨
    (∃ request n reads, addressPacket c.addressType c.inSocket.readable = some (request, n) ∧
      c.readAddress = Socks5Connection.act request (c.withReadable (c.inSocket.readable.drop n) reads)) ∨
    c.addressType = 0x03 ∧ c.inSocket.readable ≠ [] ∧ addressPacket c.addressType c.inSocket.readable = none ∧
      ∃ readable reads, c.readAddress = failRead (c.withReadable readable reads) := by
  cases hp : addressPacket c.addressType c.inSocket.readable with
  | some packet =>
    obtain ⟨reads, hr⟩ := readAddress_packet hp
    exact Or.inr (Or.inl ⟨_, _, reads, rfl, hr⟩)
  | none =>
    have hn : ¬ packetLength c.addressType c.inSocket.readable ≤ c.inSocket.readable.length := by
      intro hn
      simpa [hp] using addressPacket_isSome.mpr ⟨hl.supported, hn⟩
    by_cases hw : Waiting c.addressType c.inSocket.readable
    · exact Or.inl ⟨hw, readAddress_waiting hl.supported hw⟩
    · right; right
      have ht : c.addressType = 0x03 ∧ c.inSocket.readable ≠ [] := by
        rcases hl.supported with ht | ht | ht
        · simp [Waiting, packetLength, ht] at hw hn
          omega
        · simpa [Waiting, ht] using hw
        · simp [Waiting, packetLength, ht] at hw hn
          omega
      exact ⟨ht.1, ht.2, rfl, readAddress_incomplete ht.1 ht.2 hp⟩

lemma Listening.step (hl : c.Listening) (data : List UInt8) :
    c.step (.clientData data) = (c.withReadable (c.inSocket.readable ++ data) c.reads).readAddress := by
  rw [step_clientData hl.isOpen, receive_open hl.isOpen]
  exact readyRead_of_state hl.state

lemma Listening.step_waiting (hl : c.Listening) (hw : Waiting c.addressType (c.inSocket.readable ++ data)) :
    c.step (.clientData data) = c.withReadable (c.inSocket.readable ++ data) c.reads := by
  rw [hl.step]
  exact readAddress_waiting hl.supported hw

lemma dnsResolutionFinished_cases (i : ℕ) (lookup : QDnsLookup) (reply : DnsReply) (c : Socks5Connection) :
    (∃ reason errorString, c.dnsResolutionFinished i lookup reply =
      setError reason errorString (c.withLookup i { lookup with running := false })) ∨
    (∃ lookup', c.dnsResolutionFinished i lookup reply = c.withLookup i lookup') ∨
    ∃ destAddress, reply.error = none ∧ reply.hostAddressRecords ≠ [] ∧ c.dnsResolutionFinished i lookup reply =
      configureOutSocket destAddress lookup.port (c.withLookup i { lookup with running := false }) := by
  rw [dnsResolutionFinished]
  dsimp only
  split
  · exact Or.inl ⟨_, _, rfl⟩
  · next he hr => exact Or.inr (Or.inr ⟨_, he, by simp [hr], rfl⟩)
  · split
    · exact Or.inl ⟨_, _, rfl⟩
    · split
      · exact Or.inr (Or.inl ⟨_, by rw [List.set_set]; rfl⟩)
      · split_ifs
        · exact Or.inl ⟨_, _, rfl⟩
        · exact Or.inr (Or.inl ⟨_, by rw [List.set_set]; rfl⟩)
        · exact Or.inl ⟨_, _, rfl⟩

lemma dnsResolutionFinished_host (i : ℕ) (lookup : QDnsLookup) {reply : DnsReply} (he : reply.error = none)
    (hr : reply.hostAddressRecords ≠ []) (c : Socks5Connection) :
    ∃ destAddress, c.dnsResolutionFinished i lookup reply =
      configureOutSocket destAddress lookup.port (c.withLookup i { lookup with running := false }) := by
  obtain ⟨destAddress, records, ha⟩ := List.exists_cons_of_ne_nil hr
  refine ⟨destAddress, ?_⟩
  simp only [dnsResolutionFinished, he, ha]
  rfl

end Socks5Connection

end VpnClient.Socks5
