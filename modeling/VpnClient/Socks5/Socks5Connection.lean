import VpnClient.Address.HostAddress
import VpnClient.Socks5.Device

/-! A connection of the SOCKS5 proxy: the negotiation with the client, the lookup of host names
and the two directions of the traffic. -/

namespace VpnClient.Socks5

open Address

def MAX_DNS_LOOKUP_ATTEMPTS : ℤ := 5

def INT8_MAX : ℕ := 127

def UINT8_MAX : ℕ := 255

inductive Socks5State where
  | ClientGreeting
  | AuthenticationMethods
  | ClientConnectionRequest
  | ClientConnectionAddress
  | Proxy
  | Closed
  deriving DecidableEq, Repr

inductive Socks5Replies where
  | ErrorGeneral
  | ErrorHostUnreachable
  | ErrorCommandNotSupported
  | ErrorAddressNotSupported

def Socks5Replies.code : Socks5Replies → UInt8
  | ErrorGeneral => 0x01
  | ErrorHostUnreachable => 0x04
  | ErrorCommandNotSupported => 0x07
  | ErrorAddressNotSupported => 0x08

/-- A port as it lies in memory, in network order. -/
abbrev NetworkPort := UInt8 × UInt8

def ntohs (port : NetworkPort) : ℕ := 256 * port.1.toNat + port.2.toNat

structure ClientGreetingPacket where
  version : UInt8
  nauth : UInt8

structure ClientConnectionRequestPacket where
  version : UInt8
  cmd : UInt8
  rsv : UInt8
  atype : UInt8

structure ClientConnectionAddressIpv4Packet where
  ip_dst : List UInt8
  port : NetworkPort

structure ClientConnectionAddressIpv6Packet where
  ip_dst : List UInt8
  port : NetworkPort

instance : Packet ClientGreetingPacket := ⟨2, fun b => ⟨b.getD 0 0, b.getD 1 0⟩⟩

instance : Packet ClientConnectionRequestPacket :=
  ⟨4, fun b => ⟨b.getD 0 0, b.getD 1 0, b.getD 2 0, b.getD 3 0⟩⟩

instance : Packet ClientConnectionAddressIpv4Packet := ⟨6, fun b => ⟨b.take 4, b.getD 4 0, b.getD 5 0⟩⟩

instance : Packet ClientConnectionAddressIpv6Packet := ⟨18, fun b => ⟨b.take 16, b.getD 16 0, b.getD 17 0⟩⟩

def ServerChoicePacket : List UInt8 := [0x05, 0x00]

/-- The reply of the server; its port is written in the order of the host. -/
def createServerResponsePacket (rep : UInt8) (port : UInt16 := 0) : List UInt8 :=
  [0x05, rep, 0x00, 0x01, 0x00, 0x00, 0x00, 0x00, port.toUInt8, (port >>> 8).toUInt8]

def ipv4Address (ip_dst : List UInt8) : QHostAddress :=
  .ipv4 (ip_dst.foldl (fun a b => a <<< 8 ||| b.toBitVec.setWidth 32) 0)

def ipv6Address (ip_dst : List UInt8) : QHostAddress := .ipv6 (Vector.ofFn fun i => (ip_dst.getD i 0).toBitVec)

inductive RecordType where
  | ANY
  | A
  deriving DecidableEq, Repr

/-- A lookup of a host name, given by its UTF-8 bytes. -/
structure QDnsLookup where
  name : List UInt8
  type : RecordType := .ANY
  port : ℕ
  running : Bool := true
  deriving DecidableEq

structure DnsReply where
  error : Option String := none
  hostAddressRecords : List QHostAddress := []
  canonicalNameRecords : List (List UInt8) := []
  serviceRecords : ℕ := 0

structure OutSocket where
  device : Device := {}
  connected : Bool := false
  destAddress : QHostAddress
  port : ℕ
  deriving DecidableEq

/-- What an address packet of the client asks for. -/
inductive Request where
  | address (destAddress : QHostAddress) (port : ℕ)
  | hostname (name : List UInt8) (port : ℕ)
  deriving DecidableEq

/-- The sockets that `configureOutSocket` made, the newest of which is `m_outSocket`, come first;
`requests` and `reads` record what was acted on and what each read asked of which buffer. -/
structure Socks5Connection where
  state : Socks5State := .ClientGreeting
  errorString : String := ""
  authNumber : UInt8 := 0
  inSocket : Device := {}
  outSockets : List OutSocket := []
  socksPort : UInt16 := 0
  addressType : UInt8 := 0
  destAddress : Option QHostAddress := none
  dnsLookupAttempts : ℤ := 0
  lookups : List QDnsLookup := []
  sendHighWaterMark : ℕ := 0
  recvHighWaterMark : ℕ := 0
  recvIgnoreBytes : ℕ := 0
  dataSentReceived : List (ℕ × ℕ) := []
  requests : List Request := []
  reads : List (ℕ × ℕ) := []
  deriving DecidableEq

namespace Socks5Connection

/-- A connection whose socket has not received anything yet. -/
def initial (socksPort : UInt16) (errorString : String) : Socks5Connection :=
  { socksPort, inSocket := { errorString } }

def setState (newstate : Socks5State) (c : Socks5Connection) : Socks5Connection :=
  let c := { c with state := newstate }
  match newstate with
  | .Proxy => { c with recvIgnoreBytes := c.inSocket.bytesToWrite }
  | .Closed =>
    { c with
      inSocket := c.inSocket.close
      outSockets := c.outSockets.modify 0 fun out => { out with device := out.device.close } }
  | _ => c

def setError (reason : Socks5Replies) (errorString : String) (c : Socks5Connection) : Socks5Connection :=
  let inSocket :=
    match c.state with
    | .ClientGreeting | .ClientConnectionRequest | .ClientConnectionAddress =>
      (c.inSocket.write (createServerResponsePacket reason.code)).2
    | _ => c.inSocket
  setState .Closed { c with inSocket, errorString }

def configureOutSocket (destAddress : QHostAddress) (port : ℕ) (c : Socks5Connection) : Socks5Connection :=
  { c with destAddress := some destAddress, outSockets := { destAddress, port } :: c.outSockets }

/-- `proxy` from the client to the newest outgoing socket; without one, an assertion fails. -/
def proxyToOut (c : Socks5Connection) (watermark : ℕ) : Socks5Connection × ℕ :=
  match c.outSockets with
  | [] => (c, watermark)
  | out :: older =>
    let (inSocket, device, watermark) := proxy c.inSocket out.device watermark
    ({ c with inSocket, outSockets := { out with device } :: older }, watermark)

def proxyToIn (c : Socks5Connection) (watermark : ℕ) : Socks5Connection × ℕ :=
  match c.outSockets with
  | [] => (c, watermark)
  | out :: older =>
    let (device, inSocket, watermark) := proxy out.device c.inSocket watermark
    ({ c with inSocket, outSockets := { out with device } :: older }, watermark)

/-- `proxy(m_inSocket, m_outSocket, m_sendHighWaterMark)` -/
def proxySend (c : Socks5Connection) : Socks5Connection :=
  let (c, sendHighWaterMark) := c.proxyToOut c.sendHighWaterMark
  { c with sendHighWaterMark }

/-- `readPacket` on the socket of the client. -/
def readPacket (T : Type) [Packet T] (c : Socks5Connection) : Option (T × Socks5Connection) :=
  (Socks5.readPacket T c.inSocket).map fun (packet, inSocket) =>
    (packet, { c with inSocket, reads := c.reads ++ [(Packet.size T, Packet.size T)] })

/-- A read of `maxSize` bytes into a buffer of `size` bytes, which fails when fewer are available. -/
def readBuffer (maxSize size : ℕ) (c : Socks5Connection) : Option (List UInt8) × Socks5Connection :=
  let (bytes, inSocket) := c.inSocket.read maxSize
  (if bytes.length ≠ maxSize then none else some bytes,
    { c with inSocket, reads := c.reads ++ [(maxSize, size)] })

def failRead (c : Socks5Connection) : Socks5Connection := c.setError .ErrorGeneral c.inSocket.errorString

def startLookup (name : List UInt8) (port : ℕ) (c : Socks5Connection) : Socks5Connection :=
  { c with
    dnsLookupAttempts := MAX_DNS_LOOKUP_ATTEMPTS
    lookups := c.lookups ++ [{ name, port }]
    requests := c.requests ++ [.hostname name port] }

def connectTo (destAddress : QHostAddress) (port : ℕ) (c : Socks5Connection) : Socks5Connection :=
  configureOutSocket destAddress port { c with requests := c.requests ++ [.address destAddress port] }

/-- The case `ClientConnectionAddress` of `readyRead` for a domain name. -/
def readDomainName (c : Socks5Connection) : Socks5Connection :=
  if c.inSocket.bytesAvailable = 0 then c
  else
    match c.readBuffer 1 1 with
    | (some [length], c) =>
      match c.readBuffer length.toNat UINT8_MAX with
      | (some name, c) =>
        match c.readBuffer 2 2 with
        | (some [hi, lo], c) => c.startLookup name (ntohs (hi, lo))
        | (_, c) => c.failRead
      | (none, c) => c.failRead
    | (_, c) => c.failRead

/-- The case `ClientConnectionAddress` of `readyRead`. -/
def readAddress (c : Socks5Connection) : Socks5Connection :=
  if c.addressType = 0x01 then
    match c.readPacket ClientConnectionAddressIpv4Packet with
    | none => c
    | some (packet, c) => c.connectTo (ipv4Address packet.ip_dst) (ntohs packet.port)
  else if c.addressType = 0x03 then c.readDomainName
  else if c.addressType = 0x04 then
    match c.readPacket ClientConnectionAddressIpv6Packet with
    | none => c
    | some (packet, c) => c.connectTo (ipv6Address packet.ip_dst) (ntohs packet.port)
  else c.setError .ErrorAddressNotSupported "Address type not supported"

def readRequest (c : Socks5Connection) : Socks5Connection :=
  match c.readPacket ClientConnectionRequestPacket with
  | none => c
  | some (packet, c) =>
    if packet.version ≠ 0x05 ∨ packet.rsv ≠ 0x00 then c.setError .ErrorGeneral "Malformed connection request"
    else if packet.cmd ≠ 0x01 then c.setError .ErrorCommandNotSupported "Command not supported"
    else readAddress (setState .ClientConnectionAddress { c with addressType := packet.atype })

def readMethods (c : Socks5Connection) : Socks5Connection :=
  if c.inSocket.bytesAvailable < c.authNumber.toNat then c
  else
    match c.readBuffer c.authNumber.toNat INT8_MAX with
    | (none, c) => c.failRead
    | (some _, c) =>
      match c.inSocket.write ServerChoicePacket with
      | (false, inSocket) => failRead { c with inSocket }
      | (true, inSocket) => readRequest (setState .ClientConnectionRequest { c with inSocket })

def readGreeting (c : Socks5Connection) : Socks5Connection :=
  match c.readPacket ClientGreetingPacket with
  | none => c
  | some (packet, c) =>
    if packet.version ≠ 0x05 then
      c.setError .ErrorGeneral ("SOCKS version " ++ toString packet.version.toNat ++ " not supported")
    else readMethods (setState .AuthenticationMethods { c with authNumber := packet.nauth })

def readyRead (c : Socks5Connection) : Socks5Connection :=
  match c.state with
  | .ClientGreeting => c.readGreeting
  | .AuthenticationMethods => c.readMethods
  | .ClientConnectionRequest => c.readRequest
  | .ClientConnectionAddress => c.readAddress
  | .Proxy => c.proxySend
  | .Closed => c -- excluded by an assertion

/-- The slot for `bytesWritten` of the socket of the client. -/
def bytesWritten (bytes : ℕ) (c : Socks5Connection) : Socks5Connection :=
  if c.state ≠ .Proxy then c
  else if c.recvIgnoreBytes ≥ bytes then { c with recvIgnoreBytes := c.recvIgnoreBytes - bytes }
  else
    let bytes := bytes - c.recvIgnoreBytes
    let c := { c with recvIgnoreBytes := 0, dataSentReceived := c.dataSentReceived ++ [(0, bytes)] }
    let (c, recvHighWaterMark) := c.proxyToOut c.recvHighWaterMark
    { c with recvHighWaterMark }

/-- The slot for the end of the `i`-th lookup. -/
def dnsResolutionFinished (i : ℕ) (lookup : QDnsLookup) (reply : DnsReply) (c : Socks5Connection) :
    Socks5Connection :=
  let restart (lookup : QDnsLookup) (c : Socks5Connection) :=
    { c with lookups := c.lookups.set i { lookup with running := true } }
  let c :=
    { c with
      dnsLookupAttempts := c.dnsLookupAttempts - 1
      lookups := c.lookups.set i { lookup with running := false } }
  match reply.error, reply.hostAddressRecords, reply.canonicalNameRecords with
  | some errorString, _, _ => c.setError .ErrorHostUnreachable errorString
  | none, destAddress :: _, _ => c.configureOutSocket destAddress lookup.port
  | none, [], cnames =>
    if c.dnsLookupAttempts ≤ 0 then c.setError .ErrorHostUnreachable "Maximum DNS attempts exhausted"
    else
      match cnames with
      | target :: _ => restart { lookup with name := target, type := .ANY } c
      | [] =>
        if reply.serviceRecords > 0 then c.setError .ErrorHostUnreachable "SRV records not supported"
        else if lookup.type = .ANY then restart { lookup with type := .A } c
        else c.setError .ErrorHostUnreachable "DNS hostname not found"

/-- The slot for `connected` of an outgoing socket. -/
def outSocketConnected (c : Socks5Connection) : Socks5Connection :=
  match c.inSocket.write (createServerResponsePacket 0x00 c.socksPort) with
  | (false, inSocket) => failRead { c with inSocket }
  | (true, inSocket) => readyRead (setState .Proxy { c with inSocket })

/-- The slot for `errorOccurred` of a socket. -/
def socketError (remoteHostClosed : Bool) (errorString : String) (c : Socks5Connection) : Socks5Connection :=
  if remoteHostClosed then c.setState .Closed else c.setError .ErrorGeneral errorString

inductive Event where
  | clientData (data : List UInt8)
  | inBytesWritten (bytes : ℕ)
  | inDisconnected
  | inError (remoteHostClosed : Bool)
  | dnsFinished (i : ℕ) (reply : DnsReply)
  | outConnected (i : ℕ)
  | outBytesWritten (i : ℕ) (bytes : ℕ)
  | outReadyRead (i : ℕ) (data : List UInt8)
  | outDisconnected (i : ℕ)
  | outError (i : ℕ) (remoteHostClosed : Bool) (errorString : String)

/-- An event that its socket or lookup cannot emit leaves the connection unchanged. -/
def step (c : Socks5Connection) : Event → Socks5Connection
  | .clientData data =>
    if c.inSocket.isOpen then readyRead { c with inSocket := c.inSocket.receive data } else c
  | .inBytesWritten bytes =>
    if 0 < bytes ∧ bytes ≤ c.inSocket.bytesToWrite then
      bytesWritten bytes { c with inSocket := c.inSocket.sent bytes }
    else c
  | .inDisconnected => c.setState .Closed
  | .inError remoteHostClosed => c.socketError remoteHostClosed c.inSocket.errorString
  | .dnsFinished i reply =>
    match c.lookups[i]? with
    | some lookup => if lookup.running then c.dnsResolutionFinished i lookup reply else c
    | none => c
  | .outConnected i =>
    match c.outSockets[i]? with
    | some out =>
      if out.connected || !out.device.isOpen then c
      else outSocketConnected { c with outSockets := c.outSockets.set i { out with connected := true } }
    | none => c
  | .outBytesWritten i bytes =>
    match c.outSockets[i]? with
    | some out =>
      if 0 < bytes ∧ bytes ≤ out.device.bytesToWrite then
        proxySend { c with
          outSockets := c.outSockets.set i { out with device := out.device.sent bytes }
          dataSentReceived := c.dataSentReceived ++ [(bytes, 0)] }
      else c
    | none => c
  | .outReadyRead i data =>
    match c.outSockets[i]? with
    | some out =>
      if out.connected && out.device.isOpen then
        let c := { c with outSockets := c.outSockets.set i { out with device := out.device.receive data } }
        let (c, recvHighWaterMark) := c.proxyToIn c.recvHighWaterMark
        { c with recvHighWaterMark }
      else c
    | none => c
  | .outDisconnected i => if i < c.outSockets.length then c.setState .Closed else c
  | .outError i remoteHostClosed errorString =>
    if i < c.outSockets.length then c.socketError remoteHostClosed errorString else c

end Socks5Connection

end VpnClient.Socks5
