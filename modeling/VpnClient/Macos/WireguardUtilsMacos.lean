import VpnClient.Backend.InterfaceConfig
import VpnClient.Library.Lines
import VpnClient.Library.TextCodes

/-! The daemon on macOS and the process that runs the tunnel: the texts by which peers are set and reported. -/

namespace VpnClient.Macos.Uapi

open Address Library.Lines Library.TextCodes
open Backend (HopType)

abbrev Key := List UInt8

def WG_KEEPALIVE_PERIOD : ℕ := 60

def EINVAL : ℤ := 22

/-- The fields of the configuration of a hop that matter here. An address that is missing is a null string. -/
structure InterfaceConfig where
  hopType : HopType := .SingleHop
  privateKey : Text := []
  serverPublicKey : Text := []
  serverIpv4AddrIn : Option Text := none
  serverIpv6AddrIn : Option Text := none
  serverPort : ℕ := 0
  allowedIPAddressRanges : List IPAddress := []

structure PeerStatus where
  pubkey : Text := []
  handshake : ℤ := 0
  rxBytes : ℤ := 0
  txBytes : ℤ := 0
  deriving DecidableEq

/-! Texts as the string class cuts and reads them. -/

def split (text : Text) : List Text := (frame '\n' [] text).1 ++ [(frame '\n' [] text).2]

def isSpace (c : Char) : Bool := c == ' ' || 9 ≤ c.toNat && c.toNat ≤ 13 || c.toNat == 0x85 || c.toNat == 0xa0

def trimmed (text : Text) : Text := trim isSpace text

/-- The sign and the number of a text, which may have blanks around it. -/
def signed (text : Text) : Option ℤ :=
  match trimmed text with
  | '-' :: digits => (ofDecimal digits).map fun n => -(n : ℤ)
  | '+' :: digits => (ofDecimal digits).map Int.ofNat
  | digits => (ofDecimal digits).map Int.ofNat

/-- A number that does not fit into the type is read as zero. -/
def toInteger (bits : ℕ) (text : Text) : ℤ :=
  match signed text with
  | some n => if -2 ^ (bits - 1) ≤ n ∧ n < 2 ^ (bits - 1) then n else 0
  | none => 0

def toInt (text : Text) : ℤ := toInteger 32 text

def toLongLong (text : Text) : ℤ := toInteger 64 text

/-- The number with 53 binary digits that is nearest, or even if two are. -/
def nearestDouble (n : ℕ) : ℕ :=
  let e := n.size - 53
  let q := n / 2 ^ e
  let r := n % 2 ^ e
  if 2 * r > 2 ^ e ∨ (2 * r = 2 ^ e ∧ q % 2 = 1) then (q + 1) * 2 ^ e else q * 2 ^ e

/-- A whole number as a double, and back. -/
def toDouble (text : Text) : ℤ :=
  match signed text with
  | some (.ofNat n) => nearestDouble n
  | some (.negSucc n) => -nearestDouble (n + 1)
  | none => 0

/-- The name and the value of a line, which has a name before its first equals sign. -/
def keyValue (line : Text) : Option (Text × Text) :=
  match line.idxOf? '=' with
  | some (eq + 1) => some (line.take (eq + 1), line.drop (eq + 2))
  | _ => none

/-! The commands of the daemon, where `addressText` are the texts of addresses. -/

section Commands

variable (addressText : QHostAddress → Text)

def ipText (ip : IPAddress) : Text := addressText ip.address ++ '/' :: decimal ip.prefixLength

/-- A line of a message, with its end. -/
def line (name value : Text) : Text := name ++ '=' :: (value ++ ['\n'])

def hexKey (key : Text) : Text := toHex (fromBase64 key)

def endpoint (config : InterfaceConfig) : Option Text :=
  match config.serverIpv4AddrIn, config.serverIpv6AddrIn with
  | some address, _ => some (address ++ ':' :: decimal config.serverPort)
  | none, some address => some ('[' :: (address ++ ']' :: ':' :: decimal config.serverPort))
  | none, none => none

def interfaceMessage (config : InterfaceConfig) : Text :=
  line "set".toList "1".toList ++ line "private_key".toList (hexKey config.privateKey) ++
    line "replace_peers".toList "true".toList

def peerMessage (config : InterfaceConfig) (endpoint : Text) : Text :=
  line "set".toList "1".toList ++ line "public_key".toList (hexKey config.serverPublicKey) ++
    line "endpoint".toList endpoint ++ line "replace_allowed_ips".toList "true".toList ++
    line "persistent_keepalive_interval".toList (decimal WG_KEEPALIVE_PERIOD) ++
    config.allowedIPAddressRanges.flatMap fun ip => line "allowed_ip".toList (ipText addressText ip)

def removeMessage (config : InterfaceConfig) : Text :=
  line "set".toList "1".toList ++ line "public_key".toList (hexKey config.serverPublicKey) ++
    line "remove".toList "true".toList

def statusMessage : Text := "get=1".toList

end Commands

/-- The loop that ends a message with an empty line, in at most `fuel` rounds. -/
def endMessage : ℕ → Text → Text
  | 0, message => message
  | fuel + 1, message => if ['\n', '\n'] <:+ message then message else endMessage fuel (message ++ ['\n'])

/-- The text that is written to the socket. -/
def written (command : Text) : Text := endMessage 2 command

/-- The loop that reads a reply, piece by piece, until the timer ends. -/
def readReply : Text → List Text → Option Text
  | reply, pieces =>
    if ['\n', '\n'] <:+: reply then some reply
    else
      match pieces with
      | [] => none
      | piece :: pieces => readReply (reply ++ piece) pieces

/-- The reply to a command, where `none` is a failure to connect. -/
def uapiReply (pieces : Option (List Text)) : Text :=
  match pieces.bind (readReply []) with
  | some reply => trimmed reply
  | none => []

def uapiErrno (reply : Text) : ℤ :=
  match (split reply).findSome? fun line => (keyValue line).filter fun p => p.1 == "errno".toList with
  | some (_, value) => toInt value
  | none => EINVAL

/-- One line of the reply, with the list and the status of the last peer. -/
def statusLine (s : List PeerStatus × PeerStatus) (line : Text) : List PeerStatus × PeerStatus :=
  match keyValue line with
  | none => s
  | some (name, value) =>
    let s :=
      if name = "public_key".toList then
        (if s.2.pubkey ≠ [] then s.1 ++ [s.2] else s.1, { pubkey := toBase64 (fromHex value) })
      else s
    let s := if name = "tx_bytes".toList then (s.1, { s.2 with txBytes := toDouble value }) else s
    let s := if name = "rx_bytes".toList then (s.1, { s.2 with rxBytes := toDouble value }) else s
    let s :=
      if name = "last_handshake_time_sec".toList then
        (s.1, { s.2 with handshake := s.2.handshake + toLongLong value * 1000 })
      else s
    if name = "last_handshake_time_nsec".toList then
      (s.1, { s.2 with handshake := s.2.handshake + (toLongLong value).tdiv 1000000 })
    else s

/-- The loop of `getPeerStatus` over the lines of a reply. -/
def peerList (reply : Text) : List PeerStatus :=
  let s := (split reply).foldl statusLine ([], {})
  if s.2.pubkey ≠ [] then s.1 ++ [s.2] else s.1

/-! Lines and messages of the protocol. -/

/-- Lines with their ends. -/
def joined (lines : List Text) : Text := lines.flatMap (· ++ ['\n'])

def pair (p : Text × Text) : Text := p.1 ++ '=' :: p.2

def IsName (name : Text) : Prop := name ≠ [] ∧ '=' ∉ name ∧ '\n' ∉ name

instance (name : Text) : Decidable (IsName name) := inferInstanceAs (Decidable (_ ∧ _ ∧ _))

/-- What a line of a message is made of. -/
structure IsLine (p : Text × Text) : Prop where
  name : IsName p.1
  newline : '\n' ∉ p.2

/-- A message that sets something ends with an empty line. -/
def setText (pairs : List (Text × Text)) : Text := joined ((("set".toList, "1".toList) :: pairs).map pair) ++ ['\n']

/-! The process of the tunnel: a parameter, and what is documented of it. -/

/-- What a peer has counted. -/
structure Peer where
  handshakeSec : ℕ := 0
  handshakeNsec : ℕ := 0
  txBytes : ℕ := 0
  rxBytes : ℕ := 0

/-- The peers, and the peer that an allowed network belongs to. -/
@[ext] structure Table where
  keys : Set Key := ∅
  owner : IPAddress → Option Key := fun _ => none

/-- The prefix without its host bits. -/
def network (ip : IPAddress) : IPAddress where
  address :=
    match ip.address with
    | .ipv4 a => .ipv4 (a &&& BitVec.allOnes 32 <<< (32 - ip.prefixLength))
    | .ipv6 a => .ipv6 (Vector.ofFn fun i => a.get i &&& BitVec.allOnes 8 <<< (8 - (ip.prefixLength - 8 * i)))
  prefixLength := ip.prefixLength

def release (key : Key) (owner : IPAddress → Option Key) (ip : IPAddress) : Option Key :=
  if owner ip = some key then none else owner ip

/-- Lines are obeyed one by one, up to the first that is not taken. -/
def obeyed {τ : Type} (obey : Text × Text → τ × Option Key → Option (τ × Option Key)) :
    List (Text × Text) → τ × Option Key → τ × Bool
  | [], c => (c.1, true)
  | p :: pairs, c =>
    match obey p c with
    | some c => obeyed obey pairs c
    | none => (c.1, false)

/-- A process reads messages and moves by itself. It obeys a line, if it takes it, with the peer that the line is
about, and finds the network in the text of an allowed address. -/
structure Process (τ : Type) where
  start : τ
  receive : Text → τ → τ
  obey : Text × Text → τ × Option Key → Option (τ × Option Key)
  networkOf : Text → Option IPAddress
  moves : τ → τ → Prop
  publicKey : τ → Key
  peers : τ → Key → Option Peer
  owner : τ → IPAddress → Option Key

namespace Process

variable {τ : Type} (P : Process τ)

def table (d : τ) : Table := ⟨{key | (P.peers d key).isSome = true}, P.owner d⟩

def Takes (d : τ) (pairs : List (Text × Text)) : Prop := (obeyed P.obey pairs (d, none)).2 = true

/-- What the configuration protocol is documented to do. The peer with the own key of the process is no peer, so that
nothing is said of its lines. -/
structure Documented : Prop where
  start : P.table P.start = {}
  moves (d after : τ) : P.moves d after → P.table after = P.table d
  get (d : τ) : P.peers (P.receive (written statusMessage) d) = P.peers d ∧
    P.owner (P.receive (written statusMessage) d) = P.owner d
  set (d : τ) (pairs : List (Text × Text)) : (∀ p ∈ pairs, IsLine p ∧ '\r' ∉ p.2) →
    P.table (P.receive (setText pairs) d) = P.table (obeyed P.obey pairs (d, none)).1
  private_key (d after : τ) (next : Option Key) (value : Text) :
    P.obey ("private_key".toList, value) (d, none) = some (after, next) →
    next = none ∧ (P.table d = {} → P.table after = {})
  replace_peers (d after : τ) (next : Option Key) :
    P.obey ("replace_peers".toList, "true".toList) (d, none) = some (after, next) → P.table after = {}
  public_key (d after : τ) (current next : Option Key) (key : Key) :
    P.obey ("public_key".toList, toHex key) (d, current) = some (after, next) → key ≠ P.publicKey d →
    next = some key ∧ P.table after = { P.table d with keys := insert key (P.table d).keys }
  remove (d after : τ) (next : Option Key) (key : Key) :
    P.obey ("remove".toList, "true".toList) (d, some key) = some (after, next) → key ∈ (P.table d).keys →
    P.table after = ⟨(P.table d).keys \ {key}, release key (P.table d).owner⟩
  endpoint (d after : τ) (next : Option Key) (key : Key) (value : Text) :
    P.obey ("endpoint".toList, value) (d, some key) = some (after, next) →
    next = some key ∧ P.table after = P.table d
  replace_allowed_ips (d after : τ) (next : Option Key) (key : Key) :
    P.obey ("replace_allowed_ips".toList, "true".toList) (d, some key) = some (after, next) →
    next = some key ∧ P.table after = { P.table d with owner := release key (P.table d).owner }
  persistent_keepalive_interval (d after : τ) (next : Option Key) (key : Key) (n : ℕ) :
    P.obey ("persistent_keepalive_interval".toList, decimal n) (d, some key) = some (after, next) →
    next = some key ∧ P.table after = P.table d
  allowed_ip (d after : τ) (next : Option Key) (key : Key) (value : Text) (ip : IPAddress) :
    P.obey ("allowed_ip".toList, value) (d, some key) = some (after, next) → key ∈ (P.table d).keys →
    P.networkOf value = some ip →
    next = some key ∧ P.table after = { P.table d with owner := Function.update (P.table d).owner ip (some key) }

end Process

/-- What becomes of the start of the process: it fails, no name is found, or the interface is configured. A process
that is killed is gone at once. -/
inductive Launch where
  | notStarted
  | unnamed
  | named (pieces : Option (List Text))

inductive ExclusionCall where
  | addExclusionRoute (address : Option Text)
  | deleteExclusionRoute (address : Option Text)
  deriving DecidableEq

/-- The process runs while there is a `tunnel`. Of the route monitor there are the calls to it. -/
structure WireguardUtilsMacos (τ : Type) where
  tunnel : Option τ := none
  rtmonitor : Bool := false
  exclusions : List ExclusionCall := []

namespace WireguardUtilsMacos

variable {τ : Type} (P : Process τ) (addressText : QHostAddress → Text)

def interfaceExists (s : WireguardUtilsMacos τ) : Bool := s.tunnel.isSome

/-- The message reaches the process when the socket is connected, whatever becomes of the reply. -/
def uapiCommand (command : Text) (pieces : Option (List Text)) (s : WireguardUtilsMacos τ) :
    WireguardUtilsMacos τ × Text :=
  let s := if pieces.isSome then { s with tunnel := s.tunnel.map (P.receive (written command)) } else s
  (s, uapiReply pieces)

def addInterface (config : InterfaceConfig) (launch : Launch) (s : WireguardUtilsMacos τ) :
    WireguardUtilsMacos τ × Bool :=
  if s.tunnel.isSome then (s, false)
  else
    match launch with
    | .notStarted => (s, false)
    | .unnamed => (s, false)
    | .named pieces =>
      let s := { s with tunnel := some P.start, rtmonitor := true }
      let (s, reply) := s.uapiCommand P (interfaceMessage config) pieces
      (s, uapiErrno reply == 0)

def deleteInterface (s : WireguardUtilsMacos τ) : WireguardUtilsMacos τ × Bool :=
  let s := { s with rtmonitor := false }
  if s.tunnel.isNone then (s, false) else ({ s with tunnel := none }, true)

def excludes (config : InterfaceConfig) (s : WireguardUtilsMacos τ) : Bool :=
  config.hopType ≠ .MultiHopExit ∧ s.rtmonitor = true

def updatePeer (config : InterfaceConfig) (pieces : Option (List Text)) (s : WireguardUtilsMacos τ) :
    WireguardUtilsMacos τ × Bool :=
  match endpoint config with
  | none => (s, false)
  | some endpoint =>
    let calls := [.addExclusionRoute config.serverIpv4AddrIn, .addExclusionRoute config.serverIpv6AddrIn]
    let s := if s.excludes config then { s with exclusions := s.exclusions ++ calls } else s
    let (s, reply) := s.uapiCommand P (peerMessage addressText config endpoint) pieces
    (s, uapiErrno reply == 0)

def deletePeer (config : InterfaceConfig) (pieces : Option (List Text)) (s : WireguardUtilsMacos τ) :
    WireguardUtilsMacos τ × Bool :=
  let calls := [.deleteExclusionRoute config.serverIpv4AddrIn, .deleteExclusionRoute config.serverIpv6AddrIn]
  let s := if s.excludes config then { s with exclusions := s.exclusions ++ calls } else s
  let (s, reply) := s.uapiCommand P (removeMessage config) pieces
  (s, uapiErrno reply == 0)

def getPeerStatus (pieces : Option (List Text)) (s : WireguardUtilsMacos τ) :
    WireguardUtilsMacos τ × List PeerStatus :=
  let (s, reply) := s.uapiCommand P statusMessage pieces
  (s, peerList reply)

end WireguardUtilsMacos

/-! Messages and their lines. -/

section Lines

variable {name value text last : Text} {lines : List Text} {pairs : List (Text × Text)}

lemma keyValue_pair (hn : name ≠ []) (he : '=' ∉ name) : keyValue (pair (name, value)) = some (name, value) := by
  have hi : (name ++ '=' :: value).idxOf? '=' = some name.length := by
    rw [List.idxOf?, List.findIdx?_append]
    have hf : name.findIdx? (· == '=') = none := by
      rw [List.findIdx?_eq_none_iff]
      intro c hc
      simp only [beq_eq_false_iff_ne]
      rintro rfl
      exact he hc
    rw [hf, List.findIdx?_cons]
    simp
  obtain ⟨n, hl⟩ := Nat.exists_eq_succ_of_ne_zero (List.length_pos_iff.mpr hn).ne'
  have hk : keyValue (name ++ '=' :: value) =
      some ((name ++ '=' :: value).take (n + 1), (name ++ '=' :: value).drop (n + 2)) := by
    rw [keyValue, hi, hl]
  have ht : (name ++ '=' :: value).take (n + 1) = name := List.take_left' hl
  have hd : (name ++ '=' :: value).drop (n + 2) = value := by
    rw [List.append_cons]
    exact List.drop_left' (by simp [hl])
  rw [pair, hk, ht, hd]

lemma frame_joined (hl : ∀ line ∈ lines, '\n' ∉ line) : frame '\n' [] (joined lines) = (lines, []) := by
  have hj : frame '\n' [] (joined lines ++ []) = (lines, []) := frame_join hl List.not_mem_nil
  rwa [List.append_nil] at hj

lemma split_joined (hl : ∀ line ∈ lines, '\n' ∉ line) (ht : '\n' ∉ last) :
    split (joined lines ++ last) = lines ++ [last] := by
  rw [split, joined, frame_join hl ht]

lemma isLine (hn : IsName name) (hv : '\n' ∉ value) : IsLine (name, value) := ⟨hn, hv⟩

lemma IsLine.keyValue {p : Text × Text} (h : IsLine p) : keyValue (pair p) = some p :=
  keyValue_pair h.name.1 h.name.2.1

lemma IsLine.ne_nil {p : Text × Text} (_ : IsLine p) : pair p ≠ [] := by simp [pair]

lemma IsLine.newline_pair {p : Text × Text} (h : IsLine p) : '\n' ∉ pair p := by
  simpa [pair, h.name.2.2] using h.newline

lemma newline_map_pair (hp : ∀ p ∈ pairs, IsLine p) : ∀ line ∈ pairs.map pair, '\n' ∉ line := by
  intro line hl
  obtain ⟨p, hm, rfl⟩ := List.mem_map.mp hl
  exact (hp p hm).newline_pair

lemma written_joined (hp : ∀ p ∈ pairs, IsLine p) (hn : pairs ≠ []) :
    written (joined (pairs.map pair)) = joined (pairs.map pair) ++ ['\n'] := by
  obtain ⟨front, last, rfl⟩ := (List.eq_nil_or_concat' pairs).resolve_left hn
  have hlast := hp last (by simp)
  have hj : joined ((front ++ [last]).map pair) = joined (front.map pair) ++ pair last ++ ['\n'] := by simp [joined]
  have h₁ : ¬ ['\n', '\n'] <:+ joined ((front ++ [last]).map pair) := by
    rw [hj]
    rintro ⟨before, hf⟩
    have he : before ++ ['\n'] = joined (front.map pair) ++ pair last := by
      have hc : before ++ ['\n'] ++ ['\n'] = joined (front.map pair) ++ pair last ++ ['\n'] := by
        rw [← hf, List.append_assoc]
        rfl
      exact List.append_cancel_right hc
    have hm : (joined (front.map pair) ++ pair last).getLast? = some '\n' := by rw [← he, List.getLast?_concat]
    rw [List.getLast?_append_of_ne_nil _ hlast.ne_nil] at hm
    exact hlast.newline_pair (List.mem_of_getLast? hm)
  have h₂ : ['\n', '\n'] <:+ joined ((front ++ [last]).map pair) ++ ['\n'] := by
    rw [hj, List.append_assoc]
    exact List.suffix_append _ _
  rw [written, endMessage, if_neg h₁, endMessage, if_pos h₂]

end Lines

section Messages

variable {addressText : QHostAddress → Text} {config : InterfaceConfig} {e : Text} {pairs : List (Text × Text)}
  {p : Text × Text}

def peerPairs (addressText : QHostAddress → Text) (config : InterfaceConfig) (e : Text) : List (Text × Text) :=
  [("public_key".toList, hexKey config.serverPublicKey), ("endpoint".toList, e),
    ("replace_allowed_ips".toList, "true".toList),
    ("persistent_keepalive_interval".toList, decimal WG_KEEPALIVE_PERIOD)] ++
  config.allowedIPAddressRanges.map fun ip => ("allowed_ip".toList, ipText addressText ip)

def interfacePairs (config : InterfaceConfig) : List (Text × Text) :=
  [("private_key".toList, hexKey config.privateKey), ("replace_peers".toList, "true".toList)]

def removePairs (config : InterfaceConfig) : List (Text × Text) :=
  [("public_key".toList, hexKey config.serverPublicKey), ("remove".toList, "true".toList)]

lemma peerMessage_eq (addressText : QHostAddress → Text) (config : InterfaceConfig) (e : Text) :
    peerMessage addressText config e =
      joined ((("set".toList, "1".toList) :: peerPairs addressText config e).map pair) := by
  simp [peerMessage, peerPairs, joined, pair, line, List.flatMap_map]

lemma interfaceMessage_eq (config : InterfaceConfig) :
    interfaceMessage config = joined ((("set".toList, "1".toList) :: interfacePairs config).map pair) := by
  simp [interfaceMessage, interfacePairs, joined, pair, line]

lemma removeMessage_eq (config : InterfaceConfig) :
    removeMessage config = joined ((("set".toList, "1".toList) :: removePairs config).map pair) := by
  simp [removeMessage, removePairs, joined, pair, line]

lemma newline_decimal (n : ℕ) : '\n' ∉ decimal n := fun hm => by
  have h := digitChar_mem n _ hm
  revert h
  decide

lemma newline_toHex (data : List UInt8) : '\n' ∉ toHex data := fun hm => by
  have h := hexChar_mem data _ hm
  revert h
  decide

/-- A line that is read as it was written, also where a carriage return ends a line. -/
def IsPlain (p : Text × Text) : Prop := IsLine p ∧ '\r' ∉ p.2

lemma isPlain_hexKey {name : Text} (hn : IsName name) (key : Text) : IsPlain (name, hexKey key) := by
  refine ⟨isLine hn (newline_toHex _), fun hm => ?_⟩
  have h := hexChar_mem (fromBase64 key) _ hm
  revert h
  decide

lemma isPlain_true {name : Text} (hn : IsName name) : IsPlain (name, "true".toList) :=
  ⟨isLine hn (by decide), (by decide : '\r' ∉ "true".toList)⟩

lemma isPlain_keepalive : IsPlain ("persistent_keepalive_interval".toList, decimal WG_KEEPALIVE_PERIOD) :=
  ⟨isLine (by decide) (newline_decimal _), by decide⟩

/-- A command without its lines has no end yet. -/
lemma written_setText (hp : ∀ p ∈ pairs, IsPlain p) :
    written (joined ((("set".toList, "1".toList) :: pairs).map pair)) = setText pairs := by
  have hset : IsLine ("set".toList, "1".toList) := isLine (by decide) (by decide)
  exact written_joined (List.forall_mem_cons.mpr ⟨hset, fun p hm => (hp p hm).1⟩) (List.cons_ne_nil _ _)

/-- The addresses of a configuration are texts without line ends. -/
structure Sendable (addressText : QHostAddress → Text) (config : InterfaceConfig) : Prop where
  endpoint : ∀ e, endpoint config = some e → '\n' ∉ e ∧ '\r' ∉ e
  allowed : ∀ ip ∈ config.allowedIPAddressRanges,
    '\n' ∉ ipText addressText ip ∧ '\r' ∉ ipText addressText ip

lemma isPlain_peerPairs (hs : Sendable addressText config) (he : endpoint config = some e) :
    ∀ p ∈ peerPairs addressText config e, IsPlain p := by
  intro p hp
  rcases List.mem_append.mp hp with hp | hp
  · simp only [List.mem_cons, List.not_mem_nil, or_false] at hp
    rcases hp with rfl | rfl | rfl | rfl
    · exact isPlain_hexKey (by decide) _
    · exact ⟨isLine (by decide) (hs.endpoint e he).1, (hs.endpoint e he).2⟩
    · exact isPlain_true (by decide)
    · exact isPlain_keepalive
  · obtain ⟨ip, hip, rfl⟩ := List.mem_map.mp hp
    exact ⟨isLine (by decide) (hs.allowed ip hip).1, (hs.allowed ip hip).2⟩

lemma isPlain_removePairs (config : InterfaceConfig) : ∀ p ∈ removePairs config, IsPlain p := by
  simp only [removePairs, List.forall_mem_cons, List.not_mem_nil, false_imp_iff, implies_true, and_true]
  exact ⟨isPlain_hexKey (by decide) _, isPlain_true (by decide)⟩

lemma isPlain_interfacePairs (config : InterfaceConfig) : ∀ p ∈ interfacePairs config, IsPlain p := by
  simp only [interfacePairs, List.forall_mem_cons, List.not_mem_nil, false_imp_iff, implies_true, and_true]
  exact ⟨isPlain_hexKey (by decide) _, isPlain_true (by decide)⟩

end Messages

/-! What messages do to the peers of the process. -/

/-- The allowed networks of a peer are these alone. -/
def assigned (key : Key) (ips : List IPAddress) (owner : IPAddress → Option Key) (ip : IPAddress) : Option Key :=
  if ip ∈ ips then some key else release key owner ip

namespace Table

def update (config : InterfaceConfig) (t : Table) : Table where
  keys := insert (fromBase64 config.serverPublicKey) t.keys
  owner := assigned (fromBase64 config.serverPublicKey) (config.allowedIPAddressRanges.map network) t.owner

def remove (config : InterfaceConfig) (t : Table) : Table where
  keys := t.keys \ {fromBase64 config.serverPublicKey}
  owner := release (fromBase64 config.serverPublicKey) t.owner

end Table

/-- The process finds the allowed networks of a configuration in their texts. -/
def Process.Reads {τ : Type} (P : Process τ) (addressText : QHostAddress → Text) (config : InterfaceConfig) : Prop :=
  ∀ ip ∈ config.allowedIPAddressRanges, P.networkOf (ipText addressText ip) = some (network ip)

section Received

variable {τ : Type} {P : Process τ} {addressText : QHostAddress → Text} {config : InterfaceConfig} {e : Text} {d : τ}
  {c : τ × Option Key} {key : Key} {value : Text} {pairs : List (Text × Text)} {p : Text × Text} {ips : List IPAddress}

lemma obeyed_cons (h : (obeyed P.obey (p :: pairs) c).2 = true) :
    ∃ after, P.obey p c = some after ∧ obeyed P.obey (p :: pairs) c = obeyed P.obey pairs after := by
  rw [obeyed] at h ⊢
  split at h
  case h_1 after ho => exact ⟨after, ho, rfl⟩
  case h_2 => cases h

variable (hP : P.Documented)
include hP

lemma table_receive (hl : ∀ p ∈ pairs, IsPlain p) :
    P.table (P.receive (written (joined ((("set".toList, "1".toList) :: pairs).map pair))) d) =
      P.table (obeyed P.obey pairs (d, none)).1 := by
  rw [written_setText hl]
  exact hP.set d pairs hl

/-- The first line of a message about a peer makes the peer. -/
lemma obeyed_public_key (hk : fromBase64 value ≠ P.publicKey d)
    (ht : (obeyed P.obey (("public_key".toList, hexKey value) :: pairs) (d, none)).2 = true) :
    ∃ after, obeyed P.obey (("public_key".toList, hexKey value) :: pairs) (d, none) =
        obeyed P.obey pairs (after, some (fromBase64 value)) ∧
      P.table after = { P.table d with keys := insert (fromBase64 value) (P.table d).keys } := by
  obtain ⟨⟨after, next⟩, ho, he⟩ := obeyed_cons ht
  obtain ⟨rfl, h⟩ := hP.public_key d after none next (fromBase64 value) ho hk
  exact ⟨after, he, h⟩

lemma table_allowed (hr : ∀ ip ∈ ips, P.networkOf (ipText addressText ip) = some (network ip))
    (hk : key ∈ (P.table d).keys)
    (ht : (obeyed P.obey (ips.map fun ip => ("allowed_ip".toList, ipText addressText ip)) (d, some key)).2 = true) :
    P.table (obeyed P.obey (ips.map fun ip => ("allowed_ip".toList, ipText addressText ip)) (d, some key)).1 =
      { P.table d with owner := fun ip => if ip ∈ ips.map network then some key else (P.table d).owner ip } := by
  induction ips generalizing d with
  | nil => simp [obeyed]
  | cons ip ips ih =>
    obtain ⟨hrip, hr⟩ := List.forall_mem_cons.mp hr
    rw [List.map_cons] at ht ⊢
    obtain ⟨⟨after, next⟩, ho, he⟩ := obeyed_cons ht
    obtain ⟨rfl, ha⟩ := hP.allowed_ip d after next key _ _ ho hk hrip
    rw [he] at ht ⊢
    rw [ih hr (by rwa [ha]) ht, ha]
    ext1
    · rfl
    · funext other
      by_cases hm : other ∈ ips.map network
      · simp only [if_pos hm, List.map_cons, if_pos (List.mem_cons_of_mem _ hm)]
      · by_cases ho : other = network ip
        · subst ho
          simp [hm]
        · simp [hm, ho]

lemma receive_peerMessage (hs : Sendable addressText config) (hr : P.Reads addressText config)
    (he : endpoint config = some e) (hk : fromBase64 config.serverPublicKey ≠ P.publicKey d)
    (ht : P.Takes d (peerPairs addressText config e)) :
    P.table (P.receive (written (peerMessage addressText config e)) d) = (P.table d).update config := by
  rw [peerMessage_eq, table_receive hP (isPlain_peerPairs hs he)]
  rw [Process.Takes] at ht
  rw [peerPairs, List.cons_append, List.cons_append, List.cons_append, List.cons_append, List.nil_append] at ht ⊢
  obtain ⟨d₁, he₁, h₁⟩ := obeyed_public_key hP hk ht
  rw [he₁] at ht ⊢
  obtain ⟨⟨d₂, c₂⟩, ho₂, he₂⟩ := obeyed_cons ht
  obtain ⟨rfl, h₂⟩ := hP.endpoint d₁ d₂ c₂ _ _ ho₂
  rw [he₂] at ht ⊢
  obtain ⟨⟨d₃, c₃⟩, ho₃, he₃⟩ := obeyed_cons ht
  obtain ⟨rfl, h₃⟩ := hP.replace_allowed_ips d₂ d₃ c₃ _ ho₃
  rw [he₃] at ht ⊢
  obtain ⟨⟨d₄, c₄⟩, ho₄, he₄⟩ := obeyed_cons ht
  obtain ⟨rfl, h₄⟩ := hP.persistent_keepalive_interval d₃ d₄ c₄ _ _ ho₄
  rw [he₄] at ht ⊢
  have htable : P.table d₄ = ⟨insert (fromBase64 config.serverPublicKey) (P.table d).keys,
      release (fromBase64 config.serverPublicKey) (P.table d).owner⟩ := by rw [h₄, h₃, h₂, h₁]
  have hmem : fromBase64 config.serverPublicKey ∈ (P.table d₄).keys := by
    rw [htable]
    exact Set.mem_insert _ _
  rw [table_allowed hP hr hmem ht, htable]
  rfl

lemma receive_removeMessage (hk : fromBase64 config.serverPublicKey ≠ P.publicKey d)
    (ht : P.Takes d (removePairs config)) :
    P.table (P.receive (written (removeMessage config)) d) = (P.table d).remove config := by
  rw [removeMessage_eq, table_receive hP (isPlain_removePairs config)]
  rw [Process.Takes] at ht
  rw [removePairs] at ht ⊢
  obtain ⟨d₁, he₁, h₁⟩ := obeyed_public_key hP hk ht
  rw [he₁] at ht ⊢
  obtain ⟨⟨d₂, c₂⟩, ho₂, he₂⟩ := obeyed_cons ht
  have hmem : fromBase64 config.serverPublicKey ∈ (P.table d₁).keys := by
    rw [h₁]
    exact Set.mem_insert _ _
  rw [he₂, obeyed, hP.remove d₁ d₂ c₂ _ ho₂ hmem, h₁, Table.remove]
  simp

/-- A process without peers has none after the message about the interface, also if it does not take it. -/
lemma receive_interfaceMessage (hd : P.table d = {}) :
    P.table (P.receive (written (interfaceMessage config)) d) = {} := by
  rw [interfaceMessage_eq, table_receive hP (isPlain_interfacePairs config), interfacePairs, obeyed]
  split
  case h_2 => exact hd
  case h_1 after ho =>
    obtain ⟨d₁, c₁⟩ := after
    obtain ⟨rfl, h₁⟩ := hP.private_key d d₁ c₁ _ ho
    rw [obeyed]
    split
    case h_2 => exact h₁ hd
    case h_1 after ho => exact hP.replace_peers d₁ after.1 after.2 ho

end Received

end VpnClient.Macos.Uapi
