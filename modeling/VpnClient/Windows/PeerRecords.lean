import VpnClient.Backend.Daemon
import VpnClient.Library.LittleEndian

/-! The statuses of the peers of a Windows adapter, which are read from records of different lengths. -/

namespace VpnClient.Windows.PeerRecords

open Backend.Daemon

abbrev Bytes := List UInt8

def zeros (n : ℕ) : Bytes := List.replicate n 0

/-- The fields of a `WIREGUARD_PEER` that are read. -/
structure Peer where
  flags : UInt32
  publicKey : Bytes
  persistentKeepalive : UInt16
  txBytes : ℕ
  rxBytes : ℕ
  lastHandshake : ℕ
  allowedIPsCount : ℕ

/-- The records of `wireguard.h` with their sizes: a record is read whatever follows it, and integers of zero bytes are
zero. -/
structure Layout where
  interfaceSize : ℕ
  peerSize : ℕ
  allowedIpSize : ℕ
  hasPublicKey : UInt32
  peersCount : Bytes → ℕ
  peer : Bytes → Peer
  peersCount_append : ∀ record more, record.length = interfaceSize → peersCount (record ++ more) = peersCount record
  peer_append : ∀ record more, record.length = peerSize → peer (record ++ more) = peer record
  peer_zeros : (peer (zeros peerSize)).persistentKeepalive = 0
  peerSize_pos : 0 < peerSize
  peerSize_le : peerSize ≤ 1024

variable (l : Layout)

/-- The record of a peer, followed by those of its allowed addresses. -/
structure PeerBlob where
  record : Bytes
  allowedIPs : List Bytes
  length_record : record.length = l.peerSize
  length_allowedIPs : ∀ allowedIP ∈ allowedIPs, allowedIP.length = l.allowedIpSize
  count : (l.peer record).allowedIPsCount = allowedIPs.length

/-- The configuration of an adapter: a header with the number of the peers, and the peers. -/
structure AdapterConfig where
  header : Bytes
  peers : List (PeerBlob l)
  length_header : header.length = l.interfaceSize
  count : l.peersCount header = peers.length

variable {l}

def PeerBlob.peer (p : PeerBlob l) : Peer := l.peer p.record

def PeerBlob.bytes (p : PeerBlob l) : Bytes := p.record ++ p.allowedIPs.flatten

def AdapterConfig.bytes (config : AdapterConfig l) : Bytes := config.header ++ config.peers.flatMap PeerBlob.bytes

variable (l) (toBase64 : Bytes → String)

def WG_KEEPALIVE_PERIOD : UInt16 := 60

/-- The keepalive is the expected one, and there is a public key. -/
def accepted (peer : Peer) : Prop := peer.persistentKeepalive = WG_KEEPALIVE_PERIOD ∧ peer.flags &&& l.hasPublicKey ≠ 0

instance : DecidablePred (accepted l) := fun _ => inferInstanceAs (Decidable (_ ∧ _))

def status (peer : Peer) : PeerStatus where
  pubkey := toBase64 peer.publicKey
  handshake := peer.lastHandshake
  txBytes := peer.txBytes
  rxBytes := peer.rxBytes

/-- How the reading ends: `running` if it goes on for more steps than it was given. -/
inductive Outcome where
  | returned (peerList : List PeerStatus)
  | somethingIsOff
  | outOfRange
  | running

/-- The end of a reading, and the indices at which it has read a peer. -/
structure Walk where
  outcome : Outcome
  reads : List ℤ

/-- The loop: it stops when it has enough peers. -/
def walk (buffer : Bytes) (bufferSize peerCount : ℤ) : ℕ → ℤ → List PeerStatus → List ℤ → Walk
  | 0, _, _, reads => ⟨.running, reads⟩
  | fuel + 1, index, peerList, reads =>
    if index > bufferSize then ⟨.somethingIsOff, reads⟩
    else if index < 0 ∨ buffer.length ≤ index then ⟨.outOfRange, reads⟩
    else
      let peer := l.peer (buffer.drop index.toNat)
      let peerList := if accepted l peer then peerList ++ [status toBase64 peer] else peerList
      let next := (index + l.peerSize + l.allowedIpSize * peer.allowedIPsCount).bmod (2 ^ 32)
      if peerList.length < peerCount then walk buffer bufferSize peerCount fuel next peerList (reads ++ [index])
      else ⟨.returned peerList, reads ++ [index]⟩

/-- What `GetConfiguration` has written, and the size that it has stored. -/
structure Answer where
  data : Bytes
  bufferSize : ℕ

def bufferLength : ℕ := 2048

/-- Nothing is read without an adapter or its configuration. -/
def getPeerStatus (answer : Option Answer) : Walk :=
  match answer with
  | none => ⟨.returned [], []⟩
  | some answer =>
    let buffer := answer.data ++ zeros (bufferLength - answer.data.length)
    walk l toBase64 buffer answer.bufferSize ((l.peersCount buffer : ℤ).bmod (2 ^ 32)) (answer.bufferSize + 2)
      l.interfaceSize [] []

/-- What the function returns, where the assertion is not checked. -/
def Outcome.peerList : Outcome → List PeerStatus
  | returned peerList => peerList
  | _ => []

/-- What `deletePeer` asserts of the answers before and after. -/
def CountDecreases (before after : Option Answer) : Prop :=
  (getPeerStatus l toBase64 after).outcome.peerList.length < (getPeerStatus l toBase64 before).outcome.peerList.length

/-- The answer has the configuration, in the 1024 bytes that were asked for. -/
structure Answers (config : AdapterConfig l) (answer : Answer) : Prop where
  data : answer.data = config.bytes
  fits : config.bytes.length ≤ answer.bufferSize
  bufferSize : answer.bufferSize ≤ 1024

def statuses (peers : List (PeerBlob l)) : List PeerStatus :=
  (peers.filter fun p => accepted l p.peer).map fun p => status toBase64 p.peer

/-- The accepted peers are returned, nothing is read behind the peers, and the count decreases with each accepted peer
that is deleted. -/
structure Correct (config : AdapterConfig l) (answer : Answer) : Prop where
  statuses : (getPeerStatus l toBase64 (some answer)).outcome = .returned (statuses l toBase64 config.peers)
  within : ∀ index ∈ (getPeerStatus l toBase64 (some answer)).reads, index < config.bytes.length
  decreases : ∀ p ∈ config.peers, accepted l p.peer → ∀ (rest : AdapterConfig l) (after : Answer),
    rest.peers = config.peers.filter (·.peer.publicKey ≠ p.peer.publicKey) → Answers l rest after →
      CountDecreases l toBase64 (some answer) (some after)

variable {l toBase64} {config : AdapterConfig l} {answer : Answer} {before more buffer : Bytes} {p : PeerBlob l}
  {peers : List (PeerBlob l)} {peerList : List PeerStatus} {index : ℤ} {reads : List ℤ} {bufferSize peerCount : ℤ}
  {fuel : ℕ}

lemma statuses_cons (p : PeerBlob l) (peers : List (PeerBlob l)) :
    statuses l toBase64 (p :: peers) = statuses l toBase64 [p] ++ statuses l toBase64 peers := by
  rw [statuses, List.filter_cons]
  by_cases h : accepted l p.peer <;> simp [statuses, h]

variable (toBase64) in
lemma length_statuses_le (peers : List (PeerBlob l)) : (statuses l toBase64 peers).length ≤ peers.length := by
  rw [statuses, List.length_map]
  exact List.length_filter_le ..

variable (toBase64) in
lemma length_statuses_eq : (statuses l toBase64 peers).length = peers.length ↔ ∀ p ∈ peers, accepted l p.peer := by
  rw [statuses, List.length_map, List.length_filter_eq_length_iff]
  simp

lemma PeerBlob.length_bytes (p : PeerBlob l) :
    p.bytes.length = l.peerSize + l.allowedIpSize * p.peer.allowedIPsCount := by
  have hf : p.allowedIPs.flatten.length = l.allowedIpSize * p.allowedIPs.length := by
    rw [List.length_flatten, List.map_congr_left p.length_allowedIPs, List.map_const', List.sum_replicate, smul_eq_mul,
      mul_comm]
  rw [PeerBlob.bytes, List.length_append, p.length_record, hf, PeerBlob.peer, p.count]

lemma peer_drop (p : PeerBlob l) : l.peer ((before ++ (p.bytes ++ more)).drop before.length) = p.peer := by
  rw [List.drop_left, PeerBlob.bytes, List.append_assoc, l.peer_append _ _ p.length_record, PeerBlob.peer]

lemma walk_peer (hd : buffer = before ++ (p.bytes ++ more)) (hs : (before ++ p.bytes).length ≤ bufferSize)
    (hb : bufferSize ≤ 1024) :
    walk l toBase64 buffer bufferSize peerCount (fuel + 1) before.length peerList reads =
      if ((peerList ++ statuses l toBase64 [p]).length : ℤ) < peerCount then
        walk l toBase64 buffer bufferSize peerCount fuel (before ++ p.bytes).length
          (peerList ++ statuses l toBase64 [p]) (reads ++ [(before.length : ℤ)])
      else ⟨.returned (peerList ++ statuses l toBase64 [p]), reads ++ [(before.length : ℤ)]⟩ := by
  have hp : peerList ++ statuses l toBase64 [p] =
      if accepted l p.peer then peerList ++ [status toBase64 p.peer] else peerList := by
    by_cases h : accepted l p.peer <;> simp [statuses, h]
  have hl := p.length_bytes
  have hpos := l.peerSize_pos
  have hn : (before.length : ℤ) + l.peerSize + l.allowedIpSize * p.peer.allowedIPsCount =
      (before ++ p.bytes).length := by
    rw [List.length_append, hl]
    push_cast
    ring
  have hi : ¬ (before.length : ℤ) > bufferSize := by
    rw [List.length_append] at hs
    push_cast at hs
    omega
  have hr : ¬ ((before.length : ℤ) < 0 ∨ (buffer.length : ℤ) ≤ before.length) := by
    rw [hd]
    simp only [List.length_append]
    omega
  rw [walk, if_neg hi, if_neg hr]
  dsimp only
  rw [Int.toNat_natCast, hd, peer_drop, hn, hp, Int.bmod_eq_of_le (by norm_num; omega) (by norm_num; omega)]

lemma walk_peers (before : Bytes) (peerList : List PeerStatus) (reads : List ℤ)
    (hd : buffer = before ++ (peers.flatMap PeerBlob.bytes ++ more))
    (hs : (before ++ peers.flatMap PeerBlob.bytes).length ≤ bufferSize) (hb : bufferSize ≤ 1024)
    (hc : (peerList.length + (statuses l toBase64 peers).length : ℤ) < peerCount) : ∃ offsets,
      walk l toBase64 buffer bufferSize peerCount (fuel + peers.length) before.length peerList reads =
        walk l toBase64 buffer bufferSize peerCount fuel (before ++ peers.flatMap PeerBlob.bytes).length
          (peerList ++ statuses l toBase64 peers) (reads ++ offsets) ∧
      ∀ index ∈ offsets, index < (before ++ peers.flatMap PeerBlob.bytes).length := by
  induction peers generalizing before peerList reads with
  | nil => exact ⟨[], by simp [statuses], by simp⟩
  | cons p peers ih =>
    rw [List.flatMap_cons] at hd hs ⊢
    rw [statuses_cons, List.length_append] at hc
    push_cast at hc
    rw [← List.append_assoc] at hs ⊢
    rw [List.append_assoc p.bytes] at hd
    obtain ⟨offsets, he, ho⟩ := ih (before ++ p.bytes) (peerList ++ statuses l toBase64 [p])
      (reads ++ [(before.length : ℤ)]) (by rw [hd, List.append_assoc]) hs
      (by rw [List.length_append]; push_cast; omega)
    have hp : (before ++ p.bytes).length ≤ bufferSize := by
      rw [List.length_append] at hs
      push_cast at hs ⊢
      omega
    refine ⟨(before.length : ℤ) :: offsets, ?_, ?_⟩
    · rw [List.length_cons, ← Nat.add_assoc, walk_peer hd hp hb, if_pos, he, statuses_cons p peers]
      · simp only [List.append_assoc, List.singleton_append]
      · rw [List.length_append]
        push_cast
        omega
    · intro index hi
      rcases List.mem_cons.mp hi with rfl | hi
      · have hl := p.length_bytes
        have hpos := l.peerSize_pos
        simp only [List.length_append]
        push_cast
        omega
      · exact ho index hi

lemma mem_reads_walk (h : index ∈ reads) (next : ℤ) :
    index ∈ (walk l toBase64 buffer bufferSize peerCount fuel next peerList reads).reads := by
  induction fuel generalizing next peerList reads with
  | zero => exact h
  | succ fuel ih =>
    rw [walk]
    dsimp only
    generalize (if accepted l _ then _ else peerList) = list
    split_ifs
    · exact h
    · exact h
    · exact ih (List.mem_append_left _ h) _
    · exact List.mem_append_left _ h

lemma mem_reads_walk_self (h0 : 0 ≤ index) (hs : index ≤ bufferSize) (hb : index < buffer.length) :
    index ∈ (walk l toBase64 buffer bufferSize peerCount (fuel + 1) index peerList reads).reads := by
  rw [walk, if_neg (by omega), if_neg (by omega)]
  dsimp only
  generalize (if accepted l _ then _ else peerList) = list
  split_ifs
  · exact mem_reads_walk (List.mem_append_right _ List.mem_cons_self) _
  · exact List.mem_append_right _ List.mem_cons_self

lemma length_peers_le (peers : List (PeerBlob l)) : peers.length ≤ (peers.flatMap PeerBlob.bytes).length := by
  induction peers with
  | nil => exact Nat.zero_le _
  | cons p peers ih =>
    have hl := p.length_bytes
    have hpos := l.peerSize_pos
    rw [List.flatMap_cons, List.length_append, List.length_cons]
    omega

lemma AdapterConfig.length_bytes (config : AdapterConfig l) :
    config.bytes.length = l.interfaceSize + (config.peers.flatMap PeerBlob.bytes).length := by
  rw [AdapterConfig.bytes, List.length_append, config.length_header]

lemma getPeerStatus_eq (h : Answers l config answer) : getPeerStatus l toBase64 (some answer) =
    walk l toBase64 (config.bytes ++ zeros (bufferLength - config.bytes.length)) answer.bufferSize config.peers.length
      (answer.bufferSize + 2) config.header.length [] [] := by
  have hl := length_peers_le config.peers
  have hb := config.length_bytes
  have hf := h.fits
  have hs := h.bufferSize
  have hc : l.peersCount (config.bytes ++ zeros (bufferLength - config.bytes.length)) = config.peers.length := by
    rw [AdapterConfig.bytes, List.append_assoc, l.peersCount_append _ _ config.length_header, config.count]
  rw [getPeerStatus, h.data, hc, config.length_header, Int.bmod_eq_of_le (by norm_num) (by norm_num; omega)]

lemma length_buffer (h : Answers l config answer) :
    (config.bytes ++ zeros (bufferLength - config.bytes.length)).length = bufferLength := by
  have hf := h.fits
  have hs := h.bufferSize
  rw [List.length_append, zeros, List.length_replicate, bufferLength]
  omega

lemma buffer_eq (config : AdapterConfig l) : config.bytes ++ zeros (bufferLength - config.bytes.length) =
    config.header ++ (config.peers.flatMap PeerBlob.bytes ++ zeros (bufferLength - config.bytes.length)) :=
  List.append_assoc ..

lemma reads_beyond (h : Answers l config answer)
    (hc : config.peers = [] ∨ ¬ ∀ p ∈ config.peers, accepted l p.peer) :
    (config.bytes.length : ℤ) ∈ (getPeerStatus l toBase64 (some answer)).reads := by
  have hf := h.fits
  have hs := h.bufferSize
  have hb : (config.bytes.length : ℤ) < (config.bytes ++ zeros (bufferLength - config.bytes.length)).length := by
    rw [length_buffer h, bufferLength]
    omega
  rw [getPeerStatus_eq h]
  rcases hc with hc | hc
  · have he : config.bytes = config.header := by rw [AdapterConfig.bytes, hc, List.flatMap_nil, List.append_nil]
    rw [he] at hb hf ⊢
    exact mem_reads_walk_self (Nat.cast_nonneg _) (by omega) hb
  · rw [← length_statuses_eq toBase64] at hc
    have hle := length_statuses_le toBase64 config.peers
    have hl := length_peers_le config.peers
    have hbytes := config.length_bytes
    obtain ⟨fuel, hfuel⟩ : ∃ fuel, answer.bufferSize + 2 = fuel + 1 + config.peers.length :=
      ⟨answer.bufferSize + 1 - config.peers.length, by omega⟩
    have hlt : (([] : List PeerStatus).length + (statuses l toBase64 config.peers).length : ℤ) < config.peers.length := by
      rw [List.length_nil]
      omega
    obtain ⟨offsets, he, -⟩ := walk_peers config.header [] [] (buffer_eq config) (Int.ofNat_le.mpr hf) (by omega) hlt
    rw [hfuel, he, ← AdapterConfig.bytes]
    exact mem_reads_walk_self (Nat.cast_nonneg _) (by omega) hb

lemma returned_of_accepted (h : Answers l config answer) (hn : config.peers ≠ [])
    (ha : ∀ p ∈ config.peers, accepted l p.peer) :
    (getPeerStatus l toBase64 (some answer)).outcome = .returned (statuses l toBase64 config.peers) ∧
      ∀ index ∈ (getPeerStatus l toBase64 (some answer)).reads, index < config.bytes.length := by
  have hf := h.fits
  have hs := h.bufferSize
  have hl := length_peers_le config.peers
  have hbytes := config.length_bytes
  have hc := (length_statuses_eq toBase64).mpr ha
  obtain ⟨front, p, hp⟩ : ∃ front p, config.peers = front ++ [p] :=
    ⟨_, _, (List.dropLast_append_getLast hn).symm⟩
  have hb : config.bytes = config.header ++ front.flatMap PeerBlob.bytes ++ p.bytes := by
    rw [AdapterConfig.bytes, hp, List.flatMap_append, List.flatMap_singleton, List.append_assoc]
  have hlen : config.peers.length = front.length + 1 := by rw [hp, List.length_append, List.length_singleton]
  have hfront := (length_statuses_eq toBase64).mpr fun q hq => ha q (hp ▸ List.mem_append_left _ hq)
  have hst : statuses l toBase64 front ++ statuses l toBase64 [p] = statuses l toBase64 config.peers := by
    rw [hp]
    simp [statuses]
  obtain ⟨fuel, hfuel⟩ : ∃ fuel, answer.bufferSize + 2 = fuel + 1 + front.length :=
    ⟨answer.bufferSize + 1 - front.length, by omega⟩
  have hd : config.bytes ++ zeros (bufferLength - config.bytes.length) =
      config.header ++ front.flatMap PeerBlob.bytes ++ (p.bytes ++ zeros (bufferLength - config.bytes.length)) := by
    rw [hb]
    simp only [List.append_assoc]
  have hfits : ((config.header ++ front.flatMap PeerBlob.bytes ++ p.bytes).length : ℤ) ≤ answer.bufferSize := by
    rw [← hb]
    omega
  have hlt : (([] : List PeerStatus).length + (statuses l toBase64 front).length : ℤ) < config.peers.length := by
    rw [List.length_nil]
    omega
  have hfrontFits : ((config.header ++ front.flatMap PeerBlob.bytes).length : ℤ) ≤ answer.bufferSize := by
    have hl : ∀ xs ys : Bytes, (xs ++ ys).length = xs.length + ys.length := fun _ _ => List.length_append
    rw [hl _ p.bytes] at hfits
    omega
  obtain ⟨offsets, he, ho⟩ := walk_peers config.header [] [] (hd.trans (List.append_assoc ..)) hfrontFits (by omega) hlt
  have hcount : ¬ (([] ++ statuses l toBase64 front ++ statuses l toBase64 [p]).length : ℤ) < config.peers.length := by
    rw [List.nil_append, hst, hc]
    exact lt_irrefl _
  rw [getPeerStatus_eq h, hfuel, he, walk_peer hd hfits (by omega), if_neg hcount]
  constructor
  · rw [List.nil_append, hst]
  · intro index hi
    have hpos := l.peerSize_pos
    have hp := p.length_bytes
    have hbl := congrArg List.length hb
    rw [List.length_append] at hbl
    rcases List.mem_append.mp hi with hi | hi
    · have := ho index hi
      omega
    · rw [List.mem_singleton.mp hi]
      omega

lemma returned_of_nil (h : Answers l config answer) (hn : config.peers = []) :
    (getPeerStatus l toBase64 (some answer)).outcome = .returned [] := by
  have hf := h.fits
  have hs := h.bufferSize
  have hle := l.peerSize_le
  have he : config.bytes = config.header := by rw [AdapterConfig.bytes, hn, List.flatMap_nil, List.append_nil]
  have hz : zeros (bufferLength - config.header.length) =
      zeros l.peerSize ++ zeros (bufferLength - config.header.length - l.peerSize) := by
    rw [zeros, zeros, zeros, List.replicate_append_replicate]
    congr 1
    rw [he] at hf
    rw [bufferLength]
    omega
  have hp : l.peer ((config.bytes ++ zeros (bufferLength - config.bytes.length)).drop config.header.length) =
      l.peer (zeros l.peerSize) := by
    rw [he, List.drop_left, hz, l.peer_append (zeros l.peerSize) _ (List.length_replicate ..)]
  have ha : ¬ accepted l (l.peer (zeros l.peerSize)) := by
    rw [accepted, l.peer_zeros]
    exact fun h => absurd h.1 (by decide)
  have hl := length_buffer h
  have hr : ¬ ((config.header.length : ℤ) < 0 ∨
      ((config.bytes ++ zeros (bufferLength - config.bytes.length)).length : ℤ) ≤ config.header.length) := by
    rw [hl, bufferLength]
    rw [he] at hf
    omega
  rw [getPeerStatus_eq h, walk, if_neg (by rw [he] at hf; omega), if_neg hr, Int.toNat_natCast, hp]
  dsimp only
  rw [if_neg ha, hn]
  rfl

lemma filter_length_lt {p : PeerBlob l} (hp : p ∈ peers) :
    (peers.filter (·.peer.publicKey ≠ p.peer.publicKey)).length < peers.length := by
  apply List.length_filter_lt_length_iff_exists.mpr
  exact ⟨p, hp, by simp⟩

/-- What is read is correct exactly if there is a peer and every peer is accepted. -/
theorem correct_iff_accepted (l : Layout) (toBase64 : Bytes → String) (config : AdapterConfig l) (answer : Answer)
    (h : Answers l config answer) :
    Correct l toBase64 config answer ↔ config.peers ≠ [] ∧ ∀ p ∈ config.peers, accepted l p.peer := by
  constructor
  · intro hc
    by_contra hn
    rw [not_and_or, ne_eq, not_not] at hn
    exact lt_irrefl _ (hc.within _ (reads_beyond h hn))
  · rintro ⟨hn, ha⟩
    obtain ⟨hret, hwithin⟩ := @returned_of_accepted l toBase64 config answer h hn ha
    refine ⟨hret, hwithin, fun p hp _ rest after hrest hafter => ?_⟩
    rw [CountDecreases, hret, Outcome.peerList, (length_statuses_eq toBase64).mpr ha]
    have hlt := filter_length_lt hp
    rw [← hrest] at hlt
    have harest : ∀ q ∈ rest.peers, accepted l q.peer := fun q hq => by
      rw [hrest] at hq
      exact ha q (List.mem_of_mem_filter hq)
    by_cases he : rest.peers = []
    · rw [returned_of_nil hafter he]
      rw [he] at hlt
      exact hlt
    · rw [(returned_of_accepted hafter he harest).1, Outcome.peerList, (length_statuses_eq toBase64).mpr harest]
      exact hlt

section Records

open Library.LittleEndian

def field (pos width : ℕ) (data : Bytes) : ℕ := value ((data.drop pos).take width)

lemma take_drop_append {pos width : ℕ} {record : Bytes} (h : pos + width ≤ record.length) (more : Bytes) :
    ((record ++ more).drop pos).take width = (record.drop pos).take width := by
  rw [List.drop_append_of_le_length (by omega), List.take_append_of_le_length]
  rw [List.length_drop]
  omega

lemma field_append {pos width : ℕ} {record : Bytes} (h : pos + width ≤ record.length) (more : Bytes) :
    field pos width (record ++ more) = field pos width record := by
  rw [field, take_drop_append h, field]

/-- The records as they are for 64 bits. -/
def wireguardNt : Layout where
  interfaceSize := 80
  peerSize := 136
  allowedIpSize := 24
  hasPublicKey := 1
  peersCount := field 72 4
  peer data := {
    flags := UInt32.ofNat (field 0 4 data)
    publicKey := (data.drop 8).take 32
    persistentKeepalive := UInt16.ofNat (field 72 2 data)
    txBytes := field 104 8 data
    rxBytes := field 112 8 data
    lastHandshake := field 120 8 data
    allowedIPsCount := field 128 4 data }
  peersCount_append record more h := field_append (by omega) more
  peer_append record more h := by
    simp only [field_append (show 0 + 4 ≤ record.length by omega), field_append (show 72 + 2 ≤ record.length by omega),
      field_append (show 104 + 8 ≤ record.length by omega), field_append (show 112 + 8 ≤ record.length by omega),
      field_append (show 120 + 8 ≤ record.length by omega), field_append (show 128 + 4 ≤ record.length by omega),
      take_drop_append (show 8 + 32 ≤ record.length by omega)]
  peer_zeros := by decide +kernel
  peerSize_pos := by decide
  peerSize_le := by decide

end Records

def plainPeer (flags keepalive allowedIPsCount : UInt8) : Bytes :=
  [flags] ++ zeros 71 ++ [keepalive] ++ zeros 55 ++ [allowedIPsCount] ++ zeros 7

def acceptedPeer : PeerBlob wireguardNt := ⟨plainPeer 1 60 0, [], rfl, by simp, by decide +kernel⟩

def otherPeer : PeerBlob wireguardNt := ⟨plainPeer 1 0 0, [], rfl, by simp, by decide +kernel⟩

/-- An accepted peer with two allowed addresses. -/
def routedPeer : PeerBlob wireguardNt :=
  ⟨plainPeer 1 60 2, [zeros 24, [10, 64] ++ zeros 18 ++ [2, 0, 10, 0]], rfl, by decide, by decide +kernel⟩

def onlyAccepted : AdapterConfig wireguardNt :=
  ⟨zeros 72 ++ [2] ++ zeros 7, [routedPeer, acceptedPeer], rfl, by decide +kernel⟩

def mixture : AdapterConfig wireguardNt :=
  ⟨zeros 72 ++ [2] ++ zeros 7, [acceptedPeer, otherPeer], rfl, by decide +kernel⟩

def answered (config : AdapterConfig wireguardNt) : Answer := ⟨config.bytes, config.bytes.length⟩

lemma answers_answered {config : AdapterConfig wireguardNt} (h : config.bytes.length ≤ 1024) :
    Answers wireguardNt config (answered config) := ⟨rfl, le_rfl, h⟩

theorem correct_onlyAccepted : Correct wireguardNt (fun _ => "") onlyAccepted (answered onlyAccepted) ↔
    onlyAccepted.peers ≠ [] ∧ ∀ p ∈ onlyAccepted.peers, accepted wireguardNt p.peer :=
  correct_iff_accepted wireguardNt (fun _ => "") onlyAccepted (answered onlyAccepted)
    (answers_answered (by decide +kernel))

/-- With one accepted peer and another one nothing is returned. -/
theorem not_correct_mixture : Answers wireguardNt mixture (answered mixture) ∧
    (statuses wireguardNt (fun _ => "") mixture.peers).length = 1 ∧
    (getPeerStatus wireguardNt (fun _ => "") (some (answered mixture))).outcome.peerList.length = 0 ∧
    ¬ Correct wireguardNt (fun _ => "") mixture (answered mixture) := by
  have ha : Answers wireguardNt mixture (answered mixture) := answers_answered (by decide +kernel)
  refine ⟨ha, by decide +kernel, by decide +kernel, fun h => ?_⟩
  have hm : (mixture.bytes.length : ℤ) ∈ (getPeerStatus wireguardNt (fun _ => "") (some (answered mixture))).reads :=
    reads_beyond ha (Or.inr (by decide +kernel))
  exact lt_irrefl _ (h.within _ hm)

end VpnClient.Windows.PeerRecords
