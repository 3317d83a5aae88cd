import Mathlib.Data.Nat.Size
import VpnClient.Library.Runs
import VpnClient.Macos.WireguardUtilsMacos

/-! The peers of the tunnel on macOS: those that were configured, and those that the daemon is told of. -/

namespace VpnClient.Macos.Uapi

open Address Library.Lines Library.Runs Library.TextCodes

inductive Event (τ : Type) where
  | addInterface (config : InterfaceConfig) (launch : Launch)
  | deleteInterface
  | updatePeer (config : InterfaceConfig) (pieces : Option (List Text))
  | deletePeer (config : InterfaceConfig) (pieces : Option (List Text))
  | getPeerStatus (pieces : Option (List Text))
  | moved (after : τ)
  | exited

section Runs

variable {τ : Type} (P : Process τ) (addressText : QHostAddress → Text)

namespace WireguardUtilsMacos

def step (s : WireguardUtilsMacos τ) : Event τ → WireguardUtilsMacos τ
  | .addInterface config launch => (s.addInterface P config launch).1
  | .deleteInterface => s.deleteInterface.1
  | .updatePeer config pieces => (s.updatePeer P addressText config pieces).1
  | .deletePeer config pieces => (s.deletePeer P config pieces).1
  | .getPeerStatus pieces => (s.getPeerStatus P pieces).1
  | .moved after => { s with tunnel := s.tunnel.map fun _ => after }
  | .exited => { s with tunnel := none }

end WireguardUtilsMacos

/-- The peers as the daemon has configured them since the interface is there. A command that reaches the process
counts, with or without its reply. -/
def observe (s : WireguardUtilsMacos τ) : Event τ → Table → Table
  | .addInterface _ (.named _), t => if s.tunnel.isSome then t else {}
  | .addInterface _ _, t => t
  | .deleteInterface, t => t
  | .updatePeer config pieces, t => if (endpoint config).isSome ∧ pieces.isSome then t.update config else t
  | .deletePeer config pieces, t => if pieces.isSome then t.remove config else t
  | .getPeerStatus _, t => t
  | .moved _, t => t
  | .exited, t => t

/-- The process takes the lines of a command whole, and its own key is not the key of the peer. -/
structure Obeys (d : τ) (config : InterfaceConfig) (pairs : List (Text × Text)) : Prop where
  takes : P.Takes d pairs
  key : fromBase64 config.serverPublicKey ≠ P.publicKey d

/-- The texts of a command can be sent, and the process reads them as they are meant and takes them. -/
def Accepted (s : WireguardUtilsMacos τ) : Event τ → Prop
  | .updatePeer config _ => Sendable addressText config ∧ P.Reads addressText config ∧
    ∀ d e, s.tunnel = some d → endpoint config = some e → Obeys P d config (peerPairs addressText config e)
  | .deletePeer config _ => ∀ d, s.tunnel = some d → Obeys P d config (removePairs config)
  | .moved after => ∀ d, s.tunnel = some d → P.moves d after
  | _ => True

/-- The process has the peers of the table and their allowed networks. -/
def Inv (s : WireguardUtilsMacos τ) (t : Table) : Prop := ∀ d, s.tunnel = some d → P.table d = t

end Runs

section Steps

variable {τ : Type} {P : Process τ} {addressText : QHostAddress → Text} {config : InterfaceConfig}
  {s : WireguardUtilsMacos τ} {t : Table} {pieces : Option (List Text)} {event : Event τ}

lemma tunnel_uapiCommand (command : Text) :
    (s.uapiCommand P command pieces).1.tunnel =
      if pieces.isSome then s.tunnel.map (P.receive (written command)) else s.tunnel := by
  rw [WireguardUtilsMacos.uapiCommand]
  dsimp only
  split <;> rfl

lemma Inv.uapiCommand (h : Inv P s t) (command : Text) (pieces : Option (List Text)) {after : Table}
    (hd : ∀ d, s.tunnel = some d → P.table d = t → P.table (P.receive (written command) d) = after) :
    Inv P (s.uapiCommand P command pieces).1 (if pieces.isSome then after else t) := by
  intro d hd'
  rw [tunnel_uapiCommand] at hd'
  split at hd'
  case isTrue hp =>
    rw [if_pos hp]
    obtain ⟨before, hb, rfl⟩ := Option.map_eq_some_iff.mp hd'
    exact hd before hb (h before hb)
  case isFalse hp =>
    rw [if_neg hp]
    exact h d hd'

lemma Inv.of_tunnel {other : WireguardUtilsMacos τ} (h : Inv P s t) (ht : other.tunnel = s.tunnel) :
    Inv P other t := by
  intro d hd
  rw [ht] at hd
  exact h d hd

lemma inv_of_none (hs : s.tunnel = none) : Inv P s t := by
  intro d hd
  rw [hs] at hd
  cases hd

variable (hP : P.Documented)
include hP

lemma Inv.addInterface {launch : Launch} (h : Inv P s t) :
    Inv P (s.step P addressText (.addInterface config launch)) (observe s (.addInterface config launch) t) := by
  by_cases hs : s.tunnel.isSome
  · have he : s.addInterface P config launch = (s, false) := if_pos hs
    rw [WireguardUtilsMacos.step, he]
    cases launch with
    | named pieces => rwa [observe, if_pos hs]
    | notStarted => exact h
    | unnamed => exact h
  · rw [WireguardUtilsMacos.step]
    cases launch with
    | notStarted => rwa [WireguardUtilsMacos.addInterface, if_neg hs]
    | unnamed => rwa [WireguardUtilsMacos.addInterface, if_neg hs]
    | named pieces =>
      have hstart : Inv P { s with tunnel := some P.start, rtmonitor := true } {} := by
        intro d hd
        obtain rfl := Option.some.inj hd
        exact hP.start
      have hc := hstart.uapiCommand (interfaceMessage config) pieces fun _ _ hd => receive_interfaceMessage hP hd
      rw [WireguardUtilsMacos.addInterface, if_neg hs, observe, if_neg hs]
      simpa only [ite_self] using hc

lemma Inv.updatePeer (h : Inv P s t) (ha : Accepted P addressText s (.updatePeer config pieces)) :
    Inv P (s.step P addressText (.updatePeer config pieces)) (observe s (.updatePeer config pieces) t) := by
  obtain ⟨hsend, hreads, hobeys⟩ := ha
  rw [WireguardUtilsMacos.step, WireguardUtilsMacos.updatePeer, observe]
  cases he : endpoint config with
  | none => exact h
  | some e =>
    have hc (s' : WireguardUtilsMacos τ) (ht : s'.tunnel = s.tunnel) :=
      (h.of_tunnel ht).uapiCommand (peerMessage addressText config e) pieces fun d hd htable => by
        have ho := hobeys d e (ht.symm.trans hd) he
        rw [receive_peerMessage hP hsend hreads he ho.key ho.takes, htable]
    simp only [Option.isSome_some, true_and]
    apply hc
    split <;> rfl

lemma Inv.deletePeer (h : Inv P s t) (ha : Accepted P addressText s (.deletePeer config pieces)) :
    Inv P (s.step P addressText (.deletePeer config pieces)) (observe s (.deletePeer config pieces) t) := by
  have hc (s' : WireguardUtilsMacos τ) (ht : s'.tunnel = s.tunnel) :=
    (h.of_tunnel ht).uapiCommand (removeMessage config) pieces fun d hd htable => by
      have ho := ha d (ht.symm.trans hd)
      rw [receive_removeMessage hP ho.key ho.takes, htable]
  apply hc
  split <;> rfl

lemma table_get (d : τ) : P.table (P.receive (written statusMessage) d) = P.table d := by
  rw [Process.table, (hP.get d).1, (hP.get d).2, Process.table]

lemma Inv.step (h : Inv P s t) (ha : Accepted P addressText s event) :
    Inv P (s.step P addressText event) (observe s event t) := by
  cases event with
  | addInterface config launch => exact h.addInterface hP
  | deleteInterface =>
    apply inv_of_none
    rw [WireguardUtilsMacos.step, WireguardUtilsMacos.deleteInterface]
    dsimp only
    split
    case isTrue hn => exact Option.isNone_iff_eq_none.mp hn
    case isFalse => rfl
  | updatePeer config pieces => exact h.updatePeer hP ha
  | deletePeer config pieces => exact h.deletePeer hP ha
  | getPeerStatus pieces =>
    have hc := h.uapiCommand statusMessage pieces fun d _ htable => (table_get hP d).trans htable
    rwa [ite_self] at hc
  | moved after =>
    intro d hd
    obtain ⟨before, hb, rfl⟩ := Option.map_eq_some_iff.mp hd
    exact (hP.moves before after (ha before hb)).trans (h before hb)
  | exited => exact inv_of_none rfl

end Steps

/-! The report of the process on its peers. -/

def reported : List Text :=
  ["public_key".toList, "last_handshake_time_sec".toList, "last_handshake_time_nsec".toList, "tx_bytes".toList,
    "rx_bytes".toList]

def Peer.counters (p : Peer) : List (Text × Text) :=
  [("last_handshake_time_sec".toList, decimal p.handshakeSec),
    ("last_handshake_time_nsec".toList, decimal p.handshakeNsec), ("tx_bytes".toList, decimal p.txBytes),
    ("rx_bytes".toList, decimal p.rxBytes)]

/-- A peer and its lines after the one with its key. -/
structure PeerReport where
  key : Key
  peer : Peer
  fields : List (Text × Text)

def PeerReport.pairs (r : PeerReport) : List (Text × Text) := ("public_key".toList, toHex r.key) :: r.fields

/-- The lines that the daemon makes nothing of. -/
def IsOther (p : Text × Text) : Prop := IsLine p ∧ p.1 ∉ reported

/-- A peer has its four counters, in any order and among other lines. -/
structure PeerReport.IsWhole (r : PeerReport) : Prop where
  key : r.key ≠ []
  fields : ∃ others, r.fields.Perm (r.peer.counters ++ others) ∧ ∀ p ∈ others, IsOther p

/-- The numbers of a peer are read without loss. -/
structure Peer.Small (p : Peer) : Prop where
  handshakeSec : p.handshakeSec < 2 ^ 63
  handshakeNsec : p.handshakeNsec < 10 ^ 9
  txBytes : p.txBytes < 2 ^ 53
  rxBytes : p.rxBytes < 2 ^ 53

/-- The peers of the process one after another, behind the lines about the interface. -/
structure IsReport {τ : Type} (P : Process τ) (d : τ) (front : List (Text × Text)) (reports : List PeerReport) :
    Prop where
  others : ∀ p ∈ front, IsOther p
  blanks : ∀ p ∈ front, ∀ c ∈ p.1.head?, isSpace c = false
  whole : ∀ r ∈ reports, r.IsWhole
  keys : (reports.map (·.key)).Nodup
  peers : ∀ key peer, (∃ r ∈ reports, r.key = key ∧ r.peer = peer) ↔ P.peers d key = some peer

def reportPairs (front : List (Text × Text)) (reports : List PeerReport) : List (Text × Text) :=
  front ++ reports.flatMap PeerReport.pairs ++ [("errno".toList, decimal 0)]

def reportText (front : List (Text × Text)) (reports : List PeerReport) : Text :=
  joined ((reportPairs front reports).map pair) ++ ['\n']

def PeerReport.status (r : PeerReport) : PeerStatus where
  pubkey := toBase64 r.key
  handshake := r.peer.handshakeSec * 1000 + (r.peer.handshakeNsec / 1000000 : ℕ)
  rxBytes := r.peer.rxBytes
  txBytes := r.peer.txBytes

section Numbers

variable {n bits : ℕ}

lemma nearestDouble_of_lt (h : n < 2 ^ 53) : nearestDouble n = n := by
  have he : n.size - 53 = 0 := Nat.sub_eq_zero_of_le (Nat.size_le.mpr h)
  simp [nearestDouble, he, Nat.mod_one]

lemma not_isSpace_decimal (n : ℕ) : ∀ c ∈ decimal n, isSpace c = false := by
  intro c hc
  obtain ⟨hlo, hhi⟩ := digitChar_mem n c hc
  have hb : c ≠ ' ' := by
    rintro rfl
    revert hlo
    decide
  simp only [isSpace, Bool.or_eq_false_iff, Bool.and_eq_false_iff, beq_eq_false_iff_ne, decide_eq_false_iff_not]
  exact ⟨⟨⟨hb, Or.inr (by omega)⟩, by omega⟩, by omega⟩

lemma trimmed_append {text blanks : Text} (hh : ∀ c ∈ text.head?, isSpace c = false)
    (hl : ∀ c ∈ text.getLast?, isSpace c = false) (hb : ∀ c ∈ blanks, isSpace c = true) :
    trimmed (text ++ blanks) = text := by
  have hd : (text ++ blanks).dropWhile isSpace = if text = [] then [] else text ++ blanks := by
    cases text with
    | nil => simpa [List.dropWhile_eq_nil_iff] using hb
    | cons c text => rw [List.cons_append, List.dropWhile_cons_of_neg (by simp [hh c rfl]), if_neg (by simp)]
  rw [trimmed, trim, hd]
  split
  case isTrue hn =>
    subst hn
    rfl
  case isFalse hn =>
    rw [List.rdropWhile, List.reverse_append, List.dropWhile_append_of_pos (by simpa using hb), ← List.rdropWhile,
      List.rdropWhile_eq_self_iff]
    intro hn
    rw [hl _ (List.getLast?_eq_some_getLast hn)]
    decide

lemma signed_decimal (n : ℕ) : signed (decimal n) = some (n : ℤ) := by
  have hs := not_isSpace_decimal n
  have ht : trimmed (decimal n) = decimal n := by
    have h := trimmed_append (fun c hc => hs c (List.mem_of_mem_head? hc))
      (fun c hc => hs c (List.mem_of_getLast? hc)) (fun c (hc : c ∈ ([] : Text)) => absurd hc List.not_mem_nil)
    rwa [List.append_nil] at h
  have hm : (decimal n).head? ≠ some '-' := fun h => by
    have hd := digitChar_mem n _ (List.mem_of_mem_head? h)
    revert hd
    decide
  have hp : (decimal n).head? ≠ some '+' := fun h => by
    have hd := digitChar_mem n _ (List.mem_of_mem_head? h)
    revert hd
    decide
  rw [signed, ht]
  split
  case h_1 digits he => exact absurd (by rw [he]; rfl) hm
  case h_2 digits he => exact absurd (by rw [he]; rfl) hp
  case h_3 =>
    rw [ofDecimal_decimal]
    rfl

lemma toLongLong_decimal (h : n < 2 ^ 63) : toLongLong (decimal n) = n := by
  rw [toLongLong, toInteger, signed_decimal]
  exact if_pos ⟨by omega, by exact_mod_cast h⟩

lemma toDouble_decimal (h : n < 2 ^ 53) : toDouble (decimal n) = n := by
  rw [toDouble, signed_decimal]
  exact congrArg _ (nearestDouble_of_lt h)

end Numbers

section Readings

variable {st : PeerStatus} {list : List PeerStatus} {p q : Text × Text} {fields others : List (Text × Text)}
  {peer : Peer} {r : PeerReport} {value : Text}

/-- What a line of a peer does to its status. -/
def statusField (st : PeerStatus) (p : Text × Text) : PeerStatus where
  pubkey := st.pubkey
  handshake := st.handshake + (if p.1 = "last_handshake_time_sec".toList then toLongLong p.2 * 1000 else 0) +
    if p.1 = "last_handshake_time_nsec".toList then (toLongLong p.2).tdiv 1000000 else 0
  rxBytes := if p.1 = "rx_bytes".toList then toDouble p.2 else st.rxBytes
  txBytes := if p.1 = "tx_bytes".toList then toDouble p.2 else st.txBytes

lemma statusLine_field (hp : IsLine p) (hn : p.1 ≠ "public_key".toList) :
    statusLine (list, st) (pair p) = (list, statusField st p) := by
  rw [statusLine, hp.keyValue]
  simp only [if_neg hn, statusField]
  split_ifs <;> simp

lemma statusLine_public_key (hv : '\n' ∉ value) : statusLine (list, st) (pair ("public_key".toList, value)) =
    (if st.pubkey ≠ [] then list ++ [st] else list, { pubkey := toBase64 (fromHex value) }) := by
  rw [statusLine, (isLine (by decide) hv).keyValue]
  rfl

lemma statusField_other (hp : p.1 ∉ reported) : statusField st p = st := by
  simp only [reported, List.mem_cons, List.not_mem_nil, or_false, not_or] at hp
  obtain ⟨-, h₁, h₂, h₃, h₄⟩ := hp
  rw [statusField, if_neg h₁, if_neg h₂, if_neg h₃, if_neg h₄, Int.add_zero, Int.add_zero]

lemma statusField_sec (hp : p.1 = "last_handshake_time_sec".toList) :
    statusField st p = { st with handshake := st.handshake + toLongLong p.2 * 1000 } := by
  have h₂ : p.1 ≠ "last_handshake_time_nsec".toList := by rw [hp]; decide
  have h₃ : p.1 ≠ "rx_bytes".toList := by rw [hp]; decide
  have h₄ : p.1 ≠ "tx_bytes".toList := by rw [hp]; decide
  rw [statusField, if_pos hp, if_neg h₂, if_neg h₃, if_neg h₄, Int.add_zero]

lemma statusField_nsec (hp : p.1 = "last_handshake_time_nsec".toList) :
    statusField st p = { st with handshake := st.handshake + (toLongLong p.2).tdiv 1000000 } := by
  have h₁ : p.1 ≠ "last_handshake_time_sec".toList := by rw [hp]; decide
  have h₃ : p.1 ≠ "rx_bytes".toList := by rw [hp]; decide
  have h₄ : p.1 ≠ "tx_bytes".toList := by rw [hp]; decide
  rw [statusField, if_neg h₁, if_pos hp, if_neg h₃, if_neg h₄, Int.add_zero]

lemma statusField_rx (hp : p.1 = "rx_bytes".toList) : statusField st p = { st with rxBytes := toDouble p.2 } := by
  have h₁ : p.1 ≠ "last_handshake_time_sec".toList := by rw [hp]; decide
  have h₂ : p.1 ≠ "last_handshake_time_nsec".toList := by rw [hp]; decide
  have h₄ : p.1 ≠ "tx_bytes".toList := by rw [hp]; decide
  rw [statusField, if_neg h₁, if_neg h₂, if_pos hp, if_neg h₄, Int.add_zero, Int.add_zero]

lemma statusField_tx (hp : p.1 = "tx_bytes".toList) : statusField st p = { st with txBytes := toDouble p.2 } := by
  have h₁ : p.1 ≠ "last_handshake_time_sec".toList := by rw [hp]; decide
  have h₂ : p.1 ≠ "last_handshake_time_nsec".toList := by rw [hp]; decide
  have h₃ : p.1 ≠ "rx_bytes".toList := by rw [hp]; decide
  rw [statusField, if_neg h₁, if_neg h₂, if_neg h₃, if_pos hp, Int.add_zero, Int.add_zero]

lemma statusField_comm (h : p.1 = q.1 → p = q) :
    statusField (statusField st p) q = statusField (statusField st q) p := by
  by_cases hpq : p = q
  · rw [hpq]
  · have hn : p.1 ≠ q.1 := fun he => hpq (h he)
    simp only [statusField, PeerStatus.mk.injEq, true_and]
    refine ⟨by omega, ?_, ?_⟩
    · split_ifs with hq hp hp
      · exact absurd (hp.trans hq.symm) hn
      · rfl
      · rfl
      · rfl
    · split_ifs with hq hp hp
      · exact absurd (hp.trans hq.symm) hn
      · rfl
      · rfl
      · rfl

lemma foldl_fields (h : ∀ p ∈ fields, IsLine p ∧ p.1 ≠ "public_key".toList) :
    (fields.map pair).foldl statusLine (list, st) = (list, fields.foldl statusField st) := by
  induction fields generalizing st with
  | nil => rfl
  | cons p fields ih =>
    obtain ⟨hp, hf⟩ := List.forall_mem_cons.mp h
    rw [List.map_cons, List.foldl_cons, List.foldl_cons, statusLine_field hp.1 hp.2, ih hf]

lemma mem_counters (hp : p ∈ peer.counters) : p.1 ∈ reported.tail ∧ ∃ n, p.2 = decimal n := by
  simp only [Peer.counters, List.mem_cons, List.not_mem_nil, or_false] at hp
  rcases hp with rfl | rfl | rfl | rfl <;> exact ⟨by simp [reported], _, rfl⟩

lemma isLine_of_mem_counters (hp : p ∈ peer.counters) : IsLine p ∧ p.1 ≠ "public_key".toList := by
  have hnames : ∀ name ∈ reported.tail, IsName name ∧ name ≠ "public_key".toList := by decide
  obtain ⟨hn, n, hv⟩ := mem_counters hp
  refine ⟨⟨(hnames _ hn).1, ?_⟩, (hnames _ hn).2⟩
  rw [hv]
  exact newline_decimal n

lemma names_counters (peer : Peer) : peer.counters.map Prod.fst = reported.tail := rfl

lemma IsOther.isLine (h : IsOther p) : IsLine p ∧ p.1 ≠ "public_key".toList := by
  refine ⟨h.1, fun he => h.2 ?_⟩
  rw [he]
  exact List.mem_cons_self

lemma foldl_others (ho : ∀ p ∈ others, IsOther p) (st : PeerStatus) : others.foldl statusField st = st := by
  induction others generalizing st with
  | nil => rfl
  | cons p others ih =>
    obtain ⟨hp, ho⟩ := List.forall_mem_cons.mp ho
    rw [List.foldl_cons, statusField_other hp.2, ih ho]

lemma foldl_statusLine_others (ho : ∀ p ∈ others, IsOther p) (s : List PeerStatus × PeerStatus) :
    (others.map pair).foldl statusLine s = s := by
  obtain ⟨list, st⟩ := s
  rw [foldl_fields fun p hp => (ho p hp).isLine, foldl_others ho]

lemma foldl_report (hf : fields.Perm (peer.counters ++ others)) (ho : ∀ p ∈ others, IsOther p) (hs : peer.Small)
    (key : Key) : fields.foldl statusField { pubkey := toBase64 key } = (PeerReport.mk key peer fields).status := by
  have hcomm : ∀ p ∈ fields, ∀ q ∈ fields, ∀ st,
      statusField (statusField st p) q = statusField (statusField st q) p := by
    intro p hp q hq st
    rw [hf.mem_iff, List.mem_append] at hp hq
    rcases hp with hp | hp
    · rcases hq with hq | hq
      · exact statusField_comm fun he => List.inj_on_of_nodup_map (by rw [names_counters]; decide) hp hq he
      · rw [statusField_other (ho q hq).2, statusField_other (ho q hq).2]
    · rw [statusField_other (ho p hp).2, statusField_other (ho p hp).2]
  rw [hf.foldl_eq' hcomm, List.foldl_append, foldl_others ho]
  rw [Peer.counters, List.foldl_cons, statusField_sec rfl, List.foldl_cons, statusField_nsec rfl, List.foldl_cons,
    statusField_tx rfl, List.foldl_cons, statusField_rx rfl, List.foldl_nil, toLongLong_decimal hs.handshakeSec,
    toLongLong_decimal (hs.handshakeNsec.trans (by decide)), toDouble_decimal hs.txBytes,
    toDouble_decimal hs.rxBytes, PeerReport.status, Int.zero_add]
  rfl

end Readings

section Replies

variable {τ : Type} {P : Process τ} {d : τ} {front : List (Text × Text)} {reports : List PeerReport} {r : PeerReport}
  {key : Key}
  {st : PeerStatus} {list : List PeerStatus} {text reply more : Text} {lines pieces : List Text} {t : Table}

/-- The list with the status of the last peer, if there is one. -/
def finished (s : List PeerStatus × PeerStatus) : List PeerStatus := if s.2.pubkey ≠ [] then s.1 ++ [s.2] else s.1

lemma toBase64_ne_nil (h : key ≠ []) : toBase64 key ≠ [] := by
  cases key with
  | nil => exact absurd rfl h
  | cons a key =>
    cases key with
    | nil => exact List.cons_ne_nil _ _
    | cons b key =>
      cases key with
      | nil => exact List.cons_ne_nil _ _
      | cons c key => exact List.cons_ne_nil _ _

lemma toBase64_injective : Function.Injective toBase64 := Function.LeftInverse.injective fromBase64_toBase64

lemma PeerReport.IsWhole.isLine (h : r.IsWhole) : ∀ p ∈ r.fields, IsLine p ∧ p.1 ≠ "public_key".toList := by
  obtain ⟨others, hf, ho⟩ := h.fields
  intro p hp
  rcases List.mem_append.mp (hf.mem_iff.mp hp) with hp | hp
  · exact isLine_of_mem_counters hp
  · exact (ho p hp).isLine

lemma finished_reports (hw : ∀ r ∈ reports, r.IsWhole) (hs : ∀ r ∈ reports, r.peer.Small) :
    finished (((reports.flatMap PeerReport.pairs).map pair).foldl statusLine (list, st)) =
      finished (list, st) ++ reports.map PeerReport.status := by
  induction reports generalizing list st with
  | nil => simp
  | cons r reports ih =>
    obtain ⟨hwr, hw⟩ := List.forall_mem_cons.mp hw
    obtain ⟨hsr, hs⟩ := List.forall_mem_cons.mp hs
    obtain ⟨others, hf, ho⟩ := hwr.fields
    have hfirst : (r.pairs.map pair).foldl statusLine (list, st) = (finished (list, st), r.status) := by
      rw [PeerReport.pairs, List.map_cons, List.foldl_cons, statusLine_public_key (newline_toHex _), fromHex_toHex,
        foldl_fields hwr.isLine, foldl_report hf ho hsr]
      rfl
    have hlast : finished (finished (list, st), r.status) = finished (list, st) ++ [r.status] :=
      if_pos (toBase64_ne_nil hwr.key)
    rw [List.flatMap_cons, List.map_append, List.foldl_append, hfirst, ih hw hs, hlast, List.map_cons,
      List.append_assoc, List.singleton_append]

lemma isOther_errno : IsOther ("errno".toList, decimal 0) := ⟨isLine (by decide) (newline_decimal 0), by decide⟩

lemma finished_reportPairs (hf : ∀ p ∈ front, IsOther p) (hw : ∀ r ∈ reports, r.IsWhole)
    (hs : ∀ r ∈ reports, r.peer.Small) :
    finished (((reportPairs front reports).map pair).foldl statusLine ([], {})) = reports.map PeerReport.status := by
  have he : ∀ p ∈ [("errno".toList, decimal 0)], IsOther p := by
    intro p hp
    rw [List.mem_singleton.mp hp]
    exact isOther_errno
  rw [reportPairs, List.map_append, List.map_append, List.foldl_append, List.foldl_append,
    foldl_statusLine_others hf, foldl_statusLine_others he, finished_reports hw hs]
  rfl

lemma isLine_reportPairs (hf : ∀ p ∈ front, IsOther p) (hw : ∀ r ∈ reports, r.IsWhole) :
    ∀ p ∈ reportPairs front reports, IsLine p := by
  intro p hp
  simp only [reportPairs, List.mem_append, List.mem_flatMap, List.mem_singleton] at hp
  rcases hp with (hp | ⟨r, hr, hp⟩) | rfl
  · exact (hf p hp).1
  · rcases List.mem_cons.mp hp with rfl | hp
    · exact isLine (by decide) (newline_toHex _)
    · exact ((hw r hr).isLine p hp).1
  · exact isOther_errno.1

/-- The report without the line ends behind it. -/
def reportBody (front : List (Text × Text)) (reports : List PeerReport) : Text :=
  joined ((front ++ reports.flatMap PeerReport.pairs).map pair) ++ pair ("errno".toList, decimal 0)

lemma reportText_eq (front : List (Text × Text)) (reports : List PeerReport) :
    reportText front reports = reportBody front reports ++ ['\n', '\n'] := by
  simp [reportText, reportPairs, reportBody, joined]

lemma split_reportBody (hl : ∀ p ∈ reportPairs front reports, IsLine p) :
    split (reportBody front reports) = (reportPairs front reports).map pair := by
  rw [reportPairs, List.forall_mem_append] at hl
  rw [reportBody, split_joined (newline_map_pair hl.1) isOther_errno.1.newline_pair, reportPairs, List.map_append,
    List.map_append, List.map_append, List.map_singleton]

lemma head?_joined {p : Text × Text} (hp : p.1 ≠ []) (pairs : List (Text × Text)) :
    (joined ((p :: pairs).map pair) ++ text).head? = p.1.head? := by
  obtain ⟨c, name, hn⟩ := List.exists_cons_of_ne_nil hp
  simp [joined, pair, hn]

lemma head?_reportBody (h : ∀ p ∈ front, p.1 ≠ [] ∧ ∀ c ∈ p.1.head?, isSpace c = false) :
    ∀ c ∈ (reportBody front reports).head?, isSpace c = false := by
  cases front with
  | nil =>
    cases reports with
    | nil =>
      rintro c ⟨⟩
      decide
    | cons r reports =>
      have hp : (reportBody [] (r :: reports)).head? = "public_key".toList.head? :=
        head?_joined (p := ("public_key".toList, toHex r.key)) (show "public_key".toList ≠ [] by decide) _
      rw [hp]
      rintro c ⟨⟩
      decide
  | cons p front =>
    obtain ⟨hn, hb⟩ := h p List.mem_cons_self
    have hp : (reportBody (p :: front) reports).head? = p.1.head? := head?_joined hn _
    rwa [hp]

lemma trimmed_reportText (h : ∀ p ∈ front, p.1 ≠ [] ∧ ∀ c ∈ p.1.head?, isSpace c = false) :
    trimmed (reportText front reports) = reportBody front reports := by
  have hlast : (reportBody front reports).getLast? = some '0' := by
    rw [reportBody, List.getLast?_append_of_ne_nil _ (by decide)]
    decide
  have hblanks : ∀ c ∈ ['\n', '\n'], isSpace c = true :=
    List.forall_mem_cons.mpr ⟨rfl, List.forall_mem_singleton.mpr rfl⟩
  rw [reportText_eq]
  refine trimmed_append (head?_reportBody h) ?_ hblanks
  rw [hlast]
  rintro c ⟨⟩
  decide

/-- Lines that are not empty have an empty line behind them only at the end. -/
lemma eq_nil_of_blankLine (hl : ∀ line ∈ lines, line ≠ [] ∧ '\n' ∉ line) (h : reply ++ more = joined lines ++ ['\n'])
    (hb : ['\n', '\n'] <:+: reply) : more = [] := by
  obtain ⟨before, after, rfl⟩ := hb
  have hj : joined lines ++ ['\n'] = joined (lines ++ [[]]) := by simp [joined]
  have hn : ∀ line ∈ lines ++ [[]], '\n' ∉ line := by
    rw [List.forall_mem_append]
    exact ⟨fun line hm => (hl line hm).2, by simp⟩
  have hs : before ++ ['\n', '\n'] ++ after ++ more = before ++ '\n' :: '\n' :: (after ++ more) := by simp
  have hf := frame_joined hn
  rw [← hj, ← h, hs, frame_append, frame, if_pos rfl, frame, if_pos rfl] at hf
  obtain ⟨h₁, h₂⟩ := Prod.mk.inj hf
  have hrest : (frame '\n' [] (after ++ more)).1 = [] := by
    by_contra hr
    obtain ⟨rest, last, hr⟩ := (List.eq_nil_or_concat' _).resolve_left hr
    rw [hr, ← List.cons_append, ← List.cons_append, ← List.append_assoc] at h₁
    have hm : [] ∈ lines := by
      rw [← (List.append_inj' h₁ rfl).1]
      simp
    exact (hl [] hm).1 rfl
  have hw := join_frame '\n' [] (after ++ more)
  rw [hrest, h₂] at hw
  exact (List.append_eq_nil_iff.mp (List.append_eq_nil_iff.mp hw.symm).2).2

lemma readReply_of_flatten (hm : ['\n', '\n'] <:+: text)
    (he : ∀ reply more, reply ++ more = text → ['\n', '\n'] <:+: reply → more = [])
    (h : reply ++ pieces.flatten = text) : readReply reply pieces = some text := by
  induction pieces generalizing reply with
  | nil =>
    rw [List.flatten_nil, List.append_nil] at h
    subst h
    rw [readReply, if_pos hm]
  | cons piece pieces ih =>
    rw [readReply]
    split
    case isTrue hc =>
      rw [he _ _ h hc, List.append_nil] at h
      rw [h]
    case isFalse =>
      apply ih
      rwa [List.append_assoc, ← List.flatten_cons]

lemma peerList_reportText (hr : IsReport P d front reports) (hs : ∀ r ∈ reports, r.peer.Small)
    (hp : pieces.flatten = reportText front reports) :
    peerList (uapiReply (some pieces)) = reports.map PeerReport.status := by
  have hl := isLine_reportPairs hr.others hr.whole
  have hread : readReply [] pieces = some (reportText front reports) := by
    refine readReply_of_flatten ?_ ?_ hp
    · rw [reportText_eq]
      exact (List.suffix_append _ _).isInfix
    · intro reply more h hb
      refine eq_nil_of_blankLine ?_ h hb
      intro line hm
      obtain ⟨p, hp, rfl⟩ := List.mem_map.mp hm
      exact ⟨(hl p hp).ne_nil, (hl p hp).newline_pair⟩
  have hreply : uapiReply (some pieces) = reportBody front reports := by
    rw [uapiReply, Option.bind_some, hread]
    exact trimmed_reportText fun p hm => ⟨(hr.others p hm).1.name.1, hr.blanks p hm⟩
  have hlines : peerList (reportBody front reports) =
      finished (((reportPairs front reports).map pair).foldl statusLine ([], {})) := by
    rw [peerList, split_reportBody hl]
    rfl
  rw [hreply, hlines, finished_reportPairs hr.others hr.whole hs]

lemma IsReport.pubkeys (hr : IsReport P d front reports) (ha : P.table d = t) :
    ((reports.map PeerReport.status).map (·.pubkey)).Nodup ∧
      ∀ key, toBase64 key ∈ (reports.map PeerReport.status).map (·.pubkey) ↔ key ∈ t.keys := by
  have hk : (reports.map PeerReport.status).map (·.pubkey) = (reports.map (·.key)).map toBase64 := by
    simp [PeerReport.status]
  rw [hk]
  refine ⟨hr.keys.map toBase64_injective, fun key => ?_⟩
  rw [List.mem_map_of_injective toBase64_injective, List.mem_map]
  have hc : key ∈ t.keys ↔ (P.peers d key).isSome := by
    rw [← ha]
    rfl
  rw [hc, Option.isSome_iff_exists]
  constructor
  · rintro ⟨r, hm, rfl⟩
    exact ⟨r.peer, (hr.peers _ _).mp ⟨r, hm, rfl, rfl⟩⟩
  · rintro ⟨peer, hp⟩
    obtain ⟨r, hm, hk, -⟩ := (hr.peers key peer).mpr hp
    exact ⟨r, hm, hk⟩

end Replies

namespace WireguardUtilsMacos

lemma inv_of_meets {τ : Type} {P : Process τ} {addressText : QHostAddress → Text} {events : List (Event τ)}
    (hP : P.Documented) (hm : Meets (step P addressText) (Accepted P addressText) {} events) :
    Inv P (run (watch (step P addressText) observe) ({}, {}) events).1
      (run (watch (step P addressText) observe) ({}, {}) events).2 :=
  ((meets_watch observe ({} : Table)).mpr hm).invariant
    (P := fun p : WireguardUtilsMacos τ × Table => Inv P p.1 p.2) (fun _ _ hi he => hi.step hP he) (inv_of_none rfl)

/-- While the process runs it has the peers that were configured and no others, and when it reports them in whole the
daemon is told of each of these once, with its counters. -/
theorem getPeerStatus_of_meets {τ : Type} (P : Process τ) (hP : P.Documented) (addressText : QHostAddress → Text)
    (events : List (Event τ)) (hm : Meets (step P addressText) (Accepted P addressText) {} events) :
    let r := run (watch (step P addressText) observe) ({}, {}) events
    ∀ d, r.1.tunnel = some d → P.table d = r.2 ∧
      ∀ front reports pieces, IsReport P d front reports → (∀ r ∈ reports, r.peer.Small) →
        pieces.flatten = reportText front reports →
        (r.1.getPeerStatus P (some pieces)).2 = reports.map PeerReport.status ∧
          ((reports.map PeerReport.status).map (·.pubkey)).Nodup ∧
          ∀ key, toBase64 key ∈ (reports.map PeerReport.status).map (·.pubkey) ↔ key ∈ r.2.keys := by
  intro r d hd
  have ha : P.table d = r.2 := inv_of_meets hP hm d hd
  exact ⟨ha, fun front reports pieces hr hs hp => ⟨peerList_reportText hr hs hp, hr.pubkeys ha⟩⟩

end WireguardUtilsMacos

/-! A process that keeps its peers by their keys. -/

structure Tunnel where
  privateKey : Key := []
  peers : Key → Option Peer := fun _ => none
  owner : IPAddress → Option Key := fun _ => none

namespace Tunnel

variable (publicKey : Key) (networkOf : Text → Option IPAddress)

/-- The peer of a key, which is made when there is none. -/
def select (key : Key) (d : Tunnel) : Option (Tunnel × Option Key) :=
  if key.length = 32 ∧ key ≠ publicKey then
    some ({ d with peers := Function.update d.peers key (some ((d.peers key).getD {})) }, some key)
  else none

def interfaceLine (name value : Text) (d : Tunnel) : Option (Tunnel × Option Key) :=
  if name = "private_key".toList then some ({ d with privateKey := fromHex value }, none)
  else if name = "replace_peers".toList then some ({ d with peers := fun _ => none, owner := fun _ => none }, none)
  else none

def peerLine (name value : Text) (key : Key) (d : Tunnel) : Option (Tunnel × Option Key) :=
  if name = "remove".toList then
    some ({ d with peers := Function.update d.peers key none, owner := release key d.owner }, some key)
  else if name = "endpoint".toList ∨ name = "persistent_keepalive_interval".toList then some (d, some key)
  else if name = "replace_allowed_ips".toList then some ({ d with owner := release key d.owner }, some key)
  else if name = "allowed_ip".toList then
    (networkOf value).map fun ip => ({ d with owner := Function.update d.owner ip (some key) }, some key)
  else none

def obey (p : Text × Text) (c : Tunnel × Option Key) : Option (Tunnel × Option Key) :=
  if p.1 = "public_key".toList then c.1.select publicKey (fromHex p.2)
  else
    match c.2 with
    | none => c.1.interfaceLine p.1 p.2
    | some key => c.1.peerLine networkOf p.1 p.2 key

def receive (message : Text) (d : Tunnel) : Tunnel :=
  match (frame '\n' [] message).1.filterMap keyValue with
  | first :: pairs =>
    if first = ("set".toList, "1".toList) then (obeyed (obey publicKey networkOf) pairs (d, none)).1 else d
  | [] => d

end Tunnel

def tunnels (publicKey : Key) (networkOf : Text → Option IPAddress) : Process Tunnel where
  start := {}
  receive := Tunnel.receive publicKey networkOf
  obey := Tunnel.obey publicKey networkOf
  networkOf
  moves d after := (∀ key, (after.peers key).isSome = (d.peers key).isSome) ∧ after.owner = d.owner
  publicKey _ := publicKey
  peers := Tunnel.peers
  owner := Tunnel.owner

section Tunnels

variable {publicKey : Key} {networkOf : Text → Option IPAddress} {d : Tunnel} {key : Key} {pairs : List (Text × Text)}

lemma filterMap_keyValue (hp : ∀ p ∈ pairs, IsLine p) : (pairs.map pair).filterMap keyValue = pairs := by
  induction pairs with
  | nil => rfl
  | cons p pairs ih =>
    obtain ⟨hline, hp⟩ := List.forall_mem_cons.mp hp
    rw [List.map_cons, List.filterMap_cons, hline.keyValue, ih hp]

lemma receive_setText (hp : ∀ p ∈ pairs, IsLine p) :
    d.receive publicKey networkOf (setText pairs) =
      (obeyed (Tunnel.obey publicKey networkOf) pairs (d, none)).1 := by
  have hset : IsLine ("set".toList, "1".toList) := isLine (by decide) (by decide)
  have hall : ∀ p ∈ ("set".toList, "1".toList) :: pairs, IsLine p := List.forall_mem_cons.mpr ⟨hset, hp⟩
  have hnewline : ∀ line ∈ (("set".toList, "1".toList) :: pairs).map pair ++ [[]], '\n' ∉ line := by
    rw [List.forall_mem_append]
    exact ⟨newline_map_pair hall, by simp⟩
  have hj : setText pairs = joined ((("set".toList, "1".toList) :: pairs).map pair ++ [[]]) := by
    simp [setText, joined]
  have hempty : [[]].filterMap keyValue = [] := rfl
  rw [Tunnel.receive, hj, frame_joined hnewline, List.filterMap_append, filterMap_keyValue hall, hempty,
    List.append_nil]
  exact if_pos rfl

lemma keys_update (peer : Option Peer) : {k | (Function.update d.peers key peer k).isSome = true} =
    if peer.isSome then insert key {k | (d.peers k).isSome = true} else {k | (d.peers k).isSome = true} \ {key} := by
  ext k
  by_cases hk : k = key
  · subst hk
    cases peer <;> simp
  · cases peer <;> simp [hk]

lemma tunnels_documented (publicKey : Key) (networkOf : Text → Option IPAddress) :
    (tunnels publicKey networkOf).Documented where
  start := by
    ext1
    · exact Set.eq_empty_iff_forall_notMem.mpr fun _ => by simp [tunnels, Process.table]
    · rfl
  moves d after h := by
    ext1
    · ext key
      exact (congrArg (· = true) (h.1 key)).to_iff
    · exact h.2
  get d := ⟨rfl, rfl⟩
  set d pairs hp := congrArg _ (receive_setText fun p hm => (hp p hm).1)
  private_key d after next value h := by
    obtain ⟨rfl, rfl⟩ := Prod.mk.inj (Option.some.inj h)
    exact ⟨rfl, id⟩
  replace_peers d after next h := by
    obtain ⟨rfl, rfl⟩ := Prod.mk.inj (Option.some.inj h)
    ext1
    · exact Set.eq_empty_iff_forall_notMem.mpr fun _ => by simp [tunnels, Process.table]
    · rfl
  public_key d after current next key h hk := by
    have hs : Tunnel.select publicKey key d = some (after, next) := by
      rw [← fromHex_toHex key]
      exact h
    rw [Tunnel.select] at hs
    split_ifs at hs
    obtain ⟨rfl, rfl⟩ := Prod.mk.inj (Option.some.inj hs)
    exact ⟨rfl, Table.ext (keys_update _) rfl⟩
  remove d after next key h _ := by
    obtain ⟨rfl, rfl⟩ := Prod.mk.inj (Option.some.inj h)
    exact Table.ext (keys_update none) rfl
  endpoint d after next key value h := by
    obtain ⟨rfl, rfl⟩ := Prod.mk.inj (Option.some.inj h)
    exact ⟨rfl, rfl⟩
  replace_allowed_ips d after next key h := by
    obtain ⟨rfl, rfl⟩ := Prod.mk.inj (Option.some.inj h)
    exact ⟨rfl, rfl⟩
  persistent_keepalive_interval d after next key n h := by
    obtain ⟨rfl, rfl⟩ := Prod.mk.inj (Option.some.inj h)
    exact ⟨rfl, rfl⟩
  allowed_ip d after next key value ip h _ hn := by
    obtain ⟨found, hf, he⟩ := Option.map_eq_some_iff.mp
      (show (networkOf value).map (fun ip => ({ d with owner := Function.update d.owner ip (some key) }, some key)) =
        some (after, next) from h)
    obtain rfl := Option.some.inj (hf.symm.trans hn)
    obtain ⟨rfl, rfl⟩ := Prod.mk.inj he
    exact ⟨rfl, rfl⟩

lemma obeyed_of_some {obey : Text × Text → Tunnel × Option Key → Option (Tunnel × Option Key)} {p : Text × Text}
    {c after : Tunnel × Option Key} (h : obey p c = some after) : obeyed obey (p :: pairs) c = obeyed obey pairs after := by
  rw [obeyed, h]

variable {addressText : QHostAddress → Text} {config : InterfaceConfig}

lemma takes_allowed {ips : List IPAddress} (hn : ∀ ip ∈ ips, networkOf (ipText addressText ip) = some (network ip)) :
    (obeyed (Tunnel.obey publicKey networkOf) (ips.map fun ip => ("allowed_ip".toList, ipText addressText ip))
      (d, some key)).2 = true := by
  induction ips generalizing d with
  | nil => rfl
  | cons ip ips ih =>
    obtain ⟨hip, hn⟩ := List.forall_mem_cons.mp hn
    have ho : Tunnel.obey publicKey networkOf ("allowed_ip".toList, ipText addressText ip) (d, some key) =
        some ({ d with owner := Function.update d.owner (network ip) (some key) }, some key) :=
      (congrArg (Option.map _) hip).trans rfl
    rw [List.map_cons, obeyed_of_some ho]
    exact ih hn

/-- The messages about a peer are taken when its networks can be read. -/
lemma obeys_update (hr : (tunnels publicKey networkOf).Reads addressText config)
    (hl : (fromBase64 config.serverPublicKey).length = 32) (hk : fromBase64 config.serverPublicKey ≠ publicKey)
    (d : Tunnel) (e : Text) : Obeys (tunnels publicKey networkOf) d config (peerPairs addressText config e) := by
  refine ⟨?_, hk⟩
  have hs : Tunnel.obey publicKey networkOf ("public_key".toList, hexKey config.serverPublicKey) (d, none) =
      d.select publicKey (fromBase64 config.serverPublicKey) :=
    congrArg (fun key => d.select publicKey key) (fromHex_toHex _)
  rw [Tunnel.select, if_pos ⟨hl, hk⟩] at hs
  exact (congrArg Prod.snd (obeyed_of_some hs)).trans (takes_allowed hr)

end Tunnels

/-! Two peers, the second of which takes the network of the first. -/

def ownKey : Key :=
  [164, 224, 146, 146, 182, 81, 194, 120, 185, 119, 44, 86, 159, 95, 169, 187, 19, 217,
    6, 180, 106, 182, 140, 157, 249, 220, 43, 68, 9, 248, 162, 9]

def gatewayRange : IPAddress := ⟨.ipv4 0x0a400001, 10⟩

def rangeText : Text := "10.64.0.1".toList

/-- Of the addresses there is one. -/
def readRange (text : Text) : Option IPAddress :=
  if text = "10.64.0.1/10".toList then some (network gatewayRange) else none

def tunnelProcess : Process Tunnel := tunnels ownKey readRange

def entryPeer : InterfaceConfig where
  hopType := .MultiHopEntry
  serverPublicKey := "zo060cy2M+x7cMF4FKXHbs0CloUFDTRHRboFhw5YfVk=".toList
  serverIpv4AddrIn := some "192.0.2.1".toList
  serverPort := 51820
  allowedIPAddressRanges := [gatewayRange]

def exitPeer : InterfaceConfig where
  hopType := .MultiHopExit
  serverPublicKey := "Xf7dO2vUf2+ijuFdlp1bsOpTd01Ii9r53xxuASSz7yI=".toList
  serverIpv4AddrIn := some "192.0.2.2".toList
  serverPort := 51820
  allowedIPAddressRanges := [gatewayRange]

def Peer.counted : Peer where
  handshakeSec := 3
  handshakeNsec := 500000000
  txBytes := 7
  rxBytes := 9

/-- The process after its first handshake. -/
def counting : Tunnel where
  peers key :=
    if key = fromBase64 exitPeer.serverPublicKey then some {}
    else if key = fromBase64 entryPeer.serverPublicKey then some Peer.counted
    else none
  owner := ((({} : Table).update entryPeer).update exitPeer).owner

def ownInterface : InterfaceConfig where
  privateKey := "AQEBAQEBAQEBAQEBAQEBAQEBAQEBAQEBAQEBAQEBAQE=".toList

def configuring : List (Event Tunnel) :=
  [.addInterface ownInterface (.named (some ["errno=0\n\n".toList])), .updatePeer entryPeer (some []),
    .updatePeer exitPeer (some ["errno=".toList, "0\n\n".toList])]

/-- The report of the two peers, with other lines. -/
def bothReports : List PeerReport :=
  [⟨fromBase64 entryPeer.serverPublicKey, .counted,
      ("endpoint".toList, "192.0.2.1:51820".toList) :: Peer.counted.counters.reverse⟩,
    ⟨fromBase64 exitPeer.serverPublicKey, {},
      Peer.counters {} ++ [("allowed_ip".toList, "10.64.0.0/10".toList)]⟩]

def ownFront : List (Text × Text) := [("private_key".toList, hexKey ownInterface.privateKey)]

lemma entryPeer_ne_exitPeer : fromBase64 entryPeer.serverPublicKey ≠ fromBase64 exitPeer.serverPublicKey := by decide

lemma small_default : Peer.Small {} := ⟨by decide, by decide, by decide, by decide⟩

lemma isReport_counting : IsReport tunnelProcess counting ownFront bothReports where
  others p hp := by
    obtain rfl := List.mem_singleton.mp hp
    exact ⟨isLine (by decide) (newline_toHex _), by decide⟩
  blanks p hp := by
    obtain rfl := List.mem_singleton.mp hp
    rintro c ⟨⟩
    decide
  whole := by
    refine List.forall_mem_cons.mpr ⟨⟨by decide, [("endpoint".toList, "192.0.2.1:51820".toList)], ?_, ?_⟩,
      List.forall_mem_singleton.mpr ⟨by decide, [("allowed_ip".toList, "10.64.0.0/10".toList)], .refl _, ?_⟩⟩
    · exact ((List.reverse_perm _).cons _).trans (List.perm_append_singleton _ _).symm
    · exact List.forall_mem_singleton.mpr ⟨isLine (by decide) (by decide), by decide⟩
    · exact List.forall_mem_singleton.mpr ⟨isLine (by decide) (by decide), by decide⟩
  keys := by decide
  peers key peer := by
    have hpeers : tunnelProcess.peers counting key =
        if key = fromBase64 exitPeer.serverPublicKey then some {}
        else if key = fromBase64 entryPeer.serverPublicKey then some Peer.counted
        else none := rfl
    rw [hpeers]
    by_cases hx : key = fromBase64 exitPeer.serverPublicKey
    · subst hx
      simp [bothReports, entryPeer_ne_exitPeer]
    · by_cases he : key = fromBase64 entryPeer.serverPublicKey
      · subst he
        simp [bothReports, hx, entryPeer_ne_exitPeer.symm]
      · simp [bothReports, hx, he, Ne.symm hx, Ne.symm he]

lemma accepted_peer {config : InterfaceConfig} {s : WireguardUtilsMacos Tunnel} {pieces : Option (List Text)} {e : Text}
    (he : endpoint config = some e) (hplain : '\n' ∉ e ∧ '\r' ∉ e)
    (hr : config.allowedIPAddressRanges = [gatewayRange]) (hl : (fromBase64 config.serverPublicKey).length = 32)
    (hk : fromBase64 config.serverPublicKey ≠ ownKey) :
    Accepted tunnelProcess (fun _ => rangeText) s (.updatePeer config pieces) := by
  have hreads : tunnelProcess.Reads (fun _ => rangeText) config := by
    rw [Process.Reads, hr]
    have hread : readRange (ipText (fun _ => rangeText) gatewayRange) = some (network gatewayRange) := by decide
    exact List.forall_mem_singleton.mpr hread
  refine ⟨⟨fun other ho => ?_, ?_⟩, hreads, fun d e _ _ => obeys_update hreads hl hk d e⟩
  · obtain rfl := Option.some.inj (he.symm.trans ho)
    exact hplain
  · rw [hr]
    exact List.forall_mem_singleton.mpr (by decide)

namespace WireguardUtilsMacos

lemma meets_configuring : Meets (step tunnelProcess fun _ => rangeText) (Accepted tunnelProcess fun _ => rangeText) {}
    configuring :=
  ⟨trivial, accepted_peer (e := "192.0.2.1:51820".toList) (by decide) (by decide) rfl (by decide) (by decide),
    accepted_peer (e := "192.0.2.2:51820".toList) (by decide) (by decide) rfl (by decide) (by decide), trivial⟩

lemma moves_counting {d : Tunnel} (h : tunnelProcess.table d = (({} : Table).update entryPeer).update exitPeer) :
    tunnelProcess.moves d counting := by
  refine ⟨fun key => Bool.eq_iff_iff.mpr ?_, (congrArg Table.owner h).symm⟩
  have hk : (d.peers key).isSome = true ↔ key ∈ ((({} : Table).update entryPeer).update exitPeer).keys := by
    rw [← h]
    rfl
  rw [hk]
  simp only [counting]
  by_cases hx : key = fromBase64 exitPeer.serverPublicKey
  · simp [Table.update, hx]
  · by_cases he : key = fromBase64 entryPeer.serverPublicKey
    · simp [Table.update, he, entryPeer_ne_exitPeer]
    · simp [Table.update, hx, he]

/-- The status of two peers, which comes in two pieces. -/
theorem getPeerStatus_of_reported : ∃ first second,
    ((run (step tunnelProcess fun _ => rangeText) {} (configuring ++ [.moved counting])).getPeerStatus tunnelProcess
      (some [first, second])).2 =
    [{ pubkey := entryPeer.serverPublicKey, handshake := 3500, rxBytes := 9, txBytes := 7 },
      { pubkey := exitPeer.serverPublicKey }] := by
  have hinv := inv_of_meets (tunnels_documented _ _) meets_configuring
  have hm : Meets (step tunnelProcess fun _ => rangeText) (Accepted tunnelProcess fun _ => rangeText) {}
      (configuring ++ [.moved counting]) := by
    refine meets_concat.mpr ⟨meets_configuring, fun d hd => moves_counting (hinv d ?_)⟩
    rwa [run_watch]
  have hd : (run (watch (step tunnelProcess fun _ => rangeText) observe) ({}, {})
      (configuring ++ [.moved counting])).1.tunnel = some counting := by
    rw [run_watch]
    rfl
  have hs : ∀ r ∈ bothReports, r.peer.Small := List.forall_mem_cons.mpr
    ⟨⟨by decide, by decide, by decide, by decide⟩, List.forall_mem_singleton.mpr small_default⟩
  have hp : [(reportText ownFront bothReports).take 200, (reportText ownFront bothReports).drop 200].flatten =
      reportText ownFront bothReports := by simp
  obtain ⟨h, -, -⟩ := (getPeerStatus_of_meets tunnelProcess (tunnels_documented _ _) (fun _ => rangeText)
    (configuring ++ [.moved counting]) hm counting hd).2 ownFront bothReports _ isReport_counting hs hp
  rw [run_watch] at h
  refine ⟨_, _, h.trans ?_⟩
  decide

end WireguardUtilsMacos

end VpnClient.Macos.Uapi
