import VpnClient.Client.PingHelper
import VpnClient.Library.Rings
import VpnClient.Library.Runs
import VpnClient.Linux.LinuxPingSender

/-! The pings of the client on Linux, from the bytes on the wire to the latencies that are reported. -/

namespace VpnClient.Linux.EchoMessages

open Client Library

/-- A session of pings, where `sent` are the messages on the wire, by number. -/
structure PingSession where
  sender : LinuxPingSender
  helper : PingHelper
  sent : List (List UInt8) := []

namespace PingSession

open LinuxPingSender Library.Rings Library.Runs

/-- The timer fires, the answer of a host to a ping comes under a header, and any other packet comes. -/
inductive Event where
  | timeout (now : ℤ)
  | answered (n : ℕ) (header : List UInt8) (now : ℤ)
  | arrived (packet : List UInt8) (now : ℤ)

variable (sockets : Sockets)

/-- The statistics of the helper start anew with a new sender, unless that is not valid: then one of another kind takes
its place. -/
def start (env : Env) (helper : PingHelper) : Option PingSession :=
  if (construct env).isValid then some { sender := construct env, helper := helper.start } else none

def activated (packet : List UInt8) (now : ℤ) (s : PingSession) : PingSession :=
  match s.sender.receives sockets packet with
  | some sequence => { s with helper := s.helper.pingReceived sequence now }
  | none => s

def step (s : PingSession) : Event → PingSession
  | .timeout now =>
    { s with
      helper := s.helper.nextPing now
      sent := s.sent ++ (s.sender.transmits sockets s.helper.sequence).toList }
  | .answered n header now =>
    match s.sent[n]? with
    | some message => s.activated sockets (header ++ echoReply message) now
    | none => s
  | .arrived packet now => s.activated sockets packet now

/-- The socket is given the answer to a ping. -/
def given (n : ℕ) (header : List UInt8) (s : PingSession) : Bool :=
  (s.sender.socket.bind fun socket => s.sent[n]?.bind fun message =>
    sockets.given socket.unfiltered (header ++ echoReply message)).isSome

/-- The times of the pings, and the latencies of those of the last 32 whose answers the socket was given. -/
structure Log where
  times : List ℤ := []
  latencies : List ℤ := []

def observe (s : PingSession) : Event → Log → Log
  | .timeout now, log => { log with times := log.times ++ [now] }
  | .answered n header now, log =>
    match log.times[n]? with
    | some time =>
      if s.given sockets n header ∧ log.times.length ≤ n + PING_STATS_WINDOW then
        { log with latencies := log.latencies ++ [now - time] }
      else log
    | none => log
  | .arrived _ _, log => log

/-- An answer comes under a whole header and before its number is used again, and no other packet that the socket is
given is a reply to its identifier. -/
def Genuine (s : PingSession) : Event → Prop
  | .timeout _ => True
  | .answered n header _ => IsIPv4 header ∧ iphdrlen header = header.length ∧ s.sent.length ≤ n + 65536
  | .arrived packet _ => ∀ socket sequence, s.sender.socket = some socket →
      (sockets.given socket.unfiltered packet).isSome = true →
      ¬ IsEcho ICMP_ECHOREPLY s.sender.wireIdent sequence (socket.kept packet)

def slot (data : PingSendData) : ℤ × UInt16 := (data.timestamp, data.sequence)

def numbered (times : List ℤ) : List (ℤ × UInt16) := times.mapIdx fun n time => (time, UInt16.ofNat n)

structure Inv (env : Env) (received : List ℤ) (s : PingSession) (log : Log) : Prop where
  sender : s.sender = construct env
  sequence : s.helper.sequence = UInt16.ofNat log.times.length
  slots : Shows (-1, 0) PING_STATS_WINDOW (s.helper.pingData.map slot) (numbered log.times)
  valid : (construct env).isValid = true
  length : s.sent.length = log.times.length
  sent : ∀ n message, s.sent[n]? = some message →
    message.length = 8 ∧ IsEcho ICMP_ECHO (construct env).wireIdent (UInt16.ofNat n) message
  received : s.helper.received = received ++ if (construct env).listens then log.latencies else []

variable {sockets : Sockets} {env : Env} {s : PingSession} {helper : PingHelper} {log : Log}
  {received times : List ℤ} {now time : ℤ}
  {sequence other : UInt16} {header packet message : List UInt8} {e : Event} {n : ℕ}

section Slots

lemma slot_pingReceived (sequence : UInt16) (now : ℤ) (helper : PingHelper) :
    (helper.pingReceived sequence now).pingData.map slot = helper.pingData.map slot := by
  rw [PingHelper.pingReceived]
  split
  case h_1 => rfl
  case h_2 data hd =>
    obtain ⟨hl, rfl⟩ := List.getElem?_eq_some_iff.mp hd
    split
    · rw [List.map_set]
      apply List.ext_getElem
      · simp
      · intro k hk hk'
        rw [List.getElem_set]
        split
        case isTrue h => subst h; simp [slot]
        case isFalse => rfl
    · rfl

lemma sequence_pingReceived (sequence : UInt16) (now : ℤ) (helper : PingHelper) :
    (helper.pingReceived sequence now).sequence = helper.sequence := by
  rw [PingHelper.pingReceived]
  split
  · rfl
  · split <;> rfl

lemma received_pingReceived (now time : ℤ) (other : UInt16)
    (h : (helper.pingData.map slot)[sequence.toNat % PING_STATS_WINDOW]? = some (time, other)) :
    (helper.pingReceived sequence now).received =
      if other = sequence then helper.received ++ [now - time] else helper.received := by
  rw [List.getElem?_map, Option.map_eq_some_iff] at h
  obtain ⟨data, hd, he⟩ := h
  obtain ⟨rfl, rfl⟩ : data.timestamp = time ∧ data.sequence = other := by
    rw [slot, Prod.mk.injEq] at he
    exact he
  rw [PingHelper.pingReceived, hd]
  dsimp only
  split <;> rfl

lemma toNat_ofNat_mod (n : ℕ) : (UInt16.ofNat n).toNat % PING_STATS_WINDOW = n % PING_STATS_WINDOW := by
  rw [UInt16.toNat_ofNat', PING_STATS_WINDOW]
  omega

lemma ofNat_eq_iff {i j : ℕ} (hij : i ≤ j) (hji : j < i + 65536) : UInt16.ofNat j = UInt16.ofNat i ↔ j = i := by
  rw [← UInt16.toNat_inj, UInt16.toNat_ofNat', UInt16.toNat_ofNat']
  omega

lemma length_numbered (times : List ℤ) : (numbered times).length = times.length := List.length_mapIdx ..

lemma numbered_getElem? (ht : times[n]? = some time) : (numbered times)[n]? = some (time, UInt16.ofNat n) := by
  rw [numbered, List.getElem?_mapIdx, ht]
  rfl

lemma received_of_slots (now : ℤ) (h : Shows (-1, 0) PING_STATS_WINDOW (helper.pingData.map slot) (numbered times))
    (ht : times[n]? = some time) (hn : times.length ≤ n + 65536) :
    (helper.pingReceived (UInt16.ofNat n) now).received =
      if times.length ≤ n + PING_STATS_WINDOW then helper.received ++ [now - time] else helper.received := by
  have hlt := (List.getElem?_eq_some_iff.mp ht).1
  -- The last number below the number of pings that leaves the same remainder.
  obtain ⟨j, hj, hjl, hjm, hnj⟩ : ∃ j, j < times.length ∧ times.length ≤ j + 32 ∧ j % 32 = n % 32 ∧ n ≤ j :=
    ⟨times.length - 1 - (times.length - 1 - n) % 32, by omega, by omega, by omega, by omega⟩
  have hs := h.getElem? (j := j) (by rw [length_numbered]; exact hj) (by rw [length_numbered]; exact hjl)
  rw [numbered_getElem? (List.getElem?_eq_getElem hj), PING_STATS_WINDOW, hjm] at hs
  rw [received_pingReceived now times[j] (UInt16.ofNat j) (by rw [toNat_ofNat_mod]; exact hs)]
  have he : UInt16.ofNat j = UInt16.ofNat n ↔ times.length ≤ n + PING_STATS_WINDOW := by
    rw [ofNat_eq_iff hnj (by omega), PING_STATS_WINDOW]
    omega
  simp only [he]
  split
  case isTrue hc =>
    obtain rfl : j = n := by
      rw [PING_STATS_WINDOW] at hc
      omega
    obtain ⟨_, rfl⟩ := List.getElem?_eq_some_iff.mp ht
    rfl
  case isFalse => rfl

end Slots

section Steps

lemma inv_start (hs : start env helper = some s) : Inv env helper.received s {} := by
  rw [start] at hs
  split_ifs at hs with hv
  obtain rfl := Option.some.inj hs
  constructor
  case sender => rfl
  case sequence => rfl
  case slots => exact shows_nil
  case valid => exact hv
  case length => rfl
  case sent =>
    intro n message h
    cases h
  case received => simp [PingHelper.start]

lemma exists_transmits (hi : Inv env received s log) :
    ∃ message, s.sender.transmits sockets s.helper.sequence = some message := by
  obtain ⟨socket, hsocket⟩ := Option.isSome_iff_exists.mp hi.valid
  rw [transmits, hi.sender, hsocket]
  exact ⟨_, rfl⟩

lemma Inv.activated_of_none (hi : Inv env received s log) (hr : s.sender.receives sockets packet = none) :
    Inv env received (s.activated sockets packet now) log := by
  rw [activated, hr]
  exact hi

lemma Inv.activated_of_some (latencies : List ℤ) (hi : Inv env received s log)
    (hr : s.sender.receives sockets packet = some sequence)
    (hl : (s.helper.pingReceived sequence now).received =
      received ++ if (construct env).listens then latencies else []) :
    Inv env received (s.activated sockets packet now) { log with latencies } := by
  rw [activated, hr]
  constructor
  case sender => exact hi.sender
  case sequence => exact (sequence_pingReceived sequence now s.helper).trans hi.sequence
  case slots =>
    rw [slot_pingReceived]
    exact hi.slots
  case valid => exact hi.valid
  case length => exact hi.length
  case sent => exact hi.sent
  case received => exact hl

lemma Inv.deaf (hi : Inv env received s log) (hl : ¬ (construct env).listens = true) (latencies : List ℤ) :
    Inv env received s { log with latencies } := by
  refine ⟨hi.sender, hi.sequence, hi.slots, hi.valid, hi.length, hi.sent, ?_⟩
  rw [hi.received, if_neg hl, if_neg hl]

variable (hS : sockets.Documented)
include hS

lemma Inv.timeout (hi : Inv env received s log) (now : ℤ) :
    Inv env received (s.step sockets (.timeout now)) { log with times := log.times ++ [now] } := by
  constructor
  case sender => exact hi.sender
  case sequence =>
    rw [List.length_append, List.length_singleton, UInt16.ofNat_add, ← hi.sequence]
    rfl
  case slots =>
    have hp := hi.slots.push (by decide) (now, s.helper.sequence)
    rw [length_numbered, ← toNat_ofNat_mod, ← hi.sequence] at hp
    have hn : numbered (log.times ++ [now]) = numbered log.times ++ [(now, s.helper.sequence)] := by
      rw [numbered, List.mapIdx_append, hi.sequence]
      simp [numbered]
    rw [hn]
    simpa only [step, PingHelper.nextPing, List.map_set, slot] using hp
  case valid => exact hi.valid
  case length =>
    obtain ⟨message, ht⟩ := exists_transmits hi
    rw [step, ht, Option.toList_some, List.length_append, List.length_append, hi.length]
    rfl
  case sent =>
    intro n message h
    obtain ⟨message', ht⟩ := exists_transmits hi
    rw [step, ht, Option.toList_some] at h
    rcases Nat.lt_trichotomy n s.sent.length with hn | rfl | hn
    · rw [List.getElem?_append_left hn] at h
      exact hi.sent n message h
    · rw [List.getElem?_concat_length] at h
      obtain rfl := Option.some.inj h
      rw [← hi.sender, hi.length, ← hi.sequence]
      exact isEcho_of_transmits hS ht
    · rw [List.getElem?_eq_none (by simp; omega)] at h
      cases h
  case received => exact hi.received

lemma receives_of_not_listens (hl : ¬ (construct env).listens = true) :
    (construct env).receives sockets packet = none := by
  rw [Option.eq_none_iff_forall_ne_some]
  intro sequence h
  obtain ⟨socket, -, hlisten, -⟩ := ((wellFormed_construct env).receives_iff hS).mp h
  exact hl hlisten

lemma Inv.deaf_answered (hi : Inv env received s log)
    (hl : ¬ (construct env).listens = true) :
    Inv env received (s.step sockets (.answered n header now)) (observe sockets s (.answered n header now) log) := by
  have hr (packet : List UInt8) : s.sender.receives sockets packet = none := by
    rw [hi.sender]
    exact receives_of_not_listens hS hl
  have hs : Inv env received (s.step sockets (.answered n header now)) log := by
    rw [step]
    cases s.sent[n]? with
    | none => exact hi
    | some message => exact hi.activated_of_none (hr _)
  rw [observe]
  split
  · split
    · exact hs.deaf hl _
    · exact hs
  · exact hs

lemma Inv.answered (hi : Inv env received s log)
    (hg : Genuine sockets s (.answered n header now)) :
    Inv env received (s.step sockets (.answered n header now)) (observe sockets s (.answered n header now) log) := by
  obtain ⟨hh, hlen, hwrap⟩ := hg
  by_cases hl : (construct env).listens = true
  · obtain ⟨socket, hs⟩ := Option.isSome_iff_exists.mp hi.valid
    have hsent := hi.length
    rw [step, observe]
    rcases Nat.lt_or_ge n log.times.length with hn | hn
    · rw [List.getElem?_eq_getElem hn]
      have hn' : n < s.sent.length := by omega
      have hmn := List.getElem?_eq_getElem hn'
      obtain ⟨hml, hme⟩ := hi.sent n _ hmn
      have hgiven : s.given sockets n header =
          (sockets.given socket.unfiltered (header ++ echoReply s.sent[n])).isSome := by
        rw [given, hi.sender, hs, hmn]
        rfl
      have hr (other : UInt16) : s.sender.receives sockets (header ++ echoReply s.sent[n]) = some other ↔
          s.given sockets n header = true ∧ UInt16.ofNat n = other := by
        rw [hgiven, hi.sender]
        exact receives_echoReply hS (wellFormed_construct env) hs hl hh hlen hml hme
      rw [hmn]
      by_cases hc : s.given sockets n header = true
      · have hslots := received_of_slots now hi.slots (List.getElem?_eq_getElem hn) (by omega)
        have hreceived := hi.received
        rw [if_pos hl] at hreceived
        have hrn := (hr _).mpr ⟨hc, rfl⟩
        dsimp only
        split
        case isTrue hw =>
          refine hi.activated_of_some _ hrn ?_
          rw [hslots, if_pos hw.2, if_pos hl, hreceived, List.append_assoc]
        case isFalse hw =>
          refine hi.activated_of_some log.latencies hrn ?_
          rw [hslots, if_neg fun h => hw ⟨hc, h⟩, if_pos hl, hreceived]
      · dsimp only
        rw [if_neg fun h => hc h.1]
        exact hi.activated_of_none (Option.eq_none_iff_forall_ne_some.mpr fun other h => hc ((hr other).mp h).1)
    · rw [List.getElem?_eq_none hn, List.getElem?_eq_none (by omega)]
      exact hi
  · exact hi.deaf_answered hS hl

lemma Inv.arrived (hi : Inv env received s log)
    (hg : Genuine sockets s (.arrived packet now)) : Inv env received (s.step sockets (.arrived packet now)) log := by
  apply hi.activated_of_none
  rw [Option.eq_none_iff_forall_ne_some]
  intro sequence h
  rw [hi.sender] at h
  obtain ⟨socket, hs, -, hgiven, he⟩ := ((wellFormed_construct env).receives_iff hS).mp h
  rw [← hi.sender] at hs he
  exact hg socket sequence hs hgiven he

lemma Inv.step (hi : Inv env received s log) (hg : Genuine sockets s e) :
    Inv env received (s.step sockets e) (observe sockets s e log) := by
  cases e with
  | timeout now => exact hi.timeout hS now
  | answered n header now => exact hi.answered hS hg
  | arrived packet now => exact hi.arrived hS hg

end Steps

/-- What is reported are the latencies in the log, and nothing if the sender is valid but has neither a datagram socket
nor an identifier. -/
theorem received_of_meets (hS : sockets.Documented) (hs : start env helper = some s) (events : List Event)
    (hm : Meets (step sockets) (Genuine sockets) s events) :
    let r := run (watch (step sockets) (observe sockets)) (s, {}) events
    r.1.helper.received = helper.received ++ if (construct env).listens then r.2.latencies else [] := by
  have hr := (meets_watch (observe sockets) {}).mpr hm
  exact (hr.invariant (P := fun p => Inv env helper.received p.1 p.2) (fun _ _ hi hg => hi.step hS hg)
    (inv_start hs)).received

theorem received_of_answered : ∃ s events, start rawEnv {} = some s ∧
    Meets (step plainSockets) (Genuine plainSockets) s events ∧
    (run (step plainSockets) s events).helper.received = [40, 25] := by
  let events : List Event :=
    [.timeout 1000, .timeout 2000, .answered 1 plainHeader 2040, .arrived [0x45, 0] 2050, .answered 0 plainHeader 1025]
  let s : PingSession := { sender := construct rawEnv, helper := PingHelper.start {} }
  have hs : start rawEnv {} = some s := rfl
  have hm : Meets (step plainSockets) (Genuine plainSockets) s events := by
    refine ⟨trivial, trivial, ⟨by decide, by decide, by decide⟩, ?_, ⟨by decide, by decide, by decide⟩, trivial⟩
    rintro socket sequence - - ⟨-, code, c₁, c₂, data, he⟩
    cases socket <;> cases he
  refine ⟨s, events, hs, hm, ?_⟩
  have h := received_of_meets plainSockets_documented hs events hm
  dsimp only at h
  rw [run_watch] at h
  rw [h]
  decide +kernel

end PingSession

end VpnClient.Linux.EchoMessages
