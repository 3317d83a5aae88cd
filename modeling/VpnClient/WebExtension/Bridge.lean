import VpnClient.Ipc.Message
import VpnClient.WebExtension.Messages

/-! The two threads of the bridge, and what they write on the connections to the client and on the output. -/

namespace VpnClient.WebExtension.Bridge

open Ipc Library Library.Runs

/-- What a poll finds of the connection, with the values that are read of it then. -/
structure VpnEvent where
  closed : Bool := false
  readable : Bool := false
  writable : Bool := false
  values : List JsonValue := []

inductive Event where
  | vpn (event : VpnEvent)
  | stdinWaker

def Event.isWaker : Event → Bool
  | vpn _ => false
  | stdinWaker => true

inductive Phase where
  | connecting
  | polling
  | handling
  deriving DecidableEq

structure Stream where
  written : Bytes := []
  lost : Bool := false

/-- A value that is written on a stream, with the number of bytes that are written. -/
structure Writing where
  value : JsonValue
  count : ℕ := 0

/-- `pong` and `output` are what the threads still write of a frame on the output, and `sent` is all that was sent.
The stream that is connected is the first one. -/
structure State where
  pong : List Bytes := []
  waking : Bool := false
  sent : List JsonValue := []
  channel : List JsonValue := []
  pending : Bool := false
  phase : Phase := .connecting
  vpnConnected : Bool := false
  newConnectionNeeded : Bool := false
  events : List Event := []
  values : List JsonValue := []
  output : List Bytes := []
  writing : Option Writing := none
  streams : List Stream := []
  stdout : Bytes := []

def vpnDown (error : Bool) : JsonValue :=
  .object [(if error then "error" else "status", .string "vpn-client-down")]

def vpnUp : JsonValue := .object [("status", .string "vpn-client-up")]

/-- What becomes of a write on a stream. -/
inductive Outcome where
  | written (count : ℕ)
  | wouldBlock
  | lost
  deriving DecidableEq

inductive Op where
  | readStdin (value : JsonValue)
  | wake
  | writePong
  | connect (ok : Bool)
  | poll (before after : List VpnEvent)
  | main (outcome : Outcome)

variable (json : Json JsonValue)

/-- The two writes of `write_output`. -/
def writes (value : JsonValue) : List Bytes :=
  [LittleEndian.bytes 4 (json.toString value).length, json.toString value]

/-- The thread is busy with a pong or before a `wake`, or it reads a value. -/
def readStdin (value : JsonValue) (s : State) : State :=
  if s.waking = true ∨ s.pong ≠ [] then s
  else if value.string? = some "bridge_ping" then { s with pong := writes json (.string "bridge_pong") }
  else { s with sent := s.sent ++ [value], channel := s.channel ++ [value], waking := true }

def wake (s : State) : State := if s.waking = true then { s with waking := false, pending := true } else s

def writePong (s : State) : State :=
  match s.pong with
  | [] => s
  | bytes :: pong => { s with stdout := s.stdout ++ bytes, pong }

def connect (ok : Bool) (s : State) : State :=
  if s.phase = .connecting ∧ ok = true then
    { s with phase := .polling, newConnectionNeeded := false, streams := {} :: s.streams }
  else s

def poll (before after : List VpnEvent) (s : State) : State :=
  if s.phase = .polling ∧ (s.pending = true ∨ before ++ after ≠ []) then
    { s with
      phase := .handling
      pending := false
      events := before.map .vpn ++ (if s.pending then [.stdinWaker] else []) ++ after.map .vpn }
  else s

def handleVpn (event : VpnEvent) (s : State) : State :=
  if event.closed then
    { s with vpnConnected := false, output := writes json (vpnDown false), newConnectionNeeded := true }
  else if s.newConnectionNeeded then s
  else
    { s with
      vpnConnected := s.vpnConnected || event.readable || event.writable
      output := if !s.vpnConnected && (event.readable || event.writable) then writes json vpnUp else s.output
      values := if event.readable then event.values else s.values }

/-- A stream that is lost takes no byte any more. -/
def writeStream (outcome : Outcome) (w : Writing) (s : State) : State :=
  match s.streams with
  | [] => s
  | stream :: streams =>
    match outcome with
    | .written count =>
      if stream.lost = true ∨ count = 0 then s
      else
        { s with
          streams :=
            { stream with written := stream.written ++ ((writeOutput json w.value).drop w.count).take count } :: streams
          writing :=
            if w.count + count < (writeOutput json w.value).length then some { w with count := w.count + count }
            else none }
    | .wouldBlock => { s with writing := none, output := writes json (vpnDown true) }
    | .lost =>
      { s with
        streams := { stream with lost := true } :: streams
        writing := none
        output := writes json (vpnDown true) }

/-- The next event, where `recv` waits for a value. -/
def handleEvents (s : State) : State :=
  match s.events with
  | [] => { s with phase := if s.newConnectionNeeded then .connecting else .polling }
  | .vpn event :: events => handleVpn json event { s with events }
  | .stdinWaker :: events =>
    match s.channel with
    | [] => s
    | value :: channel => { s with events, channel, writing := some { value } }

/-- What the main thread does next with the events of a poll. -/
def main (outcome : Outcome) (s : State) : State :=
  if s.phase ≠ .handling then s
  else
    match s.output, s.values, s.writing with
    | bytes :: output, _, _ => { s with stdout := s.stdout ++ bytes, output }
    | [], value :: values, _ => { s with output := writes json value, values }
    | [], [], some w => writeStream json outcome w s
    | [], [], none => handleEvents json s

def step (s : State) : Op → State
  | .readStdin value => readStdin json value s
  | .wake => wake s
  | .writePong => writePong s
  | .connect ok => connect ok s
  | .poll before after => poll before after s
  | .main outcome => main json outcome s

/-- The frames of values that were sent, in their order, with the last one cut short where it may be. -/
def Whole (sent : List JsonValue) (cutShort : Prop) (bytes : Bytes) : Prop :=
  (∃ values : List JsonValue, values.Sublist sent ∧ bytes = values.flatMap (writeOutput json)) ∨
    cutShort ∧ ∃ (values : List JsonValue) (value : JsonValue) (part : Bytes), (values ++ [value]).Sublist sent ∧
      part <+: writeOutput json value ∧ bytes = values.flatMap (writeOutput json) ++ part

/-- What a thread has left of a frame that it has started to write. -/
def rest (parts : List Bytes) : Bytes := if parts.length = 1 then parts.flatten else []

/-- No value is left behind, and all that is written are whole frames, apart from what is being written. -/
structure Correct (s : State) : Prop where
  drained : s.phase = .polling → s.waking = false → s.pending = false → s.channel = []
  stream : ∀ stream ∈ s.streams.head?, Whole json s.sent (stream.lost = true ∨ s.writing.isSome) stream.written
  streams : ∀ stream ∈ s.streams.tail, Whole json s.sent (stream.lost = true) stream.written
  stdout : ∃ values : List JsonValue, s.stdout ++ rest s.pong ++ rest s.output = values.flatMap (writeOutput json)

/-- The waker is not woken twice, the threads do not write within a frame of the other one, and a stream that is not
lost blocks only before a frame. -/
def Allowed (s : State) : Op → Prop
  | .wake => s.waking = true → s.pending = false
  | .writePong => s.pong ≠ [] → s.output.length ≠ 1
  | .main outcome => (s.output ≠ [] → s.pong.length ≠ 1) ∧ (outcome = .wouldBlock → ∀ w ∈ s.writing, w.count = 0)
  | _ => True

variable {json} {s : State} {value : JsonValue} {bytes stdout : Bytes} {parts pong output : List Bytes}
  {sent taken : List JsonValue} {p q : Prop} {stream : Stream} {streams : List Stream} {writing : Option Writing}

section Output

/-- Nothing, a frame in its two parts, or the second one. -/
def Parts (json : Json JsonValue) (parts : List Bytes) : Prop :=
  parts = [] ∨ ∃ value, parts = writes json value ∨ parts = [json.toString value]

/-- What the threads have to write, and what they have written up to the frame that one of them has started. -/
structure Shared (json : Json JsonValue) (stdout : Bytes) (pong output : List Bytes) : Prop where
  stdin : Parts json pong
  main : Parts json output
  alone : pong.length = 1 → output.length ≠ 1
  framed : ∃ values : List JsonValue, stdout ++ rest pong ++ rest output = values.flatMap (writeOutput json)

lemma rest_of_ne (h : parts.length ≠ 1) : rest parts = [] := if_neg h

lemma rest_singleton (bytes : Bytes) : rest [bytes] = bytes := by simp [rest]

lemma Shared.symm (h : Shared json stdout pong output) : Shared json stdout output pong where
  stdin := h.main
  main := h.stdin
  alone ho hp := h.alone hp ho
  framed := by
    obtain ⟨values, hv⟩ := h.framed
    refine ⟨values, ?_⟩
    rw [← hv]
    by_cases hp : pong.length = 1
    · rw [rest_of_ne (h.alone hp), List.append_nil, List.append_nil]
    · rw [rest_of_ne hp, List.append_nil, List.append_nil]

lemma Shared.start (h : Shared json stdout [] output) (value : JsonValue) :
    Shared json stdout (writes json value) output where
  stdin := .inr ⟨value, .inl rfl⟩
  main := h.main
  alone hp := absurd hp (by simp [writes])
  framed := h.framed

lemma Shared.write (h : Shared json stdout (bytes :: pong) output) (ho : output.length ≠ 1) :
    Shared json (stdout ++ bytes) pong output := by
  obtain ⟨values, hv⟩ := h.framed
  rw [rest_of_ne ho, List.append_nil] at hv
  obtain hn | ⟨value, hp | hp⟩ := h.stdin
  · cases hn
  · obtain ⟨rfl, rfl⟩ := List.cons.inj hp
    refine ⟨.inr ⟨value, .inr rfl⟩, h.main, fun _ => ho, values ++ [value], ?_⟩
    rw [rest_of_ne (by simp), List.append_nil] at hv
    rw [rest_of_ne ho, rest_singleton, hv, List.flatMap_append, List.flatMap_singleton, writeOutput, List.append_nil,
      List.append_assoc]
  · obtain ⟨rfl, rfl⟩ := List.cons.inj hp
    refine ⟨.inl rfl, h.main, fun _ => ho, values, ?_⟩
    rw [rest_singleton] at hv
    rw [rest_of_ne ho, hv, rest_of_ne (by simp), List.append_nil, List.append_nil]

end Output

section Streams

lemma Whole.mono (h : Whole json sent p bytes) (hs : sent.Sublist taken) (hp : p → q) : Whole json taken q bytes := by
  obtain ⟨values, hv, hb⟩ | ⟨hc, values, value, part, hv, hpart, hb⟩ := h
  · exact .inl ⟨values, hv.trans hs, hb⟩
  · exact .inr ⟨hp hc, values, value, part, hv.trans hs, hpart, hb⟩

/-- What is written on the stream that is connected, where the value that is being written was taken last. -/
def Written (json : Json JsonValue) (taken : List JsonValue) (stream : Stream) : Option Writing → Prop
  | none => Whole json taken (stream.lost = true) stream.written
  | some w => ∃ before, taken = before ++ [w.value] ∧
      (w.count = 0 ∧ Whole json before (stream.lost = true) stream.written ∨
        ∃ values : List JsonValue, values.Sublist before ∧
          stream.written = values.flatMap (writeOutput json) ++ (writeOutput json w.value).take w.count)

structure Streams (json : Json JsonValue) (taken : List JsonValue) (streams : List Stream) (writing : Option Writing) :
    Prop where
  stream : ∀ stream ∈ streams.head?, Written json taken stream writing
  streams : ∀ stream ∈ streams.tail, Whole json taken (stream.lost = true) stream.written

lemma Written.whole (h : Written json taken stream writing) :
    Whole json taken (stream.lost = true ∨ writing.isSome) stream.written := by
  cases writing with
  | none => exact h.mono (List.Sublist.refl _) Or.inl
  | some w =>
    obtain ⟨before, rfl, ⟨-, hw⟩ | ⟨values, hv, hb⟩⟩ := h
    · exact hw.mono (List.sublist_append_left _ _) Or.inl
    · exact .inr ⟨.inr rfl, values, w.value, _, hv.append (List.Sublist.refl _), List.take_prefix _ _, hb⟩

lemma Streams.cons (h : Streams json taken streams none) : Streams json taken ({} :: streams) none where
  stream stream hm := by
    cases hm
    exact .inl ⟨[], List.nil_sublist _, rfl⟩
  streams stream hm := by
    cases streams with
    | nil => cases hm
    | cons head streams =>
      rcases List.mem_cons.mp hm with rfl | hm
      · exact h.stream _ rfl
      · exact h.streams _ hm

lemma Streams.take (h : Streams json taken streams none) (value : JsonValue) :
    Streams json (taken ++ [value]) streams (some { value }) where
  stream stream hm := ⟨taken, rfl, .inl ⟨rfl, h.stream stream hm⟩⟩
  streams stream hm := (h.streams stream hm).mono (List.sublist_append_left _ _) id

lemma Streams.written {w : Writing} {count : ℕ} (h : Streams json taken (stream :: streams) (some w))
    (hl : stream.lost = false) :
    Streams json taken
      ({ stream with written := stream.written ++ ((writeOutput json w.value).drop w.count).take count } :: streams)
      (if w.count + count < (writeOutput json w.value).length then some { w with count := w.count + count }
      else none) := by
  refine ⟨?_, h.streams⟩
  rintro _ ⟨⟩
  obtain ⟨before, ht, hw⟩ := h.stream stream rfl
  obtain ⟨values, hv, hb⟩ : ∃ values : List JsonValue, values.Sublist before ∧
      stream.written = values.flatMap (writeOutput json) ++ (writeOutput json w.value).take w.count := by
    obtain ⟨hc, ⟨values, hv, hb⟩ | ⟨hlost, -⟩⟩ | hw := hw
    · exact ⟨values, hv, by rw [hb, hc, List.take_zero, List.append_nil]⟩
    · rw [hl] at hlost
      cases hlost
    · exact hw
  have hb' : stream.written ++ ((writeOutput json w.value).drop w.count).take count =
      values.flatMap (writeOutput json) ++ (writeOutput json w.value).take (w.count + count) := by
    rw [hb, List.append_assoc, List.take_add]
  split
  · exact ⟨before, ht, .inr ⟨values, hv, hb'⟩⟩
  · next hn =>
    refine .inl ⟨values ++ [w.value], ?_, ?_⟩
    · rw [ht]
      exact hv.append (List.Sublist.refl _)
    · rw [hb', List.take_of_length_le (not_lt.mp hn), List.flatMap_append, List.flatMap_singleton]

lemma Streams.wouldBlock {w : Writing} (h : Streams json taken streams (some w)) (hc : w.count = 0) :
    Streams json taken streams none := by
  refine ⟨?_, h.streams⟩
  intro stream hm
  obtain ⟨before, rfl, ⟨-, hw⟩ | ⟨values, hv, hb⟩⟩ := h.stream stream hm
  · exact hw.mono (List.sublist_append_left _ _) id
  · rw [hc, List.take_zero, List.append_nil] at hb
    exact .inl ⟨values, hv.trans (List.sublist_append_left _ _), hb⟩

lemma Streams.lost (h : Streams json taken (stream :: streams) writing) :
    Streams json taken ({ stream with lost := true } :: streams) none := by
  refine ⟨?_, h.streams⟩
  rintro _ ⟨⟩
  exact (h.stream stream rfl).whole.mono (List.Sublist.refl _) fun _ => rfl

end Streams

/-- There is an event for each value in the channel, apart from one whose thread has yet to wake the other one. -/
structure Inv (json : Json JsonValue) (s : State) : Prop where
  count : s.channel.length = s.pending.toNat + s.waking.toNat + s.events.countP Event.isWaker
  resting : s.phase ≠ .handling → s.events = [] ∧ s.writing = none
  taken : ∃ taken, s.sent = taken ++ s.channel ∧ Streams json taken s.streams s.writing
  shared : Shared json s.stdout s.pong s.output

lemma Inv.correct (h : Inv json s) : Correct json s := by
  obtain ⟨taken, hs, ht⟩ := h.taken
  have hsub : taken.Sublist s.sent := hs ▸ List.sublist_append_left _ _
  constructor
  · intro hp hw hn
    have hc := h.count
    rw [hw, hn, (h.resting (by simp [hp])).1] at hc
    exact List.length_eq_zero_iff.mp hc
  · intro stream hm
    exact (ht.stream stream hm).whole.mono hsub id
  · intro stream hm
    exact (ht.streams stream hm).mono hsub id
  · exact h.shared.framed

lemma Inv.readStdin (h : Inv json s) (value : JsonValue) : Inv json (readStdin json value s) := by
  rw [Bridge.readStdin]
  split_ifs with hb
  · exact h
  · obtain ⟨-, hp⟩ := not_or.mp hb
    have hpong : s.pong = [] := not_not.mp hp
    have hs := h.shared
    rw [hpong] at hs
    exact ⟨h.count, h.resting, h.taken, hs.start _⟩
  · obtain ⟨hw, -⟩ := not_or.mp hb
    obtain ⟨taken, hs, ht⟩ := h.taken
    refine ⟨?_, h.resting, ⟨taken, by rw [hs, List.append_assoc], ht⟩, h.shared⟩
    have hc := h.count
    rw [Bool.not_eq_true _ |>.mp hw] at hc
    simp only [List.length_append, List.length_singleton, hc, Bool.toNat_false, Bool.toNat_true]
    omega

lemma Inv.wake (h : Inv json s) (hp : s.waking = true → s.pending = false) : Inv json (wake s) := by
  rw [Bridge.wake]
  split_ifs with hw
  · refine ⟨?_, h.resting, h.taken, h.shared⟩
    have hc := h.count
    rw [hw, hp hw] at hc
    simpa using hc
  · exact h

lemma Inv.writePong (h : Inv json s) (ho : s.pong ≠ [] → s.output.length ≠ 1) : Inv json (writePong s) := by
  rw [Bridge.writePong]
  cases hp : s.pong with
  | nil => exact h
  | cons bytes pong =>
    have hs := h.shared
    rw [hp] at hs ho
    exact ⟨h.count, h.resting, h.taken, hs.write (ho (List.cons_ne_nil _ _))⟩

lemma Inv.connect (h : Inv json s) (ok : Bool) : Inv json (connect ok s) := by
  rw [Bridge.connect]
  split_ifs with hc
  · obtain ⟨he, hw⟩ := h.resting (by simp [hc.1])
    obtain ⟨taken, hs, ht⟩ := h.taken
    rw [hw] at ht
    exact ⟨h.count, fun _ => ⟨he, hw⟩, ⟨taken, hs, hw ▸ ht.cons⟩, h.shared⟩
  · exact h

lemma Inv.poll (h : Inv json s) (before after : List VpnEvent) : Inv json (poll before after s) := by
  rw [Bridge.poll]
  by_cases hp : s.phase = .polling ∧ (s.pending = true ∨ before ++ after ≠ [])
  · rw [if_pos hp]
    obtain ⟨he, hw⟩ := h.resting (by simp [hp.1])
    refine ⟨?_, fun hn => absurd rfl hn, h.taken, h.shared⟩
    have hc := h.count
    have hvpn (events : List VpnEvent) : (events.map Event.vpn).countP Event.isWaker = 0 := by
      simp [List.countP_eq_zero, Event.isWaker]
    rw [he, List.countP_nil] at hc
    simp only [List.countP_append, hvpn, hc]
    cases s.pending <;> simp [Event.isWaker, Nat.add_comm]
  · rw [if_neg hp]
    exact h

lemma Inv.start (h : Inv json s) (ho : s.output = []) (value : JsonValue) :
    Shared json s.stdout s.pong (writes json value) := by
  have hs := h.shared
  rw [ho] at hs
  exact (hs.symm.start value).symm

lemma Inv.handleVpn (h : Inv json s) (ho : s.output = []) (event : VpnEvent) : Inv json (handleVpn json event s) := by
  rw [Bridge.handleVpn]
  by_cases hc : event.closed = true
  · rw [if_pos hc]
    exact ⟨h.count, h.resting, h.taken, h.start ho _⟩
  rw [if_neg hc]
  by_cases hn : s.newConnectionNeeded = true
  · rw [if_pos hn]
    exact h
  · rw [if_neg hn]
    refine ⟨h.count, h.resting, h.taken, ?_⟩
    dsimp only
    split
    · exact h.start ho _
    · exact h.shared

lemma Inv.writeStream {outcome : Outcome} {w : Writing} (h : Inv json s) (hp : s.phase = .handling)
    (ho : s.output = []) (hw : s.writing = some w) (hb : outcome = .wouldBlock → w.count = 0) :
    Inv json (writeStream json outcome w s) := by
  rw [Bridge.writeStream]
  obtain ⟨taken, hsent, ht⟩ := h.taken
  cases hs : s.streams with
  | nil => exact h
  | cons stream streams =>
    rw [hs, hw] at ht
    cases outcome with
    | written count =>
      dsimp only
      by_cases hl : stream.lost = true ∨ count = 0
      · rw [if_pos hl]
        exact h
      · rw [if_neg hl]
        have hlost : stream.lost = false := Bool.not_eq_true _ |>.mp (not_or.mp hl).1
        exact ⟨h.count, fun hn => absurd hp hn, ⟨taken, hsent, ht.written hlost⟩, h.shared⟩
    | wouldBlock => exact ⟨h.count, fun hn => absurd hp hn, ⟨taken, hsent, ht.wouldBlock (hb rfl)⟩, h.start ho _⟩
    | lost => exact ⟨h.count, fun hn => absurd hp hn, ⟨taken, hsent, ht.lost⟩, h.start ho _⟩

lemma Inv.handleEvents (h : Inv json s) (hp : s.phase = .handling) (ho : s.output = []) (hw : s.writing = none) :
    Inv json (handleEvents json s) := by
  rw [Bridge.handleEvents]
  have hc := h.count
  cases he : s.events with
  | nil =>
    rw [he] at hc
    exact ⟨hc, fun _ => ⟨rfl, hw⟩, h.taken, h.shared⟩
  | cons event events =>
    rw [he] at hc
    cases event with
    | vpn event =>
      have hrest : Inv json { s with events } :=
        ⟨by simpa [Event.isWaker] using hc, fun hn => absurd hp hn, h.taken, h.shared⟩
      exact hrest.handleVpn ho event
    | stdinWaker =>
      obtain ⟨taken, hsent, ht⟩ := h.taken
      cases hch : s.channel with
      | nil => exact h
      | cons value channel =>
        rw [hw] at ht
        rw [hch] at hc hsent
        refine ⟨?_, fun hn => absurd hp hn, ⟨taken ++ [value], by simp [hsent], ht.take value⟩, h.shared⟩
        simp only [List.length_cons, List.countP_cons, Event.isWaker, if_true] at hc ⊢
        omega

lemma Inv.main {outcome : Outcome} (h : Inv json s) (ha : Allowed s (.main outcome)) :
    Inv json (main json outcome s) := by
  rw [Bridge.main]
  by_cases hp : s.phase = .handling
  case neg =>
    rw [if_pos hp]
    exact h
  rw [if_neg (not_not.mpr hp)]
  split
  · next bytes output ho =>
    have hs := h.shared
    rw [ho] at hs
    have hpong := ha.1 (by simp [ho])
    exact ⟨h.count, h.resting, h.taken, (hs.symm.write hpong).symm⟩
  · next value values ho _ => exact ⟨h.count, h.resting, h.taken, h.start ho value⟩
  · next w ho _ hw => exact h.writeStream hp ho hw fun hb => ha.2 hb w hw
  · next ho _ hw => exact h.handleEvents hp ho hw

lemma Inv.step {op : Op} (h : Inv json s) (ha : Allowed s op) : Inv json (step json s op) := by
  cases op with
  | readStdin value => exact h.readStdin value
  | wake => exact h.wake ha
  | writePong => exact h.writePong ha
  | connect ok => exact h.connect ok
  | poll before after => exact h.poll before after
  | main outcome => exact h.main ha

variable (json) in
lemma inv_start : Inv json {} where
  count := rfl
  resting _ := ⟨rfl, rfl⟩
  taken := ⟨[], rfl, ⟨fun _ hm => (by cases hm), fun _ hm => (by cases hm)⟩⟩
  shared := ⟨.inl rfl, .inl rfl, fun hp => (by cases hp), [], rfl⟩

/-- In a run whose steps meet the condition. -/
theorem correct_throughout (json : Json JsonValue) (ops : List Op) (h : Meets (step json) Allowed {} ops) :
    ∀ fs, fs <+: ops → Correct json (run (step json) {} fs) := by
  intro fs hf
  exact ((h.of_prefix hf).invariant (fun _ _ hs ha => hs.step ha) (inv_start json)).correct

/-- Values that are all written as one byte. -/
def oneByte : Json JsonValue := ⟨fun _ => [7], fun _ => none, fun _ => [7], fun _ => none⟩

/-- A value is sent and written in two parts, between a notice and a pong. -/
def exchange : List Op :=
  [.connect true, .readStdin (.string "a"), .wake, .poll [{ writable := true }] [], .main .lost, .main .lost,
    .main .lost, .main .lost, .main (.written 3), .main (.written 2), .readStdin (.string "bridge_ping"), .writePong,
    .writePong, .main .lost]

theorem correct_exchange : Correct oneByte (run (step oneByte) {} exchange) := by
  have hread {s : State} {outcome : Outcome} (ho : outcome ≠ .wouldBlock) (hp : s.pong = []) :
      Allowed s (.main outcome) := ⟨fun _ => by simp [hp], fun h => absurd h ho⟩
  apply correct_throughout oneByte exchange _ exchange List.prefix_rfl
  refine ⟨trivial, trivial, fun _ => rfl, trivial, hread ?_ rfl, hread ?_ rfl, hread ?_ rfl, hread ?_ rfl, hread ?_ rfl,
    hread ?_ rfl, trivial, fun _ => ?_, fun _ => ?_, hread ?_ rfl, trivial⟩ <;> decide

/-- Two values whose wakes are one event, after which the second one stays. -/
def coalesced : List Op :=
  [.connect true, .readStdin (.string "a"), .wake, .readStdin (.string "b"), .wake, .poll [] [], .main .lost,
    .main (.written 5), .main .lost]

/-- A write that stops within a frame. -/
def stopped : List Op :=
  [.connect true, .readStdin (.string "a"), .wake, .poll [] [], .main .lost, .main (.written 1), .main .wouldBlock]

/-- A notice within a pong. -/
def interleaved : List Op :=
  [.connect true, .readStdin (.string "bridge_ping"), .writePong, .poll [{ writable := true }] [], .main .lost,
    .main .lost, .main .lost, .writePong]

/-- A value is left behind, and frames are cut short on a stream that is not lost, or on the output. -/
theorem not_correct_bridge :
    ¬Correct oneByte (run (step oneByte) {} coalesced) ∧ ¬Correct oneByte (run (step oneByte) {} stopped) ∧
      ¬Correct oneByte (run (step oneByte) {} interleaved) := by
  have hframe (value : JsonValue) : writeOutput oneByte value = [1, 0, 0, 0, 7] :=
    (by decide : LittleEndian.bytes 4 1 ++ [7] = [1, 0, 0, 0, 7])
  refine ⟨?_, ?_, ?_⟩
  · intro h
    cases h.drained rfl rfl rfl
  · intro h
    obtain ⟨values, -, hv⟩ | ⟨hc, -⟩ := h.stream { written := [1] } rfl
    · have hl := congrArg List.length hv
      cases values with
      | nil => cases hl
      | cons value values => simp [hframe] at hl
    · exact absurd hc (by decide +kernel)
  · intro h
    obtain ⟨values, hv⟩ := h.stdout
    have ht := congrArg (List.take 5) hv
    cases values with
    | nil => cases ht
    | cons value values =>
      rw [List.flatMap_cons, hframe] at ht
      cases ht

end VpnClient.WebExtension.Bridge
