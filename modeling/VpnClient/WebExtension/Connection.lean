import VpnClient.Library.Frames
import VpnClient.Library.Runs

/-! The client's end of a connection from the bridge of the web extension: how it reads the messages. -/

namespace VpnClient.WebExtension

open Library Library.Frames Library.LittleEndian Library.Runs

abbrev Bytes := List UInt8

def MAX_MSG_SIZE : ℕ := 1024 * 1024

inductive Connection.State where
  | ReadingLength
  | ReadingBody
  deriving DecidableEq

/-- A connection with its device, which is open and has been written to. `messages` are the messages that were
processed, and `received` the objects among them. -/
structure Connection (O : Type) where
  state : Connection.State := .ReadingLength
  buffer : Bytes := []
  messageLength : ℕ := 0
  isOpen : Bool := true
  written : Bytes := []
  messages : List Bytes := []
  received : List O := []

namespace Connection

variable {O : Type} (fromJson : Bytes → Option O)

def close (c : Connection O) : Connection O := { c with isOpen := false }

/-- A device that is open takes all it is written. -/
def writeData (data : Bytes) (c : Connection O) : Connection O :=
  if c.isOpen then { c with written := c.written ++ frame data } else c.close

def invalidRequest : Bytes := "\x7b\"t\":\"invalidRequest\"\x7d".toUTF8.toList

def processMessage (message : Bytes) (c : Connection O) : Connection O :=
  let c := { c with messages := c.messages ++ [message] }
  match fromJson message with
  | none => c.writeData invalidRequest
  | some obj => { c with received := c.received ++ [obj] }

/-- The second case of the loop in `readData`, and whether the loop goes on. -/
def readBody (c : Connection O) : Bool × Connection O :=
  if c.buffer.length < c.messageLength then (false, c)
  else
    let message := c.buffer.take c.messageLength
    let c := { c with buffer := c.buffer.drop c.messageLength }
    (true, { processMessage fromJson message c with messageLength := 0, state := .ReadingLength })

/-- The first case, which falls through to the second. -/
def readLength (c : Connection O) : Bool × Connection O :=
  if c.buffer.length < 4 then (false, c)
  else
    let messageLength := value (c.buffer.take 4)
    let c := { c with buffer := c.buffer.drop 4, messageLength }
    if messageLength = 0 ∨ MAX_MSG_SIZE < messageLength then (false, c.close)
    else readBody fromJson { c with state := .ReadingBody }

def iterate (c : Connection O) : Bool × Connection O :=
  match c.state with
  | .ReadingLength => readLength fromJson c
  | .ReadingBody => readBody fromJson c

/-- What remains to be read: the loop ends when it is used up. -/
def remaining (c : Connection O) : ℕ := 2 * c.buffer.length + if c.state = .ReadingBody then 1 else 0

lemma buffer_processMessage (message : Bytes) (c : Connection O) :
    (processMessage fromJson message c).buffer = c.buffer := by
  rw [processMessage, writeData, close]
  cases fromJson message with
  | none => dsimp only; split <;> rfl
  | some obj => rfl

lemma remaining_readBody {c : Connection O} (h : (readBody fromJson c).1 = true) :
    (readBody fromJson c).2.remaining ≤ 2 * c.buffer.length := by
  rw [readBody] at h ⊢
  split at h
  · cases h
  · next hl =>
    rw [if_neg hl]
    simp [remaining, buffer_processMessage]

lemma remaining_iterate {c : Connection O} (h : (iterate fromJson c).1 = true) :
    (iterate fromJson c).2.remaining < c.remaining := by
  rw [iterate] at h ⊢
  cases hs : c.state with
  | ReadingLength =>
    simp only [hs, readLength] at h ⊢
    split at h
    · cases h
    · next hl =>
      rw [if_neg hl]
      split at h
      · cases h
      · next hm =>
        rw [if_neg hm]
        have hb := remaining_readBody fromJson h
        simp only [List.length_drop] at hb
        simp only [remaining] at hb ⊢
        omega
  | ReadingBody =>
    simp only [hs] at h ⊢
    have hb := remaining_readBody fromJson h
    simp only [remaining, hs, if_true] at hb ⊢
    omega

def readLoop (c : Connection O) : Connection O :=
  if h : (iterate fromJson c).1 = true then
    have := remaining_iterate fromJson h
    readLoop (iterate fromJson c).2
  else (iterate fromJson c).2
termination_by c.remaining

lemma readLoop_false {c c' : Connection O} (h : iterate fromJson c = (false, c')) : readLoop fromJson c = c' := by
  rw [readLoop, dif_neg (by simp [h]), h]

lemma readLoop_true {c c' : Connection O} (h : iterate fromJson c = (true, c')) :
    readLoop fromJson c = readLoop fromJson c' := by
  have hc : (iterate fromJson c).2 = c' := by rw [h]
  rw [readLoop, dif_pos (by rw [h])]
  exact congrArg (readLoop fromJson) hc

def readData (input : Bytes) (c : Connection O) : Connection O :=
  readLoop fromJson { c with buffer := c.buffer ++ input }

/-- A device that is closed signals no more input. -/
def step (c : Connection O) (input : Bytes) : Connection O := if c.isOpen then c.readData fromJson input else c

/-- The lengths of messages for which the connection stays open. -/
def accepts (length : ℕ) : Bool := length != 0 && decide (length ≤ MAX_MSG_SIZE)

/-- What was read of an unfinished message. -/
def pending (c : Connection O) : Bytes :=
  match c.state with
  | .ReadingLength => c.buffer
  | .ReadingBody => bytes 4 c.messageLength ++ c.buffer

def Valid (c : Connection O) : Prop := c.state = .ReadingBody → accepts c.messageLength = true

variable {fromJson} {c : Connection O} {n : ℕ} {more body : Bytes}

lemma accepts_lt (h : accepts n = true) : n < 2 ^ 32 := by
  have hm : n ≤ 1024 * 1024 := of_decide_eq_true (Bool.and_eq_true_iff.mp h).2
  omega

lemma not_accepts_iff : accepts n = false ↔ n = 0 ∨ MAX_MSG_SIZE < n := by
  simp [accepts, or_iff_not_imp_left]

lemma header_inj {m : ℕ} {others : Bytes} (hn : n < 2 ^ 32) (hm : m < 2 ^ 32)
    (h : bytes 4 m ++ others = bytes 4 n ++ more) : m = n ∧ others = more := by
  obtain ⟨hb, ho⟩ := List.append_inj h (by simp)
  have hv := congrArg value hb
  rw [value_bytes, value_bytes, Nat.mod_eq_of_lt (by simpa using hm), Nat.mod_eq_of_lt (by simpa using hn)] at hv
  exact ⟨hv, ho⟩

variable (fromJson) in
lemma iterate_body (hv : c.Valid) (hn : accepts n = true) (hp : c.pending = bytes 4 n ++ more) :
    iterate fromJson c = readBody fromJson { c with buffer := more, messageLength := n, state := .ReadingBody } := by
  rw [iterate, pending] at *
  cases hs : c.state with
  | ReadingLength =>
    simp only [hs] at hp ⊢
    rw [readLength]
    have hb : ¬(n = 0 ∨ MAX_MSG_SIZE < n) := by simp [← not_accepts_iff, hn]
    rw [hp, if_neg (by simp), take_header (accepts_lt hn), drop_header, if_neg hb]
  | ReadingBody =>
    simp only [hs] at hp ⊢
    obtain ⟨rfl, rfl⟩ := header_inj (accepts_lt hn) (accepts_lt (hv hs)) hp
    rw [← hs]

lemma iterate_stopped (hv : c.Valid) (hn : n < 2 ^ 32) (ha : accepts n = false)
    (hp : c.pending = bytes 4 n ++ more) : iterate fromJson c =
      (false, { c with buffer := more, messageLength := n, isOpen := false }) := by
  rw [iterate, pending] at *
  cases hs : c.state with
  | ReadingLength =>
    simp only [hs] at hp ⊢
    rw [readLength]
    rw [hp, if_neg (by simp), take_header hn, drop_header, if_pos (not_accepts_iff.mp ha)]
    simp [close, hs]
  | ReadingBody =>
    simp only [hs] at hp
    obtain ⟨rfl, -⟩ := header_inj hn (accepts_lt (hv hs)) hp
    simp [hv hs] at ha

lemma iterate_short (h : c.pending.length < 4) : iterate fromJson c = (false, c) := by
  rw [iterate, pending] at *
  cases hs : c.state with
  | ReadingLength =>
    simp only [hs] at h ⊢
    rw [readLength, if_pos h]
  | ReadingBody => simp [hs] at h

/-- The bodies of the complete frames are processed, and the connection is closed where the stream is stopped. -/
structure Processed (fromJson : Bytes → Option O) (cut : Cut) (c c' : Connection O) : Prop where
  messages : c'.messages = c.messages ++ cut.bodies
  received : c'.received = c.received ++ cut.bodies.filterMap fromJson
  closed : c'.isOpen = !cut.stopped
  pending : cut.stopped = false → c'.Valid ∧ c'.pending = cut.rest

variable (fromJson) in
lemma processed_processMessage (ho : c.isOpen = true) (message : Bytes) :
    let c' := processMessage fromJson message c
    c'.messages = c.messages ++ [message] ∧ c'.received = c.received ++ [message].filterMap fromJson ∧
      c'.isOpen = true ∧ c'.buffer = c.buffer := by
  refine ⟨?_, ?_, ?_, buffer_processMessage _ _ _⟩ <;> unfold processMessage writeData <;>
    cases hj : fromJson message <;> simp [hj, ho]

variable (fromJson) in
lemma readLoop_processed (hv : c.Valid) (ho : c.isOpen = true) :
    Processed fromJson (cut accepts c.pending) c (readLoop fromJson c) := by
  generalize hp : c.pending = stream
  induction stream using stream_induction accepts generalizing c with
  | short stream hs =>
    rw [readLoop_false fromJson (iterate_short (by rwa [hp])), cut_short hs]
    exact ⟨by simp, by simp, by simpa using ho, fun _ => ⟨hv, hp⟩⟩
  | stopped n tail hn ha =>
    rw [readLoop_false fromJson (iterate_stopped hv hn ha hp), cut_stopped hn ha]
    exact ⟨by simp, by simp, by simp, fun h => by cases h⟩
  | unfinished n tail hn ha hm =>
    have hi := (iterate_body fromJson hv ha hp).trans (if_pos hm)
    rw [readLoop_false fromJson hi, cut_unfinished hn ha hm]
    exact ⟨by simp, by simp, by simpa using ho, fun _ => ⟨fun _ => ha, rfl⟩⟩
  | frame body tail hn ha ih =>
    rw [frame, List.append_assoc] at hp
    let d : Connection O := { c with buffer := tail, messageLength := body.length, state := .ReadingBody }
    have hi : iterate fromJson c =
        (true, { processMessage fromJson body d with messageLength := 0, state := .ReadingLength }) := by
      rw [iterate_body fromJson hv ha hp, readBody, if_neg (by simp)]
      simp [d]
    obtain ⟨h₁, h₂, h₃, h₄⟩ := processed_processMessage fromJson (c := d) ho body
    obtain ⟨hm, hr, hc, hd⟩ := ih
      (c := { processMessage fromJson body d with messageLength := 0, state := .ReadingLength })
      (fun h => by cases h) h₃ h₄
    rw [readLoop_true fromJson hi, cut_frame hn ha]
    refine ⟨?_, ?_, hc, hd⟩
    · rw [hm, h₁]
      simp [Cut.after, d]
    · rw [hr]
      refine (congrArg (· ++ _) h₂).trans ?_
      rw [List.append_assoc, ← List.filterMap_append]
      rfl

variable (fromJson) in
lemma step_processed (hv : c.Valid) (ho : c.isOpen = true) (input : Bytes) :
    Processed fromJson (cut accepts (c.pending ++ input)) c (c.step fromJson input) := by
  have hp : Connection.pending { c with buffer := c.buffer ++ input } = c.pending ++ input := by
    unfold pending
    cases c.state with
    | ReadingLength => rfl
    | ReadingBody => exact (List.append_assoc ..).symm
  obtain ⟨hm, hr, hc, hd⟩ := readLoop_processed fromJson (c := { c with buffer := c.buffer ++ input }) hv ho
  rw [hp] at hm hr hc hd
  rw [step, if_pos ho]
  exact ⟨hm, hr, hc, hd⟩

lemma run_closed (ho : c.isOpen = false) (inputs : List Bytes) : run (step fromJson) c inputs = c := by
  refine run_invariant (P := (· = c)) (fun d input h => ?_) rfl
  rw [h, step, if_neg (by simp [ho])]

variable (fromJson) in
lemma run_processed (hv : c.Valid) (ho : c.isOpen = true) (hc : cut accepts c.pending = { rest := c.pending })
    (inputs : List Bytes) :
    Processed fromJson (cut accepts (c.pending ++ inputs.flatten)) c (run (step fromJson) c inputs) := by
  induction inputs generalizing c with
  | nil =>
    rw [List.flatten_nil, List.append_nil, hc]
    exact ⟨by simp, by simp, by simpa using ho, fun _ => ⟨hv, rfl⟩⟩
  | cons input inputs ih =>
    obtain ⟨hm, hr, hs, hd⟩ := step_processed fromJson hv ho input
    rw [List.flatten_cons, ← List.append_assoc, cut_append, run_cons]
    cases hb : (cut accepts (c.pending ++ input)).stopped with
    | true =>
      rw [run_closed (by rw [hs, hb]; rfl), if_pos rfl]
      exact ⟨hm, hr, hs, hd⟩
    | false =>
      obtain ⟨hv', hp'⟩ := hd hb
      obtain ⟨hm', hr', hs', hd'⟩ := ih hv' (by rw [hs, hb]; rfl) (by rw [hp', cut_rest hb])
      rw [hp'] at hm' hr' hs' hd'
      rw [if_neg (by simp)]
      refine ⟨?_, ?_, hs', hd'⟩
      · rw [hm', hm, List.append_assoc]
        rfl
      · rw [hr', hr, List.append_assoc, ← List.filterMap_append]
        rfl

end Connection

end VpnClient.WebExtension
