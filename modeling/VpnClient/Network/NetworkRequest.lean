import VpnClient.Library.Runs

/-! Requests over the network: how one ends, by its reply, by the timer or by a call to abort it. -/

namespace VpnClient.Network

open Library.Runs

abbrev Bytes := List UInt8

inductive NetworkError where
  | NoError
  | ConnectionRefusedError
  | TimeoutError
  | OperationCanceledError
  | other (code : ℕ)
  deriving DecidableEq

/-- A reply, with the bytes that were received and not read. The status is zero until it is known. -/
structure NetworkReply where
  status : ℕ := 0
  buffer : Bytes := []
  finished : Bool := false
  error : NetworkError := .NoError

inductive Signal where
  | requestCompleted (data : Bytes)
  | requestFailed (error : NetworkError) (data : Bytes)
  deriving DecidableEq

/-- A request with its reply. `received` are all the bytes of the body that were received. -/
structure NetworkRequest where
  expectedStatusCodes : List ℕ
  reply : NetworkReply := {}
  replyData : Bytes := []
  timer : Bool := true
  completed : Bool := false
  aborted : Bool := false
  deleted : Bool := false
  signals : List Signal := []
  received : Bytes := []

namespace NetworkRequest

def emit (signal : Signal) (r : NetworkRequest) : NetworkRequest := { r with signals := r.signals ++ [signal] }

def processData (error : NetworkError) (status : ℕ) (data : Bytes) (r : NetworkRequest) : NetworkRequest :=
  let r := { r with completed := true, timer := false }
  if status ≠ 0 ∧ status ∈ r.expectedStatusCodes then r.emit (.requestCompleted data)
  else if error ≠ .NoError then r.emit (.requestFailed error data)
  else if r.expectedStatusCodes ≠ [] then r.emit (.requestFailed .ConnectionRefusedError data)
  else r.emit (.requestCompleted data)

/-- What was received is read. -/
def readAll (r : NetworkRequest) : NetworkRequest :=
  { r with replyData := r.replyData ++ r.reply.buffer, reply := { r.reply with buffer := [] } }

def replyFinished (r : NetworkRequest) : NetworkRequest :=
  if r.completed then r
  else
    let r := r.readAll
    r.processData r.reply.error r.reply.status r.replyData

def maybeDeleteLater (r : NetworkRequest) : NetworkRequest := { r with deleted := r.deleted || r.reply.finished }

/-- The reply signals that it finished. -/
def finish (error : NetworkError) (r : NetworkRequest) : NetworkRequest :=
  { r with reply := { r.reply with finished := true, error } }.replyFinished.maybeDeleteLater

/-- `abort` of the reply, which finishes at once unless it has. -/
def abortReply (r : NetworkRequest) : NetworkRequest :=
  if r.reply.finished then r else r.finish .OperationCanceledError

def abort (r : NetworkRequest) : NetworkRequest := { r with aborted := true }.abortReply

def timeout (r : NetworkRequest) : NetworkRequest :=
  ({ r with completed := true }.abortReply).emit (.requestFailed .TimeoutError [])

/-- Bytes that are received before they are signalled, signals of the reply and of the timer, and calls. -/
inductive Event where
  | received (chunk : Bytes)
  | readyRead
  | metaDataChanged (status : ℕ)
  | finished (error : NetworkError)
  | timeout
  | abort

def step (r : NetworkRequest) : Event → NetworkRequest
  | .received chunk =>
    if r.reply.finished then r
    else { r with reply := { r.reply with buffer := r.reply.buffer ++ chunk }, received := r.received ++ chunk }
  | .readyRead => if r.reply.finished then r else r.readAll
  | .metaDataChanged status => if r.reply.finished then r else { r with reply := { r.reply with status } }
  | .finished error => if r.reply.finished then r else r.finish error
  | .timeout => if r.timer then { r with timer := false }.timeout.maybeDeleteLater else r
  | .abort => r.abort

/-- A status of the 2xx kind. -/
def Successful (status : ℕ) : Prop := 200 ≤ status ∧ status < 300

instance (status : ℕ) : Decidable (Successful status) := inferInstanceAs (Decidable (_ ∧ _))

/-- One signal is emitted when the request is completed; until then the timer runs, and the request lives on. -/
structure Ends (r : NetworkRequest) : Prop where
  signals : r.signals.length = if r.completed then 1 else 0
  timer : r.completed = false → r.timer = true
  deleted : r.deleted = r.completed

/-- A request that completes successfully has received the whole body. -/
def Whole (r : NetworkRequest) : Prop := ∀ data, Signal.requestCompleted data ∈ r.signals →
  Successful r.reply.status → r.reply.error = .NoError ∧ data = r.received

/-- The reply is cut off, if at all, before an expected status of success. -/
def CutOffEarly (r : NetworkRequest) : Event → Prop
  | .finished error => r.reply.finished = false → error ≠ .NoError →
    Successful r.reply.status → r.reply.status ∉ r.expectedStatusCodes
  | .abort => r.reply.finished = false → Successful r.reply.status → r.reply.status ∉ r.expectedStatusCodes
  | _ => True

/-- What holds of a request in every state. -/
structure Inv (r : NetworkRequest) : Prop extends Ends r where
  finished : r.reply.finished = r.completed
  stopped : r.timer = !r.completed
  data : r.completed = false → r.replyData ++ r.reply.buffer = r.received

variable {r : NetworkRequest} {event : Event} {error : NetworkError}

/-- What is emitted when the reply finishes. -/
def outcome (error : NetworkError) (r : NetworkRequest) : Signal :=
  if r.reply.status ≠ 0 ∧ r.reply.status ∈ r.expectedStatusCodes then .requestCompleted r.received
  else if error ≠ .NoError then .requestFailed error r.received
  else if r.expectedStatusCodes ≠ [] then .requestFailed .ConnectionRefusedError r.received
  else .requestCompleted r.received

lemma finish_eq (h : r.Inv) (hc : r.completed = false) (error : NetworkError) : r.finish error =
    { r with
      reply := { r.reply with buffer := [], finished := true, error }, replyData := r.received, timer := false,
      completed := true, deleted := true, signals := [r.outcome error] } := by
  have hs : r.signals = [] := List.length_eq_zero_iff.mp (by simpa [hc] using h.signals)
  simp only [finish, replyFinished, hc, Bool.false_eq_true, if_false, readAll, h.data hc, processData, outcome, emit,
    maybeDeleteLater, hs]
  split_ifs <;> simp

lemma timeout_eq (h : r.Inv) (hc : r.completed = false) : { r with timer := false }.timeout.maybeDeleteLater =
    { r with
      reply := { r.reply with finished := true, error := .OperationCanceledError }, timer := false,
      completed := true, deleted := true, signals := [.requestFailed .TimeoutError []] } := by
  have hs : r.signals = [] := List.length_eq_zero_iff.mp (by simpa [hc] using h.signals)
  have hf : r.reply.finished = false := h.finished.trans hc
  simp [timeout, abortReply, hf, finish, replyFinished, maybeDeleteLater, emit, hs]

variable (event) in
lemma step_completed (h : r.Inv) (hc : r.completed = true) :
    step r event = r ∨ step r event = { r with aborted := true } := by
  have hf : r.reply.finished = true := h.finished.trans hc
  have ht : r.timer = false := by rw [h.stopped, hc]; rfl
  cases event <;> simp [step, hf, ht, abort, abortReply]

lemma Inv.finish (h : r.Inv) (hc : r.completed = false) (error : NetworkError) : (r.finish error).Inv := by
  rw [finish_eq h hc]
  exact ⟨⟨rfl, (fun h => by cases h), rfl⟩, rfl, rfl, fun h => by cases h⟩

lemma Inv.aborted (h : r.Inv) : Inv { r with aborted := true } :=
  ⟨⟨h.signals, h.timer, h.deleted⟩, h.finished, h.stopped, h.data⟩

lemma step_abort (h : r.Inv) (hc : r.completed = false) :
    step r .abort = { r with aborted := true }.finish .OperationCanceledError := by
  have hf : r.reply.finished = false := h.finished.trans hc
  simp [step, abort, abortReply, hf]

lemma Inv.step (h : r.Inv) (event : Event) : (step r event).Inv := by
  cases hc : r.completed with
  | true =>
    obtain he | he := step_completed event h hc
    · rwa [he]
    · rw [he]
      exact h.aborted
  | false =>
    have hf : ¬r.reply.finished = true := by simp [h.finished, hc]
    cases event with
    | received chunk =>
      rw [NetworkRequest.step, if_neg hf]
      exact ⟨⟨h.signals, h.timer, h.deleted⟩, h.finished, h.stopped, fun _ => by simp [← h.data hc]⟩
    | readyRead =>
      rw [NetworkRequest.step, if_neg hf]
      exact ⟨⟨h.signals, h.timer, h.deleted⟩, h.finished, h.stopped, fun _ => by simp [readAll, ← h.data hc]⟩
    | metaDataChanged status =>
      rw [NetworkRequest.step, if_neg hf]
      exact ⟨⟨h.signals, h.timer, h.deleted⟩, h.finished, h.stopped, h.data⟩
    | finished error =>
      rw [NetworkRequest.step, if_neg hf]
      exact h.finish hc error
    | timeout =>
      rw [NetworkRequest.step, if_pos (h.timer hc), timeout_eq h hc]
      exact ⟨⟨rfl, (fun h => by cases h), rfl⟩, rfl, rfl, fun h => by cases h⟩
    | abort =>
      rw [step_abort h hc]
      exact h.aborted.finish hc _

lemma whole_finish_iff (h : r.Inv) (hc : r.completed = false) (error : NetworkError) : (r.finish error).Whole ↔
    (error ≠ .NoError → Successful r.reply.status → r.reply.status ∉ r.expectedStatusCodes) := by
  rw [finish_eq h hc]
  simp only [Whole, List.mem_singleton, outcome]
  constructor
  · intro hw he hs hm
    have h₀ : r.reply.status ≠ 0 := fun h => by simp [h, Successful] at hs
    exact he (hw r.received (by rw [if_pos ⟨h₀, hm⟩]) hs).1
  · intro hn data hd hs
    split_ifs at hd with hm he hx
    · obtain rfl := Signal.requestCompleted.inj hd
      refine ⟨?_, rfl⟩
      by_contra he
      exact hn he hs hm.2
    · obtain rfl := Signal.requestCompleted.inj hd
      exact ⟨by simpa using he, rfl⟩

lemma cutOffEarly_iff (h : r.Inv) (hw : r.Whole) (event : Event) : r.CutOffEarly event ↔ (step r event).Whole := by
  cases hc : r.completed with
  | true =>
    have hf : r.reply.finished = true := h.finished.trans hc
    have he : r.CutOffEarly event := by
      cases event <;> simp [CutOffEarly, hf]
    apply iff_of_true he
    obtain hr | hr := step_completed event h hc
    · rwa [hr]
    · rw [hr]
      exact hw
  | false =>
    have hf : r.reply.finished = false := h.finished.trans hc
    have hs : r.signals = [] := List.length_eq_zero_iff.mp (by simpa [hc] using h.signals)
    cases event with
    | received chunk => exact iff_of_true trivial fun data hd => by simp [step, hf, hs] at hd
    | readyRead => exact iff_of_true trivial fun data hd => by simp [step, hf, readAll, hs] at hd
    | metaDataChanged status => exact iff_of_true trivial fun data hd => by simp [step, hf, hs] at hd
    | finished error =>
      rw [NetworkRequest.step, if_neg (by simp [hf]), whole_finish_iff h hc]
      simp [CutOffEarly, hf]
    | timeout =>
      rw [NetworkRequest.step, if_pos (h.timer hc), timeout_eq h hc]
      exact iff_of_true trivial fun data hd => by simp at hd
    | abort =>
      rw [step_abort h hc, whole_finish_iff h.aborted hc]
      simp [CutOffEarly, hf]

/-- In every run one signal is emitted, when the request is completed, and while it is not the timer goes on to do so.
A success is reported for whole replies only exactly if no reply is cut off after an expected status of success. -/
theorem ends_once (expectedStatusCodes : List ℕ) (events : List Event) :
    (∀ es, es <+: events → (run step { expectedStatusCodes } es).Ends) ∧
    ((∀ es, es <+: events → (run step { expectedStatusCodes } es).Whole) ↔
      Meets step CutOffEarly { expectedStatusCodes } events) := by
  have h₀ : Inv { expectedStatusCodes } := ⟨⟨rfl, fun _ => rfl, rfl⟩, rfl, rfl, fun _ => rfl⟩
  have hw : Whole { expectedStatusCodes } := fun _ hd => by cases hd
  refine ⟨fun es _ => ?_, ?_⟩
  · exact (run_invariant (P := Inv) (fun r e h => h.step e) h₀ : Inv _).toEnds
  · exact (meets_iff_throughout (P := fun r => r.Inv ∧ r.Whole) (Q := Whole)
      (fun r e h hc => ⟨h.1.step e, (cutOffEarly_iff h.1 h.2 e).mp hc⟩)
      (fun r e h => cutOffEarly_iff h.1 h.2 e) ⟨h₀, hw⟩ hw).symm

/-- A download that is aborted after its header is reported as completed. -/
theorem ends_aborted :
    let r := run step { expectedStatusCodes := [200] } [.metaDataChanged 200, .received [0x61], .readyRead, .abort]
    r.signals = [.requestCompleted [0x61]] ∧ r.reply.error = .OperationCanceledError ∧ ¬r.Whole := by
  refine ⟨by decide, by decide, fun h => ?_⟩
  have hw := (h [0x61] (by decide) (by decide)).1
  revert hw
  decide

end NetworkRequest

end VpnClient.Network
