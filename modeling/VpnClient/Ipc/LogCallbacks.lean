import VpnClient.Ipc.LocalSocketController
import VpnClient.Library.Runs

/-! The callbacks that wait for the logs of the daemon, when a callback may call the controller while it is invoked. -/

namespace VpnClient.Ipc

open Backend Library.Runs

/-- What the controller does when a callback returns: it goes on with the one that supersedes it, ends the reply to a
request, or does nothing more. -/
inductive Frame where
  | superseding (callback : ℕ)
  | replying
  | done
  deriving DecidableEq

/-- The callbacks are numbered as they are passed, `running` are the invocations that have not returned, the last one
first, and `unanswered` counts the requests for logs on the current connection. -/
structure LogClient where
  client : LocalSocketController := {}
  running : List Frame := []
  passed : ℕ := 0
  invoked : List ℕ := []
  unanswered : ℕ := 0

namespace LogClient

/-- Calls of the client, returns of callbacks, messages of the daemon, signals of the socket and timeouts. -/
inductive Event where
  | getBackendLogs
  | callbackReturned
  | message (obj : JsonObject)
  | initializeController
  | activate (json : JsonObject)
  | deactivate (reason : Reason)
  | checkStatus
  | cleanupBackendLogs
  | socketConnected
  | socketDisconnected
  | socketError
  | initializingTimeout
  | responseTimeout (request : ℕ)

def invoke (callback : ℕ) (logs : String) (frame : Frame) (s : LogClient) : LogClient :=
  { s with
    client := s.client.emit (.logCallback callback logs)
    running := frame :: s.running
    invoked := s.invoked ++ [callback] }

/-- The part of `getBackendLogs` that follows the invocation of the callback that is stored. -/
def request (callback : ℕ) (s : LogClient) : LogClient :=
  if s.client.daemonState ≠ .eReady then s.invoke callback "" .done
  else
    { s with
      client := { s.client with logCallback := some callback }.write [("type", .string "logs")] ""
        CONNECTION_RESPONSE_TIMEOUT_MSEC
      unanswered := if s.client.socketConnected then s.unanswered + 1 else s.unanswered }

def clear (s : LogClient) : LogClient := { s with client := { s.client with logCallback := none } }

def getBackendLogs (s : LogClient) : LogClient :=
  let callback := s.passed
  let s := { s with passed := s.passed + 1 }
  match s.client.logCallback with
  | some old => s.invoke old "" (.superseding callback)
  | none => s.request callback

def callbackReturned (s : LogClient) : LogClient :=
  match s.running with
  | [] => s
  | .superseding callback :: running => { s with running }.clear.request callback
  | .replying :: running => { s with running }.clear
  | .done :: running => { s with running }

variable (formats : Formats)

def isLogs (obj : JsonObject) : Bool := obj.string? "type" == some "logs"

def logsOf (obj : JsonObject) : String :=
  ((obj.string? "logs").map (·.map fun ch => if ch = '|' then '\n' else ch)).getD ""

/-- `parseCommand` for a message of the daemon. -/
def message (obj : JsonObject) (s : LogClient) : LogClient :=
  let s := { s with unanswered := if isLogs obj then s.unanswered - 1 else s.unanswered }
  match s.client.logCallback with
  | none => { s with client := s.client.parseMessage formats obj }
  | some callback =>
    if isLogs obj ∧ s.client.daemonState = .eReady then
      { s with client := s.client.clearTimeout "logs" }.invoke callback (logsOf obj) .replying
    else { s with client := s.client.parseMessage formats obj }

/-- What does not concern the logs is left to the controller; a request is lost with its connection. -/
def other (event : LocalSocketController.Event) (s : LogClient) : LogClient :=
  let client := s.client.handle formats event
  { s with
    client
    unanswered := if s.client.socketConnected && client.socketConnected then s.unanswered else 0 }

def step (s : LogClient) : Event → LogClient
  | .getBackendLogs => s.getBackendLogs
  | .callbackReturned => s.callbackReturned
  | .message obj => s.message formats obj
  | .initializeController => s.other formats .initializeController
  | .activate json => s.other formats (.activate json)
  | .deactivate reason => s.other formats (.deactivate reason)
  | .checkStatus => s.other formats .checkStatus
  | .cleanupBackendLogs => s.other formats .cleanupBackendLogs
  | .socketConnected => s.other formats .socketConnected
  | .socketDisconnected => s.other formats .socketDisconnected
  | .socketError => s.other formats .socketError
  | .initializingTimeout => s.other formats .initializingTimeout
  | .responseTimeout request => s.other formats (.responseTimeout request)

/-- The callback that is stored, or was, has not returned. -/
def Invoking (s : LogClient) : Prop := ∃ frame ∈ s.running, frame ≠ .done

instance (s : LogClient) : Decidable s.Invoking := inferInstanceAs (Decidable (∃ frame ∈ s.running, frame ≠ .done))

/-- No callback is invoked twice, a callback is stored only for a request without an answer, and each one that was
passed was invoked or is stored. -/
structure Sound (s : LogClient) : Prop where
  once : ∀ callback, s.invoked.count callback ≤ 1
  requested : ¬s.Invoking → s.client.logCallback.isSome → 0 < s.unanswered
  kept : ¬s.Invoking → ∀ callback < s.passed, callback ∈ s.invoked ∨ s.client.logCallback = some callback

/-- A request for logs is written to a connection. -/
def Writable (s : LogClient) : Prop := s.client.daemonState = .eReady → s.client.socketConnected = true

/-- No connection is lost while a callback waits. -/
def Expendable (s : LogClient) : Prop := ¬s.Invoking → s.client.logCallback = none

/-- Logs are neither requested nor received while a stored callback is invoked, they are requested on a connection, and
no connection is lost while a callback waits. -/
def Orderly (s : LogClient) : Event → Prop
  | .getBackendLogs => if s.client.logCallback.isSome then ¬s.Invoking else s.Writable
  | .callbackReturned => (∃ callback, s.running.head? = some (.superseding callback)) → s.Writable
  | .message obj =>
    s.client.logCallback.isSome → isLogs obj ∧ s.client.daemonState = .eReady → ¬s.Invoking
  | .initializeController => s.Expendable
  | .socketDisconnected => s.Expendable
  | .initializingTimeout => s.client.initializingTimer.isSome → s.Expendable
  | .activate _ => True
  | .deactivate _ => True
  | .checkStatus => True
  | .cleanupBackendLogs => True
  | .socketConnected => True
  | .socketError => True
  | .responseTimeout _ => True

/-- No stored callback is invoked: each one that was passed was invoked, but for the one that waits for its logs. -/
structure Quiet (s : LogClient) : Prop where
  idle : ∀ frame ∈ s.running, frame = .done
  once : ∀ callback, s.invoked.count callback ≤ 1
  known : ∀ callback ∈ s.invoked, callback < s.passed
  kept : ∀ callback < s.passed, callback ∈ s.invoked ∨ s.client.logCallback = some callback
  connected : 0 < s.unanswered → s.client.socketConnected = true
  stored : ∀ callback, s.client.logCallback = some callback →
    callback < s.passed ∧ callback ∉ s.invoked ∧ s.client.daemonState = .eReady ∧ 0 < s.unanswered

/-- The callbacks that were invoked when the frame is the innermost one. -/
def Accounts (s : LogClient) : Frame → Prop
  | .superseding new => s.passed = new + 1 ∧ ∀ callback, callback ∈ s.invoked ↔ callback < new
  | .replying => ∀ callback, callback ∈ s.invoked ↔ callback < s.passed
  | .done => False

/-- The callback that is stored is invoked, and nothing is invoked within. -/
structure Busy (s : LogClient) : Prop where
  inner : ∃ frame running, s.running = frame :: running ∧ (∀ frame ∈ running, frame = .done) ∧ s.Accounts frame
  once : ∀ callback, s.invoked.count callback ≤ 1
  connected : 0 < s.unanswered → s.client.socketConnected = true
  stored : ∃ callback ∈ s.invoked, s.client.logCallback = some callback

def Inv (s : LogClient) : Prop := s.Quiet ∨ s.Busy

variable {formats : Formats} {s : LogClient} {c : LocalSocketController} {obj : JsonObject} {callback : ℕ}
  {running : List Frame}

lemma client_request : (s.request callback).client =
    if s.client.daemonState ≠ .eReady then s.client.emit (.logCallback callback "")
    else { s.client with logCallback := some callback }.write [("type", .string "logs")] ""
      CONNECTION_RESPONSE_TIMEOUT_MSEC := by
  rw [request]
  split <;> rfl

/-- A callback that returns at once leaves what the controller makes of the call. -/
lemma client_getBackendLogs :
    (if s.client.logCallback.isSome then s.getBackendLogs.callbackReturned else s.getBackendLogs).client =
      s.client.getBackendLogs s.passed := by
  rw [getBackendLogs, LocalSocketController.getBackendLogs]
  cases hc : s.client.logCallback with
  | none => exact client_request
  | some old => exact client_request

/-- And so do the logs of the daemon. -/
lemma client_message :
    (if s.client.logCallback.isSome ∧ isLogs obj ∧ s.client.daemonState = .eReady then
      (s.message formats obj).callbackReturned else s.message formats obj).client = s.client.parseMessage formats obj := by
  rw [message]
  cases hc : s.client.logCallback with
  | none => simp
  | some callback =>
    by_cases hl : isLogs obj ∧ s.client.daemonState = .eReady
    · have ht : obj.string? "type" = some "logs" := beq_iff_eq.mp hl.1
      have hp : s.client.parseMessage formats obj =
          { (s.client.clearTimeout "logs").emit (.logCallback callback (logsOf obj)) with logCallback := none } := by
        rw [LocalSocketController.parseMessage, ht]
        simp [LocalSocketController.parseType, LocalSocketController.clearTimeout, hl.2, hc, logsOf]
      rw [hp, if_pos ⟨Option.isSome_some, hl⟩]
      dsimp only
      rw [if_pos hl]
      rfl
    · rw [if_neg fun h => hl h.2]
      dsimp only
      rw [if_neg hl]

lemma not_invoking (h : ∀ frame ∈ s.running, frame = .done) : ¬s.Invoking := by
  rintro ⟨frame, hm, hf⟩
  exact hf (h frame hm)

lemma Busy.invoking (h : s.Busy) : s.Invoking := by
  obtain ⟨frame, running, hr, -, ha⟩ := h.inner
  refine ⟨frame, hr ▸ List.mem_cons_self, ?_⟩
  rintro rfl
  exact ha

lemma Inv.sound (h : s.Inv) : s.Sound := by
  obtain h | h := h
  · refine ⟨h.once, fun _ hs => ?_, fun _ => h.kept⟩
    obtain ⟨callback, hc⟩ := Option.isSome_iff_exists.mp hs
    exact (h.stored callback hc).2.2.2
  · exact ⟨h.once, fun hi => absurd h.invoking hi, fun hi => absurd h.invoking hi⟩

lemma count_concat {l : List ℕ} (h : ∀ x, l.count x ≤ 1) (hc : callback ∉ l) :
    ∀ x, (l ++ [callback]).count x ≤ 1 := by
  intro x
  rw [List.count_append, List.count_singleton]
  split
  · next hx =>
    have hz : l.count x = 0 := List.count_eq_zero.mpr ((beq_iff_eq.mp hx) ▸ hc)
    omega
  · exact h x

lemma mem_invoke {other : ℕ} {logs : String} {frame : Frame} :
    other ∈ (s.invoke callback logs frame).invoked ↔ other ∈ s.invoked ∨ other = callback := by
  rw [invoke, List.mem_append, List.mem_singleton]

lemma not_sound_invoke (h : callback ∈ s.invoked) (logs : String) (frame : Frame) :
    ¬(s.invoke callback logs frame).Sound := by
  intro hs
  have ho := hs.once callback
  have hp := List.count_pos_iff.mpr h
  rw [invoke] at ho
  dsimp only at ho
  rw [List.count_append, List.count_singleton_self] at ho
  omega

/-- A callback is requested when none is stored and all others were invoked. -/
structure Requesting (callback : ℕ) (s : LogClient) : Prop where
  idle : ∀ frame ∈ s.running, frame = .done
  once : ∀ callback, s.invoked.count callback ≤ 1
  connected : 0 < s.unanswered → s.client.socketConnected = true
  free : s.client.logCallback = none
  passed : s.passed = callback + 1
  invoked : ∀ other, other ∈ s.invoked ↔ other < callback

lemma Requesting.inv (h : s.Requesting callback) (hw : s.Writable) : (s.request callback).Inv := by
  have hn : callback ∉ s.invoked := by rw [h.invoked]; omega
  left
  rw [request]
  split
  · rw [invoke]
    constructor
    case idle => exact List.forall_mem_cons.mpr ⟨rfl, h.idle⟩
    case once => exact count_concat h.once hn
    case known =>
      intro x hx
      rw [List.mem_append, List.mem_singleton, h.invoked] at hx
      rw [h.passed]
      omega
    case kept =>
      intro x hx
      rw [List.mem_append, List.mem_singleton, h.invoked]
      rw [h.passed] at hx
      omega
    case connected => exact h.connected
    case stored =>
      intro x hx
      have hx : s.client.logCallback = some x := hx
      rw [h.free] at hx
      cases hx
  · next hr =>
    have hr := not_not.mp hr
    have hs := hw hr
    constructor
    case idle => exact h.idle
    case once => exact h.once
    case known =>
      intro x hx
      rw [h.invoked] at hx
      rw [h.passed]
      omega
    case kept =>
      intro x hx
      rw [h.passed] at hx
      rw [h.invoked]
      by_cases hxc : x = callback
      · exact .inr (by rw [hxc]; rfl)
      · left; omega
    case connected => exact fun _ => hs
    case stored =>
      intro x hx
      obtain rfl : callback = x := Option.some.inj hx
      refine ⟨by rw [h.passed]; omega, hn, hr, ?_⟩
      dsimp only
      rw [if_pos hs]
      exact Nat.succ_pos _

lemma Requesting.not_sound (h : s.Requesting callback) (hw : ¬s.Writable) : ¬(s.request callback).Sound := by
  obtain ⟨hr, hs⟩ := Classical.not_imp.mp hw
  intro hx
  rw [request, if_neg (not_not.mpr hr), if_neg hs] at hx
  exact hs (h.connected (hx.requested (not_invoking h.idle) rfl))

/-- What a change of the controller leaves to the callbacks. -/
structure Frames (c c' : LocalSocketController) : Prop where
  logCallback : c'.logCallback = c.logCallback
  ready : c.daemonState = .eReady → c'.daemonState = .eReady
  connected : c.socketConnected = true → c'.socketConnected = true

lemma Quiet.frame {c' : LocalSocketController} {unanswered : ℕ} (h : s.Quiet) (hc : Frames s.client c')
    (hu : unanswered ≤ s.unanswered) (hl : s.client.logCallback.isSome → unanswered = s.unanswered) :
    Quiet { s with client := c', unanswered } := by
  constructor
  case idle => exact h.idle
  case once => exact h.once
  case known => exact h.known
  case kept => exact hc.logCallback ▸ h.kept
  case connected => exact fun hp => hc.connected (h.connected (hp.trans_le hu))
  case stored =>
    intro x hx
    have hx : s.client.logCallback = some x := hc.logCallback.symm.trans hx
    obtain ⟨hp, hi, hr, hn⟩ := h.stored x hx
    refine ⟨hp, hi, hc.ready hr, ?_⟩
    dsimp only
    rw [hl (hx ▸ rfl)]
    exact hn

lemma Quiet.lose {c' : LocalSocketController} (h : s.Quiet) (hc : c'.logCallback = s.client.logCallback)
    (hn : s.client.logCallback = none) : Quiet { s with client := c', unanswered := 0 } := by
  constructor
  case idle => exact h.idle
  case once => exact h.once
  case known => exact h.known
  case kept => exact hc ▸ h.kept
  case connected => exact fun hp => absurd hp (lt_irrefl 0)
  case stored =>
    intro x hx
    have hx : s.client.logCallback = some x := hc.symm.trans hx
    rw [hn] at hx
    cases hx

lemma Busy.frame {c' : LocalSocketController} {unanswered : ℕ} (h : s.Busy)
    (hc : c'.logCallback = s.client.logCallback) (hu : 0 < unanswered → c'.socketConnected = true) :
    Busy { s with client := c', unanswered } := by
  obtain ⟨frame, running, hr, hd, ha⟩ := h.inner
  constructor
  case inner =>
    refine ⟨frame, running, hr, hd, ?_⟩
    cases frame <;> exact ha
  case once => exact h.once
  case connected => exact hu
  case stored => exact hc ▸ h.stored

/-- In an orderly step the callbacks are accounted for, and the others are unsound. -/
def Follows (formats : Formats) (s : LogClient) (event : Event) : Prop :=
  (s.Orderly event → (s.step formats event).Inv) ∧ ((s.step formats event).Sound → s.Orderly event)

lemma Quiet.getBackendLogs (h : s.Quiet) : s.Follows formats .getBackendLogs := by
  rw [Follows, Orderly, LogClient.step, LogClient.getBackendLogs]
  cases hc : s.client.logCallback with
  | none =>
    have hr : Requesting s.passed { s with passed := s.passed + 1 } := by
      constructor
      case idle => exact h.idle
      case once => exact h.once
      case connected => exact h.connected
      case free => exact hc
      case passed => rfl
      case invoked =>
        intro x
        constructor
        · exact h.known x
        · intro hx
          simpa [hc] using h.kept x hx
    rw [if_neg (by simp)]
    refine ⟨hr.inv, fun hs => ?_⟩
    by_contra hw
    exact hr.not_sound hw hs
  | some old =>
    obtain ⟨hp, hi, -, -⟩ := h.stored old hc
    rw [if_pos Option.isSome_some]
    refine ⟨fun _ => .inr ?_, fun _ => not_invoking h.idle⟩
    constructor
    case inner =>
      refine ⟨.superseding s.passed, s.running, rfl, h.idle, rfl, ?_⟩
      intro x
      apply (mem_invoke (s := { s with passed := s.passed + 1 })).trans
      constructor
      · rintro (hx | rfl)
        · exact h.known x hx
        · exact hp
      · intro hx
        have hk := h.kept x hx
        rw [hc, Option.some.injEq] at hk
        exact hk.imp_right Eq.symm
    case once => exact count_concat h.once hi
    case connected => exact h.connected
    case stored => exact ⟨old, List.mem_append_right _ (List.mem_singleton_self old), hc⟩

lemma Busy.getBackendLogs (h : s.Busy) : s.Follows formats .getBackendLogs := by
  obtain ⟨old, hi, hc⟩ := h.stored
  rw [Follows, Orderly, LogClient.step, LogClient.getBackendLogs]
  dsimp only
  rw [hc, if_pos Option.isSome_some]
  refine ⟨fun hn => absurd h.invoking hn, fun hs => ?_⟩
  exact absurd hs (not_sound_invoke (s := { s with passed := s.passed + 1 }) hi "" (.superseding s.passed))

lemma Quiet.callbackReturned (h : s.Quiet) : s.Follows formats .callbackReturned := by
  rw [Follows, Orderly, LogClient.step, LogClient.callbackReturned]
  cases hr : s.running with
  | nil =>
    refine ⟨fun _ => .inl h, fun _ => ?_⟩
    rintro ⟨_, hx⟩
    cases hx
  | cons frame running =>
    have hd := h.idle
    rw [hr, List.forall_mem_cons] at hd
    obtain ⟨rfl, hd⟩ := hd
    refine ⟨fun _ => .inl ⟨hd, h.once, h.known, h.kept, h.connected, h.stored⟩, fun _ => ?_⟩
    rintro ⟨_, hx⟩
    cases hx

lemma Busy.callbackReturned (h : s.Busy) : s.Follows formats .callbackReturned := by
  obtain ⟨frame, running, hr, hd, ha⟩ := h.inner
  rw [Follows, Orderly, LogClient.step, LogClient.callbackReturned, hr]
  cases frame with
  | superseding callback =>
    have hq : Requesting callback { s with running }.clear := by
      constructor
      case idle => exact hd
      case once => exact h.once
      case connected => exact h.connected
      case free => rfl
      case passed => exact ha.1
      case invoked => exact ha.2
    refine ⟨fun hw => hq.inv (hw ⟨callback, rfl⟩), fun hs _ => ?_⟩
    by_contra hw
    exact hq.not_sound hw hs
  | replying =>
    refine ⟨fun _ => .inl ?_, fun _ => ?_⟩
    · constructor
      case idle => exact hd
      case once => exact h.once
      case known => exact fun x hx => (ha x).mp hx
      case kept => exact fun x hx => .inl ((ha x).mpr hx)
      case connected => exact h.connected
      case stored =>
        intro x hx
        cases hx
    · rintro ⟨_, hx⟩
      cases hx
  | done => exact absurd ha id

lemma frames_parseType {type : String} (h : c.logCallback = none ∨ ¬(type = "logs" ∧ c.daemonState = .eReady)) :
    Frames c (c.parseType formats type obj) := by
  rw [LocalSocketController.parseType]
  split_ifs with h₁ h₂ h₃ h₄ h₅ h₆ h₇
  · dsimp only
    split <;> exact ⟨rfl, fun _ => rfl, id⟩
  · exact ⟨rfl, id, id⟩
  · rw [LocalSocketController.emitStatusFromJson]
    split <;> exact ⟨rfl, id, id⟩
  · exact ⟨rfl, fun _ => rfl, id⟩
  · split <;> exact ⟨rfl, id, id⟩
  · exact ⟨rfl, id, id⟩
  · have hc : c.logCallback = none := h.resolve_right fun hn => hn ⟨h₇, not_not.mp h₂⟩
    rw [hc]
    exact ⟨rfl, id, id⟩
  · exact ⟨rfl, id, id⟩

lemma frames_parseMessage (h : c.logCallback = none ∨ ¬(isLogs obj ∧ c.daemonState = .eReady)) :
    Frames c (c.parseMessage formats obj) := by
  rw [LocalSocketController.parseMessage]
  cases ht : obj.string? "type" with
  | none => exact ⟨rfl, id, id⟩
  | some type =>
    have hf : Frames (c.clearTimeout type) ((c.clearTimeout type).parseType formats type obj) := by
      apply frames_parseType
      change c.logCallback = none ∨ ¬(type = "logs" ∧ c.daemonState = .eReady)
      simpa [isLogs, ht] using h
    exact ⟨hf.logCallback, hf.ready, hf.connected⟩

/-- A message that invokes no callback. -/
lemma message_of_other (h : s.client.logCallback = none ∨ ¬(isLogs obj ∧ s.client.daemonState = .eReady)) :
    s.message formats obj = { s with
      client := s.client.parseMessage formats obj
      unanswered := if isLogs obj then s.unanswered - 1 else s.unanswered } := by
  rw [message]
  dsimp only
  cases hc : s.client.logCallback with
  | none => rfl
  | some callback =>
    dsimp only
    rw [if_neg (h.resolve_left (by simp [hc]))]

lemma message_of_logs (hc : s.client.logCallback = some callback) (h : isLogs obj ∧ s.client.daemonState = .eReady) :
    s.message formats obj = invoke callback (logsOf obj) .replying
      { s with client := s.client.clearTimeout "logs", unanswered := s.unanswered - 1 } := by
  rw [message]
  dsimp only
  rw [hc, if_pos h.1]
  dsimp only
  rw [if_pos h]

lemma Quiet.message (h : s.Quiet) (obj : JsonObject) : s.Follows formats (.message obj) := by
  refine ⟨fun _ => ?_, fun _ _ _ => not_invoking h.idle⟩
  rw [LogClient.step]
  by_cases hl : s.client.logCallback = none ∨ ¬(isLogs obj ∧ s.client.daemonState = .eReady)
  · rw [message_of_other hl]
    left
    apply h.frame (frames_parseMessage hl)
    · split <;> omega
    · intro hc
      obtain ⟨callback, hc⟩ := Option.isSome_iff_exists.mp hc
      have hn : ¬isLogs obj = true := by
        have := h.stored callback hc
        simp_all
      rw [if_neg hn]
  · rw [not_or, not_not] at hl
    obtain ⟨callback, hc⟩ := Option.ne_none_iff_exists'.mp hl.1
    obtain ⟨hp, hi, -, hu⟩ := h.stored callback hc
    rw [message_of_logs hc hl.2]
    right
    constructor
    case inner =>
      refine ⟨.replying, s.running, rfl, h.idle, ?_⟩
      intro x
      apply (mem_invoke (s := { s with client := _, unanswered := _ })).trans
      constructor
      · rintro (hx | rfl)
        · exact h.known x hx
        · exact hp
      · intro hx
        have hk := h.kept x hx
        rw [hc, Option.some.injEq] at hk
        exact hk.imp_right Eq.symm
    case once => exact count_concat h.once hi
    case connected => exact fun _ => h.connected hu
    case stored => exact ⟨callback, List.mem_append_right _ (List.mem_singleton_self callback), hc⟩

lemma Busy.message (h : s.Busy) (obj : JsonObject) : s.Follows formats (.message obj) := by
  obtain ⟨callback, hi, hc⟩ := h.stored
  rw [Follows, Orderly, LogClient.step]
  by_cases hl : isLogs obj ∧ s.client.daemonState = .eReady
  · rw [message_of_logs hc hl]
    refine ⟨fun hn => absurd h.invoking (hn (hc ▸ rfl) hl), fun hs => ?_⟩
    exact absurd hs (not_sound_invoke
      (s := { s with client := s.client.clearTimeout "logs", unanswered := s.unanswered - 1 }) hi (logsOf obj) .replying)
  · rw [message_of_other (.inr hl)]
    have hf : Frames s.client (s.client.parseMessage formats obj) := frames_parseMessage (.inr hl)
    refine ⟨fun _ => .inr (h.frame hf.logCallback fun hu => ?_), fun _ _ hx => absurd hx hl⟩
    apply hf.connected
    apply h.connected
    split at hu <;> omega

lemma frames_errorOccurred : Frames c c.errorOccurred := by
  rw [LocalSocketController.errorOccurred]
  split <;> exact ⟨rfl, id, id⟩

lemma frames_checkStatus : Frames c c.checkStatus := by
  rw [LocalSocketController.checkStatus]
  split <;> exact ⟨rfl, id, id⟩

/-- What loses the connection keeps the callback that is stored. -/
structure Loses (c c' : LocalSocketController) : Prop where
  logCallback : c'.logCallback = c.logCallback
  connected : c'.socketConnected = false

lemma loses_errorOccurred (h : c.socketConnected = false) : Loses c c.errorOccurred := by
  rw [LocalSocketController.errorOccurred]
  split <;> exact ⟨rfl, h⟩

lemma loses_abort : Loses c c.abort := by
  rw [LocalSocketController.abort]
  split
  · have h := loses_errorOccurred (c := { c.emit .abort with socketConnected := false }) rfl
    exact ⟨h.logCallback, h.connected⟩
  · next h => exact ⟨rfl, by simpa using h⟩

lemma loses_initializeInternal : Loses c c.initializeInternal := by
  rw [LocalSocketController.initializeInternal]
  generalize ite (c.daemonState ≠ .eInitializing) _ _ = interval
  have h := loses_abort (c := { c with initializingInterval := interval, daemonState := .eInitializing })
  exact ⟨h.logCallback, h.connected⟩

lemma Inv.follows_of_frames {event : LocalSocketController.Event} (h : s.Inv)
    (hf : Frames s.client (s.client.handle formats event)) : (s.other formats event).Inv := by
  rw [other]
  obtain h | h := h
  · left
    apply h.frame hf
    · split <;> omega
    · intro hc
      obtain ⟨callback, hc⟩ := Option.isSome_iff_exists.mp hc
      have hs := h.connected (h.stored callback hc).2.2.2
      rw [hs, hf.connected hs]
      rfl
  · right
    apply h.frame hf.logCallback
    intro hu
    split at hu
    · next hs => exact (Bool.and_eq_true_iff.mp hs).2
    · exact absurd hu (lt_irrefl 0)

lemma Inv.follows_of_loses {event : LocalSocketController.Event} (h : s.Inv)
    (hl : Loses s.client (s.client.handle formats event)) :
    (s.Expendable → (s.other formats event).Inv) ∧ ((s.other formats event).Sound → s.Expendable) := by
  have hu : (s.other formats event) = { s with client := s.client.handle formats event, unanswered := 0 } := by
    rw [other]
    rw [hl.connected, Bool.and_false]
    rfl
  rw [hu]
  obtain h | h := h
  · have hi : ¬s.Invoking := not_invoking h.idle
    refine ⟨fun he => .inl (h.lose hl.logCallback (he hi)), fun hs _ => ?_⟩
    by_contra hc
    have hp := hs.requested hi (by dsimp only; rw [hl.logCallback]; exact Option.isSome_iff_ne_none.mpr hc)
    exact absurd hp (lt_irrefl 0)
  · refine ⟨fun _ => .inr (h.frame hl.logCallback fun hp => absurd hp (lt_irrefl 0)), fun _ hi => ?_⟩
    exact absurd h.invoking hi

lemma Inv.follows (h : s.Inv) (event : Event) : s.Follows formats event := by
  have hf : ∀ event', Frames s.client (s.client.handle formats event') →
      (True → (s.other formats event').Inv) ∧ ((s.other formats event').Sound → True) :=
    fun event' hf => ⟨fun _ => h.follows_of_frames hf, fun _ => trivial⟩
  cases event with
  | getBackendLogs => exact h.elim Quiet.getBackendLogs Busy.getBackendLogs
  | callbackReturned => exact h.elim Quiet.callbackReturned Busy.callbackReturned
  | message obj => exact h.elim (·.message obj) (·.message obj)
  | initializeController => exact h.follows_of_loses loses_initializeInternal
  | activate json => exact hf _ ⟨rfl, id, id⟩
  | deactivate reason =>
    apply hf
    rw [LocalSocketController.handle, LocalSocketController.deactivate]
    split_ifs <;> exact ⟨rfl, id, id⟩
  | checkStatus => exact hf _ frames_checkStatus
  | cleanupBackendLogs =>
    apply hf
    rw [LocalSocketController.handle, LocalSocketController.cleanupBackendLogs]
    split <;> exact ⟨rfl, id, id⟩
  | socketConnected =>
    apply hf
    have hc := frames_checkStatus (c := { s.client with socketConnected := true })
    exact ⟨hc.logCallback, hc.ready, fun _ => hc.connected rfl⟩
  | socketDisconnected =>
    have hl := loses_errorOccurred (c := { s.client with socketConnected := false }) rfl
    exact h.follows_of_loses ⟨hl.logCallback, hl.connected⟩
  | socketError => exact hf _ frames_errorOccurred
  | initializingTimeout =>
    by_cases ht : s.client.initializingTimer.isSome
    · have hl := loses_initializeInternal (c := { s.client with initializingTimer := none })
      have hh : s.client.handle formats .initializingTimeout =
          { s.client with initializingTimer := none }.initializeInternal := if_pos ht
      have hl' : Loses s.client (s.client.handle formats .initializingTimeout) := by
        rw [hh]
        exact ⟨hl.logCallback, hl.connected⟩
      have hs := h.follows_of_loses hl'
      exact ⟨fun ho => hs.1 (ho ht), fun hx _ => hs.2 hx⟩
    · have hh : s.client.handle formats .initializingTimeout = s.client := if_neg ht
      have hf' : Frames s.client (s.client.handle formats .initializingTimeout) := by
        rw [hh]
        exact ⟨rfl, id, id⟩
      exact ⟨fun _ => h.follows_of_frames hf', fun _ hx => absurd hx ht⟩
  | responseTimeout request =>
    apply hf
    rw [LocalSocketController.handle]
    split
    · exact frames_errorOccurred
    · exact ⟨rfl, id, id⟩

lemma inv_initial : Inv {} := by
  left
  constructor
  case idle => exact List.forall_mem_nil _
  case once => simp
  case known => simp
  case kept => simp
  case connected => simp
  case stored => simp

/-- The condition is exact over every run. -/
theorem sound_iff_orderly_calls (formats : Formats) (events : List Event) :
    (∀ before, before <+: events → (run (step formats) {} before).Sound) ↔
      Meets (step formats) Orderly {} events :=
  (meets_iff_throughout (fun _ event h ho => (h.follows event).1 ho)
    (fun _ event h => ⟨fun ho => ((h.follows event).1 ho).sound, (h.follows event).2⟩) inv_initial
    inv_initial.sound).symm

/-- A call from within a callback has it invoked again, and a callback that waits survives the connection. -/
theorem unsound_calls :
    let formats : Formats := ⟨fun _ => none, fun _ => none, fun _ => ""⟩
    let status : JsonObject := [("type", .string "status"), ("connected", .bool false)]
    let events := [Event.initializeController, .socketConnected, .message status, .getBackendLogs]
    ¬(∀ before, before <+: events ++ [.message [("type", .string "logs")], .getBackendLogs] →
        (run (step formats) {} before).Sound) ∧
      ¬∀ before, before <+: events ++ [.socketDisconnected] → (run (step formats) {} before).Sound := by
  intro formats status events
  constructor
  · intro h
    have hs := (h _ List.prefix_rfl).once 0
    exact absurd hs (by decide +kernel)
  · intro h
    have hs := (h _ List.prefix_rfl).requested (by decide +kernel) (by decide +kernel)
    exact absurd hs (by decide +kernel)

end LogClient

end VpnClient.Ipc
