import VpnClient.Ipc.LocalSocketController
import VpnClient.Ipc.DaemonLocalServerConnection
import VpnClient.Library.Runs

/-! The client and the daemon with the messages between them, which arrive one by one and in order. -/

namespace VpnClient.Ipc

open Backend

/-- The commands on their way to the daemon come with the numbers of the requests, and the messages on their way
to the client with that of the request that they answer. -/
structure Link where
  client : LocalSocketController := {}
  accessControl : DaemonAccessControl := {}
  commands : List (ℕ × JsonObject) := []
  answers : List (Option ℕ × JsonObject) := []

/-- The messages among the effects of the client. -/
def written (out : List Effect) : List (ℕ × JsonObject) :=
  out.filterMap fun
    | .write request message => some (request, message)
    | _ => none

namespace Link

variable (formats : Formats) (peerId : Option ℕ)

/-- Sends what the client has written. Without a connection that goes nowhere, and what was on its way is lost. -/
def transmit (client : LocalSocketController) (l : Link) : Link :=
  if client.socketConnected then { l with client, commands := l.commands ++ written client.out }
  else { l with client, commands := [], answers := [] }

def act (event : LocalSocketController.Event) (l : Link) : Link := l.transmit (l.client.step formats event)

/-- The daemon handles the next command. -/
def serve (answers : DaemonAnswers) (l : Link) : Link :=
  match l.commands with
  | [] => l
  | (request, obj) :: commands =>
    let (accessControl, messages) :=
      DaemonLocalServerConnection.parseCommand formats peerId answers obj l.accessControl
    { l with accessControl, commands, answers := l.answers ++ messages.map (some request, ·) }

/-- The daemon signals something to all its peers. -/
def signal (signal : DaemonSignal) (l : Link) : Link :=
  if l.client.socketConnected then { l with answers := l.answers ++ [(none, signal.toMessage)] } else l

/-- The daemon handles a command of another peer. -/
def serveOther (otherId : Option ℕ) (answers : DaemonAnswers) (obj : JsonObject) (l : Link) : Link :=
  { l with accessControl :=
      (DaemonLocalServerConnection.parseCommand formats otherId answers obj l.accessControl).1 }

/-- The client handles the next message. -/
def receive (l : Link) : Link :=
  match l.answers with
  | [] => l
  | (_, obj) :: answers => { l with answers }.transmit (LocalSocketController.parseMessage formats obj { l.client with out := [] })

end Link

end VpnClient.Ipc

/-! The response timers of the client against the answers of a daemon that stays connected. -/

namespace VpnClient.Ipc

open Backend Library Library.Runs

/-- The calls of the client that go to the daemon. -/
inductive Request where
  | activate (json : JsonObject)
  | deactivate (reason : Reason)
  | checkStatus
  | getBackendLogs (callback : ℕ)
  | cleanupBackendLogs

def Request.toEvent : Request → LocalSocketController.Event
  | activate json => .activate json
  | deactivate reason => .deactivate reason
  | checkStatus => .checkStatus
  | getBackendLogs callback => .getBackendLogs callback
  | cleanupBackendLogs => .cleanupBackendLogs

/-- The type of the response that a command is written with, if any. -/
def expectedResponseType (obj : JsonObject) : Option String :=
  if obj.string? "type" = some "status" then some "status"
  else if obj.string? "type" = some "cleanlogs" then some "logs"
  else none

/-- A command that has a response timer. -/
def requested (command : ℕ × JsonObject) : Option (ℕ × String) := (expectedResponseType command.2).map (command.1, ·)

/-- A message that answers such a command. -/
def answering (answer : Option ℕ × JsonObject) : Option (ℕ × String) :=
  if answer.2.string? "type" = some "status" then answer.1.map (·, "status") else none

lemma filterMap_cons_toList {α β : Type} (f : α → Option β) (a : α) (l : List α) :
    (a :: l).filterMap f = (f a).toList ++ l.filterMap f := by
  cases h : f a <;> simp [h]

namespace LocalSocketController

def timers (c : LocalSocketController) : List (ℕ × String) := c.responseTimeouts.map fun t => (t.request, t.responseType)

/-- What a message does not change. -/
structure Kept (c c' : LocalSocketController) : Prop where
  responseTimeouts : c'.responseTimeouts = c.responseTimeouts
  socketConnected : c'.socketConnected = c.socketConnected
  written : written c'.out = written c.out

/-- A call keeps the timers and writes nothing, or writes a message with its timer. -/
structure Wrote (c c' : LocalSocketController) : Prop where
  socketConnected : c'.socketConnected = c.socketConnected
  messages : written c'.out = written c.out ∧ c'.timers = c.timers ∨ ∃ message,
    written c'.out = written c.out ++ [(c.requests, message)] ∧
      c'.timers = c.timers ++ (requested (c.requests, message)).toList

section Cleared

variable {type : String} {s : Slots Timer} {t : Timer} {ts : List Timer} {slots : List ℕ}

lemma length_clearSlot (s : Slots Timer) (slot : ℕ) :
    (clearSlot type s slot).contents.length ≤ s.contents.length := by
  rw [clearSlot]
  split
  · exact le_rfl
  · split_ifs
    · exact le_rfl
    · rw [Slots.contents_removeOne]
      exact List.length_erase_le

lemma length_foldl_clearSlot (s : Slots Timer) :
    (slots.foldl (clearSlot type) s).contents.length ≤ s.contents.length := by
  induction slots generalizing s with
  | nil => exact le_rfl
  | cons slot slots ih => exact (ih _).trans (length_clearSlot s slot)

variable (type) in
/-- The loop leaves a list without timers of the type alone, and erases the first one that it comes to. -/
lemma foldl_clearSlot (hs : ∀ slot ∈ slots, ∀ t, s.buffer[slot]? = some t → t ∈ s.contents) :
    (∀ slot ∈ slots, ∀ t, s.buffer[slot]? = some t → t.responseType ≠ type) ∧
        slots.foldl (clearSlot type) s = s ∨
      (∃ slot ∈ slots, ∃ t, s.buffer[slot]? = some t ∧ t.responseType = type) ∧
        (slots.foldl (clearSlot type) s).contents.length < s.contents.length := by
  induction slots with
  | nil => exact .inl ⟨by simp, rfl⟩
  | cons slot slots ih =>
    obtain ⟨hslot, hs⟩ := List.forall_mem_cons.mp hs
    rw [List.foldl_cons]
    by_cases hm : ∃ t, s.buffer[slot]? = some t ∧ t.responseType = type
    · obtain ⟨t, ht, htype⟩ := hm
      refine .inr ⟨⟨slot, List.mem_cons_self, t, ht, htype⟩, (length_foldl_clearSlot _).trans_lt ?_⟩
      have hc : clearSlot type s slot = s.removeOne t := by
        rw [clearSlot, ht]
        exact if_neg (not_not.mpr htype)
      have hpos := List.length_pos_of_mem (hslot t ht)
      rw [hc, Slots.contents_removeOne, List.length_erase_of_mem (hslot t ht)]
      omega
    · have hn : ∀ t, s.buffer[slot]? = some t → t.responseType ≠ type := fun t ht he => hm ⟨t, ht, he⟩
      have hc : clearSlot type s slot = s := by
        rw [clearSlot]
        split
        · rfl
        · next t ht => exact if_pos (hn t ht)
      rw [hc]
      obtain ⟨hrest, he⟩ | ⟨⟨other, ho, hrest⟩, he⟩ := ih hs
      · exact .inl ⟨List.forall_mem_cons.mpr ⟨hn, hrest⟩, he⟩
      · exact .inr ⟨⟨other, List.mem_cons_of_mem _ ho, hrest⟩, he⟩

variable (type ts) in
/-- All timers are left, or a timer of the type is erased. -/
lemma clearedTimeouts_cases : (∀ t ∈ ts, t.responseType ≠ type) ∧ clearedTimeouts type ts = ts ∨
    (∃ t ∈ ts, t.responseType = type) ∧ (clearedTimeouts type ts).length < ts.length := by
  have hb : (Slots.ofList ts).buffer = ts := rfl
  have hs : ∀ slot ∈ List.range ts.length, ∀ t, (Slots.ofList ts).buffer[slot]? = some t →
      t ∈ (Slots.ofList ts).contents := by
    intro slot _ t ht
    rw [Slots.contents_ofList]
    exact List.mem_of_getElem? ht
  rw [clearedTimeouts]
  obtain ⟨hn, he⟩ | ⟨⟨slot, -, t, ht, htype⟩, he⟩ := foldl_clearSlot type hs
  · rw [he]
    refine .inl ⟨fun t hm => ?_, Slots.contents_ofList ts⟩
    obtain ⟨slot, hl, rfl⟩ := List.getElem_of_mem hm
    exact hn slot (List.mem_range.mpr hl) _ (by rw [hb, List.getElem?_eq_getElem hl])
  · rw [Slots.contents_ofList] at he
    exact .inr ⟨⟨t, List.mem_of_getElem? ht, htype⟩, he⟩

lemma clearSlot_behind (t : Timer) (slot : ℕ) :
    clearSlot type (s.behind t) (slot + 1) = (clearSlot type s slot).behind t := by
  rw [clearSlot, clearSlot, Slots.getElem?_behind]
  split
  · rfl
  · split_ifs
    · rfl
    · exact Slots.removeOne_behind s t _

/-- Nothing is passed over behind a timer that is erased at the front. -/
lemma clearedTimeouts_cons (ht : t.responseType = type) (ts : List Timer) :
    clearedTimeouts type (t :: ts) = clearedTimeouts type ts := by
  have hfirst : clearSlot type (.ofList (t :: ts)) 0 = (Slots.ofList (t :: ts)).removeOne t :=
    if_neg (not_not.mpr ht)
  have hrest (s : Slots Timer) (slots : List ℕ) :
      (slots.map Nat.succ).foldl (clearSlot type) (s.behind t) = (slots.foldl (clearSlot type) s).behind t := by
    induction slots generalizing s with
    | nil => rfl
    | cons slot slots ih => rw [List.map_cons, List.foldl_cons, List.foldl_cons, clearSlot_behind, ih]
  rw [clearedTimeouts, clearedTimeouts, List.length_cons, List.range_succ_eq_map, List.foldl_cons, hfirst]
  cases ts with
  | nil => simp [Slots.contents_removeOne]
  | cons other ts => rw [Slots.removeOne_ofList_cons _ (List.cons_ne_nil _ _), hrest, Slots.contents_behind]

end Cleared

variable {c c' : LocalSocketController} {formats : Formats}

lemma written_emit {effect : Effect} (h : ∀ request message, effect ≠ .write request message) :
    Ipc.written (c.emit effect).out = Ipc.written c.out := by
  cases effect with
  | write request message => exact (h request message rfl).elim
  | _ => simp [Ipc.written, emit]

lemma kept_emit {effect : Effect} (h : ∀ request message, effect ≠ .write request message) : Kept c (c.emit effect) :=
  ⟨rfl, rfl, written_emit h⟩

lemma kept_emitStatusFromJson (obj : JsonObject) : Kept c (c.emitStatusFromJson obj) := by
  unfold emitStatusFromJson statusFromJson
  cases obj.string? "serverIpv4Gateway" <;> cases obj.string? "deviceIpv4Address" <;>
    cases obj.double? "txBytes" <;> cases obj.double? "rxBytes"
  all_goals first | exact ⟨rfl, rfl, rfl⟩ | exact kept_emit (by simp)

lemma kept_parseType (formats : Formats) (type : String) (obj : JsonObject) : Kept c (c.parseType formats type obj) := by
  unfold parseType
  split_ifs
  · cases initialStatus formats obj with
    | none => exact ⟨rfl, rfl, rfl⟩
    | some status => exact ⟨rfl, rfl, written_emit (by simp)⟩
  · exact ⟨rfl, rfl, rfl⟩
  · exact kept_emitStatusFromJson obj
  · exact ⟨rfl, rfl, written_emit (by simp)⟩
  · cases obj.string? "pubkey" with
    | none => exact ⟨rfl, rfl, rfl⟩
    | some pubkey => exact kept_emit (by simp)
  · exact kept_emit (by simp)
  · cases c.logCallback with
    | none => exact ⟨rfl, rfl, rfl⟩
    | some callback => exact ⟨rfl, rfl, written_emit (by simp)⟩
  · exact ⟨rfl, rfl, rfl⟩

lemma timeouts_parseMessage (formats : Formats) (obj : JsonObject) : (c.parseMessage formats obj).responseTimeouts =
    match obj.string? "type" with
    | none => c.responseTimeouts
    | some type => clearedTimeouts type c.responseTimeouts := by
  unfold parseMessage
  cases obj.string? "type" with
  | none => rfl
  | some type => exact (kept_parseType formats type obj).responseTimeouts

/-- The timers stay exactly if there is none of the type. -/
lemma timers_cleared_iff {type : String} {timeouts : List Timer} :
    (clearedTimeouts type timeouts).map (fun t => (t.request, t.responseType)) =
        timeouts.map (fun t => (t.request, t.responseType)) ↔
      (timeouts.map fun t => (t.request, t.responseType)).filter (·.2 = type) = [] := by
  have hf : (timeouts.map fun t => (t.request, t.responseType)).filter (·.2 = type) = [] ↔
      ∀ t ∈ timeouts, t.responseType ≠ type := by simp
  rw [hf]
  obtain ⟨hn, he⟩ | ⟨⟨t, hm, ht⟩, hl⟩ := clearedTimeouts_cases type timeouts
  · rw [he]
    exact iff_of_true rfl hn
  · refine iff_of_false (fun hc => hl.ne ?_) fun hn => hn t hm ht
    simpa using congrArg List.length hc

lemma kept_parseMessage (formats : Formats) (obj : JsonObject) :
    (c.parseMessage formats obj).socketConnected = c.socketConnected ∧
    Ipc.written (c.parseMessage formats obj).out = Ipc.written c.out := by
  unfold parseMessage
  cases obj.string? "type" with
  | none => exact ⟨rfl, rfl⟩
  | some type =>
    have h := kept_parseType (c := c.clearTimeout type) formats type obj
    exact ⟨h.socketConnected, h.written⟩

lemma wrote_write {message : JsonObject} {type : String} {timeout : ℕ}
    (h : expectedResponseType message = if type = "" then none else some type) : Wrote c (c.write message type timeout) := by
  refine ⟨rfl, .inr ⟨message, List.filterMap_append, ?_⟩⟩
  by_cases ht : type = "" <;> simp [write, timers, requested, h, ht]

lemma Wrote.of_kept (hk : Kept c c') : Wrote c c' :=
  ⟨hk.socketConnected, .inl ⟨hk.written, by rw [timers, timers, hk.responseTimeouts]⟩⟩

lemma Kept.wrote {c₁ : LocalSocketController} (hk : Kept c c₁) (hr : c₁.requests = c.requests) (hw : Wrote c₁ c') :
    Wrote c c' := by
  have ht : c₁.timers = c.timers := by rw [timers, timers, hk.responseTimeouts]
  refine ⟨hw.socketConnected.trans hk.socketConnected, ?_⟩
  rw [← hk.written, ← ht, ← hr]
  exact hw.messages

lemma wrote_getBackendLogs (callback : ℕ) : Wrote c (c.getBackendLogs callback) := by
  have hw : ∀ c₁ : LocalSocketController, Wrote c₁ (if c₁.daemonState ≠ .eReady then c₁.emit (.logCallback callback "")
      else { c₁ with logCallback := some callback }.write [("type", .string "logs")] ""
        CONNECTION_RESPONSE_TIMEOUT_MSEC) := by
    intro c₁
    split_ifs
    · exact .of_kept (kept_emit (by simp))
    · have h : Wrote { c₁ with logCallback := some callback } (write [("type", .string "logs")] ""
          CONNECTION_RESPONSE_TIMEOUT_MSEC { c₁ with logCallback := some callback }) :=
        wrote_write (by simp [expectedResponseType])
      exact ⟨h.socketConnected, h.messages⟩
  unfold getBackendLogs
  cases c.logCallback with
  | none => exact hw c
  | some old =>
    have hk : Kept c { c.emit (.logCallback old "") with logCallback := none } := ⟨rfl, rfl, written_emit (by simp)⟩
    exact hk.wrote rfl (hw _)

lemma wrote_call (formats : Formats) (request : Request) : Wrote { c with out := [] } (c.step formats request.toEvent) := by
  cases request with
  | activate json => exact wrote_write (by simp [expectedResponseType])
  | deactivate reason =>
    simp only [Request.toEvent, step, handle, deactivate]
    split_ifs
    · exact .of_kept (kept_emit (by simp))
    · exact .of_kept (kept_emit (by simp))
    · exact wrote_write (by simp [expectedResponseType])
  | checkStatus =>
    simp only [Request.toEvent, step, handle, checkStatus]
    split_ifs
    · exact wrote_write (by simp [expectedResponseType])
    · exact .of_kept ⟨rfl, rfl, rfl⟩
  | getBackendLogs callback => exact wrote_getBackendLogs callback
  | cleanupBackendLogs =>
    simp only [Request.toEvent, step, handle, cleanupBackendLogs]
    split_ifs
    · exact .of_kept ⟨rfl, rfl, rfl⟩
    · exact wrote_write (by simp [expectedResponseType])

end LocalSocketController

/-- What happens while the client stays connected to the daemon: the client makes a call or handles a message,
the daemon handles a command of the client or of another peer, or signals something. -/
inductive Exchange where
  | call (request : Request)
  | receive
  | serve (answers : DaemonAnswers)
  | serveOther (otherId : Option ℕ) (answers : DaemonAnswers) (obj : JsonObject)
  | signal (signal : DaemonSignal)

namespace Link

variable (formats : Formats) (peerId : Option ℕ)

def exchange (l : Link) : Exchange → Link
  | .call request => l.act formats request.toEvent
  | .receive => l.receive formats
  | .serve answers => l.serve formats peerId answers
  | .serveOther otherId answers obj => l.serveOther formats otherId answers obj
  | .signal signal => l.signal signal

/-- The link when the client has connected to a daemon. -/
def established (accessControl : DaemonAccessControl) : Link :=
  ({ accessControl : Link }.act formats .initializeController).act formats .socketConnected

/-- The commands with a response timer whose response has not arrived, in order, with the types of the responses. -/
def expected (l : Link) : List (ℕ × String) := l.answers.filterMap answering ++ l.commands.filterMap requested

/-- The response timers are those of the responses that are still to arrive. -/
def AllAwaited (l : Link) : Prop := l.client.timers = l.expected

def authorizes (l : Link) (peerId : Option ℕ) : Bool :=
  !l.accessControl.isSessionActive || l.accessControl.isPeerAuthorized peerId

/-- The daemon is asked for its status while it has no session or that of the client, and not to clean its logs. A
status arrives when no other is awaited, and logs arrive when no logs are being cleaned. -/
def Answered (l : Link) : Exchange → Prop
  | .serve _ => ∀ request obj, l.commands.head? = some (request, obj) →
    obj.string? "type" ≠ some "cleanlogs" ∧ (obj.string? "type" = some "status" → l.authorizes peerId)
  | .receive => ∀ answer, l.answers.head? = some answer →
    (answer.2.string? "type" = some "status" → (l.client.timers.filter (·.2 = "status")).length ≤ 1) ∧
      (answer.2.string? "type" = some "logs" → l.client.timers.filter (·.2 = "logs") = [])
  | _ => True

/-- The answers on their way that are statuses answer requests. -/
def Tagged (l : Link) : Prop := ∀ answer ∈ l.answers, answer.2.string? "type" = some "status" → answer.1.isSome

structure Valid (l : Link) : Prop where
  connected : l.client.socketConnected = true
  awaited : l.AllAwaited
  tagged : l.Tagged

variable {formats : Formats} {peerId : Option ℕ} {l : Link}

lemma transmit_connected {client : LocalSocketController} (h : client.socketConnected = true) :
    l.transmit client = { l with client, commands := l.commands ++ written client.out } := if_pos h

lemma type_expected {request : ℕ} {type : String} (h : (request, type) ∈ l.expected) : type = "status" ∨ type = "logs" := by
  unfold expected at h
  rcases List.mem_append.mp h with h | h
  · obtain ⟨answer, -, h⟩ := List.mem_filterMap.mp h
    unfold answering at h
    split_ifs at h
    obtain ⟨_, -, h⟩ := Option.map_eq_some_iff.mp h
    exact .inl (Prod.mk.inj h).2.symm
  · obtain ⟨command, -, h⟩ := List.mem_filterMap.mp h
    unfold requested expectedResponseType at h
    split_ifs at h
    · obtain ⟨-, rfl⟩ := by simpa using h
      exact .inl rfl
    · obtain ⟨-, rfl⟩ := by simpa using h
      exact .inr rfl
    · simp at h

lemma Valid.call (h : l.Valid) (request : Request) : (l.act formats request.toEvent).Valid := by
  obtain ⟨hs, hm⟩ := LocalSocketController.wrote_call (c := l.client) formats request
  have hc : (l.client.step formats request.toEvent).socketConnected = true := hs.trans h.connected
  have ha : l.client.timers = l.answers.filterMap answering ++ l.commands.filterMap requested := h.awaited
  have hn : written ([] : List Effect) = [] := rfl
  rw [act, transmit_connected hc]
  refine ⟨hc, ?_, h.tagged⟩
  simp only [AllAwaited, expected, List.filterMap_append]
  rcases hm with ⟨hw, ht⟩ | ⟨message, hw, ht⟩
  · rw [hw, ht, hn, List.filterMap_nil, List.append_nil]
    exact ha
  · have ht' : (l.client.step formats request.toEvent).timers =
        l.client.timers ++ (requested (l.client.requests, message)).toList := ht
    rw [hw, ht', ha, hn, List.append_assoc, List.nil_append, filterMap_cons_toList, List.filterMap_nil,
      List.append_nil]

lemma receive_cons {tag : Option ℕ} {obj : JsonObject} {answers : List (Option ℕ × JsonObject)}
    (h : l.client.socketConnected = true) (hq : l.answers = (tag, obj) :: answers) : l.receive formats =
      { l with answers, client := { l.client with out := [] }.parseMessage formats obj } := by
  obtain ⟨hs, hw⟩ := LocalSocketController.kept_parseMessage (c := { l.client with out := [] }) formats obj
  have hn : written ([] : List Effect) = [] := rfl
  rw [receive, hq]
  dsimp only
  rw [transmit_connected (hs.trans h), hw, hn, List.append_nil]

lemma allAwaited_receive_iff (h : l.Valid) : (l.receive formats).AllAwaited ↔ Answered peerId l .receive := by
  cases hq : l.answers with
  | nil =>
    rw [receive, hq]
    simp [Answered, hq, h.awaited]
  | cons answer answers =>
    obtain ⟨tag, obj⟩ := answer
    have ha : l.client.timers = (answering (tag, obj)).toList ++
        (answers.filterMap answering ++ l.commands.filterMap requested) := by
      rw [h.awaited, expected, hq, filterMap_cons_toList, List.append_assoc]
    have ht := LocalSocketController.timeouts_parseMessage (c := { l.client with out := [] }) formats obj
    rw [receive_cons h.connected hq]
    simp only [AllAwaited, expected, Answered, hq, List.head?_cons, Option.some.injEq, forall_eq',
      LocalSocketController.timers, ht]
    rw [LocalSocketController.timers] at ha
    set awaited := answers.filterMap answering ++ l.commands.filterMap requested
    cases ho : obj.string? "type" with
    | none =>
      have hg : answering (tag, obj) = none := by simp [answering, ho]
      rw [hg] at ha
      simpa using ha
    | some type =>
      by_cases hs : type = "status"
      · subst hs
        obtain ⟨request, rfl⟩ := Option.isSome_iff_exists.mp (h.tagged (tag, obj) (by simp [hq]) ho)
        have hg : answering (some request, obj) = some (request, "status") := by simp [answering, ho]
        rw [hg, Option.toList_some, List.singleton_append] at ha
        -- the timer of this answer is the first one, and no other may be erased with it
        obtain ⟨t, timeouts, hts, hfirst, hrest⟩ := List.map_eq_cons_iff.mp ha
        have htype : t.responseType = "status" := (Prod.mk.inj hfirst).2
        rw [hts]
        dsimp only
        rw [LocalSocketController.clearedTimeouts_cons htype, ← hrest, LocalSocketController.timers_cleared_iff]
        simp [htype]
      · have hg : answering (tag, obj) = none := by simp [answering, ho, hs]
        rw [hg, Option.toList_none, List.nil_append] at ha
        dsimp only
        rw [← ha, LocalSocketController.timers_cleared_iff]
        by_cases hl : type = "logs"
        · simp [hl]
        · have hf : (l.client.responseTimeouts.map fun t => (t.request, t.responseType)).filter (·.2 = type) = [] := by
            rw [List.filter_eq_nil_iff]
            intro p hp
            have hp' : p ∈ l.expected := h.awaited ▸ hp
            rcases type_expected hp' with ht | ht <;> simp [ht, Ne.symm hs, Ne.symm hl]
          simp [hf, hs, hl]

lemma type_signal (signal : DaemonSignal) : signal.toMessage.string? "type" ≠ some "status" := by
  cases signal <;> simp [DaemonSignal.toMessage]

lemma answering_signal (request : Option ℕ) (signal : DaemonSignal) : answering (request, signal.toMessage) = none :=
  if_neg (type_signal signal)

lemma answering_status (request : ℕ) (status : Daemon.Status) :
    answering (some request, (statusObject formats status).insert "type" (.string "status")) = some (request, "status") := by
  simp [answering]

lemma answering_respond {answers : DaemonAnswers} {type : String} {obj : JsonObject} (request : Option ℕ)
    (hs : type ≠ "status") (ho : obj ∈ DaemonLocalServerConnection.respond formats answers type) :
    answering (request, obj) = none := by
  unfold DaemonLocalServerConnection.respond at ho
  rw [if_neg hs] at ho
  split_ifs at ho
  · obtain rfl := List.mem_singleton.mp ho
    exact answering_signal request _
  · rw [List.append_nil] at ho
    obtain ⟨signal, -, rfl⟩ := List.mem_map.mp ho
    exact answering_signal request signal
  · rcases List.mem_append.mp ho with ho | ho
    · obtain ⟨signal, -, rfl⟩ := List.mem_map.mp ho
      exact answering_signal request signal
    · obtain rfl := List.mem_singleton.mp ho
      exact answering_signal request _
  · obtain ⟨signal, -, rfl⟩ := List.mem_map.mp ho
    exact answering_signal request signal
  · obtain rfl := List.mem_singleton.mp ho
    simp [answering]
  · cases ho

lemma answering_parseCommand (formats : Formats) (answers : DaemonAnswers) (request : ℕ) (obj : JsonObject) :
    ((DaemonLocalServerConnection.parseCommand formats peerId answers obj l.accessControl).2.map
      (some request, ·)).filterMap answering =
      if obj.string? "type" = some "status" ∧ l.authorizes peerId then [(request, "status")] else [] := by
  unfold DaemonLocalServerConnection.parseCommand
  cases ho : obj.string? "type" with
  | none => simp
  | some type =>
    dsimp only
    by_cases hs : type = "status"
    · have hp : l.accessControl.isCommandAuthorizedForPeer "status" peerId = (l.authorizes peerId, l.accessControl) := by
        unfold DaemonAccessControl.isCommandAuthorizedForPeer authorizes
        cases l.accessControl.isSessionActive <;> simp
      rw [hs, hp]
      cases l.authorizes peerId with
      | false => simp
      | true => simp [DaemonLocalServerConnection.respond, answering_status]
    · have hn : ¬(some type = some "status" ∧ l.authorizes peerId = true) := fun h => hs (Option.some.inj h.1)
      rw [if_neg hn]
      refine List.filterMap_eq_nil_iff.mpr fun answer ha => ?_
      obtain ⟨message, hm, rfl⟩ := List.mem_map.mp ha
      cases hc : l.accessControl.isCommandAuthorizedForPeer type peerId with
      | mk authorized accessControl =>
      rw [hc] at hm
      cases authorized with
      | false =>
        dsimp only at hm
        split_ifs at hm
        · obtain rfl := List.mem_singleton.mp hm
          simp [answering]
        · cases hm
      | true => exact answering_respond (some request) hs hm

lemma tagged_parseCommand {answers : DaemonAnswers} {request : ℕ} {obj : JsonObject} :
    ∀ answer ∈ (DaemonLocalServerConnection.parseCommand formats peerId answers obj l.accessControl).2.map
      (some request, ·), answer.1.isSome := by
  intro answer hm
  obtain ⟨message, -, rfl⟩ := List.mem_map.mp hm
  rfl

lemma allAwaited_serve_iff (h : l.Valid) (answers : DaemonAnswers) :
    (l.serve formats peerId answers).AllAwaited ↔ Answered peerId l (.serve answers) := by
  have ha : l.client.timers = l.answers.filterMap answering ++ l.commands.filterMap requested := h.awaited
  cases hq : l.commands with
  | nil =>
    rw [serve, hq]
    simp [Answered, hq, h.awaited]
  | cons command commands =>
    obtain ⟨request, obj⟩ := command
    rw [serve, hq]
    have he : (l.client.timers = (l.answers ++ (DaemonLocalServerConnection.parseCommand formats peerId answers obj
        l.accessControl).2.map (some request, ·)).filterMap answering ++ commands.filterMap requested) ↔
        (requested (request, obj)).toList =
          if obj.string? "type" = some "status" ∧ l.authorizes peerId then [(request, "status")] else [] := by
      rw [ha, hq, filterMap_cons_toList, List.filterMap_append, answering_parseCommand formats, List.append_assoc,
        List.append_cancel_left_eq, List.append_cancel_right_eq]
    refine he.trans ?_
    simp only [Answered, hq, List.head?_cons, Option.some.injEq, Prod.mk.injEq, requested, expectedResponseType,
      and_imp]
    by_cases hs : obj.string? "type" = some "status"
    · cases l.authorizes peerId <;> simp [hs]
    · by_cases hc : obj.string? "type" = some "cleanlogs" <;> simp [hs, hc]

lemma Tagged.serve (h : l.Tagged) (answers : DaemonAnswers) : (l.serve formats peerId answers).Tagged := by
  intro answer hm ht
  cases hq : l.commands with
  | nil =>
    rw [Link.serve, hq] at hm
    exact h answer hm ht
  | cons command commands =>
    rw [Link.serve, hq] at hm
    rcases List.mem_append.mp hm with hm | hm
    · exact h answer hm ht
    · exact tagged_parseCommand answer hm

lemma connected_serve (answers : DaemonAnswers) :
    (l.serve formats peerId answers).client.socketConnected = l.client.socketConnected := by
  unfold serve
  cases l.commands <;> rfl

lemma Valid.receive (h : l.Valid) (ha : (l.receive formats).AllAwaited) : (l.receive formats).Valid := by
  cases hq : l.answers with
  | nil =>
    rw [Link.receive, hq]
    exact h
  | cons answer answers =>
    obtain ⟨tag, obj⟩ := answer
    rw [receive_cons h.connected hq] at ha ⊢
    refine ⟨(LocalSocketController.kept_parseMessage _ obj).1.trans h.connected, ha, fun answer hm => ?_⟩
    exact h.tagged answer (hq ▸ List.mem_cons_of_mem _ hm)

lemma Tagged.signal (h : l.Tagged) (signal : DaemonSignal) : (l.signal signal).Tagged := by
  intro answer hm ht
  unfold Link.signal at hm
  split_ifs at hm
  · rcases List.mem_append.mp hm with hm | hm
    · exact h answer hm ht
    · obtain rfl := List.mem_singleton.mp hm
      exact (type_signal signal ht).elim
  · exact h answer hm ht

lemma Valid.signal (h : l.Valid) (signal : DaemonSignal) : (l.signal signal).Valid := by
  have ha : l.client.timers = l.answers.filterMap answering ++ l.commands.filterMap requested := h.awaited
  have ht := h.tagged.signal signal
  rw [Link.signal, if_pos h.connected] at ht ⊢
  exact ⟨h.connected, by simp [AllAwaited, expected, answering_signal, ha], ht⟩

lemma allAwaited_exchange_iff (formats : Formats) (h : l.Valid) (exchange : Exchange) :
    Answered peerId l exchange ↔ (l.exchange formats peerId exchange).AllAwaited := by
  cases exchange with
  | call request => exact iff_of_true trivial (h.call request).awaited
  | receive => exact (allAwaited_receive_iff h).symm
  | serve answers => exact (allAwaited_serve_iff h answers).symm
  | serveOther otherId answers obj => exact iff_of_true trivial h.awaited
  | signal signal => exact iff_of_true trivial (h.signal signal).awaited

lemma Valid.exchange (h : l.Valid) (exchange : Exchange) (ha : Answered peerId l exchange) :
    (l.exchange formats peerId exchange).Valid := by
  have ha' := (allAwaited_exchange_iff formats h exchange).mp ha
  cases exchange with
  | call request => exact h.call request
  | receive => exact h.receive ha'
  | serve answers => exact ⟨(connected_serve answers).trans h.connected, ha', h.tagged.serve answers⟩
  | serveOther otherId answers obj => exact ⟨h.connected, h.awaited, h.tagged⟩
  | signal signal => exact h.signal signal

lemma valid_established (accessControl : DaemonAccessControl) : (established formats accessControl).Valid :=
  ⟨rfl, rfl, fun answer hm => by cases hm⟩

/-- While the client stays connected, the response timers are those of the responses that are still to arrive in
all states of a run exactly if each step meets the condition. -/
theorem allAwaited_iff_answered (formats : Formats) (peerId : Option ℕ) (accessControl : DaemonAccessControl)
    (exchanges : List Exchange) :
    (∀ es, es <+: exchanges → (run (exchange formats peerId) (established formats accessControl) es).AllAwaited) ↔
      Meets (exchange formats peerId) (Answered peerId) (established formats accessControl) exchanges :=
  (meets_iff_throughout (P := Valid) (Q := AllAwaited) (fun _ e h ha => h.exchange e ha)
    (fun _ e h => allAwaited_exchange_iff _ h e) (valid_established accessControl) rfl).symm

/-- The timer for the logs that a request to clean them expects goes on although nothing is to arrive. -/
theorem allAwaited_cleaned_logs :
    let formats : Formats := ⟨fun _ => none, fun _ => none, fun _ => ""⟩
    let answers : DaemonAnswers := ⟨true, true, [], { connected := false }, ""⟩
    let l := run (exchange formats (some 501)) (established formats {})
      [.serve answers, .receive, .call .cleanupBackendLogs, .serve answers]
    l.client.timers = [(1, "logs")] ∧ l.commands = [] ∧ l.answers = [] ∧ ¬l.AllAwaited := by
  intro formats answers l
  have ht : l.client.timers = [(1, "logs")] := by decide +kernel
  have hc : l.commands = [] := List.isEmpty_iff.mp (by decide +kernel)
  have ha : l.answers = [] := List.isEmpty_iff.mp (by decide +kernel)
  refine ⟨ht, hc, ha, fun h => ?_⟩
  rw [AllAwaited, ht, expected, hc, ha] at h
  cases h

end Link

end VpnClient.Ipc
