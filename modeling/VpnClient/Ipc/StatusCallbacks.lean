import VpnClient.Ipc.ResponseTimeouts

/-! The callbacks that wait for the status of the daemon: when the answer to a request for it is still to arrive. -/

namespace VpnClient.Ipc

open Backend Library.Runs

/-- The part of the controller that asks for the status, over its link to the daemon. The callbacks are numbered as
they are passed. -/
structure StatusRequests where
  link : Link
  getStatusCallbacks : List ℕ := []
  passed : ℕ := 0
  invoked : List ℕ := []

def Effect.isStatusUpdated : Effect → Bool
  | statusUpdated _ _ _ _ => true
  | _ => false

namespace StatusRequests

variable (formats : Formats) (peerId : Option ℕ)

def getStatus (s : StatusRequests) : StatusRequests :=
  let requestStatus := s.getStatusCallbacks.isEmpty
  { s with
    getStatusCallbacks := s.getStatusCallbacks ++ [s.passed]
    passed := s.passed + 1
    link := if requestStatus then s.link.act formats .checkStatus else s.link }

def statusUpdated (s : StatusRequests) : StatusRequests :=
  { s with getStatusCallbacks := [], invoked := s.invoked ++ s.getStatusCallbacks }

/-- The client handles the next message, which may update the status. -/
def receive (s : StatusRequests) : StatusRequests :=
  let link := s.link.receive formats
  if s.link.answers ≠ [] ∧ link.client.out.any Effect.isStatusUpdated then { s with link }.statusUpdated
  else { s with link }

inductive Event where
  | getStatus
  | initializeController
  | socketConnected
  | socketDisconnected
  | socketError
  | initializingTimeout
  | responseTimeout (request : ℕ)
  | exchange (exchange : Exchange)

/-- An initialization of the controller replaces its end of the link. -/
def step (s : StatusRequests) : Event → StatusRequests
  | .getStatus => s.getStatus formats
  | .initializeController =>
    { s with link := ({ s.link with client := {}, commands := [], answers := [] } : Link).act formats .initializeController }
  | .socketConnected => { s with link := s.link.act formats .socketConnected }
  | .socketDisconnected => { s with link := s.link.act formats .socketDisconnected }
  | .socketError => { s with link := s.link.act formats .socketError }
  | .initializingTimeout => { s with link := s.link.act formats .initializingTimeout }
  | .responseTimeout request => { s with link := s.link.act formats (.responseTimeout request) }
  | .exchange .receive => s.receive formats
  | .exchange exchange => { s with link := s.link.exchange formats peerId exchange }

/-- A request for the status has been written on the connection and its answer has not been handled. -/
def Requested (l : Link) : Prop := ∃ request, (request, "status") ∈ l.expected

/-- Callbacks wait only while an answer is to arrive. -/
def Unanswered (s : StatusRequests) : Prop := s.getStatusCallbacks ≠ [] → Requested s.link

/-- A callback that is the first one finds a daemon that can be asked, or that has been. While callbacks wait the
connection is kept, the daemon answers the client, and the answer to the last request finds the client ready and
has all the fields of a status. -/
def Answerable (s : StatusRequests) : Event → Prop
  | .getStatus => s.getStatusCallbacks = [] → Requested s.link ∨ s.link.client.socketConnected = true ∧
    (s.link.client.daemonState = .eReady ∨ s.link.client.daemonState = .eInitializing)
  | .initializeController | .socketDisconnected => s.getStatusCallbacks = []
  | .initializingTimeout => s.link.client.initializingTimer.isSome → s.getStatusCallbacks = []
  | .exchange (.serve _) => ∀ command commands, s.link.commands = command :: commands →
    command.2.string? "type" = some "status" → s.getStatusCallbacks ≠ [] →
      s.link.authorizes peerId ∨ Requested { s.link with commands }
  | .exchange .receive => ∀ answer answers, s.link.answers = answer :: answers →
    answer.2.string? "type" = some "status" → s.getStatusCallbacks ≠ [] →
      s.link.client.daemonState = .eReady ∧ (LocalSocketController.statusFromJson answer.2).isSome ∨
        Requested { s.link with answers }
  | _ => True

/-- Without a connection nothing is on its way, and each status answers a request. -/
structure Orderly (l : Link) : Prop where
  lost : l.client.socketConnected = false → l.commands = [] ∧ l.answers = []
  tagged : l.Tagged

structure Sound (s : StatusRequests) : Prop where
  orderly : Orderly s.link
  unanswered : s.Unanswered

variable {formats : Formats} {peerId : Option ℕ} {s : StatusRequests} {l : Link}

lemma Orderly.transmit (h : Orderly l) (client : LocalSocketController) : Orderly (l.transmit client) := by
  unfold Link.transmit
  split_ifs with hc
  · exact ⟨fun hf => by simp [hc] at hf, h.tagged⟩
  · exact ⟨fun _ => ⟨rfl, rfl⟩, fun answer hm => by cases hm⟩

lemma not_requested_transmit {client : LocalSocketController} (h : client.socketConnected = false) :
    ¬Requested (l.transmit client) := by
  rintro ⟨request, hm⟩
  simp [Link.transmit, h, Link.expected] at hm

lemma not_requested (h : Orderly l) (hc : l.client.socketConnected = false) : ¬Requested l := by
  obtain ⟨hq, ha⟩ := h.lost hc
  rintro ⟨request, hm⟩
  simp [Link.expected, hq, ha] at hm

lemma requested_transmit {client : LocalSocketController} (hc : client.socketConnected = true) :
    Requested (l.transmit client) ↔
      Requested l ∨ ∃ request, (request, "status") ∈ (written client.out).filterMap requested := by
  simp only [Requested, Link.expected, Link.transmit_connected hc, List.filterMap_append, List.mem_append, ← or_assoc,
    exists_or]

lemma Orderly.requested {client : LocalSocketController} (h : Orderly l)
    (hs : client.socketConnected = l.client.socketConnected) (hr : Requested l) : Requested (l.transmit client) := by
  cases hc : l.client.socketConnected with
  | false => exact (not_requested h hc hr).elim
  | true => exact (requested_transmit (hs.trans hc)).mpr (.inl hr)

lemma connected_errorOccurred (c : LocalSocketController) : c.errorOccurred.socketConnected = c.socketConnected := by
  unfold LocalSocketController.errorOccurred
  dsimp only
  split_ifs <;> rfl

lemma connected_abort (c : LocalSocketController) : c.abort.socketConnected = false := by
  unfold LocalSocketController.abort
  dsimp only
  split_ifs with hc
  · exact connected_errorOccurred _
  · exact Bool.eq_false_iff.mpr hc

lemma connected_initializeInternal (c : LocalSocketController) : c.initializeInternal.socketConnected = false :=
  connected_abort _

lemma written_checkStatus (c : LocalSocketController) :
    (∃ request, (request, "status") ∈ (written (c.step formats .checkStatus).out).filterMap requested) ↔
      c.daemonState = .eReady ∨ c.daemonState = .eInitializing := by
  simp only [LocalSocketController.step, LocalSocketController.handle, LocalSocketController.checkStatus]
  split_ifs with h
  · simp [LocalSocketController.write, LocalSocketController.emit, written, requested, expectedResponseType, h]
  · simp [written, h]

lemma connected_checkStatus (formats : Formats) (c : LocalSocketController) :
    (c.step formats .checkStatus).socketConnected = c.socketConnected :=
  (LocalSocketController.wrote_call _ .checkStatus).socketConnected

lemma requested_checkStatus (h : Orderly l) : Requested (l.act formats .checkStatus) ↔ Requested l ∨
    l.client.socketConnected = true ∧ (l.client.daemonState = .eReady ∨ l.client.daemonState = .eInitializing) := by
  have hs := connected_checkStatus formats l.client
  rw [Link.act]
  cases hc : l.client.socketConnected with
  | false => simp [not_requested_transmit (hs.trans hc), not_requested h hc]
  | true => rw [requested_transmit (hs.trans hc), written_checkStatus, and_iff_right rfl]

lemma requested_call (h : Orderly l) (request : Request) (hr : Requested l) :
    Requested (l.act formats request.toEvent) :=
  h.requested (LocalSocketController.wrote_call _ request).socketConnected hr

lemma unanswered_getStatus (h : s.Sound) : Answerable peerId s .getStatus ↔ (s.getStatus formats).Unanswered := by
  have hne : s.getStatusCallbacks ++ [s.passed] ≠ [] := by simp
  simp only [Answerable, getStatus, Unanswered, hne, ne_eq, not_false_eq_true, forall_const]
  cases hc : s.getStatusCallbacks with
  | nil =>
    simp only [List.isEmpty_nil, if_true, forall_const]
    exact (requested_checkStatus h.orderly).symm
  | cons callback callbacks =>
    simp only [List.isEmpty_cons, Bool.false_eq_true, if_false, reduceCtorEq, false_implies, true_iff]
    exact h.unanswered (by simp [hc])

lemma unanswered_kept {link : Link} (h : s.Sound) (hr : Requested s.link → Requested link) :
    ({ s with link } : StatusRequests).Unanswered := fun hc => hr (h.unanswered hc)

lemma unanswered_lost {link : Link} (hr : ¬Requested link) :
    s.getStatusCallbacks = [] ↔ ({ s with link } : StatusRequests).Unanswered :=
  ⟨fun hc hn => (hn hc).elim, fun hu => by_contra fun hn => hr (hu hn)⟩

lemma isStatusUpdated_statusFromJson {obj : JsonObject} {effect : Effect}
    (h : LocalSocketController.statusFromJson obj = some effect) : effect.isStatusUpdated = true := by
  unfold LocalSocketController.statusFromJson at h
  obtain ⟨serverIpv4Gateway, -, h⟩ := Option.bind_eq_some_iff.mp h
  obtain ⟨deviceIpv4Address, -, h⟩ := Option.bind_eq_some_iff.mp h
  obtain ⟨txBytes, -, h⟩ := Option.bind_eq_some_iff.mp h
  obtain ⟨rxBytes, -, h⟩ := Option.bind_eq_some_iff.mp h
  obtain rfl := Option.some.inj h
  rfl

lemma updates_parseType {c : LocalSocketController} (type : String) (obj : JsonObject) (ho : c.out = []) :
    (c.parseType formats type obj).out.any Effect.isStatusUpdated = true ↔
      type = "status" ∧ c.daemonState = .eReady ∧ (LocalSocketController.statusFromJson obj).isSome := by
  unfold LocalSocketController.parseType
  split_ifs with hi hr hs
  · cases LocalSocketController.initialStatus formats obj <;>
      simp [LocalSocketController.emit, ho, Effect.isStatusUpdated, hi.1]
  · simp [ho, hr]
  · unfold LocalSocketController.emitStatusFromJson
    cases hf : LocalSocketController.statusFromJson obj with
    | none => simp [ho]
    | some effect =>
      simp [LocalSocketController.emit, ho, isStatusUpdated_statusFromJson hf, hs, not_not.mp hr]
  · simp [LocalSocketController.disconnectInternal, LocalSocketController.emit, ho, Effect.isStatusUpdated, hs]
  · cases obj.string? "pubkey" <;> simp [LocalSocketController.emit, ho, Effect.isStatusUpdated, hs]
  · simp [LocalSocketController.emit, ho, Effect.isStatusUpdated, hs]
  · cases c.logCallback <;> simp [LocalSocketController.emit, ho, Effect.isStatusUpdated, hs]
  · simp [ho, hs]

lemma updates_parseMessage (c : LocalSocketController) (obj : JsonObject) :
    (LocalSocketController.parseMessage formats obj { c with out := [] }).out.any Effect.isStatusUpdated = true ↔
      obj.string? "type" = some "status" ∧ c.daemonState = .eReady ∧
        (LocalSocketController.statusFromJson obj).isSome := by
  unfold LocalSocketController.parseMessage
  cases obj.string? "type" with
  | none => simp
  | some type =>
    rw [updates_parseType type obj rfl, Option.some.injEq]
    rfl

lemma requested_receive {tag : Option ℕ} {obj : JsonObject} {answers : List (Option ℕ × JsonObject)}
    (hq : l.answers = (tag, obj) :: answers) (ht : obj.string? "type" ≠ some "status") (hr : Requested l) :
    Requested { l with answers } := by
  have hg : answering (tag, obj) = none := by simp [answering, ht]
  obtain ⟨request, hm⟩ := hr
  exact ⟨request, by simpa [Link.expected, hq, hg] using hm⟩

lemma unanswered_receive (h : s.Sound) :
    Answerable peerId s (.exchange .receive) ↔ (s.receive formats).Unanswered := by
  cases hq : s.link.answers with
  | nil =>
    have hr : s.link.receive formats = s.link := by rw [Link.receive, hq]
    have he : s.receive formats = s := by simp [receive, hq, hr]
    rw [he]
    exact iff_of_true (fun answer answers ha => by simp [hq] at ha) h.unanswered
  | cons answer answers =>
    obtain ⟨tag, obj⟩ := answer
    have hc : s.link.client.socketConnected = true := by
      by_contra hc
      simp [(h.orderly.lost (Bool.eq_false_iff.mpr hc)).2] at hq
    have hr : s.receive formats = if obj.string? "type" = some "status" ∧ s.link.client.daemonState = .eReady ∧
        (LocalSocketController.statusFromJson obj).isSome then { s with link := s.link.receive formats }.statusUpdated
        else { s with link := s.link.receive formats } := by
      unfold receive
      simp only [Link.receive_cons hc hq, updates_parseMessage, hq]
      simp
    have ha : Answerable peerId s (.exchange .receive) ↔ (obj.string? "type" = some "status" → s.getStatusCallbacks ≠ [] →
        s.link.client.daemonState = .eReady ∧ (LocalSocketController.statusFromJson obj).isSome ∨
          Requested { s.link with answers }) := by
      simp [Answerable, hq]
    rw [hr, ha]
    split_ifs with hu
    · refine iff_of_true (fun _ _ => .inl hu.2) fun hn => ?_
      exact (hn rfl).elim
    · by_cases ht : obj.string? "type" = some "status"
      · rw [Link.receive_cons hc hq]
        have hu' : ¬(s.link.client.daemonState = .eReady ∧ (LocalSocketController.statusFromJson obj).isSome) :=
          fun h' => hu ⟨ht, h'⟩
        simp only [ht, hu', false_or, forall_const]
        exact Iff.rfl
      · refine iff_of_true (fun ht' => (ht ht').elim) (unanswered_kept h fun hr => ?_)
        rw [Link.receive_cons hc hq]
        exact requested_receive hq ht hr

lemma requested_serve {request : ℕ} {obj : JsonObject} {commands : List (ℕ × JsonObject)} (answers : DaemonAnswers)
    (hq : l.commands = (request, obj) :: commands) : Requested (l.serve formats peerId answers) ↔
      obj.string? "type" = some "status" ∧ l.authorizes peerId ∨ Requested { l with commands } := by
  have he : (l.serve formats peerId answers).expected = l.answers.filterMap answering ++
      (if obj.string? "type" = some "status" ∧ l.authorizes peerId then [(request, "status")] else []) ++
        commands.filterMap requested := by
    rw [Link.serve, hq, Link.expected, ← Link.answering_parseCommand formats answers, ← List.filterMap_append]
  unfold Requested
  rw [he]
  simp only [Link.expected, List.mem_append]
  split_ifs with h
  · exact iff_of_true ⟨request, .inl (.inr (List.mem_singleton_self _))⟩ (.inl h)
  · simp [h]

lemma unanswered_serve (h : s.Sound) (answers : DaemonAnswers) : Answerable peerId s (.exchange (.serve answers)) ↔
    ({ s with link := s.link.serve formats peerId answers } : StatusRequests).Unanswered := by
  cases hq : s.link.commands with
  | nil =>
    have hl : s.link.serve formats peerId answers = s.link := by rw [Link.serve, hq]
    rw [hl]
    exact iff_of_true (fun command commands hc => by simp [hq] at hc) h.unanswered
  | cons command commands =>
    obtain ⟨request, obj⟩ := command
    have ha : Answerable peerId s (.exchange (.serve answers)) ↔ (obj.string? "type" = some "status" →
        s.getStatusCallbacks ≠ [] → s.link.authorizes peerId ∨ Requested { s.link with commands }) := by
      simp [Answerable, hq]
    rw [ha]
    by_cases ht : obj.string? "type" = some "status"
    · simp only [Unanswered, requested_serve answers hq, ht, forall_const, true_and]
    · refine iff_of_true (fun ht' => (ht ht').elim) (unanswered_kept h fun hr => ?_)
      obtain ⟨request', hm⟩ := hr
      refine (requested_serve answers hq).mpr (.inr ⟨request', ?_⟩)
      have hg : (request', "status") ∉ (requested (request, obj)).toList := by
        simp only [requested, expectedResponseType, if_neg ht]
        split_ifs <;> simp
      rw [Link.expected, hq, filterMap_cons_toList] at hm
      simp only [List.mem_append] at hm
      simp only [Link.expected, List.mem_append]
      tauto

lemma requested_signal (signal : DaemonSignal) (hr : Requested l) : Requested (l.signal signal) := by
  unfold Link.signal
  split_ifs
  · obtain ⟨request, hm⟩ := hr
    exact ⟨request, by simpa [Link.expected, Link.answering_signal] using hm⟩
  · exact hr

lemma answerable_iff (h : s.Sound) (event : Event) :
    Answerable peerId s event ↔ (s.step formats peerId event).Unanswered := by
  cases event with
  | getStatus => exact unanswered_getStatus h
  | initializeController =>
    exact unanswered_lost (not_requested_transmit (connected_initializeInternal _))
  | socketConnected =>
    have hc : (s.link.client.step formats .socketConnected).socketConnected = true :=
      connected_checkStatus formats { s.link.client with socketConnected := true }
    exact iff_of_true trivial (unanswered_kept h fun hr => (requested_transmit hc).mpr (.inl hr))
  | socketDisconnected => exact unanswered_lost (not_requested_transmit (connected_errorOccurred _))
  | socketError => exact iff_of_true trivial (unanswered_kept h (h.orderly.requested (connected_errorOccurred _)))
  | initializingTimeout =>
    simp only [Answerable, step, Link.act, LocalSocketController.step, LocalSocketController.handle]
    split_ifs with ht
    · rw [forall_prop_of_true ht]
      exact unanswered_lost (not_requested_transmit (connected_initializeInternal _))
    · exact iff_of_true (fun ht' => (ht ht').elim) (unanswered_kept h (h.orderly.requested rfl))
  | responseTimeout request =>
    simp only [step, Link.act, LocalSocketController.step, LocalSocketController.handle]
    refine iff_of_true trivial ?_
    split_ifs
    · exact unanswered_kept h (h.orderly.requested (connected_errorOccurred _))
    · exact unanswered_kept h (h.orderly.requested rfl)
  | exchange exchange =>
    cases exchange with
    | call request => exact iff_of_true trivial (unanswered_kept h (requested_call h.orderly request))
    | receive => exact unanswered_receive h
    | serve answers => exact unanswered_serve h answers
    | serveOther otherId answers obj => exact iff_of_true trivial h.unanswered
    | signal signal => exact iff_of_true trivial (unanswered_kept h (requested_signal signal))

lemma Orderly.receive (h : Orderly l) : Orderly (l.receive formats) := by
  cases hq : l.answers with
  | nil => rwa [Link.receive, hq]
  | cons answer answers =>
    have ha : Orderly { l with answers } := by
      refine ⟨fun hc => ?_, fun answer hm => h.tagged answer (hq ▸ List.mem_cons_of_mem _ hm)⟩
      simp [(h.lost hc).2] at hq
    rw [Link.receive, hq]
    exact ha.transmit _

lemma Orderly.serve (h : Orderly l) (answers : DaemonAnswers) : Orderly (l.serve formats peerId answers) := by
  refine ⟨fun hc => ?_, h.tagged.serve answers⟩
  have hl := h.lost ((Link.connected_serve answers).symm.trans hc)
  rw [Link.serve, hl.1]
  exact hl

lemma Orderly.signal (h : Orderly l) (signal : DaemonSignal) : Orderly (l.signal signal) := by
  refine ⟨fun hc => ?_, h.tagged.signal signal⟩
  unfold Link.signal at hc ⊢
  split_ifs at hc ⊢ with hs
  · simp [hs] at hc
  · exact h.lost hc

lemma link_receive : (s.receive formats).link = s.link.receive formats := by
  unfold StatusRequests.receive
  dsimp only
  split_ifs <;> rfl

lemma Orderly.step (h : Orderly s.link) (event : Event) : Orderly (s.step formats peerId event).link := by
  cases event with
  | getStatus =>
    simp only [StatusRequests.step, StatusRequests.getStatus]
    split_ifs
    · exact h.transmit _
    · exact h
  | initializeController =>
    have h₀ : Orderly { s.link with client := {}, commands := [], answers := [] } :=
      ⟨fun _ => ⟨rfl, rfl⟩, fun answer hm => by simp at hm⟩
    exact h₀.transmit (LocalSocketController.step formats {} .initializeController)
  | socketConnected | socketDisconnected | socketError | initializingTimeout | responseTimeout => exact h.transmit _
  | exchange exchange =>
    cases exchange with
    | call request => exact h.transmit _
    | receive =>
      rw [StatusRequests.step, link_receive]
      exact h.receive
    | serve answers => exact h.serve answers
    | serveOther otherId answers obj => exact ⟨h.lost, h.tagged⟩
    | signal signal => exact h.signal signal

def initial (accessControl : DaemonAccessControl) : StatusRequests := { link := { accessControl } }

/-- Each callback has been invoked once or waits. -/
def Invoked (s : StatusRequests) : Prop := s.invoked ++ s.getStatusCallbacks = List.range s.passed

lemma Invoked.step (h : s.Invoked) (event : Event) : (s.step formats peerId event).Invoked := by
  cases event with
  | getStatus =>
    simp only [Invoked, StatusRequests.step, StatusRequests.getStatus]
    rw [← List.append_assoc, h, List.range_succ]
  | initializeController | socketConnected | socketDisconnected | socketError | initializingTimeout
    | responseTimeout => exact h
  | exchange exchange =>
    cases exchange with
    | call | serve | serveOther | signal => exact h
    | receive =>
      simp only [StatusRequests.step, StatusRequests.receive]
      split_ifs
      · simpa [Invoked, statusUpdated] using h
      · exact h

/-- In every run each callback is invoked at most once, in order, and callbacks wait only for an answer that is to
arrive in all states exactly if each step meets the condition. -/
theorem callbacks_answered (formats : Formats) (peerId : Option ℕ) (accessControl : DaemonAccessControl)
    (events : List Event) :
    let s := run (step formats peerId) (initial accessControl)
    (s events).Invoked ∧ ((∀ es, es <+: events → (s es).Unanswered) ↔
      Meets (step formats peerId) (Answerable peerId) (initial accessControl) events) := by
  refine ⟨run_invariant (fun _ event h => h.step event) rfl, Iff.symm ?_⟩
  have h₀ : (initial accessControl).Sound := ⟨⟨fun _ => ⟨rfl, rfl⟩, fun answer hm => by simp [initial] at hm⟩, fun h => (h rfl).elim⟩
  exact meets_iff_throughout (P := Sound) (Q := Unanswered)
    (fun _ event h ha => ⟨h.orderly.step event, (answerable_iff h event).mp ha⟩)
    (fun _ event h => answerable_iff h event) h₀ h₀.unanswered

/-- A daemon without a connection sends no status that reaches the callback, and no later callback asks again. -/
theorem callbacks_unanswered :
    let formats : Formats := ⟨fun _ => none, fun _ => none, fun _ => ""⟩
    let answers : DaemonAnswers := ⟨true, true, [], { connected := false }, ""⟩
    let s := run (step formats (some 501)) (initial {})
      [.initializeController, .socketConnected, .exchange (.serve answers), .exchange .receive, .getStatus,
        .exchange (.serve answers), .exchange .receive, .getStatus]
    s.getStatusCallbacks = [0, 1] ∧ s.link.commands = [] ∧ s.link.answers = [] ∧ ¬s.Unanswered := by
  intro formats answers s
  have hs : s.getStatusCallbacks = [0, 1] := by decide +kernel
  have hc : s.link.commands = [] := List.length_eq_zero_iff.mp (by decide +kernel)
  have ha : s.link.answers = [] := List.length_eq_zero_iff.mp (by decide +kernel)
  refine ⟨hs, hc, ha, fun h => ?_⟩
  obtain ⟨request, hm⟩ := h (by simp [hs])
  simp [Link.expected, hc, ha] at hm

end StatusRequests

end VpnClient.Ipc
