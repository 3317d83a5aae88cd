import VpnClient.Ipc.LocalSocketController
import VpnClient.Ipc.DaemonLocalServerConnection
import VpnClient.Library.Runs

/-! Both ends of the socket parse the lines of the stream however it is cut into reads, and when the client
still does after a reconnection. -/

namespace VpnClient.Ipc

open Library.Lines Library.Runs

lemma commands_cons (line : Bytes) (lines : List Bytes) :
    commands (line :: lines) = if trimmed line = [] then commands lines else trimmed line :: commands lines := by
  unfold commands
  rw [List.map_cons, List.filter_cons]
  split_ifs <;> simp_all

lemma commands_append (lines lines' : List Bytes) : commands (lines ++ lines') = commands lines ++ commands lines' := by
  simp [commands]

variable {S : Type} {parse : S → Bytes → S}

lemma foldl_commands_cons (line : Bytes) (lines : List Bytes) (s : S) : (commands (line :: lines)).foldl parse s =
    (commands lines).foldl parse (if trimmed line = [] then s else parse s (trimmed line)) := by
  rw [commands_cons]
  split_ifs <;> rfl

lemma foldl_commands_append (lines lines' : List Bytes) (s : S) :
    (commands (lines ++ lines')).foldl parse s = (commands lines').foldl parse ((commands lines).foldl parse s) := by
  rw [commands_append, List.foldl_append]

namespace DaemonLocalServerConnection

/-- What a call of `readData` reads from the socket. -/
def received (inputs : List Bytes) : Bytes := (inputs.takeWhile (· ≠ [])).flatten

lemma readData_nil {buffer : Bytes} (s : S) (h : nextLine newline buffer = none) :
    readData parse [] buffer s = (buffer, s) := by
  rw [readData.eq_def]
  split
  · rfl
  · simp_all

lemma readData_cons {buffer : Bytes} (input : Bytes) (inputs : List Bytes) (s : S)
    (h : nextLine newline buffer = none) : readData parse (input :: inputs) buffer s =
      if input = [] then (buffer, s) else readData parse inputs (buffer ++ input) s := by
  rw [readData.eq_def]
  split
  · rfl
  · simp_all

lemma readData_some {buffer line rest : Bytes} (inputs : List Bytes) (s : S)
    (h : nextLine newline buffer = some (line, rest)) : readData parse inputs buffer s =
      readData parse inputs rest (if trimmed line = [] then s else parse s (trimmed line)) := by
  rw [readData.eq_def]
  split
  · simp_all
  · next h' =>
    obtain ⟨rfl, rfl⟩ : _ ∧ _ := by simpa using h'.symm.trans h
    rfl

lemma readData_eq (inputs : List Bytes) (buffer : Bytes) (s : S) : readData parse inputs buffer s =
    ((frame newline [] (buffer ++ received inputs)).2,
      (commands (frame newline [] (buffer ++ received inputs)).1).foldl parse s) := by
  induction inputs, buffer, s using readData.induct parse with
  | case1 buffer s h =>
    rw [readData_nil s h]
    simp [received, frame_of_notMem (nextLine_none h), commands]
  | case2 buffer s h inputs =>
    rw [readData_cons _ _ s h, if_pos rfl]
    simp [received, frame_of_notMem (nextLine_none h), commands]
  | case3 buffer s h input inputs hi ih =>
    rw [readData_cons _ _ s h, if_neg hi, ih]
    simp [received, hi]
  | case4 inputs buffer s line rest h hlt command ih =>
    simp only [dite_eq_ite] at ih
    obtain ⟨hl, hb⟩ := nextLine_some h
    rw [readData_some _ s h, ih, hb, List.append_assoc, List.cons_append, frame_line hl, foldl_commands_cons,
      List.nil_append]

lemma readData_foldl (reads : List (List Bytes)) {buffer : Bytes} (s : S) (h : newline ∉ buffer) :
    reads.foldl (fun p inputs => readData parse inputs p.1 p.2) (buffer, s) =
      ((frame newline buffer (reads.flatMap received)).2,
        (commands (frame newline buffer (reads.flatMap received)).1).foldl parse s) := by
  induction reads generalizing buffer s with
  | nil => simp [frame, commands]
  | cons inputs reads ih =>
    rw [List.foldl_cons, readData_eq, ← frame_tail h, ih _ (notMem_frame h), List.flatMap_cons, frame_append,
      foldl_commands_append]

end DaemonLocalServerConnection

namespace LocalSocketController

lemma readLines_none {buffer : Bytes} (s : S) (h : nextLine newline buffer = none) :
    readLines parse buffer s = (buffer, s) := by
  rw [readLines]
  split
  · rfl
  · simp_all

lemma readLines_some {buffer line rest : Bytes} (s : S) (h : nextLine newline buffer = some (line, rest)) :
    readLines parse buffer s =
      readLines parse rest (if trimmed line = [] then s else parse s (trimmed line)) := by
  rw [readLines]
  split
  · simp_all
  · next h' =>
    obtain ⟨rfl, rfl⟩ : _ ∧ _ := by simpa using h'.symm.trans h
    rfl

lemma readLines_eq (buffer : Bytes) (s : S) : readLines parse buffer s =
    ((frame newline [] buffer).2, (commands (frame newline [] buffer).1).foldl parse s) := by
  induction buffer, s using readLines.induct parse with
  | case1 buffer s h =>
    rw [readLines_none s h, frame_of_notMem (nextLine_none h)]
    rfl
  | case2 buffer s line rest h hlt command ih =>
    simp only [dite_eq_ite] at ih
    rw [readLines_some s h, ih, frame_nextLine h, foldl_commands_cons]

variable (formats : Formats) {c : LocalSocketController}

/-- What has been read: the buffer, and the commands that were parsed. -/
def reading (c : LocalSocketController) : Bytes × List Bytes := (c.buffer, c.parsed)

lemma reading_errorOccurred : c.errorOccurred.reading = c.reading := by
  unfold errorOccurred
  dsimp only
  split_ifs <;> rfl

lemma reading_abort : c.abort.reading = c.reading := by
  unfold abort
  dsimp only
  split_ifs
  · exact reading_errorOccurred
  · rfl

lemma reading_initializeInternal : c.initializeInternal.reading = c.reading := reading_abort

lemma reading_checkStatus : c.checkStatus.reading = c.reading := by
  unfold checkStatus
  split_ifs <;> rfl

lemma reading_deactivate (reason : Backend.Reason) : (c.deactivate reason).reading = c.reading := by
  unfold deactivate
  split_ifs <;> rfl

lemma reading_getBackendLogs (callback : ℕ) : (c.getBackendLogs callback).reading = c.reading := by
  unfold getBackendLogs
  cases c.logCallback <;> dsimp only <;> split_ifs <;> rfl

lemma reading_cleanupBackendLogs : c.cleanupBackendLogs.reading = c.reading := by
  unfold cleanupBackendLogs
  split_ifs <;> rfl

lemma reading_emitStatusFromJson (obj : JsonObject) : (c.emitStatusFromJson obj).reading = c.reading := by
  unfold emitStatusFromJson
  cases statusFromJson obj <;> rfl

lemma reading_parseType (type : String) (obj : JsonObject) : (c.parseType formats type obj).reading = c.reading := by
  unfold parseType
  split_ifs
  · cases initialStatus formats obj <;> rfl
  · rfl
  · exact reading_emitStatusFromJson obj
  · rfl
  · cases obj.string? "pubkey" <;> rfl
  · rfl
  · cases c.logCallback <;> rfl
  · rfl

lemma reading_parseMessage (obj : JsonObject) : (c.parseMessage formats obj).reading = c.reading := by
  unfold parseMessage
  cases obj.string? "type" with
  | none => rfl
  | some type => exact reading_parseType formats type obj

lemma parsed_parseCommand (command : Bytes) :
    (c.parseCommand formats command).parsed = c.parsed ++ [command] := by
  unfold parseCommand
  cases formats.fromJson command with
  | none => rfl
  | some obj => exact congrArg Prod.snd (reading_parseMessage formats obj)

lemma parsed_foldl (cs : List Bytes) : (cs.foldl (parseCommand formats) c).parsed = c.parsed ++ cs := by
  induction cs generalizing c with
  | nil => simp
  | cons command cs ih => rw [List.foldl_cons, ih, parsed_parseCommand, List.append_assoc]; rfl

lemma readData_eq (input : Bytes) : c.readData formats input =
    { (commands (frame newline [] (c.buffer ++ input)).1).foldl (parseCommand formats) c with
      buffer := (frame newline [] (c.buffer ++ input)).2 } := by
  unfold readData
  rw [readLines_eq]

/-- What the controller reads in a list of events. -/
def received (events : List Event) : Bytes :=
  events.flatMap fun
    | .readyRead input => input
    | _ => []

lemma received_append (es fs : List Event) : received (es ++ fs) = received es ++ received fs :=
  List.flatMap_append ..

lemma reading_step (event : Event) : (step formats c event).reading =
    ((frame newline [] (c.buffer ++ received [event])).2,
      c.parsed ++ commands (frame newline [] (c.buffer ++ received [event])).1) ∨
      received [event] = [] ∧ (step formats c event).reading = c.reading := by
  cases event with
  | readyRead input =>
    left
    simp only [step, handle, readData_eq, reading, received, List.flatMap_cons, List.flatMap_nil, List.append_nil]
    rw [parsed_foldl]
  | initializeController => exact .inr ⟨rfl, reading_initializeInternal⟩
  | activate json => exact .inr ⟨rfl, rfl⟩
  | deactivate reason => exact .inr ⟨rfl, reading_deactivate reason⟩
  | checkStatus => exact .inr ⟨rfl, reading_checkStatus⟩
  | getBackendLogs callback => exact .inr ⟨rfl, reading_getBackendLogs callback⟩
  | cleanupBackendLogs => exact .inr ⟨rfl, reading_cleanupBackendLogs⟩
  | socketConnected => exact .inr ⟨rfl, reading_checkStatus⟩
  | socketDisconnected => exact .inr ⟨rfl, reading_errorOccurred⟩
  | socketError => exact .inr ⟨rfl, reading_errorOccurred⟩
  | initializingTimeout =>
    refine .inr ⟨rfl, ?_⟩
    simp only [step, handle]
    split_ifs
    · exact reading_initializeInternal
    · rfl
  | responseTimeout request =>
    refine .inr ⟨rfl, ?_⟩
    simp only [step, handle]
    split_ifs
    · exact reading_errorOccurred
    · rfl

lemma reading_run (es : List Event) (h : newline ∉ c.buffer) : (run (step formats) c es).reading =
    ((frame newline c.buffer (received es)).2, c.parsed ++ commands (frame newline c.buffer (received es)).1) := by
  induction es generalizing c with
  | nil => simp [reading, received, frame, commands]
  | cons event es ih =>
    have hs : (step formats c event).reading = ((frame newline c.buffer (received [event])).2,
        c.parsed ++ commands (frame newline c.buffer (received [event])).1) := by
      rcases reading_step formats (c := c) event with hs | ⟨hr, hs⟩
      · rw [hs, ← frame_tail h]
      · rw [hs, hr]
        simp [reading, frame, commands]
    obtain ⟨hb, hp⟩ := Prod.mk.inj hs
    have hn : newline ∉ (step formats c event).buffer := by
      rw [hb]
      exact notMem_frame h
    have hr : received (event :: es) = received [event] ++ received es := received_append [event] es
    rw [run_cons, ih hn, hb, hp, hr, frame_append, commands_append, List.append_assoc]

/-- The commands of a new connection are those of its lines exactly if no unfinished line is left over from the
old one, up to blanks, or no line comes. -/
lemma commands_frame_iff {tail : Bytes} (stream : Bytes) :
    commands (frame newline tail stream).1 = commands (frame newline [] stream).1 ↔
      (∀ b ∈ tail, isSpace b) ∨ newline ∉ stream := by
  by_cases hn : newline ∈ stream
  · obtain ⟨line, rest, rfl, hl⟩ := List.eq_append_cons_of_mem hn
    have ht : trimmed (tail ++ line) = trimmed line ↔ ∀ b ∈ tail, isSpace b := trim_append_eq_iff
    rw [frame_line hl, frame_line hl, List.nil_append, ← ht, or_iff_left (not_not.mpr hn), commands_cons, commands_cons]
    constructor
    · intro h
      by_cases ht : trimmed (tail ++ line) = [] <;> by_cases hl : trimmed line = []
      · rw [ht, hl]
      · rw [if_pos ht, if_neg hl] at h
        exact (List.cons_ne_self _ _ h.symm).elim
      · rw [if_neg ht, if_pos hl] at h
        exact (List.cons_ne_self _ _ h).elim
      · rw [if_neg ht, if_neg hl] at h
        exact (List.cons.inj h).1
    · intro h
      rw [h]
  · rw [frame_of_notMem hn, frame_of_notMem hn]
    simp [hn]

/-- After any run the client has parsed the lines of the stream that it has read, and keeps an unfinished one. So
does the daemon, however often it reads at once. After a reconnection the client parses the lines of the new
stream exactly if it keeps no more than blanks, or if no line comes. -/
theorem lines_parsed (es new : List Event) (parse : S → Bytes → S) (s : S) (reads : List (List Bytes)) :
    let c := run (step formats) {} es
    let c' := run (step formats) c.errorOccurred.initializeInternal new
    let stream := reads.flatMap DaemonLocalServerConnection.received
    c.reading = ((frame newline [] (received es)).2, commands (frame newline [] (received es)).1) ∧
      reads.foldl (fun p inputs => DaemonLocalServerConnection.readData parse inputs p.1 p.2) ([], s) =
        ((frame newline [] stream).2, (commands (frame newline [] stream).1).foldl parse s) ∧
      (c'.parsed = c.parsed ++ commands (frame newline [] (received new)).1 ↔
        (∀ b ∈ c.buffer, isSpace b) ∨ newline ∉ received new) := by
  intro c c' stream
  have hc : c.reading = ((frame newline [] (received es)).2, commands (frame newline [] (received es)).1) :=
    reading_run formats es List.not_mem_nil
  refine ⟨hc, DaemonLocalServerConnection.readData_foldl reads s List.not_mem_nil, ?_⟩
  · have hr : c.errorOccurred.initializeInternal.reading = c.reading :=
      reading_initializeInternal.trans reading_errorOccurred
    obtain ⟨hb, hp⟩ := Prod.mk.inj hr
    have hn : newline ∉ c.errorOccurred.initializeInternal.buffer := by
      rw [hb, (Prod.mk.inj hc).1]
      exact notMem_frame List.not_mem_nil
    have hp' : c'.parsed = c.parsed ++ commands (frame newline c.buffer (received new)).1 := by
      rw [← hb, ← hp]
      exact (Prod.mk.inj (reading_run formats new hn)).2
    rw [hp', List.append_cancel_left_eq]
    exact commands_frame_iff _

/-- An unfinished line of the old connection runs into the first line of the new one. -/
theorem lines_parsed_unfinished :
    let formats : Formats := ⟨fun _ => none, fun _ => none, fun _ => ""⟩
    let c := run (step formats) {} [.initializeController, .socketConnected, .readyRead [0x61]]
    let c' := run (step formats) c.errorOccurred.initializeInternal [.socketConnected, .readyRead [0x62, newline]]
    c'.parsed = [[0x61, 0x62]] ∧ c'.parsed ≠ c.parsed ++ commands (frame newline [] [0x62, newline]).1 := by
  intro formats c c'
  have hc : c.reading = ([0x61], []) := reading_run formats _ List.not_mem_nil
  have hr : c.errorOccurred.initializeInternal.reading = ([0x61], []) :=
    (reading_initializeInternal.trans reading_errorOccurred).trans hc
  obtain ⟨hb, hp⟩ := Prod.mk.inj hr
  have hn : newline ∉ c.errorOccurred.initializeInternal.buffer := by
    rw [hb]
    decide
  have hc' : c'.parsed = [[0x61, 0x62]] := by
    rw [(Prod.mk.inj (reading_run formats _ hn)).2, hb, hp]
    decide
  rw [hc', (Prod.mk.inj hc).2]
  exact ⟨rfl, by decide⟩

end LocalSocketController

end VpnClient.Ipc
