import VpnClient.Ipc.Message
import VpnClient.Library.LineTails
import VpnClient.Library.Runs

/-! The log file: how it is opened, cut down, read out and removed. -/

namespace VpnClient.Logs

open Ipc Library.LineTails

def LOG_MAX_FILE_SIZE : ℕ := 204800

/-- Which operations succeed while a log is opened. -/
structure Opening where
  /-- The directory is there or can be made. -/
  location : Bool
  rename : Bool
  openOld : Bool
  openNew : Bool
  openAppend : Bool

/-- The log and its left-over copy on the disk, and the handler. -/
structure LogHandler where
  log : Option Bytes
  bak : Option Bytes
  s_instance : Bool := false
  m_logFile : Bool := false

namespace LogHandler

/-- "\r" -/
def carriageReturn : UInt8 := 0x0d

/-- The rest of a file that is open for reading as text. -/
def readAll (rest : Bytes) : Bytes := rest.filter (· ≠ carriageReturn)

/-- The scope guard removes the log if it was not renamed, and else its copy. -/
def truncateLogFile (o : Opening) (s : LogHandler) : LogHandler :=
  match s.log with
  | none => s
  | some content =>
    if content.length < LOG_MAX_FILE_SIZE then s
    else if s.bak.isSome ∨ ¬ o.rename then { s with log := none }
    else if ¬ o.openOld then { s with log := none, bak := none }
    else
      let tail := readAll (afterLine newline (content.drop (content.length - LOG_MAX_FILE_SIZE / 2)))
      if o.openNew then { s with log := some tail, bak := none } else { s with log := none, bak := none }

def openLogFile (o : Opening) (s : LogHandler) : LogHandler :=
  if o.location then
    let s := s.truncateLogFile o
    if o.openAppend then { s with log := some (s.log.getD []), m_logFile := true } else { s with m_logFile := false }
  else s

def closeLogFile (s : LogHandler) : LogHandler := { s with m_logFile := false }

def maybeCreate (o : Opening) (s : LogHandler) : LogHandler :=
  if s.s_instance then s else openLogFile o { s with s_instance := true }

def addLog (entry : Bytes) (s : LogHandler) : LogHandler :=
  if s.m_logFile then { s with log := some (s.log.getD [] ++ entry) } else s

def messageHandler (o : Opening) (entry : Bytes) (s : LogHandler) : LogHandler := (s.maybeCreate o).addLog entry

/-- The log is read out, if it can be read. -/
def writeLogs (readable : Bool) (o : Opening) (s : LogHandler) : LogHandler :=
  if s.s_instance ∧ s.m_logFile then
    let s := s.closeLogFile
    if readable then s.openLogFile o else s
  else s

def cleanupLogs (o : Opening) (s : LogHandler) : LogHandler :=
  if s.s_instance ∧ s.m_logFile then openLogFile o { s.closeLogFile with log := none } else s

/-- What is left for the next process. -/
def restart (s : LogHandler) : LogHandler := { log := s.log, bak := s.bak }

inductive Event where
  | maybeCreate (o : Opening)
  | messageHandler (o : Opening) (entry : Bytes)
  | writeLogs (readable : Bool) (o : Opening)
  | cleanupLogs (o : Opening)
  | restart

def step (s : LogHandler) : Event → LogHandler
  | .maybeCreate o => s.maybeCreate o
  | .messageHandler o entry => s.messageHandler o entry
  | .writeLogs readable o => s.writeLogs readable o
  | .cleanupLogs o => s.cleanupLogs o
  | .restart => s.restart

end LogHandler

end VpnClient.Logs

/-! When the log keeps its last lines and goes on after it was read out. -/

namespace VpnClient.Logs.LogHandler

open Ipc Library Library.LineTails

/-- The log cannot be cut down. -/
def Blocked (o : Opening) (s : LogHandler) : Prop :=
  ¬ o.location ∨ s.bak.isSome ∨ ¬ o.rename ∨ ¬ o.openOld ∨ ¬ o.openNew

/-- What is asked of the log after it was opened. -/
def Keeps (o : Opening) (s : LogHandler) : Prop :=
  ∀ old, s.log = some old → LOG_MAX_FILE_SIZE ≤ old.length → ∃ content, (s.openLogFile o).log = some content ∧
    content ≠ [] ∧ (LastLines newline (LOG_MAX_FILE_SIZE / 2) old content ∨ Blocked o s ∧ content = old)

/-- Entries are appended to the log. -/
def Appends (s : LogHandler) : Prop :=
  ∃ content, s.log = some content ∧ ∀ o entry, (s.messageHandler o entry).log = some (content ++ entry)

def Correct (s : LogHandler) : Event → Prop
  | .maybeCreate o => ¬ s.s_instance → Keeps o { s with s_instance := true }
  | .messageHandler o _ => ¬ s.s_instance → Keeps o { s with s_instance := true }
  | .writeLogs readable o => s.s_instance → s.m_logFile →
    (readable → Keeps o s.closeLogFile) ∧ (o.location → o.openAppend → Appends (s.writeLogs readable o))
  | .cleanupLogs o => s.s_instance → s.m_logFile → Keeps o { s.closeLogFile with log := none }
  | .restart => True

/-- The last half is not cut off at the start of a line, a line ends in it before its last byte, and no carriage return
follows that line. -/
def WholeLines (old : Bytes) : Prop :=
  (old.take (old.length - LOG_MAX_FILE_SIZE / 2)).getLast? ≠ some newline ∧
    newline ∈ (old.drop (old.length - LOG_MAX_FILE_SIZE / 2)).dropLast ∧
    carriageReturn ∉ afterLine newline (old.drop (old.length - LOG_MAX_FILE_SIZE / 2))

/-- The log is short enough, or is left alone, or all goes well while it is cut down. -/
def Sound (o : Opening) (s : LogHandler) : Prop :=
  ∀ old, s.log = some old → LOG_MAX_FILE_SIZE ≤ old.length →
    ¬ o.location ∨ s.bak = none ∧ o.rename ∧ o.openOld ∧ o.openNew ∧ WholeLines old

def Meets (s : LogHandler) : Event → Prop
  | .maybeCreate o => s.s_instance ∨ Sound o s
  | .messageHandler o _ => s.s_instance ∨ Sound o s
  | .writeLogs readable o => s.s_instance → s.m_logFile →
    (readable → Sound o s) ∧ (readable ∨ ¬ (o.location ∧ o.openAppend))
  | .cleanupLogs _ => True
  | .restart => True

variable {o : Opening} {s : LogHandler}

lemma openLogFile_of_not_location (h : ¬ o.location) : s.openLogFile o = s := if_neg h

lemma lastLines_iff {old : Bytes} (hl : LOG_MAX_FILE_SIZE ≤ old.length) :
    readAll (afterLine newline (old.drop (old.length - LOG_MAX_FILE_SIZE / 2))) ≠ [] ∧
        LastLines newline (LOG_MAX_FILE_SIZE / 2) old
          (readAll (afterLine newline (old.drop (old.length - LOG_MAX_FILE_SIZE / 2)))) ↔ WholeLines old := by
  have hb : old.take (old.length - LOG_MAX_FILE_SIZE / 2) ≠ [] := by
    intro h
    have := congrArg List.length h
    simp only [List.length_take, List.length_nil, LOG_MAX_FILE_SIZE] at this hl
    omega
  have hn : (old.drop (old.length - LOG_MAX_FILE_SIZE / 2)).length = LOG_MAX_FILE_SIZE / 2 := by
    simp only [List.length_drop, LOG_MAX_FILE_SIZE] at hl ⊢
    omega
  have h := lastLines_filter_afterLine_iff newline (old.drop (old.length - LOG_MAX_FILE_SIZE / 2)) carriageReturn hb
  rwa [hn, List.take_append_drop] at h

lemma truncateLogFile_log {old : Bytes} (hs : s.log = some old) (hl : LOG_MAX_FILE_SIZE ≤ old.length) :
    (s.truncateLogFile o).log = if s.bak = none ∧ o.rename ∧ o.openOld ∧ o.openNew then
      some (readAll (afterLine newline (old.drop (old.length - LOG_MAX_FILE_SIZE / 2)))) else none := by
  rw [truncateLogFile, hs]
  dsimp only
  rw [if_neg (Nat.not_lt.mpr hl)]
  by_cases hb : s.bak = none
  case neg => simp [hb, Option.isSome_iff_ne_none.mpr hb]
  cases hr : o.rename with
  | false => simp
  | true =>
    cases ho : o.openOld with
    | false => simp [hb]
    | true => cases hn : o.openNew <;> simp [hb]

lemma openLogFile_log {content : Bytes} (hl : o.location) (hc : content ≠ []) :
    (s.openLogFile o).log = some content ↔ (s.truncateLogFile o).log = some content := by
  rw [openLogFile, if_pos hl]
  cases o.openAppend with
  | false => rfl
  | true => cases h : (s.truncateLogFile o).log <;> simp [h, hc.symm]

lemma keeps_iff : Keeps o s ↔ Sound o s := by
  rw [Keeps, Sound]
  apply forall_congr'
  intro old
  apply forall_congr'
  intro hs
  apply forall_congr'
  intro hm
  by_cases hl : o.location
  case neg =>
    rw [openLogFile_of_not_location hl]
    have hn : old ≠ [] := by
      rintro rfl
      exact absurd hm (by simp [LOG_MAX_FILE_SIZE])
    exact iff_of_true ⟨old, hs, hn, Or.inr ⟨Or.inl hl, rfl⟩⟩ (Or.inl hl)
  case pos =>
    have ht := truncateLogFile_log (o := o) hs hm
    by_cases hg : s.bak = none ∧ o.rename ∧ o.openOld ∧ o.openNew
    case neg =>
      rw [if_neg hg] at ht
      apply iff_of_false
      · rintro ⟨content, ho, hc, -⟩
        rw [openLogFile_log hl hc, ht] at ho
        cases ho
      · rintro (h | ⟨hb, hr, ho, hn, -⟩)
        · exact h hl
        · exact hg ⟨hb, hr, ho, hn⟩
    case pos =>
      rw [if_pos hg] at ht
      have hb : ¬ Blocked o s := by simp [Blocked, hg, hl]
      have hw := lastLines_iff hm
      constructor
      case mp =>
        rintro ⟨content, ho, hc, hk⟩
        rw [openLogFile_log hl hc, ht] at ho
        obtain rfl := Option.some.inj ho
        rcases hk with hk | hk
        · exact Or.inr ⟨hg.1, hg.2.1, hg.2.2.1, hg.2.2.2, hw.mp ⟨hc, hk⟩⟩
        · exact absurd hk.1 hb
      case mpr =>
        rintro (h | ⟨-, -, -, -, h⟩)
        · exact absurd hl h
        · obtain ⟨hc, hk⟩ := hw.mpr h
          exact ⟨_, (openLogFile_log hl hc).mpr ht, hc, Or.inl hk⟩

lemma appends_openLogFile (hi : s.s_instance) (hl : o.location) (ha : o.openAppend) : Appends (s.openLogFile o) := by
  have hopen : s.openLogFile o =
      { s.truncateLogFile o with log := some ((s.truncateLogFile o).log.getD []), m_logFile := true } := by
    rw [openLogFile, if_pos hl, if_pos ha]
  have ht : (s.truncateLogFile o).s_instance = true := by
    rw [truncateLogFile]
    cases s.log with
    | none => exact hi
    | some content =>
      dsimp only
      split_ifs <;> exact hi
  rw [hopen]
  refine ⟨_, rfl, fun o' entry => ?_⟩
  rw [messageHandler, maybeCreate, if_pos ht, addLog, if_pos rfl]
  rfl

lemma not_appends_closeLogFile (hi : s.s_instance) : ¬ Appends s.closeLogFile := by
  rintro ⟨content, hc, h⟩
  have ho := h ⟨true, true, true, true, true⟩ [newline]
  rw [messageHandler, maybeCreate, if_pos (show s.closeLogFile.s_instance = true from hi), addLog,
    if_neg (by simp [closeLogFile]), hc] at ho
  simpa using congrArg List.length (Option.some.inj ho)

lemma correct_iff (s : LogHandler) (event : Event) : Correct s event ↔ Meets s event := by
  cases event with
  | maybeCreate o =>
    rw [Correct, Meets, keeps_iff]
    exact imp_iff_or_not.trans (by rw [not_not, or_comm]; exact Iff.rfl)
  | messageHandler o entry =>
    rw [Correct, Meets, keeps_iff]
    exact imp_iff_or_not.trans (by rw [not_not, or_comm]; exact Iff.rfl)
  | writeLogs readable o =>
    rw [Correct, Meets, keeps_iff]
    apply forall_congr'
    intro hi
    apply forall_congr'
    intro hm
    apply and_congr Iff.rfl
    rw [writeLogs, if_pos ⟨hi, hm⟩]
    cases readable with
    | true =>
      rw [if_pos rfl]
      exact iff_of_true (appends_openLogFile hi) (Or.inl rfl)
    | false =>
      rw [if_neg (by simp)]
      simp [not_appends_closeLogFile hi]
  | cleanupLogs o =>
    rw [Correct, Meets, keeps_iff]
    exact iff_of_true (fun _ _ _ h => by cases h) trivial
  | restart => exact Iff.rfl

/-- Every step of a run on any disk does what is asked of it if and only if nothing goes wrong where a log is opened,
and no log is read out that can be appended to but not read. -/
theorem correct_iff_sound (log bak : Option Bytes) (events : List Event) :
    Runs.Meets step Correct { log, bak } events ↔ Runs.Meets step Meets { log, bak } events :=
  Runs.meets_congr (P := fun _ => True) (fun _ _ _ _ => trivial) (fun s event _ => correct_iff s event) trivial

/-- A left-over copy makes the renaming fail, and the whole log is removed. -/
theorem not_correct_left_over : ¬ Runs.Meets step Correct
    { log := some (List.replicate LOG_MAX_FILE_SIZE newline), bak := some [] }
    [.maybeCreate ⟨true, false, true, true, true⟩] := by
  intro h
  rcases (correct_iff _ _).mp h.1 with hi | hs
  · cases hi
  · rcases hs _ rfl (List.length_replicate ..).ge with hl | hb
    · exact hl rfl
    · cases hb.1

end VpnClient.Logs.LogHandler
