import VpnClient.Ipc.LocalSocketController
import VpnClient.Ipc.DaemonLocalServerConnection
import VpnClient.Library.Runs

/-! The first status: what the client makes of the daemon's answer in each state that the daemon can be in. -/

namespace VpnClient.Ipc

open Backend Library.Runs

/-- The daemon's answer to a status request. -/
def statusReply (formats : Formats) (status : Daemon.Status) : JsonObject :=
  (statusObject formats status).insert "type" (.string "status")

/-- The text of a date is read back to the same second. -/
def Formats.ReadsBack (formats : Formats) (date : ℕ) : Prop :=
  ∃ read, formats.dateFromString (formats.dateToString (some date)) = some read ∧ read / 1000 = date / 1000

/-- A connection that is reported has completed its handshake, at a date that can be read back. -/
def Settled (formats : Formats) (peers : List Daemon.PeerStatus) (d : Daemon) : Prop :=
  d.interface.present = true → ∀ connection, d.connections.first = some connection →
    (∃ status ∈ peers, status.pubkey = connection.config.serverPublicKey) →
      ∃ date, connection.date = some date ∧ formats.ReadsBack date

/-- The client becomes ready and reports the status, once, with the date of the connection. -/
def Initializes (status : Daemon.Status) (c c' : LocalSocketController) : Prop :=
  c'.daemonState = .eReady ∧ ∃ connectionDate,
    c'.out = c.out ++ [.initialized true status.connected connectionDate] ∧
    (status.connected = true →
      ∃ date read, status.date = some date ∧ connectionDate = some read ∧ read / 1000 = date / 1000)

section

variable {formats : Formats} {status : Daemon.Status} {peers : List Daemon.PeerStatus} {d : Daemon}
  {c : LocalSocketController} {line : Bytes}

lemma connected_statusReply (formats : Formats) (status : Daemon.Status) :
    (statusReply formats status).bool? "connected" = some status.connected := by
  cases hc : status.connected <;>
    simp [statusReply, statusObject, hc, JsonObject.bool?, JsonObject.insert, JsonObject.value, JsonValue.bool?]

lemma date_statusReply (h : status.connected = true) :
    (statusReply formats status).string? "date" = some (formats.dateToString status.date) := by
  simp [statusReply, statusObject, h, JsonObject.string?, JsonObject.insert, JsonObject.value, JsonValue.string?]

lemma initialStatus_statusReply (formats : Formats) (status : Daemon.Status) :
    LocalSocketController.initialStatus formats (statusReply formats status) =
      if status.connected then
        (formats.dateFromString (formats.dateToString status.date)).map fun date => (true, some date)
      else some (false, none) := by
  unfold LocalSocketController.initialStatus
  rw [connected_statusReply]
  cases hc : status.connected with
  | false => rfl
  | true =>
    rw [date_statusReply hc]
    dsimp only [Option.bind_some, if_true]
    cases formats.dateFromString (formats.dateToString status.date) <;> rfl

/-- The effects of the first status. -/
def initialEffects (formats : Formats) (status : Daemon.Status) : List Effect :=
  (LocalSocketController.initialStatus formats (statusReply formats status)).toList.map fun r =>
    .initialized true r.1 r.2

lemma parseCommand_statusReply (hc : c.daemonState = .eInitializing)
    (hl : formats.fromJson line = some (statusReply formats status)) :
    (c.parseCommand formats line).daemonState = .eReady ∧
      (c.parseCommand formats line).out = c.out ++ initialEffects formats status := by
  have ht : (statusReply formats status).string? "type" = some "status" := JsonObject.string?_insert_self _
  unfold LocalSocketController.parseCommand initialEffects
  simp only [hl, LocalSocketController.parseMessage, ht, LocalSocketController.parseType]
  rw [if_pos ⟨hc, trivial⟩]
  cases LocalSocketController.initialStatus formats (statusReply formats status) with
  | none => exact ⟨rfl, (List.append_nil _).symm⟩
  | some r => exact ⟨rfl, rfl⟩

variable (formats) in
lemma getStatus_cases (peers : List Daemon.PeerStatus) (d : Daemon) :
    (∃ connection, d.interface.present = true ∧ d.connections.first = some connection ∧
      (∃ status ∈ peers, status.pubkey = connection.config.serverPublicKey) ∧
      (d.getStatus peers).connected = true ∧ (d.getStatus peers).date = connection.date) ∨
    (Settled formats peers d ∧ (d.getStatus peers).connected = false) := by
  unfold Daemon.getStatus
  by_cases hp : d.interface.present = true
  · rw [hp]
    simp only [Bool.not_true, Bool.false_eq_true, if_false]
    cases hf : d.connections.first with
    | none => exact .inr ⟨fun _ connection h => by simp [hf] at h, rfl⟩
    | some connection =>
      cases hs : peers.find? (·.pubkey == connection.config.serverPublicKey) with
      | none =>
        refine .inr ⟨fun _ other h he => ?_, by simp only [hs]⟩
        obtain ⟨status, hm, hk⟩ := he
        obtain rfl := Option.some.inj (hf.symm.trans h)
        exact absurd hk (by simpa using List.find?_eq_none.mp hs status hm)
      | some status =>
        refine .inl ⟨connection, trivial, rfl, ⟨status, List.mem_of_find?_eq_some hs, ?_⟩, ?_⟩
        · simpa using List.find?_some hs
        · simp only [hs, and_self]
  · exact .inr ⟨fun h => absurd h hp, by simp [hp]⟩

variable (formats) in
/-- In each state that the daemon reaches, the client that waits for the first status is initialized by it exactly
if the connection is settled. -/
theorem initializes_iff (hi : formats.dateFromString (formats.dateToString none) = none) (env : Env)
    (calls : List Daemon.Call) (peers : List Daemon.PeerStatus) (hc : c.daemonState = .eInitializing)
    (hl : formats.fromJson line =
      some (statusReply formats ((run (Daemon.step env) {} calls).getStatus peers))) :
    Initializes ((run (Daemon.step env) {} calls).getStatus peers) c (c.parseCommand formats line) ↔
      Settled formats peers (run (Daemon.step env) {} calls) := by
  generalize run (Daemon.step env) {} calls = d at hl ⊢
  obtain ⟨hr, ho⟩ := parseCommand_statusReply hc hl
  unfold Initializes
  rw [ho]
  simp only [hr, true_and, List.append_cancel_left_eq, initialEffects, initialStatus_statusReply]
  rcases getStatus_cases formats peers d with ⟨connection, hp, hf, hk, hs, hd⟩ | ⟨hn, hs⟩
  · have hset : Settled formats peers d ↔ ∃ date, connection.date = some date ∧ formats.ReadsBack date := by
      refine ⟨fun h => h hp connection hf hk, fun h _ other hf' _ => ?_⟩
      obtain rfl := Option.some.inj (hf.symm.trans hf')
      exact h
    rw [hset, hs, hd]
    cases connection.date with
    | none => simp [hi]
    | some date =>
      cases ht : formats.dateFromString (formats.dateToString (some date)) with
      | none => simp [Formats.ReadsBack, ht]
      | some read => simp [Formats.ReadsBack, ht]
  · simp [hn, hs]

/-- A connection with a handshake is reported with its date. -/
theorem initializes_iff_completed :
    let config : InterfaceConfig := { hopType := .SingleHop, serverPublicKey := "k" }
    let calls : List Daemon.Call := [.activate config, .handshakeTimeout [⟨"k", 1700000000123, 0, 0⟩]]
    let status := (run (Daemon.step (.succeeding true)) {} calls).getStatus [⟨"k", 1700000000123, 0, 0⟩]
    let line := "\x7b\"connected\":true,\"date\":\"Tue Nov 14 22:13:20 2023\",\"deviceIpv4Address\":\"\",\"rxBytes\":0,\"serverIpv4Gateway\":\"\",\"txBytes\":0,\"type\":\"status\"\x7d".toUTF8.toList
    let dates : Formats :=
      { fromJson := fun _ => none
        dateFromString := fun text => if text = "Tue Nov 14 22:13:20 2023" then some 1700000000000 else none
        dateToString := fun date => if date = some 1700000000123 then "Tue Nov 14 22:13:20 2023" else "" }
    let formats := { dates with fromJson := fun l => if l = line then some (statusReply dates status) else none }
    let c : LocalSocketController := { daemonState := .eInitializing }
    Initializes status c (c.parseCommand formats line) := by
  intro config calls status line dates formats c
  refine (initializes_iff formats rfl (.succeeding true) calls _ rfl ?_).mpr ?_
  · simp only [formats]
    rw [if_pos trivial]
    rfl
  · intro _ connection hf _
    obtain rfl : ({ date := some 1700000000123, config } : ConnectionState) = connection := Option.some.inj hf
    exact ⟨1700000000123, rfl, 1700000000000, rfl, rfl⟩

/-- A connection that waits for its handshake is reported without a date, and the client becomes ready silently. -/
theorem not_initializes_pending :
    let config : InterfaceConfig := { hopType := .SingleHop, serverPublicKey := "k" }
    let status := (run (Daemon.step (.succeeding true)) {} [.activate config]).getStatus [⟨"k", 0, 0, 0⟩]
    let line := "\x7b\"connected\":true,\"date\":\"\",\"deviceIpv4Address\":\"\",\"rxBytes\":0,\"serverIpv4Gateway\":\"\",\"txBytes\":0,\"type\":\"status\"\x7d".toUTF8.toList
    let dates : Formats := { fromJson := fun _ => none, dateFromString := fun _ => none, dateToString := fun _ => "" }
    let formats := { dates with fromJson := fun l => if l = line then some (statusReply dates status) else none }
    let c : LocalSocketController := { daemonState := .eInitializing }
    let c' := c.parseCommand formats line
    status.connected = true ∧ c'.daemonState = .eReady ∧ c'.out = [] ∧ ¬Initializes status c c' := by
  intro config status line dates formats c c'
  have hl : formats.fromJson line = some (statusReply formats status) := by
    simp only [formats]
    rw [if_pos trivial]
    rfl
  obtain ⟨hr, ho⟩ := parseCommand_statusReply (c := c) rfl hl
  have hn : c'.out = [] := ho
  refine ⟨rfl, hr, hn, ?_⟩
  rintro ⟨_, connectionDate, he, _⟩
  rw [hn] at he
  cases he

end

end VpnClient.Ipc
