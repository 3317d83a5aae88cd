import VpnClient.Backend.Session
import VpnClient.Ipc.Message
import VpnClient.Library.Slots

/-! The client's end of the local socket: how it connects to the daemon, what it asks and how it reads the
answers. -/

namespace VpnClient.Ipc

open Backend Library Library.Lines

def CONNECTION_RETRY_INITIAL_MSEC : ℕ := 500
def CONNECTION_RETRY_MAXIMUM_MSEC : ℕ := 16000
def CONNECTION_RESPONSE_TIMEOUT_MSEC : ℕ := 500

inductive DaemonState where
  | eUnknown
  | eInitializing
  | eReady
  | eDisconnected
  deriving DecidableEq, Repr

inductive ErrorType where
  | ControllerError
  | SplitTunnelError
  deriving DecidableEq

/-- What the controller does to its socket, and what it reports to the client. -/
inductive Effect where
  | abort
  | connectToServer
  | write (request : ℕ) (message : JsonObject)
  | initialized (status connected : Bool) (connectionDate : Option ℕ)
  | connected (pubkey : String)
  | disconnected
  | statusUpdated (serverIpv4Gateway deviceIpv4Address : String) (txBytes rxBytes : ℕ)
  | logCallback (callback : ℕ) (logs : String)
  | reportError (error : ErrorType)

/-- A response timer, by the request that it was started for. -/
structure Timer where
  request : ℕ
  responseType : String
  interval : ℕ
  deriving DecidableEq

/-- `initializingTimer` is the interval with which the timer was started, if it is active. The requests are
numbered as they are written; `parsed` are the commands that were parsed, and `out` what all that led to. -/
structure LocalSocketController where
  daemonState : DaemonState := .eUnknown
  buffer : Bytes := []
  socketConnected : Bool := false
  logCallback : Option ℕ := none
  initializingTimer : Option ℕ := none
  initializingInterval : ℕ := 0
  responseTimeouts : List Timer := []
  requests : ℕ := 0
  parsed : List Bytes := []
  out : List Effect := []

namespace LocalSocketController

def emit (effect : Effect) (c : LocalSocketController) : LocalSocketController := { c with out := c.out ++ [effect] }

/-- The iterator of the loop keeps its place in the buffer. A timer that is deleted is read as it was. -/
def clearSlot (responseType : String) (timeouts : Slots Timer) (slot : ℕ) : Slots Timer :=
  match timeouts.buffer[slot]? with
  | none => timeouts
  | some t => if t.responseType ≠ responseType then timeouts else timeouts.removeOne t

/-- What is left of the timers when those of a type are erased while the loop iterates over the list. -/
def clearedTimeouts (responseType : String) (responseTimeouts : List Timer) : List Timer :=
  ((List.range responseTimeouts.length).foldl (clearSlot responseType) (.ofList responseTimeouts)).contents

def clearTimeout (responseType : String) (c : LocalSocketController) : LocalSocketController :=
  { c with responseTimeouts := clearedTimeouts responseType c.responseTimeouts }

def clearAllTimeouts (c : LocalSocketController) : LocalSocketController := { c with responseTimeouts := [] }

/-- An empty response type stands for no expected response. -/
def write (message : JsonObject) (expectedResponseType : String) (timeout : ℕ) (c : LocalSocketController) :
    LocalSocketController :=
  let timers := if expectedResponseType = "" then [] else [⟨c.requests, expectedResponseType, timeout⟩]
  { c.emit (.write c.requests message) with
    responseTimeouts := c.responseTimeouts ++ timers, requests := c.requests + 1 }

def errorOccurred (c : LocalSocketController) : LocalSocketController :=
  let c := if c.daemonState ≠ .eInitializing then (c.emit (.reportError .ControllerError)).emit .disconnected else c
  { c.clearAllTimeouts with initializingTimer := some c.initializingInterval }

def disconnectInternal (c : LocalSocketController) : LocalSocketController :=
  { c with daemonState := .eReady, initializingTimer := none }.emit .disconnected

/-- `abort` of the socket, which signals the end of a connection at once. -/
def abort (c : LocalSocketController) : LocalSocketController :=
  let c := c.emit .abort
  if c.socketConnected then { c with socketConnected := false }.errorOccurred else c

def initializeInternal (c : LocalSocketController) : LocalSocketController :=
  let initializingInterval :=
    if c.daemonState ≠ .eInitializing then CONNECTION_RETRY_INITIAL_MSEC
    else if c.initializingInterval < CONNECTION_RETRY_MAXIMUM_MSEC then c.initializingInterval * 2
    else c.initializingInterval
  { c with initializingInterval, daemonState := .eInitializing }.abort.emit .connectToServer

def checkStatus (c : LocalSocketController) : LocalSocketController :=
  if c.daemonState = .eReady ∨ c.daemonState = .eInitializing then
    c.write [("type", .string "status")] "status" CONNECTION_RESPONSE_TIMEOUT_MSEC
  else c

def daemonConnected (c : LocalSocketController) : LocalSocketController := c.checkStatus

/-- `json` is the configuration as an object. -/
def activate (json : JsonObject) (c : LocalSocketController) : LocalSocketController :=
  c.write (json.insert "type" (.string "activate")) "" CONNECTION_RESPONSE_TIMEOUT_MSEC

def deactivate (reason : Reason) (c : LocalSocketController) : LocalSocketController :=
  if c.daemonState ≠ .eReady then c.emit .disconnected
  else if reason = .ReasonSwitching then c.emit .disconnected
  else c.write [("type", .string "deactivate")] "" CONNECTION_RESPONSE_TIMEOUT_MSEC

def getBackendLogs (callback : ℕ) (c : LocalSocketController) : LocalSocketController :=
  let c :=
    match c.logCallback with
    | some callback => { c.emit (.logCallback callback "") with logCallback := none }
    | none => c
  if c.daemonState ≠ .eReady then c.emit (.logCallback callback "")
  else { c with logCallback := some callback }.write [("type", .string "logs")] "" CONNECTION_RESPONSE_TIMEOUT_MSEC

def cleanupBackendLogs (c : LocalSocketController) : LocalSocketController :=
  if c.daemonState ≠ .eReady then c else c.write [("type", .string "cleanlogs")] "logs" 5000

/-- The status in an answer, if all of its fields are there. -/
def statusFromJson (obj : JsonObject) : Option Effect := do
  let serverIpv4Gateway ← obj.string? "serverIpv4Gateway"
  let deviceIpv4Address ← obj.string? "deviceIpv4Address"
  let txBytes ← obj.double? "txBytes"
  let rxBytes ← obj.double? "rxBytes"
  return .statusUpdated serverIpv4Gateway deviceIpv4Address txBytes.floor.toNat rxBytes.floor.toNat

def emitStatusFromJson (obj : JsonObject) (c : LocalSocketController) : LocalSocketController :=
  match statusFromJson obj with
  | none => c
  | some effect => c.emit effect

variable (formats : Formats)

/-- What the first status reports: whether there is a connection, and since when. -/
def initialStatus (obj : JsonObject) : Option (Bool × Option ℕ) :=
  match obj.bool? "connected" with
  | none => none
  | some false => some (false, none)
  | some true =>
    match (obj.string? "date").bind formats.dateFromString with
    | none => none
    | some date => some (true, some date)

def DAEMON_ERROR_MAX : ℕ := 5

/-- The error that is reported for a failure of the daemon. -/
def backendFailure (obj : JsonObject) : ErrorType :=
  match obj.value "errorCode" with
  | none => .ControllerError
  | some value =>
    let errorCode := (value.toInt % 256).toNat
    if DAEMON_ERROR_MAX ≤ errorCode then .ControllerError
    else if errorCode = 2 ∨ errorCode = 3 ∨ errorCode = 4 then .SplitTunnelError
    else .ControllerError

/-- The part of `parseCommand` that depends on the type. -/
def parseType (type : String) (obj : JsonObject) (c : LocalSocketController) : LocalSocketController :=
  if c.daemonState = .eInitializing ∧ type = "status" then
    let c := { c with daemonState := .eReady }
    match initialStatus formats obj with
    | none => c
    | some (connected, connectionDate) => c.emit (.initialized true connected connectionDate)
  else if c.daemonState ≠ .eReady then c
  else if type = "status" then c.emitStatusFromJson obj
  else if type = "disconnected" then c.disconnectInternal
  else if type = "connected" then
    match obj.string? "pubkey" with
    | none => c
    | some pubkey => c.emit (.connected pubkey)
  else if type = "backendFailure" then c.emit (.reportError (backendFailure obj))
  else if type = "logs" then
    match c.logCallback with
    | none => c
    | some callback =>
      let logs := ((obj.string? "logs").map (·.map fun ch => if ch = '|' then '\n' else ch)).getD ""
      { c.emit (.logCallback callback logs) with logCallback := none }
  else c

def parseMessage (obj : JsonObject) (c : LocalSocketController) : LocalSocketController :=
  match obj.string? "type" with
  | none => c
  | some type => (c.clearTimeout type).parseType formats type obj

def parseCommand (c : LocalSocketController) (command : Bytes) : LocalSocketController :=
  let c := { c with parsed := c.parsed ++ [command] }
  match formats.fromJson command with
  | none => c
  | some obj => c.parseMessage formats obj

/-- The loop of `readData`, with the buffer that `parseCommand` does not touch. -/
def readLines {S : Type} (parseCommand : S → Bytes → S) (buffer : Bytes) (s : S) : Bytes × S :=
  match h : nextLine newline buffer with
  | none => (buffer, s)
  | some (line, rest) =>
    have : rest.length < buffer.length := length_lt_of_nextLine h
    let command := trimmed line
    readLines parseCommand rest (if command = [] then s else parseCommand s command)
termination_by buffer.length

def readData (input : Bytes) (c : LocalSocketController) : LocalSocketController :=
  let (buffer, c) := readLines (parseCommand formats) (c.buffer ++ input) c
  { c with buffer }

/-- Calls of the client, signals of the socket and timeouts. -/
inductive Event where
  | initializeController
  | activate (json : JsonObject)
  | deactivate (reason : Reason)
  | checkStatus
  | getBackendLogs (callback : ℕ)
  | cleanupBackendLogs
  | socketConnected
  | socketDisconnected
  | socketError
  | readyRead (input : Bytes)
  | initializingTimeout
  | responseTimeout (request : ℕ)

def handle (c : LocalSocketController) : Event → LocalSocketController
  | .initializeController => c.initializeInternal
  | .activate json => c.activate json
  | .deactivate reason => c.deactivate reason
  | .checkStatus => c.checkStatus
  | .getBackendLogs callback => c.getBackendLogs callback
  | .cleanupBackendLogs => c.cleanupBackendLogs
  | .socketConnected => { c with socketConnected := true }.daemonConnected
  | .socketDisconnected => { c with socketConnected := false }.errorOccurred
  | .socketError => c.errorOccurred
  | .readyRead input => c.readData formats input
  | .initializingTimeout =>
    if c.initializingTimer.isSome then { c with initializingTimer := none }.initializeInternal else c
  | .responseTimeout request => if c.responseTimeouts.any (·.request = request) then c.errorOccurred else c

def step (c : LocalSocketController) (event : Event) : LocalSocketController := handle formats { c with out := [] } event

end LocalSocketController

end VpnClient.Ipc
