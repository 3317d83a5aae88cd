import VpnClient.Ipc.Message

/-! The daemon's end of a local socket: whom it obeys, how it reads the commands and what it answers. -/

namespace VpnClient.Ipc

open Backend Library.Lines

/-- The owner of the session, if one is active. -/
structure DaemonAccessControl where
  sessionOwner : Option ℕ := none
  deriving DecidableEq

namespace DaemonAccessControl

def isSessionActive (a : DaemonAccessControl) : Bool := a.sessionOwner.isSome

/-- `peerId` is the user at the other end of the socket, if it can be told. -/
def startSession (peerId : Option ℕ) (a : DaemonAccessControl) : Bool × DaemonAccessControl :=
  if a.isSessionActive then (false, a)
  else
    match peerId with
    | none => (false, a)
    | some peerId => (true, { a with sessionOwner := some peerId })

def resetSession (a : DaemonAccessControl) : DaemonAccessControl := { a with sessionOwner := none }

def isPeerAuthorized (peerId : Option ℕ) (a : DaemonAccessControl) : Bool :=
  match a.sessionOwner, peerId with
  | none, _ => false
  | some _, none => false
  | some sessionOwner, some uid => uid == 0 || sessionOwner == uid

def isCommandAuthorizedForPeer (command : String) (peerId : Option ℕ) (a : DaemonAccessControl) :
    Bool × DaemonAccessControl :=
  if !a.isSessionActive then
    if command = "activate" then a.startSession peerId
    else if command = "status" then (true, a)
    else (false, a)
  else (a.isPeerAuthorized peerId, a)

end DaemonAccessControl

/-- A signal of the daemon that its connections pass on. -/
inductive DaemonSignal where
  | connected (pubkey : String)
  | disconnected
  | backendFailure (err : ℕ)

def DaemonSignal.toMessage : DaemonSignal → JsonObject
  | connected pubkey => [("type", .string "connected"), ("pubkey", .string pubkey)]
  | disconnected => [("type", .string "disconnected")]
  | backendFailure err => [("type", .string "backendFailure"), ("errorCode", .double err)]

/-- What a command finds in the daemon: whether a configuration can be parsed and activated, what the daemon
signals meanwhile, its status and its logs. -/
structure DaemonAnswers where
  parseConfig : Bool
  activate : Bool
  signals : List DaemonSignal
  status : Daemon.Status
  logs : String

/-- The object of `getStatus`. -/
def statusObject (formats : Formats) (status : Daemon.Status) : JsonObject :=
  if status.connected then
    [("connected", .bool true), ("serverIpv4Gateway", .string status.serverIpv4Gateway),
      ("deviceIpv4Address", .string status.deviceIpv4Address), ("date", .string (formats.dateToString status.date)),
      ("txBytes", .double status.txBytes), ("rxBytes", .double status.rxBytes)]
  else [("connected", .bool false)]

namespace DaemonLocalServerConnection

variable (formats : Formats) (peerId : Option ℕ) (answers : DaemonAnswers)

/-- What the peer is sent for an authorized command. -/
def respond (type : String) : List JsonObject :=
  if type = "activate" then
    if !answers.parseConfig then [DaemonSignal.disconnected.toMessage]
    else answers.signals.map DaemonSignal.toMessage ++
      if answers.activate then [] else [DaemonSignal.disconnected.toMessage]
  else if type = "deactivate" then answers.signals.map DaemonSignal.toMessage
  else if type = "status" then [(statusObject formats answers.status).insert "type" (.string "status")]
  else if type = "logs" then
    [[("type", .string "logs"), ("logs", .string (answers.logs.map fun ch => if ch = '\n' then '|' else ch))]]
  else [] -- "cleanlogs" is answered by nothing

/-- The access control after a command, and what the peer is sent. -/
def parseCommand (obj : JsonObject) (accessControl : DaemonAccessControl) :
    DaemonAccessControl × List JsonObject :=
  match obj.string? "type" with
  | none => (accessControl, [])
  | some type =>
    match accessControl.isCommandAuthorizedForPeer type peerId with
    | (false, accessControl) =>
      (accessControl, if type = "logs" then [[("type", .string "logs"), ("logs", .string "")]] else [])
    | (true, accessControl) =>
      (if type = "deactivate" then accessControl.resetSession else accessControl,
        respond formats answers type)

/-- The loop of `readData`, where `inputs` are the results of `readAll`. It ends with an empty one. -/
def readData {S : Type} (parseCommand : S → Bytes → S) (inputs : List Bytes) (buffer : Bytes) (s : S) : Bytes × S :=
  match h : nextLine newline buffer with
  | none =>
    match inputs with
    | [] => (buffer, s)
    | input :: inputs => if input = [] then (buffer, s) else readData parseCommand inputs (buffer ++ input) s
  | some (line, rest) =>
    have : rest.length < buffer.length := length_lt_of_nextLine h
    let command := trimmed line
    readData parseCommand inputs rest (if command = [] then s else parseCommand s command)
termination_by (inputs.length, buffer.length)

end DaemonLocalServerConnection

end VpnClient.Ipc
