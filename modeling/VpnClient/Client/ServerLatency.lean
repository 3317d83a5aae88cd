import Mathlib.Tactic

/-! The measurement of the latency of the servers: pings that are sent a few at a time, and again if they are not
answered in time. -/

namespace VpnClient.Client

structure ServerPingRecord (Distance : Type) where
  publicKey : String
  countryCode : String
  cityName : String
  timestamp : ℕ := 0
  sequence : UInt16 := 0
  distance : Distance
  retries : ℕ := 0
  deriving DecidableEq

/-- A city of the server model, with its distance from the location of the user. -/
structure PingedCity (Distance : Type) where
  country : String
  name : String
  distance : Distance
  servers : List String

/-- What `start` finds: whether the feature is supported, whether the controller is off, and the cities. -/
structure PingEnvironment (Distance : Type) where
  isSupported : Bool
  isOff : Bool
  cities : List (PingedCity Distance)

/-- The members of the class, where `pingSender` tells whether there is one. The records of the pings that were sent
since the start are listed in `sent`, and those of the servers that are done with in `finished`. -/
structure ServerLatency (Distance : Type) where
  sequence : UInt16 := 0
  pingSender : Bool := false
  pingSendQueue : List (ServerPingRecord Distance) := []
  pingReplyList : List (ServerPingRecord Distance) := []
  pingSendTotal : ℕ := 0
  latency : String → ℤ := fun _ => 0
  sumLatencyMsec : ℤ := 0
  lastUpdateTime : ℕ := 0
  pingTimeout : Option ℤ := none
  refreshTimer : Bool := false
  progressDelayTimer : Bool := false
  wantRefresh : Bool := false
  sent : List (ServerPingRecord Distance) := []
  finished : List (ServerPingRecord Distance) := []

namespace ServerLatency

variable {Distance : Type}

def SERVER_LATENCY_MAX_PARALLEL : ℕ := 8

def SERVER_LATENCY_MAX_RETRIES : ℕ := 2

/-- In milliseconds. -/
def SERVER_LATENCY_TIMEOUT : ℕ := 5000

/-- The servers of a city go before the first that is at least as far away, each before the one inserted before. -/
def insertCity [LE Distance] [DecidableLE Distance] (queue : List (ServerPingRecord Distance))
    (city : PingedCity Distance) : List (ServerPingRecord Distance) :=
  let isNearer (record : ServerPingRecord Distance) : Bool := !decide (record.distance ≥ city.distance)
  queue.takeWhile isNearer ++
    city.servers.reverse.map (fun pubkey =>
      { publicKey := pubkey, countryCode := city.country, cityName := city.name, distance := city.distance }) ++
    queue.dropWhile isNearer

def stop (s : ServerLatency Distance) : ServerLatency Distance :=
  { s with
    pingTimeout := none, pingSendQueue := [], pingReplyList := [], pingSendTotal := 0, pingSender := false
    progressDelayTimer := false, refreshTimer := true
    finished := s.finished ++ s.pingSendQueue ++ s.pingReplyList }

def clear (s : ServerLatency Distance) : ServerLatency Distance := { s with latency := fun _ => 0, sumLatencyMsec := 0 }

/-- Sends a ping for the record with the next sequence number. -/
def send (now retries : ℕ) (record : ServerPingRecord Distance) (s : ServerLatency Distance) :
    ServerLatency Distance :=
  let record := { record with sequence := s.sequence, timestamp := now, retries }
  { s with
    sequence := s.sequence + 1, pingReplyList := s.pingReplyList ++ [record], sent := s.sent ++ [record] }

/-- The pings that may still be sent for the records, apart from the retries for which one was sent. -/
def attempts (records : List (ServerPingRecord Distance)) : ℕ :=
  (records.map fun record => 1 + (SERVER_LATENCY_MAX_RETRIES - record.retries)).sum

/-- The loop that looks for timeouts. -/
def expire (now : ℕ) (s : ServerLatency Distance) : ServerLatency Distance :=
  match h : s.pingReplyList with
  | [] => s
  | record :: rest =>
    if record.timestamp + SERVER_LATENCY_TIMEOUT > now then s
    else if hr : record.retries < SERVER_LATENCY_MAX_RETRIES then
      expire now (send now (record.retries + 1) record { s with pingReplyList := rest })
    else expire now { s with pingReplyList := rest, finished := s.finished ++ [record] }
termination_by attempts s.pingReplyList
decreasing_by
  · simp only [h, send, attempts, List.map_append, List.sum_append, List.map_cons, List.sum_cons, List.map_nil,
      List.sum_nil]
    omega
  · simp only [h, attempts, List.map_cons, List.sum_cons]
    omega

/-- The loop that sends new pings. -/
def refill (now : ℕ) (s : ServerLatency Distance) : ServerLatency Distance :=
  match _ : s.pingSendQueue with
  | [] => s
  | record :: queue =>
    if s.pingReplyList.length < SERVER_LATENCY_MAX_PARALLEL then
      refill now (send now 0 record { s with pingSendQueue := queue })
    else s
termination_by s.pingSendQueue.length
decreasing_by simp [*, send]

def maybeSendPings (now : ℕ) (s : ServerLatency Distance) : ServerLatency Distance :=
  if !s.pingSender then s
  else
    let s := (s.expire now).refill now
    let s := { s with lastUpdateTime := now, progressDelayTimer := true }
    match s.pingReplyList with
    | [] => s.stop
    | record :: _ => { s with pingTimeout := some (SERVER_LATENCY_TIMEOUT - ((now : ℤ) - record.timestamp)) }

def start [LE Distance] [DecidableLE Distance] (env : PingEnvironment Distance) (now : ℕ)
    (s : ServerLatency Distance) : ServerLatency Distance :=
  if !env.isSupported then s.clear
  else if !env.isOff then { s with wantRefresh := true }
  else if s.pingSender then s
  else
    let pingSendQueue := env.cities.foldl insertCity s.pingSendQueue
    maybeSendPings now
      { s with
        sequence := 0, wantRefresh := false, pingSender := true, pingSendQueue
        pingSendTotal := pingSendQueue.length, progressDelayTimer := false, refreshTimer := false
        sent := [], finished := [] }

def setLatency (pubkey : String) (msec : ℤ) (s : ServerLatency Distance) : ServerLatency Distance :=
  { s with
    sumLatencyMsec := s.sumLatencyMsec - s.latency pubkey + msec
    latency := Function.update s.latency pubkey msec }

/-- A latency that does not fit into an unsigned number is not set. -/
def recordLatency (record : ServerPingRecord Distance) (now : ℕ) (s : ServerLatency Distance) :
    ServerLatency Distance :=
  let latency : ℤ := now - record.timestamp
  if latency ≤ 2 ^ 32 - 1 then s.setLatency record.publicKey latency else s

/-- The reply is received shortly before the next pings are sent. -/
def recvPing (sequence : UInt16) (received now : ℕ) (s : ServerLatency Distance) : ServerLatency Distance :=
  match s.pingReplyList.find? (·.sequence = sequence) with
  | none => s
  | some record =>
    let s := s.recordLatency record received
    maybeSendPings now
      { s with
        pingReplyList := s.pingReplyList.eraseP (·.sequence = sequence), finished := s.finished ++ [record] }

def progress (s : ServerLatency Distance) : ℚ :=
  if !s.pingSender || s.pingSendTotal = 0 then 1
  else 1 - (s.pingReplyList.length + s.pingSendQueue.length : ℕ) / s.pingSendTotal

/-- When the timer fires, if it runs. -/
def deadline (s : ServerLatency Distance) : Option ℤ := s.pingTimeout.map (s.lastUpdateTime + ·)

inductive Event where
  | recvPing (sequence : UInt16) (received now : ℕ)
  | timeout (now : ℕ)
  | stop (now : ℕ)

namespace Event

/-- The time at which the event comes, and the time at which it has been handled. -/
def begins : Event → ℕ
  | recvPing _ received _ => received
  | timeout now => now
  | stop now => now

def ends : Event → ℕ
  | recvPing _ _ now => now
  | timeout now => now
  | stop now => now

/-- The timer fires when it is due, or later. -/
def Fires (deadline : ℤ) : Event → Prop
  | timeout now => deadline ≤ now
  | _ => False

end Event

/-- The clock never goes back. -/
def Timely : ℕ → List Event → Prop
  | _, [] => True
  | clock, e :: events => clock ≤ e.begins ∧ e.begins ≤ e.ends ∧ Timely e.ends events

def step (s : ServerLatency Distance) : Event → ServerLatency Distance
  | .recvPing sequence received now => s.recvPing sequence received now
  | .timeout now => s.maybeSendPings now
  | .stop _ => s.stop

end ServerLatency

end VpnClient.Client
