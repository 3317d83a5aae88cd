import Mathlib.Tactic

/-! The helper that sends a ping each second and keeps statistics of the last ones. -/

namespace VpnClient.Client

def PING_STATS_WINDOW : ℕ := 32

/-- The time between two pings, in milliseconds. -/
def PING_TIMEOUT : ℤ := 1000

def UINT_MAX : ℤ := 2 ^ 32 - 1

structure PingSendData where
  timestamp : ℤ := -1
  latency : ℤ := -1
  sequence : UInt16 := 0
  deriving DecidableEq

/-- `received` are the latencies that `pingSentAndReceived` was emitted with. -/
structure PingHelper where
  sequence : UInt16 := 0
  pingData : List PingSendData := List.replicate PING_STATS_WINDOW {}
  pingTimer : Bool := false
  received : List ℤ := []
  deriving DecidableEq

namespace PingHelper

def start (s : PingHelper) : PingHelper :=
  { s with sequence := 0, pingData := List.replicate PING_STATS_WINDOW {}, pingTimer := true }

def stop (s : PingHelper) : PingHelper := { s with pingTimer := false }

def nextPing (now : ℤ) (s : PingHelper) : PingHelper :=
  let index := s.sequence.toNat % PING_STATS_WINDOW
  { s with
    pingData := s.pingData.set index { timestamp := now, latency := -1, sequence := s.sequence }
    sequence := s.sequence + 1 }

def pingReceived (sequence : UInt16) (now : ℤ) (s : PingHelper) : PingHelper :=
  let index := sequence.toNat % PING_STATS_WINDOW
  match s.pingData[index]? with
  | none => s
  | some data =>
    if data.sequence = sequence then
      { s with
        pingData := s.pingData.set index { data with latency := now - data.timestamp }
        received := s.received ++ [now - data.timestamp] }
    else s

def latency (s : PingHelper) : ℕ :=
  let latencies := (s.pingData.map (·.latency)).filter fun latency => ¬ latency < 0
  let recvCount := latencies.length
  let totalMsec := latencies.sum + (recvCount / 2 : ℕ)
  if recvCount = 0 then 0 else (totalMsec / recvCount % 2 ^ 32).toNat

def maximum (s : PingHelper) : ℕ :=
  s.pingData.foldl (fun (maxRtt : ℕ) data =>
    if data.latency < 0 then maxRtt
    else if (maxRtt : ℤ) < data.latency ∧ data.latency < UINT_MAX then data.latency.toNat
    else maxRtt) 0

def loss (now : ℤ) (s : PingHelper) : ℚ :=
  let sendBefore := now - PING_TIMEOUT
  let recvCount := s.pingData.countP fun data => data.latency ≥ 0
  let sendCount := s.pingData.countP fun data =>
    data.latency ≥ 0 ∨ data.timestamp > 0 ∧ data.timestamp < sendBefore
  if sendCount = 0 then 0 else (sendCount - recvCount) / PING_STATS_WINDOW

/-- `start` and `stop` are called, the timer fires while it runs, and a reply comes at any time. -/
inductive Event where
  | start
  | stop
  | timeout (now : ℤ)
  | recvPing (sequence : UInt16) (now : ℤ)
  deriving DecidableEq

def step (s : PingHelper) : Event → PingHelper
  | .start => s.start
  | .stop => s.stop
  | .timeout now => if s.pingTimer then s.nextPing now else s
  | .recvPing sequence now => s.pingReceived sequence now

end PingHelper

end VpnClient.Client
