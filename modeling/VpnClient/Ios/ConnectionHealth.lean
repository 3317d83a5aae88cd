import VpnClient.Library.HeldTimings
import VpnClient.Library.Runs

/-! The connection health of the tunnel extension on iOS: the address that is pinged, and the metrics of the results. -/

namespace VpnClient.Ios

open Library.Runs Library.Timings

inductive ConnectionStability where
  | pending
  | stable
  | unstable
  | noSignal
  deriving DecidableEq, Repr

inductive HealthTime where
  | stableTime
  | unstableTime
  | noSignalTime
  | pendingTime
  deriving DecidableEq, Repr

inductive HealthCount where
  | stableCount
  | unstableCount
  | noSignalCount
  | pendingCount
  deriving DecidableEq, Repr

inductive HealthChange where
  | changedToStable
  | changedToUnstable
  | changedToNoSignal
  | changedToPending
  | pingAnalyzerError
  deriving DecidableEq, Repr

/-- The members of the class, and what is recorded. The id that is held with the timings is the
`connectionHealthTimerId`. Times are in seconds. -/
structure ConnectionHealth where
  timer : Bool := false
  nextPossibleServerSwitch : ℕ := 0
  lastHealthStatus : ConnectionStability := .pending
  timings : Held HealthTime := {}
  counts : List HealthCount := []
  changes : List HealthChange := []
  pingAddress : Option String := none
  deriving DecidableEq, Repr

namespace ConnectionHealth

def serverSwitchCooldownMinutes : ℕ := 60 * 15

def timeMetric : ConnectionStability → HealthTime
  | .stable => .stableTime
  | .unstable => .unstableTime
  | .noSignal => .noSignalTime
  | .pending => .pendingTime

def countMetric : ConnectionStability → HealthCount
  | .stable => .stableCount
  | .unstable => .unstableCount
  | .noSignal => .noSignalCount
  | .pending => .pendingCount

def changeMetric : ConnectionStability → HealthChange
  | .stable => .changedToStable
  | .unstable => .changedToUnstable
  | .noSignal => .changedToNoSignal
  | .pending => .changedToPending

def startTimingDistributionMetric (stability : ConnectionStability) (h : ConnectionHealth) : ConnectionHealth :=
  { h with timings := h.timings.start (timeMetric stability) }

def stopTimingDistributionMetric (stability : ConnectionStability) (h : ConnectionHealth) : ConnectionHealth :=
  { h with timings := h.timings.stop (timeMetric stability) }

def start (pingAddress : String) (h : ConnectionHealth) : ConnectionHealth :=
  { h with pingAddress := some pingAddress, timer := true }.startTimingDistributionMetric h.lastHealthStatus

def stop (h : ConnectionHealth) : ConnectionHealth :=
  { h.stopTimingDistributionMetric h.lastHealthStatus with timer := false }

def recordMetrics (stability : ConnectionStability) (h : ConnectionHealth) : ConnectionHealth :=
  let h := { h with counts := countMetric stability :: h.counts }
  if h.lastHealthStatus = stability then h
  else
    let h := { h with changes := changeMetric stability :: h.changes }
    (h.stopTimingDistributionMetric h.lastHealthStatus).startTimingDistributionMetric stability

/-- Whether the result of a check makes the provider switch its server. -/
def switchesServer (connectivity : ConnectionStability) (now : ℕ) (h : ConnectionHealth) : Bool :=
  let isServerSwitchCriteriaReached :=
    connectivity = .noSignal ∨ connectivity = .unstable ∧ h.lastHealthStatus = .unstable
  let isTimeForSilentServerSwitch := h.nextPossibleServerSwitch < now
  isServerSwitchCriteriaReached ∧ isTimeForSilentServerSwitch

/-- The closure of `runHealthChecks`, which gets the result of the pings, apart from the call to the provider. -/
def analyzed (connectivity : Option ConnectionStability) (now : ℕ) (h : ConnectionHealth) : ConnectionHealth :=
  match connectivity with
  | none => { h with changes := .pingAnalyzerError :: h.changes }
  | some connectivity =>
    let h := h.recordMetrics connectivity
    let h :=
      if h.switchesServer connectivity now then
        { h with nextPossibleServerSwitch := now + serverSwitchCooldownMinutes }
      else h
    { h with lastHealthStatus := connectivity }

inductive Event where
  | start (pingAddress : String)
  | stop
  | analyzed (connectivity : Option ConnectionStability) (now : ℕ)

def step (h : ConnectionHealth) : Event → ConnectionHealth
  | .start pingAddress => h.start pingAddress
  | .stop => h.stop
  | .analyzed connectivity now => h.analyzed connectivity now

end ConnectionHealth

end VpnClient.Ios
