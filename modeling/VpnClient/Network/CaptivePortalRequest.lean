import Mathlib.Data.List.DropRight
import VpnClient.Network.NetworkRequest

/-! The request that looks for a captive portal: one probe for each address, whose results are counted. -/

namespace VpnClient.Network

inductive CaptivePortalResult where
  | NoPortal
  | PortalDetected
  | Failure
  deriving DecidableEq

def captivePortalUrl (address : String) : String := "http://" ++ address ++ "/success.txt"

def CAPTIVEPORTAL_REQUEST_CONTENT : List Char := "success".toList

def isSpace (c : Char) : Bool :=
  let n := c.toNat
  (0x09 ≤ n && n ≤ 0x0D) || n == 0x20 || n == 0x85 || n == 0xA0 || n == 0x1680 || (0x2000 ≤ n && n ≤ 0x200A) ||
    n == 0x2028 || n == 0x2029 || n == 0x202F || n == 0x205F || n == 0x3000

/-- A byte order mark at the front is no part of the text. -/
def withoutMark (text : List Char) : List Char := if text.head? = some (Char.ofNat 0xFEFF) then text.tail else text

/-- The text of the data without the white space around it; there is none that is not UTF-8. -/
def trimmed (data : Bytes) : Option (List Char) :=
  (String.fromUTF8? ⟨data.toArray⟩).map fun text => ((withoutMark text.toList).dropWhile isSpace).rdropWhile isSpace

structure Probe where
  url : String
  request : NetworkRequest := { expectedStatusCodes := [] }

/-- `results` are those that `onResult` was called with, and `emitted` those that `completed` was emitted with. -/
structure CaptivePortalRequest where
  probes : List Probe := []
  running : ℤ := 0
  success : ℤ := 0
  deleting : Bool := false
  destroyed : Bool := false
  results : List CaptivePortalResult := []
  emitted : List CaptivePortalResult := []

namespace CaptivePortalRequest

def completed (result : CaptivePortalResult) (c : CaptivePortalRequest) : CaptivePortalRequest :=
  { c with emitted := c.emitted ++ [result] }

def onResult (portalDetected : CaptivePortalResult) (c : CaptivePortalRequest) : CaptivePortalRequest :=
  let c := { c with running := c.running - 1, results := c.results ++ [portalDetected] }
  let c := if portalDetected = .NoPortal then { c with success := c.success + 1 } else c
  if portalDetected = .PortalDetected then completed portalDetected { c with deleting := true }
  else if c.running = 0 then completed (if c.success > 0 then .NoPortal else .Failure) { c with deleting := true }
  else c

def createRequest (c : CaptivePortalRequest) (url : String) : CaptivePortalRequest :=
  { c with probes := c.probes ++ [{ url }], running := c.running + 1 }

/-- The object after `run`, with the addresses of the settings. -/
def run (ipv4Addresses ipv6Addresses : List String) : CaptivePortalRequest :=
  if ipv4Addresses.isEmpty && ipv6Addresses.isEmpty then completed .NoPortal {}
  else
    let c := ipv4Addresses.foldl (fun c address => c.createRequest (captivePortalUrl address)) {}
    ipv6Addresses.foldl (fun c address => c.createRequest (captivePortalUrl ("[" ++ address ++ "]"))) c

/-- What a completed request with this status and content shows. -/
def completedResult (status : ℕ) (data : Bytes) : CaptivePortalResult :=
  if status ≠ 200 then .PortalDetected
  else if trimmed data = some CAPTIVEPORTAL_REQUEST_CONTENT then .NoPortal
  else .PortalDetected

/-- The slots for `requestFailed` and `requestCompleted`. -/
def slot (request : NetworkRequest) (c : CaptivePortalRequest) : Signal → CaptivePortalRequest
  | .requestFailed _ _ => if request.aborted then c else c.onResult .Failure
  | .requestCompleted data => if request.aborted then c else c.onResult (completedResult request.reply.status data)

def withRequest (i : ℕ) (probe : Probe) (request : NetworkRequest) (c : CaptivePortalRequest) :
    CaptivePortalRequest :=
  { c with probes := c.probes.set i { probe with request } }

/-- The `i`-th request becomes `request`; the signals that it emits for that reach the slots of an object that lives. -/
def update (i : ℕ) (probe : Probe) (request : NetworkRequest) (c : CaptivePortalRequest) : CaptivePortalRequest :=
  let c := c.withRequest i probe request
  if c.destroyed then c else (request.signals.drop probe.request.signals.length).foldl (slot request) c

def handle (i : ℕ) (event : NetworkRequest.Event) (c : CaptivePortalRequest) : CaptivePortalRequest :=
  match c.probes[i]? with
  | none => c
  | some probe => c.update i probe (NetworkRequest.step probe.request event)

/-- The slot for `requestRedirected`, which the reply of the `i`-th request signals until it is finished. -/
def requestRedirected (i : ℕ) (c : CaptivePortalRequest) : CaptivePortalRequest :=
  match c.probes[i]? with
  | none => c
  | some probe =>
    if probe.request.reply.finished || c.destroyed then c
    else (c.update i probe probe.request.abort).onResult .PortalDetected

/-- Signals of the replies and timers of the requests, and the deferred deletion. -/
inductive Event where
  | received (i : ℕ) (chunk : Bytes)
  | readyRead (i : ℕ)
  | metaDataChanged (i : ℕ) (status : ℕ)
  | finished (i : ℕ) (error : NetworkError)
  | timeout (i : ℕ)
  | redirected (i : ℕ)
  | destroyed

def step (c : CaptivePortalRequest) : Event → CaptivePortalRequest
  | .received i chunk => c.handle i (.received chunk)
  | .readyRead i => c.handle i .readyRead
  | .metaDataChanged i status => c.handle i (.metaDataChanged status)
  | .finished i error => c.handle i (.finished error)
  | .timeout i => c.handle i .timeout
  | .redirected i => c.requestRedirected i
  | .destroyed => if c.deleting then { c with destroyed := true } else c

end CaptivePortalRequest

end VpnClient.Network
