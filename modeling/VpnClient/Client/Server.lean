import Mathlib.Tactic

/-! Servers, the choice of one of them and of its port, and the locations that the user selected. -/

namespace VpnClient.Client

structure Server where
  hostname : String := ""
  ipv4AddrIn : String := ""
  ipv4Gateway : String := ""
  ipv6AddrIn : String := ""
  ipv6Gateway : String := ""
  portRanges : List (UInt32 × UInt32) := []
  publicKey : String := ""
  weight : UInt32 := 0
  multihopPort : UInt32 := 0
  deriving DecidableEq

namespace Server

def initialized (s : Server) : Bool := s.hostname ≠ ""

/-- The second loop of `weightChooser`; its end is excluded by an assertion. -/
def weightLoop : UInt32 → List Server → Server
  | _, [] => {}
  | r, server :: servers => if server.weight ≥ r then server else weightLoop (r - server.weight) servers

/-- `weightChooser` for the number that the generator of random numbers gives. -/
def weightChooser (generate : UInt32) (servers : List Server) : Server :=
  if servers = [] then {}
  else
    let weightSum := servers.foldl (fun sum server => sum + server.weight) 0
    weightLoop (generate % (weightSum + 1)) servers

/-- The second loop of `choosePort`. -/
def portLoop : UInt32 → List (UInt32 × UInt32) → UInt32
  | _, [] => 0
  | r, range :: ranges =>
    if r ≤ range.2 - range.1 then r + range.1 else portLoop (r - (range.2 - range.1 + 1)) ranges

def choosePort (generate : UInt32) (s : Server) : UInt32 :=
  if s.portRanges = [] then 0
  else
    let length := s.portRanges.foldl (fun length range => length + (range.2 - range.1 + 1)) 0
    portLoop (generate % length) s.portRanges

end Server

structure ServerData where
  exitCountryCode : String := ""
  exitCityName : String := ""
  entryCountryCode : String := ""
  entryCityName : String := ""
  exitServerPublicKey : String := ""
  entryServerPublicKey : String := ""
  deriving DecidableEq

def ServerData.multihop (d : ServerData) : Bool := d.entryCountryCode ≠ "" ∧ d.entryCityName ≠ ""

end VpnClient.Client
