import VpnClient.Backend.InterfaceConfig
import VpnClient.Library.Attempts
import VpnClient.Library.Transactions

/-! The firewall of the daemon on Windows: the filters of its rules, and the transactions that put them into the
filter engine. -/

namespace VpnClient.Windows

open Address Backend Library.Attempts Library.Attempts.Attempt Library.Transactions

inductive Layer where
  | ALE_AUTH_CONNECT_V4
  | ALE_AUTH_CONNECT_V6
  | ALE_AUTH_RECV_ACCEPT_V4
  | ALE_AUTH_RECV_ACCEPT_V6
  | OUTBOUND_MAC_FRAME_NATIVE
  | INBOUND_MAC_FRAME_NATIVE
  deriving DecidableEq, Repr

inductive Condition where
  | ALE_APP_ID (appId : List UInt8)
  | INTERFACE_INDEX (index : UInt32)
  | IP_PROTOCOL (protocol : UInt8)
  | IP_LOCAL_PORT (port : UInt16)
  | IP_REMOTE_PORT (port : UInt16)
  | IP_REMOTE_ADDRESS (address : QHostAddress)
  | IP_REMOTE_ADDRESS_RANGE (low high : QHostAddress)
  | L2_FLAGS (flags : UInt32)
  deriving DecidableEq

inductive Action where
  | PERMIT
  | BLOCK
  deriving DecidableEq, Repr

structure Filter where
  conditions : List Condition
  action : Action
  weight : UInt8
  layerKey : Layer
  clearActionRight : Bool := false
  deriving DecidableEq

abbrev FilterId := ℕ

/-- What a rule asks of the filtering platform, one call after the other. -/
inductive Call where
  | getAppIdFromFileName (path : String)
  | filterAdd (filter : Filter)
  deriving DecidableEq

abbrev Rule := List Call

structure NetworkInterface where
  loopback : Bool
  index : UInt32

/-- What the rules read from the system. -/
structure System where
  currentPath : String
  absoluteFilePath : String → String → String
  appId : String → List UInt8
  allInterfaces : List NetworkInterface
  hostAddress : String → QHostAddress

def LOW_WEIGHT : UInt8 := 0

def MED_WEIGHT : UInt8 := 7

def HIGH_WEIGHT : UInt8 := 13

def MAX_WEIGHT : UInt8 := 15

def IPPROTO_TCP : UInt8 := 6

def IPPROTO_UDP : UInt8 := 17

def FWP_CONDITION_L2_IS_VM2VM : UInt32 := 0x10

/-- A filter on each of the layers. -/
def onLayers (layers : List Layer) (filter : Layer → Filter) : Rule := layers.map fun layer => .filterAdd (filter layer)

def layersOf (addr : QHostAddress) : List Layer :=
  match addr.protocol with
  | .IPv4Protocol => [.ALE_AUTH_CONNECT_V4, .ALE_AUTH_RECV_ACCEPT_V4]
  | .IPv6Protocol => [.ALE_AUTH_CONNECT_V6, .ALE_AUTH_RECV_ACCEPT_V6]

def allowTrafficForAppOnAll (system : System) (exePath : String) (weight : UInt8) : Rule :=
  .getAppIdFromFileName exePath ::
    onLayers [.ALE_AUTH_CONNECT_V4, .ALE_AUTH_RECV_ACCEPT_V4, .ALE_AUTH_CONNECT_V6, .ALE_AUTH_RECV_ACCEPT_V6]
      fun layerKey =>
        { conditions := [.ALE_APP_ID (system.appId exePath)]
          action := .PERMIT
          weight
          layerKey
          clearActionRight := true }

def allowTrafficOfAdapter (networkAdapter : UInt32) (weight : UInt8) : Rule :=
  onLayers [.ALE_AUTH_CONNECT_V4, .ALE_AUTH_RECV_ACCEPT_V4, .ALE_AUTH_CONNECT_V6, .ALE_AUTH_RECV_ACCEPT_V6]
    fun layerKey => { conditions := [.INTERFACE_INDEX networkAdapter], action := .PERMIT, weight, layerKey }

def allowTrafficTo (addr : IPAddress) (weight : UInt8) : Rule :=
  onLayers (layersOf addr.address) fun layerKey =>
    { conditions := [.IP_REMOTE_ADDRESS_RANGE addr.address addr.broadcastAddress], action := .PERMIT, weight, layerKey }

/-- The overload of `allowTrafficTo` for a port of a host. -/
def allowTrafficToPort (targetIP : QHostAddress) (port : UInt16) (weight : UInt8) : Rule :=
  onLayers (layersOf targetIP) fun layerKey =>
    { conditions :=
        [.IP_PROTOCOL IPPROTO_UDP, .IP_PROTOCOL IPPROTO_TCP, .IP_REMOTE_PORT port, .IP_REMOTE_ADDRESS targetIP]
      action := .PERMIT
      weight
      layerKey
      clearActionRight := true }

def allowDHCPTraffic (weight : UInt8) : Rule :=
  let ports : List Condition := [.IP_PROTOCOL IPPROTO_UDP, .IP_LOCAL_PORT 68, .IP_REMOTE_PORT 67]
  [.filterAdd
      { conditions := ports ++ [.IP_REMOTE_ADDRESS (.ipv4 0xffffffff)]
        action := .PERMIT
        weight
        layerKey := .ALE_AUTH_CONNECT_V4 }] ++
    onLayers [.ALE_AUTH_RECV_ACCEPT_V4, .ALE_AUTH_CONNECT_V6, .ALE_AUTH_RECV_ACCEPT_V6]
      fun layerKey => { conditions := ports, action := .PERMIT, weight, layerKey }

def allowHyperVTraffic (weight : UInt8) : Rule :=
  onLayers [.OUTBOUND_MAC_FRAME_NATIVE, .INBOUND_MAC_FRAME_NATIVE]
    fun layerKey => { conditions := [.L2_FLAGS FWP_CONDITION_L2_IS_VM2VM], action := .PERMIT, weight, layerKey }

def blockTrafficTo (addr : IPAddress) (weight : UInt8) : Rule :=
  onLayers (layersOf addr.address) fun layerKey =>
    { conditions := [.IP_REMOTE_ADDRESS_RANGE addr.address addr.broadcastAddress], action := .BLOCK, weight, layerKey }

def blockTrafficToAll (rangeList : List IPAddress) (weight : UInt8) : Rule :=
  rangeList.flatMap fun range => blockTrafficTo range weight

def getProxyPath (system : System) : String :=
  if system.currentPath.isEmpty then "" else system.absoluteFilePath system.currentPath "socksproxy.exe"

def blockTrafficOnPort (port : UInt16) (weight : UInt8) : Rule :=
  onLayers [.ALE_AUTH_CONNECT_V6, .ALE_AUTH_CONNECT_V4, .ALE_AUTH_RECV_ACCEPT_V4, .ALE_AUTH_RECV_ACCEPT_V6]
    fun layerKey =>
      { conditions := [.IP_PROTOCOL IPPROTO_UDP, .IP_PROTOCOL IPPROTO_TCP, .IP_REMOTE_PORT port]
        action := .BLOCK
        weight
        layerKey }

def allowLoopbackTraffic (system : System) (weight : UInt8) : Rule :=
  (system.allInterfaces.filter (·.loopback)).flatMap fun iface => allowTrafficOfAdapter iface.index weight

/-- The rules of the interface, in the order of their transactions. -/
def interfaceRules (system : System) (vpnAdapterIndex : UInt32) : List Rule :=
  [allowTrafficOfAdapter vpnAdapterIndex MED_WEIGHT,
    allowDHCPTraffic MED_WEIGHT,
    allowHyperVTraffic MED_WEIGHT,
    allowTrafficForAppOnAll system system.currentPath MAX_WEIGHT,
    allowTrafficForAppOnAll system (getProxyPath system) MAX_WEIGHT,
    blockTrafficOnPort 53 MED_WEIGHT,
    allowLoopbackTraffic system MED_WEIGHT]

def lanRule (ranges : List IPAddress) : Rule := ranges.flatMap fun range => allowTrafficTo range (LOW_WEIGHT + 1)

def peerRule (system : System) (config : InterfaceConfig) : Rule :=
  blockTrafficToAll config.allowedIPAddressRanges LOW_WEIGHT ++
    if config.dnsServer.isEmpty then []
    else
      allowTrafficToPort (system.hostAddress config.dnsServer) 53 HIGH_WEIGHT ++
        if config.dnsServer = config.serverIpv4Gateway then
          allowTrafficToPort (system.hostAddress config.serverIpv6Gateway) 53 HIGH_WEIGHT
        else []

/-- The firewall with its session of the filter engine. `calls` counts the calls that can fail, and `nextId` is the
identifier of the next filter. -/
structure WindowsFirewall where
  filters : Store (List (FilterId × Filter)) := { committed := [] }
  activeRules : List FilterId := []
  peerRules : List (String × FilterId) := []
  nextId : FilterId := 0
  calls : ℕ := 0

namespace WindowsFirewall

variable (outcome : ℕ → Bool)

def transactionBegin : Attempt WindowsFirewall := fun s =>
  (outcome s.calls,
    { s with calls := s.calls + 1, filters := if outcome s.calls then s.filters.start else s.filters })

def transactionCommit : Attempt WindowsFirewall := fun s =>
  (outcome s.calls,
    { s with calls := s.calls + 1, filters := if outcome s.calls then s.filters.commit else s.filters.abort })

def transactionAbort (s : WindowsFirewall) : WindowsFirewall := { s with filters := s.filters.abort }

def filterDeleteById (s : WindowsFirewall) (id : FilterId) : WindowsFirewall :=
  { s with filters := s.filters.modify fun filters => filters.filter fun f => f.1 ≠ id }

def getAppIdFromFileName : Attempt WindowsFirewall := fun s => (outcome s.calls, { s with calls := s.calls + 1 })

def enableFilter (filter : Filter) (peer : String) : Attempt WindowsFirewall := fun s =>
  if outcome s.calls then
    let filterID := s.nextId
    let s :=
      { s with
        calls := s.calls + 1
        nextId := s.nextId + 1
        filters := s.filters.modify fun filters => filters ++ [(filterID, filter)] }
    (true,
      if peer.isEmpty then { s with activeRules := s.activeRules ++ [filterID] }
      else { s with peerRules := s.peerRules ++ [(peer, filterID)] })
  else (false, { s with calls := s.calls + 1 })

@[simp] lemma enableFilter_fst (filter : Filter) (peer : String) (s : WindowsFirewall) :
    (enableFilter outcome filter peer s).1 = outcome s.calls := by
  rw [enableFilter]
  cases outcome s.calls <;> rfl

@[simp] lemma calls_enableFilter (filter : Filter) (peer : String) (s : WindowsFirewall) :
    (enableFilter outcome filter peer s).2.calls = s.calls + 1 := by
  rw [enableFilter]
  cases outcome s.calls <;> cases peer.isEmpty <;> rfl

@[simp] lemma filters_enableFilter (filter : Filter) (peer : String) (s : WindowsFirewall) :
    (enableFilter outcome filter peer s).2.filters =
      if outcome s.calls then s.filters.modify fun filters => filters ++ [(s.nextId, filter)] else s.filters := by
  rw [enableFilter]
  cases outcome s.calls <;> cases peer.isEmpty <;> rfl

def perform (peer : String) : Call → Attempt WindowsFirewall
  | .getAppIdFromFileName _ => getAppIdFromFileName outcome
  | .filterAdd filter => enableFilter outcome filter peer

def enableRule (rule : Rule) (peer : String) : Attempt WindowsFirewall := forEach (perform outcome peer) rule

def disableKillSwitch : Attempt WindowsFirewall := fun s =>
  let (begun, s) := transactionBegin outcome s
  if !begun then (false, s.transactionAbort)
  else
    let s := (s.peerRules.map (·.2)).foldl filterDeleteById s
    let s := s.activeRules.foldl filterDeleteById s
    let (committed, s) := transactionCommit outcome s
    if !committed then (false, s.transactionAbort)
    else (true, { s with peerRules := [], activeRules := [] })

/-- The macro `FW_OK`, a transaction for one rule. -/
def fwOk (rule : Rule) : Attempt WindowsFirewall := fun s =>
  let (begun, s) := transactionBegin outcome s
  if !begun then (false, (disableKillSwitch outcome s).2)
  else
    let (enabled, s) := enableRule outcome rule "" s
    if !enabled then (false, (disableKillSwitch outcome s.transactionAbort).2)
    else transactionCommit outcome s

def enableInterface (system : System) (vpnAdapterIndex : UInt32) : Attempt WindowsFirewall :=
  forEach (fwOk outcome) (interfaceRules system vpnAdapterIndex)

/-- A transaction with a guard that aborts it and disables the firewall unless it is committed. -/
def guarded (rule : Rule) (peer : String) : Attempt WindowsFirewall := fun s =>
  let (begun, s) := transactionBegin outcome s
  if !begun then (false, (disableKillSwitch outcome s).2)
  else
    let (enabled, s) := enableRule outcome rule peer s
    if !enabled then (false, (disableKillSwitch outcome s.transactionAbort).2)
    else
      let (committed, s) := transactionCommit outcome s
      if !committed then (false, (disableKillSwitch outcome s.transactionAbort).2)
      else (true, s)

def enableLanBypass (ranges : List IPAddress) : Attempt WindowsFirewall := guarded outcome (lanRule ranges) ""

def enablePeerTraffic (system : System) (config : InterfaceConfig) : Attempt WindowsFirewall :=
  guarded outcome (peerRule system config) config.serverPublicKey

def disablePeerTraffic (pubkey : String) : Attempt WindowsFirewall := fun s =>
  let (begun, s) := transactionBegin outcome s
  if !begun then (false, s.transactionAbort)
  else
    let s := ((s.peerRules.filter (·.1 = pubkey)).map (·.2)).foldl
      (fun s filterID =>
        { s.filterDeleteById filterID with peerRules := s.peerRules.filter (· ≠ (pubkey, filterID)) }) s
    let (committed, s) := transactionCommit outcome s
    if !committed then (false, s.transactionAbort) else (true, s)

end WindowsFirewall

end VpnClient.Windows
