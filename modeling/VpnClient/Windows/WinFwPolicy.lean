import VpnClient.Library.Attempts
import VpnClient.Library.Transactions
import VpnClient.Windows.WindowsFirewall

/-! The filters of the proxy on Windows: those that permit its own traffic, and those that restrict its port. -/

namespace VpnClient.Windows

open Library.Attempts Library.Attempts.Attempt Library.Transactions

abbrev Guid := BitVec 128

instance (key : Guid) (keys : List Guid) : Decidable (key ∈ keys) := inferInstance

def KILLSWITCH_FW_GUID : Guid := 0xc78056ff2bc14211aadd7f358def202d

def LOCALPROXY_FW_GUID : Guid := 0x0555706c44684ec6b42f20e74a1006e7

def FWPM_CHANGE_ADD : UInt32 := 1

def IF_TYPE_SOFTWARE_LOOPBACK : UInt32 := 24

inductive PolicyCondition where
  | ALE_APP_ID (appId : List UInt8)
  | IP_PROTOCOL (protocol : UInt8)
  | LOCAL_INTERFACE_TYPE (type : UInt32)
  | IP_REMOTE_PORT (port : UInt16)
  deriving DecidableEq

structure PolicyFilter where
  name : String
  description : String
  conditions : List PolicyCondition
  action : Action
  weight : UInt8
  layerKey : Layer
  subLayerKey : Guid
  clearActionRight : Bool := false
  deriving DecidableEq

/-- A group of the registry, with the command in it if that is valid. -/
structure Browser where
  name : String
  command : Option String

/-- What the calls to the platform return: the filters are counted over the life of the policy. -/
structure PolicyCalls where
  moduleFileName : String
  appId : String → Option (List UInt8)
  subLayerAdd : Bool
  filterAdd : ℕ → Bool
  commit : Bool

@[ext] structure Engine where
  subLayers : List Guid := []
  filters : List PolicyFilter := []
  deriving DecidableEq

/-- `emptyReads` counts the reads of a character of an empty string. -/
structure WinFwPolicy where
  engine : Store Engine
  adds : ℕ := 0
  emptyReads : ℕ := 0

namespace WinFwPolicy

variable (calls : PolicyCalls)

def filterAdd (filter : PolicyFilter) : Attempt WinFwPolicy := fun p =>
  let p' := { p with adds := p.adds + 1 }
  if calls.filterAdd p.adds then
    (true, { p' with engine := p'.engine.modify fun e => { e with filters := e.filters ++ [filter] } })
  else (false, p')

/-- The body in a transaction, which the guard aborts unless it is committed. -/
def transaction (body : Attempt WinFwPolicy) (p : WinFwPolicy) : WinFwPolicy :=
  let done := body { p with engine := p.engine.start }
  if done.1 && calls.commit then { done.2 with engine := done.2.engine.commit }
  else { done.2 with engine := done.2.engine.abort }

/-- The base of the filters for the traffic of the proxy. -/
def proxyFilter (appId : List UInt8) (description : String) (layerKey : Layer) : PolicyFilter where
  name := "Permit socksproxy bypass traffic"
  description := description
  conditions := [.ALE_APP_ID appId]
  action := .PERMIT
  weight := 15
  layerKey := layerKey
  subLayerKey := KILLSWITCH_FW_GUID
  clearActionRight := true

def proxyFilters (appId : List UInt8) : List PolicyFilter :=
  [proxyFilter appId "Permit outbound IPv4 traffic from proxy" .ALE_AUTH_CONNECT_V4,
    proxyFilter appId "Permit inbound IPv4 traffic to proxy" .ALE_AUTH_RECV_ACCEPT_V4,
    proxyFilter appId "Permit outbound IPv6 traffic from proxy" .ALE_AUTH_CONNECT_V6,
    proxyFilter appId "Permit inbound IPv6 traffic to proxy" .ALE_AUTH_RECV_ACCEPT_V6]

/-- The results of the last two calls are not assigned, so that the tests after them see that of the second one. -/
def permitProxy (appId : List UInt8) : Attempt WinFwPolicy :=
  (filterAdd calls (proxyFilter appId "Permit outbound IPv4 traffic from proxy" .ALE_AUTH_CONNECT_V4)).andThen <|
    (filterAdd calls (proxyFilter appId "Permit inbound IPv4 traffic to proxy" .ALE_AUTH_RECV_ACCEPT_V4)).andThen <|
    (filterAdd calls (proxyFilter appId "Permit outbound IPv6 traffic from proxy" .ALE_AUTH_CONNECT_V6)).ignoring.andThen
      (filterAdd calls (proxyFilter appId "Permit inbound IPv6 traffic to proxy" .ALE_AUTH_RECV_ACCEPT_V6)).ignoring

def fwpmSublayerChanged (changeType : UInt32) (subLayerKey : Guid) (p : WinFwPolicy) : WinFwPolicy :=
  if changeType ≠ FWPM_CHANGE_ADD then p
  else if subLayerKey ≠ KILLSWITCH_FW_GUID then p
  else
    match calls.appId calls.moduleFileName with
    | none => p
    | some appId => transaction calls (permitProxy calls appId) p

/-- A layer that is already there is found by its key. -/
def addSubLayer : Attempt WinFwPolicy := fun p =>
  if LOCALPROXY_FW_GUID ∈ (p.engine.pending.getD p.engine.committed).subLayers then (true, p)
  else if calls.subLayerAdd then
    (true,
      { p with engine := p.engine.modify fun e => { e with subLayers := e.subLayers ++ [LOCALPROXY_FW_GUID] } })
  else (false, p)

def portConditions (port : UInt16) : List PolicyCondition :=
  [.IP_PROTOCOL IPPROTO_TCP, .LOCAL_INTERFACE_TYPE IF_TYPE_SOFTWARE_LOOPBACK, .IP_REMOTE_PORT port]

def blockFilter (port : UInt16) (description : String) (layerKey : Layer) : PolicyFilter where
  name := description
  description := description
  conditions := portConditions port
  action := .BLOCK
  weight := 1
  layerKey := layerKey
  subLayerKey := LOCALPROXY_FW_GUID

def blockFilters (port : UInt16) : List PolicyFilter :=
  [blockFilter port "Block local IPv4 connections to proxy" .ALE_AUTH_CONNECT_V4,
    blockFilter port "Block local IPv6 connections to proxy" .ALE_AUTH_CONNECT_V6]

/-- Both filters of a browser have the text of the first one. -/
def permitFilter (port : UInt16) (name : String) (appId : List UInt8) (layerKey : Layer) : PolicyFilter where
  name := "Permit IPv4 connections from " ++ name
  description := "Permit IPv4 connections from " ++ name
  conditions := portConditions port ++ [.ALE_APP_ID appId]
  action := .PERMIT
  weight := 15
  layerKey := layerKey
  subLayerKey := LOCALPROXY_FW_GUID

def permitFilters (port : UInt16) (name : String) (appId : List UInt8) : List PolicyFilter :=
  [permitFilter port name appId .ALE_AUTH_CONNECT_V4, permitFilter port name appId .ALE_AUTH_CONNECT_V6]

/-- A negative length stands for all that follows. -/
def mid (position : ℕ) (n : ℤ) (text : List Char) : List Char :=
  if n < 0 then text.drop position else (text.drop position).take n.toNat

lemma length_mid_lt {c : Char} {text : List Char} (n : ℤ) : (mid 1 n (c :: text)).length < (c :: text).length := by
  rw [mid]
  split <;> simp

/-- The loop that strips quotation marks; there is no result if it reads from an empty string. -/
def strip (command : List Char) : Option (List Char) :=
  match command with
  | [] => none
  | c :: text =>
    if c = '"' ∧ (c :: text).getLast? = some '"' then strip (mid 1 ((c :: text).length - 2) (c :: text))
    else some (c :: text)
termination_by command.length
decreasing_by exact length_mid_lt _

def isInternetExplorer (name : String) : Bool := (name.toList.take 8).map Char.toLower = "iexplore".toList

def permitBrowser (port : UInt16) (browser : Browser) : Attempt WinFwPolicy :=
  match browser.command with
  | none => succeed id
  | some value =>
    if isInternetExplorer browser.name then succeed id
    else
      match strip value.toList with
      | none => fun p => (false, { p with emptyReads := p.emptyReads + 1 })
      | some command =>
        match calls.appId (String.ofList command) with
        | none => succeed id
        | some appId => forEach (filterAdd calls) (permitFilters port browser.name appId)

def restrictPort (port : UInt16) (browsers : List Browser) : Attempt WinFwPolicy :=
  (addSubLayer calls).andThen <|
    (forEach (filterAdd calls) (blockFilters port)).andThen (forEach (permitBrowser calls port) browsers)

def restrictProxyPort (port : UInt16) (browsers : List Browser) (p : WinFwPolicy) : WinFwPolicy :=
  transaction calls (restrictPort calls port browsers) p

end WinFwPolicy

end VpnClient.Windows
