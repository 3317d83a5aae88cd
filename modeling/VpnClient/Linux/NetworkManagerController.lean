import VpnClient.Backend.InterfaceConfig

/-! The controller that drives NetworkManager: the settings objects that it keeps and the profile that it commits. -/

namespace VpnClient.Linux

open Address Backend

def WG_FIREWALL_MARK : ℕ := 0xca6c

def WG_KEEPALIVE_PERIOD : ℕ := 60

/-- A route of an IP setting. The table is an attribute, and the others stand in the order of their names. -/
structure NMIPRoute where
  dest : IPAddress
  nextHop : Option String := none
  metric : Option ℕ := none
  table : Option ℕ := none
  attributes : List (String × String) := []
  deriving DecidableEq

/-- `nm_ip_route_new` without a next hop and a metric: the prefix must fit the family. -/
def nm_ip_route_new (dest : IPAddress) : Option NMIPRoute :=
  if dest.prefixLength ≤ dest.address.width then some { dest } else none

structure NMSettingIPConfig where
  method : String := ""
  addresses : List String := []
  routes : List NMIPRoute := []
  dns : List String := []
  dnsSearch : List String := []
  dnsPriority : ℕ := 0
  deriving DecidableEq

namespace NMSettingIPConfig

/-- A route that is there already, with the same attributes, is not added. -/
def addRoute (route : NMIPRoute) (s : NMSettingIPConfig) : NMSettingIPConfig :=
  if route ∈ s.routes then s else { s with routes := s.routes ++ [route] }

end NMSettingIPConfig

structure NMWireGuardPeer where
  endpoint : String
  persistentKeepalive : ℕ
  publicKey : String
  allowedIps : List IPAddress := []
  deriving DecidableEq

structure NMSettingWireGuard where
  privateKey : String := ""
  fwmark : ℕ := 0
  peerRoutes : Bool := true
  ip4AutoDefaultRoute : Option Bool := none
  ip6AutoDefaultRoute : Option Bool := none
  peers : List NMWireGuardPeer := []
  deriving DecidableEq

namespace NMSettingWireGuard

/-- The first peer is replaced, if there is one; another peer with the same key is dropped. -/
def setPeer (peer : NMWireGuardPeer) (s : NMSettingWireGuard) : NMSettingWireGuard :=
  { s with peers := peer :: s.peers.tail.filter (·.publicKey ≠ peer.publicKey) }

end NMSettingWireGuard

/-- The settings of a profile that the controller writes. -/
structure NMConnection where
  ipv4config : NMSettingIPConfig := {}
  ipv6config : NMSettingIPConfig := {}
  wireguard : NMSettingWireGuard := {}
  deriving DecidableEq

namespace NMConnection

def ipcfg (connection : NMConnection) : Protocol → NMSettingIPConfig
  | .IPv4Protocol => connection.ipv4config
  | .IPv6Protocol => connection.ipv6config

def updateIpcfg (family : Protocol) (f : NMSettingIPConfig → NMSettingIPConfig) (connection : NMConnection) :
    NMConnection :=
  match family with
  | .IPv4Protocol => { connection with ipv4config := f connection.ipv4config }
  | .IPv6Protocol => { connection with ipv6config := f connection.ipv6config }

end NMConnection

/-- The settings objects are those of `settings`; `committed` is the profile that was last committed. -/
structure NetworkManagerController where
  settings : NMConnection := {}
  committed : NMConnection := {}
  serverPublicKey : String := ""
  serverIpv4Gateway : String := ""
  connection : Option String := none
  deriving DecidableEq

namespace NetworkManagerController

/-- With the profile that exists already, if one does. The addresses stand for what they are parsed to. -/
def initializeController (privateKey deviceIpv4Address deviceIpv6Address : String) (remote : Option NMConnection)
    (active : Option String) : NetworkManagerController :=
  let wireguard : NMSettingWireGuard :=
    { privateKey, fwmark := WG_FIREWALL_MARK, peerRoutes := false, ip4AutoDefaultRoute := some true,
      ip6AutoDefaultRoute := some true }
  match remote with
  | some remote => { settings := { remote with wireguard }, committed := remote, connection := active }
  | none =>
    let settings : NMConnection :=
      { ipv4config := { method := "manual", addresses := [deviceIpv4Address] }
        ipv6config := { method := "manual", addresses := [deviceIpv6Address] }
        wireguard }
    { settings, committed := settings }

/-- The route of an allowed range, in the table of the tunnel, and the range for the peer. -/
def addRange (p : NMWireGuardPeer × NMConnection) (i : IPAddress) : NMWireGuardPeer × NMConnection :=
  match nm_ip_route_new i with
  | none => p
  | some route =>
    ({ p.1 with allowedIps := p.1.allowedIps ++ [i] },
      p.2.updateIpcfg i.address.protocol (·.addRoute { route with table := some WG_FIREWALL_MARK }))

def dnsFamily (dnsServer : String) : Protocol := if ':' ∈ dnsServer.toList then .IPv6Protocol else .IPv4Protocol

/-- The DNS server is set as it stands in the config; the pointer in the list of servers outlives its text. -/
def activate (config : InterfaceConfig) (m : NetworkManagerController) : NetworkManagerController :=
  let m := { m with serverPublicKey := config.serverPublicKey }
  let peer : NMWireGuardPeer :=
    { endpoint := config.serverIpv4AddrIn ++ ":" ++ toString config.serverPort
      persistentKeepalive := WG_KEEPALIVE_PERIOD
      publicKey := config.serverPublicKey }
  let (peer, settings) := config.allowedIPAddressRanges.foldl addRange (peer, m.settings)
  let settings := { settings with wireguard := settings.wireguard.setPeer peer }
  let m :=
    if config.hopType = .SingleHop ∨ config.hopType = .MultiHopExit then
      { m with
        settings := settings.updateIpcfg (dnsFamily config.dnsServer)
          ({ · with dns := [config.dnsServer], dnsSearch := ["."], dnsPriority := 10 })
        serverIpv4Gateway := config.serverIpv4Gateway }
    else { m with settings }
  { m with committed := m.settings }

def setActiveConnection (path : String) (m : NetworkManagerController) : NetworkManagerController :=
  if m.connection = some path then m
  else { m with connection := if path ≠ "" then some path else none }

def deactivate (m : NetworkManagerController) : NetworkManagerController :=
  match m.connection with
  | none => m
  | some _ => { m with connection := none }

/-- A config for one hop. The prefixes of its ranges fit their families. -/
structure SingleHopConfig extends InterfaceConfig where
  singleHop : hopType = .SingleHop
  fits : ∀ p ∈ allowedIPAddressRanges, p.prefixLength ≤ p.address.width

inductive Event where
  | activate (config : SingleHopConfig)
  | deactivate
  | setActiveConnection (path : String)

def step (m : NetworkManagerController) : Event → NetworkManagerController
  | .activate config => m.activate config.toInterfaceConfig
  | .deactivate => m.deactivate
  | .setActiveConnection path => m.setActiveConnection path

end NetworkManagerController

end VpnClient.Linux
