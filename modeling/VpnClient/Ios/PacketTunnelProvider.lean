import VpnClient.Ios.ConnectionHealth

/-! The provider of the tunnel extension: the config that the tunnel runs with, and the messages of the app. -/

namespace VpnClient.Ios

/-- The messages that the app can send to the tunnel process. -/
inductive TunnelMessage where
  | getRuntimeConfiguration
  | getConnectionTimestamp
  | configurationSwitch (config : String)
  | telemetryEnabledChanged (flag : Bool)
  | silentServerSwitch
  deriving DecidableEq, Repr

/-- What the app saves: the configs of the servers, of which the first is the one to start with. -/
structure ProtocolConfiguration where
  configs : List String
  nonempty : configs ≠ []
  nodup : configs.Nodup
  deriving DecidableEq

namespace ProtocolConfiguration

def first (proto : ProtocolConfiguration) : String := proto.configs.head proto.nonempty

end ProtocolConfiguration

/-- What becomes of a config that the adapter is to be updated with. -/
inductive Update where
  | unparsable
  | failed
  | updated
  deriving DecidableEq, Repr

/-- The data with which the completion handler of a message is called. -/
inductive Reply where
  | settings (settings : String)
  | timestamp (originalStartTime : Option ℕ)
  deriving DecidableEq, Repr

/-- The members of the provider, and the config that the adapter runs with. -/
structure PacketTunnelProvider where
  protocolConfiguration : Option ProtocolConfiguration := none
  connectionHealthMonitor : ConnectionHealth := {}
  originalStartTime : Option ℕ := none
  currentServerConfig : ℕ := 0
  uploadEnabled : Bool := false
  daemonSilentServerSwitch : List Bool := []
  running : Option String := none
  deriving DecidableEq

namespace PacketTunnelProvider

variable (endpointHost : String → Option String)

/-- The adapter starts with the config of the app, unless it fails. -/
def startTunnel (adapterError : Bool) (now : ℕ) (p : PacketTunnelProvider) : PacketTunnelProvider :=
  match p.protocolConfiguration with
  | none => p
  | some proto =>
    if adapterError then p
    else
      let p := { p with running := some proto.first, originalStartTime := some now }
      match endpointHost proto.first with
      | none => p
      | some endpointHost => { p with connectionHealthMonitor := p.connectionHealthMonitor.start endpointHost }

/-- With what the completion handler is called, if it is. -/
def updateServerConfig (configString : String) (update : Update) (p : PacketTunnelProvider) :
    PacketTunnelProvider × List (Option Reply) :=
  match update with
  | .unparsable => (p, [none])
  | .failed => (p, [none])
  | .updated => ({ p with running := some configString }, [])

/-- The next config, or the same one if there is no other. -/
def nextValidServerConfig (p : PacketTunnelProvider) : Option String × PacketTunnelProvider :=
  match p.protocolConfiguration with
  | none => (none, p)
  | some proto =>
    let currentServerConfig := (p.currentServerConfig + 1) % proto.configs.length
    (proto.configs[currentServerConfig]?, { p with currentServerConfig })

def silentServerSwitch (update : Update) (p : PacketTunnelProvider) : PacketTunnelProvider :=
  match p.nextValidServerConfig with
  | (none, p) => { p with daemonSilentServerSwitch := false :: p.daemonSilentServerSwitch }
  | (some fallbackServerConfig, p) =>
    ({ p with daemonSilentServerSwitch := true :: p.daemonSilentServerSwitch }.updateServerConfig
      fallbackServerConfig update).1

/-- With the data as they are decoded, if they can be. -/
def handleAppMessage (message : Option TunnelMessage) (settings : Option String) (update : Update)
    (p : PacketTunnelProvider) : PacketTunnelProvider × List (Option Reply) :=
  match message with
  | some .getRuntimeConfiguration => (p, [settings.map .settings])
  | some .getConnectionTimestamp => (p, [some (.timestamp p.originalStartTime)])
  | some (.configurationSwitch configString) => p.updateServerConfig configString update
  | some (.telemetryEnabledChanged uploadEnabled) => ({ p with uploadEnabled }, [none])
  | some .silentServerSwitch => (p.silentServerSwitch update, [none])
  | none => (p, [none])

/-- The result of a check, which may switch the server. -/
def analyzed (connectivity : Option ConnectionStability) (now : ℕ) (update : Update) (p : PacketTunnelProvider) :
    PacketTunnelProvider :=
  let switches := (connectivity.map (p.connectionHealthMonitor.switchesServer · now)).getD false
  let p := { p with connectionHealthMonitor := p.connectionHealthMonitor.analyzed connectivity now }
  if switches then p.silentServerSwitch update else p

/-- The app saves the configs and sends the first of them. -/
def appSwitch (proto : ProtocolConfiguration) (update : Update) (p : PacketTunnelProvider) : PacketTunnelProvider :=
  ({ p with protocolConfiguration := some proto }.handleAppMessage
    (some (.configurationSwitch proto.first)) none update).1

inductive Event where
  | appSwitch (proto : ProtocolConfiguration) (update : Update)
  | silentServerSwitch (update : Update)
  | analyzed (connectivity : Option ConnectionStability) (now : ℕ) (update : Update)

def step (p : PacketTunnelProvider) : Event → PacketTunnelProvider
  | .appSwitch proto update => p.appSwitch proto update
  | .silentServerSwitch update => (p.handleAppMessage (some .silentServerSwitch) none update).1
  | .analyzed connectivity now update => p.analyzed connectivity now update

end PacketTunnelProvider

end VpnClient.Ios
