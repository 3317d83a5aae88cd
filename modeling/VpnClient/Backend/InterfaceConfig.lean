import VpnClient.Address.IPAddress

/-! The configuration of one hop, as the client sends it to the daemon. -/

namespace VpnClient.Backend

open Address

inductive HopType where
  | SingleHop
  | MultiHopEntry
  | MultiHopExit
  deriving DecidableEq, Repr

structure InterfaceConfig where
  hopType : HopType
  privateKey : String := ""
  deviceIpv4Address : String := ""
  deviceIpv6Address : String := ""
  serverIpv4Gateway : String := ""
  serverIpv6Gateway : String := ""
  serverPublicKey : String := ""
  serverIpv4AddrIn : String := ""
  serverIpv6AddrIn : String := ""
  dnsServer : String := ""
  serverPort : ℕ := 0
  allowedIPAddressRanges : List IPAddress := []
  vpnDisabledApps : List String := []
  deriving DecidableEq

namespace InterfaceConfig

def setHopType (config : InterfaceConfig) (hopType : HopType) : InterfaceConfig := { config with hopType }

@[simp] lemma hopType_setHopType (config : InterfaceConfig) (hopType : HopType) :
    (config.setHopType hopType).hopType = hopType := rfl

end InterfaceConfig

end VpnClient.Backend
