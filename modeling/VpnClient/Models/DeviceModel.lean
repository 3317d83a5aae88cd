import VpnClient.Ipc.Message
import VpnClient.Library.Sorting

/-! The devices of the user's account: those that are listed, and those whose removal is under way. -/

namespace VpnClient.Models

open Ipc Library

/-- How documents and dates are read. -/
structure Documents where
  fromJson : Bytes → Option JsonObject
  dateFromString : String → Option ℤ

structure Device where
  deviceName : String
  uniqueId : String
  createdAt : ℤ
  publicKey : String
  ipv4Address : String
  ipv6Address : String
  deriving DecidableEq

structure Keys where
  publicKey : String

namespace Device

def fromJson (documents : Documents) (json : JsonValue) : Option Device := do
  let obj : JsonObject ← json.object?
  let name ← obj.string? "name"
  let publicKey ← obj.string? "pubkey"
  let createdAt ← obj.string? "created_at"
  let date ← documents.dateFromString createdAt
  let ipv4Address ← obj.string? "ipv4_address"
  let ipv6Address ← obj.string? "ipv6_address"
  pure
    { deviceName := name
      uniqueId := (obj.string? "unique_id").getD ""
      createdAt := date
      publicKey, ipv4Address, ipv6Address }

def isCurrentDevice (keys : Keys) (device : Device) : Bool := device.publicKey == keys.publicKey

end Device

def sortCallback (keys : Keys) (a b : Device) : Bool :=
  if a.isCurrentDevice keys then true
  else if b.isCurrentDevice keys then false
  else a.createdAt > b.createdAt

/-- `resets` counts the resets of the model that have begun and not ended. -/
structure DeviceModel where
  rawJson : Bytes := []
  devices : List Device := []
  removedDevices : List Device := []
  resets : ℕ := 0
  changed : ℕ := 0

namespace DeviceModel

def beginResetModel (m : DeviceModel) : DeviceModel := { m with resets := m.resets + 1 }

def endResetModel (m : DeviceModel) : DeviceModel := { m with resets := m.resets - 1 }

def emitChanged (m : DeviceModel) : DeviceModel := { m with changed := m.changed + 1 }

variable (documents : Documents) (sorting : ComparatorSort Device)

/-- The loop of `fromJsonInternal`. -/
def appendDevices (removedPublicKeys : List String) : List JsonValue → DeviceModel → Bool × DeviceModel
  | [], m => (true, m)
  | deviceValue :: devicesArray, m =>
    match Device.fromJson documents deviceValue with
    | none => (false, m)
    | some device =>
      appendDevices removedPublicKeys devicesArray <|
        if device.publicKey ∈ removedPublicKeys then { m with removedDevices := m.removedDevices ++ [device] }
        else { m with devices := m.devices ++ [device] }

def fromJsonInternal (keys : Keys) (json : Bytes) (m : DeviceModel) : Bool × DeviceModel :=
  let m := m.beginResetModel
  let removedPublicKeys := m.removedDevices.map (·.publicKey)
  let m := { m with rawJson := [], devices := [], removedDevices := [] }
  match documents.fromJson json with
  | none => (false, m)
  | some obj =>
    match obj.array? "devices" with
    | none => (false, m)
    | some devicesArray =>
      let parsed := m.appendDevices documents removedPublicKeys devicesArray
      let m := parsed.2
      if !parsed.1 then (false, m)
      else (true, { m with devices := sorting.sort (sortCallback keys) m.devices }.endResetModel.emitChanged)

def fromJson (keys : Keys) (s : Bytes) (m : DeviceModel) : Bool × DeviceModel :=
  if s ≠ [] ∧ m.rawJson = s then (true, m)
  else
    let parsed := m.fromJsonInternal documents sorting keys s
    if !parsed.1 then (false, parsed.2) else (true, { parsed.2 with rawJson := s })

def startDeviceRemovalFromPublicKey (publicKey : String) (m : DeviceModel) : DeviceModel :=
  match m.devices.find? (·.publicKey = publicKey) with
  | none => m
  | some device =>
    { m with
      removedDevices := m.removedDevices ++ [device]
      devices := m.devices.eraseP (·.publicKey = publicKey) }.emitChanged

def stopDeviceRemovalFromPublicKey (publicKey : String) (keys : Keys) (m : DeviceModel) : DeviceModel :=
  match m.removedDevices.find? (·.publicKey = publicKey) with
  | none => m
  | some device =>
    let m := m.beginResetModel
    { m with
      devices := sorting.sort (sortCallback keys) (m.devices ++ [device])
      removedDevices := m.removedDevices.eraseP (·.publicKey = publicKey) }.endResetModel.emitChanged

def removeDeviceFromPublicKey (publicKey : String) (m : DeviceModel) : DeviceModel :=
  let m := { m with removedDevices := m.removedDevices.eraseP (·.publicKey = publicKey) }
  match m.devices.find? (·.publicKey = publicKey) with
  | none => m
  | some _ => { m with devices := m.devices.eraseP (·.publicKey = publicKey) }.emitChanged

inductive Event where
  | fromJson (keys : Keys) (s : Bytes)
  | startDeviceRemoval (publicKey : String)
  | stopDeviceRemoval (publicKey : String) (keys : Keys)
  | removeDevice (publicKey : String)

def step (m : DeviceModel) : Event → DeviceModel
  | .fromJson keys s => (m.fromJson documents sorting keys s).2
  | .startDeviceRemoval publicKey => m.startDeviceRemovalFromPublicKey publicKey
  | .stopDeviceRemoval publicKey keys => m.stopDeviceRemovalFromPublicKey sorting publicKey keys
  | .removeDevice publicKey => m.removeDeviceFromPublicKey publicKey

end DeviceModel

end VpnClient.Models
