import VpnClient.Models.DeviceModel
import VpnClient.Models.ServerData
import VpnClient.Tasks.TaskScheduler
import VpnClient.Update.VersionUtils

/-! The states of the app, and the tasks by which it authenticates, activates and logs out. -/

namespace VpnClient.App

open Ipc Models Tasks Update

inductive State where
  | StateInitialize
  | StateAuthenticating
  | StateBillingNotAvailable
  | StateMain
  | StateSubscriptionBlocked
  | StateSubscriptionNeeded
  | StateSubscriptionInProgress
  | StateSubscriptionNotValidated
  | StateOnboarding
  | StateDeviceLimit
  | StateHeartbeatFailure
  | StateUpdateRequired
  deriving DecidableEq, Repr

inductive AlertType where
  | NoAlert
  | AuthenticationFailedAlert
  | ConnectionFailedAlert
  | LogoutAlert
  | NoConnectionAlert
  | ControllerErrorAlert
  | SplitTunnelErrorAlert
  | RemoteServiceErrorAlert
  | SubscriptionFailureAlert
  | GeoIpRestrictionAlert
  | UnrecoverableErrorAlert
  | AuthCodeSentAlert
  | CopiedToClipboardConfirmationAlert
  deriving DecidableEq, Repr

/-- A request that a task sends, alone or in a group. -/
inductive Request where
  | account
  | servers
  | captivePortalLookup
  | heartbeat
  | addonIndex
  | getSubscriptionDetails
  | getLocation
  | addDevice
  | removeDevice (publicKey : String)
  deriving DecidableEq

/-- The functions that the app passes to a task. -/
inductive Function where
  | maybeStateMain
  | leaveDeviceLimit
  | recoverSubscription
  | checkKeyRegeneration
  deriving DecidableEq

inductive Task where
  | request (request : Request)
  | group (requests : List Request)
  | function (function : Function)
  | authenticate
  | controllerAction
  deriving DecidableEq

namespace Request

def deletePolicy : Request → DeletePolicy
  | .addDevice | .removeDevice _ => .NonDeletable
  | .addonIndex => .Reschedulable
  | _ => .Deletable

end Request

namespace Task

def groupPolicy (requests : List Request) : DeletePolicy :=
  let reschedulable := requests.countP (·.deletePolicy = .Reschedulable)
  if ∃ r ∈ requests, r.deletePolicy = .NonDeletable then .NonDeletable
  else if reschedulable = requests.length then .Reschedulable
  else if reschedulable = 0 then .Deletable
  else .NonDeletable

def deletePolicy : Task → DeletePolicy
  | request r => r.deletePolicy
  | group requests => groupPolicy requests
  | function _ | authenticate => .Deletable
  | controllerAction => .NonDeletable

end Task

structure User where
  initialized : Bool := false
  avatar : String := ""
  displayName : String := ""
  email : String := ""
  maxDevices : ℤ := 0
  subscriptionNeeded : Bool := false
  deriving DecidableEq

namespace User

def parse (documents : Documents) (json : Bytes) : Option User := do
  let obj ← documents.fromJson json
  let avatar ← obj.string? "avatar"
  let displayName ← obj.string? "display_name"
  let email ← obj.string? "email"
  let maxDevices ← obj.value "max_devices"
  let _ ← maxDevices.double?
  let subscriptions : JsonObject ← (obj.value "subscriptions").bind JsonValue.object?
  let subscriptionNeeded ←
    if subscriptions.contains "vpn" then do
      let subVpn : JsonObject ← (subscriptions.value "vpn").bind JsonValue.object?
      let active ← subVpn.bool? "active"
      pure !active
    else pure true
  pure { initialized := true, avatar, displayName, email, maxDevices := maxDevices.toInt, subscriptionNeeded }

def fromJson (documents : Documents) (json : Bytes) (user : User) : Bool × User :=
  match parse documents json with
  | none => (false, { user with initialized := false })
  | some user => (true, user)

end User

structure Keys extends Models.Keys where
  publicKey := ""
  privateKey : String := ""

namespace Keys

def initialized (keys : Keys) : Bool := keys.privateKey ≠ "" && keys.publicKey ≠ ""

end Keys

/-- The settings that are read here, and whether they have been set. Those of the onboarding have default values. -/
structure Settings where
  token : Option String := none
  privateKey : Option String := none
  publicKey : Option String := none
  devices : Option Bytes := none
  userAvatar : Option String := none
  userDisplayName : Option String := none
  userEmail : Option String := none
  userMaxDevices : Option ℤ := none
  userSubscriptionNeeded : Option Bool := none
  deviceKeyVersion : Option String := none
  keyRegenerationTimeSec : Option ℤ := none
  dnsProviderFlags : ℕ := 0
  startAtBoot : Bool := false
  gleanEnabled : Bool := true
  onboardingCompleted : Bool := false
  onboardingStarted : Bool := false
  onboardingStep : ℕ := 0
  onboardingDataCollectionEnabled : Bool := false
  deriving DecidableEq

namespace Settings

def Gateway : ℕ := 0

/-- The settings that are not removed by a reset stay. -/
def reset (s : Settings) : Settings where
  dnsProviderFlags := s.dnsProviderFlags
  startAtBoot := s.startAtBoot
  gleanEnabled := s.gleanEnabled
  onboardingCompleted := s.onboardingCompleted
  onboardingStarted := s.onboardingStarted
  onboardingStep := s.onboardingStep
  onboardingDataCollectionEnabled := s.onboardingDataCollectionEnabled

end Settings

/-- How the app reads its documents, and what it knows of the device and of its own build. -/
structure Env (V : Type) where
  documents : Documents
  sorting : Library.ComparatorSort Device
  settingDocuments : SettingDocuments V
  formats : ServerFormats
  language : Language
  ranking : Ranking
  uniqueDeviceId : String
  currentDeviceName : String
  versionString : String
  android : Bool
  ios : Bool

/-- Tasks have the numbers of the scheduler. -/
structure MozillaVPN (V : Type) where
  state : State := .StateInitialize
  controllerInitialized : Bool := false
  periodicOperations : Bool := false
  user : User := {}
  keys : Keys := {}
  deviceModel : DeviceModel := {}
  locations : Models.MozillaVPN V := {}
  location : Bool := false
  controllerOff : Bool := true
  settings : Settings := {}
  scheduler : TaskScheduler := {}
  tasks : List Task := []

namespace MozillaVPN

variable {V : Type} (env : Env V)

/-- The app as it is constructed with the settings of an earlier run. -/
def construct (settings : Settings) (servers : Option Bytes) (serverData : Option V) : MozillaVPN V :=
  { settings, locations := { serversSetting := servers, serverDataSetting := serverData } }

def scheduleTask (task : Task) (s : MozillaVPN V) : MozillaVPN V :=
  { s with tasks := s.tasks ++ [task], scheduler := s.scheduler.step .scheduleTask }

def deletePolicy (s : MozillaVPN V) (n : ℕ) : DeletePolicy := ((s.tasks[n]?).map Task.deletePolicy).getD .Deletable

def deleteTasks (s : MozillaVPN V) : MozillaVPN V :=
  { s with scheduler := s.scheduler.step (.deleteTasks s.deletePolicy) }

/-- The signal of a task that was deleted is not connected. -/
def taskCompleted (n : ℕ) (s : MozillaVPN V) : MozillaVPN V :=
  if s.scheduler.runningTask = some n then { s with scheduler := s.scheduler.step .completed } else s

def runningTask (s : MozillaVPN V) : Option Task := s.scheduler.runningTask.bind (s.tasks[·]?)

/-- The controller is told of the states in which it can be used. -/
def setState (state : State) (s : MozillaVPN V) : MozillaVPN V :=
  if state = .StateMain ∨ state = .StateOnboarding then { s with state, periodicOperations := true }
  else { s with state, periodicOperations := false }.scheduleTask .controllerAction

def hasCurrentDevice (s : MozillaVPN V) : Bool := s.deviceModel.devices.any (·.isCurrentDevice s.keys.toKeys)

def modelsInitialized (s : MozillaVPN V) : Bool :=
  s.user.initialized && s.locations.serverCountryModel.rawJson ≠ [] && s.deviceModel.rawJson ≠ [] &&
    s.hasCurrentDevice && s.keys.initialized

def userAuthenticated (s : MozillaVPN V) : Bool :=
  s.state ≠ .StateInitialize && s.state ≠ .StateAuthenticating && s.settings.token.isSome

/-- Of the settings, those with the locations are kept with these. -/
def resetSettings (s : MozillaVPN V) : MozillaVPN V :=
  { s with
    settings := s.settings.reset
    locations := { s.locations with serversSetting := none, serverDataSetting := none } }

/-- All settings have their default values again; the app stays in its state until the controller has quit. -/
def hardReset (s : MozillaVPN V) : MozillaVPN V := { s.resetSettings with settings := {} }

def deactivate (s : MozillaVPN V) : MozillaVPN V := s.deleteTasks.scheduleTask .controllerAction

def reset (forceInitialState : Bool) (s : MozillaVPN V) : MozillaVPN V :=
  let s := s.deactivate.resetSettings
  let s := { s with keys := {}, locations := { s.locations with serverData := {} } }
  if forceInitialState then s.setState .StateInitialize else s

def errorHandled (alert : AlertType) (s : MozillaVPN V) : MozillaVPN V :=
  if s.state = .StateAuthenticating then s.reset true
  else if alert = .AuthenticationFailedAlert then s.reset true
  else s

/-- An error without an alert is not handled. -/
def errorHandle (alert : AlertType) (s : MozillaVPN V) : MozillaVPN V :=
  if alert = .NoAlert then s else s.errorHandled alert

def scheduleRefreshDataTasks (s : MozillaVPN V) : MozillaVPN V :=
  let s := if !s.location && s.controllerOff then s.scheduleTask (.request .getLocation) else s
  s.scheduleTask (.group [.account, .servers, .captivePortalLookup, .getSubscriptionDetails])

def addCurrentDeviceAndRefreshData (s : MozillaVPN V) : MozillaVPN V :=
  (s.scheduleTask (.request .addDevice)).scheduleRefreshDataTasks

def maybeRegenerateDeviceKey (s : MozillaVPN V) : MozillaVPN V :=
  if s.settings.deviceKeyVersion.any fun v => VersionUtils.compareVersions v.toList "2.5.0".toList ≥ 0 then s
  else if s.settings.dnsProviderFlags = Settings.Gateway then s
  else s.addCurrentDeviceAndRefreshData.scheduleTask (.function .checkKeyRegeneration)

def maybeStateMain (s : MozillaVPN V) : MozillaVPN V :=
  if s.user.initialized ∧ s.state ≠ .StateSubscriptionBlocked ∧ s.user.subscriptionNeeded then
    s.setState .StateSubscriptionNeeded
  else if s.user.initialized ∧ s.state = .StateSubscriptionBlocked then s
  else if !s.hasCurrentDevice then s.setState .StateDeviceLimit
  else if !s.settings.onboardingCompleted then
    let s := s.setState .StateOnboarding
    { s with settings := { s.settings with onboardingStarted := true } }
  else if !s.modelsInitialized then
    (s.resetSettings.errorHandle .RemoteServiceErrorAlert).setState .StateInitialize
  else
    let s := s.maybeRegenerateDeviceKey
    if s.state ≠ .StateUpdateRequired then
      let s := { s with settings := { s.settings with onboardingCompleted := true } }.setState .StateMain
      { s with settings := { s.settings with onboardingStep := 0, onboardingDataCollectionEnabled := false } }
    else s

inductive RemovalDeviceOption where
  | DeviceNotFound
  | DeviceStillValid
  | DeviceRemoved
  deriving DecidableEq

def deviceFromUniqueId (s : MozillaVPN V) : Option Device :=
  if env.uniqueDeviceId = "" then none else s.deviceModel.devices.find? (·.uniqueId = env.uniqueDeviceId)

def maybeRemoveCurrentDevice (s : MozillaVPN V) : RemovalDeviceOption × MozillaVPN V :=
  match s.deviceFromUniqueId env with
  | none => (.DeviceNotFound, s)
  | some currentDevice =>
    if currentDevice.publicKey = s.keys.publicKey ∧ s.keys.privateKey ≠ "" then (.DeviceStillValid, s)
    else (.DeviceRemoved, s.scheduleTask (.request (.removeDevice currentDevice.publicKey)))

def completeActivation (s : MozillaVPN V) : MozillaVPN V :=
  let removal := s.maybeRemoveCurrentDevice env
  let deviceCount : ℤ :=
    if removal.1 = .DeviceRemoved then s.deviceModel.devices.length - 1 else s.deviceModel.devices.length
  let s := removal.2
  if deviceCount ≥ s.user.maxDevices ∧ removal.1 = .DeviceNotFound then s.maybeStateMain
  else
    let s := if removal.1 ≠ .DeviceStillValid then s.addCurrentDeviceAndRefreshData else s.scheduleRefreshDataTasks
    s.scheduleTask (.function .maybeStateMain)

def writeUser (s : MozillaVPN V) : MozillaVPN V :=
  { s with
    settings :=
      { s.settings with
        userAvatar := some s.user.avatar
        userDisplayName := some s.user.displayName
        userEmail := some s.user.email
        userMaxDevices := some s.user.maxDevices
        userSubscriptionNeeded := some s.user.subscriptionNeeded } }

def writeDevices (s : MozillaVPN V) : MozillaVPN V :=
  { s with settings := { s.settings with devices := some s.deviceModel.rawJson } }

/-- The models of the user and of the devices read the answer of the server, one after the other. -/
def readAccount (json : Bytes) (s : MozillaVPN V) : Bool × MozillaVPN V :=
  let user := s.user.fromJson env.documents json
  let s := { s with user := user.2 }
  if !user.1 then (false, s)
  else
    let devices := s.deviceModel.fromJson env.documents env.sorting s.keys.toKeys json
    let s := { s with deviceModel := devices.2 }
    if !devices.1 then (false, s) else (true, s.writeUser.writeDevices)

def completeAuthentication (json : Bytes) (token : String) (s : MozillaVPN V) : MozillaVPN V :=
  let account := s.readAccount env json
  let s := account.2
  if !account.1 then s.errorHandle .RemoteServiceErrorAlert
  else
    let s := { s with settings := { s.settings with token := some token } }
    if s.user.subscriptionNeeded then s.maybeStateMain else s.completeActivation env

/-- The time is that of the call. -/
def deviceAdded (publicKey privateKey : String) (time : ℤ) (s : MozillaVPN V) : MozillaVPN V :=
  { s with
    keys := { publicKey, privateKey }
    settings :=
      { s.settings with
        privateKey := some privateKey
        publicKey := some publicKey
        deviceKeyVersion := some env.versionString
        keyRegenerationTimeSec := some time } }

def removeDevice (publicKey : String) (s : MozillaVPN V) : MozillaVPN V :=
  let s := { s with deviceModel := s.deviceModel.removeDeviceFromPublicKey publicKey }
  if s.state ≠ .StateDeviceLimit then s
  else s.addCurrentDeviceAndRefreshData.scheduleTask (.function .leaveDeviceLimit)

/-- The settings with the keys are set to the values that they have. -/
def checkCurrentDevice (s : MozillaVPN V) : Bool × MozillaVPN V :=
  if s.state = .StateDeviceLimit then (false, s)
  else if s.hasCurrentDevice then (true, s)
  else
    (true,
      { s with
        settings :=
          { s.settings with
            privateKey := some (s.settings.privateKey.getD "")
            publicKey := some (s.settings.publicKey.getD "") } })

def accountChecked (json : Bytes) (s : MozillaVPN V) : MozillaVPN V :=
  let account := s.readAccount env json
  let s := account.2
  if !account.1 then s
  else
    let checked := s.checkCurrentDevice
    let s := checked.2
    if !checked.1 then s
    else if s.user.subscriptionNeeded ∧ s.state = .StateMain then s.maybeStateMain
    else s

/-- The call fails an assertion if no location can be picked. -/
def serversFetched [DecidableEq V] (reply : Bytes) (s : MozillaVPN V) : MozillaVPN V :=
  { s with
    locations :=
      (s.locations.serversFetched env.settingDocuments env.formats env.language env.ranking reply).getD s.locations }

def heartbeatCompleted (success : Bool) (s : MozillaVPN V) : MozillaVPN V :=
  if !success ∧ s.state = .StateAuthenticating then s.deleteTasks.setState .StateHeartbeatFailure
  else if s.state ≠ .StateHeartbeatFailure then s
  else if !s.modelsInitialized ∨ !s.userAuthenticated then s.setState .StateInitialize
  else s.maybeStateMain

def authenticate (s : MozillaVPN V) : MozillaVPN V :=
  ((s.setState .StateAuthenticating).scheduleTask (.request .heartbeat)).scheduleTask .authenticate

def cancelAuthentication (s : MozillaVPN V) : MozillaVPN V :=
  if s.state ≠ .StateAuthenticating then s else s.reset true

def logout (s : MozillaVPN V) : MozillaVPN V :=
  let s := s.deactivate.deleteTasks
  let s := if s.hasCurrentDevice then s.scheduleTask (.request (.removeDevice s.keys.publicKey)) else s
  s.reset (s.state ≠ .StateUpdateRequired)

def onboardingCompleted (s : MozillaVPN V) : MozillaVPN V :=
  let s :=
    { s with
      settings :=
        { s.settings with
          onboardingCompleted := true
          gleanEnabled := s.settings.onboardingDataCollectionEnabled } }
  if s.state = .StateUpdateRequired then s
  else if !s.userAuthenticated then s.authenticate
  else s.maybeStateMain

def activate (s : MozillaVPN V) : MozillaVPN V := s.deleteTasks.maybeRegenerateDeviceKey.scheduleTask .controllerAction

def silentSwitch (s : MozillaVPN V) : MozillaVPN V := s.deleteTasks.scheduleTask .controllerAction

def refreshDevices (s : MozillaVPN V) : MozillaVPN V :=
  if s.state = .StateMain then s.scheduleTask (.request .account) else s

def removeDeviceFromPublicKey (publicKey : String) (s : MozillaVPN V) : MozillaVPN V :=
  let s := s.scheduleTask (.request (.removeDevice publicKey))
  if s.state ≠ .StateDeviceLimit then
    { s with deviceModel := s.deviceModel.startDeviceRemovalFromPublicKey publicKey }
  else s

def deviceRemovalCompleted (publicKey : String) (s : MozillaVPN V) : MozillaVPN V :=
  { s with deviceModel := s.deviceModel.stopDeviceRemovalFromPublicKey env.sorting publicKey s.keys.toKeys }

/-- What the handler of purchases signals. -/
inductive Purchase where
  | subscriptionStarted
  | restoreSubscriptionStarted
  | subscriptionCompleted
  | subscriptionFailed
  | subscriptionCanceled
  | alreadySubscribed
  | billingNotAvailable
  | subscriptionNotValidated
  deriving DecidableEq

def subscriptionFailedInternal (canceledByUser : Bool) (s : MozillaVPN V) : MozillaVPN V :=
  if env.ios ∧ s.state ≠ .StateSubscriptionInProgress then s
  else
    let s := s.setState .StateSubscriptionNeeded
    let s := if !canceledByUser then s.errorHandle .SubscriptionFailureAlert else s
    s.scheduleTask (.function .recoverSubscription)

def purchase (s : MozillaVPN V) : Purchase → MozillaVPN V
  | .subscriptionStarted | .restoreSubscriptionStarted => s.setState .StateSubscriptionInProgress
  | .subscriptionCompleted =>
    if env.android ∧ s.state ≠ .StateSubscriptionInProgress then s else s.completeActivation env
  | .subscriptionFailed => s.subscriptionFailedInternal env false
  | .subscriptionCanceled => s.subscriptionFailedInternal env true
  | .alreadySubscribed =>
    if env.ios ∧ s.state ≠ .StateSubscriptionInProgress then s else s.setState .StateSubscriptionBlocked
  | .billingNotAvailable => if s.user.subscriptionNeeded then s.setState .StateBillingNotAvailable else s
  | .subscriptionNotValidated => s.setState .StateSubscriptionNotValidated

/-- What a function does that the app has passed to a task. -/
def call (f : Function) (s : MozillaVPN V) : MozillaVPN V :=
  match f with
  | .maybeStateMain => s.maybeStateMain
  | .leaveDeviceLimit => if s.state ≠ .StateDeviceLimit then s else s.maybeStateMain
  | .recoverSubscription =>
    if !s.user.subscriptionNeeded ∧ s.state = .StateSubscriptionNeeded then s.maybeStateMain else s
  | .checkKeyRegeneration =>
    if !s.modelsInitialized then (s.errorHandle .RemoteServiceErrorAlert).setState .StateInitialize else s

/-- How a request ends: with an answer of the server, or with an error. -/
inductive Answer where
  | account (json : Bytes)
  | servers (reply : Bytes)
  | heartbeat (success : Bool)
  | deviceAdded (publicKey privateKey : String) (time : ℤ)
  | other
  | failed (alert : AlertType)

/-- What a request does with its end, where an index of addons and a heartbeat report no error. -/
def answer [DecidableEq V] (s : MozillaVPN V) : Request → Answer → MozillaVPN V
  | .account, .account json => s.accountChecked env json
  | .servers, .servers reply => s.serversFetched env reply
  | .heartbeat, .heartbeat success => s.heartbeatCompleted success
  | .heartbeat, _ => s
  | .addonIndex, _ => s
  | .getLocation, .other => { s with location := true }
  | .addDevice, .deviceAdded publicKey privateKey time => s.deviceAdded env publicKey privateKey time
  | .removeDevice publicKey, .other => s.removeDevice publicKey
  | _, .failed alert => s.errorHandle alert
  | _, _ => s

/-- The end of the `i`-th request of a task. A task that removes a device tells so when it is destroyed. -/
def answered [DecidableEq V] (i : ℕ) (a : Answer) (s : MozillaVPN V) : MozillaVPN V :=
  match s.scheduler.runningTask with
  | none => s
  | some n =>
    match s.tasks[n]? with
    | some (.request r) =>
      let s := (s.answer env r a).taskCompleted n
      match r with
      | .removeDevice publicKey => s.deviceRemovalCompleted env publicKey
      | _ => s
    | some (.group requests) =>
      match requests[i]? with
      | none => s
      | some r =>
        let s := s.answer env r a
        let requests := requests.eraseIdx i
        if s.scheduler.runningTask = some n then
          let s := { s with tasks := s.tasks.set n (.group requests) }
          if requests = [] then s.taskCompleted n else s
        else s
    | _ => s

/-- The loop of the migration, which takes the key of the first device of that name. -/
def migratedKey (json : Bytes) : Option String := do
  let obj ← env.documents.fromJson json
  let devicesArray ← obj.array? "devices"
  search devicesArray
where
  search : List JsonValue → Option String
    | [] => some ""
    | deviceValue :: devicesArray => do
      let device ← Device.fromJson env.documents deviceValue
      if device.deviceName = env.currentDeviceName then some device.publicKey else search devicesArray

def keysFromSettings (s : MozillaVPN V) : Option (MozillaVPN V) := do
  let privateKey := s.settings.privateKey.getD ""
  if privateKey = "" then none
  else
    let publicKey ←
      if s.settings.publicKey.getD "" ≠ "" then s.settings.publicKey
      else if s.settings.devices.getD [] = [] then none
      else migratedKey env (s.settings.devices.getD [])
    let settings :=
      if s.settings.publicKey.getD "" = "" ∧ publicKey ≠ "" then { s.settings with publicKey := some publicKey }
      else s.settings
    pure { s with keys := { publicKey, privateKey }, settings }

def userFromSettings (s : MozillaVPN V) : Option (MozillaVPN V) := do
  let avatar ← s.settings.userAvatar
  let displayName ← s.settings.userDisplayName
  let email ← s.settings.userEmail
  let maxDevices ← s.settings.userMaxDevices
  let subscriptionNeeded ← s.settings.userSubscriptionNeeded
  pure { s with user := { initialized := true, avatar, displayName, email, maxDevices, subscriptionNeeded } }

def locationsFromSettings (s : MozillaVPN V) : Bool × MozillaVPN V :=
  let read := s.locations.serverCountryModel.fromSettings env.formats env.language (s.locations.serversSetting.getD [])
  (read.1, { s with locations := { s.locations with serverCountryModel := read.2 } })

def devicesFromSettings (s : MozillaVPN V) : Bool × MozillaVPN V :=
  let json := s.settings.devices.getD []
  if json = [] then (false, s)
  else
    let read := s.deviceModel.fromJsonInternal env.documents env.sorting s.keys.toKeys json
    (read.1, { s with deviceModel := if read.1 then { read.2 with rawJson := json } else read.2 })

/-- The selection is picked again unless it is in the settings. -/
def selectionFromSettings [DecidableEq V] (s : MozillaVPN V) : MozillaVPN V :=
  let read := s.locations.settingsChanged env.settingDocuments
  if read.1 then { s with locations := read.2 }
  else
    match read.2.serverCountryModel.pickBest env.ranking with
    | country :: city :: _ => { s with locations := read.2.update env.settingDocuments country city "" "" }
    | _ => s -- excluded by an assertion

/-- The first call after the construction of the app. -/
def initializeApp [DecidableEq V] (s : MozillaVPN V) : MozillaVPN V :=
  let s := s.scheduleTask (.group [.addonIndex])
  if s.settings.token = none then s
  else
    match s.userFromSettings with
    | none => s
    | some s =>
      if s.user.subscriptionNeeded then (s.setState .StateAuthenticating).scheduleTask (.function .maybeStateMain)
      else
        match s.keysFromSettings env with
        | none => s.resetSettings
        | some s =>
          let locations := s.locationsFromSettings env
          let devices := locations.2.devicesFromSettings env
          let checked := devices.2.checkCurrentDevice
          if !locations.1 then locations.2.resetSettings
          else if !devices.1 then devices.2.resetSettings
          else if !checked.1 then checked.2
          else if !checked.2.modelsInitialized then checked.2.resetSettings
          else ((checked.2.selectionFromSettings env).scheduleRefreshDataTasks).maybeStateMain

/-- Calls of the app, and what its tasks and its other objects signal. -/
inductive Event where
  | authenticate
  | cancelAuthentication
  | completeAuthentication (json : Bytes) (token : String)
  | abortAuthentication
  | errorHandle (alert : AlertType)
  | finished
  | answered (i : ℕ) (a : Answer)
  | called
  | timeout (i : ℕ)
  | periodicOperations
  | removeDeviceFromPublicKey (publicKey : String)
  | onboardingCompleted
  | activate
  | deactivate
  | silentSwitch
  | refreshDevices
  | triggerHeartbeat
  | logout
  | reset
  | hardReset
  | readyToUpdate
  | controllerStateChanged (off : Bool)
  | purchase (purchase : Purchase)
  | setDNSProviderFlags (flags : ℕ)

/-- A function is called as its task runs, before anything else happens. -/
def step [DecidableEq V] (s : MozillaVPN V) : Event → MozillaVPN V
  | .authenticate => s.authenticate
  | .cancelAuthentication => s.cancelAuthentication
  | .completeAuthentication json token =>
    if s.runningTask = some .authenticate then s.completeAuthentication env json token else s
  | .abortAuthentication => if s.runningTask = some .authenticate then s.setState .StateInitialize else s
  | .errorHandle alert => s.errorHandle alert
  | .finished =>
    match s.scheduler.runningTask with
    | none => s
    | some n => if s.tasks[n]? = some .authenticate ∨ s.tasks[n]? = some .controllerAction then s.taskCompleted n else s
  | .answered i a => s.answered env i a
  | .called =>
    match s.scheduler.runningTask with
    | none => s
    | some n =>
      match s.tasks[n]? with
      | some (.function f) => (s.call f).taskCompleted n
      | _ => s
  | .timeout i => { s with scheduler := s.scheduler.step (.timeout i) }
  | .periodicOperations =>
    if s.periodicOperations then
      s.scheduleTask
        (.group [.account, .servers, .captivePortalLookup, .heartbeat, .addonIndex, .getSubscriptionDetails])
    else s
  | .removeDeviceFromPublicKey publicKey => s.removeDeviceFromPublicKey publicKey
  | .onboardingCompleted => s.onboardingCompleted
  | .activate => s.activate
  | .deactivate => s.deactivate
  | .silentSwitch => s.silentSwitch
  | .refreshDevices => s.refreshDevices
  | .triggerHeartbeat => s.scheduleTask (.request .heartbeat)
  | .logout => s.logout
  | .reset => s.reset true
  | .hardReset => s.hardReset
  | .readyToUpdate => s.setState .StateUpdateRequired
  | .controllerStateChanged off =>
    let s := { s with controllerOff := off }
    if s.controllerInitialized then s
    else
      let s := { s with controllerInitialized := true }
      if s.settings.startAtBoot then s.activate else s
  | .purchase p => s.purchase env p
  | .setDNSProviderFlags flags => { s with settings := { s.settings with dnsProviderFlags := flags } }

end MozillaVPN

end VpnClient.App
