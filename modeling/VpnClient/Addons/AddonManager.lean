import VpnClient.Addons.AddonIndex
import VpnClient.Library.Runs
import VpnClient.Tasks.TaskQueue

/-! The manager of the add-ons: it removes those that a new index does not list, and has a task download each that
is not on the disk in the listed version. -/

namespace VpnClient.Addons

open Ipc (Bytes)
open Library.Tables Tasks

/-- The tasks of the queue: for an index, for an add-on, to tell that all are loaded, and the rest of the app's. -/
inductive AddonTask where
  | addonIndex
  | addon (addonId : String) (sha256 : Bytes)
  | loadCompleted
  | other
  deriving DecidableEq, Repr

/-- The add-ons and their files, with the list of the last index that was accepted. -/
structure AddonManager where
  addons : Table String AddonData := ∅
  directory : AddonDirectory
  queue : TaskQueue AddonTask := {}
  loadCompleted : Bool := false
  accepted : List AddonData := []

namespace AddonManager

variable (formats : Formats) (io : Answers)

def fileName (addonId : String) : String := addonId ++ ".rcc"

def setLoadCompleted (s : AddonManager) : AddonManager := { s with loadCompleted := true }

def scheduleTask (task : AddonTask) (s : AddonManager) : AddonManager := { s with queue := s.queue.scheduleTask task }

def taskCompleted (s : AddonManager) : AddonManager := { s with queue := s.queue.taskCompleted }

def insert (addonId : String) (addonData : AddonData) (s : AddonManager) : AddonManager :=
  { s with addons := s.addons.insert addonId addonData }

def unload (addonId : String) (s : AddonManager) : AddonManager := { s with addons := s.addons.erase addonId }

def removeAddon (addonId : String) (s : AddonManager) : AddonManager :=
  { s with directory := s.directory.deleteFile io (fileName addonId) }

def unloadAndRemove (s : AddonManager) (addonId : String) : AddonManager := (s.unload addonId).removeAddon io addonId

/-- The add-on is stored under the id in its manifest, which an assertion expects to be there. -/
def loadManifest (resource : Bytes) (s : AddonManager) : AddonManager × Bool :=
  match io.create resource with
  | none => (s, false)
  | some id =>
    let addonData := (s.addons.lookup id).getD { sha256 := [], addonId := "", addon := none }
    (s.insert id { addonData with addon := some { id, resource } }, true)

def validates (addonId : String) (sha256 : Bytes) (s : AddonManager) : Bool :=
  match s.directory.readFile io (fileName addonId) with
  | none => false
  | some addonFileContents => formats.sha256 addonFileContents == sha256

def registerResource (addonId : String) (s : AddonManager) : Option Bytes :=
  if io.registerResource (fileName addonId) then s.directory.lookup (fileName addonId) else none

def validateAndLoad (addonId : String) (sha256 : Bytes) (checkSha256 : Bool) (s : AddonManager) : AddonManager × Bool :=
  if addonId ∈ s.addons then (s, false)
  else
    let s := s.insert addonId { sha256 := [], addonId, addon := none }
    if !io.getDirectory || checkSha256 && !s.validates formats io addonId sha256 then (s, false)
    else
      let s := s.insert addonId { sha256, addonId, addon := none }
      match s.registerResource io addonId with
      | none => (s, false)
      | some resource => s.loadManifest io resource

def storeAndLoadAddon (addonData : Bytes) (addonId : String) (sha256 : Bytes) (s : AddonManager) : AddonManager :=
  let s := if addonId ∈ s.addons then s.unloadAndRemove io addonId else s
  if formats.sha256 addonData ≠ sha256 then s
  else
    match s.directory.writeToFile io (fileName addonId) addonData with
    | none => s
    | some directory => ({ s with directory }.validateAndLoad formats io addonId sha256 false).1

def addonsToBeRemoved (addons : List AddonData) (s : AddonManager) : List String :=
  s.addons.keys.filter fun key => !addons.any fun addonData => addonData.addonId = key

/-- The manager afterwards, and whether a task was added. -/
def fetchAddon (p : AddonManager × Bool) (addonData : AddonData) : AddonManager × Bool :=
  let loaded :=
    if addonData.addonId ∈ p.1.addons then (p.1, false)
    else p.1.validateAndLoad formats io addonData.addonId addonData.sha256 true
  if loaded.2 || (loaded.1.addons.lookup addonData.addonId).map (·.sha256) = some addonData.sha256 then (loaded.1, p.2)
  else (loaded.1.scheduleTask (.addon addonData.addonId addonData.sha256), true)

/-- The list is `none` if the status is false. -/
def updateAddonsList (addons : Option (List AddonData)) (s : AddonManager) : AddonManager :=
  match addons with
  | none => s.setLoadCompleted
  | some addons =>
    let s := (s.addonsToBeRemoved addons).foldl (unloadAndRemove io) { s with accepted := addons }
    let fetched := addons.foldl (fetchAddon formats io) (s, false)
    if fetched.2 then fetched.1.scheduleTask .loadCompleted else fetched.1.setLoadCompleted

def updateIndex (status : Bool) (index indexSignature : Bytes) (s : AddonManager) : AddonManager :=
  if !status then s.setLoadCompleted
  else
    let updated := AddonIndex.update formats io index indexSignature s.directory
    { s with directory := updated.1 }.updateAddonsList formats io updated.2

def refreshAddons (s : AddonManager) : AddonManager := s.scheduleTask .addonIndex

def reset (s : AddonManager) : AddonManager :=
  (s.addons.keys.foldl (unloadAndRemove io) { s with directory := s.directory.reset io }).refreshAddons

/-- The manager as it is created over a directory. -/
def create (directory : AddonDirectory) : AddonManager :=
  match AddonIndex.getOnDiskAddonsList formats io directory with
  | none => { directory }
  | some addons => { directory : AddonManager }.updateAddonsList formats io (some addons)

/-- An index may be given to the manager at any time, as it is at the end of a task for it. A download that ends has
data unless it failed. -/
inductive Event where
  | refreshAddons
  | scheduleOther
  | updateIndex (status : Bool) (index indexSignature : Bytes) (io : Answers)
  | indexEnded (status : Bool) (index indexSignature : Bytes) (io : Answers)
  | downloadEnded (data : Option Bytes) (io : Answers)
  | functionEnded
  | reset (io : Answers)

def downloadEnded (data : Option Bytes) (addonId : String) (sha256 : Bytes) (s : AddonManager) : AddonManager :=
  match data with
  | none => s
  | some data => s.storeAndLoadAddon formats io data addonId sha256

def step (s : AddonManager) : Event → AddonManager
  | .refreshAddons => s.refreshAddons
  | .scheduleOther => s.scheduleTask .other
  | .updateIndex status index indexSignature io => s.updateIndex formats io status index indexSignature
  | .indexEnded status index indexSignature io =>
    match s.queue.runningTask with
    | some .addonIndex => (s.updateIndex formats io status index indexSignature).taskCompleted
    | _ => s
  | .downloadEnded data io =>
    match s.queue.runningTask with
    | some (.addon addonId sha256) => (s.downloadEnded formats io data addonId sha256).taskCompleted
    | _ => s
  | .functionEnded =>
    match s.queue.runningTask with
    | some .loadCompleted => s.setLoadCompleted.taskCompleted
    | some .other => s.taskCompleted
    | _ => s
  | .reset io => s.reset io

end AddonManager

end VpnClient.Addons
