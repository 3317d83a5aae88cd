import VpnClient.Library.RowViews
import VpnClient.Library.Runs
import VpnClient.Library.SortedMap

/-! The rows of the enabled add-ons, and what a view of them is told when add-ons come, go and change. -/

namespace VpnClient.Addons

open Library Library.RowViews

inductive MessageStatus where
  | Received
  | Notified
  | Read
  | Dismissed
  deriving DecidableEq, Repr

/-- An add-on, with a status if it is a message. -/
structure AddonState where
  m_enabled : Bool
  status : Option MessageStatus
  deriving DecidableEq, Repr

namespace AddonState

def enabled (addon : AddonState) : Bool := addon.m_enabled && addon.status != some .Dismissed

/-- A message that has been dismissed before is not created. -/
def create (status : Option MessageStatus) (conditionApplied : Bool) : Option AddonState :=
  if status = some .Dismissed then none else some { m_enabled := conditionApplied, status }

end AddonState

/-- What a manifest says about its add-on when it is created. -/
structure Manifest (Id : Type) where
  id : Id
  status : Option MessageStatus
  conditionApplied : Bool

/-- The add-ons by their ids, and the rows that a view shows. -/
structure AddonModel (Id : Type) [LinearOrder Id] where
  addons : SortedMap Id (Option AddonState)
  view : Option (List (Option Id))

namespace AddonModel

variable {Id : Type} [LinearOrder Id]

def isRow (addon : Option AddonState) : Bool := addon.any AddonState.enabled

def count (s : AddonModel Id) : ℕ := s.addons.entries.countP fun e => isRow e.2

def dataOf : List (Id × Option AddonState) → ℕ → Option Id
  | [], _ => none
  | e :: entries, row =>
    if !isRow e.2 then dataOf entries row
    else if row = 0 then some e.1
    else dataOf entries (row - 1)

def data (s : AddonModel Id) (row : ℕ) : Option Id := dataOf s.addons.entries row

/-- The row of an add-on, were it enabled. -/
def posOf (addonId : Id) : List (Id × Option AddonState) → Option ℕ
  | [] => none
  | e :: entries =>
    if e.2.isNone then posOf addonId entries
    else if e.1 = addonId then some 0
    else (posOf addonId entries).map fun pos => if isRow e.2 then pos + 1 else pos

def resetModel (s : AddonModel Id) : AddonModel Id := { s with view := some ((List.range s.count).map s.data) }

def insertRows (pos : ℕ) (s : AddonModel Id) : AddonModel Id := { s with view := insertRow pos (s.data pos) s.view }

def removeRows (pos : ℕ) (s : AddonModel Id) : AddonModel Id := { s with view := removeRow pos s.view }

def conditionChanged (addonId : Id) (enabled : Bool) (s : AddonModel Id) : AddonModel Id :=
  match posOf addonId s.addons.entries with
  | none => s
  | some pos => if !enabled then s.removeRows pos else s.insertRows pos

def addon (addonId : Id) (s : AddonModel Id) : Option AddonState := (s.addons.lookup addonId).join

def update (addonId : Id) (f : AddonState → AddonState) (s : AddonModel Id) : AddonModel Id :=
  match s.addon addonId with
  | none => s
  | some addon => { s with addons := s.addons.insert addonId (some (f addon)) }

def enable (addonId : Id) (s : AddonModel Id) : AddonModel Id :=
  (s.update addonId fun addon => { addon with m_enabled := true }).conditionChanged addonId true

def disable (addonId : Id) (s : AddonModel Id) : AddonModel Id :=
  (s.update addonId fun addon => { addon with m_enabled := false }).conditionChanged addonId false

/-- The watcher of an add-on tells whether its conditions apply. -/
def watcherChanged (addonId : Id) (enabled : Bool) (s : AddonModel Id) : AddonModel Id :=
  match s.addon addonId with
  | none => s
  | some addon =>
    if enabled = addon.m_enabled then s
    else if enabled then s.enable addonId
    else s.disable addonId

def updateMessageStatus (addonId : Id) (newStatus : MessageStatus) (s : AddonModel Id) : AddonModel Id :=
  match (s.addon addonId).bind (·.status) with
  | none => s
  | some status =>
    if status = newStatus then s
    else
      let s := if status = .Dismissed then s.enable addonId else s
      s.update addonId fun addon => { addon with status := some newStatus }

def isMessage (addonId : Id) (s : AddonModel Id) : Bool := ((s.addon addonId).bind (·.status)).isSome

def dismiss (addonId : Id) (s : AddonModel Id) : AddonModel Id :=
  if s.isMessage addonId then (s.disable addonId).updateMessageStatus addonId .Dismissed else s

def markAsRead (addonId : Id) (s : AddonModel Id) : AddonModel Id := s.updateMessageStatus addonId .Read

def resetMessage (addonId : Id) (s : AddonModel Id) : AddonModel Id := s.updateMessageStatus addonId .Received

/-- A notification is shown of a message that is new. -/
def maybeAddonNotification (addonId : Id) (s : AddonModel Id) : AddonModel Id :=
  if (s.addon addonId).bind (·.status) = some .Received then s.updateMessageStatus addonId .Notified else s

def loadManifest (manifest : Manifest Id) (s : AddonModel Id) : AddonModel Id :=
  match AddonState.create manifest.status manifest.conditionApplied with
  | none => s
  | some addon =>
    let s := { s with addons := s.addons.insert manifest.id (some addon) }
    if addon.enabled then s.resetModel else s

/-- There is no manifest if the file is missing, is not the listed one or cannot be read. -/
def validateAndLoad (addonId : Id) (manifest : Option (Manifest Id)) (s : AddonModel Id) : AddonModel Id :=
  if (s.addons.lookup addonId).isSome then s
  else
    let s := { s with addons := s.addons.insert addonId none }
    match manifest with
    | none => s
    | some manifest => s.loadManifest manifest

def unload (addonId : Id) (s : AddonModel Id) : AddonModel Id :=
  let s := if isRow (s.addon addonId) then s.disable addonId else s
  { s with addons := s.addons.erase addonId }

inductive Event (Id : Type) where
  | load (addonId : Id) (manifest : Option (Manifest Id))
  | unload (addonId : Id)
  | watcherChanged (addonId : Id) (enabled : Bool)
  | dismiss (addonId : Id)
  | markAsRead (addonId : Id)
  | resetMessage (addonId : Id)
  | addonNotification (addonId : Id)

def step (s : AddonModel Id) : Event Id → AddonModel Id
  | .load addonId manifest => s.validateAndLoad addonId manifest
  | .unload addonId => s.unload addonId
  | .watcherChanged addonId enabled => s.watcherChanged addonId enabled
  | .dismiss addonId => s.dismiss addonId
  | .markAsRead addonId => s.markAsRead addonId
  | .resetMessage addonId => s.resetMessage addonId
  | .addonNotification addonId => s.maybeAddonNotification addonId

/-- A manager without add-ons, and a view that has been read from it. -/
def empty : AddonModel Id := { addons := .empty, view := some [] }

end AddonModel

end VpnClient.Addons
