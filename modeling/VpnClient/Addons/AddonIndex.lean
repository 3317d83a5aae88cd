import VpnClient.Ipc.Message
import VpnClient.Library.Tables

/-! The directory of the add-ons, and the index of those that are available. -/

namespace VpnClient.Addons

open Ipc (Bytes JsonObject JsonValue)
open Library.Tables

/-- How files are hashed, and index files are read. -/
structure Formats where
  sha256 : Bytes → Bytes
  fromJson : Bytes → Option JsonObject

/-- What the file system, the resources, the signature check and the creation of an add-on from the manifest of a
resource answer while an event is handled. -/
structure Answers where
  getDirectory : Bool := true
  reads : String → Bool := fun _ => true
  writes : String → Bool := fun _ => true
  removes : String → Bool := fun _ => true
  signatureVerificationNeeded : Bool := false
  validateIndexSignature : Bytes → Bytes → Bool := fun _ _ => true
  registerResource : String → Bool := fun _ => true
  create : Bytes → Option String

abbrev AddonDirectory := Table String Bytes

namespace AddonDirectory

variable (io : Answers) (fileName : String)

def readFile (dir : AddonDirectory) : Option Bytes :=
  if io.getDirectory && io.reads fileName then dir.lookup fileName else none

/-- No byte of an empty file is written, which counts as a failure. -/
def writable (contents : Bytes) : Bool := io.getDirectory && io.writes fileName && !contents.isEmpty

def writeToFile (contents : Bytes) (dir : AddonDirectory) : Option AddonDirectory :=
  if writable io fileName contents then some (dir.insert fileName contents) else none

def deleteFile (dir : AddonDirectory) : AddonDirectory :=
  if io.getDirectory && io.removes fileName then dir.erase fileName else dir

/-- Every file is removed of which the system allows it. -/
def reset (dir : AddonDirectory) : AddonDirectory :=
  if io.getDirectory then (dir.keys.filter io.removes).foldl (fun dir fileName => dir.erase fileName) dir else dir

end AddonDirectory

structure Addon where
  id : String
  /-- The content of the file that was registered for the add-on. -/
  resource : Bytes
  deriving DecidableEq, Repr

structure AddonData where
  sha256 : Bytes
  addonId : String
  addon : Option Addon
  deriving DecidableEq, Repr

namespace AddonIndex

def apiVersion : String := "0.1"
def indexFilename : String := "manifest.json"
def indexSignatureFilename : String := "manifest.json.sig"

def hexDigit (c : Char) : Option UInt8 :=
  if '0' ≤ c ∧ c ≤ '9' then some (c.toNat - 48).toUInt8
  else if 'a' ≤ c ∧ c ≤ 'f' then some (c.toNat - 87).toUInt8
  else if 'A' ≤ c ∧ c ≤ 'F' then some (c.toNat - 55).toUInt8
  else none

/-- The bytes of a number whose digits are given from the last to the first. -/
def bytesOfDigits : List UInt8 → Bytes
  | low :: high :: digits => bytesOfDigits digits ++ [low + 16 * high]
  | [digit] => [digit]
  | [] => []

/-- Characters that are not digits are left out. -/
def fromHex (s : String) : Bytes := bytesOfDigits (s.toList.filterMap hexDigit).reverse

def length (s : String) : ℕ := (s.toList.map fun c => if c.toNat < 0x10000 then 1 else 2).sum

def toString (obj : JsonObject) (name : String) : String := (obj.string? name).getD ""

def toArray (obj : JsonObject) (name : String) : List JsonValue :=
  match obj.value name with
  | some (.array values) => values
  | _ => []

def toObject : JsonValue → JsonObject
  | .object fields => fields
  | _ => []

def isObject : JsonValue → Bool
  | .object _ => true
  | _ => false

def validateSingleAddonIndex (addonValue : JsonValue) : Bool :=
  let addonObj := toObject addonValue
  isObject addonValue && toString addonObj "sha256" != "" && length (toString addonObj "sha256") == 64 &&
    toString addonObj "id" != ""

variable (formats : Formats) (io : Answers)

def validateIndex (index : Bytes) : Option JsonObject :=
  match formats.fromJson index with
  | none => none
  | some obj =>
    if toString obj "api_version" = apiVersion ∧ (toArray obj "addons").all validateSingleAddonIndex then some obj
    else none

def validate (index indexSignature : Bytes) : Option JsonObject :=
  match validateIndex formats index with
  | none => none
  | some obj =>
    if io.signatureVerificationNeeded && !io.validateIndexSignature index indexSignature then none else some obj

def extractAddonsFromIndex (indexObj : JsonObject) : List AddonData :=
  (toArray indexObj "addons").map fun item =>
    { sha256 := fromHex (toString (toObject item) "sha256"), addonId := toString (toObject item) "id", addon := none }

def read (dir : AddonDirectory) : Option (Bytes × Bytes) :=
  match dir.readFile io indexFilename with
  | none => none
  | some index =>
    if io.signatureVerificationNeeded then
      (dir.readFile io indexSignatureFilename).map fun indexSignature => (index, indexSignature)
    else some (index, [])

/-- The directory afterwards, and whether both files were written. -/
def write (index indexSignature : Bytes) (dir : AddonDirectory) : AddonDirectory × Bool :=
  match dir.writeToFile io indexFilename index with
  | none => (dir, false)
  | some dir =>
    if io.signatureVerificationNeeded then
      match dir.writeToFile io indexSignatureFilename indexSignature with
      | none => (dir, false)
      | some dir => (dir, true)
    else (dir, true)

def getOnDiskAddonsList (dir : AddonDirectory) : Option (List AddonData) :=
  match read io dir with
  | none => none
  | some files => (validate formats io files.1 files.2).map extractAddonsFromIndex

/-- The directory afterwards, and the list with which `indexUpdated` is emitted, `none` if its status is false. -/
def update (index indexSignature : Bytes) (dir : AddonDirectory) : AddonDirectory × Option (List AddonData) :=
  if read io dir = some (index, indexSignature) then (dir, none)
  else
    match validate formats io index indexSignature with
    | none => (dir, none)
    | some indexObj =>
      let written := write io index indexSignature dir
      if written.2 then (written.1, some (extractAddonsFromIndex indexObj)) else (written.1, none)

/-- What an index lists, valid or not. -/
def listed (index : Bytes) : List AddonData := ((formats.fromJson index).map extractAddonsFromIndex).getD []

variable {formats io} {index indexSignature : Bytes} {dir : AddonDirectory} {addons : List AddonData} {obj : JsonObject}

lemma fromJson_of_validateIndex (h : validateIndex formats index = some obj) : formats.fromJson index = some obj := by
  rw [validateIndex] at h
  cases hj : formats.fromJson index with
  | none => simp [hj] at h
  | some obj' =>
    simp only [hj] at h
    split at h
    · exact h
    · cases h

lemma fromJson_of_validate (h : validate formats io index indexSignature = some obj) :
    formats.fromJson index = some obj := by
  rw [validate] at h
  cases hv : validateIndex formats index with
  | none => simp [hv] at h
  | some obj' =>
    simp only [hv] at h
    split at h
    · cases h
    · exact h ▸ fromJson_of_validateIndex hv

lemma listed_of_update (h : (update formats io index indexSignature dir).2 = some addons) :
    addons = listed formats index := by
  rw [update] at h
  split at h
  · cases h
  · cases hv : validate formats io index indexSignature with
    | none => simp [hv] at h
    | some obj =>
      simp only [hv] at h
      rw [listed, fromJson_of_validate hv, Option.map_some, Option.getD_some]
      split at h
      · exact (Option.some.inj h).symm
      · cases h

end AddonIndex

end VpnClient.Addons
