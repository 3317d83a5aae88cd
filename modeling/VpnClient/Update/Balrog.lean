import VpnClient.Update.Signature

/-! The updater: it fetches an update document, checks its signature, and announces the update or installs its package. -/

namespace VpnClient.Update

open Ipc (Bytes JsonObject trimmed)

def BALROG_CERT_SUBJECT_CN : String := "aus.content-signature.mozilla.org"

def AUTOGRAPH_PROD_FINGERPRINTS : List String :=
  ["97e8ba9cf12fb3de53cc42a4e6577ed64df493c247b414fea036818d3823560e",
    "c8a80e9afaef4e219b6fb5d7a71d0f101223bac5001ac28f9b0d43dc59a106db"]

def AUTOGRAPH_STAGE_FINGERPRINTS : List String :=
  ["c0f05d59b1fde25780854c32fae8faba8481c233b4c1d390cca5f2cea81930ee",
    "45c37f3a09a6d70e0fa321fb29753ba7998f1259b32772768f23ccdc24836798",
    "3c01446abe9036cea9a09acaa3a520ac628f20a7ae32ce861cb2efb70fa0c745"]

def hexDigit (c : Char) : Option UInt8 :=
  if '0' ≤ c ∧ c ≤ '9' then some (c.toNat - '0'.toNat).toUInt8
  else if 'a' ≤ c ∧ c ≤ 'f' then some (c.toNat - 'a'.toNat + 10).toUInt8
  else if 'A' ≤ c ∧ c ≤ 'F' then some (c.toNat - 'A'.toNat + 10).toUInt8
  else none

/-- The bytes of digits that are given from the last one on, with the last byte first. -/
def fromHexDigits : List UInt8 → Bytes
  | [] => []
  | [digit] => [digit]
  | low :: high :: digits => (high * 16 + low) :: fromHexDigits digits

/-- Characters that are not hexadecimal digits are skipped. -/
def fromHex (hexEncoded : String) : Bytes := (fromHexDigits (hexEncoded.toList.filterMap hexDigit).reverse).reverse

/-- What becomes of a file of the temporary directory: whether the directory is valid, what a file of some name holds
when it is opened for reading and writing, if it can be opened, and how many bytes are written to it. -/
structure TemporaryDir where
  isValid : Bool
  opened : String → Option Bytes
  written : ℕ

/-- The reply to a request, and what is found when it arrives. -/
structure Reply where
  statusCode : ℕ
  contentSignature : Bytes := []
  data : Bytes
  now : ℤ := 0
  tmpDir : TemporaryDir := ⟨false, fun _ => none, 0⟩

inductive Request where
  | update
  | x5u (url signatureBlob updateData : Bytes)
  | content (url : String)
  | package (url : String) (hashValue : Bytes) (hashFunction : String)

/-- What the updater makes known, and the installation of a file for a package that was received. -/
inductive Effect where
  | updateRequired
  | updateRecommended
  | install (data file : Bytes)
  deriving DecidableEq

/-- The updater with the request that it waits for. Without one it is deleted, or its installer runs. -/
structure Balrog where
  request : Option Request
  effects : List Effect := []

structure Settings where
  downloadAndInstall : Bool
  stagingUpdateServer : Bool
  fromJson : Bytes → Option JsonObject

namespace Balrog

variable {Certificate PublicKey Name : Type} [DecidableEq Name] (P : Primitives Certificate PublicKey Name)
  (settings : Settings)

def rootCertHashes : List String :=
  if settings.stagingUpdateServer then AUTOGRAPH_STAGE_FINGERPRINTS else AUTOGRAPH_PROD_FINGERPRINTS

def start : Balrog := { request := some .update }

def send (request : Request) (b : Balrog) : Balrog := { b with request := some request }

def deleteLater (b : Balrog) : Balrog := { b with request := none }

def emit (effect : Effect) (b : Balrog) : Balrog := { b with effects := b.effects ++ [effect] }

/-- The bytes of a text in ASCII. -/
def ascii (text : String) : Bytes := text.toList.map fun c => c.toNat.toUInt8

/-- The loop over the header, with the values of `x5u` and `signatureBlob` so far. -/
def readEntries : List Bytes → Bytes × Bytes → Option (Bytes × Bytes)
  | [], values => some values
  | item :: items, (x5u, signatureBlob) =>
    let entry := trimmed item
    if 0x3d ∈ entry then
      let value := (entry.dropWhile (· ≠ 0x3d)).tail
      if entry.takeWhile (· ≠ 0x3d) = ascii "x5u" then readEntries items (value, signatureBlob)
      else readEntries items (x5u, value)
    else none

/-- The values of `x5u` and `signatureBlob` in the header `Content-Signature`. -/
def readHeader (header : Bytes) : Option (Bytes × Bytes) :=
  if header = [] then none
  else (readEntries (header.splitOn 0x3b) ([], [])).filter fun values => !values.1.isEmpty && !values.2.isEmpty

def fetchSignature (reply : Reply) (b : Balrog) : Balrog :=
  match readHeader reply.contentSignature with
  | none => b.deleteLater
  | some (x5u, signatureBlob) => b.send (.x5u x5u signatureBlob reply.data)

/-- Whether the signature is valid, unless the process ends. -/
def validateSignature (x5uData updateData signatureBlob : Bytes) (now : ℤ) : Option Bool :=
  (Signature.computeRootCertificateHash P x5uData).elim (some false) fun rootHash =>
    if ((rootCertHashes settings).map fromHex).any fun hash => decide (hash = rootHash) then
      Signature.verifyContentSignature P x5uData updateData signatureBlob BALROG_CERT_SUBJECT_CN now
    else some false

def processData (data : Bytes) (b : Balrog) : Balrog :=
  match settings.fromJson data with
  | none => b.deleteLater
  | some obj =>
    let url := (obj.string? "url").getD ""
    if !settings.downloadAndInstall then
      if (obj.bool? "required").getD false then (b.emit .updateRequired).deleteLater
      else if url = "" then b.deleteLater
      else b.send (.content url)
    else
      let hashFunction := (obj.string? "hashFunction").getD ""
      let hashValue := fromHex ((obj.string? "hashValue").getD "")
      if url = "" then b.deleteLater
      else if hashFunction = "" then b.deleteLater
      else if hashValue = [] then b.deleteLater
      else b.send (.package url hashValue hashFunction)

def checkSignature (x5uData updateData signatureBlob : Bytes) (now : ℤ) (b : Balrog) : Balrog :=
  match validateSignature P settings x5uData updateData signatureBlob now with
  | some true => b.processData settings updateData
  | _ => b.deleteLater

/-- What follows the last slash of a URL. -/
def fileName (url : String) : String := String.ofList (url.toList.reverse.takeWhile (· ≠ '/')).reverse

/-- The content of the file to which the data are written, if they are. It keeps what it held beyond them. -/
def saveFile (url : String) (data : Bytes) (tmpDir : TemporaryDir) : Option Bytes :=
  if '/' ∉ url.toList then none
  else if !tmpDir.isValid then none
  else
    match tmpDir.opened (fileName url) with
    | none => none
    | some former => if tmpDir.written ≠ data.length then none else some (data ++ former.drop data.length)

def saveFileAndInstall (url : String) (data : Bytes) (tmpDir : TemporaryDir) (b : Balrog) : Balrog :=
  match saveFile url data tmpDir with
  | none => b.deleteLater
  | some file => { b.emit (.install data file) with request := none }

def computeHash (url : String) (data expect : Bytes) (algorithm : String) (tmpDir : TemporaryDir) (b : Balrog) :
    Balrog :=
  if algorithm ≠ "sha512" then b.deleteLater
  else if P.sha512 data ≠ expect then b.deleteLater
  else b.saveFileAndInstall url data tmpDir

def requestCompleted (reply : Reply) (b : Balrog) : Balrog :=
  match b.request with
  | none => b
  | some .update => if reply.statusCode ≠ 200 then b.deleteLater else b.fetchSignature reply
  | some (.x5u _ signatureBlob updateData) => b.checkSignature P settings reply.data updateData signatureBlob reply.now
  | some (.content _) => b.deleteLater
  | some (.package url hashValue hashFunction) => b.computeHash P url reply.data hashValue hashFunction reply.tmpDir

/-- Only the request for the content of a recommended update looks at its header. -/
def requestHeaderReceived (statusCode : ℕ) (b : Balrog) : Balrog :=
  match b.request with
  | some (.content _) => if statusCode = 200 then b.emit .updateRecommended else b
  | _ => b

inductive Event where
  | requestFailed
  | requestHeaderReceived (statusCode : ℕ)
  | requestCompleted (reply : Reply)

def step (b : Balrog) : Event → Balrog
  | .requestFailed => b.deleteLater
  | .requestHeaderReceived statusCode => b.requestHeaderReceived statusCode
  | .requestCompleted reply => b.requestCompleted P settings reply

end Balrog

end VpnClient.Update
