import VpnClient.Library.LittleEndian

/-! The settings file, in plain or encrypted, for any cipher, any keeper of the keys and any conversion of the
settings to JSON. -/

namespace VpnClient.Settings

open Library

abbrev Bytes := List UInt8

def CRYPTO_SETTINGS_KEY_SIZE : ℕ := 32

def NONCE_SIZE : ℕ := 12

def MAC_SIZE : ℕ := 16

def ENCRYPTED_V2_HEADER_SIZE : ℕ := 4

def UINT16_MAX : ℕ := 2 ^ 16 - 1

def UINT64_MAX : ℕ := 2 ^ 64 - 1

inductive Version where
  | NoEncryption
  | EncryptionChachaPolyV1
  | EncryptionChachaPolyV2
  deriving DecidableEq

namespace Version

def toByte : Version → UInt8
  | NoEncryption => 0
  | EncryptionChachaPolyV1 => 1
  | EncryptionChachaPolyV2 => 2

def ofByte (b : UInt8) : Option Version :=
  if b = 0 then some NoEncryption
  else if b = 1 then some EncryptionChachaPolyV1
  else if b = 2 then some EncryptionChachaPolyV2
  else none

@[simp] lemma ofByte_toByte (version : Version) : ofByte version.toByte = some version := by
  cases version <;> rfl

lemma eq_toByte {b : UInt8} {version : Version} (h : ofByte b = some version) : b = version.toByte := by
  unfold ofByte at h
  split_ifs at h with h₀ h₁ h₂ <;> cases h <;> assumption

end Version

/-- A device to write to. A write takes as many bytes as the next of `limits` says, and all without one. -/
structure QIODevice where
  written : Bytes := []
  limits : List ℕ := []

namespace QIODevice

def write (data : Bytes) (device : QIODevice) : Bool × QIODevice :=
  match device.limits with
  | [] => (true, { device with written := device.written ++ data })
  | limit :: limits => (data.length ≤ limit, { written := device.written ++ data.take limit, limits })

/-- Writes one part after the other, up to the first write that fails. -/
def writeParts : List Bytes → QIODevice → Bool × QIODevice
  | [], device => (true, device)
  | data :: parts, device =>
    match device.write data with
    | (false, device) => (false, device)
    | (true, device) => writeParts parts device

lemma writeParts_unlimited {parts : List Bytes} {device : QIODevice} (h : device.limits = []) :
    device.writeParts parts = (true, { device with written := device.written ++ parts.flatten }) := by
  induction parts generalizing device with
  | nil => simp [writeParts]
  | cons data parts ih =>
    have hw : device.write data = (true, { device with written := device.written ++ data }) := by
      rw [write, h]
    have ih' := @ih { device with written := device.written ++ data } h
    rw [writeParts, hw]
    simp only [ih', List.flatten_cons, List.append_assoc]

end QIODevice

abbrev SettingsMap (V : Type) := String → Option V

abbrev QJsonObject (J : Type) := String → Option J

/-- JSON values for the values of the settings, and texts for objects. -/
structure Json (V J : Type) where
  fromVariant : V → J
  toVariant : J → V
  toJson : QJsonObject J → Bytes
  fromJson : Bytes → Option (QJsonObject J)

namespace Json

variable {V J : Type} (json : Json V J)

/-- The object with the values of the map. -/
def object (map : SettingsMap V) : QJsonObject J := fun key => (map key).map json.fromVariant

/-- Inserts the values of an object into the map. -/
def insert (obj : QJsonObject J) (map : SettingsMap V) : SettingsMap V :=
  fun key => ((obj key).map json.toVariant).orElse fun _ => map key

end Json

/-- An authenticated encryption: `encrypt` returns the ciphertext and the tag, and `decrypt` checks the tag. -/
structure Aead where
  encrypt : (key nonce header content : Bytes) → Bytes × Bytes
  decrypt : (key nonce header ciphertext mac : Bytes) → Option Bytes

structure Aead.Lawful (aead : Aead) : Prop where
  decrypt_encrypt : ∀ key nonce header content,
    aead.decrypt key nonce header (aead.encrypt key nonce header content).1
      (aead.encrypt key nonce header content).2 = some content
  length_ciphertext : ∀ key nonce header content, (aead.encrypt key nonce header content).1.length = content.length
  length_mac : ∀ key nonce header content, (aead.encrypt key nonce header content).2.length = MAC_SIZE

/-- What a call that takes the length as a `uint32_t` sees of a buffer. -/
def low (buffer : Bytes) : Bytes := buffer.take (buffer.length % 2 ^ 32)

/-- A buffer of zeros after a call has written into it. -/
def filled (length : ℕ) (output : Bytes) : Bytes := output ++ List.replicate (length - output.length) 0

/-- What a platform provides: `E` is what a request for the key depends on, and `K` what is kept of it. -/
structure Implementation (E K : Type) where
  resetKey : K → K
  getKey : E → Version → Bytes → K → Bytes × K
  getMetaData : K → Bytes
  getPreferredVersion : K → Version

structure CryptoSettings (K : Type) where
  lastNonce : ℕ := 0
  keys : K

/-- The value of a `char`. -/
def charValue (charIsSigned : Bool) (b : UInt8) : ℤ := if charIsSigned then b.toInt8.toInt else b.toNat

def metaLength (charIsSigned : Bool) (header : Bytes) : ℕ :=
  ((charValue charIsSigned (header.getD 2 0) + (charValue charIsSigned (header.getD 3 0) >>> (8 : ℕ))) % 2 ^ 16).toNat

/-- The header that a file starts with, unless the metadata is too long. -/
def encryptedHeader (fileVersion : Version) (metadata : Bytes) : Option Bytes :=
  match fileVersion with
  | .NoEncryption => none
  | .EncryptionChachaPolyV1 => some [fileVersion.toByte]
  | .EncryptionChachaPolyV2 =>
    if metadata.length > UINT16_MAX then none
    else some ([fileVersion.toByte, 0, UInt8.ofNat (metadata.length &&& 0xff),
      UInt8.ofNat ((metadata.length >>> 8) &&& 0xff)] ++ metadata)

/-- Reads the header, and returns it with the metadata and with what follows it. -/
def readHeader (charIsSigned : Bool) (fileVersion : Version) (device : Bytes) : Option (Bytes × Bytes × Bytes) :=
  match fileVersion with
  | .NoEncryption => none
  | .EncryptionChachaPolyV1 => some ([fileVersion.toByte], [], device)
  | .EncryptionChachaPolyV2 =>
    let header := fileVersion.toByte :: device.take (ENCRYPTED_V2_HEADER_SIZE - 1)
    let device := device.drop (ENCRYPTED_V2_HEADER_SIZE - 1)
    if header.length ≠ ENCRYPTED_V2_HEADER_SIZE then none
    else
      let metaLength := metaLength charIsSigned header
      let header := header ++ device.take metaLength
      if header.length ≠ metaLength + ENCRYPTED_V2_HEADER_SIZE then none
      else some (header, header.drop ENCRYPTED_V2_HEADER_SIZE, device.drop metaLength)

structure EncryptedFile where
  header : Bytes
  metadata : Bytes
  nonce : Bytes
  mac : Bytes
  ciphertext : Bytes

/-- Reads the parts of an encrypted file after its version. -/
def readParts (charIsSigned : Bool) (fileVersion : Version) (device : Bytes) : Option EncryptedFile :=
  match readHeader charIsSigned fileVersion device with
  | none => none
  | some (header, metadata, device) =>
    let nonce := device.take NONCE_SIZE
    let device := device.drop NONCE_SIZE
    if nonce.length ≠ NONCE_SIZE then none
    else
      let mac := device.take MAC_SIZE
      let ciphertext := device.drop MAC_SIZE
      if mac.length ≠ MAC_SIZE then none
      else if ciphertext.length = 0 then none
      else some { header, metadata, nonce, mac, ciphertext }

namespace CryptoSettings

variable {E K V J : Type} (aead : Aead) (impl : Implementation E K) (json : Json V J) (charIsSigned : Bool)

def readJsonFile (device : Bytes) (map : SettingsMap V) : Bool × SettingsMap V :=
  match json.fromJson device with
  | none => (false, map)
  | some obj => (true, json.insert obj map)

def readEncryptedChachaPolyFile (env : E) (fileVersion : Version) (device : Bytes) (map : SettingsMap V)
    (s : CryptoSettings K) : Bool × SettingsMap V × CryptoSettings K :=
  match readParts charIsSigned fileVersion device with
  | none => (false, map, s)
  | some file =>
    let (key, keys) := impl.getKey env fileVersion file.metadata s.keys
    let s := { s with keys }
    if key = [] ∨ key.length ≠ CRYPTO_SETTINGS_KEY_SIZE then (false, map, s)
    else
      match aead.decrypt key file.nonce file.header (low file.ciphertext) file.mac with
      | none => (false, map, s)
      | some output =>
        match json.fromJson (filled file.ciphertext.length output) with
        | none => (false, map, s)
        | some obj => (true, json.insert obj map, { s with lastNonce := LittleEndian.value (file.nonce.take 8) })

/-- Reads the settings with the instance, if there is one. -/
def readFile (env : E) (device : Bytes) (map : SettingsMap V) (instance? : Option (CryptoSettings K)) :
    Bool × SettingsMap V × Option (CryptoSettings K) :=
  match device with
  | [] => (false, map, instance?)
  | version :: device =>
    let fileVersion := Version.ofByte version
    if fileVersion = some .NoEncryption then
      let (ok, map) := readJsonFile json device map
      (ok, map, instance?)
    else
      match instance?, fileVersion with
      | some s, some fileVersion =>
        let (ok, map, s) := readEncryptedChachaPolyFile aead impl json charIsSigned env fileVersion device map s
        (ok, map, some s)
      | instance?, _ => (false, map, instance?)

def writeJsonFile (device : QIODevice) (map : SettingsMap V) : Bool × QIODevice :=
  device.writeParts [[Version.NoEncryption.toByte], json.toJson (json.object map)]

/-- Takes the next nonce. When there is none left, the key is reset. -/
def increment (s : CryptoSettings K) : CryptoSettings K :=
  let lastNonce := (s.lastNonce + 1) % 2 ^ 64
  if lastNonce = UINT64_MAX then { lastNonce := 0, keys := impl.resetKey s.keys } else { s with lastNonce }

def nonce (s : CryptoSettings K) : Bytes := LittleEndian.bytes 8 s.lastNonce ++ List.replicate (NONCE_SIZE - 8) 0

/-- The key for a write and what is kept of it. -/
def writeKey (env : E) (s : CryptoSettings K) : Bytes × CryptoSettings K :=
  let s := s.increment impl
  let (key, keys) := impl.getKey env (impl.getPreferredVersion s.keys) [] s.keys
  (key, { s with keys })

def writeEncryptedChachaPolyFile (env : E) (device : QIODevice) (map : SettingsMap V) (s : CryptoSettings K) :
    Bool × QIODevice × CryptoSettings K :=
  let content := json.toJson (json.object map)
  let fileVersion := impl.getPreferredVersion (s.increment impl).keys
  let (key, s) := s.writeKey impl env
  if key = [] ∨ key.length ≠ CRYPTO_SETTINGS_KEY_SIZE then (false, device, s)
  else
    match encryptedHeader fileVersion (impl.getMetaData s.keys) with
    | none => (false, device, s)
    | some header =>
      let (ciphertext, mac) := aead.encrypt key s.nonce header (low content)
      let (ok, device) := device.writeParts [header, s.nonce, mac, filled content.length ciphertext]
      (ok, device, s)

/-- Writes the settings with the instance, and in plain without one. -/
def writeFile (env : E) (device : QIODevice) (map : SettingsMap V) (instance? : Option (CryptoSettings K)) :
    Bool × QIODevice × Option (CryptoSettings K) :=
  match instance? with
  | none =>
    let (ok, device) := writeJsonFile json device map
    (ok, device, none)
  | some s =>
    if impl.getPreferredVersion s.keys = .NoEncryption then
      let (ok, device) := writeJsonFile json device map
      (ok, device, some s)
    else
      let (ok, device, s) := writeEncryptedChachaPolyFile aead impl json env device map s
      (ok, device, some s)

lemma length_nonce (s : CryptoSettings K) : s.nonce.length = NONCE_SIZE := by simp [nonce, NONCE_SIZE]

section

variable {aead impl json charIsSigned} {env : E} {fileVersion : Version} {device : Bytes} {map : SettingsMap V}
  {s : CryptoSettings K}

lemma readFile_encrypted (hv : fileVersion ≠ .NoEncryption) :
    let read := readEncryptedChachaPolyFile aead impl json charIsSigned env fileVersion device map s
    readFile aead impl json charIsSigned env (fileVersion.toByte :: device) map (some s) =
      (read.1, read.2.1, some read.2.2) := by
  intro read
  simp only [readFile, Version.ofByte_toByte]
  exact if_neg fun h => hv (Option.some.inj h)

end

/-- A file is read if its parts are there, decrypt to a text and that is one of an object. Otherwise the map and
the nonce stay as they are. -/
lemma readEncryptedChachaPolyFile_cases (env : E) (fileVersion : Version) (device : Bytes) (map : SettingsMap V)
    (s : CryptoSettings K) :
    (∃ keys, (keys = s.keys ∨ ∃ metadata, keys = (impl.getKey env fileVersion metadata s.keys).2) ∧
      readEncryptedChachaPolyFile aead impl json charIsSigned env fileVersion device map s =
        (false, map, { s with keys })) ∨
    ∃ file output obj, readParts charIsSigned fileVersion device = some file ∧
      (impl.getKey env fileVersion file.metadata s.keys).1 ≠ [] ∧
      aead.decrypt (impl.getKey env fileVersion file.metadata s.keys).1 file.nonce file.header (low file.ciphertext)
        file.mac = some output ∧
      json.fromJson (filled file.ciphertext.length output) = some obj ∧
      readEncryptedChachaPolyFile aead impl json charIsSigned env fileVersion device map s =
        (true, json.insert obj map,
          ⟨LittleEndian.value (file.nonce.take 8), (impl.getKey env fileVersion file.metadata s.keys).2⟩) := by
  rw [readEncryptedChachaPolyFile]
  cases hp : readParts charIsSigned fileVersion device with
  | none => exact .inl ⟨s.keys, .inl rfl, rfl⟩
  | some file =>
    simp only
    split_ifs with hk
    · exact .inl ⟨_, .inr ⟨_, rfl⟩, rfl⟩
    · cases hd : aead.decrypt (impl.getKey env fileVersion file.metadata s.keys).1 file.nonce file.header
        (low file.ciphertext) file.mac with
      | none => exact .inl ⟨_, .inr ⟨_, rfl⟩, rfl⟩
      | some output =>
        simp only
        cases ho : json.fromJson (filled file.ciphertext.length output) with
        | none => exact .inl ⟨_, .inr ⟨_, rfl⟩, rfl⟩
        | some obj => exact .inr ⟨file, output, obj, rfl, fun h => hk (.inl h), hd, ho, rfl⟩

lemma writeEncryptedChachaPolyFile_cases (env : E) (device : QIODevice) (map : SettingsMap V) (s : CryptoSettings K) :
    ∃ ok device', writeEncryptedChachaPolyFile aead impl json env device map s =
      (ok, device', (s.writeKey impl env).2) ∧ (ok = true → (s.writeKey impl env).1 ≠ []) := by
  rw [writeEncryptedChachaPolyFile]
  dsimp only
  split_ifs with hk
  · exact ⟨false, device, rfl, fun h => Bool.noConfusion h⟩
  · cases encryptedHeader (impl.getPreferredVersion (s.increment impl).keys)
      (impl.getMetaData (s.writeKey impl env).2.keys) with
    | none => exact ⟨false, device, rfl, fun h => Bool.noConfusion h⟩
    | some header => exact ⟨_, _, rfl, fun _ he => hk (.inl he)⟩

end CryptoSettings

end VpnClient.Settings
