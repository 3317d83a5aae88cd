import VpnClient.Settings.CryptoSettings

/-! What `readFile` makes of what `writeFile` has written. -/

namespace VpnClient.Settings

open Library

/-- The metadata shorter than this has the length that is read back for it. -/
def metaLimit (charIsSigned : Bool) : ℕ := if charIsSigned then 128 else 256

/-- The metadata that goes into a file. -/
def fileMetadata (fileVersion : Version) (metadata : Bytes) : Bytes :=
  match fileVersion with
  | .EncryptionChachaPolyV2 => metadata
  | _ => []

section Header

variable {charIsSigned : Bool} {fileVersion : Version} {metadata header device : Bytes}

lemma charValue_ofNat (charIsSigned : Bool) {n : ℕ} (h : n < 256) :
    charValue charIsSigned (UInt8.ofNat n) = if charIsSigned ∧ 128 ≤ n then (n : ℤ) - 256 else n := by
  have hn : (UInt8.ofNat n).toNat = n := by simpa using h
  cases charIsSigned with
  | false => simp [charValue, hn]
  | true =>
    have hb : (UInt8.ofNat n).toInt8.toInt = (UInt8.ofNat n).toBitVec.toInt := rfl
    simp only [charValue, if_true, hb, BitVec.toInt_eq_toNat_cond, UInt8.toNat_toBitVec, hn, true_and]
    split_ifs <;> omega

lemma charValue_ofNat_shiftRight (charIsSigned : Bool) {n : ℕ} (h : n < 256) :
    charValue charIsSigned (UInt8.ofNat n) >>> (8 : ℕ) = if charIsSigned ∧ 128 ≤ n then -1 else 0 := by
  rw [charValue_ofNat charIsSigned h, Int.shiftRight_eq_div_pow]
  split_ifs <;> omega

lemma metaLength_eq_iff (version reserved : UInt8) {n : ℕ} (h : n ≤ UINT16_MAX) :
    metaLength charIsSigned [version, reserved, UInt8.ofNat (n &&& 0xff), UInt8.ofNat ((n >>> 8) &&& 0xff)] = n ↔
      n < metaLimit charIsSigned := by
  have hl : n &&& 0xff = n % 256 := Nat.and_two_pow_sub_one_eq_mod n 8
  have hh : (n >>> 8) &&& 0xff = n / 256 := by
    rw [Nat.shiftRight_eq_div_pow]
    exact (Nat.and_two_pow_sub_one_eq_mod _ 8).trans (Nat.mod_eq_of_lt (by unfold UINT16_MAX at h; omega))
  have hb : n / 256 < 256 := by
    unfold UINT16_MAX at h
    omega
  have hn := Nat.div_add_mod n 256
  have ht (z : ℤ) : (z % 2 ^ 16).toNat = n ↔ z % 2 ^ 16 = n := by
    have := Int.emod_nonneg z (by decide : (2 ^ 16 : ℤ) ≠ 0)
    omega
  rw [metaLength, List.getD_cons_succ, List.getD_cons_succ, List.getD_cons_zero, List.getD_cons_succ,
    List.getD_cons_succ, List.getD_cons_succ, List.getD_cons_zero, hl, hh, ht,
    charValue_ofNat charIsSigned (Nat.mod_lt n (by decide)), charValue_ofNat_shiftRight charIsSigned hb]
  generalize n / 256 = high at *
  generalize hm : n % 256 = low at *
  cases charIsSigned with
  | false =>
    simp only [Bool.false_eq_true, false_and, if_false, metaLimit]
    omega
  | true =>
    simp only [true_and, if_true, metaLimit]
    split_ifs <;> omega

lemma exists_encryptedHeader (h : fileVersion ≠ .NoEncryption)
    (hm : fileVersion = .EncryptionChachaPolyV2 → metadata.length ≤ UINT16_MAX) :
    ∃ header, encryptedHeader fileVersion metadata = some (fileVersion.toByte :: header) := by
  cases fileVersion with
  | NoEncryption => exact (h rfl).elim
  | EncryptionChachaPolyV1 => exact ⟨[], rfl⟩
  | EncryptionChachaPolyV2 =>
    rw [encryptedHeader, if_neg (Nat.not_lt.mpr (hm rfl))]
    exact ⟨_, rfl⟩

lemma readHeader_encryptedHeader (h : encryptedHeader fileVersion metadata = some (fileVersion.toByte :: header))
    (hl : fileVersion = .EncryptionChachaPolyV2 → metadata.length < metaLimit charIsSigned) :
    readHeader charIsSigned fileVersion (header ++ device) =
      some (fileVersion.toByte :: header, fileMetadata fileVersion metadata, device) := by
  cases fileVersion with
  | NoEncryption => cases h
  | EncryptionChachaPolyV1 =>
    cases h
    rfl
  | EncryptionChachaPolyV2 =>
    rw [encryptedHeader] at h
    split_ifs at h with hm
    cases h
    have hn := (metaLength_eq_iff (Version.toByte .EncryptionChachaPolyV2) 0 (Nat.not_lt.mp hm)).mpr (hl rfl)
    generalize UInt8.ofNat (metadata.length &&& 0xff) = lowByte at hn ⊢
    generalize UInt8.ofNat ((metadata.length >>> 8) &&& 0xff) = highByte at hn ⊢
    simp [readHeader, ENCRYPTED_V2_HEADER_SIZE, hn, fileMetadata]

lemma readParts_encryptedHeader {nonce mac ciphertext : Bytes}
    (h : encryptedHeader fileVersion metadata = some (fileVersion.toByte :: header))
    (hl : fileVersion = .EncryptionChachaPolyV2 → metadata.length < metaLimit charIsSigned)
    (hn : nonce.length = NONCE_SIZE) (hm : mac.length = MAC_SIZE) (hc : ciphertext ≠ []) :
    readParts charIsSigned fileVersion (header ++ (nonce ++ (mac ++ ciphertext))) =
      some ⟨fileVersion.toByte :: header, fileMetadata fileVersion metadata, nonce, mac, ciphertext⟩ := by
  rw [readParts, readHeader_encryptedHeader h hl]
  simp [← hn, ← hm, hc]

lemma length_readHeader {metadata' device' : Bytes}
    (hr : readHeader charIsSigned .EncryptionChachaPolyV2 device = some (header, metadata', device')) :
    header.length = metaLength charIsSigned (Version.toByte .EncryptionChachaPolyV2 :: device.take 3) +
      ENCRYPTED_V2_HEADER_SIZE := by
  simp only [readHeader] at hr
  split_ifs at hr with h₁ h₂
  obtain ⟨rfl, -⟩ := Prod.mk.inj (Option.some.inj hr)
  exact not_not.mp h₂

lemma readHeader_ne (h : encryptedHeader .EncryptionChachaPolyV2 metadata =
      some (Version.toByte .EncryptionChachaPolyV2 :: header))
    (hl : metaLimit charIsSigned ≤ metadata.length) {header' metadata' device' : Bytes}
    (hr : readHeader charIsSigned .EncryptionChachaPolyV2 (header ++ device) = some (header', metadata', device')) :
    header' ≠ Version.toByte .EncryptionChachaPolyV2 :: header := by
  intro he
  have hr' := length_readHeader hr
  rw [encryptedHeader] at h
  split_ifs at h with hm
  cases h
  refine Nat.not_lt.mpr hl ((metaLength_eq_iff _ _ (Nat.not_lt.mp hm)).mp (Nat.add_right_cancel (hr'.symm.trans ?_)))
  rw [he]
  simp [ENCRYPTED_V2_HEADER_SIZE]

end Header

section Buffers

variable {content output : Bytes}

lemma low_eq (h : content.length < 2 ^ 32) : low content = content := by
  rw [low, Nat.mod_eq_of_lt h, List.take_length]

lemma filled_eq : filled output.length output = output := by simp [filled]

lemma length_low : (low content).length = content.length % 2 ^ 32 := by
  rw [low, List.length_take]
  exact Nat.min_eq_left (Nat.mod_le _ _)

lemma length_filled (h : output.length ≤ content.length) : (filled content.length output).length = content.length := by
  simp [filled, h]

lemma low_filled (h : output.length = (low content).length) : low (filled content.length output) = output := by
  rw [length_low] at h
  have hl := length_filled (h.le.trans (Nat.mod_le _ _))
  rw [low, hl, ← h, filled, List.take_left]

lemma filled_low (h : 2 ^ 32 ≤ content.length) : ∃ text, filled content.length (low content) = text ++ [0] := by
  have hm := Nat.mod_lt content.length (by decide : 0 < 2 ^ 32)
  obtain ⟨n, hn⟩ := Nat.exists_eq_succ_of_ne_zero (n := content.length - (low content).length)
    (by rw [length_low]; omega)
  exact ⟨low content ++ List.replicate n 0, by rw [filled, hn, List.replicate_succ', List.append_assoc]⟩

end Buffers

namespace CryptoSettings

section

variable {E K V J : Type} {aead : Aead} {impl : Implementation E K} {json : Json V J} {charIsSigned : Bool}
  {env : E} {map : SettingsMap V} {device : Bytes} {fileVersion : Version} {s : CryptoSettings K}

lemma readFile_false {instance? : Option (CryptoSettings K)}
    (h : (readFile aead impl json charIsSigned env device map instance?).1 = false) :
    (readFile aead impl json charIsSigned env device map instance?).2.1 = map ∧
      (readFile aead impl json charIsSigned env device map instance?).2.2.map lastNonce = instance?.map lastNonce := by
  cases device with
  | nil => exact ⟨rfl, rfl⟩
  | cons version device =>
    simp only [readFile] at h ⊢
    split_ifs at h ⊢ with hv
    · rw [readJsonFile] at h ⊢
      cases ho : json.fromJson device with
      | none => exact ⟨rfl, rfl⟩
      | some obj =>
        rw [ho] at h
        cases h
    · cases instance? with
      | none => exact ⟨rfl, rfl⟩
      | some s =>
        cases hf : Version.ofByte version with
        | none => exact ⟨rfl, rfl⟩
        | some fileVersion =>
          rw [hf] at h
          obtain ⟨keys, -, hr⟩ | ⟨file, output, obj, -, -, -, -, hr⟩ :=
            readEncryptedChachaPolyFile_cases aead impl json charIsSigned env fileVersion device map s
          · simp [hr]
          · simp only [hr] at h
            cases h

lemma readHeader_of_readParts {file : EncryptedFile} (h : readParts charIsSigned fileVersion device = some file) :
    ∃ device', readHeader charIsSigned fileVersion device = some (file.header, file.metadata, device') := by
  unfold readParts at h
  cases hr : readHeader charIsSigned fileVersion device with
  | none =>
    rw [hr] at h
    cases h
  | some parts =>
    obtain ⟨header, metadata, device'⟩ := parts
    simp only [hr] at h
    split_ifs at h
    cases h
    exact ⟨device', rfl⟩

lemma readEncryptedChachaPolyFile_written (json : Json V J) (map : SettingsMap V)
    {metadata header nonce content key : Bytes} (ha : aead.Lawful)
    (h : encryptedHeader fileVersion metadata = some (fileVersion.toByte :: header))
    (hl : fileVersion = .EncryptionChachaPolyV2 → metadata.length < metaLimit charIsSigned)
    (hn : nonce.length = NONCE_SIZE) (hc : content ≠ []) (hk : key.length = CRYPTO_SETTINGS_KEY_SIZE)
    (hs : (impl.getKey env fileVersion (fileMetadata fileVersion metadata) s.keys).1 = key) :
    let encrypted := aead.encrypt key nonce (fileVersion.toByte :: header) (low content)
    let r := readEncryptedChachaPolyFile aead impl json charIsSigned env fileVersion
      (header ++ (nonce ++ (encrypted.2 ++ filled content.length encrypted.1))) map s
    let obj := json.fromJson (filled content.length (low content))
    r.1 = obj.isSome ∧ r.2.1 = obj.elim map (json.insert · map) := by
  intro encrypted r obj
  have hle : encrypted.1.length = (low content).length := ha.length_ciphertext ..
  have hlf : (filled content.length encrypted.1).length = content.length :=
    length_filled (by rw [hle, length_low]; exact Nat.mod_le _ _)
  have hf : filled content.length encrypted.1 ≠ [] :=
    fun hf => hc (List.length_eq_zero_iff.mp (hlf.symm.trans (List.length_eq_zero_iff.mpr hf)))
  have hp := readParts_encryptedHeader h hl hn (ha.length_mac key nonce (fileVersion.toByte :: header) (low content)) hf
  have hk' : ¬(key = [] ∨ key.length ≠ CRYPTO_SETTINGS_KEY_SIZE) := by
    rintro (rfl | hne)
    · cases hk
    · exact hne hk
  have hr : r = readEncryptedChachaPolyFile aead impl json charIsSigned env fileVersion
      (header ++ (nonce ++ (encrypted.2 ++ filled content.length encrypted.1))) map s := rfl
  rw [readEncryptedChachaPolyFile, hp] at hr
  simp only [hs, hk', if_false, low_filled hle, hlf, encrypted, ha.decrypt_encrypt] at hr
  cases ho : json.fromJson (filled content.length (low content)) with
  | none =>
    rw [ho] at hr
    simp [hr, obj, ho]
  | some o =>
    rw [ho] at hr
    simp [hr, obj, ho]

end

/-- The values of a map survive the conversion to JSON, and the text of their object is read as that object. An
empty text, or one with a zero at its end, is not the text of an object. -/
structure Survives {V J : Type} (json : Json V J) (map : SettingsMap V) : Prop where
  value : ∀ key value, map key = some value → json.toVariant (json.fromVariant value) = value
  object : json.fromJson (json.toJson (json.object map)) = some (json.object map)
  empty : json.fromJson [] = none
  zero : ∀ text, json.fromJson (text ++ [0]) = none

section

variable {E K V J : Type} (impl : Implementation E K) (json : Json V J) (charIsSigned : Bool) (env env' : E)
  (map : SettingsMap V) (writer reader : CryptoSettings K)

/-- The metadata that a write puts into the file. -/
def writtenMetadata : Bytes := impl.getMetaData (writer.writeKey impl env).2.keys

/-- The writer has a key and accepts its metadata, and the reader gets the same key for them. -/
structure SameKey : Prop where
  length : (writer.writeKey impl env).1.length = CRYPTO_SETTINGS_KEY_SIZE
  accepted : impl.getPreferredVersion writer.keys = .EncryptionChachaPolyV2 →
    (writtenMetadata impl env writer).length ≤ UINT16_MAX
  same : (impl.getKey env' (impl.getPreferredVersion writer.keys)
    (fileMetadata (impl.getPreferredVersion writer.keys) (writtenMetadata impl env writer)) reader.keys).1 =
      (writer.writeKey impl env).1

/-- The content fits into a length of 32 bits, and the metadata is shorter than the limit. -/
def Decodable : Prop :=
  impl.getPreferredVersion writer.keys ≠ .NoEncryption →
    (json.toJson (json.object map)).length < 2 ^ 32 ∧
      (impl.getPreferredVersion writer.keys = .EncryptionChachaPolyV2 →
        (writtenMetadata impl env writer).length < metaLimit charIsSigned)

/-- The file is written, and reading it yields the map. -/
def RoundTrips (aead : Aead) : Prop :=
  let written := writeFile aead impl json env {} map (some writer)
  let read := readFile aead impl json charIsSigned env' written.2.1.written (fun _ => none) (some reader)
  written.1 = true ∧ read.1 = true ∧ read.2.1 = map

end

section

variable {E K V J : Type} {aead : Aead} {impl : Implementation E K} {json : Json V J} {charIsSigned : Bool}
  {env env' : E} {map : SettingsMap V} {writer reader : CryptoSettings K}

lemma insert_object (h : Survives json map) : json.insert (json.object map) (fun _ => none) = map := by
  funext key
  cases hm : map key with
  | none => simp [Json.insert, Json.object, hm]
  | some value => simp [Json.insert, Json.object, hm, h.value key value hm]

lemma content_ne_nil (h : Survives json map) : json.toJson (json.object map) ≠ [] := by
  intro he
  have ho := h.object
  rw [he, h.empty] at ho
  cases ho

lemma roundTrips_plain (hv : impl.getPreferredVersion writer.keys = .NoEncryption) (hs : Survives json map) :
    RoundTrips impl json charIsSigned env env' map writer reader aead := by
  have hw : (writeJsonFile json {} map) = (true, { written := 0 :: json.toJson (json.object map) }) := by
    rw [writeJsonFile, QIODevice.writeParts_unlimited rfl]
    simp [Version.toByte]
  refine ⟨?_, ?_, ?_⟩ <;>
    simp [writeFile, hv, hw, readFile, Version.ofByte, readJsonFile, hs.object, insert_object hs]

lemma writeFile_encrypted (json : Json V J) (map : SettingsMap V)
    (hr : ∀ keys, impl.getPreferredVersion (impl.resetKey keys) = impl.getPreferredVersion keys)
    (hv : impl.getPreferredVersion writer.keys ≠ .NoEncryption) (hk : SameKey impl env env' writer reader) :
    ∃ header, encryptedHeader (impl.getPreferredVersion writer.keys) (writtenMetadata impl env writer) =
        some ((impl.getPreferredVersion writer.keys).toByte :: header) ∧
      ∀ aead : Aead,
        let content := json.toJson (json.object map)
        let s := (writer.writeKey impl env).2
        let encrypted := aead.encrypt (writer.writeKey impl env).1 s.nonce
          ((impl.getPreferredVersion writer.keys).toByte :: header) (low content)
        writeFile aead impl json env {} map (some writer) =
          (true, { written := (impl.getPreferredVersion writer.keys).toByte ::
            (header ++ (s.nonce ++ (encrypted.2 ++ filled content.length encrypted.1))) }, some s) := by
  obtain ⟨header, hh⟩ := exists_encryptedHeader hv hk.accepted
  refine ⟨header, hh, ?_⟩
  intro aead content s encrypted
  have hi : impl.getPreferredVersion (writer.increment impl).keys = impl.getPreferredVersion writer.keys := by
    unfold increment
    dsimp only
    split_ifs
    · exact hr _
    · rfl
  have hk' : ¬((writer.writeKey impl env).1 = [] ∨ (writer.writeKey impl env).1.length ≠ CRYPTO_SETTINGS_KEY_SIZE) := by
    rintro (he | hne)
    · have := hk.length
      rw [he] at this
      cases this
    · exact hne hk.length
  have hw : encryptedHeader (impl.getPreferredVersion writer.keys)
      (impl.getMetaData (writer.writeKey impl env).2.keys) = some _ := hh
  simp only [writeFile, hv, if_false, writeEncryptedChachaPolyFile, hi, hk', hw,
    QIODevice.writeParts_unlimited]
  simp [encrypted, content, s]

lemma roundTrips_iff_of_short
    (hr : ∀ keys, impl.getPreferredVersion (impl.resetKey keys) = impl.getPreferredVersion keys)
    (hv : impl.getPreferredVersion writer.keys ≠ .NoEncryption) (hs : Survives json map)
    (hk : SameKey impl env env' writer reader)
    (hl : impl.getPreferredVersion writer.keys = .EncryptionChachaPolyV2 →
      (writtenMetadata impl env writer).length < metaLimit charIsSigned) (ha : aead.Lawful) :
    RoundTrips impl json charIsSigned env env' map writer reader aead ↔
      (json.toJson (json.object map)).length < 2 ^ 32 := by
  obtain ⟨header, hh, hw⟩ := writeFile_encrypted json map hr hv hk
  obtain ⟨hb, hm⟩ := readEncryptedChachaPolyFile_written json (fun _ => none) ha hh hl
    (length_nonce (writer.writeKey impl env).2) (content_ne_nil hs) hk.length hk.same
  have hread : RoundTrips impl json charIsSigned env env' map writer reader aead ↔
      (json.fromJson (filled (json.toJson (json.object map)).length (low (json.toJson (json.object map))))).isSome ∧
        (json.fromJson (filled (json.toJson (json.object map)).length (low (json.toJson (json.object map))))).elim
          (fun _ => none) (json.insert · fun _ => none) = map := by
    simp only [RoundTrips, hw aead, readFile_encrypted hv, hb, hm, true_and]
  rw [hread]
  by_cases hc : (json.toJson (json.object map)).length < 2 ^ 32
  · rw [low_eq hc, filled_eq, hs.object]
    exact iff_of_true ⟨rfl, insert_object hs⟩ hc
  · obtain ⟨text, ht⟩ := filled_low (Nat.not_lt.mp hc)
    rw [ht, hs.zero]
    exact iff_of_false (fun h => Bool.noConfusion h.1) hc

end

/-- A cipher that hides nothing and whose tag depends on the header only. -/
def tagged (tag : Bytes → Bytes) : Aead where
  encrypt _ _ header content := (content, tag header)
  decrypt _ _ header ciphertext mac := if mac = tag header then some ciphertext else none

lemma tagged_lawful {tag : Bytes → Bytes} (h : ∀ header, (tag header).length = MAC_SIZE) : (tagged tag).Lawful :=
  ⟨fun _ _ _ _ => if_pos rfl, fun _ _ _ _ => rfl, fun _ _ header _ => h header⟩

section

variable {E K V J : Type} {impl : Implementation E K} {json : Json V J} {charIsSigned : Bool}
  {env env' : E} {map : SettingsMap V} {writer reader : CryptoSettings K}

lemma exists_not_roundTrips (json : Json V J) (map : SettingsMap V)
    (hr : ∀ keys, impl.getPreferredVersion (impl.resetKey keys) = impl.getPreferredVersion keys)
    (hv : impl.getPreferredVersion writer.keys = .EncryptionChachaPolyV2)
    (hk : SameKey impl env env' writer reader)
    (hl : metaLimit charIsSigned ≤ (writtenMetadata impl env writer).length) :
    ∃ aead : Aead, aead.Lawful ∧ ¬RoundTrips impl json charIsSigned env env' map writer reader aead := by
  have hv' : impl.getPreferredVersion writer.keys ≠ .NoEncryption := by
    rw [hv]
    exact Version.noConfusion
  obtain ⟨header, hh, hw⟩ := writeFile_encrypted json map hr hv' hk
  rw [hv] at hh hw
  let content := json.toJson (json.object map)
  let zeros : Bytes := List.replicate MAC_SIZE 0
  let ones : Bytes := List.replicate MAC_SIZE 1
  let h₀ : Bytes := Version.toByte .EncryptionChachaPolyV2 :: header
  let device : Bytes :=
    header ++ ((writer.writeKey impl env).2.nonce ++ (zeros ++ filled content.length (low content)))
  let parts := readParts charIsSigned .EncryptionChachaPolyV2 device
  let other : Bytes := if parts.map EncryptedFile.mac = some zeros then ones else zeros
  let tag : Bytes → Bytes := fun h => if h = h₀ then zeros else other
  have ht : ∀ h, (tag h).length = MAC_SIZE := by
    intro h
    simp only [tag, other]
    split_ifs <;> exact List.length_replicate
  refine ⟨tagged tag, tagged_lawful ht, ?_⟩
  rintro ⟨-, hread, -⟩
  have ht₀ : tag h₀ = zeros := if_pos rfl
  have hf : (writeFile (tagged tag) impl json env {} map (some writer)).2.1.written =
      Version.toByte .EncryptionChachaPolyV2 :: device := by
    rw [hw (tagged tag)]
    simp only [tagged, device, content, h₀] at ht₀ ⊢
    rw [ht₀]
  rw [hf, readFile_encrypted Version.noConfusion] at hread
  obtain ⟨keys, -, hc⟩ | ⟨file, output, obj, hp, -, hd, -, -⟩ := readEncryptedChachaPolyFile_cases (tagged tag) impl json
    charIsSigned env' .EncryptionChachaPolyV2 device (fun _ => none) reader
  · rw [hc] at hread
    cases hread
  · obtain ⟨device', hr'⟩ := readHeader_of_readParts hp
    have hne : file.header ≠ h₀ := readHeader_ne hh hl hr'
    have hparts : parts = some file := hp
    simp only [tagged, tag, hne, if_false, other, hparts, Option.map_some, Option.some.injEq] at hd
    split_ifs at hd with h₁ h₂
    exact absurd (h₁.symm.trans h₂) (by decide)

/-- Under any cipher the settings are read back as they were written exactly if the content fits into a length of
32 bits and the metadata is short enough. Whatever a file contains, the map and the nonce stay as they are if it is
not read. -/
theorem readFile_writeFile_iff
    (hr : ∀ keys, impl.getPreferredVersion (impl.resetKey keys) = impl.getPreferredVersion keys)
    (hs : Survives json map)
    (hk : impl.getPreferredVersion writer.keys ≠ .NoEncryption → SameKey impl env env' writer reader) :
    ((∀ aead : Aead, aead.Lawful → RoundTrips impl json charIsSigned env env' map writer reader aead) ↔
      Decodable impl json charIsSigned env map writer) ∧
    ∀ (aead : Aead) (env : E) (device : Bytes) (map : SettingsMap V) (instance? : Option (CryptoSettings K)),
      let read := readFile aead impl json charIsSigned env device map instance?
      read.1 = false → read.2.1 = map ∧ read.2.2.map lastNonce = instance?.map lastNonce := by
  refine ⟨⟨?_, ?_⟩, fun aead env device map instance? h => readFile_false h⟩
  · intro h hv
    have hl : impl.getPreferredVersion writer.keys = .EncryptionChachaPolyV2 →
        (writtenMetadata impl env writer).length < metaLimit charIsSigned := by
      intro hv₂
      by_contra hl
      obtain ⟨aead, ha, hn⟩ := exists_not_roundTrips json map hr hv₂ (hk hv) (Nat.not_lt.mp hl)
      exact hn (h aead ha)
    have ha : (tagged fun _ => List.replicate MAC_SIZE 0).Lawful := tagged_lawful fun _ => List.length_replicate
    exact ⟨(roundTrips_iff_of_short hr hv hs (hk hv) hl ha).mp (h _ ha), hl⟩
  · intro hd aead ha
    by_cases hv : impl.getPreferredVersion writer.keys = .NoEncryption
    · exact roundTrips_plain hv hs
    · exact (roundTrips_iff_of_short hr hv hs (hk hv) (hd hv).2 ha).mpr (hd hv).1

end

/-- A key of zeros that comes with the metadata. -/
def describedImplementation (metadata : Bytes) : Implementation Unit Unit where
  resetKey := id
  getKey _ _ _ keys := (List.replicate CRYPTO_SETTINGS_KEY_SIZE 0, keys)
  getMetaData _ := metadata
  getPreferredVersion _ := .EncryptionChachaPolyV2

lemma sameKey_describedImplementation (metadata : Bytes) (h : metadata.length ≤ UINT16_MAX) :
    SameKey (describedImplementation metadata) () () { lastNonce := 3, keys := () } { keys := () } :=
  ⟨rfl, fun _ => h, rfl⟩

/-- Two settings with values. -/
def flags : SettingsMap Bool :=
  fun key => [("captivePortalAlert", true), ("connectionChangeNotification", false)].lookup key

/-- The compact text of an object of flags. -/
def flagsText (obj : QJsonObject Bool) : Bytes :=
  let member (name : String) (value : Bool) : Bytes :=
    ("\"" ++ name ++ "\":" ++ toString value).toList.map fun c => UInt8.ofNat c.toNat
  let names := ["captivePortalAlert", "connectionChangeNotification"]
  let members := names.filterMap fun name => (obj name).map (member name)
  0x7b :: ((members.intersperse [0x2c]).flatten ++ [0x7d])

def flagsJson : Json Bool Bool where
  fromVariant := id
  toVariant := id
  toJson := flagsText
  fromJson text := if text = flagsText flags then some flags else none

lemma fromJson_ne {text : Bytes} (h : text ≠ flagsText flags) : flagsJson.fromJson text = none := by
  simp only [flagsJson, h, if_false]

lemma survives_flags : Survives flagsJson flags where
  value _ _ _ := rfl
  object := by
    have ho : flagsJson.object flags = flags := funext fun key => Option.map_id'
    have ht : flagsJson.fromJson (flagsText flags) = some flags := by
      simp only [flagsJson, if_true]
    rw [ho]
    exact ht
  empty := fromJson_ne (List.cons_ne_nil _ _).symm
  zero text := by
    apply fromJson_ne
    intro h
    have hl := congrArg List.getLast? h
    rw [flagsText, ← List.cons_append, List.getLast?_concat, List.getLast?_concat] at hl
    exact absurd (Option.some.inj hl) (by decide)

theorem readFile_writeFile_iff_flags :
    ((∀ aead : Aead, aead.Lawful → RoundTrips (describedImplementation (List.replicate 100 0x61)) flagsJson true () ()
      flags { lastNonce := 3, keys := () } { keys := () } aead) ↔
    Decodable (describedImplementation (List.replicate 100 0x61)) flagsJson true () flags
      { lastNonce := 3, keys := () }) ∧
    Decodable (describedImplementation (List.replicate 100 0x61)) flagsJson true () flags
      { lastNonce := 3, keys := () } := by
  refine ⟨(readFile_writeFile_iff (fun _ => rfl) survives_flags
    fun _ => sameKey_describedImplementation _ ?_).1, fun _ => ⟨by decide +kernel, fun _ => by decide +kernel⟩⟩
  rw [List.length_replicate]
  decide

/-- Metadata of 128 bytes has a length that is negative as a `char`. -/
theorem readFile_writeFile_signed :
    let impl := describedImplementation (List.replicate 128 0x61)
    let aead := tagged fun _ => List.replicate MAC_SIZE 0
    aead.Lawful ∧ Survives flagsJson flags ∧
      SameKey impl () () { lastNonce := 3, keys := () } { keys := () } ∧
      ¬RoundTrips impl flagsJson true () () flags { lastNonce := 3, keys := () } { keys := () } aead :=
  ⟨tagged_lawful fun _ => List.length_replicate, survives_flags,
    sameKey_describedImplementation _ (by rw [List.length_replicate]; decide),
    fun h => absurd h.2.1 (by decide +kernel)⟩

end CryptoSettings

end VpnClient.Settings
