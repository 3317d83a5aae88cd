import VpnClient.Library.Runs
import VpnClient.Settings.XdgCryptoSettings

/-! The nonces under which a sequence of processes encrypts the settings. -/

namespace VpnClient.Settings

open Library Library.Runs

/-- A successful encrypted write. -/
structure Write where
  key : Bytes
  nonce : Bytes
  content : Bytes
  deriving DecidableEq

def Write.counter (w : Write) : ℕ := LittleEndian.value (w.nonce.take 8)

/-- The writes so far, and whether the key comes from a file that could not be read, although it has been used
with a nonce that is still to come. -/
structure Writes where
  log : List Write := []
  adopted : Bool := false

inductive Event (V : Type) where
  | readFile (request : SecretRequest) (device : Bytes)
  | writeFile (request : SecretRequest) (limits : List ℕ) (map : SettingsMap V)
  | handleResponse (code : ℕ) (token? : Option String)
  | restart (supported : Bool)

namespace XdgCryptoSettings

open CryptoSettings

variable {V J M : Type} (aead : Aead) (hkdf : String → Bytes → Bytes) (metadataJson : Json String M) (json : Json V J)
  (charIsSigned : Bool)

def start (supported : Bool) : CryptoSettings XdgCryptoSettings := { keys := create supported }

def read (request : SecretRequest) (device : Bytes) (s : CryptoSettings XdgCryptoSettings) :
    Bool × CryptoSettings XdgCryptoSettings :=
  let (ok, _, instance?) := CryptoSettings.readFile aead (implementation hkdf metadataJson) json charIsSigned request
    device (fun _ => none) (some s)
  (ok, instance?.getD s)

def write (request : SecretRequest) (limits : List ℕ) (map : SettingsMap V) (s : CryptoSettings XdgCryptoSettings) :
    Bool × CryptoSettings XdgCryptoSettings :=
  let (ok, _, instance?) := CryptoSettings.writeFile aead (implementation hkdf metadataJson) json request { limits } map
    (some s)
  (ok, instance?.getD s)

def step (s : CryptoSettings XdgCryptoSettings) : Event V → CryptoSettings XdgCryptoSettings
  | .readFile request device => (read aead hkdf metadataJson json charIsSigned request device s).2
  | .writeFile request limits map => (write aead hkdf metadataJson json request limits map s).2
  | .handleResponse code token? => { s with keys := s.keys.handleResponse code token? }
  | .restart supported => start supported

/-- The key is taken over from a file, and a write under it has a nonce that is still to come. -/
def Adopts (s s' : CryptoSettings XdgCryptoSettings) (log : List Write) : Prop :=
  s.keys.key = [] ∧ s'.keys.key ≠ [] ∧ ∃ w ∈ log, w.key = s'.keys.derivedKey hkdf ∧ s'.lastNonce < w.counter

instance (s s' : CryptoSettings XdgCryptoSettings) (log : List Write) : Decidable (Adopts hkdf s s' log) :=
  inferInstanceAs (Decidable (_ ∧ _ ∧ _))

def observe (s : CryptoSettings XdgCryptoSettings) (event : Event V) (m : Writes) : Writes :=
  match event with
  | .readFile request device =>
    let (ok, s') := read aead hkdf metadataJson json charIsSigned request device s
    if ok then { m with adopted := m.adopted && device.head? == some Version.NoEncryption.toByte }
    else { m with adopted := m.adopted || Adopts hkdf s s' m.log }
  | .writeFile request limits map =>
    let (ok, _) := write aead hkdf metadataJson json request limits map s
    let (key, s') := s.writeKey (implementation hkdf metadataJson) request
    if ok ∧ s.keys.version ≠ .NoEncryption then
      { m with log := m.log ++ [⟨key, s'.nonce, json.toJson (json.object map)⟩] }
    else m
  | .handleResponse _ _ => m
  | .restart _ => { m with adopted := false }

/-- What decrypts is what the last write has encrypted. -/
def Authentic (p : CryptoSettings XdgCryptoSettings × Writes) : Event V → Prop
  | .readFile request device => ∀ fileVersion file output,
    device.head? = some (Version.toByte fileVersion) → readParts charIsSigned fileVersion device.tail = some file →
    let key := (getKey hkdf metadataJson request fileVersion file.metadata p.1.keys).1
    aead.decrypt key file.nonce file.header (low file.ciphertext) file.mac = some output →
      ∃ w, p.2.log.getLast? = some w ∧ w.key = key ∧ w.nonce = file.nonce
  | _ => True

/-- A new salt gives a new key. -/
def FreshSalt (p : CryptoSettings XdgCryptoSettings × Writes) : Event V → Prop
  | .writeFile request _ _ => ∀ secret, request.secret = some secret →
    ∀ w ∈ p.2.log, w.key ≠ hkdf request.randomSalt secret
  | _ => True

/-- Nothing is encrypted with a key from a file that could not be read if that has been used with a nonce that is
still to come. -/
def NotAdopted (p : CryptoSettings XdgCryptoSettings × Writes) : Event V → Prop
  | .writeFile _ _ _ => p.1.keys.version = .NoEncryption ∨ p.2.adopted = false
  | _ => True

/-- The nonces under a key increase, and the last one is that of the counter or smaller while the key is in use. -/
structure Valid (p : CryptoSettings XdgCryptoSettings × Writes) : Prop where
  salted : p.1.keys.key = [] → p.1.keys.salt = ""
  counted : p.1.lastNonce < UINT64_MAX
  logged : ∀ w ∈ p.2.log, w.counter < UINT64_MAX
  increasing : p.2.log.Pairwise fun a b => a.key = b.key → a.counter < b.counter
  current : p.2.adopted = false → p.1.keys.key ≠ [] →
    ∀ w ∈ p.2.log, w.key = p.1.keys.derivedKey hkdf → w.counter ≤ p.1.lastNonce

section

variable {aead hkdf metadataJson json charIsSigned} {s s' : CryptoSettings XdgCryptoSettings} {m : Writes}

lemma counter_nonce (key content : Bytes) (h : s.lastNonce < UINT64_MAX) :
    Write.counter ⟨key, s.nonce, content⟩ = s.lastNonce := by
  have ht : s.nonce.take 8 = LittleEndian.bytes 8 s.lastNonce := by
    rw [nonce]
    exact List.take_left' (LittleEndian.length_bytes 8 _)
  rw [Write.counter, ht, LittleEndian.value_bytes]
  exact Nat.mod_eq_of_lt (h.trans (by decide))

lemma increment_lt {K : Type} {impl : Implementation SecretRequest K} (s : CryptoSettings K) :
    (s.increment impl).lastNonce < UINT64_MAX := by
  unfold increment
  dsimp only
  split_ifs with h
  · exact (by decide : 0 < UINT64_MAX)
  · rw [UINT64_MAX] at h ⊢
    have := Nat.mod_lt (s.lastNonce + 1) (by decide : 0 < 2 ^ 64)
    dsimp only
    omega

lemma writeKey_cases (hm : metadataJson.fromJson [] = none) (request : SecretRequest)
    (hs : s.keys.key = [] → s.keys.salt = "") (hn : s.lastNonce < UINT64_MAX) :
    let r := s.writeKey (implementation hkdf metadataJson) request
    (r.2.keys.key = [] → r.2.keys.salt = "") ∧ r.2.lastNonce < UINT64_MAX ∧
      (r.1 = [] ∧ r.2.keys.key = [] ∨
        r.2.keys = s.keys ∧ r.2.lastNonce = s.lastNonce + 1 ∧ (r.1 = [] ∨ s.keys.key ≠ [] ∧ r.1 = s.keys.derivedKey hkdf) ∨
        r.1 = r.2.keys.derivedKey hkdf ∧
          ∃ secret, request.secret = some secret ∧ r.1 = hkdf request.randomSalt secret) := by
  intro r
  let s₁ := s.increment (implementation hkdf metadataJson)
  have h₁ : s₁.keys = s.keys ∧ s₁.lastNonce = s.lastNonce + 1 ∨ s₁.keys.key = [] ∧ s₁.keys.salt = "" ∧ s₁.lastNonce = 0 := by
    have hs₁ : s₁ = s.increment (implementation hkdf metadataJson) := rfl
    rw [increment, Nat.mod_eq_of_lt (by unfold UINT64_MAX at hn; omega)] at hs₁
    split_ifs at hs₁
    · exact .inr (hs₁ ▸ ⟨rfl, rfl, rfl⟩)
    · exact .inl (hs₁ ▸ ⟨rfl, rfl⟩)
  have hsalt : s₁.keys.key = [] → s₁.keys.salt = "" := by
    intro hk
    obtain ⟨hkeys, -⟩ | ⟨-, hsalt, -⟩ := h₁
    · exact hkeys ▸ hs (hkeys ▸ hk)
    · exact hsalt
  have hnonce : s₁.lastNonce < UINT64_MAX := increment_lt s
  obtain hr | ⟨hk, hr⟩ | ⟨x', secret, hk, hreq, hx, hne, hr, hfresh⟩ :=
    getKey_cases hkdf metadataJson request s₁.keys.version [] s₁.keys
  · have hr' : r = ([], s₁) := congrArg (fun p => (p.1, { s₁ with keys := p.2 })) hr
    rw [hr']
    refine ⟨hsalt, hnonce, ?_⟩
    obtain ⟨hkeys, hlast⟩ | ⟨hk, -⟩ := h₁
    · exact .inr (.inl ⟨hkeys, hlast, .inl rfl⟩)
    · exact .inl ⟨rfl, hk⟩
  · have hr' : r = (s₁.keys.derivedKey hkdf, s₁) := congrArg (fun p => (p.1, { s₁ with keys := p.2 })) hr
    rw [hr']
    refine ⟨hsalt, hnonce, .inr (.inl ?_)⟩
    obtain ⟨hkeys, hlast⟩ | ⟨hk', -⟩ := h₁
    · exact ⟨hkeys, hlast, .inr ⟨hkeys ▸ hk, by rw [hkeys]⟩⟩
    · exact (hk hk').elim
  · have hr' : r = (x'.derivedKey hkdf, { s₁ with keys := x' }) := congrArg (fun p => (p.1, { s₁ with keys := p.2 })) hr
    rw [hr']
    refine ⟨fun h => (hne (hx ▸ h)).elim, hnonce, .inr (.inr ⟨rfl, secret, hreq, ?_⟩)⟩
    simp only [derivedKey, hx, hfresh hm (hsalt hk)]

lemma read_cases (aead : Aead) (hkdf : String → Bytes → Bytes) (metadataJson : Json String M) (json : Json V J)
    (charIsSigned : Bool) (request : SecretRequest) (device : Bytes) (s : CryptoSettings XdgCryptoSettings) :
    let key fileVersion metadata := getKey hkdf metadataJson request fileVersion metadata s.keys
    let r := read aead hkdf metadataJson json charIsSigned request device s
    r.2 = s ∧ (r.1 = true → device.head? = some Version.NoEncryption.toByte) ∨
    (∃ fileVersion metadata, r = (false, { s with keys := (key fileVersion metadata).2 })) ∨
    ∃ fileVersion file output, device.head? = some (Version.toByte fileVersion) ∧ fileVersion ≠ .NoEncryption ∧
      readParts charIsSigned fileVersion device.tail = some file ∧ (key fileVersion file.metadata).1 ≠ [] ∧
      aead.decrypt (key fileVersion file.metadata).1 file.nonce file.header (low file.ciphertext) file.mac =
        some output ∧
      r = (true, ⟨LittleEndian.value (file.nonce.take 8), (key fileVersion file.metadata).2⟩) := by
  intro key r
  cases device with
  | nil => exact .inl ⟨rfl, fun h => Bool.noConfusion h⟩
  | cons version device =>
    cases hv : Version.ofByte version with
    | none =>
      have hr : r = (false, s) := by simp [r, read, CryptoSettings.readFile, hv]
      exact .inl ⟨congrArg Prod.snd hr, fun h => by simp [hr] at h⟩
    | some fileVersion =>
      obtain rfl := Version.eq_toByte hv
      by_cases hp : fileVersion = .NoEncryption
      · exact .inl ⟨by simp [r, read, CryptoSettings.readFile, hp], fun _ => by rw [hp]; rfl⟩
      · have hr : r = ((readEncryptedChachaPolyFile aead (implementation hkdf metadataJson) json charIsSigned request
            fileVersion device (fun _ => none) s).1, (readEncryptedChachaPolyFile aead (implementation hkdf metadataJson)
            json charIsSigned request fileVersion device (fun _ => none) s).2.2) := by
          simp only [r, read, CryptoSettings.readFile_encrypted hp, Option.getD_some]
        obtain ⟨keys, hk, hc⟩ | ⟨file, output, obj, hf, hk, hd, -, hc⟩ := readEncryptedChachaPolyFile_cases aead
          (implementation hkdf metadataJson) json charIsSigned request fileVersion device (fun _ => none) s
        · rw [hc] at hr
          obtain rfl | ⟨metadata, rfl⟩ := hk
          · exact .inl ⟨by rw [hr], fun h => by rw [hr] at h; cases h⟩
          · exact .inr (.inl ⟨fileVersion, metadata, hr⟩)
        · rw [hc] at hr
          exact .inr (.inr ⟨fileVersion, file, output, rfl, hp, hf, hk, hd, hr⟩)

lemma counter_le_last {log : List Write} {w : Write} (h : log.Pairwise fun a b => a.key = b.key → a.counter < b.counter)
    (hl : log.getLast? = some w) : ∀ v ∈ log, v.key = w.key → v.counter ≤ w.counter := by
  obtain ⟨init, rfl⟩ := List.getLast?_eq_some_iff.mp hl
  intro v hv hk
  rcases List.mem_append.mp hv with hv | hv
  · exact ((List.pairwise_append.mp h).2.2 v hv w (List.mem_singleton_self w) hk).le
  · rw [List.mem_singleton.mp hv]

lemma observe_readFile {request : SecretRequest} {device : Bytes} :
    let r := read aead hkdf metadataJson json charIsSigned request device s
    observe aead hkdf metadataJson json charIsSigned s (.readFile request device) m =
      { m with adopted := if r.1 then m.adopted && device.head? == some Version.NoEncryption.toByte
        else m.adopted || Adopts hkdf s r.2 m.log } := by
  intro r
  simp only [observe]
  split_ifs <;> rfl

lemma adopted_of_keys_eq : (m.adopted || Adopts hkdf s s m.log) = m.adopted := by
  have : ¬Adopts hkdf s s m.log := fun h => h.2.1 h.1
  simp [this]

lemma Valid.failed (h : Valid hkdf (s, m)) (request : SecretRequest) (fileVersion : Version) (metadata : Bytes) :
    let s' := { s with keys := (getKey hkdf metadataJson request fileVersion metadata s.keys).2 }
    Valid hkdf (s', { m with adopted := m.adopted || Adopts hkdf s s' m.log }) := by
  intro s'
  obtain hr | ⟨-, hr⟩ | ⟨x', secret, hk, -, hx, hne, hr, -⟩ :=
    getKey_cases hkdf metadataJson request fileVersion metadata s.keys
  · have hs : s' = s := by simp only [s', hr]
    rw [hs, adopted_of_keys_eq]
    exact h
  · have hs : s' = s := by simp only [s', hr]
    rw [hs, adopted_of_keys_eq]
    exact h
  · have hs : s'.keys.key ≠ [] := by
      simp only [s', hr]
      exact hx ▸ hne
    refine ⟨fun hn => (hs hn).elim, h.counted, h.logged, h.increasing, fun ha _ w hw hkey => ?_⟩
    have hna : ¬Adopts hkdf s s' m.log := (by simpa using ha : _ ∧ _).2
    exact Nat.not_lt.mp fun hlt => hna ⟨hk, hs, w, hw, hkey, hlt⟩

lemma Valid.decrypted (h : Valid hkdf (s, m)) {request : SecretRequest} {fileVersion : Version} {metadata : Bytes}
    {w : Write} {adopted : Bool} (hk : (getKey hkdf metadataJson request fileVersion metadata s.keys).1 ≠ [])
    (hl : m.log.getLast? = some w) (hw : w.key = (getKey hkdf metadataJson request fileVersion metadata s.keys).1) :
    Valid hkdf (⟨w.counter, (getKey hkdf metadataJson request fileVersion metadata s.keys).2⟩,
      { m with adopted }) := by
  obtain ⟨hne, hd⟩ := getKey_ne_nil hkdf metadataJson hk
  refine ⟨fun hn => (hne hn).elim, h.logged w (List.mem_of_getLast? hl), h.logged, h.increasing, ?_⟩
  intro _ _ v hv hkey
  exact counter_le_last h.increasing hl v hv (hkey.trans (hw.trans hd).symm)

lemma Valid.readFile (h : Valid hkdf (s, m)) (request : SecretRequest) (device : Bytes)
    (ha : Authentic aead hkdf metadataJson charIsSigned (s, m) (.readFile (V := V) request device)) :
    Valid hkdf (watch (step aead hkdf metadataJson json charIsSigned) (observe aead hkdf metadataJson json charIsSigned)
      (s, m) (.readFile request device)) := by
  rw [watch, observe_readFile, step]
  obtain ⟨hr, hp⟩ | ⟨fileVersion, metadata, hr⟩ | ⟨fileVersion, file, output, hv, -, hf, hk, hd, hr⟩ :=
    read_cases aead hkdf metadataJson json charIsSigned request device s
  · rw [hr, adopted_of_keys_eq]
    have hm : (if (read aead hkdf metadataJson json charIsSigned request device s).1 = true then
        m.adopted && device.head? == some Version.NoEncryption.toByte else m.adopted) = m.adopted := by
      split_ifs with hok
      · simp [hp hok]
      · rfl
    rw [hm]
    exact h
  · rw [hr]
    exact h.failed request fileVersion metadata
  · obtain ⟨w, hl, hw, hn⟩ := ha fileVersion file output hv hf hd
    rw [hr, ← hn]
    exact h.decrypted hk hl hw

lemma Valid.unwritten (h : Valid hkdf (s, m)) (hs : s'.keys.key = [] → s'.keys.salt = "") (hn : s'.lastNonce < UINT64_MAX)
    (hc : s'.keys.key ≠ [] → ∀ w ∈ m.log, w.key = s'.keys.derivedKey hkdf → w.counter ≤ s'.lastNonce) :
    Valid hkdf (s', m) :=
  ⟨hs, hn, h.logged, h.increasing, fun _ => hc⟩

lemma Valid.written (h : Valid hkdf (s, m)) (content : Bytes) (hs : s'.keys.key = [] → s'.keys.salt = "")
    (hn : s'.lastNonce < UINT64_MAX)
    (hc : ∀ w ∈ m.log, w.key = s'.keys.derivedKey hkdf → w.counter < s'.lastNonce) :
    Valid hkdf (s', { m with log := m.log ++ [⟨s'.keys.derivedKey hkdf, s'.nonce, content⟩] }) := by
  have hw := counter_nonce (s'.keys.derivedKey hkdf) content hn
  refine ⟨hs, hn, ?_, ?_, ?_⟩
  · intro w hm
    rcases List.mem_append.mp hm with hm | hm
    · exact h.logged w hm
    · rw [List.mem_singleton.mp hm, hw]
      exact hn
  · refine List.pairwise_append.mpr ⟨h.increasing, List.pairwise_singleton _ _, ?_⟩
    intro v hv w hm hk
    obtain rfl := List.mem_singleton.mp hm
    rw [hw]
    exact hc v hv hk
  · intro _ _ w hm hk
    rcases List.mem_append.mp hm with hm | hm
    · exact (hc w hm hk).le
    · rw [List.mem_singleton.mp hm, hw]

lemma write_cases (aead : Aead) (hkdf : String → Bytes → Bytes) (metadataJson : Json String M) (json : Json V J)
    (request : SecretRequest) (limits : List ℕ) (map : SettingsMap V) (hv : s.keys.version ≠ .NoEncryption) :
    ∃ ok, write aead hkdf metadataJson json request limits map s =
        (ok, (s.writeKey (implementation hkdf metadataJson) request).2) ∧
      (ok = true → (s.writeKey (implementation hkdf metadataJson) request).1 ≠ []) := by
  obtain ⟨ok, device', hw, hk⟩ := writeEncryptedChachaPolyFile_cases aead (implementation hkdf metadataJson) json request
    { limits } map s
  have hv' : (implementation hkdf metadataJson).getPreferredVersion s.keys ≠ .NoEncryption := hv
  exact ⟨ok, by simp only [write, CryptoSettings.writeFile, hv', if_false, hw, Option.getD_some], hk⟩

lemma Valid.writeFile (hm : metadataJson.fromJson [] = none) (h : Valid hkdf (s, m)) (request : SecretRequest)
    (limits : List ℕ) (map : SettingsMap V) (hf : FreshSalt hkdf (s, m) (.writeFile request limits map))
    (ha : NotAdopted (s, m) (.writeFile request limits map)) :
    Valid hkdf (watch (step aead hkdf metadataJson json charIsSigned) (observe aead hkdf metadataJson json charIsSigned)
      (s, m) (.writeFile request limits map)) := by
  rw [watch, observe, step]
  by_cases hv : s.keys.version = .NoEncryption
  · have hw : (write aead hkdf metadataJson json request limits map s).2 = s := by
      simp [write, CryptoSettings.writeFile, implementation, hv]
    simp only [hw, hv, ne_eq, not_true, and_false, if_false]
    exact h
  obtain ⟨ok, hw, hk⟩ := write_cases aead hkdf metadataJson json request limits map hv
  obtain ⟨hs, hn, hcase⟩ := writeKey_cases hm request h.salted h.counted
  have hadopted : m.adopted = false := ha.resolve_left hv
  simp only [hw, hv, ne_eq, not_false_eq_true, and_true]
  have unwritten (hr : (s.writeKey (implementation hkdf metadataJson) request).1 = []) : ¬ok = true := fun hok => hk hok hr
  obtain ⟨hr, hkey⟩ | ⟨hkeys, hlast, hr | ⟨hkey, hr⟩⟩ | ⟨hr, secret, hreq, hfresh⟩ := hcase
  · rw [if_neg (unwritten hr)]
    exact h.unwritten hs hn fun hne => (hne hkey).elim
  · rw [if_neg (unwritten hr)]
    refine h.unwritten hs hn fun hne w hw hkey => ?_
    rw [hlast]
    rw [hkeys] at hne hkey
    exact (h.current hadopted hne w hw hkey).trans (Nat.le_succ _)
  · have hc : ∀ w ∈ m.log, w.key = (s.writeKey (implementation hkdf metadataJson) request).2.keys.derivedKey hkdf →
        w.counter < (s.writeKey (implementation hkdf metadataJson) request).2.lastNonce := by
      intro w hw hk'
      rw [hkeys] at hk'
      rw [hlast]
      exact Nat.lt_succ_of_le (h.current hadopted hkey w hw hk')
    split_ifs
    · rw [hr, ← hkeys]
      exact h.written _ hs hn hc
    · exact h.unwritten hs hn fun _ w hw hk' => (hc w hw hk').le
  · have hc : ∀ w ∈ m.log, w.key ≠ (s.writeKey (implementation hkdf metadataJson) request).2.keys.derivedKey hkdf := by
      intro w hw
      rw [← hr, hfresh]
      exact hf secret hreq w hw
    split_ifs
    · rw [hr]
      exact h.written _ hs hn fun w hw hk' => (hc w hw hk').elim
    · exact h.unwritten hs hn fun _ w hw hk' => (hc w hw hk').elim

lemma Valid.step (hm : metadataJson.fromJson [] = none) (h : Valid hkdf (s, m)) (event : Event V)
    (ha : Authentic aead hkdf metadataJson charIsSigned (s, m) event) (hf : FreshSalt hkdf (s, m) event)
    (hn : NotAdopted (s, m) event) :
    Valid hkdf (watch (step aead hkdf metadataJson json charIsSigned) (observe aead hkdf metadataJson json charIsSigned)
      (s, m) event) := by
  cases event with
  | readFile request device => exact h.readFile request device ha
  | writeFile request limits map => exact h.writeFile hm request limits map hf hn
  | handleResponse code token? =>
    have hk : (s.keys.handleResponse code token?).key = s.keys.key ∧
        (s.keys.handleResponse code token?).salt = s.keys.salt := by
      unfold handleResponse
      split_ifs
      · exact ⟨rfl, rfl⟩
      · cases token? <;> exact ⟨rfl, rfl⟩
    refine ⟨fun hn => hk.2.trans (h.salted (hk.1.symm.trans hn)), h.counted, h.logged, h.increasing, ?_⟩
    intro ha hne w hw hkey
    refine h.current ha (hk.1 ▸ hne) w hw (hkey.trans ?_)
    simp only [watch, XdgCryptoSettings.step, derivedKey, hk]
  | restart supported =>
    exact ⟨fun _ => rfl, (by decide : 0 < UINT64_MAX), h.logged, h.increasing, fun _ hne => (hne rfl).elim⟩

end

/-- No two writes encrypt different contents under the same key and nonce. -/
def Unique (log : List Write) : Prop :=
  log.Pairwise fun a b => a.key = b.key → a.nonce = b.nonce → a.content = b.content

instance (log : List Write) : Decidable (Unique log) := inferInstanceAs (Decidable (List.Pairwise _ log))

section

variable {aead hkdf metadataJson json charIsSigned}

lemma valid_start (supported : Bool) : Valid hkdf (start supported, {}) :=
  ⟨fun _ => rfl, (by decide : 0 < UINT64_MAX), List.forall_mem_nil _, List.Pairwise.nil, fun _ hne => (hne rfl).elim⟩

/-- If what decrypts is what the last write has encrypted and new salts give new keys, no run repeats a nonce unless
it encrypts with a key that a failed read has taken over. -/
theorem nonces_unique (hm : metadataJson.fromJson [] = none) (supported : Bool) (events : List (Event V))
    (h : Meets (watch (step aead hkdf metadataJson json charIsSigned) (observe aead hkdf metadataJson json charIsSigned))
      (fun p event => Authentic aead hkdf metadataJson charIsSigned p event ∧ FreshSalt hkdf p event ∧ NotAdopted p event)
      (start supported, {}) events) :
    Unique (run (watch (step aead hkdf metadataJson json charIsSigned)
      (observe aead hkdf metadataJson json charIsSigned)) (start supported, {}) events).2.log := by
  have hv := h.invariant (P := Valid hkdf) (fun p event hp hc => hp.step hm event hc.1 hc.2.1 hc.2.2)
    (valid_start supported)
  exact hv.increasing.imp fun {a b} hlt hk hn => by
    have := hlt hk
    rw [Write.counter, Write.counter, hn] at this
    exact absurd this (lt_irrefl _)

end

/-- A cipher that hides nothing and whose tag is that of the first byte. -/
def plainCipher : Aead where
  encrypt _ _ _ content := (content, List.replicate MAC_SIZE (content.headD 0))
  decrypt _ _ _ ciphertext mac := if mac = List.replicate MAC_SIZE (ciphertext.headD 0) then some ciphertext else none

/-- Keys for the salt "a" and for all others. -/
def twoKeys (salt : String) (_ : Bytes) : Bytes :=
  List.replicate CRYPTO_SETTINGS_KEY_SIZE (if salt = "a" then 1 else 2)

/-- Texts for the object with the salt "a" and for all others. -/
def saltJson : Json String String where
  fromVariant := id
  toVariant := id
  toJson obj := if obj "salt" = some "a" then [0x61] else [0x62]
  fromJson text := if text = [0x61] then some fun name => if name = "salt" then some "a" else none else none

/-- Texts for the maps with and without a key. -/
def unitJson : Json Unit Unit where
  fromVariant := id
  toVariant := id
  toJson obj := if obj "" = none then [1] else [2]
  fromJson text := if text = [1] then some fun _ => none else if text = [2] then some fun _ => some () else none

lemma twoKeys_ne {salt : String} (h : salt ≠ "a") (secret secret' : Bytes) : twoKeys "a" secret ≠ twoKeys salt secret' := by
  rw [twoKeys, twoKeys, if_pos rfl, if_neg h]
  decide

theorem nonces_unique_written :
    let next := watch (step plainCipher twoKeys saltJson unitJson true) (observe plainCipher twoKeys saltJson unitJson true)
    Unique (run next (start true, {}) [.writeFile ⟨some [7], "a"⟩ [] fun _ => none, .readFile ⟨none, "b"⟩ [],
      .writeFile ⟨some [7], "c"⟩ [] fun _ => some ()]).2.log := by
  intro next
  refine nonces_unique rfl true _ ⟨⟨trivial, fun _ _ => List.forall_mem_nil _, .inr rfl⟩, ⟨?_, trivial, trivial⟩,
    ⟨trivial, ?_, .inr (by decide +kernel)⟩, trivial⟩
  · intro fileVersion file output hv
    cases hv
  · intro secret _ w hw
    have hl : ∀ w ∈ (run next (start true, {}) [.writeFile ⟨some [7], "a"⟩ [] fun _ => none,
        .readFile ⟨none, "b"⟩ []]).2.log, w.key = twoKeys "a" [7] := by decide +kernel
    rw [hl w hw]
    exact twoKeys_ne (by decide) _ _

/-- A new process takes over the salt of a file whose last byte is damaged, and starts again with the first nonce. -/
theorem nonces_repeated :
    let next := watch (step plainCipher twoKeys saltJson unitJson true) (observe plainCipher twoKeys saltJson unitJson true)
    let file := (CryptoSettings.writeFile plainCipher (implementation twoKeys saltJson) unitJson ⟨some [7], "a"⟩ {}
      (fun _ => none) (some (start true))).2.1.written
    let events : List (Event Unit) := [.writeFile ⟨some [7], "a"⟩ [] fun _ => none, .restart true,
      .readFile ⟨some [7], "b"⟩ (file.dropLast ++ [3]), .writeFile ⟨some [7], "c"⟩ [] fun _ => some ()]
    Meets next (fun p event => Authentic plainCipher twoKeys saltJson true p event ∧ FreshSalt twoKeys p event)
      (start true, {}) events ∧ ¬Unique (run next (start true, {}) events).2.log := by
  intro next file events
  refine ⟨⟨⟨trivial, fun _ _ => List.forall_mem_nil _⟩, ⟨trivial, trivial⟩, ⟨?_, trivial⟩, ⟨trivial, ?_⟩, trivial⟩, ?_⟩
  · intro fileVersion parts output hv hp key hd
    have hb : (file.dropLast ++ [3]).head? = some (Version.toByte .EncryptionChachaPolyV2) := by decide +kernel
    obtain rfl : fileVersion = .EncryptionChachaPolyV2 := by
      have := Option.some.inj (hv.symm.trans hb)
      cases fileVersion <;> first | rfl | exact absurd this (by decide)
    have hm : (readParts true .EncryptionChachaPolyV2 (file.dropLast ++ [3]).tail).map EncryptedFile.mac =
        some (List.replicate MAC_SIZE 1) := by decide +kernel
    have hc : (readParts true .EncryptionChachaPolyV2 (file.dropLast ++ [3]).tail).map EncryptedFile.ciphertext =
        some [3] := by decide +kernel
    rw [hp] at hm hc
    have hne : List.replicate MAC_SIZE (1 : UInt8) ≠ List.replicate MAC_SIZE ((low [3]).headD 0) := by decide
    have hno : plainCipher.decrypt key parts.nonce parts.header (low [3]) (List.replicate MAC_SIZE 1) = none := by
      simp only [plainCipher, if_neg hne]
    rw [Option.some.inj hm, Option.some.inj hc] at hd
    exact absurd (hd.symm.trans hno) (Option.some_ne_none output)
  · intro secret _ w hw
    have hl : ∀ w ∈ (run next (start true, {}) (events.take 3)).2.log, w.key = twoKeys "a" [7] := by decide +kernel
    rw [hl w hw]
    exact twoKeys_ne (by decide) _ _
  · decide +kernel

end XdgCryptoSettings

end VpnClient.Settings
