import VpnClient.Settings.CryptoSettings

/-! The keys of `XdgCryptoSettings`: each is derived from the secret of the desktop portal and a salt that is kept
in the metadata of the file. -/

namespace VpnClient.Settings

structure XdgCryptoSettings where
  token : String := ""
  salt : String := ""
  key : Bytes := []
  version : Version := .NoEncryption

/-- How a request to the portal ends, and the salt that is generated if one is needed. -/
structure SecretRequest where
  secret : Option Bytes
  randomSalt : String

namespace XdgCryptoSettings

variable {J : Type} (hkdf : String → Bytes → Bytes) (json : Json String J)

/-- The settings of a new process. -/
def create (supported : Bool) : XdgCryptoSettings :=
  { version := if supported then .EncryptionChachaPolyV2 else .NoEncryption }

def handleResponse (code : ℕ) (token? : Option String) (x : XdgCryptoSettings) : XdgCryptoSettings :=
  if code ≠ 0 then x
  else
    match token? with
    | some token => { x with token }
    | none => x

def resetKey (x : XdgCryptoSettings) : XdgCryptoSettings := { x with token := "", salt := "", key := [] }

/-- The key that the secret and the salt give. -/
def derivedKey (x : XdgCryptoSettings) : Bytes := hkdf x.salt x.key

/-- The token for a request: that of the file, or else the last one. -/
def requestToken (obj : QJsonObject J) (x : XdgCryptoSettings) : Option String :=
  match obj "token" with
  | some token => some (json.toVariant token)
  | none => if x.token = "" then none else some x.token

/-- Takes over a secret, with the salt of the file, or else with the last one or a new one. -/
def adopt (obj : QJsonObject J) (secret : Bytes) (randomSalt : String) (x : XdgCryptoSettings) : XdgCryptoSettings :=
  let salt :=
    match obj "salt" with
    | some salt => json.toVariant salt
    | none => if x.salt = "" then randomSalt else x.salt
  { x with key := secret, salt, token := (requestToken json obj x).getD x.token }

def getKey (request : SecretRequest) (version : Version) (metadata : Bytes) (x : XdgCryptoSettings) :
    Bytes × XdgCryptoSettings :=
  if version ≠ .EncryptionChachaPolyV2 then ([], x)
  else if x.key ≠ [] then (x.derivedKey hkdf, x)
  else
    let obj := (json.fromJson metadata).getD fun _ => none
    match request.secret with
    | none => ([], x)
    | some secret =>
      if secret = [] then ([], x)
      else
        let x := x.adopt json obj secret request.randomSalt
        (x.derivedKey hkdf, x)

def getMetaData (x : XdgCryptoSettings) : Bytes :=
  json.toJson fun name =>
    if name = "salt" ∧ x.salt ≠ "" then some (json.fromVariant x.salt)
    else if name = "token" ∧ x.token ≠ "" then some (json.fromVariant x.token)
    else none

def implementation : Implementation SecretRequest XdgCryptoSettings where
  resetKey := resetKey
  getKey := getKey hkdf json
  getMetaData := getMetaData json
  getPreferredVersion := version

/-- There is no key, or the one at hand, or one from a new secret, whose salt is new if no file and no earlier key
gives one. -/
lemma getKey_cases (request : SecretRequest) (version : Version) (metadata : Bytes) (x : XdgCryptoSettings) :
    (getKey hkdf json request version metadata x = ([], x)) ∨
    (x.key ≠ [] ∧ getKey hkdf json request version metadata x = (x.derivedKey hkdf, x)) ∨
    ∃ x' secret, x.key = [] ∧ request.secret = some secret ∧ x'.key = secret ∧ secret ≠ [] ∧
      getKey hkdf json request version metadata x = (x'.derivedKey hkdf, x') ∧
      (json.fromJson metadata = none → x.salt = "" → x'.salt = request.randomSalt) := by
  rw [getKey]
  by_cases hv : version ≠ .EncryptionChachaPolyV2
  · exact .inl (if_pos hv)
  by_cases hk : x.key ≠ []
  · exact .inr (.inl ⟨hk, by rw [if_neg hv, if_pos hk]⟩)
  rw [if_neg hv, if_neg hk]
  cases hs : request.secret with
  | none => exact .inl rfl
  | some secret =>
    dsimp only
    split_ifs with h
    · exact .inl rfl
    · refine .inr (.inr ⟨_, secret, not_not.mp hk, rfl, rfl, h, rfl, fun hm hx => ?_⟩)
      simp [adopt, hm, hx]

lemma getKey_ne_nil {request : SecretRequest} {version : Version} {metadata : Bytes} {x : XdgCryptoSettings}
    (h : (getKey hkdf json request version metadata x).1 ≠ []) :
    (getKey hkdf json request version metadata x).2.key ≠ [] ∧ (getKey hkdf json request version metadata x).1 =
      (getKey hkdf json request version metadata x).2.derivedKey hkdf := by
  obtain hr | ⟨hk, hr⟩ | ⟨x', secret, -, -, hx, hne, hr, -⟩ := getKey_cases hkdf json request version metadata x
  · rw [hr] at h
    exact (h rfl).elim
  · rw [hr]
    exact ⟨hk, rfl⟩
  · rw [hr]
    exact ⟨fun hn => hne (hx ▸ hn), rfl⟩

end XdgCryptoSettings

end VpnClient.Settings
