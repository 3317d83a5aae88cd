import VpnClient.Library.Runs
import VpnClient.Update.Balrog
import VpnClient.Update.CertificateChain

/-! Trusted updates: only documents that a pinned chain vouches for have an effect, and when the file that is installed
is the package that was checked. -/

namespace VpnClient.Update

open Ipc (Bytes JsonObject)
open Library.Runs Signature

namespace Balrog

variable {Certificate PublicKey Name : Type} (P : Primitives Certificate PublicKey Name) (settings : Settings)

/-- The document has come in a reply whose header names a signature, and a chain has come that vouches for it. -/
def Vouched (history : List Event) (document : Bytes) : Prop :=
  ∃ update x5u url signatureBlob, .requestCompleted update ∈ history ∧ .requestCompleted x5u ∈ history ∧
    update.data = document ∧ readHeader update.contentSignature = some (url, signatureBlob) ∧
    Trusted P ((rootCertHashes settings).map fromHex) x5u.data document signatureBlob BALROG_CERT_SUBJECT_CN x5u.now

/-- An effect that a document asks for which is vouched for. What is installed is a package with the hash that the
document names. -/
def Justified (history : List Event) : Effect → Prop
  | .updateRequired => ∃ document obj, Vouched P settings history document ∧ settings.fromJson document = some obj ∧
      obj.bool? "required" = some true
  | .updateRecommended => ∃ document, Vouched P settings history document
  | .install data file => ∃ document obj hash, Vouched P settings history document ∧
      settings.fromJson document = some obj ∧ obj.string? "hashValue" = some hash ∧ P.sha512 data = fromHex hash ∧
      (∃ reply, .requestCompleted reply ∈ history ∧ reply.data = data) ∧ file = data

def Sound (p : Balrog × List Event) : Prop := ∀ effect ∈ p.1.effects, Justified P settings p.2 effect

/-- A package that is saved is not shorter than what the file of its name holds already. -/
def Covers (b : Balrog) : Event → Prop
  | .requestCompleted reply => ∀ url hashValue, b.request = some (.package url hashValue "sha512") →
      P.sha512 reply.data = hashValue → '/' ∈ url.toList → reply.tmpDir.isValid = true →
        reply.tmpDir.written = reply.data.length →
          ∀ former, reply.tmpDir.opened (fileName url) = some former → former.length ≤ reply.data.length
  | _ => True

/-- The request that is waited for is one for a document of the history. -/
def Founded (history : List Event) : Request → Prop
  | .update => True
  | .x5u url signatureBlob updateData => ∃ update, .requestCompleted update ∈ history ∧ update.data = updateData ∧
      readHeader update.contentSignature = some (url, signatureBlob)
  | .content _ => ∃ document, Vouched P settings history document
  | .package _ hashValue _ => ∃ document obj hash, Vouched P settings history document ∧
      settings.fromJson document = some obj ∧ obj.string? "hashValue" = some hash ∧ hashValue = fromHex hash

structure Inv (p : Balrog × List Event) : Prop where
  founded : ∀ request ∈ p.1.request, Founded P settings p.2 request
  sound : Sound P settings p

variable {P settings} {history more : List Event} {b c : Balrog} {e : Event}

lemma Vouched.mono {document : Bytes} (h : Vouched P settings history document) (hs : history ⊆ more) :
    Vouched P settings more document := by
  obtain ⟨update, x5u, url, signatureBlob, hu, hx, h⟩ := h
  exact ⟨update, x5u, url, signatureBlob, hs hu, hs hx, h⟩

lemma Justified.mono {effect : Effect} (h : Justified P settings history effect) (hs : history ⊆ more) :
    Justified P settings more effect := by
  cases effect with
  | updateRequired =>
    obtain ⟨document, obj, hv, h⟩ := h
    exact ⟨document, obj, hv.mono hs, h⟩
  | updateRecommended =>
    obtain ⟨document, hv⟩ := h
    exact ⟨document, hv.mono hs⟩
  | install data file =>
    obtain ⟨document, obj, hash, hv, hj, hh, hd, ⟨reply, hr, hrd⟩, hf⟩ := h
    exact ⟨document, obj, hash, hv.mono hs, hj, hh, hd, ⟨reply, hs hr, hrd⟩, hf⟩

lemma Founded.mono {request : Request} (h : Founded P settings history request) (hs : history ⊆ more) :
    Founded P settings more request := by
  cases request with
  | update => trivial
  | x5u url signatureBlob updateData =>
    obtain ⟨update, hu, h⟩ := h
    exact ⟨update, hs hu, h⟩
  | content url =>
    obtain ⟨document, hv⟩ := h
    exact ⟨document, hv.mono hs⟩
  | package url hashValue hashFunction =>
    obtain ⟨document, obj, hash, hv, h⟩ := h
    exact ⟨document, obj, hash, hv.mono hs, h⟩

lemma Inv.mono (h : Inv P settings (b, history)) (hs : history ⊆ more) : Inv P settings (b, more) :=
  ⟨fun request hr => (h.founded request hr).mono hs, fun effect he => (h.sound effect he).mono hs⟩

lemma Inv.deleteLater (h : Inv P settings (b, history)) : Inv P settings (b.deleteLater, history) :=
  ⟨fun _ hr => (by cases hr), h.sound⟩

lemma Inv.send {request : Request} (h : Inv P settings (b, history)) (hr : Founded P settings history request) :
    Inv P settings (b.send request, history) :=
  ⟨fun _ hs => Option.some.inj hs ▸ hr, h.sound⟩

lemma sound_emit_iff {effect : Effect} (h : Sound P settings (b, history)) :
    Sound P settings (b.emit effect, history) ↔ Justified P settings history effect := by
  constructor
  · exact fun hs => hs effect (List.mem_append_right _ (List.mem_singleton_self _))
  · intro hj other ho
    obtain ho | ho := List.mem_append.mp ho
    · exact h other ho
    · exact List.mem_singleton.mp ho ▸ hj

lemma Inv.emit {effect : Effect} (h : Inv P settings (b, history)) (hj : Justified P settings history effect) :
    Inv P settings (b.emit effect, history) := ⟨h.founded, (sound_emit_iff h.sound).mpr hj⟩

lemma inv_processData {data : Bytes} (h : Inv P settings (b, history)) (hv : Vouched P settings history data) :
    Inv P settings (b.processData settings data, history) := by
  cases hj : settings.fromJson data with
  | none =>
    simp only [processData, hj]
    exact h.deleteLater
  | some obj =>
    simp only [processData, hj]
    split_ifs with hd hr hu hu hf hh
    · cases hb : obj.bool? "required" with
      | none => simp [hb] at hr
      | some required =>
        rw [hb] at hr
        have hreq : Justified P settings history .updateRequired := ⟨data, obj, hv, hj, hb.trans (congrArg some hr)⟩
        exact (h.emit hreq).deleteLater
    · exact h.deleteLater
    · exact h.send ⟨data, hv⟩
    · exact h.deleteLater
    · exact h.deleteLater
    · exact h.deleteLater
    · cases hs : obj.string? "hashValue" with
      | none => exact absurd (by rw [hs]; rfl) hh
      | some hash => exact h.send ⟨data, obj, hash, hv, hj, hs, rfl⟩

lemma saveFile_eq_some_iff {url : String} {data file : Bytes} {tmpDir : TemporaryDir} :
    saveFile url data tmpDir = some file ↔ '/' ∈ url.toList ∧ tmpDir.isValid = true ∧ tmpDir.written = data.length ∧
      ∃ former, tmpDir.opened (fileName url) = some former ∧ data ++ former.drop data.length = file := by
  simp only [saveFile]
  cases ho : tmpDir.opened (fileName url) <;> simp

lemma sound_saveFileAndInstall_iff {url hash : String} {document : Bytes} {obj : JsonObject} {reply : Reply}
    (h : Inv P settings (b, history)) (hv : Vouched P settings history document)
    (hj : settings.fromJson document = some obj) (hs : obj.string? "hashValue" = some hash)
    (hh : P.sha512 reply.data = fromHex hash) (hr : .requestCompleted reply ∈ history) :
    Sound P settings (b.saveFileAndInstall url reply.data reply.tmpDir, history) ↔
      ('/' ∈ url.toList → reply.tmpDir.isValid = true → reply.tmpDir.written = reply.data.length →
        ∀ former, reply.tmpDir.opened (fileName url) = some former → former.length ≤ reply.data.length) := by
  cases hf : saveFile url reply.data reply.tmpDir with
  | none =>
    simp only [saveFileAndInstall, hf]
    refine iff_of_true h.sound fun hu hi hw former ho => ?_
    cases hf.symm.trans (saveFile_eq_some_iff.mpr ⟨hu, hi, hw, former, ho, rfl⟩)
  | some file =>
    obtain ⟨hu, hi, hw, former, ho, rfl⟩ := saveFile_eq_some_iff.mp hf
    simp only [saveFileAndInstall, hf, hu, hi, hw, ho, forall_const, Option.some.injEq, forall_eq']
    apply (sound_emit_iff h.sound).trans
    rw [← List.drop_eq_nil_iff, ← List.append_right_eq_self]
    constructor
    · rintro ⟨-, -, -, -, -, -, -, -, hd⟩
      exact hd
    · exact fun hd => ⟨document, obj, hash, hv, hj, hs, hh, ⟨reply, hr, rfl⟩, hd⟩

lemma request_saveFileAndInstall (url : String) (data : Bytes) (tmpDir : TemporaryDir) (b : Balrog) :
    (b.saveFileAndInstall url data tmpDir).request = none := by
  rw [saveFileAndInstall]
  split <;> rfl

lemma request_computeHash (url : String) (data expect : Bytes) (algorithm : String) (tmpDir : TemporaryDir)
    (b : Balrog) : (b.computeHash P url data expect algorithm tmpDir).request = none := by
  rw [computeHash]
  split_ifs
  · rfl
  · rfl
  · exact request_saveFileAndInstall url data tmpDir b

lemma sound_computeHash_iff {url hashFunction : String} {hashValue : Bytes} {reply : Reply}
    (h : Inv P settings (b, history)) (hf : Founded P settings history (.package url hashValue hashFunction))
    (hr : .requestCompleted reply ∈ history) :
    Sound P settings (b.computeHash P url reply.data hashValue hashFunction reply.tmpDir, history) ↔
      (hashFunction = "sha512" → P.sha512 reply.data = hashValue → '/' ∈ url.toList → reply.tmpDir.isValid = true →
        reply.tmpDir.written = reply.data.length →
          ∀ former, reply.tmpDir.opened (fileName url) = some former → former.length ≤ reply.data.length) := by
  obtain ⟨document, obj, hash, hv, hj, hs, hh⟩ := hf
  rw [computeHash]
  split_ifs with ha hd
  · exact iff_of_true h.sound fun h => absurd h ha
  · exact iff_of_true h.sound fun _ h => absurd h hd
  · rw [not_not] at ha hd
    rw [sound_saveFileAndInstall_iff h hv hj hs (hd.trans hh) hr]
    simp only [ha, hd, forall_const]

lemma inv_fetchSignature {reply : Reply} (h : Inv P settings (b, history)) (hr : .requestCompleted reply ∈ history) :
    Inv P settings (b.fetchSignature reply, history) := by
  cases hh : readHeader reply.contentSignature with
  | none =>
    simp only [fetchSignature, hh]
    exact h.deleteLater
  | some values =>
    simp only [fetchSignature, hh]
    exact h.send ⟨reply, hr, rfl, hh⟩

/-- The history is all that has happened. -/
def record (_ : Balrog) (e : Event) (history : List Event) : List Event := history ++ [e]

lemma mem_record (b : Balrog) (e : Event) (history : List Event) : e ∈ record b e history :=
  List.mem_append_right _ (List.mem_singleton_self e)

variable [DecidableEq Name]

lemma trusted_of_validateSignature {x5uData updateData signatureBlob : Bytes} {now : ℤ}
    (h : validateSignature P settings x5uData updateData signatureBlob now = some true) :
    Trusted P ((rootCertHashes settings).map fromHex) x5uData updateData signatureBlob BALROG_CERT_SUBJECT_CN now := by
  rw [validateSignature] at h
  cases hh : Signature.computeRootCertificateHash P x5uData with
  | none =>
    rw [hh] at h
    cases h
  | some rootHash =>
    rw [hh, Option.elim_some] at h
    split_ifs at h with hm
    · obtain ⟨hash, hm, he⟩ := List.any_eq_true.mp hm
      exact trusted_of_verified hh (of_decide_eq_true he ▸ hm) h
    · cases h

lemma inv_checkSignature {url signatureBlob updateData : Bytes} {reply : Reply} (h : Inv P settings (b, history))
    (hf : Founded P settings history (.x5u url signatureBlob updateData)) (hr : .requestCompleted reply ∈ history) :
    Inv P settings (b.checkSignature P settings reply.data updateData signatureBlob reply.now, history) := by
  obtain ⟨update, hu, hd, hs⟩ := hf
  rw [checkSignature]
  split
  · next hv =>
    exact inv_processData h ⟨update, reply, url, signatureBlob, hu, hr, hd, hs, trusted_of_validateSignature hv⟩
  · exact h.deleteLater

lemma inv_completed {reply : Reply} (h : Inv P settings (b, history)) (hr : .requestCompleted reply ∈ history)
    (hc : Covers P b (.requestCompleted reply)) : Inv P settings (b.requestCompleted P settings reply, history) := by
  cases hb : b.request with
  | none =>
    simp only [requestCompleted, hb]
    exact h
  | some request =>
    have hf := h.founded request hb
    cases request with
    | update =>
      simp only [requestCompleted, hb]
      split_ifs
      · exact h.deleteLater
      · exact inv_fetchSignature h hr
    | x5u url signatureBlob updateData =>
      simp only [requestCompleted, hb]
      exact inv_checkSignature h hf hr
    | content url =>
      simp only [requestCompleted, hb]
      exact h.deleteLater
    | package url hashValue hashFunction =>
      simp only [requestCompleted, hb]
      refine ⟨fun _ hq => ?_, (sound_computeHash_iff h hf hr).mpr ?_⟩
      · rw [request_computeHash] at hq
        cases hq
      · rintro rfl
        exact hc url hashValue hb

lemma covers_of_sound {reply : Reply} (h : Inv P settings (b, history)) (hr : .requestCompleted reply ∈ history)
    (hs : Sound P settings (b.requestCompleted P settings reply, history)) :
    Covers P b (.requestCompleted reply) := by
  intro url hashValue hb
  simp only [requestCompleted, hb] at hs
  exact (sound_computeHash_iff h (h.founded _ hb) hr).mp hs rfl

lemma inv_step (h : Inv P settings (b, history)) (e : Event) (hc : Covers P b e) :
    Inv P settings (watch (step P settings) record (b, history) e) := by
  have h : Inv P settings (b, history ++ [e]) := h.mono (List.subset_append_left _ _)
  cases e with
  | requestFailed => exact h.deleteLater
  | requestHeaderReceived statusCode =>
    change Inv P settings (b.requestHeaderReceived statusCode, _)
    rw [requestHeaderReceived]
    split
    · next hb =>
      split_ifs
      · exact h.emit (h.founded _ hb)
      · exact h
    · exact h
  | requestCompleted reply => exact inv_completed h (mem_record b _ history) hc

lemma covers_iff (h : Inv P settings (b, history)) (e : Event) :
    Covers P b e ↔ Sound P settings (watch (step P settings) record (b, history) e) := by
  refine ⟨fun hc => (inv_step h e hc).sound, fun hs => ?_⟩
  cases e with
  | requestFailed => trivial
  | requestHeaderReceived statusCode => trivial
  | requestCompleted reply =>
    exact covers_of_sound (h.mono (List.subset_append_left _ _)) (mem_record b _ history) hs

/-- Every effect of a run is justified just if each package that is saved covers what its file holds before. -/
theorem sound_iff_covers (P : Primitives Certificate PublicKey Name) (settings : Settings) (events : List Event) :
    Meets (step P settings) (Covers P) start events ↔
      ∀ before, before <+: events → Sound P settings (run (watch (step P settings) record) (start, []) before) := by
  have h : Inv P settings (start, []) := ⟨fun request hr => Option.some.inj hr ▸ trivial, fun _ he => by cases he⟩
  rw [← meets_watch record []]
  apply meets_iff_throughout (P := Inv P settings) (Q := Sound P settings)
  · exact fun p e hp hc => inv_step hp e hc
  · exact fun p e hp => covers_iff hp e
  · exact h
  · exact h.sound

/-- Certificates without content, all of which are valid. -/
def trustful : Primitives Unit Unit Unit where
  iterFromBuffer _ := [.ok ⟨"CERTIFICATE", []⟩]
  fromDer _ := .ok ([], ())
  subject _ := ()
  issuer _ := ()
  fromTimestamp time := .ok time
  isValidAt _ _ := true
  keyCertSign _ := .ok (some true)
  isCa _ := true
  validate _ := (true, [])
  publicKey _ := ()
  verifySignature _ _ := .ok ()
  commonNames _ := [.ok BALROG_CERT_SUBJECT_CN]
  subjectAlternativeName _ := .ok none
  codeSigning _ := .ok (some true)
  algorithm _ := .OID_KEY_TYPE_EC_PUBLIC_KEY
  keySize _ := .ok 256
  verify _ _ _ _ := .ok ()
  base64Decode _ := some [1, 1]
  integersToDer r s := some (r ++ s)
  sha256 _ := fromHex (AUTOGRAPH_PROD_FINGERPRINTS.headD "")
  sha512 _ := [0]

def downloading : Settings where
  downloadAndInstall := true
  stagingUpdateServer := false
  fromJson _ := some [("url", .string "https://download/..\\setup.msi"), ("hashFunction", .string "sha512"),
    ("hashValue", .string "00")]

/-- A file outside the temporary directory that holds more than the package keeps the rest of it. -/
theorem installed_with_rest : ¬ Sound trustful downloading
    (run (watch (step trustful downloading) record) (start, [])
      [.requestCompleted { statusCode := 200, data := [], contentSignature := ascii "x5u=chain; p384ecdsa=AQE" },
        .requestCompleted { statusCode := 200, data := [] },
        .requestCompleted { statusCode := 200, data := [1], tmpDir := ⟨true, fun _ => some [2, 3], 1⟩ }]) := by
  intro h
  have he : Effect.install [1] [1, 3] ∈ (run (watch (step trustful downloading) record) (start, [])
      [.requestCompleted { statusCode := 200, data := [], contentSignature := ascii "x5u=chain; p384ecdsa=AQE" },
        .requestCompleted { statusCode := 200, data := [] },
        .requestCompleted { statusCode := 200, data := [1], tmpDir := ⟨true, fun _ => some [2, 3], 1⟩ }]).1.effects := by
    decide +kernel
  obtain ⟨-, -, -, -, -, -, -, -, hf⟩ := h _ he
  revert hf
  decide

end Balrog

end VpnClient.Update
