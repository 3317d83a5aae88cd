import VpnClient.Library.Results
import VpnClient.Update.Signature

/-! What the verification of a certificate chain and of a content signature establishes. -/

namespace VpnClient.Update.Signature

open Ipc (Bytes)
open Library.Results

variable {Certificate PublicKey Name A B : Type} {P : Primitives Certificate PublicKey Name}
  {now : ℤ} {subject issuer : Certificate} {chain : List Certificate}

@[simp] lemma ensure_ok_iff {condition : Bool} {error : BalrogError} {u : Unit} :
    ensure condition error = .ok u ↔ condition = true := by
  cases condition <;> simp [ensure]

@[simp] lemma get_ok_iff {value : Option A} {error : BalrogError} {a : A} :
    get value error = .ok a ↔ value = some a := by
  cases value <;> simp [get]

@[simp] lemma fromX509_ok_iff {result : Except X509Error A} {a : A} : fromX509 result = .ok a ↔ result = .ok a :=
  mapError_ok_iff

/-- The issuer may sign certificates, and it has signed the subject, while both are valid. -/
structure Issued (P : Primitives Certificate PublicKey Name) (now : ℤ) (subject issuer : Certificate) : Prop where
  name : P.issuer subject = P.subject issuer
  valid : ∃ time, P.fromTimestamp now = .ok time ∧ P.isValidAt subject time = true ∧ P.isValidAt issuer time = true
  authorized : P.keyCertSign issuer = .ok (some true) ∧ P.isCa issuer = true
  signed : (P.validate subject).1 = true ∧ P.verifySignature subject (P.publicKey issuer) = .ok ()

/-- Every certificate is issued by the next one, and the root by itself. -/
structure Rooted (P : Primitives Certificate PublicKey Name) (now : ℤ) (chain : List Certificate)
    (root : Certificate) : Prop where
  last : chain.getLast? = some root
  issued : chain.IsChain (Issued P now)
  selfIssued : Issued P now root root

def Named (P : Primitives Certificate PublicKey Name) (leaf : Certificate) (hostname : String) : Prop :=
  .ok hostname ∈ P.commonNames leaf ∨
    ∃ names, P.subjectAlternativeName leaf = .ok (some names) ∧ .DNSName hostname ∈ names

/-- The signature of the input can be verified with the key of the certificate. -/
def Signs (P : Primitives Certificate PublicKey Name) (leaf : Certificate) (input : Bytes) (signature : String) : Prop :=
  ∃ sigDecode sigDer algorithm, P.base64Decode signature = some sigDecode ∧
    Balrog.ecdsaSignatureToAsn1 P sigDecode = .ok sigDer ∧
    P.algorithm (P.publicKey leaf) = .OID_KEY_TYPE_EC_PUBLIC_KEY ∧
    P.verify (P.publicKey leaf) algorithm sigDer (Balrog.signedPrefix ++ input) = .ok ()

namespace Balrog

lemma parseCertificate_ok_iff {pem : Pem} {x509 : Certificate} : parseCertificate P pem = .ok x509 ↔
    pem.label = "CERTIFICATE" ∧ P.fromDer pem.contents = .ok ([], x509) := by
  simp only [parseCertificate, bind_ok_iff, ensure_ok_iff, fromX509_ok_iff, pure_ok_iff, beq_iff_eq]
  constructor
  · rintro ⟨-, hl, ⟨tail, c⟩, hd, -, ht, rfl⟩
    obtain rfl : tail = [] := List.isEmpty_iff.mp ht
    exact ⟨hl, hd⟩
  · rintro ⟨hl, hd⟩
    exact ⟨(), hl, _, hd, (), rfl, rfl⟩

lemma mem_of_hasCommonName {hostname : String} {cns : List (Except X509Error String)}
    (h : hasCommonName hostname cns = .ok true) : .ok hostname ∈ cns := by
  induction cns with
  | nil => simp [hasCommonName] at h
  | cons cn cns ih =>
    simp only [hasCommonName, bind_ok_iff, fromX509_ok_iff] at h
    obtain ⟨name, rfl, h⟩ := h
    by_cases hn : name = hostname
    · exact hn ▸ List.mem_cons_self
    · rw [if_neg hn] at h
      exact List.mem_cons_of_mem _ (ih h)

lemma named_of_verifyLeafHostname {hostname : String} (h : verifyLeafHostname P chain hostname = .ok ()) :
    ∃ leaf, chain.head? = some leaf ∧ Named P leaf hostname := by
  simp only [verifyLeafHostname, bind_ok_iff, get_ok_iff] at h
  obtain ⟨leaf, hl, named, hn, h⟩ := h
  refine ⟨leaf, hl, ?_⟩
  cases named with
  | true => exact .inl (mem_of_hasCommonName hn)
  | false =>
    simp only [Bool.false_eq_true, if_false, bind_ok_iff, fromX509_ok_iff, ensure_ok_iff, decide_eq_true_eq] at h
    obtain ⟨names, ha, hm⟩ := h
    cases names with
    | none => simp at hm
    | some names => exact .inr ⟨names, ha, hm⟩

lemma signs_of_verifyContentSignature {input : Bytes} {signature : String}
    (h : verifyContentSignature P chain input signature = .ok ()) :
    (∀ x ∈ chain, P.codeSigning x = .ok (some true)) ∧ ∃ leaf, chain.head? = some leaf ∧ Signs P leaf input signature := by
  simp only [verifyContentSignature, bind_ok_iff, ensure_ok_iff, get_ok_iff, fromX509_ok_iff, beq_iff_eq] at h
  obtain ⟨-, hc, leaf, hl, sigDecode, hd, sigDer, hs, -, ha, keybits, -, hv⟩ := h
  refine ⟨fun x hx => ?_, leaf, hl, sigDecode, sigDer, _, hd, hs, ha, hv⟩
  have hx := List.all_eq_true.mp hc x hx
  rw [isCodeSigning] at hx
  split at hx
  · cases hx
  · cases hx
  · next hk => exact hk.trans (by rw [hx])

variable [DecidableEq Name]

lemma verifyCertChainPair_ok_iff : verifyCertChainPair P now subject issuer = .ok () ↔ Issued P now subject issuer := by
  simp only [verifyCertChainPair, bind_ok_iff, ensure_ok_iff, get_ok_iff, fromX509_ok_iff, beq_iff_eq]
  constructor
  · rintro ⟨-, hn, time, ht, -, hs, -, hi, usage, hu, -, rfl, -, rfl, -, hc, -, hv, hk⟩
    exact ⟨hn, ⟨time, ht, hs, hi⟩, ⟨hu, hc⟩, hv, hk⟩
  · rintro ⟨hn, ⟨time, ht, hs, hi⟩, ⟨hu, hc⟩, hv, hk⟩
    exact ⟨(), hn, time, ht, (), hs, (), hi, _, hu, _, rfl, (), rfl, (), hc, (), hv, hk⟩

lemma verifyPairs_ok_iff : verifyPairs P now chain = .ok () ↔ chain.IsChain (Issued P now) := by
  induction chain with
  | nil => simp [verifyPairs]
  | cons subject chain ih =>
    cases chain with
    | nil => simp [verifyPairs]
    | cons issuer chain =>
      rw [verifyPairs, bind_ok_iff, List.isChain_cons_cons, ← ih, ← verifyCertChainPair_ok_iff]
      exact ⟨fun ⟨_, h⟩ => h, fun h => ⟨(), h⟩⟩

lemma verifyChain_ok_iff : verifyChain P chain now = .ok () ↔ ∃ root, Rooted P now chain root := by
  simp only [verifyChain, bind_ok_iff, get_ok_iff]
  refine exists_congr fun root => ?_
  rw [verifyCertChainPair_ok_iff]
  constructor
  · rintro ⟨hl, ⟨⟩, hp, hr⟩
    exact ⟨hl, verifyPairs_ok_iff.mp hp, hr⟩
  · rintro ⟨hl, hp, hr⟩
    exact ⟨hl, (), verifyPairs_ok_iff.mpr hp, hr⟩

end Balrog

/-- The chain ends in a pinned root, and its leaf has signed the input. -/
def Trusted (P : Primitives Certificate PublicKey Name) (rootHashes : List Bytes) (x5u input signature : Bytes)
    (leafSubject : String) (now : ℤ) : Prop :=
  ∃ pems chain pem leaf root sigStr,
    parsePemChain P x5u = .ok pems ∧
    List.Forall₂ (fun pem x509 => pem.label = "CERTIFICATE" ∧ P.fromDer pem.contents = .ok ([], x509)) pems chain ∧
    pems.getLast? = some pem ∧ P.fromDer pem.contents = .ok ([], root) ∧ P.sha256 pem.contents ∈ rootHashes ∧
    Rooted P now chain root ∧
    chain.head? = some leaf ∧ Named P leaf leafSubject ∧ (∀ x ∈ chain, P.codeSigning x = .ok (some true)) ∧
    toStr signature = some sigStr ∧ Signs P leaf input sigStr

lemma rel_getLast? {R : A → B → Prop} {xs : List A} {ys : List B} (h : List.Forall₂ R xs ys) {x : A} {y : B}
    (hx : xs.getLast? = some x) (hy : ys.getLast? = some y) : R x y := by
  rw [List.getLast?_eq_head?_reverse] at hx hy
  obtain ⟨xs', hxs⟩ := List.head?_eq_some_iff.mp hx
  obtain ⟨ys', hys⟩ := List.head?_eq_some_iff.mp hy
  have h := List.rel_reverse h
  rw [hxs, hys] at h
  exact (List.forall₂_cons.mp h).1

lemma exists_of_computeRootCertificateHash {x5u rootHash : Bytes} (h : computeRootCertificateHash P x5u = some rootHash) :
    ∃ pems pem, parsePemChain P x5u = .ok pems ∧ pems.getLast? = some pem ∧ P.sha256 pem.contents = rootHash := by
  rw [computeRootCertificateHash] at h
  cases hp : parsePemChain P x5u with
  | error e => simp [hp] at h
  | ok pems =>
    rw [hp] at h
    cases hl : pems.getLast? with
    | none => simp [hl] at h
    | some pem =>
      simp only [hl, Option.ite_none_left_eq_some, Option.some.injEq] at h
      exact ⟨pems, pem, rfl, hl, h.2⟩

lemma exists_of_verifyContentSignature [DecidableEq Name] {x5u input signature : Bytes} {leafSubject : String}
    (h : verifyContentSignature P x5u input signature leafSubject now = some true) :
    ∃ sigStr, toStr signature = some sigStr ∧ ∃ pems chain, parsePemChain P x5u = .ok pems ∧
      List.Forall₂ (fun pem x509 => pem.label = "CERTIFICATE" ∧ P.fromDer pem.contents = .ok ([], x509)) pems chain ∧
      Balrog.verify P chain input sigStr now leafSubject = .ok () := by
  rw [verifyContentSignature] at h
  split at h
  · cases h
  · next sigStr hs =>
    refine ⟨sigStr, hs, ?_⟩
    split at h
    · next hv =>
      simp only [bind_ok_iff] at hv
      obtain ⟨pems, hp, chain, hn, hv⟩ := hv
      simp only [Balrog.new, bind_ok_iff, mapM_ok_iff, Balrog.parseCertificate_ok_iff] at hn
      obtain ⟨-, -, hn⟩ := hn
      exact ⟨pems, chain, hp, hn, hv⟩
    · cases h
    · cases h

lemma trusted_of_verified [DecidableEq Name] {rootHashes : List Bytes} {x5u input signature rootHash : Bytes} {leafSubject : String}
    (hh : computeRootCertificateHash P x5u = some rootHash) (hm : rootHash ∈ rootHashes)
    (hv : verifyContentSignature P x5u input signature leafSubject now = some true) :
    Trusted P rootHashes x5u input signature leafSubject now := by
  obtain ⟨pems, pem, hpems, hlast, rfl⟩ := exists_of_computeRootCertificateHash hh
  obtain ⟨sigStr, hsig, pems', chain, hpems', hchain, hverify⟩ := exists_of_verifyContentSignature hv
  obtain rfl : pems = pems' := Except.ok.inj (hpems.symm.trans hpems')
  simp only [Balrog.verify, bind_ok_iff] at hverify
  obtain ⟨⟨⟩, hc, ⟨⟩, hn, hs⟩ := hverify
  obtain ⟨root, hr⟩ := Balrog.verifyChain_ok_iff.mp hc
  obtain ⟨leaf, hl, hn⟩ := Balrog.named_of_verifyLeafHostname hn
  obtain ⟨hk, leaf', hl', hs⟩ := Balrog.signs_of_verifyContentSignature hs
  obtain rfl : leaf = leaf' := Option.some.inj (hl.symm.trans hl')
  have hroot : P.fromDer pem.contents = .ok ([], root) := (rel_getLast? hchain hlast hr.last).2
  exact ⟨pems, chain, pem, leaf, root, sigStr, hpems, hchain, hlast, hroot, hm, hr, hl, hn, hk, hsig, hs⟩

end VpnClient.Update.Signature
