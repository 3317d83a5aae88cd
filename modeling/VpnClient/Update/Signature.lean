import VpnClient.Ipc.Message

/-! The signature crate: certificate chains in PEM, and the content signatures of their leaves. -/

namespace VpnClient.Update

open Ipc (Bytes)

structure Pem where
  label : String
  contents : Bytes

inductive X509Error where
  | InvalidCertificate
  | SignatureUnsupportedAlgorithm
  | other (text : String)

inductive BalrogError where
  | CertificateNotFound
  | ChainSubjectMismatch
  | CertificateExpired
  | IssuerUnauthorized
  | CodeSignUnauthorized
  | HostnameMismatch
  | SignatureDecodeError
  | PemDecodeError (text : String)
  | X509ValidationError (text : String)
  | X509 (error : X509Error)

/-- Why a function does not return a value: an error, or a panic that ends the process. -/
inductive Failure where
  | error (error : BalrogError)
  | panicked

inductive GeneralName where
  | DNSName (name : String)
  | other (name : Bytes)
  deriving DecidableEq

inductive Oid where
  | OID_KEY_TYPE_EC_PUBLIC_KEY
  | OID_SIG_ECDSA_WITH_SHA256
  | OID_SIG_ECDSA_WITH_SHA384
  | other (text : String)
  deriving DecidableEq

/-- The parsers of PEM and X.509, the hash functions and the signature primitives. -/
structure Primitives (Certificate PublicKey Name : Type) where
  iterFromBuffer : Bytes → List (Except String Pem)
  fromDer : Bytes → Except X509Error (Bytes × Certificate)
  subject : Certificate → Name
  issuer : Certificate → Name
  fromTimestamp : ℤ → Except X509Error ℤ
  isValidAt : Certificate → ℤ → Bool
  keyCertSign : Certificate → Except X509Error (Option Bool)
  isCa : Certificate → Bool
  validate : Certificate → Bool × List String
  publicKey : Certificate → PublicKey
  verifySignature : Certificate → PublicKey → Except X509Error Unit
  commonNames : Certificate → List (Except X509Error String)
  subjectAlternativeName : Certificate → Except X509Error (Option (List GeneralName))
  codeSigning : Certificate → Except X509Error (Option Bool)
  algorithm : PublicKey → Oid
  keySize : PublicKey → Except X509Error ℕ
  verify : PublicKey → Oid → Bytes → Bytes → Except X509Error Unit
  base64Decode : String → Option Bytes
  integersToDer : Bytes → Bytes → Option Bytes
  sha256 : Bytes → Bytes
  sha512 : Bytes → Bytes

namespace Signature

variable {Certificate PublicKey Name A : Type}

def fromX509 (result : Except X509Error A) : Except Failure A := result.mapError fun e => .error (.X509 e)

/-- Goes on if the condition holds, and returns the error otherwise. -/
def ensure (condition : Bool) (error : BalrogError) : Except Failure Unit :=
  if condition then .ok () else .error (.error error)

def get (value : Option A) (error : BalrogError) : Except Failure A := value.elim (.error (.error error)) .ok

variable [DecidableEq Name] (P : Primitives Certificate PublicKey Name)

def parsePemChain (input : Bytes) : Except Failure (List Pem) :=
  (P.iterFromBuffer input).mapM fun pem => pem.mapError fun text => .error (.PemDecodeError text)

namespace Balrog

def parseCertificate (pem : Pem) : Except Failure Certificate := do
  ensure (pem.label == "CERTIFICATE") (.X509 .InvalidCertificate)
  let (tail, x509) ← fromX509 (P.fromDer pem.contents)
  ensure tail.isEmpty (.X509 .InvalidCertificate)
  return x509

def new (list : List Pem) : Except Failure (List Certificate) := do
  ensure (!list.isEmpty) .CertificateNotFound
  list.mapM (parseCertificate P)

def verifyCertChainPair (currentTime : ℤ) (subject issuer : Certificate) : Except Failure Unit := do
  ensure (P.issuer subject == P.subject issuer) .ChainSubjectMismatch
  let asnTimestamp ← fromX509 (P.fromTimestamp currentTime)
  ensure (P.isValidAt subject asnTimestamp) .CertificateExpired
  ensure (P.isValidAt issuer asnTimestamp) .CertificateExpired
  let caKeyUsage ← fromX509 (P.keyCertSign issuer)
  let keyCertSign ← get caKeyUsage .IssuerUnauthorized
  ensure keyCertSign .IssuerUnauthorized
  ensure (P.isCa issuer) .IssuerUnauthorized
  ensure (P.validate subject).1 (.X509ValidationError ((P.validate subject).2.head?.getD "Unknown error"))
  fromX509 (P.verifySignature subject (P.publicKey issuer))

/-- The loop of `verifyChain`. -/
def verifyPairs (currentTime : ℤ) : List Certificate → Except Failure Unit
  | subject :: issuer :: chain => do
    verifyCertChainPair P currentTime subject issuer
    verifyPairs currentTime (issuer :: chain)
  | _ => return ()

def verifyChain (chain : List Certificate) (currentTime : ℤ) : Except Failure Unit := do
  let rootCert ← get chain.getLast? .CertificateNotFound
  verifyPairs P currentTime chain
  verifyCertChainPair P currentTime rootCert rootCert

def hasCommonName (hostname : String) : List (Except X509Error String) → Except Failure Bool
  | [] => return false
  | cn :: cns => do
    let name ← fromX509 cn
    if name = hostname then return true else hasCommonName hostname cns

def verifyLeafHostname (chain : List Certificate) (hostname : String) : Except Failure Unit := do
  let leaf ← get chain.head? .CertificateNotFound
  let named ← hasCommonName hostname (P.commonNames leaf)
  if named then return ()
  else
    let names ← fromX509 (P.subjectAlternativeName leaf)
    ensure (decide (.DNSName hostname ∈ names.getD [])) .HostnameMismatch

/-- An integer without sign as one with sign. -/
def toSigned : Bytes → Except Failure Bytes
  | [] => .error .panicked -- the first byte is read unchecked
  | b :: bytes => .ok (if b &&& 0x80 ≠ 0 then 0 :: b :: bytes else b :: bytes)

def ecdsaSignatureToAsn1 (input : Bytes) : Except Failure Bytes := do
  let r ← toSigned (input.take (input.length / 2))
  let s ← toSigned (input.drop (input.length / 2))
  get (P.integersToDer r s) .SignatureDecodeError

def isCodeSigning (x : Certificate) : Bool :=
  match P.codeSigning x with
  | .error _ => false
  | .ok none => false
  | .ok (some codeSigning) => codeSigning

/-- The text that goes before the signed data. -/
def signedPrefix : Bytes := "Content-Signature:\x00".toList.map fun c => c.toNat.toUInt8

def verifyContentSignature (chain : List Certificate) (input : Bytes) (signature : String) : Except Failure Unit := do
  ensure (chain.all (isCodeSigning P)) .CodeSignUnauthorized
  let leaf ← get chain.head? .CertificateNotFound
  let sigDecode ← get (P.base64Decode signature) .SignatureDecodeError
  let sigDer ← ecdsaSignatureToAsn1 P sigDecode
  ensure (P.algorithm (P.publicKey leaf) == .OID_KEY_TYPE_EC_PUBLIC_KEY) (.X509 .SignatureUnsupportedAlgorithm)
  let keybits ← fromX509 (P.keySize (P.publicKey leaf))
  fromX509 (P.verify (P.publicKey leaf)
    (if keybits ≤ 256 then .OID_SIG_ECDSA_WITH_SHA256 else .OID_SIG_ECDSA_WITH_SHA384) sigDer (signedPrefix ++ input))

def verify (chain : List Certificate) (input : Bytes) (signature : String) (currentTime : ℤ) (leafSubject : String) :
    Except Failure Unit := do
  verifyChain P chain currentTime
  verifyLeafHostname P chain leafSubject
  verifyContentSignature P chain input signature

end Balrog

/-- The hash of the last certificate, in a buffer of the length of a hash. -/
def computeRootCertificateHash (x5u : Bytes) : Option Bytes :=
  match parsePemChain P x5u with
  | .error _ => none
  | .ok pemChain =>
    match pemChain.getLast? with
    | none => none
    | some pem => if pem.label ≠ "CERTIFICATE" then none else some (P.sha256 pem.contents)

/-- The text of a string that ends with a zero. -/
def toStr (bytes : Bytes) : Option String := String.fromUTF8? ⟨(bytes.takeWhile (· ≠ 0)).toArray⟩

/-- Whether the signature is valid, unless the process ends. -/
def verifyContentSignature (x5u input signature : Bytes) (leafSubject : String) (now : ℤ) : Option Bool :=
  match toStr signature with
  | none => some false
  | some sigStr =>
    match (do
      let pemChain ← parsePemChain P x5u
      let balrog ← Balrog.new P pemChain
      Balrog.verify P balrog input sigStr now leafSubject) with
    | .ok () => some true
    | .error (.error _) => some false
    | .error .panicked => none

end Signature

end VpnClient.Update
