import VpnClient.Authentication.Hkdf
import VpnClient.Ipc.Message

/-! The in-app authentication: a session sends requests to the server of the accounts and follows its answers. -/

namespace VpnClient.Authentication

open Ipc (JsonValue JsonObject)

/-- The states of `AuthenticationInApp`. -/
inductive State where
  | StateInitializing
  | StateStart
  | StateCheckingAccount
  | StateSignIn
  | StateSignUp
  | StateSigningIn
  | StateSigningUp
  | StateUnblockCodeNeeded
  | StateVerifyingUnblockCode
  | StateVerificationSessionByEmailNeeded
  | StateVerifyingSessionEmailCode
  | StateVerificationSessionByTotpNeeded
  | StateVerifyingSessionTotpCode
  | StateIsStubAccount
  | StateIsSsoAccount
  | StateAccountDeletionRequest
  | StateDeletingAccount
  | StateFallbackInBrowser
  deriving DecidableEq, Repr

inductive ErrorType where
  | ErrorAccountAlreadyExists
  | ErrorEmailCanNotBeUsedToLogin
  | ErrorEmailTypeNotSupported
  | ErrorFailedToSendEmail
  | ErrorIncorrectPassword
  | ErrorInvalidEmailAddress
  | ErrorInvalidOrExpiredVerificationCode
  | ErrorInvalidUnblockCode
  | ErrorInvalidTotpCode
  | ErrorTooManyRequests
  | ErrorServerUnavailable
  | ErrorConnectionTimeout
  | ErrorUnknownAccount
  deriving DecidableEq, Repr

inductive TypeAuthentication where
  | TypeDefault
  | TypeAccountDeletion
  | TypeSubscriptionManagement
  deriving DecidableEq, Repr

inductive SessionType where
  | SignIn
  | SignUp
  | Undefined
  deriving DecidableEq, Repr

inductive NetworkError where
  | TimeoutError
  | OperationCanceledError
  | other (code : ℕ)
  deriving DecidableEq, Repr

/-- The errors that a session fails with. -/
inductive Failure where
  | AuthenticationError
  | toErrorType (error : NetworkError)
  deriving DecidableEq, Repr

structure FxaParams where
  clientId : String := ""
  deviceId : String := ""
  state : String := ""
  scope : String := ""
  accessType : String := ""
  flowId : String := ""
  flowBeginTime : ℚ := 0
  deriving DecidableEq

/-- The function that has sent a request, with what its handlers have captured. -/
inductive Handler where
  | start (emailAddress : String)
  | checkAccount
  | signInInternal (unblockCode : String)
  | signUp
  | sendUnblockCodeEmail
  | verifySessionEmailCode
  | resendVerificationSessionCodeEmail
  | verifySessionTotpCode
  | startAccountDeletionFlow
  | deleteAccount
  | finalizeSignInOrUp
  | redirect
  | terminate
  deriving DecidableEq, Repr

/-- A request, which is posted if it has a body, and signed by a session token if it has one. -/
structure Request where
  url : String
  body : Option JsonObject := none
  hawk : Option Bytes := none
  handler : Handler

inductive Reply where
  | requestCompleted (data : Bytes)
  | requestFailed (error : NetworkError) (data : Bytes)

/-- What is seen of a session from outside, with the list that is shown when it changes. -/
inductive Effect where
  | request (request : Request)
  | state (state : State)
  | error (error : ErrorType) (retryAfterSec : ℕ)
  | emailAddressChanged
  | attachedClientsChanged (attachedClients : List String)
  | failed (failure : Failure)
  | completed (code : String)
  | fallbackRequired
  | accountDeleted
  | terminated

/-- What the session is built on. A document is an object or an array. -/
structure Platform where
  fxaApiBaseUrl : String
  authenticationUrl : String → String → String → String
  fromJson : Bytes → Option JsonValue
  toDouble : String → ℚ
  toLower : String → String
  fromPercentEncoding : String → String
  deriveKeyPbkdf2 : String → String → Bytes
  sha256 : Hmac Unit

namespace Platform

/-- The object of a document, which is empty if there is none. -/
def object (p : Platform) (data : Bytes) : JsonObject := ((p.fromJson data).bind JsonValue.object?).getD []

def isObject (p : Platform) (data : Bytes) : Bool := ((p.fromJson data).bind JsonValue.object?).isSome

end Platform

def toText (obj : JsonObject) (name : String) : String := (obj.string? name).getD ""

def toBool (obj : JsonObject) (name : String) : Bool := (obj.bool? name).getD false

def toInt (obj : JsonObject) (name : String) : ℤ := ((obj.value name).map JsonValue.toInt).getD 0

def toObject (obj : JsonObject) (name : String) : JsonObject := ((obj.value name).bind JsonValue.object?).getD []

def hexDigit (n : ℕ) : Char := Char.ofNat (if n < 10 then 48 + n else 87 + n)

def toHex (data : Bytes) : String :=
  String.ofList (data.flatMap fun b => [hexDigit (b.toNat / 16), hexDigit (b.toNat % 16)])

def hexValue (c : Char) : Option ℕ :=
  if '0' ≤ c ∧ c ≤ '9' then some (c.toNat - 48)
  else if 'a' ≤ c ∧ c ≤ 'f' then some (c.toNat - 87)
  else if 'A' ≤ c ∧ c ≤ 'F' then some (c.toNat - 55)
  else none

/-- Pairs of digits, from the last ones on. -/
def hexBytes : List ℕ → Bytes
  | [] => []
  | [low] => [UInt8.ofNat low]
  | low :: high :: digits => UInt8.ofNat (16 * high + low) :: hexBytes digits

def fromHex (text : String) : Bytes := (hexBytes (text.toList.filterMap hexValue).reverse).reverse

/-- What the dispatcher of the errors does. -/
inductive ErrorAction where
  | propagate (state : State) (error : ErrorType) (retryAfterSec : ℕ)
  | unblockCodeNeeded
  | unsupported
  deriving DecidableEq

/-- The session, with the state of `AuthenticationInApp`. The requests that are not yet answered have the newest in
front, and the effects are those of the last event. -/
structure AuthenticationInAppSession where
  typeAuthentication : TypeAuthentication := .TypeDefault
  sessionType : SessionType := .Undefined
  fxaParams : FxaParams := {}
  emailAddress : String := ""
  password : String := ""
  emailAddressCaseFix : String := ""
  originalLoginEmailAddress : String := ""
  sessionToken : Bytes := []
  attachedClients : List String := []
  state : State := .StateInitializing
  pending : List Request := []
  ended : Bool := false
  effects : List Effect := []
  telemetry : List String := []

namespace AuthenticationInAppSession

variable (p : Platform)

def emit (effect : Effect) (s : AuthenticationInAppSession) : AuthenticationInAppSession :=
  { s with effects := s.effects ++ [effect] }

def record (name : String) (s : AuthenticationInAppSession) : AuthenticationInAppSession :=
  { s with telemetry := s.telemetry ++ [name] }

/-- Telemetry of the authentication flow. -/
def recordFlow (name : String) (s : AuthenticationInAppSession) : AuthenticationInAppSession :=
  if s.typeAuthentication = .TypeDefault then s.record name else s

def requestState (state : State) (s : AuthenticationInAppSession) : AuthenticationInAppSession :=
  { s with state }.emit (.state state)

def requestErrorPropagation (error : ErrorType) (retryAfterSec : ℕ) (s : AuthenticationInAppSession) :
    AuthenticationInAppSession :=
  s.emit (.error error retryAfterSec)

def fail (failure : Failure) (s : AuthenticationInAppSession) : AuthenticationInAppSession :=
  { s with ended := true }.emit (.failed failure)

def complete (code : String) (s : AuthenticationInAppSession) : AuthenticationInAppSession :=
  { s with ended := true }.emit (.completed code)

def send (request : Request) (s : AuthenticationInAppSession) : AuthenticationInAppSession :=
  { s with pending := request :: s.pending }.emit (.request request)

def post (path : String) (body : JsonObject) (handler : Handler) (s : AuthenticationInAppSession) :
    AuthenticationInAppSession :=
  s.send { url := p.fxaApiBaseUrl ++ path, body := some body, handler }

def fxaHawkPostRequest (path : String) (body : JsonObject) (handler : Handler) (s : AuthenticationInAppSession) :
    AuthenticationInAppSession :=
  s.send { url := p.fxaApiBaseUrl ++ path, body := some body, hawk := some s.sessionToken, handler }

def checkAccount (emailAddress : String) (s : AuthenticationInAppSession) : AuthenticationInAppSession :=
  let s := { s with emailAddress := p.toLower emailAddress, emailAddressCaseFix := emailAddress }
  let s := (s.emit .emailAddressChanged).requestState .StateCheckingAccount
  s.post p "/v1/account/status" [("email", .string s.emailAddress), ("thirdPartyAuthStatus", .bool true)] .checkAccount

def accountChecked (inAppAccountCreate : Bool) (obj : JsonObject) (s : AuthenticationInAppSession) :
    AuthenticationInAppSession :=
  let accountExists := toBool obj "exists"
  let hasPassword := toBool obj "hasPassword"
  let hasLinkedAccount := toBool obj "hasLinkedAccount"
  if accountExists && hasLinkedAccount && !hasPassword then s.requestState .StateIsSsoAccount
  else if accountExists && !hasPassword then s.requestState .StateIsStubAccount
  else if accountExists then s.requestState .StateSignIn
  else if inAppAccountCreate then s.requestState .StateSignUp
  else { s.requestState .StateFallbackInBrowser with ended := true }.emit .fallbackRequired

def generateAuthPw (s : AuthenticationInAppSession) : Bytes :=
  let salt := "identity.mozilla.com/picl/v1/quickStretch:" ++ s.emailAddressCaseFix
  ((HKDF.create p.sha256 () []).addData (p.deriveKeyPbkdf2 s.password salt)).result p.sha256 32
    "identity.mozilla.com/picl/v1/authPW".toUTF8.toList

def metricsContext (s : AuthenticationInAppSession) : JsonValue :=
  .object
    [("deviceId", .string s.fxaParams.deviceId), ("flowId", .string s.fxaParams.flowId),
      ("flowBeginTime", .double s.fxaParams.flowBeginTime)]

def signInInternal (unblockCode : String) (s : AuthenticationInAppSession) : AuthenticationInAppSession :=
  s.post p "/v1/account/login"
    ([("email", .string s.emailAddressCaseFix), ("authPW", .string (toHex (s.generateAuthPw p))),
      ("reason", .string "signin"), ("service", .string s.fxaParams.clientId), ("skipErrorCase", .bool true),
      ("verificationMethod", .string "email-otp"), ("metricsContext", s.metricsContext)] ++
      (if s.originalLoginEmailAddress = "" then []
        else [("originalLoginEmail", .string s.originalLoginEmailAddress)]) ++
      (if unblockCode = "" then [] else [("unblockCode", .string unblockCode)]))
    (.signInInternal unblockCode)

def signIn (s : AuthenticationInAppSession) : AuthenticationInAppSession :=
  (({ s with sessionType := .SignIn }.recordFlow "login_started").requestState .StateSigningIn).signInInternal p ""

def signUp (s : AuthenticationInAppSession) : AuthenticationInAppSession :=
  let s := ({ s with sessionType := .SignUp }.recordFlow "registration_started").requestState .StateSigningUp
  s.post p "/v1/account/create"
    [("email", .string s.emailAddressCaseFix), ("authPW", .string (toHex (s.generateAuthPw p))),
      ("service", .string s.fxaParams.clientId), ("verificationMethod", .string "email-otp"),
      ("metricsContext", s.metricsContext)]
    .signUp

def sendUnblockCodeEmail (s : AuthenticationInAppSession) : AuthenticationInAppSession :=
  s.post p "/v1/account/login/send_unblock_code" [("email", .string s.emailAddressCaseFix)] .sendUnblockCodeEmail

def unblockCodeNeeded (s : AuthenticationInAppSession) : AuthenticationInAppSession :=
  (s.requestState .StateUnblockCodeNeeded).sendUnblockCodeEmail p

def verifyUnblockCode (unblockCode : String) (s : AuthenticationInAppSession) : AuthenticationInAppSession :=
  (s.requestState .StateVerifyingUnblockCode).signInInternal p unblockCode

def parsedScope (scope : String) : String :=
  if scope.startsWith "http" then p.fromPercentEncoding scope else scope

def verifySessionEmailCode (code : String) (s : AuthenticationInAppSession) : AuthenticationInAppSession :=
  let scopes := (s.fxaParams.scope.toList.splitOn ' ').map fun scope => parsedScope p (String.ofList scope)
  (s.requestState .StateVerifyingSessionEmailCode).fxaHawkPostRequest p "/v1/session/verify_code"
    [("code", .string code), ("service", .string s.fxaParams.clientId), ("scopes", .array (scopes.map .string))]
    .verifySessionEmailCode

def resendVerificationSessionCodeEmail (s : AuthenticationInAppSession) : AuthenticationInAppSession :=
  s.fxaHawkPostRequest p "/v1/session/resend_code" [] .resendVerificationSessionCodeEmail

def verifySessionTotpCode (code : String) (s : AuthenticationInAppSession) : AuthenticationInAppSession :=
  (s.requestState .StateVerifyingSessionTotpCode).fxaHawkPostRequest p "/v1/session/verify/totp"
    [("code", .string code), ("service", .string s.fxaParams.clientId),
      ("scopes", .array [.string s.fxaParams.scope])]
    .verifySessionTotpCode

def startAccountDeletionFlow (s : AuthenticationInAppSession) : AuthenticationInAppSession :=
  s.send
    { url := p.fxaApiBaseUrl ++ "/v1/account/attached_clients", hawk := some s.sessionToken
      handler := .startAccountDeletionFlow }

def deleteAccount (s : AuthenticationInAppSession) : AuthenticationInAppSession :=
  (s.fxaHawkPostRequest p "/v1/account/destroy"
    [("email", .string s.emailAddress), ("authPW", .string (toHex (s.generateAuthPw p)))] .deleteAccount).record
    "delete_account_clicked"

def finalizeSignInOrUp (s : AuthenticationInAppSession) : AuthenticationInAppSession :=
  s.fxaHawkPostRequest p "/v1/oauth/authorization"
    [("client_id", .string s.fxaParams.clientId), ("state", .string s.fxaParams.state),
      ("scope", .string s.fxaParams.scope), ("access_type", .string s.fxaParams.accessType)]
    .finalizeSignInOrUp

def signInOrUpCompleted (obj : JsonObject) (s : AuthenticationInAppSession) : AuthenticationInAppSession :=
  let s := { s with sessionToken := fromHex (toText obj "sessionToken") }
  let verificationMethod := toText obj "verificationMethod"
  if !toBool obj "verified" then
    if verificationMethod = "totp-2fa" then s.requestState .StateVerificationSessionByTotpNeeded
    else if verificationMethod = "email-otp" then s.requestState .StateVerificationSessionByEmailNeeded
    else s
  else s.finalizeSignInOrUp p

/-- The keys of a failed validation that are texts. -/
def validationKeys (obj : JsonObject) : List String :=
  (((toObject obj "validation").array? "keys").getD []).filterMap JsonValue.string?

/-- The cases of `processErrorObject`. A code that is invalid may be one for either verification. -/
def errorAction (type : TypeAuthentication) (state : State) (obj : JsonObject) : ErrorAction :=
  match toInt obj "errno" with
  | 101 => .propagate .StateStart .ErrorAccountAlreadyExists 0
  | 102 => .propagate .StateStart .ErrorUnknownAccount 0
  | 103 => .propagate .StateSignIn .ErrorIncorrectPassword 0
  | 107 =>
    if "unblockCode" ∈ validationKeys obj then .propagate .StateUnblockCodeNeeded .ErrorInvalidUnblockCode 0
    else if "email" ∈ validationKeys obj then .propagate .StateStart .ErrorInvalidEmailAddress 0
    else if "code" ∈ validationKeys obj then
      if state = .StateVerifyingSessionTotpCode then
        .propagate .StateVerificationSessionByTotpNeeded .ErrorInvalidTotpCode 0
      else .propagate .StateVerificationSessionByEmailNeeded .ErrorInvalidOrExpiredVerificationCode 0
    else .unsupported
  | 114 =>
    .propagate (if type = .TypeDefault then .StateStart else .StateSignIn) .ErrorTooManyRequests
      (toInt obj "retryAfter" % 2 ^ 32).toNat
  | 125 => if toText obj "verificationMethod" = "email-captcha" then .unblockCodeNeeded else .unsupported
  | 127 => .propagate .StateUnblockCodeNeeded .ErrorInvalidUnblockCode 0
  | 142 => .propagate .StateStart .ErrorEmailTypeNotSupported 0
  | 149 => .propagate .StateStart .ErrorEmailCanNotBeUsedToLogin 0
  | 151 => .propagate .StateSignIn .ErrorFailedToSendEmail 0
  | 183 => .propagate .StateVerificationSessionByEmailNeeded .ErrorInvalidOrExpiredVerificationCode 0
  | 201 => .propagate .StateStart .ErrorServerUnavailable 0
  | _ => .unsupported

def processErrorObject (obj : JsonObject) (s : AuthenticationInAppSession) : AuthenticationInAppSession :=
  match errorAction s.typeAuthentication s.state obj with
  | .propagate state error retryAfterSec => (s.requestState state).requestErrorPropagation error retryAfterSec
  | .unblockCodeNeeded => s.unblockCodeNeeded p
  | .unsupported => s

def processRequestFailure (error : NetworkError) (data : Bytes) (s : AuthenticationInAppSession) :
    AuthenticationInAppSession :=
  if p.isObject data then s.processErrorObject p (p.object data) else s.fail (.toErrorType error)

/-- Sets the parameters one by one, up to one that is missing. -/
def getParams (params : JsonObject) :
    List (String × (JsonValue → FxaParams → FxaParams)) → FxaParams → Bool × FxaParams
  | [], fxaParams => (true, fxaParams)
  | (name, set) :: rest, fxaParams =>
    match params.value name with
    | none => (false, fxaParams)
    | some value => getParams params rest (set value fxaParams)

def text (value : JsonValue) : String := value.string?.getD ""

def started (emailAddress : String) (data : Bytes) (s : AuthenticationInAppSession) : AuthenticationInAppSession :=
  match ((p.object data).value "fxa_oauth").bind JsonValue.object? with
  | none => s.fail .AuthenticationError
  | some fxaObj =>
    match (JsonObject.value fxaObj "params").bind JsonValue.object? with
    | none => s.fail .AuthenticationError
    | some paramsObj =>
      let params := getParams paramsObj
        [("client_id", fun value f => { f with clientId := text value }),
          ("device_id", fun value f => { f with deviceId := text value }),
          ("state", fun value f => { f with state := text value }),
          ("scope", fun value f => { f with scope := text value }),
          ("access_type", fun value f => { f with accessType := text value }),
          ("flow_id", fun value f => { f with flowId := text value }),
          ("flow_begin_time", fun value f => { f with flowBeginTime := p.toDouble (text value) })] s.fxaParams
      let s := { s with fxaParams := params.2 }
      if !params.1 then s.fail .AuthenticationError
      else if emailAddress = "" then s.requestState .StateStart
      else s.checkAccount p emailAddress

/-- The names of the clients, each once, up to a value that is none. -/
def appendClients : List JsonValue → List String → Bool × List String
  | [], clients => (true, clients)
  | clientValue :: values, clients =>
    match clientValue.object? with
    | none => (false, clients)
    | some clientObj =>
      match JsonObject.string? clientObj "name" with
      | none => (false, clients)
      | some name => appendClients values (if name = "" ∨ name ∈ clients then clients else clients ++ [name])

def attachedClientsReceived (data : Bytes) (s : AuthenticationInAppSession) : AuthenticationInAppSession :=
  match p.fromJson data with
  | none => s.fail .AuthenticationError
  | some json =>
    let appended := appendClients (json.array?.getD []) s.attachedClients
    let s := { s with attachedClients := appended.2 }
    if !appended.1 then s.fail .AuthenticationError
    else (s.emit (.attachedClientsChanged s.attachedClients)).requestState .StateAccountDeletionRequest

def oauthCodeCreated (data : Bytes) (s : AuthenticationInAppSession) : AuthenticationInAppSession :=
  match (p.object data).string? "code", (p.object data).string? "state", (p.object data).string? "redirect" with
  | some _, some _, some redirect => s.send { url := redirect, handler := .redirect }
  | _, _, _ => s.fail .AuthenticationError

def redirectCompleted (data : Bytes) (s : AuthenticationInAppSession) : AuthenticationInAppSession :=
  match (p.object data).string? "code" with
  | none => s.fail .AuthenticationError
  | some code =>
    let s := match s.sessionType with
      | .SignIn => s.recordFlow "login_ended"
      | .SignUp => s.recordFlow "registration_completed"
      | .Undefined => s
    s.complete code

def redirectFailed (error : NetworkError) (data : Bytes) (s : AuthenticationInAppSession) :
    AuthenticationInAppSession :=
  s.fail (if p.isObject data then .AuthenticationError else .toErrorType error)

def totpCodeVerified (data : Bytes) (s : AuthenticationInAppSession) : AuthenticationInAppSession :=
  if (p.fromJson data).isNone then s.fail .AuthenticationError
  else if toBool (p.object data) "success" then
    (s.recordFlow "two_fa_verification_succeeded totp").finalizeSignInOrUp p
  else
    ((s.recordFlow "two_fa_verification_failed totp").requestState
      .StateVerificationSessionByTotpNeeded).requestErrorPropagation .ErrorInvalidTotpCode 0

/-- Whether a reply to a sign in corrects the case of the email address. -/
def correctedEmail (data : Bytes) : Option String :=
  if p.isObject data ∧ toInt (p.object data) "errno" = 120 ∧ toText (p.object data) "email" ≠ "" then
    some (toText (p.object data) "email")
  else none

def signInFailed (unblockCode : String) (error : NetworkError) (data : Bytes) (s : AuthenticationInAppSession) :
    AuthenticationInAppSession :=
  if error = .TimeoutError then (s.requestState .StateSignIn).requestErrorPropagation .ErrorConnectionTimeout 0
  else
    match correctedEmail p data with
    | some email =>
      { s with originalLoginEmailAddress := s.emailAddressCaseFix, emailAddressCaseFix := email }.signInInternal p
        unblockCode
    | none =>
      (if unblockCode = "" then s else s.recordFlow "two_fa_verification_failed unblock_code").processRequestFailure p
        error data

/-- What the handlers of a request do when it has completed. -/
def requestCompleted (inAppAccountCreate : Bool) (handler : Handler) (data : Bytes) (s : AuthenticationInAppSession) :
    AuthenticationInAppSession :=
  match handler with
  | .start emailAddress => s.started p emailAddress data
  | .checkAccount => s.accountChecked inAppAccountCreate (p.object data)
  | .signInInternal unblockCode =>
    (if unblockCode = "" then s else s.recordFlow "two_fa_verification_succeeded unblock_code").signInOrUpCompleted p
      (p.object data)
  | .signUp => s.signInOrUpCompleted p (p.object data)
  | .verifySessionEmailCode => (s.recordFlow "two_fa_verification_succeeded email").finalizeSignInOrUp p
  | .verifySessionTotpCode => s.totpCodeVerified p data
  | .startAccountDeletionFlow => s.attachedClientsReceived p data
  | .deleteAccount => s.emit .accountDeleted
  | .finalizeSignInOrUp => s.oauthCodeCreated p data
  | .redirect => s.redirectCompleted p data
  | .terminate => s.emit .terminated
  | .sendUnblockCodeEmail | .resendVerificationSessionCodeEmail => s

def requestFailed (handler : Handler) (error : NetworkError) (data : Bytes) (s : AuthenticationInAppSession) :
    AuthenticationInAppSession :=
  match handler with
  | .start _ => if error = .OperationCanceledError then s else s.processRequestFailure p error data
  | .signInInternal unblockCode => s.signInFailed p unblockCode error data
  | .verifySessionEmailCode => (s.recordFlow "two_fa_verification_failed email").processRequestFailure p error data
  | .verifySessionTotpCode => (s.recordFlow "two_fa_verification_failed totp").processRequestFailure p error data
  | .deleteAccount => s.emit .accountDeleted
  | .redirect => s.redirectFailed p error data
  | .terminate => s.emit .terminated
  | .checkAccount | .signUp | .sendUnblockCodeEmail | .resendVerificationSessionCodeEmail
  | .startAccountDeletionFlow | .finalizeSignInOrUp => s.processRequestFailure p error data

/-- The restart of the flow by `AuthenticationInApp`. -/
def reset (s : AuthenticationInAppSession) : AuthenticationInAppSession :=
  { s.requestState .StateStart with sessionToken := [], emailAddress := "", emailAddressCaseFix := "" }.emit
    .emailAddressChanged

def terminate (s : AuthenticationInAppSession) : AuthenticationInAppSession :=
  if s.sessionToken = [] then s.emit .terminated
  else s.fxaHawkPostRequest p "/v1/session/destroy" [] .terminate

def start (codeChallenge codeChallengeMethod emailAddress : String) (s : AuthenticationInAppSession) :
    AuthenticationInAppSession :=
  s.send
    { url := p.authenticationUrl codeChallenge codeChallengeMethod emailAddress
      handler := .start emailAddress }

inductive Event where
  | start (codeChallenge codeChallengeMethod emailAddress : String)
  | checkAccount (emailAddress : String)
  | setPassword (password : String)
  | signIn
  | signUp
  | verifyUnblockCode (unblockCode : String)
  | sendUnblockCodeEmail
  | verifySessionEmailCode (code : String)
  | resendVerificationSessionCodeEmail
  | verifySessionTotpCode (code : String)
  | startAccountDeletionFlow
  | deleteAccount
  | reset
  | terminate
  | reply (index : ℕ) (reply : Reply) (inAppAccountCreate : Bool)

/-- The request is answered. -/
def receive (request : Request) (reply : Reply) (inAppAccountCreate : Bool) (s : AuthenticationInAppSession) :
    AuthenticationInAppSession :=
  match reply with
  | .requestCompleted data => s.requestCompleted p inAppAccountCreate request.handler data
  | .requestFailed error data => s.requestFailed p request.handler error data

def handle (s : AuthenticationInAppSession) : Event → AuthenticationInAppSession
  | .start codeChallenge codeChallengeMethod emailAddress => s.start p codeChallenge codeChallengeMethod emailAddress
  | .checkAccount emailAddress => s.checkAccount p emailAddress
  | .setPassword password => { s with password }
  | .signIn => s.signIn p
  | .signUp => s.signUp p
  | .verifyUnblockCode unblockCode => s.verifyUnblockCode p unblockCode
  | .sendUnblockCodeEmail => s.sendUnblockCodeEmail p
  | .verifySessionEmailCode code => s.verifySessionEmailCode p code
  | .resendVerificationSessionCodeEmail => s.resendVerificationSessionCodeEmail p
  | .verifySessionTotpCode code => s.verifySessionTotpCode p code
  | .startAccountDeletionFlow => s.startAccountDeletionFlow p
  | .deleteAccount => s.deleteAccount p
  | .reset => s.reset
  | .terminate => s.terminate p
  | .reply index reply inAppAccountCreate =>
    match s.pending[index]? with
    | none => s
    | some request => { s with pending := s.pending.eraseIdx index }.receive p request reply inAppAccountCreate

def step (s : AuthenticationInAppSession) (e : Event) : AuthenticationInAppSession :=
  handle p { s with effects := [] } e

end AuthenticationInAppSession

end VpnClient.Authentication
