import VpnClient.Authentication.AuthenticationInAppSession
import VpnClient.Library.Runs

/-! The answers of the server to a session: those that are passed over in silence leave the user waiting, and those to
requests from before a reset reach the new sign in. -/

namespace VpnClient.Authentication

open Ipc (JsonValue JsonObject)
open Library.Runs

def State.waiting : State → Bool
  | .StateCheckingAccount | .StateSigningIn | .StateSigningUp | .StateVerifyingUnblockCode
  | .StateVerifyingSessionEmailCode | .StateVerifyingSessionTotpCode => true
  | _ => false

/-- Whether the completion of a request leaves a waiting state, sends another request or ends the session. -/
def Handler.moves : Handler → Bool
  | .sendUnblockCodeEmail | .resendVerificationSessionCodeEmail | .deleteAccount | .terminate => false
  | _ => true

namespace AuthenticationInAppSession

/-- A session that waits has a request that will move it, unless it has ended. -/
def NotStuck (s : AuthenticationInAppSession) : Prop :=
  s.state.waiting = true → s.ended = false → ∃ request ∈ s.pending, request.handler.moves = true

variable (p : Platform)

/-- An error object that the dispatcher only logs. -/
def unsupported (s : AuthenticationInAppSession) (data : Bytes) : Bool :=
  p.isObject data && errorAction s.typeAuthentication s.state (p.object data) = .unsupported

/-- A session that is not verified, in a way that is not known. -/
def unknownVerification (obj : JsonObject) : Bool :=
  !toBool obj "verified" && toText obj "verificationMethod" ≠ "totp-2fa" &&
    toText obj "verificationMethod" ≠ "email-otp"

/-- Whether a reply is passed over in silence. -/
def silent (s : AuthenticationInAppSession) (handler : Handler) : Reply → Bool
  | .requestCompleted data =>
    match handler with
    | .signInInternal _ | .signUp => unknownVerification (p.object data)
    | _ => !handler.moves
  | .requestFailed error data =>
    match handler with
    | .start _ => error = .OperationCanceledError || unsupported p s data
    | .signInInternal _ => error ≠ .TimeoutError && (correctedEmail p data).isNone && unsupported p s data
    | .deleteAccount | .terminate => true
    | .redirect => false
    | _ => unsupported p s data

/-- A silent reply leaves another request that will move the session if it waits. -/
def Answered (s : AuthenticationInAppSession) : Event → Prop
  | .reply index reply _ =>
    ∀ request, s.pending[index]? = some request → silent p s request.handler reply = true →
      NotStuck { s with pending := s.pending.eraseIdx index }
  | _ => True

/-- What is left alone: the state, the requests and whether the session has ended. -/
structure Unmoved (s t : AuthenticationInAppSession) : Prop where
  state : t.state = s.state
  pending : t.pending = s.pending
  ended : t.ended = s.ended

section Steps

variable {p} {s t : AuthenticationInAppSession} {request : Request} {state : State} {failure : Failure}

lemma Unmoved.notStuck_iff (h : Unmoved s t) : NotStuck t ↔ NotStuck s := by
  rw [NotStuck, NotStuck, h.state, h.pending, h.ended]

lemma unmoved_recordFlow (name : String) : Unmoved s (s.recordFlow name) := by
  rw [recordFlow]
  split
  · exact ⟨rfl, rfl, rfl⟩
  · exact ⟨rfl, rfl, rfl⟩

lemma notStuck_requestState (h : state.waiting = false) : NotStuck (s.requestState state) :=
  fun hw => absurd hw (by rw [requestState, emit, h]; exact Bool.false_ne_true)

lemma notStuck_send (h : request.handler.moves = true) : NotStuck (s.send request) :=
  fun _ _ => ⟨request, List.mem_cons_self, h⟩

lemma notStuck_of_ended (h : s.ended = true) : NotStuck s := fun _ he => absurd (he.symm.trans h) Bool.false_ne_true

lemma notStuck_fail : NotStuck (s.fail failure) := notStuck_of_ended rfl

lemma NotStuck.emit (h : NotStuck s) (effect : Effect) : NotStuck (s.emit effect) := h

lemma NotStuck.send (h : NotStuck s) (request : Request) : NotStuck (s.send request) := fun hw he => by
  obtain ⟨r, hm, hr⟩ := h hw he
  exact ⟨r, List.mem_cons_of_mem request hm, hr⟩

lemma waiting_errorAction {type : TypeAuthentication} {obj : JsonObject} {error : ErrorType} {retry : ℕ}
    {current : State} (h : errorAction type current obj = .propagate state error retry) : state.waiting = false := by
  rw [errorAction] at h
  split at h <;> (try split_ifs at h) <;> cases h <;> rfl

lemma notStuck_processErrorObject {obj : JsonObject}
    (h : errorAction s.typeAuthentication s.state obj ≠ .unsupported) : NotStuck (s.processErrorObject p obj) := by
  rw [processErrorObject]
  cases ha : errorAction s.typeAuthentication s.state obj with
  | propagate state error retry => exact (notStuck_requestState (waiting_errorAction ha)).emit _
  | unblockCodeNeeded => exact (notStuck_requestState rfl).send _
  | unsupported => exact absurd ha h

lemma notStuck_processRequestFailure {error : NetworkError} {data : Bytes} (h : unsupported p s data = false) :
    NotStuck (s.processRequestFailure p error data) := by
  rw [processRequestFailure]
  split_ifs with ho
  · apply notStuck_processErrorObject
    intro ha
    rw [unsupported, ho, ha] at h
    exact absurd h (by decide)
  · exact notStuck_fail

lemma processRequestFailure_of_unsupported {error : NetworkError} {data : Bytes} (h : unsupported p s data = true) :
    s.processRequestFailure p error data = s := by
  rw [unsupported, Bool.and_eq_true, decide_eq_true_eq] at h
  rw [processRequestFailure, if_pos h.1, processErrorObject, h.2]

lemma unsupported_recordFlow (name : String) (data : Bytes) :
    unsupported p (s.recordFlow name) data = unsupported p s data := by
  rw [recordFlow]
  split <;> rfl

lemma notStuck_finalizeSignInOrUp : NotStuck (s.finalizeSignInOrUp p) := notStuck_send rfl

lemma notStuck_checkAccount (emailAddress : String) : NotStuck (s.checkAccount p emailAddress) := notStuck_send rfl

lemma notStuck_signInInternal (unblockCode : String) : NotStuck (s.signInInternal p unblockCode) := notStuck_send rfl

lemma notStuck_accountChecked (b : Bool) (obj : JsonObject) : NotStuck (s.accountChecked b obj) := by
  simp only [accountChecked]
  split_ifs
  · exact notStuck_requestState rfl
  · exact notStuck_requestState rfl
  · exact notStuck_requestState rfl
  · exact notStuck_requestState rfl
  · exact notStuck_of_ended rfl

lemma notStuck_signInOrUpCompleted {obj : JsonObject} (h : unknownVerification obj = false) :
    NotStuck (s.signInOrUpCompleted p obj) := by
  simp only [signInOrUpCompleted]
  split_ifs with hv ht he
  · exact notStuck_requestState rfl
  · exact notStuck_requestState rfl
  · simp [unknownVerification, hv, ht, he] at h
  · exact notStuck_finalizeSignInOrUp

lemma unmoved_signInOrUpCompleted {obj : JsonObject} (h : unknownVerification obj = true) :
    Unmoved s (s.signInOrUpCompleted p obj) := by
  simp only [unknownVerification, Bool.and_eq_true, decide_eq_true_eq] at h
  simp only [signInOrUpCompleted, if_pos h.1.1, if_neg h.1.2, if_neg h.2]
  exact ⟨rfl, rfl, rfl⟩

lemma notStuck_started (emailAddress : String) (data : Bytes) : NotStuck (s.started p emailAddress data) := by
  rw [started]
  split
  · exact notStuck_fail
  · split
    · exact notStuck_fail
    · simp only
      split_ifs
      · exact notStuck_fail
      · exact notStuck_requestState rfl
      · exact notStuck_checkAccount emailAddress

lemma notStuck_totpCodeVerified (data : Bytes) : NotStuck (s.totpCodeVerified p data) := by
  rw [totpCodeVerified]
  split_ifs
  · exact notStuck_fail
  · exact notStuck_finalizeSignInOrUp
  · exact (notStuck_requestState rfl).emit _

lemma notStuck_attachedClientsReceived (data : Bytes) : NotStuck (s.attachedClientsReceived p data) := by
  rw [attachedClientsReceived]
  split
  · exact notStuck_fail
  · simp only
    split_ifs
    · exact notStuck_fail
    · exact notStuck_requestState rfl

lemma notStuck_oauthCodeCreated (data : Bytes) : NotStuck (s.oauthCodeCreated p data) := by
  rw [oauthCodeCreated]
  split
  · exact notStuck_send rfl
  · exact notStuck_fail

lemma notStuck_redirectCompleted (data : Bytes) : NotStuck (s.redirectCompleted p data) := by
  rw [redirectCompleted]
  split
  · exact notStuck_fail
  · exact notStuck_of_ended rfl

/-- The branches of a failed sign in. -/
lemma signInFailed_cases (unblockCode : String) (error : NetworkError) (data : Bytes) :
    NotStuck (s.signInFailed p unblockCode error data) ∨
      error ≠ .TimeoutError ∧ correctedEmail p data = none ∧
        ∃ t, Unmoved s t ∧ t.typeAuthentication = s.typeAuthentication ∧
          s.signInFailed p unblockCode error data = t.processRequestFailure p error data := by
  rw [signInFailed]
  split_ifs with ht hu
  · exact .inl ((notStuck_requestState rfl).emit _)
  · cases hc : correctedEmail p data with
    | some email => exact .inl (notStuck_signInInternal unblockCode)
    | none => exact .inr ⟨ht, rfl, s, ⟨rfl, rfl, rfl⟩, rfl, rfl⟩
  · cases hc : correctedEmail p data with
    | some email => exact .inl (notStuck_signInInternal unblockCode)
    | none =>
      refine .inr ⟨ht, rfl, _, unmoved_recordFlow _, ?_, rfl⟩
      rw [recordFlow]
      split <;> rfl

/-- A reply that is not silent moves the session, whatever its state is by then. -/
lemma notStuck_receive {reply : Reply} (b : Bool) (h : silent p s request.handler reply = false) :
    NotStuck (s.receive p request reply b) := by
  cases reply with
  | requestCompleted data =>
    simp only [silent] at h
    simp only [receive, requestCompleted]
    generalize request.handler = handler at h ⊢
    cases handler with
    | start emailAddress => exact notStuck_started emailAddress data
    | checkAccount => exact notStuck_accountChecked b _
    | signInInternal unblockCode => exact notStuck_signInOrUpCompleted h
    | signUp => exact notStuck_signInOrUpCompleted h
    | verifySessionEmailCode => exact notStuck_finalizeSignInOrUp
    | verifySessionTotpCode => exact notStuck_totpCodeVerified data
    | startAccountDeletionFlow => exact notStuck_attachedClientsReceived data
    | finalizeSignInOrUp => exact notStuck_oauthCodeCreated data
    | redirect => exact notStuck_redirectCompleted data
    | sendUnblockCodeEmail => cases h
    | resendVerificationSessionCodeEmail => cases h
    | deleteAccount => cases h
    | terminate => cases h
  | requestFailed error data =>
    simp only [silent] at h
    simp only [receive, requestFailed]
    generalize request.handler = handler at h ⊢
    cases handler with
    | start emailAddress =>
      simp only [Bool.or_eq_false_iff, decide_eq_false_iff_not] at h
      simp only [if_neg h.1]
      exact notStuck_processRequestFailure h.2
    | signInInternal unblockCode =>
      obtain hn | ⟨ht, hc, t, hu, hty, he⟩ := @signInFailed_cases p s unblockCode error data
      · exact hn
      · simp only [he]
        apply notStuck_processRequestFailure
        simpa [ht, hc, unsupported, hu.state, hty] using h
    | redirect => exact notStuck_fail
    | deleteAccount => cases h
    | terminate => cases h
    | verifySessionEmailCode => exact notStuck_processRequestFailure (by rwa [unsupported_recordFlow])
    | verifySessionTotpCode => exact notStuck_processRequestFailure (by rwa [unsupported_recordFlow])
    | checkAccount => exact notStuck_processRequestFailure h
    | signUp => exact notStuck_processRequestFailure h
    | sendUnblockCodeEmail => exact notStuck_processRequestFailure h
    | resendVerificationSessionCodeEmail => exact notStuck_processRequestFailure h
    | startAccountDeletionFlow => exact notStuck_processRequestFailure h
    | finalizeSignInOrUp => exact notStuck_processRequestFailure h

/-- A silent reply moves nothing. -/
lemma unmoved_receive {reply : Reply} (b : Bool) (h : silent p s request.handler reply = true) :
    Unmoved s (s.receive p request reply b) := by
  have hu {t : AuthenticationInAppSession} {error : NetworkError} {data : Bytes} (ht : Unmoved s t)
      (ho : unsupported p t data = true) : Unmoved s (t.processRequestFailure p error data) := by
    rwa [processRequestFailure_of_unsupported ho]
  cases reply with
  | requestCompleted data =>
    simp only [silent] at h
    simp only [receive, requestCompleted]
    generalize request.handler = handler at h ⊢
    cases handler with
    | signInInternal unblockCode =>
      simp only
      split_ifs
      · exact unmoved_signInOrUpCompleted h
      · have hr := unmoved_recordFlow (s := s) "two_fa_verification_succeeded unblock_code"
        have hc := unmoved_signInOrUpCompleted (p := p)
          (s := s.recordFlow "two_fa_verification_succeeded unblock_code") h
        exact ⟨hc.state.trans hr.state, hc.pending.trans hr.pending, hc.ended.trans hr.ended⟩
    | signUp => exact unmoved_signInOrUpCompleted h
    | sendUnblockCodeEmail => exact ⟨rfl, rfl, rfl⟩
    | resendVerificationSessionCodeEmail => exact ⟨rfl, rfl, rfl⟩
    | deleteAccount => exact ⟨rfl, rfl, rfl⟩
    | terminate => exact ⟨rfl, rfl, rfl⟩
    | start emailAddress => cases h
    | checkAccount => cases h
    | verifySessionEmailCode => cases h
    | verifySessionTotpCode => cases h
    | startAccountDeletionFlow => cases h
    | finalizeSignInOrUp => cases h
    | redirect => cases h
  | requestFailed error data =>
    simp only [silent] at h
    simp only [receive, requestFailed]
    generalize request.handler = handler at h ⊢
    cases handler with
    | start emailAddress =>
      simp only
      split_ifs with hc
      · exact ⟨rfl, rfl, rfl⟩
      · exact hu ⟨rfl, rfl, rfl⟩ (by simpa [hc] using h)
    | signInInternal unblockCode =>
      simp only [Bool.and_eq_true, decide_eq_true_eq, Option.isNone_iff_eq_none] at h
      simp only [signInFailed, if_neg h.1.1, h.1.2]
      split_ifs
      · exact hu ⟨rfl, rfl, rfl⟩ h.2
      · exact hu (unmoved_recordFlow _) (by rw [unsupported_recordFlow]; exact h.2)
    | redirect => cases h
    | deleteAccount => exact ⟨rfl, rfl, rfl⟩
    | terminate => exact ⟨rfl, rfl, rfl⟩
    | verifySessionEmailCode => exact hu (unmoved_recordFlow _) (by rw [unsupported_recordFlow]; exact h)
    | verifySessionTotpCode => exact hu (unmoved_recordFlow _) (by rw [unsupported_recordFlow]; exact h)
    | checkAccount => exact hu ⟨rfl, rfl, rfl⟩ h
    | signUp => exact hu ⟨rfl, rfl, rfl⟩ h
    | sendUnblockCodeEmail => exact hu ⟨rfl, rfl, rfl⟩ h
    | resendVerificationSessionCodeEmail => exact hu ⟨rfl, rfl, rfl⟩ h
    | startAccountDeletionFlow => exact hu ⟨rfl, rfl, rfl⟩ h
    | finalizeSignInOrUp => exact hu ⟨rfl, rfl, rfl⟩ h

/-- The condition is exact for each event. -/
lemma answered_iff (h : NotStuck s) (e : Event) : Answered p s e ↔ NotStuck (step p s e) := by
  have hc : NotStuck { s with effects := [] } := h
  have hu {t : AuthenticationInAppSession} (ht : NotStuck t) : True ↔ NotStuck t := iff_of_true trivial ht
  cases e with
  | start codeChallenge codeChallengeMethod emailAddress => exact hu (hc.send _)
  | checkAccount emailAddress => exact hu (notStuck_checkAccount emailAddress)
  | setPassword password => exact hu h
  | signIn => exact hu (notStuck_signInInternal "")
  | signUp => exact hu (notStuck_send rfl)
  | verifyUnblockCode unblockCode => exact hu (notStuck_signInInternal unblockCode)
  | sendUnblockCodeEmail => exact hu (hc.send _)
  | verifySessionEmailCode code => exact hu (notStuck_send rfl)
  | resendVerificationSessionCodeEmail => exact hu (hc.send _)
  | verifySessionTotpCode code => exact hu (notStuck_send rfl)
  | startAccountDeletionFlow => exact hu (hc.send _)
  | deleteAccount => exact hu (hc.send _)
  | reset => exact hu (notStuck_requestState rfl)
  | terminate =>
    apply hu
    simp only [step, handle, terminate]
    split_ifs
    · exact hc.emit _
    · exact hc.send _
  | reply index reply b =>
    simp only [Answered, step, handle]
    cases hr : s.pending[index]? with
    | none => exact iff_of_true (fun _ hn => absurd hn (Option.some_ne_none _).symm) hc
    | some request =>
      simp only [Option.some.injEq, forall_eq']
      cases hs : silent p s request.handler reply with
      | false =>
        exact iff_of_true (fun ht => absurd ht Bool.false_ne_true) (notStuck_receive b hs)
      | true =>
        rw [(unmoved_receive b (by exact hs)).notStuck_iff]
        simp only [forall_const]
        exact Iff.rfl

end Steps

/-- No answer leaves the user in a waiting state with nothing that will move it if and only if those that are passed
over in silence leave another request that will. -/
theorem answered_iff_notStuck (p : Platform) (type : TypeAuthentication) (es : List Event) :
    Meets (step p) (Answered p) { typeAuthentication := type } es ↔
      ∀ fs, fs <+: es → NotStuck (run (step p) { typeAuthentication := type } fs) :=
  meets_iff_throughout (P := NotStuck) (fun _ e h hc => (answered_iff h e).mp hc) (fun _ e h => answered_iff h e)
    (fun hw => absurd hw Bool.false_ne_true) fun hw => absurd hw Bool.false_ne_true

/-- A server with some documents. -/
def testPlatform (documents : List (String × JsonValue)) : Platform where
  fxaApiBaseUrl := "https://api.accounts.firefox.com"
  authenticationUrl _ _ _ := ""
  fromJson data := (documents.find? fun document => document.1.toUTF8.toList = data).map Prod.snd
  toDouble _ := 0
  toLower := String.toLower
  fromPercentEncoding := id
  deriveKeyPbkdf2 _ _ := []
  sha256 := HKDF.testHmac

def testUnverified : String × JsonValue := ("\x7b\"errno\":138\x7d", .object [("errno", .double 138)])

def testFailed (document : String × JsonValue) : Reply := .requestFailed (.other 203) document.1.toUTF8.toList

/-- The check of an account fails with an error that is only logged. -/
theorem not_answered :
    let p := testPlatform [testUnverified]
    ¬ NotStuck (run (step p) {} [.checkAccount "a@b", .reply 0 (testFailed testUnverified) true]) := by
  intro p h
  obtain ⟨request, hm, -⟩ := h (by decide +kernel) (by decide +kernel)
  exact List.ne_nil_of_mem hm (List.isEmpty_iff.mp (by decide +kernel))

/-- What a run shows, event by event. -/
def trace : AuthenticationInAppSession → List Event → List (List Effect)
  | _, [] => []
  | s, e :: es => (step p s e).effects :: trace (step p s e) es

/-- A reply to a request that was sent since there were `n` others. -/
def ToFresh (n : ℕ) (s : AuthenticationInAppSession) : Event → Prop
  | .reply index _ _ => index + n < s.pending.length
  | _ => True

/-- What does not influence the requests and the states of a session, apart from its old requests. The password does
if it is not set again. -/
structure Hidden where
  sessionType : SessionType
  password : Option String
  ended : Bool
  telemetry : List String

def hide (v : Hidden) (old : List Request) (s : AuthenticationInAppSession) : AuthenticationInAppSession :=
  { s with
    sessionType := v.sessionType, password := v.password.getD s.password, pending := s.pending ++ old
    ended := v.ended, telemetry := v.telemetry }

/-- The second session has old requests and other hidden parts, and another password unless that is known. -/
def Covers (known : Bool) (old : List Request) (s t : AuthenticationInAppSession) : Prop :=
  ∃ v, (known = true → v.password = none) ∧ t = s.hide v old

namespace Covers

variable {p} {known : Bool} {old : List Request} {s t : AuthenticationInAppSession}

lemma emit (h : Covers known old s t) (effect : Effect) : Covers known old (s.emit effect) (t.emit effect) := by
  obtain ⟨v, hk, rfl⟩ := h
  exact ⟨v, hk, rfl⟩

lemma recordFlow_left (h : Covers known old s t) (name : String) : Covers known old (s.recordFlow name) t := by
  obtain ⟨v, hk, rfl⟩ := h
  rw [AuthenticationInAppSession.recordFlow]
  split
  · exact ⟨v, hk, rfl⟩
  · exact ⟨v, hk, rfl⟩

lemma record_right (h : Covers known old s t) (name : String) : Covers known old s (t.record name) := by
  obtain ⟨v, hk, rfl⟩ := h
  exact ⟨{ v with telemetry := v.telemetry ++ [name] }, hk, rfl⟩

lemma recordFlow_right (h : Covers known old s t) (name : String) : Covers known old s (t.recordFlow name) := by
  rw [AuthenticationInAppSession.recordFlow]
  split
  · exact h.record_right name
  · exact h

lemma recordFlow (h : Covers known old s t) (name : String) :
    Covers known old (s.recordFlow name) (t.recordFlow name) := (h.recordFlow_left name).recordFlow_right name

lemma requestState (h : Covers known old s t) (state : State) :
    Covers known old (s.requestState state) (t.requestState state) := by
  obtain ⟨v, hk, rfl⟩ := h
  exact ⟨v, hk, rfl⟩

lemma ended (h : Covers known old s t) : Covers known old { s with ended := true } { t with ended := true } := by
  obtain ⟨v, hk, rfl⟩ := h
  exact ⟨{ v with ended := true }, hk, rfl⟩

lemma fail (h : Covers known old s t) (failure : Failure) : Covers known old (s.fail failure) (t.fail failure) :=
  h.ended.emit _

lemma send (h : Covers known old s t) (request : Request) : Covers known old (s.send request) (t.send request) := by
  obtain ⟨v, hk, rfl⟩ := h
  exact ⟨v, hk, rfl⟩

lemma sendUnblockCodeEmail (h : Covers known old s t) :
    Covers known old (s.sendUnblockCodeEmail p) (t.sendUnblockCodeEmail p) := by
  obtain ⟨v, hk, rfl⟩ := h
  exact ⟨v, hk, rfl⟩

lemma checkAccount (h : Covers known old s t) (emailAddress : String) :
    Covers known old (s.checkAccount p emailAddress) (t.checkAccount p emailAddress) := by
  obtain ⟨v, hk, rfl⟩ := h
  exact ⟨v, hk, rfl⟩

lemma fxaHawkPostRequest (h : Covers known old s t) (path : String) (body : JsonObject) (handler : Handler) :
    Covers known old (s.fxaHawkPostRequest p path body handler) (t.fxaHawkPostRequest p path body handler) := by
  obtain ⟨v, hk, rfl⟩ := h
  exact ⟨v, hk, rfl⟩

lemma finalizeSignInOrUp (h : Covers known old s t) :
    Covers known old (s.finalizeSignInOrUp p) (t.finalizeSignInOrUp p) := by
  obtain ⟨v, hk, rfl⟩ := h
  exact ⟨v, hk, rfl⟩

lemma accountChecked (h : Covers known old s t) (b : Bool) (obj : JsonObject) :
    Covers known old (s.accountChecked b obj) (t.accountChecked b obj) := by
  simp only [AuthenticationInAppSession.accountChecked]
  split_ifs
  · exact h.requestState _
  · exact h.requestState _
  · exact h.requestState _
  · exact h.requestState _
  · exact (h.requestState _).ended.emit _

lemma signInOrUpCompleted (h : Covers known old s t) (obj : JsonObject) :
    Covers known old (s.signInOrUpCompleted p obj) (t.signInOrUpCompleted p obj) := by
  have ht : Covers known old { s with sessionToken := fromHex (toText obj "sessionToken") }
      { t with sessionToken := fromHex (toText obj "sessionToken") } := by
    obtain ⟨v, hk, rfl⟩ := h
    exact ⟨v, hk, rfl⟩
  simp only [AuthenticationInAppSession.signInOrUpCompleted]
  split_ifs
  · exact ht.requestState _
  · exact ht.requestState _
  · exact ht
  · exact ht.finalizeSignInOrUp

lemma processRequestFailure (h : Covers known old s t) (error : NetworkError) (data : Bytes) :
    Covers known old (s.processRequestFailure p error data) (t.processRequestFailure p error data) := by
  have ha : errorAction t.typeAuthentication t.state (p.object data) =
      errorAction s.typeAuthentication s.state (p.object data) := by
    obtain ⟨v, hk, rfl⟩ := h
    rfl
  rw [AuthenticationInAppSession.processRequestFailure, AuthenticationInAppSession.processRequestFailure]
  split_ifs
  · rw [processErrorObject, processErrorObject, ha]
    split
    · exact (h.requestState _).emit _
    · exact (h.requestState _).sendUnblockCodeEmail
    · exact h
  · exact h.fail _

lemma started (h : Covers known old s t) (emailAddress : String) (data : Bytes) :
    Covers known old (s.started p emailAddress data) (t.started p emailAddress data) := by
  have hf : t.fxaParams = s.fxaParams := by
    obtain ⟨v, hk, rfl⟩ := h
    rfl
  have hs (fxaParams : FxaParams) : Covers known old { s with fxaParams } { t with fxaParams } := by
    obtain ⟨v, hk, rfl⟩ := h
    exact ⟨v, hk, rfl⟩
  rw [AuthenticationInAppSession.started, AuthenticationInAppSession.started]
  split
  · exact h.fail _
  · split
    · exact h.fail _
    · simp only [hf]
      split_ifs
      · exact (hs _).fail _
      · exact (hs _).requestState _
      · exact (hs _).checkAccount emailAddress

lemma attachedClients_eq (h : Covers known old s t) : t.attachedClients = s.attachedClients := by
  obtain ⟨v, hk, rfl⟩ := h
  rfl

lemma attachedClientsReceived (h : Covers known old s t) (data : Bytes) :
    Covers known old (s.attachedClientsReceived p data) (t.attachedClientsReceived p data) := by
  have hs (attachedClients : List String) : Covers known old { s with attachedClients } { t with attachedClients } := by
    obtain ⟨v, hk, rfl⟩ := h
    exact ⟨v, hk, rfl⟩
  rw [AuthenticationInAppSession.attachedClientsReceived, AuthenticationInAppSession.attachedClientsReceived]
  split
  · exact h.fail _
  · rw [h.attachedClients_eq]
    dsimp only
    split_ifs
    · exact (hs _).fail _
    · exact ((hs _).emit _).requestState _

lemma oauthCodeCreated (h : Covers known old s t) (data : Bytes) :
    Covers known old (s.oauthCodeCreated p data) (t.oauthCodeCreated p data) := by
  rw [AuthenticationInAppSession.oauthCodeCreated, AuthenticationInAppSession.oauthCodeCreated]
  split
  · exact h.send _
  · exact h.fail _

lemma redirectCompleted (h : Covers known old s t) (data : Bytes) :
    Covers known old (s.redirectCompleted p data) (t.redirectCompleted p data) := by
  rw [AuthenticationInAppSession.redirectCompleted, AuthenticationInAppSession.redirectCompleted]
  split
  · exact h.fail _
  · apply Covers.emit
    apply Covers.ended
    cases s.sessionType with
    | SignIn =>
      apply Covers.recordFlow_left
      cases t.sessionType with
      | SignIn => exact h.recordFlow_right _
      | SignUp => exact h.recordFlow_right _
      | Undefined => exact h
    | SignUp =>
      apply Covers.recordFlow_left
      cases t.sessionType with
      | SignIn => exact h.recordFlow_right _
      | SignUp => exact h.recordFlow_right _
      | Undefined => exact h
    | Undefined =>
      cases t.sessionType with
      | SignIn => exact h.recordFlow_right _
      | SignUp => exact h.recordFlow_right _
      | Undefined => exact h

lemma totpCodeVerified (h : Covers known old s t) (data : Bytes) :
    Covers known old (s.totpCodeVerified p data) (t.totpCodeVerified p data) := by
  rw [AuthenticationInAppSession.totpCodeVerified, AuthenticationInAppSession.totpCodeVerified]
  split_ifs
  · exact h.fail _
  · exact (h.recordFlow _).finalizeSignInOrUp
  · exact ((h.recordFlow _).requestState _).emit _

lemma reset (h : Covers known old s t) : Covers known old s.reset t.reset := by
  obtain ⟨v, hk, rfl⟩ := h
  exact ⟨v, hk, rfl⟩

lemma terminate (h : Covers known old s t) : Covers known old (s.terminate p) (t.terminate p) := by
  have ht : t.sessionToken = s.sessionToken := by
    obtain ⟨v, hk, rfl⟩ := h
    rfl
  rw [AuthenticationInAppSession.terminate, AuthenticationInAppSession.terminate, ht]
  split_ifs
  · exact h.emit _
  · exact h.fxaHawkPostRequest _ _ _

lemma setPassword (h : Covers known old s t) (password : String) :
    Covers true old { s with password } { t with password } := by
  obtain ⟨v, hk, rfl⟩ := h
  exact ⟨{ v with password := none }, fun _ => rfl, rfl⟩

lemma password_eq (h : Covers true old s t) : t.password = s.password := by
  obtain ⟨v, hk, rfl⟩ := h
  rw [hide, hk rfl, Option.getD_none]

lemma generateAuthPw (h : Covers true old s t) : t.generateAuthPw p = s.generateAuthPw p := by
  have he : t.emailAddressCaseFix = s.emailAddressCaseFix := by
    obtain ⟨v, hk, rfl⟩ := h
    rfl
  rw [AuthenticationInAppSession.generateAuthPw, AuthenticationInAppSession.generateAuthPw, h.password_eq, he]

lemma signInInternal (h : Covers true old s t) (unblockCode : String) :
    Covers true old (s.signInInternal p unblockCode) (t.signInInternal p unblockCode) := by
  rw [AuthenticationInAppSession.signInInternal, AuthenticationInAppSession.signInInternal, h.generateAuthPw]
  obtain ⟨v, hk, rfl⟩ := h
  exact ⟨v, hk, rfl⟩

lemma sessionType (h : Covers known old s t) (sessionType : SessionType) :
    Covers known old { s with sessionType } { t with sessionType } := by
  obtain ⟨v, hk, rfl⟩ := h
  exact ⟨{ v with sessionType }, hk, rfl⟩

lemma signIn (h : Covers true old s t) : Covers true old (s.signIn p) (t.signIn p) :=
  (((h.sessionType .SignIn).recordFlow _).requestState _).signInInternal ""

lemma signUp (h : Covers true old s t) : Covers true old (s.signUp p) (t.signUp p) := by
  have hs := ((h.sessionType .SignUp).recordFlow "registration_started").requestState .StateSigningUp
  simp only [AuthenticationInAppSession.signUp, hs.generateAuthPw]
  obtain ⟨v, hk, hv⟩ := hs
  rw [hv]
  exact ⟨v, hk, rfl⟩

lemma verifySessionEmailCode (h : Covers known old s t) (code : String) :
    Covers known old (s.verifySessionEmailCode p code) (t.verifySessionEmailCode p code) := by
  obtain ⟨v, hk, rfl⟩ := h
  exact ⟨v, hk, rfl⟩

lemma verifySessionTotpCode (h : Covers known old s t) (code : String) :
    Covers known old (s.verifySessionTotpCode p code) (t.verifySessionTotpCode p code) := by
  obtain ⟨v, hk, rfl⟩ := h
  exact ⟨v, hk, rfl⟩

lemma startAccountDeletionFlow (h : Covers known old s t) :
    Covers known old (s.startAccountDeletionFlow p) (t.startAccountDeletionFlow p) := by
  obtain ⟨v, hk, rfl⟩ := h
  exact ⟨v, hk, rfl⟩

lemma deleteAccount (h : Covers true old s t) : Covers true old (s.deleteAccount p) (t.deleteAccount p) := by
  rw [AuthenticationInAppSession.deleteAccount, AuthenticationInAppSession.deleteAccount, h.generateAuthPw]
  obtain ⟨v, hk, rfl⟩ := h
  exact ⟨{ v with telemetry := v.telemetry ++ ["delete_account_clicked"] }, hk, rfl⟩

lemma signInFailed (h : Covers true old s t) (unblockCode : String) (error : NetworkError) (data : Bytes) :
    Covers true old (s.signInFailed p unblockCode error data) (t.signInFailed p unblockCode error data) := by
  rw [AuthenticationInAppSession.signInFailed, AuthenticationInAppSession.signInFailed]
  split_ifs
  · exact (h.requestState _).emit _
  · split
    · apply Covers.signInInternal
      obtain ⟨v, hk, rfl⟩ := h
      exact ⟨v, hk, rfl⟩
    · exact h.processRequestFailure error data
  · split
    · apply Covers.signInInternal
      obtain ⟨v, hk, rfl⟩ := h
      exact ⟨v, hk, rfl⟩
    · exact (h.recordFlow _).processRequestFailure error data

/-- Without the same password, all but the answers to a sign in. -/
lemma receive (h : Covers known old s t) (request : Request) (reply : Reply) (b : Bool)
    (hk : known = true ∨ ∀ unblockCode, request.handler ≠ .signInInternal unblockCode) :
    Covers known old (s.receive p request reply b) (t.receive p request reply b) := by
  cases reply with
  | requestCompleted data =>
    simp only [AuthenticationInAppSession.receive, requestCompleted]
    cases request.handler with
    | start emailAddress => exact h.started emailAddress data
    | checkAccount => exact h.accountChecked b _
    | signInInternal unblockCode =>
      simp only
      split_ifs
      · exact h.signInOrUpCompleted _
      · exact (h.recordFlow _).signInOrUpCompleted _
    | signUp => exact h.signInOrUpCompleted _
    | sendUnblockCodeEmail => exact h
    | verifySessionEmailCode => exact (h.recordFlow _).finalizeSignInOrUp
    | resendVerificationSessionCodeEmail => exact h
    | verifySessionTotpCode => exact h.totpCodeVerified data
    | startAccountDeletionFlow => exact h.attachedClientsReceived data
    | deleteAccount => exact h.emit _
    | finalizeSignInOrUp => exact h.oauthCodeCreated data
    | redirect => exact h.redirectCompleted data
    | terminate => exact h.emit _
  | requestFailed error data =>
    simp only [AuthenticationInAppSession.receive, requestFailed]
    cases hh : request.handler with
    | start emailAddress =>
      simp only
      split_ifs
      · exact h
      · exact h.processRequestFailure error data
    | checkAccount => exact h.processRequestFailure error data
    | signInInternal unblockCode =>
      cases hk with
      | inl hk =>
        subst hk
        exact h.signInFailed unblockCode error data
      | inr hk => exact absurd hh (hk unblockCode)
    | signUp => exact h.processRequestFailure error data
    | sendUnblockCodeEmail => exact h.processRequestFailure error data
    | verifySessionEmailCode => exact (h.recordFlow _).processRequestFailure error data
    | resendVerificationSessionCodeEmail => exact h.processRequestFailure error data
    | verifySessionTotpCode => exact (h.recordFlow _).processRequestFailure error data
    | startAccountDeletionFlow => exact h.processRequestFailure error data
    | deleteAccount => exact h.emit _
    | finalizeSignInOrUp => exact h.processRequestFailure error data
    | redirect => exact h.fail _
    | terminate => exact h.emit _

lemma toFresh_iff (h : Covers known old s t) (e : Event) : ToFresh old.length t e ↔ ToFresh 0 s e := by
  obtain ⟨v, hk, rfl⟩ := h
  cases e with
  | reply index reply b => simp [ToFresh, hide]
  | _ => exact Iff.rfl

/-- Before the password is set again, a session answers only requests about the account. -/
lemma reply (h : Covers known old s t) (index : ℕ) (reply : Reply) (b : Bool)
    (hf : ToFresh 0 s (.reply index reply b))
    (hk : known = true ∨ ∀ request ∈ s.pending, ∀ unblockCode, request.handler ≠ .signInInternal unblockCode) :
    Covers known old (step p s (.reply index reply b)) (step p t (.reply index reply b)) := by
  obtain ⟨v, hv, rfl⟩ := h
  have hs : (s.hide v old).pending[index]? = s.pending[index]? := List.getElem?_append_left hf
  have he : (s.hide v old).pending.eraseIdx index = s.pending.eraseIdx index ++ old :=
    List.eraseIdx_append_of_lt_length hf old
  simp only [step, handle, hs]
  cases hr : s.pending[index]? with
  | none => exact ⟨v, hv, rfl⟩
  | some request =>
    apply Covers.receive
    · refine ⟨v, hv, ?_⟩
      rw [he]
      rfl
    · exact hk.imp id fun hk => hk request (List.mem_of_getElem? hr)

lemma step (h : Covers true old s t) (e : Event) (hf : ToFresh 0 s e) : Covers true old (step p s e) (step p t e) := by
  have hc : Covers true old { s with effects := [] } { t with effects := [] } := by
    obtain ⟨v, hk, rfl⟩ := h
    exact ⟨v, hk, rfl⟩
  cases e with
  | start codeChallenge codeChallengeMethod emailAddress => exact hc.send _
  | checkAccount emailAddress => exact hc.checkAccount emailAddress
  | setPassword password => exact hc.setPassword password
  | signIn => exact hc.signIn
  | signUp => exact hc.signUp
  | verifyUnblockCode unblockCode => exact (hc.requestState _).signInInternal unblockCode
  | sendUnblockCodeEmail => exact hc.sendUnblockCodeEmail
  | verifySessionEmailCode code => exact hc.verifySessionEmailCode code
  | resendVerificationSessionCodeEmail => exact hc.fxaHawkPostRequest _ _ _
  | verifySessionTotpCode code => exact hc.verifySessionTotpCode code
  | startAccountDeletionFlow => exact hc.startAccountDeletionFlow
  | deleteAccount => exact hc.deleteAccount
  | reset => exact hc.reset
  | terminate => exact hc.terminate
  | reply index reply b => exact h.reply index reply b hf (.inl rfl)

end Covers

section Resets

/-- The session waits only for answers about the account. -/
def Asks (s : AuthenticationInAppSession) : Prop :=
  ∀ request ∈ s.pending, request.handler = .checkAccount ∨ request.handler = .sendUnblockCodeEmail

def Event.isReply : Event → Bool
  | .reply _ _ _ => true
  | _ => false

variable {p} {known : Bool} {old others : List Request} {s s₁ s₂ : AuthenticationInAppSession} {es : List Event}

lemma Asks.send (h : Asks s) {request : Request}
    (hr : request.handler = .checkAccount ∨ request.handler = .sendUnblockCodeEmail) : Asks (s.send request) := by
  intro r hm
  cases hm with
  | head => exact hr
  | tail _ hm => exact h r hm

lemma Asks.processRequestFailure (h : Asks s) (error : NetworkError) (data : Bytes) :
    Asks (s.processRequestFailure p error data) := by
  rw [AuthenticationInAppSession.processRequestFailure]
  split_ifs
  · rw [processErrorObject]
    split
    · exact h
    · apply Asks.send
      · exact h
      · exact .inr rfl
    · exact h
  · exact h

lemma Asks.accountChecked (h : Asks s) (b : Bool) (obj : JsonObject) : Asks (s.accountChecked b obj) := by
  simp only [AuthenticationInAppSession.accountChecked]
  split_ifs
  · exact h
  · exact h
  · exact h
  · exact h
  · exact h

lemma Asks.receive (h : Asks s) {request : Request}
    (hr : request.handler = .checkAccount ∨ request.handler = .sendUnblockCodeEmail) (reply : Reply) (b : Bool) :
    Asks (s.receive p request reply b) := by
  cases reply with
  | requestCompleted data =>
    rw [AuthenticationInAppSession.receive]
    cases hr with
    | inl hr =>
      rw [hr]
      exact h.accountChecked b _
    | inr hr =>
      rw [hr]
      exact h
  | requestFailed error data =>
    rw [AuthenticationInAppSession.receive]
    cases hr with
    | inl hr =>
      rw [hr]
      exact h.processRequestFailure error data
    | inr hr =>
      rw [hr]
      exact h.processRequestFailure error data

lemma Asks.reply (h : Asks s) (index : ℕ) (reply : Reply) (b : Bool) : Asks (step p s (.reply index reply b)) := by
  simp only [step, handle]
  cases hr : s.pending[index]? with
  | none => exact h
  | some request =>
    apply Asks.receive
    · exact fun r hm => h r (List.mem_of_mem_eraseIdx hm)
    · exact h request (List.mem_of_getElem? hr)

/-- Two sessions with the same core. -/
def Twins (known : Bool) (old others : List Request) (s₁ s₂ : AuthenticationInAppSession) : Prop :=
  ∃ s, Covers known old s s₁ ∧ Covers known others s s₂ ∧ (known = true ∨ Asks s)

namespace Twins

lemma effects_eq (h : Twins known old others s₁ s₂) : s₁.effects = s₂.effects := by
  obtain ⟨s, ⟨v, hv, rfl⟩, ⟨w, hw, rfl⟩, ha⟩ := h
  rfl

lemma step (h : Twins known old others s₁ s₂) {e : Event} (he : known = true ∨ e.isReply = true)
    (hf : ToFresh old.length s₁ e) : Twins known old others (step p s₁ e) (step p s₂ e) := by
  obtain ⟨s, h₁, h₂, ha⟩ := h
  have hs := (h₁.toFresh_iff e).mp hf
  cases known with
  | true => exact ⟨_, h₁.step e hs, h₂.step e hs, .inl rfl⟩
  | false =>
    have ha := ha.resolve_left Bool.false_ne_true
    cases e with
    | reply index reply b =>
      have hn (request : Request) (hm : request ∈ s.pending) (unblockCode : String) :
          request.handler ≠ .signInInternal unblockCode := by
        intro hh
        obtain hr | hr := ha request hm
        · exact Handler.noConfusion (hr.symm.trans hh)
        · exact Handler.noConfusion (hr.symm.trans hh)
      exact ⟨_, h₁.reply index reply b hs (.inr hn), h₂.reply index reply b hs (.inr hn),
        .inr (ha.reply index reply b)⟩
    | _ => exact absurd (he.resolve_left Bool.false_ne_true) Bool.false_ne_true

lemma trace_eq (h : Twins known old others s₁ s₂) (he : ∀ e ∈ es, known = true ∨ e.isReply = true)
    (hm : Meets (AuthenticationInAppSession.step p) (ToFresh old.length) s₁ es) :
    trace p s₁ es = trace p s₂ es ∧
      Twins known old others (run (AuthenticationInAppSession.step p) s₁ es)
        (run (AuthenticationInAppSession.step p) s₂ es) := by
  induction es generalizing s₁ s₂ with
  | nil => exact ⟨rfl, h⟩
  | cons e es ih =>
    have hs := h.step (p := p) (he e List.mem_cons_self) hm.1
    obtain ⟨ht, hr⟩ := ih hs (fun f hf => he f (List.mem_cons_of_mem e hf)) hm.2
    refine ⟨?_, hr⟩
    rw [trace, trace, hs.effects_eq, ht]

lemma reset (hf : s₁.fxaParams = s₂.fxaParams) (ht : s₁.typeAuthentication = s₂.typeAuthentication)
    (ho : s₁.originalLoginEmailAddress = s₂.originalLoginEmailAddress)
    (hc : s₁.attachedClients = s₂.attachedClients) :
    Twins false s₁.pending s₂.pending (AuthenticationInAppSession.step p s₁ .reset)
      (AuthenticationInAppSession.step p s₂ .reset) := by
  refine ⟨AuthenticationInAppSession.step p
    { fxaParams := s₁.fxaParams, typeAuthentication := s₁.typeAuthentication
      originalLoginEmailAddress := s₁.originalLoginEmailAddress
      attachedClients := s₁.attachedClients } .reset, ?_, ?_, .inr fun r hr => by cases hr⟩
  · exact ⟨⟨s₁.sessionType, some s₁.password, s₁.ended, s₁.telemetry⟩, nofun, rfl⟩
  · rw [hf, ht, ho, hc]
    exact ⟨⟨s₂.sessionType, some s₂.password, s₂.ended, s₂.telemetry⟩, nofun, rfl⟩

lemma checkAccount (h : Twins false old others s₁ s₂) (emailAddress : String) :
    Twins false old others (AuthenticationInAppSession.step p s₁ (.checkAccount emailAddress))
      (AuthenticationInAppSession.step p s₂ (.checkAccount emailAddress)) := by
  obtain ⟨s, ⟨v, hv, rfl⟩, ⟨w, hw, rfl⟩, ha⟩ := h
  refine ⟨AuthenticationInAppSession.step p s (.checkAccount emailAddress), ⟨v, hv, rfl⟩, ⟨w, hw, rfl⟩, .inr ?_⟩
  exact Asks.send (ha.resolve_left Bool.false_ne_true) (.inl rfl)

lemma setPassword (h : Twins known old others s₁ s₂) (password : String) :
    Twins true old others (AuthenticationInAppSession.step p s₁ (.setPassword password))
      (AuthenticationInAppSession.step p s₂ (.setPassword password)) := by
  obtain ⟨s, ⟨v, hv, rfl⟩, ⟨w, hw, rfl⟩, ha⟩ := h
  exact ⟨AuthenticationInAppSession.step p s (.setPassword password), ⟨{ v with password := none }, fun _ => rfl, rfl⟩,
    ⟨{ w with password := none }, fun _ => rfl, rfl⟩, .inl rfl⟩

end Twins

lemma trace_append (fs : List Event) : trace p s (es ++ fs) = trace p s es ++ trace p (run (step p) s es) fs := by
  induction es generalizing s with
  | nil => rfl
  | cons e es ih => rw [List.cons_append, trace, trace, ih, List.cons_append, run_cons]

end Resets

/-- The flow is reset, and there is another sign in: an account, answers about it, a password and what follows. -/
def signInAgain (emailAddress password : String) (answers rest : List Event) : List Event :=
  .reset :: .checkAccount emailAddress :: (answers ++ .setPassword password :: rest)

/-- The earlier address that a request carries. -/
def originalLoginEmail : Effect → Option JsonValue
  | .request request => request.body.bind fun body => body.value "originalLoginEmail"
  | _ => none

lemma originalLoginEmail_signIn (p : Platform) (s : AuthenticationInAppSession) :
    (step p s .signIn).effects.map originalLoginEmail =
      [none, if s.originalLoginEmailAddress = "" then none else some (.string s.originalLoginEmailAddress)] := by
  have hs : (({ s with effects := [], sessionType := .SignIn }.recordFlow "login_started").effects = []) := by
    rw [recordFlow]
    split <;> rfl
  have ho : (({ s with effects := [], sessionType := .SignIn }.recordFlow
      "login_started").originalLoginEmailAddress = s.originalLoginEmailAddress) := by
    rw [recordFlow]
    split <;> rfl
  simp only [step, handle, signIn, signInInternal, post, send, requestState, emit, hs, ho]
  split_ifs with he
  · simp [originalLoginEmail, JsonObject.value]
  · simp [originalLoginEmail, JsonObject.value]

section Frames

variable (p : Platform) (s : AuthenticationInAppSession)

lemma originalLoginEmail_reset : (step p s .reset).originalLoginEmailAddress = s.originalLoginEmailAddress := rfl

lemma originalLoginEmail_checkAccount (emailAddress : String) :
    (step p s (.checkAccount emailAddress)).originalLoginEmailAddress = s.originalLoginEmailAddress := rfl

lemma originalLoginEmail_setPassword (password : String) :
    (step p s (.setPassword password)).originalLoginEmailAddress = s.originalLoginEmailAddress := rfl

end Frames

lemma length_trace (p : Platform) (s : AuthenticationInAppSession) (es : List Event) :
    (trace p s es).length = es.length := by
  induction es generalizing s with
  | nil => rfl
  | cons e es ih => rw [trace, List.length_cons, List.length_cons, ih]

/-- The earlier address is seen in a sign in. -/
lemma originalLoginEmail_of_effects {p : Platform} {s₁ s₂ : AuthenticationInAppSession}
    (h : (step p s₁ .signIn).effects = (step p s₂ .signIn).effects) :
    s₁.originalLoginEmailAddress = s₂.originalLoginEmailAddress := by
  have hm := congrArg (List.map originalLoginEmail) h
  rw [originalLoginEmail_signIn, originalLoginEmail_signIn] at hm
  have he := (List.cons.inj (List.cons.inj hm).2).1
  split_ifs at he with h₁ h₂
  · rw [h₁, h₂]
  · exact JsonValue.string.inj (Option.some.inj he)

/-- The list of the clients begins with those that were listed before. -/
lemma effects_attachedClients {p : Platform} {data : Bytes} (hj : p.fromJson data = some (.array []))
    (s : AuthenticationInAppSession) (b : Bool) :
    (step p (s.startAccountDeletionFlow p) (.reply 0 (.requestCompleted data) b)).effects =
      [.attachedClientsChanged s.attachedClients, .state .StateAccountDeletionRequest] := by
  simp only [step, handle, startAccountDeletionFlow, send, emit, List.getElem?_cons_zero, receive, requestCompleted,
    attachedClientsReceived, hj]
  rfl

lemma effects_of_trace {p : Platform} {s₁ s₂ : AuthenticationInAppSession} (es : List Event) {e : Event}
    (h : trace p s₁ (es ++ [e]) = trace p s₂ (es ++ [e])) :
    (step p (run (step p) s₁ es) e).effects = (step p (run (step p) s₂ es) e).effects := by
  rw [trace_append, trace_append] at h
  have hs := List.append_inj_right h ((length_trace p s₁ es).trans (length_trace p s₂ es).symm)
  exact (List.cons.inj hs).1

def shownClients : Effect → List String
  | .attachedClientsChanged attachedClients => attachedClients
  | _ => []

/-- A new sign in, with no answers to earlier requests, shows nothing of what was before the reset if and only if the
earlier addresses and the clients that were listed are the same. -/
theorem forgets_iff (p : Platform) (hj : ∃ data, p.fromJson data = some (.array []))
    {s₁ s₂ : AuthenticationInAppSession} (hf : s₁.fxaParams = s₂.fxaParams)
    (ht : s₁.typeAuthentication = s₂.typeAuthentication) :
    (∀ emailAddress password answers rest, (∀ e ∈ answers, Event.isReply e = true) →
      Meets (step p) (ToFresh s₁.pending.length) s₁ (signInAgain emailAddress password answers rest) →
      trace p s₁ (signInAgain emailAddress password answers rest) =
        trace p s₂ (signInAgain emailAddress password answers rest)) ↔
      s₁.originalLoginEmailAddress = s₂.originalLoginEmailAddress ∧ s₁.attachedClients = s₂.attachedClients := by
  obtain ⟨data, hj⟩ := hj
  constructor
  · intro h
    constructor
    · have ht := h "" "" [] [.signIn] (by simp) ⟨trivial, trivial, trivial, trivial, trivial⟩
      have ho := originalLoginEmail_of_effects (effects_of_trace [.reset, .checkAccount "", .setPassword ""] ht)
      simpa only [run_cons, run_nil, originalLoginEmail_reset, originalLoginEmail_checkAccount,
        originalLoginEmail_setPassword] using ho
    · have hn : 0 + s₁.pending.length < s₁.pending.length + 1 + 1 := by omega
      have ht := h "" "" [] [.startAccountDeletionFlow, .reply 0 (.requestCompleted data) true] (by simp)
        ⟨trivial, trivial, trivial, trivial, hn, trivial⟩
      have he := effects_of_trace [.reset, .checkAccount "", .setPassword "", .startAccountDeletionFlow] ht
      have hs (s : AuthenticationInAppSession) :=
        effects_attachedClients hj { run (step p) s [.reset, .checkAccount "", .setPassword ""] with effects := [] } true
      have hc := (List.cons.inj ((hs s₁).symm.trans (he.trans (hs s₂)))).1
      exact Effect.attachedClientsChanged.inj hc
  · rintro ⟨ho, hl⟩ emailAddress password answers rest ha hm
    obtain ⟨-, -, hm⟩ := hm
    obtain ⟨hm, -, hr⟩ := meets_append.mp hm
    have hc := (Twins.reset (p := p) hf ht ho hl).checkAccount (p := p) emailAddress
    obtain ⟨he, hw⟩ := hc.trace_eq (fun e hm => .inr (ha e hm)) hm
    obtain ⟨hl, -⟩ := (hw.setPassword (p := p) password).trace_eq (fun _ _ => .inl rfl) hr
    simp only [signInAgain, trace, trace_append, he, hl]
    rfl

def testAccount : String × JsonValue :=
  ("\x7b\"exists\":true,\"hasPassword\":true\x7d", .object [("exists", .bool true), ("hasPassword", .bool true)])

def testEmailCase : String × JsonValue :=
  ("\x7b\"errno\":120,\"email\":\"a@b\"\x7d", .object [("errno", .double 120), ("email", .string "a@b")])

def testVerified : String × JsonValue :=
  ("\x7b\"sessionToken\":\"ab\",\"verified\":true\x7d",
    .object [("sessionToken", .string "ab"), ("verified", .bool true)])

def testCode : String × JsonValue :=
  ("\x7b\"code\":\"1\",\"redirect\":\"r\",\"state\":\"2\"\x7d",
    .object [("code", .string "1"), ("redirect", .string "r"), ("state", .string "2")])

def testClients : String × JsonValue :=
  ("[\x7b\"name\":\"laptop\"\x7d]", .array [.object [("name", .string "laptop")]])

def testNoClients : String × JsonValue := ("[]", .array [])

def testCompleted (document : String × JsonValue) : Reply := .requestCompleted document.1.toUTF8.toList

lemma fromJson_head (document : String × JsonValue) (documents : List (String × JsonValue)) :
    (testPlatform (document :: documents)).fromJson document.1.toUTF8.toList = some document.2 := by
  simp only [testPlatform, decide_true, List.find?_cons_of_pos, Option.map_some]

theorem forgets_in_flight :
    let p := testPlatform [testNoClients, testAccount]
    let es := signInAgain "c@d" "horse" [.reply 0 (testCompleted testAccount) true] [.signIn]
    trace p (run (step p) {} [.checkAccount "a@b"]) es = trace p {} es := by
  intro p es
  have h := @forgets_iff p ⟨_, fromJson_head testNoClients [testAccount]⟩ (run (step p) {} [.checkAccount "a@b"]) {}
    rfl rfl
  exact h.mpr ⟨rfl, rfl⟩ "c@d" "horse" _ _ (by decide)
    ⟨trivial, trivial, Nat.lt_succ_self 1, trivial, trivial, trivial⟩

/-- The corrected address of an earlier sign in is sent with the next one, the clients of the earlier account are shown
with those of the new one, and a late answer about the earlier account is taken for one about the new account. -/
theorem not_forgets :
    let p := testPlatform [testNoClients, testAccount, testEmailCase, testVerified, testCode, testClients]
    let checked := Event.reply 0 (testCompleted testAccount) true
    let corrected := run (step p) {} [.checkAccount "A@b", checked, .setPassword "staple", .signIn,
      .reply 0 (testFailed testEmailCase) true]
    let deletion : AuthenticationInAppSession := { typeAuthentication := .TypeAccountDeletion }
    let listing := [.signIn, .reply 0 (testCompleted testVerified) true, .reply 0 (testCompleted testCode) true,
      .reply 0 (testCompleted testCode) true, .startAccountDeletionFlow]
    let listed := run (step p) deletion ([.checkAccount "a@b", checked, .setPassword "staple"] ++ listing ++
      [.reply 0 (testCompleted testClients) true])
    let again := signInAgain "c@d" "horse" [checked] (listing ++ [.reply 0 (testCompleted testNoClients) true])
    let checking := run (step p) {} [.checkAccount "a@b"]
    let late := Event.reply 1 (testCompleted testAccount) true
    corrected.fxaParams = {} ∧
      trace p corrected (signInAgain "c@d" "horse" [checked] [.signIn]) ≠
        trace p {} (signInAgain "c@d" "horse" [checked] [.signIn]) ∧
      listed.fxaParams = {} ∧ trace p listed again ≠ trace p deletion again ∧
      checking.fxaParams = {} ∧
      trace p checking (signInAgain "c@d" "horse" [late] []) ≠ trace p {} (signInAgain "c@d" "horse" [late] []) := by
  intro p checked corrected deletion listing listed again checking late
  refine ⟨by decide +kernel, fun h => ?_, by decide +kernel, fun h => ?_, rfl, fun h => ?_⟩
  · have ho := originalLoginEmail_of_effects
      (effects_of_trace [.reset, .checkAccount "c@d", checked, .setPassword "horse"] h)
    exact absurd ho (by decide +kernel)
  · have he := effects_of_trace ([.reset, .checkAccount "c@d", checked, .setPassword "horse"] ++ listing) h
    have hc := congrArg (List.map shownClients) he
    exact absurd hc (by decide +kernel)
  · exact absurd (congrArg (List.map List.length) h) (by decide +kernel)

end AuthenticationInAppSession

end VpnClient.Authentication
