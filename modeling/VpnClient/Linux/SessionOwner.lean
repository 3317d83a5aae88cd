import VpnClient.Library.Runs
import VpnClient.Linux.DBusService

/-! The user that a connection belongs to: who is authorized while it is up, and when the daemon forgets its owner. -/

namespace VpnClient.Linux

open Backend Library.Attempts Library.Attempts.Attempt Library.Runs
open Backend.Daemon (Reconnects connectHop isUp_connectHop)

namespace DBusService

variable {env : Env} {message : Option Message} {config : InterfaceConfig} {a : Attempt DBusService}
  {s : DBusService} {u : ℕ}

/-- The session's user after the authorization of a call. -/
def recordedUid (message : Message) (s : DBusService) : ℕ :=
  if s.sessionUid = 0 ∧ message.member = "activate" then message.serviceUid.getD 0 else s.sessionUid

lemma isCallerAuthorized_some (message : Message) (s : DBusService) : isCallerAuthorized (some message) s =
    (decide (recordedUid message s ≠ 0 ∧ message.serviceUid = some (recordedUid message s)) || message.netAdmin,
      { s with sessionUid := recordedUid message s }) := by
  obtain ⟨member, serviceUid, netAdmin⟩ := message
  obtain ⟨daemon, sessionUid, running, apps, cgroups, chains⟩ := s
  by_cases hs : sessionUid = 0
  · subst hs
    by_cases hm : member = "activate"
    · cases serviceUid with
      | none => simp [isCallerAuthorized, recordedUid, hm]
      | some uid => by_cases hu : uid = 0 <;> simp [isCallerAuthorized, recordedUid, hm, hu]
    · simp [isCallerAuthorized, recordedUid, hm]
  · by_cases hu : serviceUid = some sessionUid <;> simp [isCallerAuthorized, recordedUid, hs, hu]

lemma isCallerAuthorized_of_fst_eq_false (h : (isCallerAuthorized message s).1 = false) :
    isCallerAuthorized message s = (false, s) := by
  cases message with
  | none => exact absurd h (by simp [isCallerAuthorized, succeed])
  | some message =>
    rw [isCallerAuthorized_some] at h ⊢
    have hr : recordedUid message s = s.sessionUid := by
      rw [recordedUid] at h ⊢
      split
      · next hc =>
        rw [if_pos hc] at h
        rw [hc.1]
        cases hu : message.serviceUid with
        | none => rfl
        | some uid =>
          by_contra hn
          simp [hu, show uid ≠ 0 from hn] at h
      · rfl
    rw [hr] at h ⊢
    exact congrArg (·, s) h

lemma isCallerAuthorized_again (h : (isCallerAuthorized message s).1 = true) :
    (isCallerAuthorized message (isCallerAuthorized message s).2).1 = true := by
  cases message with
  | none => rfl
  | some message =>
    have hr : recordedUid message { s with sessionUid := recordedUid message s } = recordedUid message s := by
      unfold recordedUid
      by_cases hc : s.sessionUid = 0 ∧ message.member = "activate"
      · rw [if_pos hc]
        exact ite_self _
      · rw [if_neg hc]
        exact if_neg hc
    rw [isCallerAuthorized_some] at h ⊢
    rw [isCallerAuthorized_some, hr]
    exact h

lemma isCallerAuthorized_daemon : (isCallerAuthorized message s).2.daemon = s.daemon := by
  cases message with
  | none => rfl
  | some message => rw [isCallerAuthorized_some]

/-- The part of the state that split tunnelling leaves alone. -/
def session (s : DBusService) : Daemon × ℕ := (s.daemon, s.sessionUid)

lemma session_applyState (cgroup : Cgroup) (state : AppState) (s : DBusService) :
    (s.applyState cgroup state).session = s.session := by
  rw [applyState]
  split <;> rfl

lemma session_appLaunched (cgroup : Cgroup) (id : String) (s : DBusService) :
    (s.appLaunched cgroup id).session = s.session := by
  dsimp only [appLaunched]
  split
  · rfl
  · exact session_applyState _ _ s

lemma session_appTerminated (cgroup : Cgroup) (s : DBusService) :
    (s.appTerminated cgroup).session = s.session := by
  rw [appTerminated]
  split <;> rfl

lemma session_setAppState (id : String) (state : AppState) (s : DBusService) :
    (s.setAppState id state).session = s.session := by
  rw [setAppState]
  split
  · exact run_frame (f := session) fun _ _ => rfl
  · refine run_frame (f := session) fun s cgroup => (session_applyState _ _ _).trans ?_
    split <;> rfl

lemma session_excludeApps (config : InterfaceConfig) (s : DBusService) :
    (s.excludeApps config).session = s.session :=
  run_frame (s := s.clearAppStates) (f := session) fun s app => session_setAppState (desktopFileId app) .Excluded s

lemma session_cgroupsChanged (directory : Library.Nftables.Data) (newScopes : Listing) (s : DBusService) :
    (s.cgroupsChanged directory newScopes).session = s.session := by
  have hfound : (newScopes.scopes.foldl scopeFound (s.runningCgroups.keys, s)).2.session = s.session := by
    refine run_frame (f := fun p : List Cgroup × DBusService => p.2.session) fun p scope => ?_
    unfold scopeFound
    split
    · rfl
    · exact session_appLaunched _ _ _
  refine Eq.trans (run_frame (f := session) fun s scope => ?_) hfound
  rw [scopeMissing]
  split
  · exact session_appTerminated _ _
  · rfl

lemma sessionUid_deactivate (env : Env) (message : Option Message) (emitSignals : Bool) (s : DBusService) :
    (deactivate env message emitSignals s).2.sessionUid =
      if (isCallerAuthorized message s).1 then 0 else s.sessionUid := by
  cases hm : (isCallerAuthorized message s).1 with
  | true => simp [deactivate, andThen, hm, succeed, onDaemon, clearAppStates, resetAllCgroups]
  | false => simp [deactivate, andThen, isCallerAuthorized_of_fst_eq_false hm]

@[simp] lemma sessionUid_emitFailure (a : Attempt DBusService) (s : DBusService) :
    (emitFailure a s).2.sessionUid = (a s).2.sessionUid := by
  dsimp only [emitFailure]
  split <;> rfl

lemma activateNested_of_not_reconnects (h : ¬Reconnects config s.daemon) (depth : ℕ) :
    activateNested env message config (depth + 1) s = emitFailure (onDaemon (connectHop env config)) s := by
  unfold activateNested emitFailure
  by_cases hc : (s.daemon.connections config.hopType).isSome
  · have hs : s.daemon.connections.supportServerSwitching config = true := by
      by_contra hn
      exact h ⟨hc, by simpa using hn⟩
    simp [hc, hs, onDaemon, connectHop]
  · simp [hc, onDaemon, connectHop]

lemma activateNested_of_reconnects (h : Reconnects config s.daemon) (depth : ℕ) :
    activateNested env message config (depth + 1) s =
      emitFailure ((deactivate env message false).andThen (activateNested env message config depth)) s := by
  simp only [activateNested, emitFailure, h.1, h.2, if_true, if_false, Bool.false_eq_true]

lemma keeps_sessionUid_zero (depth : ℕ) :
    Keeps (fun s => s.sessionUid = 0) (activateNested env message config depth) := by
  have hd : Keeps (fun s => s.sessionUid = 0) (deactivate env message false) := by
    intro s hs
    rw [sessionUid_deactivate]
    split
    · rfl
    · exact hs
  induction depth with
  | zero => exact fun _ hs => hs
  | succ depth ih =>
    intro s hs
    by_cases hr : Reconnects config s.daemon
    · rw [activateNested_of_reconnects hr, sessionUid_emitFailure]
      exact hd.andThen ih s hs
    · rw [activateNested_of_not_reconnects hr, sessionUid_emitFailure]
      exact hs

lemma sessionUid_of_reconnects (h : Reconnects config s.daemon) (ha : (isCallerAuthorized message s).1 = true)
    (depth : ℕ) : (activateNested env message config (depth + 1) s).2.sessionUid = 0 := by
  have hd : (deactivate env message false s).2.sessionUid = 0 := by rw [sessionUid_deactivate, if_pos ha]
  rw [activateNested_of_reconnects h, sessionUid_emitFailure]
  rw [andThen]
  split
  · exact keeps_sessionUid_zero depth _ hd
  · exact hd

lemma isUp_of_not_reconnects (h : ¬Reconnects config s.daemon) (depth : ℕ)
    (hu : s.daemon.IsUp ∨ Daemon.Due env (Daemon.bringUpCalls env config s.daemon) s.daemon) :
    (activateNested env message config (depth + 1) s).2.daemon.IsUp := by
  have hup : (connectHop env config s.daemon).2.IsUp := by
    obtain hu | hu := hu
    · exact isUp_connectHop _ hu
    · by_cases hc : (s.daemon.connections config.hopType).isSome
      · apply isUp_connectHop _
        rw [Daemon.IsUp, Bool.eq_false_iff]
        intro he
        simp [Connections.isEmpty_iff.mp he config.hopType] at hc
      · rw [connectHop, if_neg hc]
        exact Daemon.isUp_of_activateHop ((Daemon.activateHop_iff config _).mpr hu)
  rw [activateNested_of_not_reconnects h]
  dsimp only [emitFailure]
  split <;> exact hup

lemma session_activate (env : Env) (h : (isCallerAuthorized message s).1 = true) (config : InterfaceConfig) :
    (activate env message (some config) s).2.session =
      (activateNested env message config 2 (isCallerAuthorized message s).2).2.session := by
  unfold activate andThen succeed
  rw [if_pos h]
  dsimp only
  split
  · exact session_excludeApps config _
  · rfl

/-- Callers other than the user lack `CAP_NET_ADMIN`. -/
def Unprivileged (u : ℕ) : Event → Prop
  | .call caller _ => caller.uid ≠ some u → caller.netAdmin = false
  | _ => True

/-- Watches whether a connection is up since an `activate` of the user returned true. -/
def observe (env : Env) (u : ℕ) (s : DBusService) (e : Event) (owned : Bool) : Bool :=
  !(step env s e).daemon.connections.isEmpty &&
    match e with
    | .call caller (.activate config) =>
      owned || (caller.uid = some u && (serve env caller (.activate config) s).1)
    | .call caller .deactivate => owned && !(isCallerAuthorized (Call.deactivate.message caller) s).1
    | .quitRequested => false
    | _ => owned

/-- The owner of a connection, and nobody else, has access to it, and without a connection there is no owner. -/
def OwnerHolds (env : Env) (u : ℕ) (p : DBusService × Bool) : Prop :=
  (p.2 = true → p.1.sessionUid = u ∧ ∀ caller call,
    (caller.uid = some u → isCallerAuthorized (call.message caller) p.1 = (true, p.1)) ∧
    (caller.uid ≠ some u → caller.netAdmin = false → serve env caller call p.1 = (false, p.1))) ∧
  (p.1.daemon.connections.isEmpty = true → p.1.sessionUid = 0)

/-- The activations that record the right owner, and do not forget it. -/
def OwnerKept (env : Env) (u : ℕ) (s : DBusService) : Event → Prop
  | .call caller (.activate config) =>
    (caller.uid = some u → caller.netAdmin = true → s.sessionUid = 0 ∨ s.sessionUid = u) ∧
    (caller.uid = some u → s.sessionUid = 0 ∨ s.sessionUid = u → ∀ c ∈ config, ¬Reconnects c s.daemon) ∧
    (s.daemon.connections.isEmpty = true → (∃ v ≠ 0, caller.uid = some v) →
      ∃ c ∈ config, Daemon.Due env (Daemon.bringUpCalls env c s.daemon) s.daemon)
  | _ => True

/-- The part of `OwnerHolds` from which the rest follows. -/
def OwnerRecorded (u : ℕ) (p : DBusService × Bool) : Prop :=
  (p.2 = true → p.1.sessionUid = u) ∧ (p.1.daemon.connections.isEmpty = true → p.1.sessionUid = 0)

lemma isCallerAuthorized_owner {caller : Caller} (hu : u ≠ 0) (hs : s.sessionUid = u) (hc : caller.uid = some u)
    (call : Call) : isCallerAuthorized (call.message caller) s = (true, s) := by
  have hr : recordedUid (call.message caller) s = u := by
    rw [recordedUid]
    rw [if_neg fun h => hu (hs.symm.trans h.1), hs]
  rw [isCallerAuthorized_some, hr]
  subst hs
  simp [Call.message, hc, hu]

lemma isCallerAuthorized_other {caller : Caller} (hu : u ≠ 0) (hs : s.sessionUid = u) (hc : caller.uid ≠ some u)
    (hn : caller.netAdmin = false) (call : Call) : isCallerAuthorized (call.message caller) s = (false, s) := by
  have hr : recordedUid (call.message caller) s = u := by
    rw [recordedUid]
    rw [if_neg fun h => hu (hs.symm.trans h.1), hs]
  rw [isCallerAuthorized_some, hr]
  subst hs
  simp [Call.message, hc, hn]

lemma serve_of_not_authorized {caller : Caller} {call : Call}
    (h : isCallerAuthorized (call.message caller) s = (false, s)) : serve env caller call s = (false, s) := by
  cases call with
  | activate config => simp [serve, activate, andThen, h]
  | deactivate => simp [serve, deactivate, andThen, h]
  | getLogs => exact h

lemma ownerHolds_of_ownerRecorded (hu : u ≠ 0) {p : DBusService × Bool} (h : OwnerRecorded u p) :
    OwnerHolds env u p := by
  refine ⟨fun ho => ⟨h.1 ho, fun caller call => ⟨fun hc => ?_, fun hc hn => ?_⟩⟩, h.2⟩
  · exact isCallerAuthorized_owner hu (h.1 ho) hc call
  · exact serve_of_not_authorized (isCallerAuthorized_other hu (h.1 ho) hc hn call)

lemma recordedUid_activate (config : Option InterfaceConfig) (caller : Caller) (s : DBusService) :
    recordedUid ((Call.activate config).message caller) s =
      if s.sessionUid = 0 then caller.uid.getD 0 else s.sessionUid := by
  simp [recordedUid, Call.message, Call.member]

lemma serve_activate_none (env : Env) (caller : Caller) (s : DBusService) : (serve env caller (.activate none) s).2 =
    { s with sessionUid := recordedUid ((Call.activate none).message caller) s } := by
  change (activate env (some _) none s).2 = _
  rw [activate, andThen]
  split <;> exact congrArg Prod.snd (isCallerAuthorized_some _ s)

/-- Unless it goes through a deactivation, an authorized activation keeps the user that it has recorded, and it
leaves a connection behind if there was one or if bringing up the hop succeeds. -/
lemma session_activate_of_not_reconnects (env : Env) {caller : Caller}
    (ha : (isCallerAuthorized ((Call.activate (some config)).message caller) s).1 = true)
    (hr : ¬Reconnects config s.daemon) :
    (serve env caller (.activate (some config)) s).2.sessionUid =
        recordedUid ((Call.activate (some config)).message caller) s ∧
      (s.daemon.IsUp ∨ Daemon.Due env (Daemon.bringUpCalls env config s.daemon) s.daemon →
        (serve env caller (.activate (some config)) s).2.daemon.IsUp) := by
  have hs := session_activate env ha config
  simp only [session, Prod.mk.injEq] at hs
  have hd : (isCallerAuthorized (some ((Call.activate (some config)).message caller)) s).2.daemon = s.daemon :=
    isCallerAuthorized_daemon
  rw [← hd] at hr ⊢
  refine ⟨hs.2.trans ?_, fun hu => ?_⟩
  · rw [activateNested_of_not_reconnects hr, sessionUid_emitFailure, isCallerAuthorized_some]
    rfl
  · exact congrArg Daemon.IsUp hs.1 ▸ isUp_of_not_reconnects hr 1 hu

lemma session_activate_of_reconnects {caller : Caller}
    (ha : (isCallerAuthorized ((Call.activate (some config)).message caller) s).1 = true)
    (hr : Reconnects config s.daemon) : (serve env caller (.activate (some config)) s).2.sessionUid = 0 := by
  have hs := session_activate env ha config
  simp only [session, Prod.mk.injEq] at hs
  refine hs.2.trans (sessionUid_of_reconnects ?_ (isCallerAuthorized_again ha) 1)
  rwa [isCallerAuthorized_daemon]

lemma authorized_activate {caller : Caller} {config : Option InterfaceConfig}
    (ha : (isCallerAuthorized ((Call.activate config).message caller) s).1 = true) :
    (∃ v ≠ 0, caller.uid = some v ∧ (s.sessionUid = 0 ∨ s.sessionUid = v)) ∨ caller.netAdmin = true := by
  rw [isCallerAuthorized_some, recordedUid_activate] at ha
  obtain ⟨hn, hc⟩ | ha := (by simpa using ha : _ ∨ _)
  · refine .inl ⟨_, hn, hc, ?_⟩
    split
    · next hs => exact .inl hs
    · exact .inr rfl
  · exact .inr ha

lemma owner_of_owned (hu : u ≠ 0) {caller : Caller} {config : Option InterfaceConfig} {owned : Bool}
    (h : OwnerRecorded u (s, owned)) (hp : Unprivileged u (.call caller (.activate config)))
    (hk : OwnerKept env u s (.call caller (.activate config)))
    (ha : (isCallerAuthorized ((Call.activate config).message caller) s).1 = true)
    (ho : owned = true ∨ caller.uid = some u) :
    caller.uid = some u ∧ (s.sessionUid = 0 ∨ s.sessionUid = u) := by
  obtain ho | hc := ho
  · have hs : s.sessionUid = u := h.1 ho
    refine ⟨?_, .inr hs⟩
    by_contra hc
    rw [isCallerAuthorized_other hu hs hc (hp hc)] at ha
    exact absurd ha (by simp)
  · refine ⟨hc, ?_⟩
    obtain ⟨v, -, hv, hs⟩ | hn := authorized_activate ha
    · obtain rfl : v = u := Option.some.inj (hv.symm.trans hc)
      exact hs
    · exact hk.1 hc hn

lemma ownerRecorded_activate (hu : u ≠ 0) {caller : Caller} {config : Option InterfaceConfig} {owned : Bool}
    (h : OwnerRecorded u (s, owned)) (hp : Unprivileged u (.call caller (.activate config)))
    (hk : OwnerKept env u s (.call caller (.activate config)))
    (ha : (isCallerAuthorized ((Call.activate config).message caller) s).1 = true) :
    OwnerRecorded u (watch (step env) (observe env u) (s, owned) (.call caller (.activate config))) := by
  have hrec := recordedUid_activate config caller s
  refine ⟨fun ho => ?_, fun he => ?_⟩
  · obtain ⟨-, ho⟩ := Bool.and_eq_true_iff.mp ho
    have ho : owned = true ∨ caller.uid = some u := by
      simp only [Bool.or_eq_true, Bool.and_eq_true, decide_eq_true_eq] at ho
      exact ho.imp id And.left
    obtain ⟨hc, hs⟩ := owner_of_owned hu h hp hk ha ho
    have hrec : recordedUid ((Call.activate config).message caller) s = u := by
      obtain hs | hs := hs <;> simp [hrec, hs, hc, hu]
    cases config with
    | none => exact (congrArg sessionUid (serve_activate_none env caller s)).trans hrec
    | some config =>
      exact (session_activate_of_not_reconnects env ha (hk.2.1 hc hs config rfl)).1.trans hrec
  · have hdue : s.daemon.connections.isEmpty = true →
        recordedUid ((Call.activate config).message caller) s ≠ 0 →
        ∃ c ∈ config, Daemon.Due env (Daemon.bringUpCalls env c s.daemon) s.daemon := by
      intro he hn
      rw [hrec, if_pos (h.2 he)] at hn
      cases hc : caller.uid with
      | none => simp [hc] at hn
      | some v => exact hk.2.2 he ⟨v, by simpa [hc] using hn, hc⟩
    cases config with
    | none =>
      have hs := serve_activate_none env caller s
      by_contra hn
      obtain ⟨c, hc, -⟩ := hdue ((congrArg (·.daemon.connections.isEmpty) hs).symm.trans he) fun h₀ =>
        hn ((congrArg sessionUid hs).trans h₀)
      exact absurd hc (by simp)
    | some config =>
      by_cases hr : Reconnects config s.daemon
      · exact session_activate_of_reconnects ha hr
      · obtain ⟨hs, hup⟩ := session_activate_of_not_reconnects env ha hr
        by_contra hn
        refine absurd (hup ?_) (by rw [Daemon.IsUp, Bool.eq_false_iff]; exact not_not_intro he)
        cases hd : s.daemon.connections.isEmpty with
        | false => exact .inl hd
        | true =>
          obtain ⟨c, hc, hdue⟩ := hdue hd fun h₀ => hn (hs.trans h₀)
          exact .inr ((Option.some.inj hc).symm ▸ hdue)

lemma OwnerRecorded.keep {p q : DBusService × Bool} (h : OwnerRecorded u p) (ho : q.2 = true → p.2 = true)
    (hs : q.1.sessionUid = p.1.sessionUid)
    (hc : q.1.daemon.connections.isEmpty = p.1.daemon.connections.isEmpty) : OwnerRecorded u q :=
  ⟨fun hq => hs.trans (h.1 (ho hq)), fun hq => hs.trans (h.2 (hc.symm.trans hq))⟩

lemma ownerRecorded_ended {p : DBusService × Bool} (ho : p.2 = false) (hs : p.1.sessionUid = 0) :
    OwnerRecorded u p :=
  ⟨fun hp => absurd hp (by simp [ho]), fun _ => hs⟩

lemma isEmpty_handshakeTimeout (env : Env) (peers : List Daemon.PeerStatus) (d : Daemon) :
    (d.step env (.handshakeTimeout peers)).connections.isEmpty = d.connections.isEmpty := by
  simp only [Daemon.step]
  split
  · exact Daemon.isEmpty_checkHandshake peers d
  · rfl

lemma ownerRecorded_rejected {caller : Caller} {call : Call} {owned : Bool} (h : OwnerRecorded u (s, owned))
    (ha : (isCallerAuthorized (call.message caller) s).1 = false) :
    OwnerRecorded u (watch (step env) (observe env u) (s, owned) (.call caller call)) := by
  have hs : serve env caller call s = (false, s) :=
    serve_of_not_authorized (isCallerAuthorized_of_fst_eq_false ha)
  have hstep : step env s (.call caller call) = s := congrArg Prod.snd hs
  refine h.keep (fun ho => ?_) (congrArg sessionUid hstep) (congrArg (·.daemon.connections.isEmpty) hstep)
  obtain ⟨-, ho⟩ := Bool.and_eq_true_iff.mp ho
  cases call with
  | activate config => simpa [hs] using ho
  | deactivate => exact (Bool.and_eq_true_iff.mp ho).1
  | getLogs => exact ho

lemma ownerRecorded_step (hu : u ≠ 0) (p : DBusService × Bool) (e : Event) (h : OwnerRecorded u p)
    (he : Unprivileged u e ∧ OwnerKept env u p.1 e) :
    OwnerRecorded u (watch (step env) (observe env u) p e) := by
  obtain ⟨s, owned⟩ := p
  cases e with
  | call caller call =>
    cases ha : (isCallerAuthorized (call.message caller) s).1 with
    | false => exact ownerRecorded_rejected h ha
    | true =>
      cases call with
      | activate config => exact ownerRecorded_activate hu h he.1 he.2 ha
      | deactivate =>
        apply ownerRecorded_ended (by simp [watch, observe, ha])
        exact (sessionUid_deactivate env _ true s).trans (if_pos ha)
      | getLogs =>
        have hr : step env s (.call caller .getLogs) = s := by
          simp [step, serve, isCallerAuthorized_some, recordedUid, Call.message, Call.member]
        exact h.keep (fun ho => (Bool.and_eq_true_iff.mp ho).2) (congrArg sessionUid hr)
          (congrArg (·.daemon.connections.isEmpty) hr)
  | quitRequested =>
    apply ownerRecorded_ended (by simp [watch, observe])
    exact (sessionUid_deactivate env none true s).trans (if_pos rfl)
  | handshakeTimeout peers =>
    exact h.keep (fun ho => (Bool.and_eq_true_iff.mp ho).2) rfl (isEmpty_handshakeTimeout env peers s.daemon)
  | cgroupsChanged directory newScopes =>
    have hs := session_cgroupsChanged directory newScopes s
    simp only [session, Prod.mk.injEq] at hs
    exact h.keep (fun ho => (Bool.and_eq_true_iff.mp ho).2) hs.2 (congrArg (·.connections.isEmpty) hs.1)

/-- In every run in which activations record the right owner and do not forget it, the owner of a connection, and
nobody else, has access to it. -/
theorem session_owner (env : Env) (u : ℕ) (hu : u ≠ 0) (es : List Event) (hp : ∀ e ∈ es, Unprivileged u e)
    (hk : Meets (step env) (OwnerKept env u) {} es) :
    OwnerHolds env u (run (watch (step env) (observe env u)) ({}, false) es) := by
  have hm : Meets (watch (step env) (observe env u)) (fun p e => Unprivileged u e ∧ OwnerKept env u p.1 e)
      ({}, false) es :=
    (meets_watch (C := fun s e => Unprivileged u e ∧ OwnerKept env u s e) _ _).mpr (hk.and_forall hp)
  have h₀ : OwnerRecorded u ({}, false) := ⟨fun h => absurd h (by simp), fun _ => rfl⟩
  exact ownerHolds_of_ownerRecorded hu (hm.invariant (ownerRecorded_step hu) h₀)

/-- A user without privileges. -/
def user : Caller := ⟨some 1000, false⟩

def userConfig (privateKey : String) : InterfaceConfig := { hopType := .SingleHop, privateKey }

def userActivates (privateKey : String) : Event := .call user (.activate (some (userConfig privateKey)))

lemma unprivileged_user (call : Call) : Unprivileged 1000 (.call user call) := fun _ => rfl

theorem session_owner_user :
    let p := run (watch (step (.succeeding true)) (observe (.succeeding true) 1000)) ({}, false) [userActivates "key"]
    p.2 = true ∧ OwnerHolds (.succeeding true) 1000 p := by
  refine ⟨by decide +kernel, session_owner (.succeeding true) 1000 (by decide) [userActivates "key"] ?_ ⟨⟨?_, ?_, ?_⟩, trivial⟩⟩
  · intro e he
    obtain rfl := List.mem_singleton.mp he
    exact unprivileged_user _
  · exact fun _ h => absurd h (by decide)
  · exact fun _ _ c _ h => absurd h.1 (by simp)
  · exact fun _ _ => ⟨_, rfl, fun _ _ => rfl⟩

/-- A user that activates again with another key loses the session, and one whose configuration is refused keeps it. -/
theorem session_owner_forgotten :
    let again := [userActivates "key", userActivates "other key"]
    let refused := [Event.call user (.activate none)]
    (∀ e ∈ again ++ refused, Unprivileged 1000 e) ∧
      ∀ es ∈ [again, refused], ¬OwnerHolds (.succeeding true) 1000
        (run (watch (step (.succeeding true)) (observe (.succeeding true) 1000)) ({}, false) es) := by
  refine ⟨?_, ?_⟩
  · simp only [List.cons_append, List.nil_append, List.forall_mem_cons]
    exact ⟨unprivileged_user _, unprivileged_user _, unprivileged_user _, by simp⟩
  · simp only [List.forall_mem_cons]
    refine ⟨fun h => ?_, fun h => ?_, by simp⟩
    · exact absurd (h.1 (by decide +kernel)).1 (by decide +kernel)
    · exact absurd (h.2 (by decide +kernel)) (by decide +kernel)

end DBusService

end VpnClient.Linux
