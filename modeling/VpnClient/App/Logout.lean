import VpnClient.App.AccountStates

/-! When the main state is entered, and that a logout forgets the keys unless a device is still being added. -/

namespace VpnClient.App.MozillaVPN

open Ipc Models Tasks Library.Runs

variable {V : Type} {env : Env V} {s t : MozillaVPN V} {n : ℕ}

section Main

/-- The user may use the app: a subscription, a device with its keys, a list of servers, and no onboarding is left. -/
structure Ready (s : MozillaVPN V) : Prop where
  subscribed : s.user.subscriptionNeeded = false
  models : s.modelsInitialized = true
  onboarding : s.settings.onboardingCompleted = true

/-- The main state is only entered by a user who is ready for it. -/
def Enters (s t : MozillaVPN V) : Prop := t.state = .StateMain → s.state = .StateMain ∨ Ready t

lemma enters_of_ne (h : t.state ≠ .StateMain) : Enters s t := fun ht => absurd ht h

lemma enters_of_eq (h : t.state = s.state) : Enters s t := fun ht => .inl (h ▸ ht)

lemma exists_scheduleRefreshDataTasks (s : MozillaVPN V) :
    ∃ scheduler tasks, s.scheduleRefreshDataTasks = { s with scheduler, tasks } := by
  rw [scheduleRefreshDataTasks]
  split_ifs <;> exact ⟨_, _, rfl⟩

lemma exists_maybeRegenerateDeviceKey (s : MozillaVPN V) :
    ∃ scheduler tasks, s.maybeRegenerateDeviceKey = { s with scheduler, tasks } := by
  rw [maybeRegenerateDeviceKey]
  split_ifs
  · exact ⟨_, _, rfl⟩
  · exact ⟨_, _, rfl⟩
  · obtain ⟨scheduler, tasks, hs⟩ := exists_scheduleRefreshDataTasks (s.scheduleTask (.request .addDevice))
    rw [addCurrentDeviceAndRefreshData, hs]
    exact ⟨_, _, rfl⟩

lemma enters_maybeStateMain (s : MozillaVPN V) : Enters s s.maybeStateMain := by
  rw [maybeStateMain]
  dsimp only
  split_ifs with h₁ h₂ h₃ h₄ h₅ h₆
  · exact enters_of_ne (by rw [state_setState]; simp)
  · exact enters_of_eq rfl
  · exact enters_of_ne (by rw [state_setState]; simp)
  · exact enters_of_ne (by dsimp only; rw [state_setState]; simp)
  · exact enters_of_ne (by rw [state_setState]; simp)
  · intro _
    have hm : s.modelsInitialized = true := by simpa using h₅
    have hu : s.user.initialized = true := by
      simp only [modelsInitialized, Bool.and_eq_true] at hm
      exact hm.1.1.1.1
    have hn : s.user.subscriptionNeeded = false := by
      by_contra hn
      exact h₁ ⟨hu, fun hs => h₂ ⟨hu, hs⟩, by simpa using hn⟩
    obtain ⟨scheduler, tasks, he⟩ := exists_maybeRegenerateDeviceKey s
    rw [he]
    exact .inr ⟨hn, hm, rfl⟩
  · exact enters_of_eq (by rw [state_maybeRegenerateDeviceKey])

lemma enters_errorHandle (alert : AlertType) : Enters s (s.errorHandle alert) := by
  rcases s.errorHandle_cases alert with he | he
  · exact enters_of_eq (by rw [he])
  · exact enters_of_ne (by rw [he, state_reset, if_pos rfl]; simp)

lemma Enters.of_eq (h : Enters s t) {s' : MozillaVPN V} (hs : s.state = s'.state) : Enters s' t :=
  fun ht => (h ht).imp (fun h => hs ▸ h) id

lemma Enters.taskCompleted (h : Enters s t) (n : ℕ) : Enters s (t.taskCompleted n) := by
  rw [MozillaVPN.taskCompleted]
  split_ifs
  · exact fun ht => (h ht).imp id fun hr => ⟨hr.subscribed, hr.models, hr.onboarding⟩
  · exact h

lemma Enters.setTasks (h : Enters s t) (tasks : List Task) : Enters s { t with tasks } :=
  fun ht => (h ht).imp id fun hr => ⟨hr.subscribed, hr.models, hr.onboarding⟩

lemma enters_completeActivation : Enters s (s.completeActivation env) := by
  have hr : (s.maybeRemoveCurrentDevice env).2.state = s.state := by
    rw [maybeRemoveCurrentDevice]
    split
    · rfl
    · split_ifs <;> rfl
  rw [completeActivation]
  dsimp only
  by_cases hc : (if (s.maybeRemoveCurrentDevice env).1 = .DeviceRemoved then (s.deviceModel.devices.length : ℤ) - 1
      else s.deviceModel.devices.length) ≥ (s.maybeRemoveCurrentDevice env).2.user.maxDevices ∧
      (s.maybeRemoveCurrentDevice env).1 = .DeviceNotFound
  · rw [if_pos hc]
    exact (enters_maybeStateMain _).of_eq hr
  rw [if_neg hc]
  split_ifs
  · exact enters_of_eq (by rw [state_scheduleTask, state_addCurrentDeviceAndRefreshData, hr])
  · exact enters_of_eq (by rw [state_scheduleTask, state_scheduleRefreshDataTasks, hr])

lemma enters_completeAuthentication (json : Bytes) (token : String) :
    Enters s (s.completeAuthentication env json token) := by
  have hs := (readAccount_frame env json s).2.2.1
  rw [completeAuthentication]
  dsimp only
  split_ifs
  · exact (enters_errorHandle _).of_eq hs
  · exact (enters_maybeStateMain _).of_eq hs
  · exact enters_completeActivation.of_eq hs

lemma enters_accountChecked (json : Bytes) : Enters s (s.accountChecked env json) := by
  have hs := (readAccount_frame env json s).2.2.1
  have hc : (s.readAccount env json).2.checkCurrentDevice.2.state = s.state := by
    rw [checkCurrentDevice]
    split_ifs <;> exact hs
  rw [accountChecked]
  dsimp only
  split_ifs
  · exact enters_of_eq hs
  · exact enters_of_eq hc
  · exact (enters_maybeStateMain _).of_eq hc
  · exact enters_of_eq hc

lemma enters_heartbeatCompleted (success : Bool) : Enters s (s.heartbeatCompleted success) := by
  rw [heartbeatCompleted]
  split_ifs
  · exact enters_of_ne (by rw [state_setState]; simp)
  · exact enters_of_eq rfl
  · exact enters_of_ne (by rw [state_setState]; simp)
  · exact enters_maybeStateMain s

lemma enters_authenticate : Enters s s.authenticate :=
  enters_of_ne (by rw [authenticate, state_scheduleTask, state_scheduleTask, state_setState]; simp)

lemma state_removeDevice (publicKey : String) : (s.removeDevice publicKey).state = s.state := by
  rw [removeDevice]
  dsimp only
  split_ifs
  · rfl
  · rw [state_scheduleTask, state_addCurrentDeviceAndRefreshData]

lemma enters_call (f : Function) : Enters s (s.call f) := by
  cases f with
  | maybeStateMain => exact enters_maybeStateMain s
  | leaveDeviceLimit =>
    rw [call]
    split_ifs
    · exact enters_of_eq rfl
    · exact enters_maybeStateMain s
  | recoverSubscription =>
    rw [call]
    split_ifs
    · exact enters_maybeStateMain s
    · exact enters_of_eq rfl
  | checkKeyRegeneration =>
    rw [call]
    split_ifs
    · exact enters_of_ne (by rw [state_setState]; simp)
    · exact enters_of_eq rfl

lemma enters_logout : Enters s s.logout := by
  have hr (t : MozillaVPN V) (ht : t.state = s.state) : Enters s (t.reset (t.state ≠ .StateUpdateRequired)) := by
    intro hm
    rw [state_reset] at hm
    split_ifs at hm with hs
    rw [decide_eq_true_eq, not_not] at hs
    rw [hs] at hm
    cases hm
  rw [logout]
  split_ifs
  · exact hr _ rfl
  · exact hr _ rfl

lemma enters_purchase (p : Purchase) : Enters s (s.purchase env p) := by
  have hn {state : State} (h : state ≠ .StateMain) : Enters s (s.setState state) :=
    enters_of_ne (by rwa [state_setState])
  have hf (canceledByUser : Bool) : Enters s (s.subscriptionFailedInternal env canceledByUser) := by
    rw [subscriptionFailedInternal]
    split_ifs
    · exact enters_of_eq rfl
    · refine enters_of_ne ?_
      rw [state_scheduleTask]
      rcases (s.setState .StateSubscriptionNeeded).errorHandle_cases .SubscriptionFailureAlert with he | he
      · rw [he, state_setState]
        simp
      · rw [he, state_reset, if_pos rfl]
        simp
    · exact enters_of_ne (by rw [state_scheduleTask, state_setState]; simp)
  cases p with
  | subscriptionStarted => exact hn (by simp)
  | restoreSubscriptionStarted => exact hn (by simp)
  | subscriptionCompleted =>
    rw [purchase]
    split_ifs
    · exact enters_of_eq rfl
    · exact enters_completeActivation
  | subscriptionFailed => exact hf false
  | subscriptionCanceled => exact hf true
  | alreadySubscribed =>
    rw [purchase]
    split_ifs
    · exact enters_of_eq rfl
    · exact hn (by simp)
  | billingNotAvailable =>
    rw [purchase]
    split_ifs
    · exact hn (by simp)
    · exact enters_of_eq rfl
  | subscriptionNotValidated => exact hn (by simp)

variable [DecidableEq V]

lemma enters_answer (r : Request) (a : Answer) : Enters s (s.answer env r a) := by
  have hl : Enters s { s with location := true } := enters_of_eq rfl
  have hs (reply : Bytes) : Enters s (s.serversFetched env reply) := enters_of_eq rfl
  have hd (publicKey privateKey : String) (time : ℤ) : Enters s (s.deviceAdded env publicKey privateKey time) :=
    enters_of_eq rfl
  have hr : Enters s s := enters_of_eq rfl
  cases r <;> cases a <;> rw [answer] <;>
    first
    | exact hr
    | exact enters_errorHandle _
    | exact hs _
    | exact hd _ _ _
    | exact hl
    | exact enters_accountChecked _
    | exact enters_heartbeatCompleted _
    | exact enters_of_eq (state_removeDevice _)
    | simp

lemma enters_answered (i : ℕ) (a : Answer) : Enters s (s.answered env i a) := by
  rw [answered]
  split
  · exact enters_of_eq rfl
  next n hr =>
    split
    next r hn =>
      have ha : Enters s ((s.answer env r a).taskCompleted n) := (enters_answer r a).taskCompleted n
      dsimp only
      split
      next publicKey =>
        have hs : ((s.answer env (.removeDevice publicKey) a).taskCompleted n).state = s.state ∨
            ((s.answer env (.removeDevice publicKey) a).taskCompleted n).state ≠ .StateMain := by
          rw [state_taskCompleted]
          cases a with
          | other => exact .inl (state_removeDevice publicKey)
          | failed alert =>
            have ha : s.answer env (.removeDevice publicKey) (.failed alert) = s.errorHandle alert := rfl
            rcases s.errorHandle_cases alert with he | he
            · exact .inl (by rw [ha, he])
            · exact .inr (by rw [ha, he, state_reset, if_pos rfl]; simp)
          | _ => exact .inl rfl
        intro hm
        rcases hs with hs | hs
        · exact .inl (hs ▸ hm)
        · exact absurd hm hs
      · exact ha
    next requests hn =>
      split
      · exact enters_of_eq rfl
      next r hi =>
        have ha : Enters s (s.answer env r a) := enters_answer r a
        dsimp only
        split_ifs with hrun
        · exact (ha.setTasks _).taskCompleted n
        · exact ha.setTasks _
        · exact ha
    next => exact enters_of_eq rfl

lemma enters_initializeApp : Enters s (s.initializeApp env) := by
  rw [initializeApp]
  dsimp only
  split_ifs
  · exact enters_of_eq rfl
  split
  · exact enters_of_eq rfl
  next s₂ hs₂ =>
    obtain ⟨-, -, hst₂, -⟩ := userFromSettings_frame hs₂
    split_ifs
    · exact enters_of_ne (by rw [state_scheduleTask, state_setState]; simp)
    split
    · exact enters_of_eq hst₂
    next s₃ hs₃ =>
      obtain ⟨-, -, hst₃, -⟩ := keysFromSettings_frame hs₃
      have hst₄ : ((s₃.locationsFromSettings env).2.devicesFromSettings env).2.state = s.state := by
        rw [devicesFromSettings]
        dsimp only
        split_ifs <;> exact hst₃.trans hst₂
      generalize (s₃.locationsFromSettings env).2.devicesFromSettings env = devices at hst₄
      have hst₅ : devices.2.checkCurrentDevice.2.state = s.state := by
        rw [checkCurrentDevice]
        split_ifs <;> exact hst₄
      have hst₆ : (devices.2.checkCurrentDevice.2.selectionFromSettings env).state = s.state := by
        rw [selectionFromSettings]
        split_ifs
        · exact hst₅
        · split <;> exact hst₅
      split_ifs
      · exact enters_of_eq (hst₃.trans hst₂)
      · exact enters_of_eq hst₄
      · exact enters_of_eq hst₅
      · exact enters_of_eq hst₅
      · exact (enters_maybeStateMain _).of_eq (by rw [state_scheduleRefreshDataTasks, hst₆])

/-- An app that starts in the main state, with the settings of an earlier run, has all that it needs there. -/
theorem ready_of_initializeApp (env : Env V) (settings : Settings) (servers : Option Bytes) (serverData : Option V)
    (hm : ((construct settings servers serverData).initializeApp env).state = .StateMain) :
    Ready ((construct settings servers serverData).initializeApp env) :=
  have hs : (construct settings servers serverData).state ≠ .StateMain := by
    rw [construct]
    simp
  (enters_initializeApp hm).resolve_left hs

/-- The main state is entered only by a user with a subscription, a current device and its keys, a list of servers, and
no onboarding left. -/
theorem ready_of_enters (env : Env V) (s : MozillaVPN V) (e : Event) (hs : s.state ≠ .StateMain)
    (hm : (s.step env e).state = .StateMain) : Ready (s.step env e) := by
  suffices he : Enters s (s.step env e) from (he hm).resolve_left hs
  have hn {state : State} (h : state ≠ .StateMain) : Enters s (s.setState state) :=
    enters_of_ne (by rwa [state_setState])
  cases e with
  | authenticate => exact enters_authenticate
  | cancelAuthentication =>
    rw [step, cancelAuthentication]
    split_ifs
    · exact enters_of_eq rfl
    · exact enters_of_ne (by rw [state_reset, if_pos rfl]; simp)
  | completeAuthentication json token =>
    rw [step]
    split_ifs
    · exact enters_completeAuthentication json token
    · exact enters_of_eq rfl
  | abortAuthentication =>
    rw [step]
    split_ifs
    · exact hn (by simp)
    · exact enters_of_eq rfl
  | errorHandle alert => exact enters_errorHandle alert
  | finished =>
    rw [step]
    split
    · exact enters_of_eq rfl
    · split_ifs
      · exact enters_of_eq (state_taskCompleted ..)
      · exact enters_of_eq rfl
  | answered i a => exact enters_answered i a
  | called =>
    rw [step]
    split
    · exact enters_of_eq rfl
    next n hr =>
      split
      next f hf => exact (enters_call f).taskCompleted n
      next => exact enters_of_eq rfl
  | timeout i => exact enters_of_eq rfl
  | periodicOperations =>
    rw [step]
    split_ifs <;> exact enters_of_eq rfl
  | removeDeviceFromPublicKey publicKey =>
    rw [step, removeDeviceFromPublicKey]
    split_ifs <;> exact enters_of_eq rfl
  | onboardingCompleted =>
    rw [step, onboardingCompleted]
    split_ifs
    · exact enters_of_eq rfl
    · exact enters_authenticate.of_eq rfl
    · exact (enters_maybeStateMain _).of_eq rfl
  | activate => exact enters_of_eq (by rw [step, activate, state_scheduleTask, state_maybeRegenerateDeviceKey]; rfl)
  | deactivate => exact enters_of_eq rfl
  | silentSwitch => exact enters_of_eq rfl
  | refreshDevices =>
    rw [step, refreshDevices]
    split_ifs <;> exact enters_of_eq rfl
  | triggerHeartbeat => exact enters_of_eq rfl
  | logout => exact enters_logout
  | reset => exact enters_of_ne (by rw [step, state_reset, if_pos rfl]; simp)
  | hardReset => exact enters_of_eq rfl
  | readyToUpdate => exact hn (by simp)
  | controllerStateChanged off =>
    rw [step]
    dsimp only
    split_ifs
    · exact enters_of_eq rfl
    · exact enters_of_eq (by rw [activate, state_scheduleTask, state_maybeRegenerateDeviceKey]; rfl)
    · exact enters_of_eq rfl
  | purchase p => exact enters_purchase p
  | setDNSProviderFlags flags => exact enters_of_eq rfl

/-- The onboarding ends for a user who has all else. -/
theorem ready_after_onboarding :
    Ready (step plainEnv
      { state := .StateOnboarding
        user := { initialized := true }
        keys := { publicKey := "key", privateKey := "private" }
        deviceModel := { rawJson := [1], devices := [⟨"laptop", "", 0, "key", "10.0.0.2/32", "fc00::2/128"⟩] }
        locations := { serverCountryModel := { rawJson := [1] } }
        settings := { token := some "token" } } .onboardingCompleted) :=
  ready_of_enters plainEnv _ .onboardingCompleted (by decide) rfl

end Main

section Logout

/-- A task that adds a device, or may begin to. -/
def AddsDevice : Task → Prop
  | .request r => r = .addDevice
  | .group requests => .addDevice ∈ requests
  | .function _ | .authenticate => True
  | .controllerAction => False

/-- The app after a logout, until the user logs in again. -/
structure LoggedOut (s : MozillaVPN V) : Prop where
  queue : Queue s
  idle : ∀ n, ¬ Pending AddsDevice s n
  token : s.settings.token = none
  keys : s.keys = {}
  privateKey : s.settings.privateKey.getD "" = ""
  publicKey : s.settings.publicKey.getD "" = ""
  state : s.state = .StateInitialize ∨ s.state = .StateUpdateRequired

/-- The user does not log in, and the app does not connect to the server with other settings for the DNS, for which it
would make a key. -/
def Quiet (s : MozillaVPN V) : Event → Prop
  | .authenticate | .onboardingCompleted | .purchase _ => False
  | .activate => s.settings.dnsProviderFlags = Settings.Gateway
  | .controllerStateChanged _ => s.controllerInitialized = false → s.settings.startAtBoot = true →
    s.settings.dnsProviderFlags = Settings.Gateway
  | _ => True

lemma not_addsDevice_controllerAction : ¬ AddsDevice .controllerAction := id

lemma LoggedOut.of_calm (h : LoggedOut s) (hc : Calm AddsDevice s t) (ht : t.settings.token = s.settings.token)
    (hk : t.keys = s.keys) (hp : t.settings.privateKey.getD "" = s.settings.privateKey.getD "")
    (hpub : t.settings.publicKey.getD "" = s.settings.publicKey.getD "")
    (hs : t.state = .StateInitialize ∨ t.state = .StateUpdateRequired) : LoggedOut t :=
  ⟨hc.queue, fun n hn => h.idle n (hc.pending n hn), ht.trans h.token, hk.trans h.keys, hp.trans h.privateKey,
    hpub.trans h.publicKey, hs⟩

lemma LoggedOut.of_eq (h : LoggedOut s) (hq : t.scheduler = s.scheduler) (hts : t.tasks = s.tasks)
    (ht : t.settings = s.settings) (hk : t.keys = s.keys) (hs : t.state = s.state) : LoggedOut t :=
  h.of_calm (Calm.of_eq h.queue hq hts) (by rw [ht]) hk (by rw [ht]) (by rw [ht]) (by rw [hs]; exact h.state)

lemma keys_setState (state : State) : (s.setState state).keys = s.keys := by
  rw [setState]
  split_ifs <;> rfl

lemma LoggedOut.setState (h : LoggedOut s) {state : State}
    (hs : state = .StateInitialize ∨ state = .StateUpdateRequired) : LoggedOut (s.setState state) :=
  h.of_calm (calm_setState h.queue not_addsDevice_controllerAction state) (by rw [settings_setState])
    (keys_setState state) (by rw [settings_setState]) (by rw [settings_setState]) (by rwa [state_setState])

lemma LoggedOut.scheduleTask (h : LoggedOut s) {task : Task} (hp : ¬ AddsDevice task) :
    LoggedOut (s.scheduleTask task) :=
  h.of_calm (calm_scheduleTask h.queue hp) rfl rfl rfl rfl h.state

lemma LoggedOut.deleteTasks (h : LoggedOut s) : LoggedOut s.deleteTasks :=
  h.of_calm (calm_deleteTasks h.queue) rfl rfl rfl rfl h.state

lemma LoggedOut.taskCompleted (h : LoggedOut s) (n : ℕ) : LoggedOut (s.taskCompleted n) := by
  have hk : (s.taskCompleted n).keys = s.keys := by
    rw [MozillaVPN.taskCompleted]
    split_ifs <;> rfl
  exact h.of_calm (calm_taskCompleted h.queue n) (by rw [settings_taskCompleted]) hk (by rw [settings_taskCompleted])
    (by rw [settings_taskCompleted]) (by rw [state_taskCompleted]; exact h.state)

/-- A reset forgets the keys unless a task that adds a device must not be deleted. -/
lemma loggedOut_reset (h : Queue s)
    (hn : ∀ n, ¬ Pending (fun task => AddsDevice task ∧ task.deletePolicy ≠ .Deletable) s n)
    {forceInitialState : Bool} (hs : forceInitialState = true ∨ s.state = .StateUpdateRequired) :
    LoggedOut (s.reset forceInitialState) where
  queue := (calm_reset (P := AddsDevice) h not_addsDevice_controllerAction _).queue
  idle n hp := hn n (pending_reset h not_addsDevice_controllerAction _ hp)
  token := by rw [settings_reset]; rfl
  keys := by
    cases forceInitialState with
    | true =>
      rw [reset_true, keys_setState]
      rfl
    | false => rfl
  privateKey := by rw [settings_reset]; rfl
  publicKey := by rw [settings_reset]; rfl
  state := by
    rw [state_reset]
    split_ifs with hf
    · exact .inl rfl
    · exact .inr (hs.resolve_left hf)

lemma LoggedOut.reset (h : LoggedOut s) : LoggedOut (s.reset true) := by
  refine loggedOut_reset h.queue (fun n hn => h.idle n ?_) (.inl rfl)
  obtain ⟨hm, task, ht, ha, -⟩ := hn
  exact ⟨hm, task, ht, ha⟩

lemma LoggedOut.errorHandle (h : LoggedOut s) (alert : AlertType) : LoggedOut (s.errorHandle alert) := by
  rcases s.errorHandle_cases alert with he | he
  · rwa [he]
  · rw [he]
    exact h.reset

lemma loggedOut_logout (h : Queue s)
    (hn : ∀ n, ¬ Pending (fun task => AddsDevice task ∧ task.deletePolicy ≠ .Deletable) s n) : LoggedOut s.logout := by
  have hd : Calm (fun task => AddsDevice task ∧ task.deletePolicy ≠ .Deletable) s s.deactivate.deleteTasks := by
    have hc := calm_deactivate (P := fun task => AddsDevice task ∧ task.deletePolicy ≠ .Deletable) h (fun hp => hp.1)
    exact hc.trans (calm_deleteTasks hc.queue)
  have hr (t : MozillaVPN V) (hc : Calm (fun task => AddsDevice task ∧ task.deletePolicy ≠ .Deletable) s t) :
      LoggedOut (t.reset (t.state ≠ .StateUpdateRequired)) := by
    refine loggedOut_reset hc.queue (fun n hp => hn n (hc.pending n hp)) ?_
    by_cases hs : t.state = .StateUpdateRequired
    · exact .inr hs
    · exact .inl (by simpa using hs)
  rw [logout]
  split_ifs
  · exact hr _ (hd.trans (calm_scheduleTask hd.queue fun hp => by cases hp.1))
  · exact hr _ hd

lemma state_ne (h : s.state = .StateInitialize ∨ s.state = .StateUpdateRequired) {state : State}
    (hi : state ≠ .StateInitialize) (hu : state ≠ .StateUpdateRequired) : s.state ≠ state := by
  rcases h with h | h
  · rw [h]
    exact hi.symm
  · rw [h]
    exact hu.symm

lemma publicKey_readAccount (env : Env V) (json : Bytes) (s : MozillaVPN V) :
    (s.readAccount env json).2.settings.publicKey = s.settings.publicKey := by
  rw [readAccount]
  dsimp only
  split_ifs <;> rfl

lemma LoggedOut.accountChecked (h : LoggedOut s) (json : Bytes) : LoggedOut (s.accountChecked env json) := by
  obtain ⟨hq, hts, hs, hk, ht, hp, -⟩ := readAccount_frame env json s
  have hr : LoggedOut (s.readAccount env json).2 :=
    h.of_calm (Calm.of_eq h.queue hq hts) ht hk (by rw [hp]) (by rw [publicKey_readAccount]) (by rw [hs]; exact h.state)
  have hc : LoggedOut (s.readAccount env json).2.checkCurrentDevice.2 := by
    rw [checkCurrentDevice]
    split_ifs
    · exact hr
    · exact hr
    · exact hr.of_calm (Calm.of_eq hr.queue rfl rfl) rfl rfl rfl rfl hr.state
  rw [MozillaVPN.accountChecked]
  dsimp only
  split_ifs with _ _ hm
  · exact hr
  · exact hc
  · exact absurd hm.2 (state_ne hc.state (by simp) (by simp))
  · exact hc

lemma LoggedOut.heartbeatCompleted (h : LoggedOut s) (success : Bool) : LoggedOut (s.heartbeatCompleted success) := by
  rw [MozillaVPN.heartbeatCompleted, if_neg fun hs => state_ne h.state (by simp) (by simp) hs.2,
    if_pos (state_ne h.state (by simp) (by simp))]
  exact h

lemma LoggedOut.removeDevice (h : LoggedOut s) (publicKey : String) : LoggedOut (s.removeDevice publicKey) := by
  rw [MozillaVPN.removeDevice]
  dsimp only
  rw [if_pos (state_ne h.state (by simp) (by simp))]
  exact h.of_eq rfl rfl rfl rfl rfl

lemma LoggedOut.activate (h : LoggedOut s) (hg : s.settings.dnsProviderFlags = Settings.Gateway) :
    LoggedOut s.activate := by
  have hm : s.deleteTasks.maybeRegenerateDeviceKey = s.deleteTasks := by
    rw [maybeRegenerateDeviceKey]
    split_ifs with _ hd
    · rfl
    · rfl
    · exact absurd hg hd
  rw [MozillaVPN.activate, hm]
  exact h.deleteTasks.scheduleTask not_addsDevice_controllerAction

variable [DecidableEq V]

lemma LoggedOut.answer (h : LoggedOut s) {r : Request} (hr : r ≠ .addDevice) (a : Answer) :
    LoggedOut (s.answer env r a) := by
  have hl : LoggedOut { s with location := true } := h.of_eq rfl rfl rfl rfl rfl
  have hs (reply : Bytes) : LoggedOut (s.serversFetched env reply) := h.of_eq rfl rfl rfl rfl rfl
  have hf (alert : AlertType) : LoggedOut (s.errorHandle alert) := h.errorHandle alert
  cases r <;> cases a <;> rw [MozillaVPN.answer] <;>
    first
    | exact h
    | exact hf _
    | exact hs _
    | exact hl
    | exact h.accountChecked _
    | exact h.heartbeatCompleted _
    | exact h.removeDevice _
    | exact absurd rfl hr
    | simp

omit [DecidableEq V] in
lemma LoggedOut.setGroup (h : LoggedOut s) (hr : s.scheduler.runningTask = some n) {requests : List Request}
    (hn : .addDevice ∉ requests) : LoggedOut { s with tasks := s.tasks.set n (.group requests) } :=
  h.of_calm (calm_setGroup h.queue hr hn) rfl rfl rfl rfl h.state

omit [DecidableEq V] in
lemma LoggedOut.running (h : LoggedOut s) (hr : s.scheduler.runningTask = some n) {task : Task}
    (ht : s.tasks[n]? = some task) : ¬ AddsDevice task :=
  fun ha => h.idle n ⟨by simp [TaskScheduler.pending, hr], task, ht, ha⟩

lemma LoggedOut.answered (h : LoggedOut s) (i : ℕ) (a : Answer) : LoggedOut (s.answered env i a) := by
  rw [MozillaVPN.answered]
  split
  · exact h
  next n hr =>
    split
    next r hn =>
      have ha : LoggedOut ((s.answer env r a).taskCompleted n) :=
        (h.answer (h.running hr hn) a).taskCompleted n
      dsimp only
      split
      · exact ha.of_eq rfl rfl rfl rfl rfl
      · exact ha
    next requests hn =>
      split
      · exact h
      next r hi =>
        have hg : .addDevice ∉ requests := h.running hr hn
        have hne : r ≠ .addDevice := by
          rintro rfl
          exact hg (List.mem_of_getElem? hi)
        have ha : LoggedOut (s.answer env r a) := h.answer hne a
        have he : .addDevice ∉ requests.eraseIdx i := fun hm => hg (List.mem_of_mem_eraseIdx hm)
        dsimp only
        split_ifs with hrun
        · exact (ha.setGroup hrun he).taskCompleted n
        · exact ha.setGroup hrun he
        · exact ha
    next => exact h

omit [DecidableEq V] in
lemma LoggedOut.logout (h : LoggedOut s) : LoggedOut s.logout := by
  refine loggedOut_logout h.queue fun n hn => h.idle n ?_
  obtain ⟨hm, task, ht, ha, -⟩ := hn
  exact ⟨hm, task, ht, ha⟩

lemma LoggedOut.step (h : LoggedOut s) (e : Event) (hq : Quiet s e) : LoggedOut (s.step env e) := by
  have hc := not_addsDevice_controllerAction
  have hnone : s.runningTask ≠ some .authenticate := by
    intro hr
    rw [runningTask] at hr
    obtain ⟨n, hn, ht⟩ := Option.bind_eq_some_iff.mp hr
    exact h.running hn ht trivial
  cases e with
  | authenticate => exact absurd hq id
  | cancelAuthentication =>
    rw [MozillaVPN.step, cancelAuthentication]
    split_ifs
    · exact h
    · exact h.reset
  | completeAuthentication json token =>
    rw [MozillaVPN.step, if_neg hnone]
    exact h
  | abortAuthentication =>
    rw [MozillaVPN.step, if_neg hnone]
    exact h
  | errorHandle alert => exact h.errorHandle alert
  | finished =>
    rw [MozillaVPN.step]
    split
    · exact h
    · split_ifs
      · exact h.taskCompleted _
      · exact h
  | answered i a => exact h.answered i a
  | called =>
    rw [MozillaVPN.step]
    split
    · exact h
    next n hr =>
      split
      next f ht => exact absurd trivial (h.running hr ht)
      next => exact h
  | timeout i => exact h.of_calm (calm_timeout h.queue i) rfl rfl rfl rfl h.state
  | periodicOperations =>
    rw [MozillaVPN.step]
    split_ifs
    · exact h.scheduleTask (by simp [AddsDevice])
    · exact h
  | removeDeviceFromPublicKey publicKey =>
    have hs : LoggedOut (s.scheduleTask (.request (.removeDevice publicKey))) := h.scheduleTask (by simp [AddsDevice])
    rw [MozillaVPN.step, removeDeviceFromPublicKey]
    split_ifs
    · exact hs.of_eq rfl rfl rfl rfl rfl
    · exact hs
  | onboardingCompleted => exact absurd hq id
  | activate => exact h.activate hq
  | deactivate => exact h.deleteTasks.scheduleTask hc
  | silentSwitch => exact h.deleteTasks.scheduleTask hc
  | refreshDevices =>
    rw [MozillaVPN.step, refreshDevices]
    split_ifs
    · exact h.scheduleTask (by simp [AddsDevice])
    · exact h
  | triggerHeartbeat => exact h.scheduleTask (by simp [AddsDevice])
  | logout => exact h.logout
  | reset => exact h.reset
  | hardReset => exact ⟨h.queue.of_eq rfl rfl, h.idle, rfl, h.keys, rfl, rfl, h.state⟩
  | readyToUpdate => exact h.setState (.inr rfl)
  | controllerStateChanged off =>
    have ho : LoggedOut { s with controllerOff := off } := h.of_eq rfl rfl rfl rfl rfl
    have hi : LoggedOut { s with controllerOff := off, controllerInitialized := true } := h.of_eq rfl rfl rfl rfl rfl
    rw [MozillaVPN.step]
    dsimp only
    split_ifs with hinit hboot
    · exact ho
    · exact hi.activate (hq (by simpa using hinit) hboot)
    · exact hi
  | purchase p => exact absurd hq id
  | setDNSProviderFlags flags => exact h.of_calm (Calm.of_eq h.queue rfl rfl) rfl rfl rfl rfl h.state

/-- The task `task` runs with the number `n`. -/
structure Runs (n : ℕ) (task : Task) (s : MozillaVPN V) : Prop where
  running : s.scheduler.runningTask = some n
  task : s.tasks[n]? = some task

variable {task : Task}

omit [DecidableEq V] in
lemma Runs.scheduleTask (h : Runs n task s) (other : Task) : Runs n task (s.scheduleTask other) where
  running := runningTask_scheduleTask h.running other
  task := by
    rw [MozillaVPN.scheduleTask]
    dsimp only
    rw [List.getElem?_append_left (List.getElem?_eq_some_iff.mp h.task).1, h.task]

omit [DecidableEq V] in
lemma Runs.deleteTasks (h : Runs n task s) (hp : task.deletePolicy ≠ .Deletable) : Runs n task s.deleteTasks where
  running := by
    have hd : s.deletePolicy n ≠ .Deletable := by
      rw [deletePolicy, h.task]
      exact hp
    rw [MozillaVPN.deleteTasks]
    dsimp only
    rw [TaskScheduler.step, TaskScheduler.deleteTasksInternal]
    have hf := @TaskScheduler.runningTask_foldl { s.scheduler with tasks := [] } s.scheduler.tasks false s.deletePolicy
    generalize s.scheduler.tasks.foldl _ _ = scheduler at hf
    have hr : scheduler.runningTask = some n := hf.trans h.running
    rw [TaskScheduler.cancelTask, hr]
    dsimp only
    rw [if_neg (by simpa using hd), TaskScheduler.maybeRunTask, hr]
    cases scheduler.tasks <;> exact hr
  task := h.task

omit [DecidableEq V] in
lemma Runs.reset (h : Runs n task s) (hp : task.deletePolicy ≠ .Deletable) (forceInitialState : Bool) :
    Runs n task (s.reset forceInitialState) := by
  have hd : Runs n task s.deactivate := (h.deleteTasks hp).scheduleTask _
  have hf : Runs n task (s.reset false) := ⟨hd.running, hd.task⟩
  cases forceInitialState with
  | true =>
    rw [reset_true, MozillaVPN.setState, if_neg (by simp)]
    exact Runs.scheduleTask (s := { s.reset false with state := .StateInitialize, periodicOperations := false })
      ⟨hf.running, hf.task⟩ _
  | false => exact hf

omit [DecidableEq V] in
lemma Runs.logout (h : Runs n task s) (hp : task.deletePolicy ≠ .Deletable) : Runs n task s.logout := by
  have hd : Runs n task s.deactivate.deleteTasks := ((h.deleteTasks hp).scheduleTask _).deleteTasks hp
  rw [MozillaVPN.logout]
  split_ifs
  · exact (hd.scheduleTask _).reset hp _
  · exact hd.reset hp _

/-- A task that adds a device, or may begin to, would not be deleted. -/
def AddingDevice (s : MozillaVPN V) : Prop :=
  ∃ n, Pending (fun task => AddsDevice task ∧ task.deletePolicy ≠ .Deletable) s n

/-- A state that the app reaches, whatever the settings of an earlier run are. -/
def Reached (env : Env V) (s : MozillaVPN V) : Prop :=
  ∃ settings servers serverData es,
    Meets (step env) Fits ((construct settings servers serverData).initializeApp env) es ∧
      s = run (step env) ((construct settings servers serverData).initializeApp env) es

lemma Reached.queue (h : Reached env s) : Queue s := by
  obtain ⟨settings, servers, serverData, es, hm, rfl⟩ := h
  exact (hm.invariant (fun s e h hf => h.step e hf)
    (inv_initializeApp (initial_construct settings servers serverData))).queue

/-- After a logout there is neither a token nor a key until the user logs in again, unless a device is being added. A
device whose adding is under way brings its key back, also to the settings. -/
theorem forgets_keys (h : Reached env s) :
    (¬ AddingDevice s → ∀ es, Meets (step env) Quiet s.logout es →
        (run (step env) s.logout es).settings.token = none ∧ (run (step env) s.logout es).keys = {} ∧
          (run (step env) s.logout es).settings.privateKey.getD "" = "" ∧
          (run (step env) s.logout es).settings.publicKey.getD "" = "") ∧
      ∀ n, Runs n (.request .addDevice) s → ∀ publicKey privateKey time,
        (s.logout.step env (.answered 0 (.deviceAdded publicKey privateKey time))).settings.privateKey =
            some privateKey ∧
          (s.logout.step env (.answered 0 (.deviceAdded publicKey privateKey time))).settings.publicKey =
            some publicKey := by
  constructor
  · intro hn es hm
    have hl : LoggedOut s.logout := loggedOut_logout h.queue fun n hp => hn ⟨n, hp⟩
    have hr : LoggedOut (run (step env) s.logout es) := hm.invariant (fun s e h hq => h.step e hq) hl
    exact ⟨hr.token, hr.keys, hr.privateKey, hr.publicKey⟩
  · intro n hr publicKey privateKey time
    have hl := hr.logout (by decide)
    rw [step, answered, hl.running]
    dsimp only
    rw [hl.task]
    dsimp only
    rw [settings_taskCompleted]
    exact ⟨rfl, rfl⟩

/-- The settings of a user with a device and its keys. -/
def subscribed : Settings where
  token := some "token"
  privateKey := some "private"
  publicKey := some "key"
  devices := some [0x7b, 0x7d]
  userAvatar := some ""
  userDisplayName := some ""
  userEmail := some ""
  userMaxDevices := some 5
  userSubscriptionNeeded := some false
  onboardingCompleted := true

/-- After the logout the controller changes its state, an error comes, and the removal of the device is answered. -/
def leaving : List Event :=
  [.controllerStateChanged false, .errorHandle .AuthenticationFailedAlert, .finished, .answered 0 .other]

theorem forgets_keys_of_subscribed :
    (run (step plainEnv) ((construct subscribed (some [1]) none).initializeApp plainEnv).logout
        leaving).settings.token = none ∧
      (run (step plainEnv) ((construct subscribed (some [1]) none).initializeApp plainEnv).logout leaving).keys = {} ∧
      (run (step plainEnv) ((construct subscribed (some [1]) none).initializeApp plainEnv).logout
        leaving).settings.privateKey.getD "" = "" ∧
      (run (step plainEnv) ((construct subscribed (some [1]) none).initializeApp plainEnv).logout
        leaving).settings.publicKey.getD "" = "" := by
  have hr : Reached plainEnv ((construct subscribed (some [1]) none).initializeApp plainEnv) :=
    ⟨subscribed, some [1], none, [], trivial, rfl⟩
  refine (forgets_keys hr).1 ?_ leaving ⟨fun _ hb => absurd hb (by decide +kernel), trivial, trivial, trivial, trivial⟩
  rintro ⟨n, hn, task, ht, ha, -⟩
  have hp : ((construct subscribed (some [1]) none).initializeApp plainEnv).scheduler.pending = [0, 1, 2] := by
    decide +kernel
  have htasks : ((construct subscribed (some [1]) none).initializeApp plainEnv).tasks =
      [.group [.addonIndex], .request .getLocation,
        .group [.account, .servers, .captivePortalLookup, .getSubscriptionDetails]] := by decide +kernel
  rw [hp] at hn
  rw [htasks] at ht
  simp only [List.mem_cons, List.not_mem_nil, or_false] at hn
  rcases hn with rfl | rfl | rfl
  · obtain rfl := Option.some.inj ht
    simp [AddsDevice] at ha
  · obtain rfl := Option.some.inj ht
    simp [AddsDevice] at ha
  · obtain rfl := Option.some.inj ht
    simp [AddsDevice] at ha

end Logout

end VpnClient.App.MozillaVPN
