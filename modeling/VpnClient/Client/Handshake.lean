import VpnClient.Client.Steps
import VpnClient.Library.Runs

/-! The handshake timer, the queue of hops and the number of attempts in the runs of the controller. -/

namespace VpnClient.Client

open Backend Library.Runs

def Effect.isCall : Effect → Bool
  | activateInternal _ _ _ => true
  | _ => false

namespace Controller

def countAttempt (event : Event) (called : Bool) (attempts : ℕ) : ℕ :=
  match called, event with
  | true, .handshakeTimeout => attempts + 1
  | true, _ => 1
  | false, _ => attempts

/-- The attempts since the controller last began to connect. -/
def watchAttempts (c : Controller) (e : Env × Event) (attempts : ℕ) : ℕ :=
  countAttempt e.2 ((c.step e).out.any Effect.isCall) attempts

/-- The timers fit the queue and the state, the retries and the attempts are bounded, and no assertion
about the queue or the state has failed. -/
structure TimersFit (p : Controller × ℕ) : Prop where
  handshakeTimer : p.1.handshakeTimer = true →
    ∃ config queue, p.1.activationQueue = config :: queue ∧ p.1.activated = some config
  timer : p.1.timer = true → p.1.state = .StateOn ∨ p.1.state = .StateOnPartial
  connectionRetry : p.1.connectionRetry ≤ CONNECTION_MAX_RETRY
  attempts : p.2 ≤ 9
  asserted : .assertionFailed ∉ p.1.out

/-- `activateNext` moves on to the next hop with a device and without a running clock, or without a device
and without a handshake that is waited for. -/
def AdvancesSafely (env : Env) (c : Controller) : Prop :=
  if env.device.isSome then c.timer = true → c.initiator = .ExtensionUser
  else c.handshakeTimer = true → env.schedulerIdle = true ∧ c.Deactivable .ClientUser

/-- The backend is neither replaced nor initialized while a timer depends on it, no handshake is missed after
the last retry, and a handshake moves on to the next hop only if that is safe. -/
def TimersGuarded (c : Controller) (e : Env × Event) : Prop :=
  match e.2 with
  | .initializeController => c.handshakeTimer = false ∧ c.timer = false
  | .implInitialized status connected _ => c.ReportsConnection status connected ∨ c.timer = false
  | .handshakeTimeout => c.handshakeTimer = true → c.nextStep = .None → c.connectionRetry < CONNECTION_MAX_RETRY
  | .connected pubkey => 2 ≤ c.activationQueue.length →
    (∀ first ∈ c.activationQueue.head?, first.serverPublicKey = pubkey) → c.AdvancesSafely e.1
  | _ => True

structure TimersInv (p : Controller × ℕ) : Prop extends TimersFit p where
  distinct : ∀ first next queue, p.1.activationQueue = first :: next :: queue → first ≠ next ∧ queue = []
  counted : p.1.activationQueue ≠ [] → p.2 ≤ p.1.connectionRetry + 1

variable {c c' : Controller} {env : Env} {event : Event} {n n' : ℕ}

lemma any_isCall (c : Controller) : c.out.any Effect.isCall = c.attempts.any Effect.isCall := by
  rw [attempts, List.any_filter]
  congr 1
  funext effect
  cases effect <;> rfl

lemma asserted_iff : Effect.assertionFailed ∉ c.out ↔ Effect.assertionFailed ∉ c.attempts :=
  not_congr (mem_attempts rfl).symm

lemma activationQueue_distinct (activation : Activation) {first next : InterfaceConfig}
    {queue : List InterfaceConfig} (h : activation.activationQueue = first :: next :: queue) :
    first ≠ next ∧ queue = [] := by
  cases activation with
  | singleHop => simp [Activation.activationQueue] at h
  | multiHop entryConfig exitConfig =>
    obtain ⟨rfl, rfl, rfl⟩ : _ ∧ _ ∧ _ := by simpa [Activation.activationQueue] using h
    refine ⟨fun he => ?_, rfl⟩
    simpa using congrArg InterfaceConfig.hopType he

lemma TimersInv.same (hi : TimersInv (c, n)) (h : Same c c') (ha : c'.attempts = []) : TimersInv (c', n) where
  handshakeTimer ht := by
    rw [h.activationQueue, h.activated]
    exact hi.handshakeTimer (h.handshakeTimer.symm.trans ht)
  timer ht := by
    rw [h.state]
    exact hi.timer (h.timer.symm.trans ht)
  connectionRetry := h.connectionRetry.trans_le hi.connectionRetry
  attempts := hi.attempts
  asserted := by simp [asserted_iff, ha]
  distinct first next queue hq := hi.distinct first next queue (h.activationQueue.symm.trans hq)
  counted hq := by
    rw [h.connectionRetry]
    exact hi.counted (h.activationQueue ▸ hq)

lemma timersInv_stopped (hn : n ≤ 9) (hq : c.activationQueue = []) (hh : c.handshakeTimer = false)
    (ht : c.timer = true → c.state = .StateOn ∨ c.state = .StateOnPartial) (hr : c.connectionRetry ≤ 9)
    (ha : .assertionFailed ∉ c.attempts) : TimersInv (c, n) where
  handshakeTimer h := by cases hh.symm.trans h
  timer := ht
  connectionRetry := hr
  attempts := hn
  asserted := asserted_iff.mpr ha
  distinct _ _ _ h := by cases hq.symm.trans h
  counted h := absurd hq h

lemma Stopped.timersInv (h : Stopped c c') (hn : n ≤ 9) (ha : c.attempts = []) : TimersInv (c', n) := by
  refine timersInv_stopped hn h.activationQueue h.handshakeTimer (fun ht => ?_) (by simp [h.connectionRetry]) ?_
  · cases h.timer.symm.trans ht
  · simp [h.attempts, ha]

lemma timersInv_activateInternal (env : Env) (dnsPort : DNSPortPolicy)
    (serverSelectionPolicy : ServerSelectionPolicy) (initiator : ActivationPrincipal)
    (hn : n ≤ c.connectionRetry + 1) (hr : c.connectionRetry < 9)
    (ha : c.attempts = []) :
    (c.activateInternal env dnsPort serverSelectionPolicy initiator).out.any Effect.isCall = true ∧
      TimersInv (c.activateInternal env dnsPort serverSelectionPolicy initiator, n) := by
  rw [any_isCall]
  rcases activateInternal_cases env dnsPort serverSelectionPolicy initiator c with ⟨-, h⟩ | ⟨activation, -, h⟩
  · obtain ⟨_, _, ha'⟩ := h.attempts
    rw [ha, List.nil_append] at ha'
    refine ⟨by rw [ha']; rfl, timersInv_stopped (by omega) h.activationQueue h.handshakeTimer (fun ht => ?_) ?_ ?_⟩
    · cases h.timer.symm.trans ht
    · rw [h.connectionRetry]
      omega
    · simp [ha']
  · obtain ⟨_, _, first, ha'⟩ := h.attempts
    rw [ha, List.nil_append] at ha'
    obtain ⟨config, queue, hq⟩ := activationQueue_cons activation
    refine ⟨by rw [ha']; rfl, ⟨fun _ => ⟨config, queue, h.activationQueue.trans hq, ?_⟩, fun ht => ?_, ?_, ?_, ?_⟩,
      fun first next queue hq' => ?_, fun _ => ?_⟩
    · rw [h.activated, hq]
      rfl
    · cases h.timer.symm.trans ht
    · exact h.connectionRetry.trans_le (Nat.le_of_lt hr)
    · exact hn.trans hr
    · rw [asserted_iff, ha']
      simp
    · exact activationQueue_distinct activation (h.activationQueue.symm.trans hq')
    · rw [h.connectionRetry]
      exact hn

lemma timersInv_advance {first next : InterfaceConfig} {queue : List InterfaceConfig} (hi : TimersInv (c, n))
    (ha : c.attempts = []) (hq : c.activationQueue = first :: next :: queue) (hs : c.AdvancesSafely env) :
    (activateNext env { c with activationQueue := next :: queue }).out.any Effect.isCall = false ∧
      TimersInv (activateNext env { c with activationQueue := next :: queue }, n) := by
  obtain ⟨-, rfl⟩ := hi.distinct first next queue hq
  have hn : n ≤ c.connectionRetry + 1 := hi.counted (by simp [hq])
  rw [any_isCall]
  unfold AdvancesSafely at hs
  cases hd : env.device with
  | none =>
    rw [hd, Option.isSome_none, if_neg Bool.false_ne_true] at hs
    rcases activateNext_none (c := { c with activationQueue := [next] }) hd with ⟨-, h⟩ | ⟨hu, out, h, ha'⟩
    · refine ⟨?_, h.timersInv hi.attempts ha⟩
      rw [h.attempts, show attempts { c with activationQueue := [next] } = [] from ha]
      rfl
    · rw [h, ha', show attempts { c with activationQueue := [next] } = [] from ha]
      refine ⟨rfl, ⟨fun ht => absurd (hs ht) hu, hi.timer, hi.connectionRetry, hi.attempts, ?_⟩, ?_, fun _ => hn⟩
      · rw [asserted_iff, ha', show attempts { c with activationQueue := [next] } = [] from ha]
        simp
      · simp
  | some device =>
    rw [hd, Option.isSome_some, if_pos rfl] at hs
    rw [activateNext_some hd rfl]
    have ha' : (setState (if c.initiator = .ExtensionUser ∨ c.state = .StateSilentSwitching then c.state
        else .StateConfirming) { c with
          activationQueue := [next], handshakeTimer := true, activated := some next
          out := c.out ++ [.implActivate next (stateToReason c.state)] }).attempts =
        [.implActivate next (stateToReason c.state)] := by
      apply (List.filter_append ..).trans
      rw [show c.out.filter Effect.isAttempt = [] from ha]
      rfl
    refine ⟨by rw [ha']; rfl, ⟨fun _ => ⟨next, [], rfl, rfl⟩, fun ht => ?_, hi.connectionRetry, hi.attempts, ?_⟩,
      by simp [setState], fun _ => hn⟩
    · rw [setState, if_pos (Or.inl (hs ht))]
      exact hi.timer ht
    · rw [asserted_iff, ha']
      simp

lemma advancesSafely_of_timersFit {first next : InterfaceConfig} {queue : List InterfaceConfig}
    (hi : TimersInv (c, n)) (hq : c.activationQueue = first :: next :: queue)
    (hf : TimersFit (activateNext env { c with activationQueue := next :: queue }, n')) : c.AdvancesSafely env := by
  rw [AdvancesSafely]
  cases hd : env.device with
  | none =>
    rw [Option.isSome_none, if_neg Bool.false_ne_true]
    intro ht
    rcases activateNext_none (c := { c with activationQueue := next :: queue }) hd with ⟨hu, -⟩ | ⟨-, out, h, -⟩
    · exact hu
    · rw [h] at hf
      obtain ⟨config, rest, hc, ha⟩ := hi.handshakeTimer ht
      obtain ⟨config', rest', hc', ha'⟩ := hf.handshakeTimer ht
      obtain ⟨rfl, -⟩ := List.cons_eq_cons.mp (hc.symm.trans hq)
      obtain ⟨rfl, -⟩ := List.cons_eq_cons.mp hc'
      exact absurd (Option.some.inj (ha.symm.trans ha')) (hi.distinct _ _ _ hq).1
  | some device =>
    rw [Option.isSome_some, if_pos rfl]
    intro ht
    by_contra he
    rw [activateNext_some hd rfl] at hf
    have hs := hf.timer ht
    have hc := hi.timer ht
    have hn : ¬ (c.initiator = .ExtensionUser ∨ c.state = .StateSilentSwitching) := by
      rintro (h | h)
      · exact he h
      · simp [h] at hc
    simp [setState, hn] at hs

lemma countAttempt_connects {request : ActivationPrincipal × ServerSelectionPolicy}
    (h : connects env c event = some request) (attempts : ℕ) : countAttempt event true attempts = 1 := by
  cases event <;> first | rfl | cases h

lemma any_isCall_of_attempts (h : c.attempts = []) : c.out.any Effect.isCall = false := by
  rw [any_isCall, h]
  rfl

lemma timersInv_connect (env : Env) (initiator : ActivationPrincipal)
    (serverSelectionPolicy : ServerSelectionPolicy) (ha : c.attempts = []) :
    (c.connect env initiator serverSelectionPolicy).out.any Effect.isCall = true ∧
      TimersInv (c.connect env initiator serverSelectionPolicy, 1) :=
  timersInv_activateInternal (c := c.connecting initiator) env .DoNotForceDNSPort serverSelectionPolicy initiator
    (show 1 ≤ 0 + 1 from le_rfl) (show 0 < 9 by decide) ((attempts_connecting initiator c).trans ha)

lemma timersInv_timeout (hi : TimersInv (c, n)) (ha : c.attempts = []) (ht : c.handshakeTimer = true)
    (hr : c.nextStep = .None → c.connectionRetry < CONNECTION_MAX_RETRY) :
    TimersInv (handshakeTimeout env { c with handshakeTimer := false }, countAttempt .handshakeTimeout
      ((handshakeTimeout env { c with handshakeTimer := false }).out.any Effect.isCall) n) := by
  obtain ⟨config, queue, hq, -⟩ := hi.handshakeTimer ht
  have hn : n ≤ c.connectionRetry + 1 := hi.counted (hq ▸ List.cons_ne_nil _ _)
  have hi' : TimersInv ({ c with handshakeTimer := false }, n) :=
    ⟨⟨nofun, hi.timer, hi.connectionRetry, hi.attempts, hi.asserted⟩, hi.distinct, hi.counted⟩
  rcases handshakeTimeout_cases env { c with handshakeTimer := false } with
    ⟨h, -⟩ | ⟨-, -, h | h⟩ | ⟨-, -, hl, dnsPort, c₁, hs, h⟩ | ⟨-, hn', -, h⟩
  · cases hq.symm.trans h
  · have ha' := h.attempts.trans ha
    rw [any_isCall_of_attempts ha']
    exact hi'.same h ha'
  · rw [any_isCall_of_attempts (h.attempts.trans ha)]
    exact h.timersInv hi.attempts ha
  · rw [h]
    obtain ⟨hc, hi₁⟩ := timersInv_activateInternal (c := c₁) (n := n + 1) env dnsPort .RandomizeServerSelection
      c.initiator (by rw [hs.connectionRetry]; exact Nat.succ_le_succ hn) (by rw [hs.connectionRetry]; exact hl)
      (hs.attempts.trans ha)
    rw [hc]
    exact hi₁
  · have ha' := h.attempts.trans ha
    have hr := hr hn'
    rw [any_isCall_of_attempts ha']
    refine TimersInv.same (c := { c with handshakeTimer := false, connectionRetry := c.connectionRetry + 1 }) ?_ h ha'
    exact ⟨⟨nofun, hi.timer, hr, hi.attempts, hi.asserted⟩, hi.distinct, fun _ => hn.trans (Nat.le_succ _)⟩

lemma timersInv_handle (hi : TimersInv (c, n)) (ha : c.attempts = []) (hg : c.TimersGuarded (env, event)) :
    TimersInv (handle env c event, countAttempt event ((handle env c event).out.any Effect.isCall) n) := by
  cases h : connects env c event with
  | some request =>
    obtain ⟨c₀, he, -, ha₀⟩ := handle_connects h
    obtain ⟨hc, hi⟩ := timersInv_connect (c := c₀) env request.1 request.2 (ha₀.trans ha)
    rw [he, hc, countAttempt_connects h]
    exact hi
  | none =>
    cases outcome_handle h with
    | same h =>
      rw [any_isCall_of_attempts (h.attempts.trans ha)]
      exact hi.same h (h.attempts.trans ha)
    | asked hs h =>
      rw [any_isCall_of_attempts (h.attempts.trans ha)]
      refine TimersInv.same (c := { c with isSwitchingServer := false }) ?_ h (h.attempts.trans ha)
      exact ⟨⟨hi.handshakeTimer, hi.timer, hi.connectionRetry, hi.attempts, hi.asserted⟩, hi.distinct, hi.counted⟩
    | deactivated h | switched _ _ _ h =>
      rw [any_isCall_of_attempts (h.attempts.trans ha)]
      exact h.timersInv hi.attempts ha
    | initialized h =>
      obtain ⟨hh, ht⟩ := hg
      rw [any_isCall_of_attempts (h.attempts.trans ha)]
      refine TimersInv.same (c := { c with state := .StateInitializing, activated := none }) ?_ h (h.attempts.trans ha)
      exact ⟨⟨fun h => absurd (hh.symm.trans h) Bool.false_ne_true,
        fun h => absurd (ht.symm.trans h) Bool.false_ne_true, hi.connectionRetry, hi.attempts,
        hi.asserted⟩, hi.distinct, hi.counted⟩
    | implOff hr h =>
      have ht := hg.resolve_left hr
      rw [any_isCall_of_attempts (h.attempts.trans ha)]
      refine TimersInv.same (c := { c with state := .StateOff }) ?_ h (h.attempts.trans ha)
      exact ⟨⟨hi.handshakeTimer, fun h => absurd (ht.symm.trans h) Bool.false_ne_true, hi.connectionRetry, hi.attempts, hi.asserted⟩,
        hi.distinct, hi.counted⟩
    | implOn hr h =>
      rw [any_isCall_of_attempts (h.attempts.trans ha)]
      refine TimersInv.same (c := { c with state := .StateOn, timer := true, connectedTimeInUTC := _ }) ?_ h
        (h.attempts.trans ha)
      exact ⟨⟨hi.handshakeTimer, fun _ => Or.inl rfl, hi.connectionRetry, hi.attempts, hi.asserted⟩, hi.distinct,
        hi.counted⟩
    | completed hq hc h =>
      have ha' : attempts _ = [] := hc.attempts.trans ha
      rcases h with h | h
      · rw [h, any_isCall_of_attempts ha']
        refine timersInv_stopped hi.attempts hc.activationQueue hc.handshakeTimer (fun _ => ?_) ?_ (by simp [ha'])
        · rw [hc.state]
          split_ifs <;> simp
        · simp [hc.connectionRetry]
      · rw [any_isCall_of_attempts (h.attempts.trans ha')]
        exact h.timersInv hi.attempts ha'
    | advanced hq h =>
      have hs := hg (by simp [hq]) (by simp [hq])
      obtain ⟨hc, hi'⟩ := timersInv_advance hi ha hq hs
      rw [h, hc]
      exact hi'
    | ended hn h =>
      rw [any_isCall_of_attempts (h.attempts.trans ha)]
      refine timersInv_stopped hi.attempts h.activationQueue h.handshakeTimer (fun ht => ?_) ?_ ?_
      · cases h.timer.symm.trans ht
      · simp [h.connectionRetry]
      · simp [h.attempts, ha]
    | timedOut ht h =>
      rw [h]
      exact timersInv_timeout hi ha ht (hg ht)
    | assertionFailed ht hs h => exact absurd (hi.timer ht) hs

lemma timersGuarded_of_timersFit (hi : TimersInv (c, n)) (hf : TimersFit (handle env c event, n')) :
    c.TimersGuarded (env, event) := by
  cases event with
  | initializeController =>
    constructor
    · by_contra ht
      obtain ⟨_, _, _, h⟩ := hf.handshakeTimer (eq_true_of_ne_false ht)
      cases h
    · by_contra ht
      rcases hf.timer (eq_true_of_ne_false ht) with h | h <;> cases h
  | implInitialized status connected connectionDate =>
    rcases implInitialized_cases env status connected connectionDate c with ⟨hr, -⟩ | ⟨-, h⟩
    · exact Or.inl hr
    · apply Or.inr
      by_contra ht
      rcases hf.timer (h.timer.trans (eq_true_of_ne_false ht)) with hs | hs <;> cases h.state.symm.trans hs
  | handshakeTimeout =>
    intro ht hn
    by_contra hr
    obtain ⟨config, queue, hq, -⟩ := hi.handshakeTimer ht
    have he : handle env c .handshakeTimeout = handshakeTimeout env { c with handshakeTimer := false } := if_pos ht
    rw [he] at hf
    rcases handshakeTimeout_cases env { c with handshakeTimer := false } with
      ⟨h, -⟩ | ⟨-, hn', -⟩ | ⟨-, -, hl, -⟩ | ⟨-, -, -, h⟩
    · cases hq.symm.trans h
    · exact hn' hn
    · exact hr (Nat.lt_of_succ_lt hl)
    · have hl := h.connectionRetry.symm.trans_le hf.connectionRetry
      exact hr hl
  | connected pubkey =>
    intro hl hk
    match hq : c.activationQueue with
    | [] | [_] => simp [hq] at hl
    | first :: next :: queue =>
      have hk' : first.serverPublicKey = pubkey := hk first (by simp [hq])
      have he : handle env c (.connected pubkey) = activateNext env { c with activationQueue := next :: queue } := by
        simp [handle, connected, hq, hk']
      rw [he] at hf
      exact advancesSafely_of_timersFit hi hq hf
  | _ => trivial

/-- The timers fit the queue and the state exactly as long as nothing is done behind their back. -/
theorem timersFit_iff (isSwitchingServer : Bool) (events : List (Env × Event)) :
    (∀ fs, fs <+: events → TimersFit (run (watch step watchAttempts) (initial isSwitchingServer, 0) fs)) ↔
      Meets step TimersGuarded (initial isSwitchingServer) events := by
  have h₀ : TimersInv (initial isSwitchingServer, 0) :=
    ⟨⟨nofun, nofun, Nat.zero_le _, Nat.zero_le _, nofun⟩, nofun, fun h => absurd rfl h⟩
  have hc : ∀ p : Controller × ℕ, TimersInv p → TimersInv ({ p.1 with out := [] }, p.2) := fun p hi =>
    ⟨⟨hi.handshakeTimer, hi.timer, hi.connectionRetry, hi.attempts, nofun⟩, hi.distinct, hi.counted⟩
  have hs : ∀ (p : Controller × ℕ) (e : Env × Event), TimersInv p → p.1.TimersGuarded e →
      TimersInv (watch step watchAttempts p e) := fun p e hi hg =>
    timersInv_handle (c := { p.1 with out := [] }) (hc p hi) rfl hg
  rw [← meets_watch watchAttempts 0]
  refine (meets_iff_throughout hs (fun p e hi => ⟨fun hg => (hs p e hi hg).toTimersFit, fun hf => ?_⟩) h₀
    h₀.toTimersFit).symm
  exact timersGuarded_of_timersFit (c := { p.1 with out := [] }) (hc p hi) hf

/-- A handshake with the entry server after the last retry starts the timer for the exit server, which
then is the tenth retry. -/
theorem timersFit_late_handshake :
    let p := run (watch step watchAttempts) (initial false, 0)
      ([.initializeController, .implInitialized true false none,
        .activate { exitCityName := "A", entryCountryCode := "b", entryCityName := "B" } .ClientUser
          .RandomizeServerSelection, .accountRequestFinished 0 false, .handshakeTimeout, .handshakeTimeout,
        .handshakeTimeout, .handshakeTimeout, .handshakeTimeout, .handshakeTimeout, .handshakeTimeout,
        .handshakeTimeout, .handshakeTimeout, .connected "B", .handshakeTimeout].map (Env.working, ·))
    p.1.connectionRetry = 10 ∧ ¬ TimersFit p := by
  intro p
  have hr : p.1.connectionRetry = 10 := by decide
  refine ⟨hr, fun hf => ?_⟩
  have hl := hf.connectionRetry
  rw [hr] at hl
  exact absurd hl (by decide)

end Controller

end VpnClient.Client
