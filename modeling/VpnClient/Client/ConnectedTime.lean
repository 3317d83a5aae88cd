import VpnClient.Client.Steps
import VpnClient.Library.Runs

/-! When the time of the connection is the time since its start, and none without a connection. -/

namespace VpnClient.Client

open Library.Runs

/-- What is under way: nothing that matters, an activation from `StateOff`, or a switch of servers in a
connection with the given start. -/
inductive Pending where
  | nothing
  | activation
  | switch (start : Option ℤ)
  deriving DecidableEq

def Pending.keepActivation : Pending → Pending
  | activation => activation
  | _ => nothing

def Pending.keepSwitch : Pending → Pending
  | switch start => switch start
  | _ => nothing

/-- A deactivation ends what is under way. -/
def Pending.unlessStopped (state : State) (pending : Pending) : Pending :=
  if state = .StateDisconnecting then nothing else pending

namespace Controller

def nextPending (env : Env) (c : Controller) (event : Event) (pending : Pending) : Pending :=
  match event with
  | .switchServers serverData => if (c.switchServers serverData).1 then .switch c.connectedTimeInUTC else pending
  | .silentSwitchServers serverCoolDownPolicy =>
    if (c.silentSwitchServers env serverCoolDownPolicy).1 then .switch c.connectedTimeInUTC else pending
  | .accountRequestFinished i failed =>
    if (connects env c (.accountRequestFinished i failed)).isSome then .activation else pending
  | .activate _ _ _ =>
    if c.state = .StateOff ∨ c.state = .StateOnPartial then pending.keepActivation else pending
  | .connected pubkey => if c.completes pubkey then .nothing else pending
  | .disconnected => if (connects env c .disconnected).isSome then pending.keepSwitch else .nothing
  | _ => pending

def watchPending (c : Controller) (e : Env × Event) (pending : Pending) : Pending :=
  (nextPending e.1 c e.2 pending).unlessStopped (c.step e).state

/-- Without a connection there is no time; an activation that completes starts the clock, a switch that
completes keeps its start. -/
structure TimeFits (p : Controller × Pending) (e : Env × Event) : Prop where
  off : (p.1.step e).state = .StateOff → (p.1.step e).connectedTimeInUTC = none ∧ ∀ env, (p.1.step e).time env = 0
  completed : ∀ pubkey, e.2 = .connected pubkey → p.1.completes pubkey →
    ((p.1.step e).state = .StateOn ∨ (p.1.step e).state = .StateOnPartial) →
      (p.2 = .activation → (p.1.step e).connectedTimeInUTC = some e.1.now) ∧
      ∀ start, p.2 = .switch start → (p.1.step e).connectedTimeInUTC = start

/-- The connection ends while it is not marked as switched, or has no start; the backend reports a connection
only while no switch is under way, and none only when there is no start; an activation completes while the
connection is neither marked as switched nor there already. -/
def TimeKept (p : Controller × Pending) (e : Env × Event) : Prop :=
  match e.2 with
  | .implInitialized status connected _ =>
    if p.1.ReportsConnection status connected then p.2.keepSwitch = .nothing else p.1.connectedTimeInUTC = none
  | .disconnected =>
    ¬ (p.1.nextStep = .None ∧ p.1.Switching) → p.1.isSwitchingServer = false ∨ p.1.connectedTimeInUTC = none
  | .connected pubkey => p.1.completes pubkey → p.1.nextStep = .None → p.2 = .activation →
    p.1.isSwitchingServer = false ∧ p.1.state ≠ .StateOn ∧ p.1.state ≠ .StateOnPartial
  | _ => True

instance (p : Controller × Pending) : (e : Env × Event) → Decidable (TimeKept p e)
  | (_, .implInitialized status connected _) =>
    inferInstanceAs (Decidable (if p.1.ReportsConnection status connected then _ else _))
  | (_, .disconnected) => inferInstanceAs (Decidable (_ → _))
  | (_, .connected _) => inferInstanceAs (Decidable (_ → _))
  | (_, .initializeController) | (_, .activate _ _ _) | (_, .accountRequestFinished _ _) | (_, .deactivate _)
  | (_, .switchServers _) | (_, .silentSwitchServers _) | (_, .quit) | (_, .updateRequired)
  | (_, .captivePortalPresent) | (_, .captivePortalGone) | (_, .timerTimeout) | (_, .connectingTimeout)
  | (_, .handshakeTimeout) | (_, .pingSentAndReceived) => isTrue trivial

structure TimeInv (p : Controller × Pending) : Prop where
  off : p.1.state = .StateOff → p.1.connectedTimeInUTC = none
  switch : ∀ start, p.2 = .switch start → p.1.isSwitchingServer = true ∧ p.1.connectedTimeInUTC = start

variable {c c' : Controller} {env : Env} {event : Event} {pending : Pending}

lemma TimeInv.weaken {pending' : Pending} (hi : TimeInv (c, pending))
    (hp : ∀ start, pending' = .switch start → pending = .switch start) : TimeInv (c, pending') :=
  ⟨hi.off, fun start h => hi.switch start (hp start h)⟩

lemma TimeInv.same (hi : TimeInv (c, pending)) (h : Same c c') : TimeInv (c', pending) where
  off hs := h.connectedTimeInUTC.trans (hi.off (h.state.symm.trans hs))
  switch start hp := by
    obtain ⟨hw, ht⟩ := hi.switch start hp
    exact ⟨h.isSwitchingServer.trans hw, h.connectedTimeInUTC.trans ht⟩

lemma clearConnectedTime_of_switching (hw : c.isSwitchingServer = true) :
    c.clearConnectedTime.connectedTimeInUTC = c.connectedTimeInUTC := by
  simp [clearConnectedTime, hw]

lemma clearConnectedTime_none (h : c.isSwitchingServer = false ∨ c.connectedTimeInUTC = none) :
    c.clearConnectedTime.connectedTimeInUTC = none := by
  rcases h with h | h <;> simp [clearConnectedTime, h]

lemma Deactivated.timeInv (h : Deactivated c c')
    (hw : ∀ start, pending = .switch start → c.isSwitchingServer = true ∧ c.connectedTimeInUTC = start) :
    TimeInv (c', pending) where
  off hs := by
    rw [h.state] at hs
    split_ifs at hs with hs'
    rcases hs' with hs' | hs' <;> cases hs.symm.trans hs'
  switch start hp := by
    obtain ⟨hw, ht⟩ := hw start hp
    exact ⟨h.isSwitchingServer.trans hw, (h.connectedTimeInUTC.trans (clearConnectedTime_of_switching hw)).trans ht⟩

lemma Attempted.timeInv {principal : ActivationPrincipal} (h : Attempted principal c c')
    (hs : c'.state = .StateOff → c.connectedTimeInUTC = none)
    (hw : ∀ start, pending = .switch start → c.isSwitchingServer = true ∧ c.connectedTimeInUTC = start) :
    TimeInv (c', pending) where
  off hs' := h.connectedTimeInUTC.trans (clearConnectedTime_none (Or.inr (hs hs')))
  switch start hp := by
    obtain ⟨hw, ht⟩ := hw start hp
    exact ⟨h.isSwitchingServer.trans hw, (h.connectedTimeInUTC.trans (clearConnectedTime_of_switching hw)).trans ht⟩

lemma TimeInv.stopped (hi : TimeInv (c, pending)) (h : Same c c' ∨ Deactivated c c') : TimeInv (c', pending) :=
  h.elim hi.same fun hd => hd.timeInv hi.switch

lemma timeInv_activateInternal (env : Env) (dnsPort : DNSPortPolicy) (serverSelectionPolicy : ServerSelectionPolicy)
    (initiator : ActivationPrincipal) (hs : c.state = .StateOff → c.connectedTimeInUTC = none)
    (hw : ∀ start, pending = .switch start → c.isSwitchingServer = true ∧ c.connectedTimeInUTC = start) :
    TimeInv (c.activateInternal env dnsPort serverSelectionPolicy initiator, pending) := by
  rcases activateInternal_cases env dnsPort serverSelectionPolicy initiator c with ⟨-, h⟩ | ⟨activation, -, h⟩
  · exact h.timeInv (fun hs' => hs (h.state.symm.trans hs')) hw
  · refine h.timeInv (fun hs' => ?_) hw
    rw [h.state] at hs'
    split_ifs at hs'
    exact hs hs'

lemma timeInv_connect (env : Env) (serverSelectionPolicy : ServerSelectionPolicy)
    (initiator : ActivationPrincipal) (hs : c.state = .StateOff → c.connectedTimeInUTC = none)
    (hw : ∀ start, pending = .switch start → c.isSwitchingServer = true ∧ c.connectedTimeInUTC = start) :
    TimeInv (c.connect env initiator serverSelectionPolicy, pending) := by
  refine timeInv_activateInternal env .DoNotForceDNSPort serverSelectionPolicy initiator ?_ ?_
  · split_ifs
    · nofun
    · exact hs
  · split_ifs
    · exact hw
    · exact hw

lemma timeInv_activateNext (hi : TimeInv (c, pending)) (hq : c.activationQueue ≠ []) :
    TimeInv (c.activateNext env, pending) := by
  obtain ⟨config, queue, hq⟩ := List.exists_cons_of_ne_nil hq
  cases hd : env.device with
  | none =>
    rcases activateNext_none (c := c) hd with ⟨-, h⟩ | ⟨-, out, h, -⟩
    · exact h.timeInv hi.switch
    · rw [h]
      exact ⟨hi.off, hi.switch⟩
  | some device =>
    rw [activateNext_some hd hq]
    refine ⟨fun hs => ?_, hi.switch⟩
    dsimp only [setState] at hs
    split_ifs at hs
    exact hi.off hs

lemma timeInv_handshakeTimeout (hi : TimeInv (c, pending)) : TimeInv (c.handshakeTimeout env, pending) := by
  rcases handshakeTimeout_cases env c with ⟨-, h⟩ | ⟨-, -, h | h⟩ | ⟨-, -, -, dnsPort, c₁, hs, h⟩ | ⟨-, -, -, h⟩
  · rw [h]
    exact ⟨hi.off, hi.switch⟩
  · exact hi.same h
  · exact h.timeInv hi.switch
  · have hi₁ : TimeInv (c₁, pending) :=
      TimeInv.same (c := { c with connectionRetry := c.connectionRetry + 1 }) ⟨hi.off, hi.switch⟩ hs
    rw [h]
    exact timeInv_activateInternal env dnsPort _ _ hi₁.off hi₁.switch
  · exact TimeInv.same (c := { c with connectionRetry := c.connectionRetry + 1 }) ⟨hi.off, hi.switch⟩ h

lemma keepSwitch_eq {start : Option ℤ} : pending.keepSwitch = .switch start ↔ pending = .switch start := by
  cases pending <;> simp [Pending.keepSwitch]

lemma keepActivation_ne {start : Option ℤ} : pending.keepActivation ≠ .switch start := by
  cases pending <;> simp [Pending.keepActivation]

lemma timeInv_handle (hi : TimeInv (c, pending)) (hk : TimeKept (c, pending) (env, event)) :
    TimeInv (handle env c event, nextPending env c event pending) := by
  cases event with
  | initializeController =>
    exact ⟨(fun h => by cases h), hi.switch⟩
  | implInitialized status connected connectionDate =>
    rcases implInitialized_cases env status connected connectionDate c with ⟨hr, h⟩ | ⟨hr, h⟩
    · refine TimeInv.same (c := { c with
        state := .StateOn, timer := true, connectedTimeInUTC := some (connectionDate.getD env.now) }) ⟨(fun h => by cases h), ?_⟩ h
      intro start hp
      have hn : pending.keepSwitch = .nothing := by simpa [TimeKept, hr] using hk
      cases hn.symm.trans (keepSwitch_eq.mpr hp)
    · have ht : c.connectedTimeInUTC = none := by simpa [TimeKept, hr] using hk
      exact TimeInv.same (c := { c with state := .StateOff }) ⟨fun _ => ht, hi.switch⟩ h
  | activate serverData initiator serverSelectionPolicy =>
    simp only [nextPending]
    by_cases hc : c.state = .StateOnPartial ∨ c.Switching
    · rw [handle, activate_connects serverData hc]
      have ho : c.state ≠ .StateOff := by
        intro ho
        simp [ho, Switching] at hc
      refine timeInv_connect _ _ _ (fun h => absurd h ho) fun start hp => ?_
      split_ifs at hp with hs
      · exact absurd hp keepActivation_ne
      · exact ⟨decide_eq_true (hc.resolve_left fun h => hs (Or.inr h)), (hi.switch start hp).2⟩
    · rcases activate_cases env serverData hc with h | ⟨ho, h⟩
      · refine TimeInv.same (hi.weaken fun start hp => ?_) h
        split_ifs at hp
        · exact absurd hp keepActivation_ne
        · exact hp
      · rw [if_pos (Or.inl ho)]
        exact TimeInv.same (c := { c with isSwitchingServer := false })
          ⟨hi.off, fun start hp => absurd hp keepActivation_ne⟩ h
  | accountRequestFinished i failed =>
    simp only [nextPending]
    cases hc : connects env c (.accountRequestFinished i failed) with
    | none => exact hi.same (accountRequestFinished_same hc)
    | some request =>
      obtain ⟨c₀, he, hs, -⟩ := accountRequestFinished_connects hc
      rw [handle, he]
      exact timeInv_connect _ _ _ (fun h => hs.connectedTimeInUTC.trans (hi.off (hs.state.symm.trans h))) (fun _ h => by cases h)
  | switchServers serverData =>
    simp only [nextPending]
    rcases switchServers_cases serverData c with ⟨-, h⟩ | ⟨hs, ha, h⟩
    · rw [handle, h]
      exact hi
    · rw [ha, if_pos rfl]
      exact h.timeInv fun start hp => ⟨rfl, (Pending.switch.inj hp)⟩
  | silentSwitchServers serverCoolDownPolicy =>
    simp only [nextPending]
    rcases silentSwitchServers_cases env serverCoolDownPolicy c with h | ⟨hs, ha, h⟩
    · rw [handle, h]
      exact hi
    · rw [ha, if_pos rfl]
      exact h.timeInv fun start hp => ⟨rfl, (Pending.switch.inj hp)⟩
  | connected pubkey =>
    simp only [nextPending]
    rcases connected_cases env pubkey c with ⟨hc, h⟩ | ⟨hc, -, h⟩ | ⟨first, next, queue, hc, hq, -, h⟩
    · rw [handle, h, hc]
      exact hi
    · rw [handle, h, hc, if_pos rfl]
      obtain ⟨c₁, hc, ⟨-, he⟩ | ⟨-, hd⟩⟩ := connectionCompleted_cases env { c with activationQueue := [] }
      · rw [he]
        refine ⟨fun hs => ?_, fun _ h => by cases h⟩
        rw [hc.state] at hs
        split_ifs at hs
      · exact hd.timeInv (fun _ h => by cases h)
    · rw [handle, h, hc]
      exact timeInv_activateNext (c := { c with activationQueue := next :: queue }) ⟨hi.off, hi.switch⟩
        (List.cons_ne_nil _ _)
  | disconnected =>
    simp only [nextPending]
    by_cases hc : c.nextStep = .None ∧ c.Switching
    · rw [handle, disconnected_switching hc.1 hc.2, connects, if_pos hc]
      refine timeInv_connect _ _ _ (fun h => ?_) fun start hp => ?_
      · rcases hc.2 with hs | hs <;> cases hs.symm.trans h
      · obtain ⟨hw, ht⟩ := hi.switch start (keepSwitch_eq.mp hp)
        exact ⟨rfl, (clearConnectedTime_of_switching hw).trans ht⟩
    · have he := ended_disconnected env hc
      rw [connects, if_neg hc]
      exact ⟨fun _ => he.connectedTimeInUTC.trans (clearConnectedTime_none (hk hc)), fun _ h => by cases h⟩
  | deactivate user => exact hi.stopped (deactivate_cases user (.refl c))
  | quit => exact hi.stopped (quit_cases c)
  | updateRequired => exact hi.stopped (updateRequired_cases c)
  | captivePortalPresent => exact ⟨hi.off, hi.switch⟩
  | captivePortalGone => exact ⟨hi.off, hi.switch⟩
  | timerTimeout =>
    simp only [handle, timerTimeout]
    split_ifs
    · exact hi
    · exact ⟨hi.off, hi.switch⟩
    · exact hi
  | connectingTimeout =>
    simp only [handle]
    split_ifs
    · exact ⟨hi.off, hi.switch⟩
    · exact hi
  | handshakeTimeout =>
    simp only [handle]
    split_ifs
    · exact timeInv_handshakeTimeout (c := { c with handshakeTimer := false }) ⟨hi.off, hi.switch⟩
    · exact hi
  | pingSentAndReceived =>
    simp only [handle]
    split_ifs
    · exact ⟨hi.off, hi.switch⟩
    · exact hi

lemma switchServers_out (serverData : ServerData) :
    (switchServers serverData { c with out := [] }).1 = (c.switchServers serverData).1 := by
  unfold switchServers
  split_ifs <;> rfl

lemma silentSwitchServers_out (serverCoolDownPolicy : ServerCoolDownPolicyForSilentSwitch) :
    (silentSwitchServers env serverCoolDownPolicy { c with out := [] }).1 =
      (c.silentSwitchServers env serverCoolDownPolicy).1 := by
  unfold silentSwitchServers
  split_ifs <;> rfl

lemma nextPending_out : nextPending env { c with out := [] } event pending = nextPending env c event pending := by
  cases event with
  | switchServers serverData => rw [nextPending, switchServers_out, nextPending]
  | silentSwitchServers serverCoolDownPolicy => rw [nextPending, silentSwitchServers_out, nextPending]
  | _ => rfl

lemma timeInv_step {p : Controller × Pending} {e : Env × Event} (hi : TimeInv p) (hk : TimeKept p e) :
    TimeInv (watch step watchPending p e) := by
  obtain ⟨c, pending⟩ := p
  have h : TimeInv (c.step e, nextPending e.1 c e.2 pending) := by
    rw [← nextPending_out]
    exact timeInv_handle (c := { c with out := [] }) ⟨hi.off, hi.switch⟩ hk
  refine h.weaken fun start hp => ?_
  unfold watchPending Pending.unlessStopped at hp
  split_ifs at hp
  exact hp

lemma time_none (h : c.connectedTimeInUTC = none) : c.time env = 0 := by
  rw [time, h]

lemma connectedTime_completed {pubkey : String} (hi : TimeInv (c, pending))
    (hk : TimeKept (c, pending) (env, .connected pubkey)) (hp : c.completes pubkey = true)
    (hs : (c.connected env pubkey).state = .StateOn ∨ (c.connected env pubkey).state = .StateOnPartial) :
    (pending = .activation → (c.connected env pubkey).connectedTimeInUTC = some env.now) ∧
      ∀ start, pending = .switch start → (c.connected env pubkey).connectedTimeInUTC = start := by
  rcases connected_cases env pubkey c with ⟨hn, -⟩ | ⟨-, -, h⟩ | ⟨first, next, queue, hn, -⟩
  · cases hn.symm.trans hp
  · rw [h] at hs ⊢
    obtain ⟨c₁, hc, ⟨hn, he⟩ | ⟨-, hd⟩⟩ := connectionCompleted_cases env { c with activationQueue := [] }
    · rw [he, hc.connectedTimeInUTC, hc.isSwitchingServer]
      constructor
      · intro ha
        obtain ⟨hw, ho, hp⟩ := hk hp hn ha
        have hw : c.isSwitchingServer = false := hw
        rw [if_neg (not_or.mpr ⟨ho, hp⟩), if_neg (by simp [hw])]
      · intro start hw
        obtain ⟨hw, ht⟩ := hi.switch start hw
        have hw : c.isSwitchingServer = true := hw
        rw [if_pos (by simp [hw])]
        exact ht
    · have hc' : ¬ c₁.Switching := by
        rw [Switching]
        rw [hc.state]
        split_ifs <;> simp
      rw [hd.state, if_neg hc'] at hs
      simp at hs
  · cases hn.symm.trans hp

/-- In a run whose steps all meet the condition there is no time without a connection, a switch keeps the
start of the connection and an activation sets it. -/
theorem timeFits_of_timeKept (isSwitchingServer : Bool) (events : List (Env × Event))
    (hm : Meets (watch step watchPending) TimeKept (initial isSwitchingServer, .nothing) events) :
    Meets (watch step watchPending) TimeFits (initial isSwitchingServer, .nothing) events := by
  refine hm.along (fun p e => timeInv_step) (fun p e hi hk => ?_) ⟨fun _ => rfl, nofun⟩
  constructor
  · intro hs
    have ht : (p.1.step e).connectedTimeInUTC = none := (timeInv_step hi hk).off hs
    exact ⟨ht, fun env => time_none ht⟩
  · obtain ⟨c, pending⟩ := p
    obtain ⟨env, event⟩ := e
    rintro pubkey rfl hp hs
    exact connectedTime_completed (c := { c with out := [] }) ⟨hi.off, hi.switch⟩ hk hp hs

theorem timeFits_of_timeKept_switched :
    Meets (watch step watchPending) TimeFits (initial false, .nothing)
      ([.initializeController, .implInitialized true false none,
        .activate { exitCityName := "A" } .ClientUser .RandomizeServerSelection, .accountRequestFinished 0 false,
        .connected "A", .deactivate .ClientUser, .disconnected,
        .activate { exitCityName := "B" } .ClientUser .RandomizeServerSelection, .accountRequestFinished 0 false,
        .connected "B", .switchServers { exitCityName := "A" }, .disconnected, .connected "A"].map (Env.working, ·)) :=
  timeFits_of_timeKept false _ (by decide)

/-- After a switch the connection is still marked as switched when it ends, and keeps its start. -/
theorem timeFits_switched_before :
    let p := run (watch step watchPending) (initial false, .nothing)
      ([.initializeController, .implInitialized true false none,
        .activate { exitCityName := "A" } .ClientUser .RandomizeServerSelection, .accountRequestFinished 0 false,
        .connected "A", .switchServers { exitCityName := "A" }, .disconnected, .connected "A",
        .deactivate .ClientUser].map (Env.working, ·))
    (p.1.step (Env.working, .disconnected)).state = .StateOff ∧
      (p.1.step (Env.working, .disconnected)).connectedTimeInUTC = some 100 ∧
      ¬ TimeFits p (Env.working, .disconnected) := by
  intro p
  have hs : (p.1.step (Env.working, .disconnected)).state = .StateOff := by decide
  have ht : (p.1.step (Env.working, .disconnected)).connectedTimeInUTC = some 100 := by decide
  refine ⟨hs, ht, fun hf => ?_⟩
  cases ht.symm.trans (hf.off hs).1

end Controller

end VpnClient.Client
