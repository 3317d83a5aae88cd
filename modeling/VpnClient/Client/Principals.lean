import VpnClient.Client.Steps
import VpnClient.Library.Runs

/-! When the connection of the client is safe from the requests of the extension. -/

namespace VpnClient.Client

open Library.Runs

namespace Controller

/-- An account request of the client is waited for. -/
def ClientRequested (c : Controller) : Prop := ∃ request ∈ c.accountRequests, request.1 = .ClientUser

instance (c : Controller) : Decidable c.ClientRequested :=
  inferInstanceAs (Decidable (∃ request ∈ c.accountRequests, _))

/-- An activation of the client is waited for or worked on. -/
def ClientActive (c : Controller) : Prop :=
  c.ClientRequested ∨ c.initiator = .ClientUser ∧ c.state ≠ .StateInitializing ∧ c.state ≠ .StateOff

instance (c : Controller) : Decidable c.ClientActive := inferInstanceAs (Decidable (_ ∨ _))

/-- The event is an accepted call of `activate` for the client that no captive portal stops. -/
def clientActivates (c : Controller) (e : Env × Event) : Bool :=
  match e.2 with
  | .activate serverData .ClientUser serverSelectionPolicy =>
    (c.activate e.1 serverData .ClientUser serverSelectionPolicy).1 && !(c.state = .StateOff && c.portalDetected)
  | event => (connects e.1 c event).any fun request => request.1 = .ClientUser

/-- Whether there is an accepted activation of the client that nothing has ended yet. -/
def watchClient (c : Controller) (e : Env × Event) (active : Bool) : Bool :=
  (active || c.clientActivates e) && (c.step e).ClientActive && (c.step e).state ≠ .StateDisconnecting

/-- The event makes the controller connect for the extension. -/
def connectsExtension (c : Controller) (e : Env × Event) : Bool :=
  (connects e.1 c e.2).any fun request => request.1 = .ExtensionUser

/-- The controller connects for the extension only when no request of the client is waited for, and a
connection of the client is neither there nor on its way. -/
def ExtensionYields (c : Controller) (e : Env × Event) : Prop :=
  c.connectsExtension e → ¬ c.ClientRequested ∧ (c.initiator = .ClientUser → c.state = .StateInitializing ∨
    c.state = .StateOff ∨ c.state = .StateOnPartial ∨ c.state = .StateDisconnecting)

instance (c : Controller) (e : Env × Event) : Decidable (c.ExtensionYields e) := inferInstanceAs (Decidable (_ → _))

/-- No request of the extension replaces an activation of the client. A handshake that does not come in
time is no such request. -/
def ClientKept (p : Controller × Bool) (e : Env × Event) : Prop :=
  p.2 = true → e.2 ≠ .handshakeTimeout →
    ∀ dnsPort serverSelectionPolicy, .activateInternal dnsPort serverSelectionPolicy .ExtensionUser ∉ (p.1.step e).out

/-- What was connected in part was connected for the extension. -/
def PartialForExtension (c : Controller) : Prop := c.state = .StateOnPartial → c.initiator = .ExtensionUser

variable {c c' : Controller} {env : Env} {e : Env × Event} {event : Event} {principal : ActivationPrincipal}

lemma Same.partialForExtension (h : Same c c') (hp : c.PartialForExtension) : c'.PartialForExtension := by
  intro hs
  rw [h.initiator]
  exact hp (h.state.symm.trans hs)

lemma Deactivated.partialForExtension (h : Deactivated c c') : c'.PartialForExtension := by
  intro hs
  rw [h.state] at hs
  split_ifs at hs with hw
  rcases hw with hw | hw <;> simp [hs] at hw

lemma partialForExtension_activateInternal (dnsPort : DNSPortPolicy) (serverSelectionPolicy : ServerSelectionPolicy)
    (hp : c.state = .StateOnPartial → principal = .ExtensionUser) :
    (c.activateInternal env dnsPort serverSelectionPolicy principal).PartialForExtension := by
  rcases activateInternal_cases env dnsPort serverSelectionPolicy principal c with ⟨-, ha⟩ | ⟨activation, -, ha⟩
  · intro hs
    rw [ha.initiator]
    exact hp (ha.state.symm.trans hs)
  · intro hs
    rw [ha.initiator]
    rw [ha.state] at hs
    split_ifs at hs
    exact hp hs

lemma partialForExtension_connect (serverSelectionPolicy : ServerSelectionPolicy) :
    (c.connect env principal serverSelectionPolicy).PartialForExtension := by
  refine partialForExtension_activateInternal _ _ fun hs => ?_
  by_contra hp
  simp [hp, setState, clearRetryCounter] at hs

lemma partialForExtension_activateNext (hp : c.PartialForExtension) : (c.activateNext env).PartialForExtension := by
  cases hd : env.device with
  | none =>
    rcases activateNext_none (c := c) hd with ⟨-, h⟩ | ⟨-, out, h, -⟩
    · exact h.partialForExtension
    · rw [h]
      exact hp
  | some device =>
    match hq : c.activationQueue with
    | [] =>
      have h : c.activateNext env = c.emit .assertionFailed := by
        rw [activateNext]
        rw [hd, hq]
      rw [h]
      exact hp
    | config :: queue =>
      rw [activateNext_some hd hq]
      intro hs
      dsimp only [setState] at hs ⊢
      split_ifs at hs
      exact hp hs

lemma partialForExtension_handshakeTimeout (hp : c.PartialForExtension) :
    (c.handshakeTimeout env).PartialForExtension := by
  rcases handshakeTimeout_cases env c with ⟨-, h⟩ | ⟨-, -, h | h⟩ | ⟨-, -, -, dnsPort, c₁, hs, h⟩ | ⟨-, -, -, h⟩
  · rw [h]
    exact hp
  · exact h.partialForExtension hp
  · exact h.partialForExtension
  · rw [h]
    exact partialForExtension_activateInternal _ _ fun hs' => hp (hs.state.symm.trans hs')
  · exact h.partialForExtension hp

lemma partialForExtension_handle (hp : c.PartialForExtension) : (handle env c event).PartialForExtension := by
  cases h : connects env c event with
  | some request =>
    obtain ⟨c₀, he, -, -⟩ := handle_connects h
    rw [he]
    exact partialForExtension_connect _
  | none =>
    cases outcome_handle h with
    | same h => exact h.partialForExtension hp
    | asked hs h => exact h.partialForExtension hp
    | deactivated h => exact h.partialForExtension
    | switched state hs ho h => exact h.partialForExtension
    | initialized h => exact h.partialForExtension nofun
    | implOff _ h => exact h.partialForExtension nofun
    | implOn _ h => exact h.partialForExtension nofun
    | completed hq hc h =>
      rcases h with h | h
      · rw [h]
        intro hs
        rw [hc.state] at hs
        split_ifs at hs with hi
        exact hc.initiator.trans hi
      · exact h.partialForExtension
    | advanced hq h =>
      rw [h]
      exact partialForExtension_activateNext hp
    | ended hn h => exact fun hs => by simp [h.state] at hs
    | timedOut ht h =>
      rw [h]
      exact partialForExtension_handshakeTimeout hp
    | assertionFailed ht hs h =>
      rw [h]
      exact hp

lemma partialForExtension_step (hp : c.PartialForExtension) : (c.step e).PartialForExtension :=
  partialForExtension_handle hp

/-- An event that does not make the controller connect for a principal does not call `activateInternal`
for it, unless it is a handshake that did not come in time. -/
lemma activateInternal_not_mem {dnsPort : DNSPortPolicy} {serverSelectionPolicy : ServerSelectionPolicy}
    (hc : ∀ policy, connects e.1 c e.2 ≠ some (principal, policy)) (ht : e.2 ≠ .handshakeTimeout) :
    .activateInternal dnsPort serverSelectionPolicy principal ∉ (c.step e).out := by
  rw [← mem_attempts rfl, step]
  have hk : connects e.1 { c with out := [] } e.2 = connects e.1 c e.2 := by cases e.2 <;> rfl
  have ha : ({ c with out := [] } : Controller).attempts = [] := rfl
  cases h : connects e.1 { c with out := [] } e.2 with
  | some request =>
    obtain ⟨initiator, policy⟩ := request
    have hi : principal ≠ initiator := fun hi => hc policy (by rw [← hk, h, hi])
    obtain ⟨c₀, he, -, h₀⟩ := handle_connects h
    have hn : (c₀.connecting initiator).attempts = [] := (attempts_connecting ..).trans (h₀.trans ha)
    rw [he]
    rcases connect_cases e.1 initiator policy c₀ with h | ⟨activation, h⟩
    · obtain ⟨_, _, h⟩ := h.attempts
      simp [h, hn, hi]
    · obtain ⟨_, _, _, h⟩ := h.attempts
      simp [h, hn, hi]
  | none =>
    rcases attempts_handle h with h | ⟨-, -, h⟩ | ⟨-, _, _, h⟩ | ⟨h, -⟩
    · simp [h, ha]
    · simp [h, ha]
    · simp [h, ha]
    · exact absurd h ht

/-- Nothing that the extension asks for replaces an activation of the client as long as the controller
connects for the extension only when the client has none. -/
theorem clientKept_of_extensionYields (isSwitchingServer : Bool) (events : List (Env × Event))
    (hm : Meets step ExtensionYields (initial isSwitchingServer) events) :
    Meets (watch step watchClient) ClientKept (initial isSwitchingServer, false) events := by
  have hm' := (meets_watch watchClient false).mpr hm
  refine hm'.along (P := fun p => p.1.PartialForExtension ∧
    (p.2 = true → p.1.ClientActive ∧ p.1.state ≠ .StateDisconnecting)) ?_ ?_ ⟨nofun, nofun⟩
  · rintro ⟨c, active⟩ e ⟨hp, -⟩ -
    refine ⟨partialForExtension_step hp, fun hl => ?_⟩
    simp only [watch, watchClient, Bool.and_eq_true, decide_eq_true_eq] at hl ⊢
    exact ⟨hl.1.2, hl.2⟩
  · rintro ⟨c, active⟩ e ⟨hp, ha⟩ hy hl ht dnsPort serverSelectionPolicy
    refine activateInternal_not_mem (fun policy hc => ?_) ht
    obtain ⟨hr, hs⟩ := hy (by simp [connectsExtension, hc])
    obtain ⟨hr' | ⟨hi, hn, hf⟩, hd⟩ := ha hl
    · exact hr hr'
    · rcases hs hi with h | h | h | h
      · exact hn h
      · exact hf h
      · cases (hp h).symm.trans hi
      · exact hd h

theorem clientKept_of_extensionYields_connected :
    Meets (watch step watchClient) ClientKept (initial false, false)
      ([.initializeController, .implInitialized true false none,
        .activate { exitCityName := "A" } .ExtensionUser .RandomizeServerSelection, .accountRequestFinished 0 false,
        .connected "A", .activate { exitCityName := "A" } .ClientUser .RandomizeServerSelection, .connected "A",
        .activate { exitCityName := "A" } .ExtensionUser .RandomizeServerSelection,
        .deactivate .ExtensionUser].map (Env.working, ·)) :=
  clientKept_of_extensionYields false _ (by decide)

/-- An account request of the extension that was sent together with that of the client makes the controller
connect for the extension when the client is connected. -/
theorem clientKept_request_pending :
    let p := run (watch step watchClient) (initial false, false)
      ([.initializeController, .implInitialized true false none,
        .activate { exitCityName := "A" } .ClientUser .RandomizeServerSelection,
        .activate { exitCityName := "A" } .ExtensionUser .RandomizeServerSelection, .accountRequestFinished 0 false,
        .connected "A"].map (Env.working, ·))
    p.1.state = .StateOn ∧ p.2 = true ∧ ¬ ClientKept p (Env.working, .accountRequestFinished 0 false) := by
  refine ⟨by decide, by decide, fun hk => ?_⟩
  exact hk (by decide) nofun .DoNotForceDNSPort .RandomizeServerSelection (by decide)

end Controller

end VpnClient.Client
