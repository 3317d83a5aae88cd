import VpnClient.Android.HealthChecks

/-! The checks of the connection go on while the health is active, and switch to a server that they have reached. -/

namespace VpnClient.Android

open Library.Runs

variable {wg : WireGuard}

namespace ConnectionHealth

/-- What a call that may bring the tunnel up does to the health. -/
def Restarted (h h' : ConnectionHealth) : Prop :=
  h' = h ∨ ∃ sdk endpoint gateway dns altEndpoint, h' = h.start sdk endpoint gateway dns altEndpoint

variable {h h' : ConnectionHealth} {W : Prop}

lemma Restarted.monitored (hr : Restarted h h') (hm : h.mActive = true → h.mTaskTimer = true ∨ W)
    (ha : h'.mActive = true) : h'.mTaskTimer = true ∨ W := by
  obtain rfl | ⟨sdk, endpoint, gateway, dns, altEndpoint, rfl⟩ := hr
  · exact hm ha
  · rw [start] at ha ⊢
    dsimp only at ha ⊢
    split_ifs at ha ⊢
    · exact hm ha
    · exact hm ha
    · exact .inl rfl

lemma Restarted.nextPossibleServerSwitch (hr : Restarted h h') :
    h'.nextPossibleServerSwitch = h.nextPossibleServerSwitch := by
  obtain rfl | ⟨sdk, endpoint, gateway, dns, altEndpoint, rfl⟩ := hr
  · rfl
  · rw [start]
    dsimp only
    split_ifs <;> rfl

end ConnectionHealth

namespace VPNService

variable {s : VPNService} {json config : ClientConfig} {useFallbackServer forceFallBack : Bool} {answers : Answers}

/-- What makes `turnOn` throw an error: a config that prints as nothing, no permission, or a handle that is negative. -/
def Errs (wg : WireGuard) (json : ClientConfig) (useFallbackServer : Bool) (answers : Answers) (s : VPNService) :
    Prop :=
  ∃ wireguard_conf ∈ json.servers[s.nextServerConfig json useFallbackServer]?.bind
      fun jServer => buildWireguardConfig wg jServer json,
    wg.toWgUserspaceString wireguard_conf = "" ∨ answers.permission = false ∨
      answers.setupBuilder = true ∧ json.isOnboarding = false ∧ answers.establish = .tun ∧ answers.wgTurnOn < 0

instance : Decidable (Errs wg json useFallbackServer answers s) :=
  inferInstanceAs (Decidable (∃ _ ∈ _, _ ∨ _ ∨ _ ∧ _ ∧ _ ∧ _))

/-- A reconnect throws an error if there is no config, or if `turnOn` does. -/
def ReconnectErrs (wg : WireGuard) (forceFallBack : Bool) (answers : Answers) (s : VPNService) : Prop :=
  ∀ config ∈ s.storedConfig, Errs wg config forceFallBack answers s

instance : Decidable (ReconnectErrs wg forceFallBack answers s) := inferInstanceAs (Decidable (∀ _ ∈ _, _))

variable (json answers) in
lemma replaceTunnel_health (jServer : Server) (wgConfig : String) :
    answers.wgTurnOn < 0 ∧ (s.replaceTunnel json jServer wgConfig answers).1 = .error ∧
        (s.replaceTunnel json jServer wgConfig answers).2.mConnectionHealth = s.mConnectionHealth ∨
      ¬answers.wgTurnOn < 0 ∧ (s.replaceTunnel json jServer wgConfig answers).1 = .completed ∧
        (s.replaceTunnel json jServer wgConfig answers).2.mConnectionHealth = s.mConnectionHealth.start answers.sdk
          jServer.ipv4AddrIn jServer.ipv4Gateway json.dns (fallbackIpv4 json s.currentServerConfig) := by
  rw [replaceTunnel]
  dsimp only
  generalize hg : (if s.currentTunnelHandle ≠ -1 then s.wgTurnOff s.currentTunnelHandle else s) = closed
  have hc : closed.mConnectionHealth = s.mConnectionHealth ∧ closed.currentServerConfig = s.currentServerConfig := by
    rw [← hg, wgTurnOff]
    split_ifs <;> exact ⟨rfl, rfl⟩
  rw [← hc.1, ← hc.2]
  by_cases hl : answers.wgTurnOn < 0
  · refine .inl ⟨hl, ?_⟩
    rw [if_pos (show (setCurrentTunnelHandle answers.now answers.wgTurnOn _).currentTunnelHandle < 0 from hl),
      wgTurnOn, if_pos hl]
    exact ⟨rfl, rfl⟩
  · refine .inr ⟨hl, ?_⟩
    rw [if_neg (show ¬(setCurrentTunnelHandle answers.now answers.wgTurnOn _).currentTunnelHandle < 0 from hl),
      wgTurnOn, if_neg hl]
    exact ⟨rfl, rfl⟩

lemma replaceTunnel_error_iff (jServer : Server) (wgConfig : String) :
    (s.replaceTunnel json jServer wgConfig answers).1 = .error ↔ answers.wgTurnOn < 0 := by
  obtain ⟨hl, ho, -⟩ | ⟨hl, ho, -⟩ := replaceTunnel_health (s := s) json answers jServer wgConfig
  · exact iff_of_true ho hl
  · exact iff_of_false (by simp [ho]) hl

lemma turnOn_error_iff :
    (s.turnOn wg json useFallbackServer answers).1 = .error ↔ Errs wg json useFallbackServer answers s := by
  rw [turnOn, Errs, prepare, getNextServerConfig_eq]
  dsimp only
  rw [show nextServerConfig json useFallbackServer { s with turnOns := s.turnOns + 1 } =
    s.nextServerConfig json useFallbackServer from rfl]
  cases hs : json.servers[s.nextServerConfig json useFallbackServer]? with
  | none => simp
  | some jServer =>
    cases hb : buildWireguardConfig wg jServer json with
    | none => simp [hb]
    | some wireguard_conf =>
      simp only [Option.bind_some, hb, Option.map_some]
      obtain ⟨permission, setupBuilder, establish, handle, now, sdk⟩ := answers
      by_cases he : wg.toWgUserspaceString wireguard_conf = ""
      · simp [he]
      · rw [if_neg he]
        cases permission
        · simp
        · cases setupBuilder
          · simp [he]
          · cases hj : json.isOnboarding
            · cases establish
              · simpa [he, hj] using replaceTunnel_error_iff _ _
              · simp [he]
              · simp [he]
            · simp [he]

lemma health_turnOn : ConnectionHealth.Restarted s.mConnectionHealth
    (s.turnOn wg json useFallbackServer answers).2.mConnectionHealth ∧
      ((s.turnOn wg json useFallbackServer answers).1 = .error →
        (s.turnOn wg json useFallbackServer answers).2.mConnectionHealth = s.mConnectionHealth) := by
  by_cases he : EndsEarly wg json useFallbackServer answers s
  · obtain ⟨outcome, -, city, ht, -⟩ := turnOn_of_endsEarly he
    rw [ht]
    exact ⟨.inl rfl, fun _ => rfl⟩
  · obtain ⟨jServer, wgConfig, -, ht⟩ := turnOn_of_not_endsEarly he
    rw [ht]
    obtain ⟨-, -, hh⟩ | ⟨-, ho, hh⟩ := replaceTunnel_health json answers jServer wgConfig
    · exact ⟨.inl hh, fun _ => hh⟩
    · exact ⟨.inr ⟨_, _, _, _, _, hh⟩, fun h => by cases ho.symm.trans h⟩

variable (wg forceFallBack answers) in
lemma reconnect_of_some (h : s.storedConfig = some config) : ∃ time,
    (s.reconnect wg forceFallBack answers).2 =
      { (s.turnOn wg config forceFallBack answers).2 with mConnectionTime := time } ∧
    ((s.reconnect wg forceFallBack answers).1 = .error ↔ (s.turnOn wg config forceFallBack answers).1 = .error) := by
  simp only [reconnect, h]
  split_ifs with he hx ht
  · exact ⟨_, rfl, iff_of_true rfl he⟩
  · exact ⟨_, rfl, iff_of_false (by simp) he⟩
  · exact ⟨_, rfl, iff_of_false (by simp) he⟩
  · exact ⟨_, rfl, Iff.rfl⟩
  · exact ⟨_, rfl, Iff.rfl⟩

lemma reconnect_error_iff :
    (s.reconnect wg forceFallBack answers).1 = .error ↔ ReconnectErrs wg forceFallBack answers s := by
  rw [ReconnectErrs]
  cases h : s.storedConfig with
  | none => simp [reconnect, h]
  | some config =>
    obtain ⟨time, -, he⟩ := reconnect_of_some wg forceFallBack answers h
    simpa using he.trans turnOn_error_iff

lemma health_reconnect : ConnectionHealth.Restarted s.mConnectionHealth
    (s.reconnect wg forceFallBack answers).2.mConnectionHealth ∧
      ((s.reconnect wg forceFallBack answers).1 = .error →
        (s.reconnect wg forceFallBack answers).2.mConnectionHealth = s.mConnectionHealth) := by
  cases h : s.storedConfig with
  | none =>
    rw [reconnect, h]
    exact ⟨.inl rfl, fun _ => rfl⟩
  | some config =>
    obtain ⟨time, hs, he⟩ := reconnect_of_some wg forceFallBack answers h
    rw [hs, he]
    exact health_turnOn

end VPNService

namespace Daemon

/-- What is seen of a check: the fallback that it captured, the addresses that it has reached, the times that were read
before a switch, and the time of the switch before. -/
structure Watch where
  fallback : String := ""
  reached : List String := []
  passed : ℕ := 0
  switchTime : ℕ := 0
  lastSwitch : Option ℕ := none

namespace Watch

def reach (address : String) (probe : Probe) (w : Watch) : Watch :=
  if probe.reachable && !probe.throws then { w with reached := address :: w.reached } else w

def observe (h : ConnectionHealth) (probe : Probe) (w : Watch) : Check → Watch
  | .capture => { w with fallback := h.mAltEndpoint, reached := [] }
  | .reachGateway captured _ => w.reach captured.gateway probe
  | .reachDNS captured _ _ => w.reach captured.dns probe
  | .reachEndpoint captured _ _ => w.reach captured.endpoint probe
  | .anyNetwork captured _ => w.reach captured.endpoint probe
  | .reachFallback captured => w.reach captured.fallbackEndpoint probe
  | .cooldown => { w with passed := probe.now }
  | .delaySwitch => { w with switchTime := probe.now }
  | .reconnectFallback => { w with lastSwitch := some w.switchTime }
  | _ => w

end Watch

def observeCheck (d : Daemon) : Event → Watch → Watch
  | .check probe, w => (d.check.map (w.observe d.service.mConnectionHealth probe)).getD w
  | _, w => w

/-- The task timer runs, or a check is submitted, waits or runs. -/
def Pending (d : Daemon) : Prop :=
  d.service.mConnectionHealth.mTaskTimer = true ∨ d.submitting = true ∨ 0 < d.queue ∨ d.check ≠ none

def Monitored (d : Daemon) : Prop := d.service.mConnectionHealth.mActive = true → d.Pending

/-- The server that `getNextServerConfig` would select is another one of the config, and the check has reached it. -/
def Reached (p : Daemon × Watch) : Prop :=
  ∃ config ∈ p.1.service.storedConfig, 2 ≤ config.servers.length ∧
    ∃ server ∈ (p.1.service.getNextServerConfig config true).1, server.ipv4AddrIn ∈ p.2.reached

/-- The switch before is long ago. -/
def Cooled (p : Daemon × Watch) : Prop :=
  ∀ last ∈ p.2.lastSwitch, last + ConnectionHealth.SERVER_SWITCH_COOLDOWN_MINUTES ≤ p.2.switchTime

def Switches (d : Daemon) : Event → Bool
  | .check _ => d.check = some .reconnectFallback
  | _ => false

def Watchful (wg : WireGuard) (p : Daemon × Watch) (e : Event) : Prop :=
  (p.1.step wg e).Monitored ∧ (p.1.Switches e = true → Reached p ∧ Cooled p)

instance : DecidablePred Monitored := fun _ => inferInstanceAs (Decidable (_ → _ ∨ _ ∨ _ ∨ _))

instance : DecidablePred Reached := fun _ => inferInstanceAs (Decidable (∃ _ ∈ _, _ ∧ ∃ _ ∈ _, _))

instance : DecidablePred Cooled := fun _ => inferInstanceAs (Decidable (∀ _ ∈ _, _))

instance (p : Daemon × Watch) (e : Event) : Decidable (Watchful wg p e) :=
  inferInstanceAs (Decidable (_ ∧ (_ → _ ∧ _)))

/-- The check is over without starting the timer again. -/
def EndsSilently (wg : WireGuard) (probe : Probe) (s : VPNService) : Check → Prop
  | .readNetwork _ => s.mConnectionHealth.mVPNNetwork = none
  | .reachGateway .. | .reachDNS .. | .reachEndpoint .. | .anyNetwork .. | .reachFallback _ => probe.throws = true
  | .reconnect => VPNService.ReconnectErrs wg false probe.answers s
  | .reconnectFallback => VPNService.ReconnectErrs wg true probe.answers s
  | _ => False

instance {probe : Probe} {s : VPNService} : (check : Check) → Decidable (EndsSilently wg probe s check)
  | .readNetwork _ | .reachGateway .. | .reachDNS .. | .reachEndpoint .. | .anyNetwork .. | .reachFallback _ =>
    inferInstanceAs (Decidable (_ = _))
  | .reconnect | .reconnectFallback => inferInstanceAs (Decidable (VPNService.ReconnectErrs ..))
  | .capture | .networkCapabilities .. | .clearReset | .readReset .. | .cooldown | .delaySwitch | .setReset | .panic
  | .taskDone | .startTimer => inferInstanceAs (Decidable False)

/-- The health is not active, or something else goes on beside the check. -/
def Spared (d : Daemon) : Prop :=
  d.service.mConnectionHealth.mActive = true →
    d.service.mConnectionHealth.mTaskTimer = true ∨ d.submitting = true ∨ 0 < d.queue

/-- The config has another server, and the one after the current one has the address that was captured as fallback. -/
def Aligned (p : Daemon × Watch) : Prop :=
  ∃ config ∈ p.1.service.storedConfig, 2 ≤ config.servers.length ∧
    ∃ server ∈ config.servers[p.1.service.nextServerConfig config true]?, server.ipv4AddrIn = p.2.fallback

/-- No check ends silently, the clock does not go back before a switch, and a switch finds its fallback next. -/
def Orderly (wg : WireGuard) (p : Daemon × Watch) : Event → Prop
  | .check probe => ∀ check ∈ p.1.check, (EndsSilently wg probe p.1.service check → p.1.Spared) ∧
      (check = .delaySwitch → p.2.passed ≤ probe.now) ∧ (check = .reconnectFallback → Aligned p)
  | _ => True

instance : DecidablePred Spared := fun _ => inferInstanceAs (Decidable (_ → _ ∨ _ ∨ _))

instance : DecidablePred Aligned := fun _ => inferInstanceAs (Decidable (∃ _ ∈ _, _ ∧ ∃ _ ∈ _, _))

instance (p : Daemon × Watch) : (e : Event) → Decidable (Orderly wg p e)
  | .check _ => inferInstanceAs (Decidable (∀ _ ∈ _, (_ → _) ∧ (_ → _) ∧ (_ → _)))
  | .activate .. | .resumeActivate _ | .reactivate _ | .deactivate | .silentServerSwitch _ | .clearStorage
  | .lastCallTransaction | .onStartCommand .. | .onRevoke | .onAvailable _ | .onLost | .onFinish | .submit | .work =>
    inferInstanceAs (Decidable True)

variable {d : Daemon} {w : Watch} {e : Event} {probe : Probe}

lemma Monitored.of_restarted {service : VPNService} (h : d.Monitored)
    (hr : ConnectionHealth.Restarted d.service.mConnectionHealth service.mConnectionHealth) :
    Monitored { d with service } :=
  fun ha => hr.monitored h ha

lemma monitored_turnOff : Monitored { d with service := d.service.turnOff } :=
  fun ha => absurd (ha.symm.trans (ConnectionHealth.inactive_stop _)) (by decide)

variable (wg d) in
lemma restarted_of_activates (ha : Activates e = true) : ∃ service mResumeConfig,
    d.step wg e = { d with service, mResumeConfig } ∧
      ConnectionHealth.Restarted d.service.mConnectionHealth service.mConnectionHealth := by
  cases e with
  | activate config permission answers =>
    rw [step, activate]
    split
    · exact ⟨_, _, rfl, .inl rfl⟩
    · exact ⟨_, _, rfl, VPNService.health_turnOn.1⟩
  | resumeActivate answers =>
    rw [step, resumeActivate]
    split
    · exact ⟨_, _, rfl, .inl rfl⟩
    · exact ⟨_, _, rfl, VPNService.health_turnOn.1⟩
  | reactivate answers => exact ⟨_, _, rfl, VPNService.health_reconnect.1⟩
  | silentServerSwitch answers => exact ⟨_, _, rfl, VPNService.health_reconnect.1⟩
  | onStartCommand startOnly answers =>
    rw [step, onStartCommand]
    split
    · exact ⟨_, _, rfl, .inl rfl⟩
    · split
      · exact ⟨_, _, rfl, .inl rfl⟩
      · exact ⟨_, _, rfl, VPNService.health_turnOn.1⟩
  | _ => cases ha

lemma monitored_step (hc : ∀ probe, e ≠ .check probe) (h : d.Monitored) : (d.step wg e).Monitored := by
  by_cases ha : Activates e = true
  · obtain ⟨service, mResumeConfig, he, hr⟩ := restarted_of_activates wg d ha
    rw [he]
    exact h.of_restarted hr
  cases e with
  | activate | resumeActivate | reactivate | silentServerSwitch | onStartCommand => exact absurd rfl ha
  | deactivate | lastCallTransaction | onRevoke => exact monitored_turnOff
  | clearStorage => exact h
  | onAvailable network =>
    rw [step, Check.withHealth, ConnectionHealth.onAvailable]
    split_ifs <;> exact h
  | onLost =>
    rw [step, Check.withHealth, ConnectionHealth.onLost]
    split_ifs <;> exact h
  | onFinish =>
    rw [step, onFinish]
    split_ifs
    · intro hm
      exact .inr (.inl (by simp [show d.service.mConnectionHealth.mActive = true from hm]))
    · exact h
  | submit =>
    rw [step, submit]
    split_ifs
    · exact fun _ => .inr (.inr (.inl (Nat.succ_pos _)))
    · exact h
  | work =>
    rw [step, work]
    split_ifs
    · exact fun _ => .inr (.inr (.inr (by simp)))
    · exact h
  | check probe => exact absurd rfl (hc probe)

lemma next_of_endsSilently {check : Check} {s : VPNService} (h : EndsSilently wg probe s check) :
    (check.next wg probe s).1 = none ∧ (check.next wg probe s).2.mConnectionHealth = s.mConnectionHealth := by
  cases check with
  | readNetwork captured =>
    rw [Check.next, show s.mConnectionHealth.mVPNNetwork = none from h]
    exact ⟨rfl, rfl⟩
  | reachGateway | reachDNS | reachEndpoint | anyNetwork | reachFallback => exact ⟨if_pos h, rfl⟩
  | reconnect | reconnectFallback =>
    have he := VPNService.reconnect_error_iff.mpr h
    exact ⟨if_pos he, VPNService.health_reconnect.2 he⟩
  | _ => cases h

lemma next_of_not_endsSilently {check : Check} {s : VPNService} (h : ¬EndsSilently wg probe s check) :
    (check.next wg probe s).1 ≠ none ∨ ((check.next wg probe s).2.mConnectionHealth.mActive = true →
      (check.next wg probe s).2.mConnectionHealth.mTaskTimer = true) := by
  cases check with
  | readNetwork captured =>
    rw [Check.next]
    split
    · next hn => exact absurd hn h
    · exact .inl (by simp)
  | reachGateway | anyNetwork | reachEndpoint | reachFallback =>
    refine .inl ?_
    rw [Check.next, if_neg (show ¬probe.throws = true from h)]
    simp
  | reachDNS =>
    refine .inl ?_
    rw [Check.next, if_neg (show ¬probe.throws = true from h)]
    split <;> simp
  | reconnect | reconnectFallback =>
    refine .inl ?_
    rw [Check.next]
    dsimp only
    rw [if_neg fun he => h (VPNService.reconnect_error_iff.mp he)]
    simp
  | taskDone =>
    rw [Check.next]
    split_ifs with ha
    · exact .inl (by simp)
    · exact .inr fun hm => absurd hm ha
  | startTimer => exact .inr fun _ => rfl
  | _ => exact .inl (by simp [Check.next])

lemma monitored_check_iff {check : Check} (hc : d.check = some check) :
    (d.step wg (.check probe)).Monitored ↔ (EndsSilently wg probe d.service check → d.Spared) := by
  rw [step, runCheck, hc]
  by_cases hs : EndsSilently wg probe d.service check
  · obtain ⟨hn, hh⟩ := next_of_endsSilently hs
    simp [Monitored, Pending, Spared, hn, hh, hs]
  · refine iff_of_true (fun ha => ?_) (fun h => absurd h hs)
    obtain hn | ht := next_of_not_endsSilently hs
    · exact .inr (.inr (.inr hn))
    · exact .inl (ht ha)

/-- What a check that is on its way to a switch has seen. -/
def Stage (w : Watch) (nextPossibleServerSwitch : ℕ) : Check → Prop
  | .readNetwork captured | .networkCapabilities captured _ | .reachGateway captured _ | .reachDNS captured _ _
  | .reachEndpoint captured _ _ | .anyNetwork captured _ | .readReset captured _ _ | .reachFallback captured =>
    captured.fallbackEndpoint = w.fallback
  | .cooldown => w.fallback ∈ w.reached
  | .delaySwitch => w.fallback ∈ w.reached ∧ nextPossibleServerSwitch ≤ w.passed
  | .reconnectFallback => w.fallback ∈ w.reached ∧
    w.switchTime + ConnectionHealth.SERVER_SWITCH_COOLDOWN_MINUTES ≤ nextPossibleServerSwitch ∧
    ∀ last ∈ w.lastSwitch, last + ConnectionHealth.SERVER_SWITCH_COOLDOWN_MINUTES ≤ w.switchTime
  | _ => True

structure Inv (p : Daemon × Watch) : Prop where
  monitored : p.1.Monitored
  stage : ∀ check ∈ p.1.check, Stage p.2 p.1.service.mConnectionHealth.nextPossibleServerSwitch check
  cooled : ∀ last ∈ p.2.lastSwitch, last + ConnectionHealth.SERVER_SWITCH_COOLDOWN_MINUTES ≤
    p.1.service.mConnectionHealth.nextPossibleServerSwitch

lemma nextPossibleServerSwitch_turnOff (s : VPNService) :
    s.turnOff.mConnectionHealth.nextPossibleServerSwitch = s.mConnectionHealth.nextPossibleServerSwitch := by
  rw [VPNService.turnOff, VPNService.wgTurnOff, ConnectionHealth.stop]
  split_ifs <;> rfl

variable (wg) in
lemma frame_step (hc : ∀ probe, e ≠ .check probe) :
    ((d.step wg e).check = d.check ∨ (d.step wg e).check = some .capture) ∧
      (d.step wg e).service.mConnectionHealth.nextPossibleServerSwitch =
        d.service.mConnectionHealth.nextPossibleServerSwitch := by
  by_cases ha : Activates e = true
  · obtain ⟨service, mResumeConfig, he, hr⟩ := restarted_of_activates wg d ha
    rw [he]
    exact ⟨.inl rfl, hr.nextPossibleServerSwitch⟩
  cases e with
  | activate | resumeActivate | reactivate | silentServerSwitch | onStartCommand => exact absurd rfl ha
  | deactivate | lastCallTransaction | onRevoke => exact ⟨.inl rfl, nextPossibleServerSwitch_turnOff _⟩
  | clearStorage => exact ⟨.inl rfl, rfl⟩
  | onAvailable network =>
    rw [step, Check.withHealth, ConnectionHealth.onAvailable]
    split_ifs <;> exact ⟨.inl rfl, rfl⟩
  | onLost =>
    rw [step, Check.withHealth, ConnectionHealth.onLost]
    split_ifs <;> exact ⟨.inl rfl, rfl⟩
  | onFinish =>
    rw [step, onFinish]
    split_ifs <;> exact ⟨.inl rfl, rfl⟩
  | submit =>
    rw [step, submit]
    split_ifs <;> exact ⟨.inl rfl, rfl⟩
  | work =>
    rw [step, work]
    split_ifs
    · exact ⟨.inr rfl, rfl⟩
    · exact ⟨.inl rfl, rfl⟩
  | check probe => exact absurd rfl (hc probe)

lemma observeCheck_of_ne (hc : ∀ probe, e ≠ .check probe) : d.observeCheck e w = w := by
  cases e with
  | check probe => exact absurd rfl (hc probe)
  | _ => rfl

lemma Watch.fallback_reach (address : String) : (w.reach address probe).fallback = w.fallback := by
  rw [reach]
  split <;> rfl

lemma Watch.lastSwitch_reach (address : String) : (w.reach address probe).lastSwitch = w.lastSwitch := by
  rw [reach]
  split <;> rfl

lemma Watch.mem_reach {address : String} (hr : probe.reachable = true) (ht : ¬probe.throws = true) :
    address ∈ (w.reach address probe).reached := by
  simp [reach, hr, ht]

variable (wg) in
lemma stage_next {check : Check} {s : VPNService}
    (hs : Stage w s.mConnectionHealth.nextPossibleServerSwitch check)
    (hl : ∀ last ∈ w.lastSwitch, last + ConnectionHealth.SERVER_SWITCH_COOLDOWN_MINUTES ≤
      s.mConnectionHealth.nextPossibleServerSwitch)
    (hp : check = .delaySwitch → w.passed ≤ probe.now) :
    (∀ next ∈ (check.next wg probe s).1, Stage (w.observe s.mConnectionHealth probe check)
        (check.next wg probe s).2.mConnectionHealth.nextPossibleServerSwitch next) ∧
      ∀ last ∈ (w.observe s.mConnectionHealth probe check).lastSwitch,
        last + ConnectionHealth.SERVER_SWITCH_COOLDOWN_MINUTES ≤
          (check.next wg probe s).2.mConnectionHealth.nextPossibleServerSwitch := by
  cases check with
  | capture =>
    refine ⟨?_, hl⟩
    rintro next ⟨⟩
    rfl
  | readNetwork captured =>
    rw [Check.next]
    split
    · exact ⟨by simp, hl⟩
    · refine ⟨?_, hl⟩
      rintro next ⟨⟩
      exact hs
  | networkCapabilities captured vpnNetwork =>
    refine ⟨?_, hl⟩
    rintro next ⟨⟩
    split_ifs
    · exact hs
    · trivial
  | reachGateway captured vpnNetwork =>
    rw [Check.next, Watch.observe, Watch.lastSwitch_reach]
    refine ⟨?_, hl⟩
    split_ifs
    · simp
    · rintro next ⟨⟩
      exact hs.trans (Watch.fallback_reach _).symm
  | reachDNS captured vpnNetwork canReachGateway =>
    rw [Check.next, Watch.observe, Watch.lastSwitch_reach]
    refine ⟨?_, hl⟩
    split_ifs
    · simp
    · rintro next ⟨⟩
      rw [Check.reached]
      split_ifs
      · trivial
      · exact hs.trans (Watch.fallback_reach _).symm
    · rintro next ⟨⟩
      exact hs.trans (Watch.fallback_reach _).symm
  | reachEndpoint captured vpnNetwork canReachGateway =>
    rw [Check.next, Watch.observe, Watch.lastSwitch_reach]
    refine ⟨?_, hl⟩
    split_ifs
    · simp
    · rintro next ⟨⟩
      rw [Check.reached]
      split_ifs
      · trivial
      · exact hs.trans (Watch.fallback_reach _).symm
  | clearReset =>
    refine ⟨?_, hl⟩
    rintro next ⟨⟩
    trivial
  | anyNetwork captured canReachDNS =>
    rw [Check.next, Watch.observe, Watch.lastSwitch_reach]
    refine ⟨?_, hl⟩
    split_ifs
    · simp
    · rintro next ⟨⟩
      exact hs.trans (Watch.fallback_reach _).symm
  | readReset captured canReachDNS anyNetworkCanConnect =>
    refine ⟨?_, hl⟩
    rintro next ⟨⟩
    split_ifs
    · trivial
    · exact hs
  | reconnect =>
    rw [Check.next]
    dsimp only
    rw [VPNService.health_reconnect.1.nextPossibleServerSwitch]
    refine ⟨?_, hl⟩
    split_ifs
    · simp
    · rintro next ⟨⟩
      trivial
  | reachFallback captured =>
    rw [Check.next, Watch.observe, Watch.lastSwitch_reach]
    refine ⟨?_, hl⟩
    split_ifs with ht hr
    · simp
    · rintro next ⟨⟩
      rw [Stage, Watch.fallback_reach, ← show captured.fallbackEndpoint = w.fallback from hs]
      exact Watch.mem_reach hr ht
    · rintro next ⟨⟩
      trivial
  | cooldown =>
    refine ⟨?_, hl⟩
    rintro next ⟨⟩
    split_ifs with hn
    · trivial
    · exact ⟨hs, not_lt.mp hn⟩
  | delaySwitch =>
    have hn := hs.2.trans (hp rfl)
    refine ⟨?_, fun last hm => ?_⟩
    · rintro next ⟨⟩
      exact ⟨hs.1, le_rfl, fun last hm => (hl last hm).trans hn⟩
    · exact (hl last hm).trans (hn.trans (Nat.le_add_right _ _))
  | reconnectFallback =>
    rw [Check.next]
    dsimp only
    rw [VPNService.health_reconnect.1.nextPossibleServerSwitch]
    refine ⟨?_, ?_⟩
    · split_ifs
      · simp
      · rintro next ⟨⟩
        trivial
    · rintro last ⟨⟩
      exact hs.2.1
  | setReset | panic =>
    refine ⟨?_, hl⟩
    rintro next ⟨⟩
    trivial
  | taskDone =>
    refine ⟨?_, hl⟩
    rw [Check.next]
    split_ifs
    · rintro next ⟨⟩
      trivial
    · simp
  | startTimer => exact ⟨by simp [Check.next], hl⟩

lemma inv_step {p : Daemon × Watch} (h : Inv p) (ho : Orderly wg p e) : Inv (watch (step wg) observeCheck p e) := by
  by_cases hc : ∃ probe, e = .check probe
  · obtain ⟨probe, rfl⟩ := hc
    cases hd : p.1.check with
    | none =>
      simp only [watch, step, runCheck, observeCheck, hd, Option.map_none, Option.getD_none]
      exact h
    | some check =>
      obtain ⟨hm, hn, -⟩ := ho check hd
      have hs := stage_next wg (h.stage check hd) h.cooled hn
      refine ⟨(monitored_check_iff hd).mpr hm, ?_, ?_⟩
      · simpa only [watch, step, runCheck, observeCheck, hd, Option.map_some, Option.getD_some] using hs.1
      · simpa only [watch, step, runCheck, observeCheck, hd, Option.map_some, Option.getD_some] using hs.2
  · have hc := not_exists.mp hc
    obtain ⟨hcheck, hnext⟩ := frame_step wg (d := p.1) hc
    refine ⟨monitored_step hc h.monitored, ?_, ?_⟩
    · simp only [watch, observeCheck_of_ne hc, hnext]
      rcases hcheck with hcheck | hcheck <;> rw [hcheck]
      · exact h.stage
      · rintro check ⟨⟩
        trivial
    · simp only [watch, observeCheck_of_ne hc, hnext]
      exact h.cooled

lemma watchful_step {p : Daemon × Watch} (h : Inv p) (ho : Orderly wg p e) : Watchful wg p e := by
  refine ⟨(inv_step h ho).monitored, fun hs => ?_⟩
  cases e with
  | check probe =>
    have hd : p.1.check = some .reconnectFallback := of_decide_eq_true hs
    obtain ⟨hr, -, hl⟩ := h.stage _ hd
    obtain ⟨config, hc, hn, server, hm, ha⟩ := (ho _ hd).2.2 rfl
    refine ⟨⟨config, hc, hn, server, ?_, ?_⟩, hl⟩
    · rwa [VPNService.getNextServerConfig_eq]
    · rwa [ha]
  | _ => cases hs

/-- While no check ends silently, the clock does not go back before a switch and a switch finds its fallback next, the
health stays monitored, and each switch is to another server that the check has reached, at its time. -/
theorem watchful_of_orderly (wg : WireGuard) (lastConf : Option ClientConfig) (events : List Event)
    (h : Meets (watch (step wg) observeCheck) (Orderly wg) ({ service := { lastConf } }, {}) events) :
    Meets (watch (step wg) observeCheck) (Watchful wg) ({ service := { lastConf } }, {}) events :=
  h.along (P := Inv) (fun _ _ hi ho => inv_step hi ho) (fun _ _ hi ho => watchful_step hi ho)
    ⟨by simp [Monitored], by simp, by simp⟩

/-- The steps of a check that switches to the second of two servers, and then starts the timer again. -/
def switching : List Event :=
  [.activate VPNService.twoServers true (VPNService.granted .tun), .onAvailable ⟨1⟩, .onFinish, .submit, .work,
    .check (answered true), .check (answered true), .check (answered true), .check (answered false),
    .check (answered false), .check (answered false), .check (answered false), .check (answered true),
    .check (answered true), .check { answered true with now := 20 }, .check { answered true with now := 20 },
    .check (answered true), .check (answered true), .check (answered true), .check (answered true)]

theorem watchful_switching :
    Meets (watch (step VPNService.literal) observeCheck) (Watchful VPNService.literal) ({}, {}) switching :=
  watchful_of_orderly VPNService.literal none switching (by decide +kernel)

def threeServers : ClientConfig :=
  { VPNService.twoServers with
    servers := VPNService.twoServers.servers ++ [⟨"198.51.100.3", "10.64.0.1", "51820", "third"⟩]
    nonempty := by decide }

/-- Without a VPN network the check is over and nothing starts the next one, and from the second of three servers a
check that has reached the first one switches to the third. -/
theorem unwatched_checks :
    ¬Meets (watch (step VPNService.literal) observeCheck) (Watchful VPNService.literal) ({}, {})
        [.activate VPNService.twoServers true (VPNService.granted .tun), .onAvailable ⟨1⟩, .onFinish, .submit,
          .onLost, .work, .check (answered false), .check (answered false)] ∧
      ¬Meets (watch (step VPNService.literal) observeCheck) (Watchful VPNService.literal) ({}, {})
        [.activate threeServers true (VPNService.granted .tun), .silentServerSwitch (VPNService.granted .tun),
          .onAvailable ⟨1⟩, .onFinish, .submit, .work, .check (answered true), .check (answered true),
          .check (answered true), .check (answered false), .check (answered false), .check (answered false),
          .check (answered false), .check (answered true), .check (answered true),
          .check { answered true with now := 20 }, .check { answered true with now := 20 },
          .check (answered true)] := by
  constructor
  · decide +kernel
  · decide +kernel

end Daemon

end VpnClient.Android
