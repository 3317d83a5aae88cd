import Mathlib.Tactic
import VpnClient.Android.ServerChoice
import VpnClient.Android.TaskCheckConnection
import VpnClient.Library.Runs

/-! What brings the tunnel up while the service is turned off. -/

namespace VpnClient.Android

open Library.Runs

variable {wg : WireGuard}

namespace Check

/-- The check has no reconnect before it. -/
def past : Check → Bool
  | .clearReset | .setReset | .panic | .taskDone | .startTimer => true
  | _ => false

/-- The check has not yet looked for the network. -/
def begins : Check → Bool
  | .capture | .readNetwork _ => true
  | _ => false

/-- How far the check is from its last reconnect. -/
def rank : Check → ℕ
  | .capture => 11
  | .readNetwork _ => 10
  | .networkCapabilities .. => 9
  | .reachGateway .. => 8
  | .reachDNS .. => 7
  | .reachEndpoint .. => 6
  | .anyNetwork .. => 5
  | .readReset .. => 4
  | .reachFallback _ => 3
  | .cooldown => 2
  | .delaySwitch => 1
  | _ => 0

end Check

namespace ConnectionHealth

variable (h : ConnectionHealth)

lemma inactive_stop : h.stop.mActive = false := by
  rw [stop]
  cases ha : h.mActive <;> simp [ha]

lemma mVPNNetwork_stop : h.stop.mVPNNetwork = h.mVPNNetwork := by
  rw [stop]
  split_ifs <;> rfl

lemma mResetUsed_stop : h.stop.mResetUsed = h.mResetUsed := by
  rw [stop]
  split_ifs <;> rfl

variable {h}

lemma stop_of_inactive (ha : h.mActive = false) : h.stop = h := if_pos (by rw [ha]; rfl)

lemma registered_start (hr : h.networkCallback = h.mActive) (sdk : ℕ) (endpoint gateway dns altEndpoint : String) :
    (h.start sdk endpoint gateway dns altEndpoint).networkCallback =
      (h.start sdk endpoint gateway dns altEndpoint).mActive := by
  rw [start]
  dsimp only
  split_ifs
  · exact hr
  · exact hr
  · rfl

lemma registered_stop (hr : h.networkCallback = h.mActive) : h.stop.networkCallback = h.stop.mActive := by
  rw [stop]
  split_ifs
  · exact hr
  · rfl

end ConnectionHealth

namespace VPNService

variable {s : VPNService} {json config : ClientConfig} {useFallbackServer : Bool} {answers : Answers}

/-- The callback for the network is registered while the health is active. -/
def Registered (s : VPNService) : Prop := s.mConnectionHealth.networkCallback = s.mConnectionHealth.mActive

variable (wg s json useFallbackServer answers) in
lemma frame_prepare : (s.prepare wg json useFallbackServer answers).2.turnOns = s.turnOns ∧
    (s.prepare wg json useFallbackServer answers).2.mConnectionHealth = s.mConnectionHealth := by
  have hn : (s.getNextServerConfig json useFallbackServer).2.turnOns = s.turnOns ∧
      (s.getNextServerConfig json useFallbackServer).2.mConnectionHealth = s.mConnectionHealth := by
    cases useFallbackServer <;> exact ⟨rfl, rfl⟩
  rw [prepare]
  dsimp only
  split
  · exact hn
  · split_ifs
    · exact hn
    · exact hn
    · exact hn
    · exact hn
    · split <;> exact hn

lemma turnOns_replaceTunnel (jServer : Server) (wgConfig : String) :
    (s.replaceTunnel json jServer wgConfig answers).2.turnOns = s.turnOns := by
  rw [replaceTunnel, wgTurnOff, wgTurnOn]
  dsimp only
  split_ifs <;> rfl

lemma registered_replaceTunnel (h : s.Registered) (jServer : Server) (wgConfig : String) :
    (s.replaceTunnel json jServer wgConfig answers).2.Registered := by
  rw [replaceTunnel, wgTurnOff, wgTurnOn]
  dsimp only
  split_ifs
  all_goals first | exact h | exact ConnectionHealth.registered_start h ..

lemma turnOns_turnOn : (s.turnOn wg json useFallbackServer answers).2.turnOns = s.turnOns + 1 := by
  have hp := (frame_prepare wg { s with turnOns := s.turnOns + 1 } json useFallbackServer answers).1
  unfold turnOn
  dsimp only
  split
  · next he => exact (congrArg (fun r => r.2.turnOns) he).symm.trans hp
  · next he => exact (turnOns_replaceTunnel _ _).trans ((congrArg (fun r => r.2.turnOns) he).symm.trans hp)

lemma Registered.turnOn (h : s.Registered) : (s.turnOn wg json useFallbackServer answers).2.Registered := by
  have hp : ({ s with turnOns := s.turnOns + 1 }.prepare wg json useFallbackServer answers).2.Registered := by
    rw [Registered, (frame_prepare wg { s with turnOns := s.turnOns + 1 } json useFallbackServer answers).2]
    exact h
  unfold VPNService.turnOn
  dsimp only
  split
  · next he =>
    rw [he] at hp
    exact hp
  · next he =>
    rw [he] at hp
    exact registered_replaceTunnel hp _ _

lemma Registered.reconnect (h : s.Registered) : (s.reconnect wg useFallbackServer answers).2.Registered := by
  cases hc : s.storedConfig with
  | none =>
    rw [VPNService.reconnect, hc]
    exact h
  | some config =>
    have ht : (s.turnOn wg config useFallbackServer answers).2.Registered := h.turnOn
    simp only [VPNService.reconnect, hc]
    split_ifs <;> exact ht

lemma reconnect_of_none (h : s.storedConfig = none) : (s.reconnect wg useFallbackServer answers).2 = s := by
  rw [reconnect, h]

lemma turnOns_reconnect_of_some (h : s.storedConfig = some config) :
    (s.reconnect wg useFallbackServer answers).2.turnOns = s.turnOns + 1 := by
  simp only [reconnect, h]
  split_ifs <;> exact turnOns_turnOn

lemma turnOns_reconnect_iff :
    (s.reconnect wg useFallbackServer answers).2.turnOns = s.turnOns ↔ s.storedConfig = none := by
  cases h : s.storedConfig with
  | none => exact iff_of_true (congrArg turnOns (reconnect_of_none h)) rfl
  | some config =>
    rw [turnOns_reconnect_of_some h]
    simp

variable (s) in
lemma frame_turnOff : s.turnOff.turnOns = s.turnOns ∧ s.turnOff.storedConfig = s.storedConfig ∧
    s.turnOff.mConnectionHealth = s.mConnectionHealth.stop := by
  rw [turnOff, wgTurnOff]
  split_ifs <;> exact ⟨rfl, rfl, rfl⟩

lemma Registered.turnOff (h : s.Registered) : s.turnOff.Registered := by
  rw [Registered, s.frame_turnOff.2.2]
  exact ConnectionHealth.registered_stop h

end VPNService

namespace Daemon

variable {d : Daemon} {off : Bool} {e : Event} {probe : Probe}

/-- The calls that are meant to bring the tunnel up. -/
def Activates : Event → Bool
  | .activate .. | .resumeActivate _ | .reactivate _ | .silentServerSwitch _ | .onStartCommand .. => true
  | _ => false

def TurnsOff : Event → Bool
  | .deactivate | .lastCallTransaction | .onRevoke => true
  | _ => false

/-- Whether the tunnel was turned off since the last activation. -/
def observe (_ : Daemon) (e : Event) (off : Bool) : Bool :=
  if Activates e then false else if TurnsOff e then true else off

/-- While the service is turned off only an activation calls `turnOn`. -/
def Sound (wg : WireGuard) (p : Daemon × Bool) (e : Event) : Prop :=
  p.2 = true → Activates e = false → (p.1.step wg e).service.turnOns = p.1.service.turnOns

/-- The check is about to reconnect. -/
def Reconnects (d : Daemon) : Prop := d.check = some .reconnect ∨ d.check = some .reconnectFallback

/-- Whatever is answered to it, the running check will reconnect. -/
def Bound (d : Daemon) : Bool :=
  match d.check with
  | some (.readReset _ canReachDNS anyNetworkCanConnect) =>
    anyNetworkCanConnect && canReachDNS && !d.service.mConnectionHealth.mResetUsed
  | some .reconnect | some .delaySwitch | some .reconnectFallback => true
  | _ => false

/-- The answer keeps a check from its reconnects: where the DNS was reached some network was not, or the reset was used
already, and the cooldown is not over. -/
def Spares (d : Daemon) (probe : Probe) : Bool :=
  match d.check with
  | some (.anyNetwork _ canReachDNS) =>
    probe.throws || !probe.reachable || !canReachDNS || d.service.mConnectionHealth.mResetUsed
  | some .cooldown => probe.now < d.service.mConnectionHealth.nextPossibleServerSwitch
  | _ => true

/-- With a config to reconnect with, the service is not turned off under a check that will reconnect, and what is
answered to a check after that spares it. -/
def StaysSpared (p : Daemon × Bool) (e : Event) : Prop :=
  p.1.service.storedConfig = none ∨
    (TurnsOff e = true → p.1.Bound = false) ∧ ∀ probe, e = .check probe → p.2 = true → p.1.Spares probe = true

variable (wg probe) in
lemma turnOns_next {check : Check} (s : VPNService) (h : check ≠ .reconnect ∧ check ≠ .reconnectFallback) :
    (check.next wg probe s).2.turnOns = s.turnOns := by
  cases check <;> try rfl
  case readNetwork captured =>
    rw [Check.next]
    split <;> rfl
  case reconnect => exact absurd rfl h.1
  case reconnectFallback => exact absurd rfl h.2

lemma turnOns_runCheck_iff : (d.runCheck wg probe).service.turnOns = d.service.turnOns ↔
    (d.Reconnects → d.service.storedConfig = none) := by
  rw [runCheck, Reconnects]
  cases hc : d.check with
  | none => simp
  | some check =>
    by_cases h : check = .reconnect ∨ check = .reconnectFallback
    · have hr : (check.next wg probe d.service).2.turnOns = d.service.turnOns ↔ d.service.storedConfig = none := by
        rcases h with rfl | rfl <;> exact VPNService.turnOns_reconnect_iff
      simpa [h] using hr
    · have hn := turnOns_next wg probe d.service (not_or.mp h)
      simpa [h] using hn

lemma turnOns_step (ha : Activates e = false) (hc : ∀ probe, e ≠ .check probe) :
    (d.step wg e).service.turnOns = d.service.turnOns := by
  cases e with
  | activate | resumeActivate | reactivate | silentServerSwitch | onStartCommand => cases ha
  | deactivate | lastCallTransaction | onRevoke => exact (VPNService.frame_turnOff _).1
  | clearStorage | onAvailable | onLost => rfl
  | onFinish =>
    rw [step, onFinish]
    split <;> rfl
  | submit =>
    rw [step, submit]
    split <;> rfl
  | work =>
    rw [step, work]
    split <;> rfl
  | check probe => exact absurd rfl (hc probe)

instance (p : Daemon × Bool) (e : Event) : Decidable (Sound wg p e) := inferInstanceAs (Decidable (_ → _ → _))

/-- What a step that does not call `turnOn` leaves as it is, once the service is turned off. -/
structure Calm (s t : VPNService) : Prop where
  storedConfig : t.storedConfig = s.storedConfig
  turnOns : t.turnOns = s.turnOns
  mActive : t.mConnectionHealth.mActive = s.mConnectionHealth.mActive
  networkCallback : t.mConnectionHealth.networkCallback = s.mConnectionHealth.networkCallback
  mVPNNetwork : t.mConnectionHealth.mVPNNetwork = s.mConnectionHealth.mVPNNetwork

lemma Calm.refl (s : VPNService) : Calm s s := ⟨rfl, rfl, rfl, rfl, rfl⟩

variable (wg probe) in
lemma calm_next {check : Check} (s : VPNService)
    (h : s.storedConfig = none ∨ check ≠ .reconnect ∧ check ≠ .reconnectFallback) :
    Calm s (check.next wg probe s).2 := by
  cases check with
  | readNetwork captured =>
    rw [Check.next]
    split <;> exact .refl s
  | reconnect =>
    rw [Check.next, VPNService.reconnect_of_none (h.resolve_right fun hn => hn.1 rfl)]
    exact .refl s
  | reconnectFallback =>
    rw [Check.next, VPNService.reconnect_of_none (h.resolve_right fun hn => hn.2 rfl)]
    exact .refl s
  | _ => exact ⟨rfl, rfl, rfl, rfl, rfl⟩

/-- No check that is submitted, queued or running can reconnect: there is no config for it, those that begin find no
network, and no other is before its reconnects. -/
def Harmless (d : Daemon) : Prop :=
  d.service.storedConfig = none ∨
    (∀ check, d.check = some check →
      check.past = true ∨ check.begins = true ∧ d.service.mConnectionHealth.mVPNNetwork = none) ∧
    (d.submitting = false ∧ d.queue = 0 ∨ d.service.mConnectionHealth.mVPNNetwork = none)

/-- The service is turned off, and no check can reconnect. -/
structure Off (d : Daemon) : Prop where
  inactive : d.service.mConnectionHealth.mActive = false
  unregistered : d.service.mConnectionHealth.networkCallback = false
  harmless : d.Harmless

lemma Off.calm {t : VPNService} (h : d.Off) (hc : Calm d.service t) : Off { d with service := t } where
  inactive := hc.mActive.trans h.inactive
  unregistered := hc.networkCallback.trans h.unregistered
  harmless := by
    have hh := h.harmless
    rw [Harmless, ← hc.storedConfig, ← hc.mVPNNetwork] at hh
    exact hh

lemma calm_turnOff {s : VPNService} (h : s.mConnectionHealth.mActive = false) : Calm s s.turnOff := by
  obtain ⟨ht, hc, hh⟩ := s.frame_turnOff
  rw [ConnectionHealth.stop_of_inactive h] at hh
  exact ⟨hc, ht, by rw [hh], by rw [hh], by rw [hh]⟩

lemma withHealth_self {s : VPNService} {f : ConnectionHealth → ConnectionHealth}
    (h : f s.mConnectionHealth = s.mConnectionHealth) : Check.withHealth s f = s := by
  rw [Check.withHealth, h]

variable (wg probe) in
/-- A check that begins without a network ends, and one that is past its reconnects stays past them. -/
lemma next_harmless {check next : Check} {s : VPNService}
    (h : check.past = true ∨ check.begins = true ∧ s.mConnectionHealth.mVPNNetwork = none)
    (hn : (check.next wg probe s).1 = some next) :
    next.past = true ∨ next.begins = true ∧ s.mConnectionHealth.mVPNNetwork = none := by
  cases check with
  | capture => exact .inr ⟨by rw [← Option.some.inj hn]; rfl, (h.resolve_left Bool.false_ne_true).2⟩
  | readNetwork captured =>
    rw [Check.next, (h.resolve_left Bool.false_ne_true).2] at hn
    cases hn
  | clearReset | setReset | panic => exact .inl (by rw [← Option.some.inj hn]; rfl)
  | taskDone =>
    rw [Check.next] at hn
    split_ifs at hn
    · exact .inl (by rw [← Option.some.inj hn]; rfl)
  | startTimer => cases hn
  | _ => exact absurd h (by simp [Check.past, Check.begins])

lemma Off.runCheck (h : d.Off) :
    (d.runCheck wg probe).Off ∧ (d.runCheck wg probe).service.turnOns = d.service.turnOns := by
  rw [Daemon.runCheck]
  cases hc : d.check with
  | none => exact ⟨h, rfl⟩
  | some check =>
    have hn : d.service.storedConfig = none ∨ check ≠ .reconnect ∧ check ≠ .reconnectFallback := by
      refine h.harmless.imp id fun hh => ?_
      have hp := hh.1 check hc
      exact ⟨fun he => by simp [he, Check.past, Check.begins] at hp,
        fun he => by simp [he, Check.past, Check.begins] at hp⟩
    have hs := calm_next wg probe d.service hn
    refine ⟨⟨hs.mActive.trans h.inactive, hs.networkCallback.trans h.unregistered, ?_⟩, hs.turnOns⟩
    apply h.harmless.imp hs.storedConfig.trans
    rintro ⟨hr, hw⟩
    refine ⟨fun next he => ?_, hw.imp id hs.mVPNNetwork.trans⟩
    exact (next_harmless wg probe (hr check hc) he).imp id (And.imp id hs.mVPNNetwork.trans)

variable (wg) in
lemma Off.step (h : d.Off) (ha : Activates e = false) :
    (d.step wg e).Off ∧ (d.step wg e).service.turnOns = d.service.turnOns := by
  cases e with
  | activate | resumeActivate | reactivate | silentServerSwitch | onStartCommand => cases ha
  | deactivate | lastCallTransaction | onRevoke =>
    exact ⟨h.calm (calm_turnOff h.inactive), (VPNService.frame_turnOff _).1⟩
  | clearStorage => exact ⟨⟨h.inactive, h.unregistered, .inl rfl⟩, rfl⟩
  | onAvailable network =>
    have hs := withHealth_self (s := d.service) (f := (·.onAvailable network)) (if_neg (by simp [h.unregistered]))
    rw [Daemon.step, hs]
    exact ⟨h, rfl⟩
  | onLost =>
    have hs := withHealth_self (s := d.service) (f := (·.onLost)) (if_neg (by simp [h.unregistered]))
    rw [Daemon.step, hs]
    exact ⟨h, rfl⟩
  | onFinish =>
    rw [Daemon.step, onFinish]
    split
    · rw [h.inactive, Bool.or_false]
      exact ⟨h.calm ⟨rfl, rfl, rfl, rfl, rfl⟩, rfl⟩
    · exact ⟨h, rfl⟩
  | submit =>
    rw [Daemon.step, submit]
    split_ifs with hs
    · refine ⟨⟨h.inactive, h.unregistered, h.harmless.imp id fun hh => ⟨hh.1, .inr ?_⟩⟩, rfl⟩
      exact hh.2.resolve_left fun hn => absurd (hs.symm.trans hn.1) (by decide)
    · exact ⟨h, rfl⟩
  | work =>
    rw [Daemon.step, work]
    split_ifs with hw
    · have hn (hh : _ ∨ d.service.mConnectionHealth.mVPNNetwork = none) :=
        hh.resolve_left fun hq : d.submitting = false ∧ d.queue = 0 => absurd hq.2 hw.2.ne'
      refine ⟨⟨h.inactive, h.unregistered, h.harmless.imp id fun hh => ⟨fun check hc => ?_, .inr (hn hh.2)⟩⟩, rfl⟩
      exact .inr ⟨by rw [← Option.some.inj hc]; rfl, hn hh.2⟩
    · exact ⟨h, rfl⟩
  | check probe => exact h.runCheck

lemma Off.turnOns_run {events : List Event} (h : d.Off) (ha : ∀ e ∈ events, Activates e = false) :
    (run (Daemon.step wg) d events).service.turnOns = d.service.turnOns := by
  induction events generalizing d with
  | nil => rfl
  | cons e events ih =>
    obtain ⟨he, ha⟩ := List.forall_mem_cons.mp ha
    obtain ⟨ho, ht⟩ := h.step wg he
    exact (ih ho ha).trans ht

/-- Without an activation `turnOn` can be called. -/
def Revives (wg : WireGuard) (d : Daemon) : Prop :=
  ∃ events, (∀ e ∈ events, Activates e = false) ∧ (run (step wg) d events).service.turnOns ≠ d.service.turnOns

lemma Revives.of_step (ha : Activates e = false) (ht : (d.step wg e).service.turnOns = d.service.turnOns)
    (h : Revives wg (d.step wg e)) : Revives wg d := by
  obtain ⟨events, he, hr⟩ := h
  refine ⟨e :: events, List.forall_mem_cons.mpr ⟨ha, he⟩, ?_⟩
  rw [run_cons, ← ht]
  exact hr

/-- The answers that lead a check to its last reconnect: the probes of the first gateway, DNS and endpoint fail, the
fallback is reached, and the cooldown is over. -/
def worst (check : Check) (s : VPNService) : Probe where
  reachable := check.rank = 9 ∨ check.rank = 3
  throws := false
  now := s.mConnectionHealth.nextPossibleServerSwitch
  answers := VPNService.granted .tun

variable (wg) in
lemma next_worst {check : Check} {s : VPNService} (hp : check.past = false)
    (hr : check ≠ .reconnect ∧ check ≠ .reconnectFallback)
    (hb : check.begins = true → s.mConnectionHealth.mVPNNetwork ≠ none) :
    ∃ next, (check.next wg (worst check s) s).1 = some next ∧ next.past = false ∧ next.rank < check.rank ∧
      (next.begins = true → s.mConnectionHealth.mVPNNetwork ≠ none) := by
  have hn {next : Check} (h : next.begins = false) (hb : next.begins = true) :
      s.mConnectionHealth.mVPNNetwork ≠ none := absurd (hb.symm.trans h) (by decide)
  cases check with
  | capture => exact ⟨.readNetwork _, rfl, rfl, Nat.lt_succ_self 10, hb⟩
  | readNetwork captured =>
    obtain ⟨network, hm⟩ := Option.ne_none_iff_exists'.mp (hb rfl)
    exact ⟨.networkCapabilities captured network, by rw [Check.next, hm], rfl, Nat.lt_succ_self 9, hn rfl⟩
  | networkCapabilities captured network =>
    exact ⟨.reachGateway captured network, rfl, rfl, Nat.lt_succ_self 8, hn rfl⟩
  | reachGateway captured network => exact ⟨.reachDNS captured network false, rfl, rfl, Nat.lt_succ_self 7, hn rfl⟩
  | reachDNS captured network canReachGateway =>
    exact ⟨.reachEndpoint captured network canReachGateway, rfl, rfl, Nat.lt_succ_self 6, hn rfl⟩
  | reachEndpoint captured network canReachGateway =>
    exact ⟨.anyNetwork captured false, by cases canReachGateway <;> rfl, rfl, Nat.lt_succ_self 5, hn rfl⟩
  | anyNetwork captured canReachDNS =>
    exact ⟨.readReset captured canReachDNS false, rfl, rfl, Nat.lt_succ_self 4, hn rfl⟩
  | readReset captured canReachDNS anyNetworkCanConnect =>
    rw [Check.next]
    split_ifs
    · exact ⟨.reconnect, rfl, rfl, Nat.zero_lt_succ 3, hn rfl⟩
    · exact ⟨.reachFallback captured, rfl, rfl, Nat.lt_succ_self 3, hn rfl⟩
  | reachFallback captured => exact ⟨.cooldown, rfl, rfl, Nat.lt_succ_self 2, hn rfl⟩
  | cooldown => exact ⟨.delaySwitch, congrArg some (if_neg (lt_irrefl _)), rfl, Nat.lt_succ_self 1, hn rfl⟩
  | delaySwitch => exact ⟨.reconnectFallback, rfl, rfl, Nat.zero_lt_succ 0, hn rfl⟩
  | reconnect => exact absurd rfl hr.1
  | reconnectFallback => exact absurd rfl hr.2
  | clearReset | setReset | panic | taskDone | startTimer => cases hp

/-- A check that has a reconnect before it can be led there. -/
lemma revives_of_check {check : Check} (hc : d.check = some check) (hp : check.past = false)
    (hb : check.begins = true → d.service.mConnectionHealth.mVPNNetwork ≠ none)
    (hs : d.service.storedConfig ≠ none) : Revives wg d := by
  induction hr : check.rank using Nat.strong_induction_on generalizing d check with
  | h n ih =>
    by_cases hx : check = .reconnect ∨ check = .reconnectFallback
    · refine ⟨[.check (worst check d.service)], by simp [Activates], fun ht => hs ?_⟩
      apply turnOns_runCheck_iff.mp ht
      rw [Reconnects, hc]
      exact hx.imp (congrArg some) (congrArg some)
    · obtain ⟨next, hn, hp', hlt, hb'⟩ := next_worst wg hp (not_or.mp hx) hb
      have hf := calm_next wg (worst check d.service) d.service (.inr (not_or.mp hx))
      have hd : d.step wg (.check (worst check d.service)) =
          { d with check := some next, service := (check.next wg (worst check d.service) d.service).2 } := by
        rw [Daemon.step, Daemon.runCheck, hc, ← hn]
      apply Revives.of_step (e := .check (worst check d.service)) rfl
      · rw [hd]
        exact hf.turnOns
      · rw [hd]
        apply ih next.rank (hr ▸ hlt) rfl hp' ?_ ?_ rfl
        · rw [hf.mVPNNetwork]
          exact hb'
        · rw [hf.storedConfig]
          exact hs

/-- A check that waits for the worker can be led there once the worker is free. -/
lemma revives_of_waiting (hc : d.check = none) (hw : ¬(d.submitting = false ∧ d.queue = 0))
    (hb : d.service.mConnectionHealth.mVPNNetwork ≠ none) (hs : d.service.storedConfig ≠ none) : Revives wg d := by
  have hq {d : Daemon} (hc : d.check = none) (hq : 0 < d.queue)
      (hb : d.service.mConnectionHealth.mVPNNetwork ≠ none) (hs : d.service.storedConfig ≠ none) : Revives wg d := by
    have hd : d.step wg .work = { d with queue := d.queue - 1, check := some .capture } := if_pos ⟨hc, hq⟩
    apply Revives.of_step (e := .work) rfl
    · rw [hd]
    · rw [hd]
      exact revives_of_check rfl rfl (fun _ => hb) hs
  cases hn : d.submitting with
  | true =>
    have hd : d.step wg .submit = { d with submitting := false, queue := d.queue + 1 } := if_pos hn
    apply Revives.of_step (e := .submit) rfl
    · rw [hd]
    · rw [hd]
      exact hq hc (Nat.succ_pos _) hb hs
  | false => exact hq hc (Nat.pos_of_ne_zero fun h => hw ⟨hn, h⟩) hb hs

/-- A check that is past its reconnects ends, and leaves the worker to one that waits. -/
lemma revives_of_past {check : Check} (hc : d.check = some check) (hp : check.past = true)
    (ha : d.service.mConnectionHealth.mActive = false) (hw : ¬(d.submitting = false ∧ d.queue = 0))
    (hb : d.service.mConnectionHealth.mVPNNetwork ≠ none) (hs : d.service.storedConfig ≠ none) : Revives wg d := by
  have hd {d : Daemon} {check : Check} (hc : d.check = some check) (probe : Probe) : d.step wg (.check probe) =
      { d with check := (check.next wg probe d.service).1, service := (check.next wg probe d.service).2 } := by
    rw [Daemon.step, Daemon.runCheck, hc]
  let probe := worst check d.service
  have hdone {d : Daemon} (hc : d.check = some .taskDone) (ha : d.service.mConnectionHealth.mActive = false)
      (hw : ¬(d.submitting = false ∧ d.queue = 0)) (hb : d.service.mConnectionHealth.mVPNNetwork ≠ none)
      (hs : d.service.storedConfig ≠ none) : Revives wg d := by
    apply Revives.of_step (e := .check probe) rfl
    · rw [hd hc]
      rfl
    · rw [hd hc]
      refine revives_of_waiting ?_ hw hb hs
      rw [Check.next, ha]
      rfl
  cases check with
  | taskDone => exact hdone hc ha hw hb hs
  | startTimer =>
    apply Revives.of_step (e := .check probe) rfl
    · rw [hd hc]
      rfl
    · rw [hd hc]
      exact revives_of_waiting rfl hw hb hs
  | clearReset | setReset | panic =>
    apply Revives.of_step (e := .check probe) rfl
    · rw [hd hc]
      rfl
    · rw [hd hc]
      exact hdone rfl ha hw hb hs
  | _ => cases hp

variable (wg) in
/-- Once the service is turned off no answers can lead to a call of `turnOn` exactly if no check can reconnect. -/
lemma harmless_iff (ha : d.service.mConnectionHealth.mActive = false)
    (hn : d.service.mConnectionHealth.networkCallback = false) :
    (∀ events, (∀ e ∈ events, Activates e = false) →
      (run (step wg) d events).service.turnOns = d.service.turnOns) ↔ d.Harmless := by
  constructor
  · intro h
    by_contra hh
    obtain ⟨hs, hh⟩ := not_or.mp hh
    suffices hr : Revives wg d by
      obtain ⟨events, he, ht⟩ := hr
      exact ht (h events he)
    rw [not_and_or] at hh
    by_cases hr : ∃ check, d.check = some check ∧ check.past = false ∧
      (check.begins = true → d.service.mConnectionHealth.mVPNNetwork ≠ none)
    · obtain ⟨check, hc, hp, hb⟩ := hr
      exact revives_of_check hc hp hb hs
    · have hp {check : Check} (hc : d.check = some check) :
          check.past = true ∨ check.begins = true ∧ d.service.mConnectionHealth.mVPNNetwork = none := by
        by_contra hq
        obtain ⟨hp, hb⟩ := not_or.mp hq
        exact hr ⟨check, hc, Bool.eq_false_of_not_eq_true hp, fun h hm => hb ⟨h, hm⟩⟩
      obtain ⟨hw, hb⟩ := not_or.mp (hh.resolve_left fun hq => hq fun check hc => hp hc)
      cases hc : d.check with
      | none => exact revives_of_waiting hc hw hb hs
      | some check =>
        obtain hp | hp := hp hc
        · exact revives_of_past hc hp ha hw hb hs
        · exact absurd hp.2 hb
  · exact fun h events he => Off.turnOns_run ⟨ha, hn, h⟩ he

variable (wg probe) in
lemma registered_next {s : VPNService} (h : s.Registered) (check : Check) : (check.next wg probe s).2.Registered := by
  cases check with
  | readNetwork captured =>
    rw [Check.next]
    split <;> exact h
  | reconnect | reconnectFallback => exact h.reconnect
  | _ => exact h

lemma registered_step (h : d.service.Registered) : (d.step wg e).service.Registered := by
  cases e with
  | activate config permission answers =>
    rw [step, activate]
    split_ifs
    · exact h
    · exact h.turnOn
  | resumeActivate answers =>
    rw [step, resumeActivate]
    split
    · exact h
    · exact h.turnOn
  | onStartCommand startOnly answers =>
    rw [step, onStartCommand]
    split_ifs
    · exact h
    · split
      · exact h
      · exact VPNService.Registered.turnOn h
  | reactivate answers | silentServerSwitch answers => exact h.reconnect
  | deactivate | lastCallTransaction | onRevoke => exact h.turnOff
  | clearStorage => exact h
  | onAvailable network =>
    rw [step, Check.withHealth, VPNService.Registered, ConnectionHealth.onAvailable]
    split_ifs <;> exact h
  | onLost =>
    rw [step, Check.withHealth, VPNService.Registered, ConnectionHealth.onLost]
    split_ifs <;> exact h
  | onFinish =>
    rw [step, onFinish]
    split <;> exact h
  | submit =>
    rw [step, submit]
    split <;> exact h
  | work =>
    rw [step, work]
    split <;> exact h
  | check probe =>
    rw [step, runCheck]
    split
    · exact h
    · exact registered_next wg probe h _

lemma step_of_turnsOff (he : TurnsOff e = true) : d.step wg e = { d with service := d.service.turnOff } := by
  cases e with
  | deactivate | lastCallTransaction | onRevoke => rfl
  | _ => cases he

lemma harmless_turnOff : Harmless { d with service := d.service.turnOff } ↔ d.Harmless := by
  obtain ⟨-, hc, hh⟩ := d.service.frame_turnOff
  simp only [Harmless, hc, hh, ConnectionHealth.mVPNNetwork_stop]

lemma bound_turnOff : Bound { d with service := d.service.turnOff } = d.Bound := by
  simp only [Bound, d.service.frame_turnOff.2.2, ConnectionHealth.mResetUsed_stop]

/-- A check that is not bound to reconnect is not bound by an answer that spares it. -/
lemma bound_runCheck (hb : d.Bound = false) (hs : d.Spares probe = true) : (d.runCheck wg probe).Bound = false := by
  rw [Bound] at hb
  rw [Spares] at hs
  rw [runCheck]
  cases hc : d.check with
  | none => simp only [Bound, hc]
  | some check =>
    rw [hc] at hb hs
    cases check with
    | readNetwork captured =>
      simp only [Check.next]
      split <;> rfl
    | networkCapabilities captured network | reachFallback captured =>
      simp only [Check.next]
      split_ifs <;> rfl
    | reachGateway captured network =>
      simp only [Check.next]
      split_ifs <;> rfl
    | reachDNS captured network canReachGateway =>
      simp only [Check.next, Check.reached]
      split_ifs <;> rfl
    | reachEndpoint captured network canReachGateway =>
      simp only [Check.next, Check.reached]
      split_ifs <;> rfl
    | anyNetwork captured canReachDNS =>
      simp only [Check.next]
      split_ifs with ht
      · rfl
      · simp only [ht, Bool.false_or, Bool.or_eq_true, Bool.not_eq_true'] at hs
        obtain (hs | hs) | hs := hs <;> simp [Bound, hs]
    | readReset captured canReachDNS anyNetworkCanConnect =>
      simp only [Check.next]
      rw [if_neg (by simp only [hb, Bool.false_eq_true, not_false_eq_true])]
      rfl
    | cooldown =>
      simp only [Check.next]
      rw [if_pos (of_decide_eq_true hs)]
      rfl
    | taskDone =>
      simp only [Check.next]
      split_ifs <;> rfl
    | reconnect | delaySwitch | reconnectFallback => cases hb
    | capture | clearReset | setReset | panic | startTimer => rfl

/-- While the service is turned off with a config, the running check is not bound to reconnect. -/
def Unbound (p : Daemon × Bool) : Prop := p.2 = true → p.1.service.storedConfig ≠ none → p.1.Bound = false

lemma not_reconnects_of_bound (h : d.Bound = false) : ¬d.Reconnects := by
  rw [Bound] at h
  rintro (hr | hr)
  · rw [hr] at h
    cases h
  · rw [hr] at h
    cases h

lemma sound_of_unbound {p : Daemon × Bool} (h : Unbound p) (e : Event) : Sound wg p e := by
  intro ho ha
  by_cases hc : ∃ probe, e = .check probe
  · obtain ⟨probe, rfl⟩ := hc
    apply turnOns_runCheck_iff.mpr
    intro hr
    by_contra hs
    exact not_reconnects_of_bound (h ho hs) hr
  · exact turnOns_step ha (not_exists.mp hc)

lemma bound_step (ha : Activates e = false) (ht : TurnsOff e = false)
    (h : d.service.storedConfig ≠ none → d.Bound = false ∧ ∀ probe, e = .check probe → d.Spares probe = true)
    (hc : (d.step wg e).service.storedConfig ≠ none) : (d.step wg e).Bound = false := by
  cases e with
  | activate | resumeActivate | reactivate | silentServerSwitch | onStartCommand => cases ha
  | deactivate | lastCallTransaction | onRevoke => cases ht
  | clearStorage => exact absurd rfl hc
  | onAvailable network =>
    have hr : (d.service.mConnectionHealth.onAvailable network).mResetUsed =
        d.service.mConnectionHealth.mResetUsed := by
      rw [ConnectionHealth.onAvailable]
      split <;> rfl
    refine Eq.trans ?_ (h hc).1
    simp only [Daemon.step, Bound, Check.withHealth, hr]
  | onLost =>
    have hr : d.service.mConnectionHealth.onLost.mResetUsed = d.service.mConnectionHealth.mResetUsed := by
      rw [ConnectionHealth.onLost]
      split <;> rfl
    refine Eq.trans ?_ (h hc).1
    simp only [Daemon.step, Bound, Check.withHealth, hr]
  | onFinish =>
    rw [Daemon.step, onFinish] at hc ⊢
    split at hc
    · next hf =>
      rw [if_pos hf]
      exact (h hc).1
    · next hf =>
      rw [if_neg hf]
      exact (h hc).1
  | submit =>
    rw [Daemon.step, submit] at hc ⊢
    split at hc
    · next hf =>
      rw [if_pos hf]
      exact (h hc).1
    · next hf =>
      rw [if_neg hf]
      exact (h hc).1
  | work =>
    rw [Daemon.step, work] at hc ⊢
    split at hc
    · next hf =>
      rw [if_pos hf]
      rfl
    · next hf =>
      rw [if_neg hf]
      exact (h hc).1
  | check probe =>
    by_cases hn : d.service.storedConfig = none
    · refine absurd ?_ hc
      rw [Daemon.step, runCheck]
      split
      · exact hn
      · exact (calm_next wg probe d.service (.inl hn)).storedConfig.trans hn
    · exact bound_runCheck (h hn).1 ((h hn).2 probe rfl)

lemma Unbound.step {p : Daemon × Bool} (h : Unbound p) (hs : StaysSpared p e) :
    Unbound (watch (Daemon.step wg) observe p e) := by
  obtain ⟨d, off⟩ := p
  intro ho hc
  cases ha : Activates e with
  | true => exact absurd ho (by simp [watch, observe, ha])
  | false =>
    cases ht : TurnsOff e with
    | true =>
      simp only [watch, step_of_turnsOff ht] at hc ⊢
      rw [d.service.frame_turnOff.2.1] at hc
      rw [bound_turnOff]
      exact (hs.resolve_left hc).1 ht
    | false =>
      have ho : off = true := by simpa [watch, observe, ha, ht] using ho
      exact bound_step ha ht (fun hn => ⟨h ho hn, fun probe he => (hs.resolve_left hn).2 probe he ho⟩) hc

/-- After a call that turns the service off no answers can lead to a call of `turnOn` exactly if no check can reconnect
then. -/
lemma harmless_iff_of_turnsOff (hr : d.service.Registered) (he : TurnsOff e = true) :
    (∀ later, (∀ f ∈ later, Activates f = false) →
      (run (step wg) d (e :: later)).service.turnOns = d.service.turnOns) ↔ d.Harmless := by
  obtain ⟨ht, -, hh⟩ := d.service.frame_turnOff
  have ha : d.service.turnOff.mConnectionHealth.mActive = false := by
    rw [hh]
    exact ConnectionHealth.inactive_stop _
  have hi := harmless_iff wg (d := { d with service := d.service.turnOff }) ha (hr.turnOff.trans ha)
  rw [harmless_turnOff] at hi
  simp only [run_cons, step_of_turnsOff he]
  rw [← ht]
  exact hi

/-- In a run in which no check is bound to reconnect when the service is turned off, and what is answered to the checks
after that spares them, nothing but an activation calls `turnOn` then. Whatever is answered, nothing does after a call
that turns the service off exactly if no check is submitted, queued or running then that can reconnect. -/
theorem sound_of_spared (wg : WireGuard) (lastConf : Option ClientConfig) (events : List Event) :
    (Meets (watch (step wg) observe) StaysSpared ({ service := { lastConf } }, false) events →
      Meets (watch (step wg) observe) (Sound wg) ({ service := { lastConf } }, false) events) ∧
    ∀ e, TurnsOff e = true →
      ((∀ later, (∀ f ∈ later, Activates f = false) →
        (run (step wg) { service := { lastConf } } (events ++ e :: later)).service.turnOns =
          (run (step wg) { service := { lastConf } } events).service.turnOns) ↔
      Harmless (run (step wg) { service := { lastConf } } events)) := by
  constructor
  · intro hm
    refine hm.along (P := Unbound) (fun p e h hs => h.step hs) (fun p e h _ => sound_of_unbound h e) ?_
    exact fun ho => absurd ho Bool.false_ne_true
  · intro e he
    have hr : (run (step wg) { service := { lastConf } } events).service.Registered :=
      run_invariant (P := fun d : Daemon => d.service.Registered) (fun _ _ h => registered_step h) rfl
    simp only [run_append]
    exact harmless_iff_of_turnsOff hr he

def answered (reachable : Bool) : Probe := ⟨reachable, false, 0, VPNService.granted .tun⟩

/-- A check that is about to reconnect when the user turns the VPN off brings it up again. -/
theorem disturbed_check :
    ¬Meets (watch (step VPNService.literal) observe) (Sound VPNService.literal) ({}, false)
      [.activate VPNService.twoServers true (VPNService.granted .tun), .onAvailable ⟨1⟩, .onFinish, .submit, .work,
        .check (answered false), .check (answered false), .check (answered true), .check (answered false),
        .check (answered true), .check (answered true), .check (answered false), .deactivate,
        .check (answered false)] := by
  decide +kernel

end Daemon

end VpnClient.Android
