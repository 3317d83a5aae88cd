import Mathlib.Tactic
import VpnClient.Android.VPNService
import VpnClient.Library.Rotation
import VpnClient.Library.Runs

/-! The server that the service has chosen, against the config and the tunnel. -/

namespace VpnClient.Android

open Library.Rotation Library.Runs

namespace VPNService

variable {wg : WireGuard} {s : VPNService} {json config : ClientConfig} {useFallbackServer : Bool} {answers : Answers}

/-- The index that `getNextServerConfig` moves to. -/
def nextServerConfig (json : ClientConfig) (useFallbackServer : Bool) (s : VPNService) : ℕ :=
  if useFallbackServer then (s.currentServerConfig + 1) % json.servers.length else 0

/-- What a tunnel to the server at this index would run with. -/
def userspaceConfig (wg : WireGuard) (json : ClientConfig) (index : ℕ) : Option String :=
  match json.servers[index]?.bind fun jServer => buildWireguardConfig wg jServer json with
  | none => none
  | some wireguard_conf =>
    if wg.toWgUserspaceString wireguard_conf = "" then none else some (wg.toWgUserspaceString wireguard_conf)

/-- The call does not come as far as the old tunnel. -/
def EndsEarly (wg : WireGuard) (json : ClientConfig) (useFallbackServer : Bool) (answers : Answers) (s : VPNService) :
    Prop :=
  userspaceConfig wg json (s.nextServerConfig json useFallbackServer) = none ∨ answers.permission = false ∨
    answers.setupBuilder = false ∨ json.isOnboarding = true ∨ answers.establish ≠ .tun

instance : Decidable (EndsEarly wg json useFallbackServer answers s) := inferInstanceAs (Decidable (_ ∨ _))

/-- A call that ends early finds the server chosen already that it chooses, and the city if it comes that far. -/
def Harmless (wg : WireGuard) (json : ClientConfig) (useFallbackServer : Bool) (answers : Answers) (s : VPNService) :
    Prop :=
  EndsEarly wg json useFallbackServer answers s →
    s.nextServerConfig json useFallbackServer = s.currentServerConfig ∧
      (userspaceConfig wg json (s.nextServerConfig json useFallbackServer) ≠ none → json.city = s.mCityname)

/-- What a call of `turnOn` is made with, if the event makes one. -/
def called (s : VPNService) : Event → Option (ClientConfig × Bool × Answers)
  | .turnOn json useFallbackServer answers => some (json, useFallbackServer, answers)
  | .reconnect forceFallBack answers => s.storedConfig.map (·, forceFallBack, answers)
  | .turnOff => none
  | .clearConfig => none

def Careful (wg : WireGuard) (s : VPNService) (e : Event) : Prop :=
  ∀ p ∈ s.called e, Harmless wg p.1 p.2.1 p.2.2 s

/-- While the tunnel is up and there is a config, the chosen server is one of the config's, and the tunnel is to it. -/
def InSync (wg : WireGuard) (s : VPNService) : Prop :=
  s.isUp = true → ∀ config ∈ s.mConfig, s.currentServerConfig < config.servers.length ∧
    ∃ tunnel ∈ s.wireguard, tunnel.1 = s.currentTunnelHandle ∧ tunnel.2.json = config ∧
      tunnel.2.serverConfig = s.currentServerConfig ∧
      userspaceConfig wg config s.currentServerConfig = some tunnel.2.wgConfig

/-- The members and the tunnel that a call which comes to nothing must leave alone. -/
def kept (s : VPNService) : ℕ × Option ClientConfig × String × ℤ × Option (ℤ × Tunnel) :=
  (s.currentServerConfig, s.mConfig, s.mCityname, s.currentTunnelHandle, s.wireguard)

/-- The call is over before the old tunnel is closed. -/
def Stops (wg : WireGuard) (p : ClientConfig × Bool × Answers) (s : VPNService) : Prop :=
  ∃ outcome, (s.prepare wg p.1 p.2.1 p.2.2).1 = .error outcome

/-- The tunnel in use is exchanged for one to another server of its config. -/
def Moves (s s' : VPNService) : Prop :=
  ∀ old ∈ s.wireguard, ∃ new ∈ s'.wireguard, new.2.json = old.2.json ∧ new.2.serverConfig ≠ old.2.serverConfig

def Sound (wg : WireGuard) (s : VPNService) (e : Event) : Prop :=
  InSync wg (s.step wg e) ∧ (∀ p ∈ s.called e, Stops wg p s → (s.step wg e).kept = s.kept) ∧
    ∀ answers, e = .reconnect true answers → (s.reconnect wg true answers).1 = .completed → s.isUp = true →
      (∀ config ∈ s.storedConfig, 2 ≤ config.servers.length) → Moves s (s.step wg e)

/-- Besides, no config is stored that is not loaded while the tunnel is up. -/
structure Inv (wg : WireGuard) (s : VPNService) : Prop where
  sync : InSync wg s
  stored : s.isUp = true → s.mConfig = none → s.lastConf = none

lemma nextServerConfig_lt (json : ClientConfig) (useFallbackServer : Bool) (s : VPNService) :
    s.nextServerConfig json useFallbackServer < json.servers.length := by
  have hp : 0 < json.servers.length := List.length_pos_of_ne_nil json.nonempty
  rw [nextServerConfig]
  split
  · exact Nat.mod_lt _ hp
  · exact hp

lemma getNextServerConfig_eq : s.getNextServerConfig json useFallbackServer =
    (json.servers[s.nextServerConfig json useFallbackServer]?,
      { s with currentServerConfig := s.nextServerConfig json useFallbackServer }) := by
  cases useFallbackServer <;> rfl

variable (answers) in
lemma prepare_of_eq_none (h : userspaceConfig wg json (s.nextServerConfig json useFallbackServer) = none) :
    ∃ outcome, outcome ≠ .completed ∧ s.prepare wg json useFallbackServer answers =
      (.error outcome, { s with currentServerConfig := s.nextServerConfig json useFallbackServer }) := by
  unfold userspaceConfig at h
  rw [prepare]
  rw [getNextServerConfig_eq]
  dsimp only
  cases hs : json.servers[s.nextServerConfig json useFallbackServer]? with
  | none => exact ⟨.exception, by decide, rfl⟩
  | some jServer =>
    rw [hs] at h
    cases hb : buildWireguardConfig wg jServer json with
    | none =>
      rw [Option.bind_some, hb]
      exact ⟨.exception, by decide, rfl⟩
    | some wireguard_conf =>
      simp only [Option.bind_some, hb, ite_eq_left_iff, reduceCtorEq, imp_false, not_not] at h
      rw [Option.bind_some, hb, Option.map_some]
      dsimp only
      rw [if_pos h]
      exact ⟨.error, by decide, rfl⟩

variable (answers) in
lemma prepare_of_eq_some {wgConfig : String}
    (h : userspaceConfig wg json (s.nextServerConfig json useFallbackServer) = some wgConfig) :
    ∃ result, s.prepare wg json useFallbackServer answers = (result, { s with
        currentServerConfig := s.nextServerConfig json useFallbackServer, mCityname := json.city }) ∧
      (EndsEarly wg json useFallbackServer answers s ∧ (∃ outcome, outcome ≠ .completed ∧ result = .error outcome) ∨
        ¬EndsEarly wg json useFallbackServer answers s ∧ ∃ jServer, result = .ok (jServer, wgConfig)) := by
  rw [EndsEarly]
  rw [h]
  unfold userspaceConfig at h
  rw [prepare]
  rw [getNextServerConfig_eq]
  dsimp only
  cases hs : json.servers[s.nextServerConfig json useFallbackServer]? with
  | none => simp [hs] at h
  | some jServer =>
    rw [hs] at h
    cases hb : buildWireguardConfig wg jServer json with
    | none => simp [hb] at h
    | some wireguard_conf =>
      rw [Option.bind_some, hb] at h
      rw [Option.bind_some, hb, Option.map_some]
      dsimp only at h ⊢
      split_ifs at h with he
      cases h
      rw [if_neg he]
      obtain ⟨permission, setupBuilder, establish, handle, now, sdk⟩ := answers
      cases permission <;> cases setupBuilder <;> cases hj : json.isOnboarding <;> cases establish <;> simp

lemma stops_iff : Stops wg (json, useFallbackServer, answers) s ↔ EndsEarly wg json useFallbackServer answers s := by
  rw [Stops]
  cases h : userspaceConfig wg json (s.nextServerConfig json useFallbackServer) with
  | none =>
    obtain ⟨outcome, -, he⟩ := prepare_of_eq_none answers h
    exact iff_of_true ⟨outcome, congrArg Prod.fst he⟩ (.inl h)
  | some wgConfig =>
    obtain ⟨result, he, ⟨hs, outcome, -, ho⟩ | ⟨hs, jServer, ho⟩⟩ := prepare_of_eq_some answers h
    · exact iff_of_true ⟨outcome, (congrArg Prod.fst he).trans ho⟩ hs
    · refine iff_of_false ?_ hs
      rintro ⟨outcome, hr⟩
      cases ((congrArg Prod.fst he).trans ho).symm.trans hr

lemma turnOn_of_endsEarly (h : EndsEarly wg json useFallbackServer answers s) : ∃ outcome ≠ .completed, ∃ city,
    s.turnOn wg json useFallbackServer answers = (outcome, { s with
      turnOns := s.turnOns + 1, currentServerConfig := s.nextServerConfig json useFallbackServer, mCityname := city }) ∧
    (userspaceConfig wg json (s.nextServerConfig json useFallbackServer) = none ∧ city = s.mCityname ∨
      userspaceConfig wg json (s.nextServerConfig json useFallbackServer) ≠ none ∧ city = json.city) := by
  cases hu : userspaceConfig wg json (s.nextServerConfig json useFallbackServer) with
  | none =>
    obtain ⟨outcome, ho, he⟩ := prepare_of_eq_none answers (s := { s with turnOns := s.turnOns + 1 }) hu
    refine ⟨outcome, ho, s.mCityname, ?_, .inl ⟨rfl, rfl⟩⟩
    rw [turnOn, he]
    rfl
  | some wgConfig =>
    obtain ⟨result, he, ⟨-, outcome, ho, rfl⟩ | ⟨hs, -⟩⟩ :=
      prepare_of_eq_some answers (s := { s with turnOns := s.turnOns + 1 }) hu
    · refine ⟨outcome, ho, json.city, ?_, .inr ⟨by simp, rfl⟩⟩
      rw [turnOn, he]
      rfl
    · exact absurd h hs

lemma turnOn_of_not_endsEarly (h : ¬EndsEarly wg json useFallbackServer answers s) : ∃ jServer wgConfig,
    userspaceConfig wg json (s.nextServerConfig json useFallbackServer) = some wgConfig ∧
    s.turnOn wg json useFallbackServer answers = { s with
      turnOns := s.turnOns + 1, currentServerConfig := s.nextServerConfig json useFallbackServer,
      mCityname := json.city }.replaceTunnel json jServer wgConfig answers := by
  cases hu : userspaceConfig wg json (s.nextServerConfig json useFallbackServer) with
  | none => exact absurd (.inl hu) h
  | some wgConfig =>
    obtain ⟨result, he, ⟨hs, -⟩ | ⟨-, jServer, rfl⟩⟩ :=
      prepare_of_eq_some answers (s := { s with turnOns := s.turnOns + 1 }) hu
    · exact absurd hs h
    · refine ⟨jServer, wgConfig, rfl, ?_⟩
      rw [turnOn, he]
      rfl

variable (answers) in
lemma replaceTunnel_cases (jServer : Server) (wgConfig : String) :
    (s.replaceTunnel json jServer wgConfig answers).1 = .error ∧
        (s.replaceTunnel json jServer wgConfig answers).2.isUp = false ∨
      (s.replaceTunnel json jServer wgConfig answers).1 = .completed ∧
        (s.replaceTunnel json jServer wgConfig answers).2.mConfig = some json ∧
        (s.replaceTunnel json jServer wgConfig answers).2.currentServerConfig = s.currentServerConfig ∧
        (s.replaceTunnel json jServer wgConfig answers).2.wireguard =
          some ((s.replaceTunnel json jServer wgConfig answers).2.currentTunnelHandle,
            ⟨wgConfig, json, s.currentServerConfig⟩) := by
  have hs : (if s.currentTunnelHandle ≠ -1 then s.wgTurnOff s.currentTunnelHandle else s).currentServerConfig =
      s.currentServerConfig := by
    rw [wgTurnOff]
    split_ifs <;> rfl
  rw [replaceTunnel]
  dsimp only
  rcases lt_or_ge answers.wgTurnOn 0 with hl | hl
  · refine .inl ?_
    rw [if_pos (show (setCurrentTunnelHandle answers.now answers.wgTurnOn _).currentTunnelHandle < 0 from hl)]
    exact ⟨rfl, decide_eq_false (not_le.mpr hl)⟩
  · refine .inr ?_
    rw [if_neg (show ¬(setCurrentTunnelHandle answers.now answers.wgTurnOn _).currentTunnelHandle < 0 from not_lt.mpr hl)]
    rw [wgTurnOn, if_neg (not_lt.mpr hl), hs]
    exact ⟨rfl, rfl, rfl, rfl⟩

variable (wg) in
lemma step_of_called {e : Event} {p : ClientConfig × Bool × Answers} (h : p ∈ s.called e) :
    ∃ time, s.step wg e = { (s.turnOn wg p.1 p.2.1 p.2.2).2 with mConnectionTime := time } := by
  cases e with
  | turnOn json useFallbackServer answers =>
    cases h
    exact ⟨_, rfl⟩
  | reconnect forceFallBack answers =>
    obtain ⟨config, hc, rfl⟩ := Option.map_eq_some_iff.mp h
    simp only [step, reconnect, hc]
    split_ifs <;> exact ⟨_, rfl⟩
  | turnOff => cases h
  | clearConfig => cases h

variable (wg) in
lemma step_of_not_called {e : Event} (h : s.called e = none) :
    s.step wg e = s ∨ s.step wg e = s.turnOff ∨ s.step wg e = s.clearConfig := by
  cases e with
  | turnOn json useFallbackServer answers => cases h
  | reconnect forceFallBack answers =>
    refine .inl ?_
    rw [step, reconnect, Option.map_eq_none_iff.mp h]
  | turnOff => exact .inr (.inl rfl)
  | clearConfig => exact .inr (.inr rfl)

lemma Inv.turnOn (h : Inv wg s) (hc : Harmless wg json useFallbackServer answers s) :
    Inv wg (s.turnOn wg json useFallbackServer answers).2 := by
  by_cases he : EndsEarly wg json useFallbackServer answers s
  · obtain ⟨outcome, -, city, ht, -⟩ := turnOn_of_endsEarly he
    rw [ht, (hc he).1]
    exact ⟨h.sync, h.stored⟩
  · obtain ⟨jServer, wgConfig, hu, ht⟩ := turnOn_of_not_endsEarly he
    rw [ht]
    rcases replaceTunnel_cases answers jServer wgConfig with ⟨-, hd⟩ | ⟨-, hm, hi, hw⟩
    · exact ⟨fun hup => absurd (hd.symm.trans hup) Bool.false_ne_true,
        fun hup => absurd (hd.symm.trans hup) Bool.false_ne_true⟩
    · refine ⟨fun _ config hconf => ?_, fun _ hn => absurd (hm.symm.trans hn) (by simp)⟩
      cases hm.symm.trans hconf
      refine ⟨?_, _, hw, rfl, rfl, hi.symm, by rw [hi]; exact hu⟩
      rw [hi]
      exact nextServerConfig_lt json useFallbackServer s

lemma kept_turnOn_iff (he : EndsEarly wg json useFallbackServer answers s) :
    (s.turnOn wg json useFallbackServer answers).2.kept = s.kept ↔ Harmless wg json useFallbackServer answers s := by
  obtain ⟨outcome, -, city, ht, hcity⟩ := turnOn_of_endsEarly he
  rw [ht]
  simp only [kept, Prod.mk.injEq, true_and, and_true, Harmless, he, true_imp_iff]
  refine and_congr_right fun _ => ?_
  rcases hcity with ⟨hu, rfl⟩ | ⟨hu, rfl⟩
  · exact iff_of_true rfl fun hn => absurd hu hn
  · exact ⟨fun hc _ => hc, fun hc => hc hu⟩

lemma isUp_turnOff : s.turnOff.isUp = false := rfl

lemma inv_step {e : Event} (h : Inv wg s) (hc : Careful wg s e) : Inv wg (s.step wg e) := by
  cases hp : s.called e with
  | some p =>
    obtain ⟨time, he⟩ := step_of_called wg hp
    rw [he]
    exact ⟨(h.turnOn (hc p hp)).sync, (h.turnOn (hc p hp)).stored⟩
  | none =>
    rcases step_of_not_called wg hp with he | he | he <;> rw [he]
    · exact h
    · exact ⟨fun hup => absurd (isUp_turnOff.symm.trans hup) Bool.false_ne_true,
        fun hup => absurd (isUp_turnOff.symm.trans hup) Bool.false_ne_true⟩
    · exact ⟨fun _ _ hm => absurd hm (by simp [clearConfig]), fun _ _ => rfl⟩

lemma Inv.moves (h : Inv wg s) (hup : s.isUp = true) (hr : (s.reconnect wg true answers).1 = .completed)
    (hl : ∀ config ∈ s.storedConfig, 2 ≤ config.servers.length) :
    Moves s (s.step wg (.reconnect true answers)) := by
  intro old hold
  cases hs : s.mConfig with
  | none => simp [reconnect, storedConfig, hs, h.stored hup hs] at hr
  | some config =>
    have hc : s.storedConfig = some config := by rw [storedConfig, hs]
    obtain ⟨hlt, tunnel, htunnel, -, hjson, hindex, -⟩ := h.sync hup config hs
    cases htunnel.symm.trans hold
    have hne : (s.nextServerConfig config true) ≠ s.currentServerConfig := mod_succ_ne (hl config hc) hlt
    have ho : (s.turnOn wg config true answers).1 = .completed := by
      cases hq : (s.turnOn wg config true answers).1 <;> simp [reconnect, hc, hq] at hr ⊢
    have hcall : (config, true, answers) ∈ s.called (.reconnect true answers) := by simp [called, hc]
    obtain ⟨time, he⟩ := step_of_called wg hcall
    by_cases hearly : EndsEarly wg config true answers s
    · obtain ⟨outcome, hn, city, ht, -⟩ := turnOn_of_endsEarly hearly
      exact absurd ((congrArg Prod.fst ht).symm.trans ho) hn
    · obtain ⟨jServer, wgConfig, -, ht⟩ := turnOn_of_not_endsEarly hearly
      rw [he, ht]
      rw [ht] at ho
      rcases replaceTunnel_cases answers jServer wgConfig with ⟨hd, -⟩ | ⟨-, -, -, hw⟩
      · cases hd.symm.trans ho
      · exact ⟨_, hw, hjson.symm, fun hi => hne (hi.trans hindex)⟩

lemma Inv.sound_iff {e : Event} (h : Inv wg s) : Sound wg s e ↔ Careful wg s e := by
  constructor
  · rintro ⟨-, hk, -⟩ p hp he
    obtain ⟨time, hs⟩ := step_of_called wg hp
    have hkept := hk p hp (stops_iff.mpr he)
    rw [hs] at hkept
    exact (kept_turnOn_iff he).mp hkept he
  · intro hc
    refine ⟨(inv_step h hc).sync, fun p hp hstops => ?_, fun answers he hr hup hl => he ▸ h.moves hup hr hl⟩
    obtain ⟨time, hs⟩ := step_of_called wg hp
    rw [hs]
    exact (kept_turnOn_iff (stops_iff.mp hstops)).mpr (hc p hp)

/-- The service without a tunnel and with a stored config, if any. -/
def initial (lastConf : Option ClientConfig) : VPNService := { lastConf }

lemma inv_initial (wg : WireGuard) (lastConf : Option ClientConfig) : Inv wg (initial lastConf) :=
  ⟨fun hup => absurd hup Bool.false_ne_true, fun hup => absurd hup Bool.false_ne_true⟩

/-- The chosen server, the config and the tunnel stay together exactly in the runs in which each `turnOn` that comes to
nothing finds the server and the city chosen already. -/
theorem sound_iff_careful (wg : WireGuard) (lastConf : Option ClientConfig) (events : List Event) :
    Meets (step wg) (Sound wg) (initial lastConf) events ↔ Meets (step wg) (Careful wg) (initial lastConf) events :=
  meets_congr (fun _ _ h hs => inv_step h (h.sound_iff.mp hs)) (fun _ _ h => h.sound_iff) (inv_initial wg lastConf)

/-- A library that takes everything as it is. -/
def literal : WireGuard where
  parseEndpoint := some
  parseKey := some
  parseNetwork := fun network => some ⟨network, 32⟩
  toWgUserspaceString := fun config => config.peer.endpoint

def twoServers : ClientConfig where
  servers := [⟨"198.51.100.1", "10.64.0.1", "51820", "first"⟩, ⟨"198.51.100.2", "10.64.0.1", "51820", "second"⟩]
  nonempty := by decide
  city := "Berlin"
  dns := "10.64.0.1"
  allowedIPs := []
  privateKey := "key"
  device := ⟨"10.0.0.2", "fc00::2"⟩
  excludedApps := []
  isOnboarding := false

def granted (establish : Establish) : Answers := ⟨true, true, establish, 1, 1, 31⟩

/-- A fallback that gets no interface has moved the index of the server in use. -/
theorem unsound_fallback :
    ¬Meets (step literal) (Sound literal) (initial none)
      [.turnOn twoServers false (granted .tun), .reconnect true (granted .null)] :=
  fun h => absurd (h.2.1.1 rfl twoServers rfl) (by decide)

end VPNService

end VpnClient.Android
