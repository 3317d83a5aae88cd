import VpnClient.Ios.PacketTunnelProvider
import VpnClient.Library.Rotation

/-! The server that the index points to, against the one that the tunnel runs with and the one that is pinged. -/

namespace VpnClient.Ios

open Library.Runs Library.Rotation

namespace PacketTunnelProvider

variable {endpointHost : String → Option String} {p : PacketTunnelProvider} {proto : ProtocolConfiguration}
  {update : Update} {config : String} {e : Event}

/-- A silent switch that the adapter takes. -/
def switched (p : PacketTunnelProvider) : PacketTunnelProvider := p.silentServerSwitch .updated

/-- The tunnel runs with the config at the index, so that the next one is another one, a turn of silent switches goes
through all of them, and the endpoint of the running one is pinged. -/
structure Sound (endpointHost : String → Option String) (p : PacketTunnelProvider) : Prop where
  running : ∃ proto ∈ p.protocolConfiguration, ∃ config ∈ p.running, proto.configs[p.currentServerConfig]? = some config
  next : ∀ proto ∈ p.protocolConfiguration, 2 ≤ proto.configs.length →
    ∃ config ∈ p.nextValidServerConfig.1, p.running ≠ some config
  turn : ∀ proto ∈ p.protocolConfiguration,
    List.Perm ((List.range proto.configs.length).map fun k => (switched^[k] p).running) (proto.configs.map some)
  pinged : ∀ config ∈ p.running, p.connectionHealthMonitor.pingAddress = endpointHost config

/-- There is one config, or the next one is taken and its endpoint is pinged already. -/
def Rotates (endpointHost : String → Option String) (update : Update) (p : PacketTunnelProvider) : Prop :=
  ∀ proto ∈ p.protocolConfiguration, proto.configs.length = 1 ∨ update = .updated ∧
    ∀ config ∈ proto.configs[(p.currentServerConfig + 1) % proto.configs.length]?,
      p.connectionHealthMonitor.pingAddress = endpointHost config

/-- The app switches while the index is at its start, to a config that is taken and whose endpoint is pinged already, or
the adapter fails and the running config stands at the index in the new list. A silent switch rotates. -/
def InStep (endpointHost : String → Option String) (p : PacketTunnelProvider) : Event → Prop
  | .appSwitch proto update =>
    update = .updated ∧ p.currentServerConfig = 0 ∧ p.connectionHealthMonitor.pingAddress = endpointHost proto.first ∨
      update ≠ .updated ∧ proto.configs[p.currentServerConfig]? = p.running
  | .silentServerSwitch update => Rotates endpointHost update p
  | .analyzed connectivity now update => (∃ stability ∈ connectivity,
      p.connectionHealthMonitor.switchesServer stability now = true) → Rotates endpointHost update p

/-- The config at the index is running and pinged. -/
def Inv (endpointHost : String → Option String) (p : PacketTunnelProvider) : Prop :=
  ∃ proto config, p.protocolConfiguration = some proto ∧ p.running = some config ∧
    proto.configs[p.currentServerConfig]? = some config ∧ p.connectionHealthMonitor.pingAddress = endpointHost config

lemma first_eq (proto : ProtocolConfiguration) : proto.configs[0]? = some proto.first := by
  rw [ProtocolConfiguration.first, ← List.head?_eq_some_head proto.nonempty, List.head?_eq_getElem?]

lemma exists_next (update : Update) (h : p.protocolConfiguration = some proto) : ∃ config,
    proto.configs[(p.currentServerConfig + 1) % proto.configs.length]? = some config ∧
      p.silentServerSwitch update = { p with
        currentServerConfig := (p.currentServerConfig + 1) % proto.configs.length
        daemonSilentServerSwitch := true :: p.daemonSilentServerSwitch
        running := if update = .updated then some config else p.running } := by
  have hl : (p.currentServerConfig + 1) % proto.configs.length < proto.configs.length :=
    Nat.mod_lt _ (List.length_pos_of_ne_nil proto.nonempty)
  refine ⟨_, List.getElem?_eq_getElem hl, ?_⟩
  rw [silentServerSwitch, nextValidServerConfig, h]
  dsimp only
  rw [List.getElem?_eq_getElem hl]
  cases update <;> rfl

lemma iterate_switched (h : p.protocolConfiguration = some proto)
    (hr : p.running = proto.configs[p.currentServerConfig]?) (hi : p.currentServerConfig < proto.configs.length)
    (k : ℕ) :
    (switched^[k] p).protocolConfiguration = some proto ∧
      (switched^[k] p).currentServerConfig = (p.currentServerConfig + k) % proto.configs.length ∧
      (switched^[k] p).running = proto.configs[(p.currentServerConfig + k) % proto.configs.length]? := by
  induction k with
  | zero => simpa [Nat.mod_eq_of_lt hi] using ⟨h, hr⟩
  | succ k ih =>
    obtain ⟨hp, hc, -⟩ := ih
    rw [Function.iterate_succ_apply']
    obtain ⟨config, hn, he⟩ := exists_next .updated hp
    rw [hc, Nat.mod_add_mod, add_assoc] at hn he
    rw [switched, he]
    exact ⟨hp, rfl, hn.symm⟩

lemma Inv.sound (h : Inv endpointHost p) : Sound endpointHost p := by
  obtain ⟨proto, config, hp, hr, hc, ha⟩ := h
  have hi : p.currentServerConfig < proto.configs.length := (List.getElem?_eq_some_iff.mp hc).1
  refine ⟨⟨proto, hp, config, hr, hc⟩, ?_, ?_, ?_⟩
  · rintro proto' hp' hn
    cases hp.symm.trans hp'
    obtain ⟨next, hx, -⟩ := exists_next .updated hp
    refine ⟨next, by simpa [nextValidServerConfig, hp] using hx, fun he => ?_⟩
    cases hr.symm.trans he
    exact mod_succ_ne hn hi ((getElem?_inj_iff proto.nodup hc).mp hx)
  · rintro proto' hp'
    cases hp.symm.trans hp'
    simp only [(iterate_switched hp (hr.trans hc.symm) hi _).2.2]
    exact perm_map_range_mod _ _
  · rintro config' hr'
    cases hr.symm.trans hr'
    exact ha

lemma Sound.inv (h : Sound endpointHost p) : Inv endpointHost p := by
  obtain ⟨proto, hp, config, hr, hc⟩ := h.running
  exact ⟨proto, config, hp, hr, hc, h.pinged config hr⟩

lemma inv_appSwitch_iff (h : Inv endpointHost p) :
    InStep endpointHost p (.appSwitch proto update) ↔ Inv endpointHost (p.appSwitch proto update) := by
  obtain ⟨proto₀, config, hp, hr, hc, ha⟩ := h
  by_cases hu : update = .updated
  · subst hu
    have hf := getElem?_inj_iff (n := p.currentServerConfig) proto.nodup (first_eq proto)
    constructor
    · rintro (⟨-, hz, he⟩ | ⟨hn, -⟩)
      · exact ⟨proto, proto.first, rfl, rfl, hf.mpr hz, he⟩
      · exact absurd rfl hn
    · rintro ⟨proto', config', hp', hr', hc', ha'⟩
      cases hp'
      cases hr'
      exact .inl ⟨rfl, hf.mp hc', ha'⟩
  · have he : p.appSwitch proto update = { p with protocolConfiguration := some proto } := by
      cases update with
      | updated => exact absurd rfl hu
      | _ => rfl
    rw [he]
    constructor
    · rintro (⟨hn, -⟩ | ⟨-, hc'⟩)
      · exact absurd hn hu
      · exact ⟨proto, config, rfl, hr, hc'.trans hr, ha⟩
    · rintro ⟨proto', config', hp', hr', hc', -⟩
      cases hp'
      exact .inr ⟨hu, hc'.trans hr'.symm⟩

lemma inv_silentServerSwitch_iff (h : Inv endpointHost p) :
    Rotates endpointHost update p ↔ Inv endpointHost (p.silentServerSwitch update) := by
  obtain ⟨proto, config, hp, hr, hc, ha⟩ := h
  obtain ⟨next, hx, he⟩ := exists_next update hp
  have hi : p.currentServerConfig < proto.configs.length := (List.getElem?_eq_some_iff.mp hc).1
  have hn : next = config ↔ proto.configs.length = 1 := by
    have hm := getElem?_inj_iff (n := (p.currentServerConfig + 1) % proto.configs.length) proto.nodup hc
    rw [hx, Option.some.injEq] at hm
    rw [hm]
    constructor
    · intro hs
      by_contra hl
      exact mod_succ_ne (by omega) hi hs
    · intro hl
      rw [hl, Nat.mod_one]
      omega
  rw [he]
  constructor
  · intro hrot
    obtain hl | ⟨rfl, ha'⟩ := hrot proto hp
    · obtain rfl := hn.mpr hl
      exact ⟨proto, next, hp, by simp [hr], hx, ha⟩
    · exact ⟨proto, next, hp, rfl, hx, ha' next hx⟩
  · rintro ⟨proto', config', hp', hr', hc', ha'⟩ proto'' hp''
    cases hp.symm.trans hp'
    cases hp.symm.trans hp''
    cases hx.symm.trans hc'
    by_cases hu : update = .updated
    · refine .inr ⟨hu, fun config' hm => ?_⟩
      cases hx.symm.trans hm
      exact ha'
    · rw [if_neg hu] at hr'
      exact .inl (hn.mp (Option.some.inj (hr'.symm.trans hr)))

lemma pingAddress_analyzed (connectivity : Option ConnectionStability) (now : ℕ) (h : ConnectionHealth) :
    (h.analyzed connectivity now).pingAddress = h.pingAddress := by
  have hr (stability : ConnectionStability) : (h.recordMetrics stability).pingAddress = h.pingAddress := by
    rw [ConnectionHealth.recordMetrics]
    dsimp only
    split <;> rfl
  cases connectivity with
  | none => rfl
  | some stability =>
    rw [ConnectionHealth.analyzed]
    dsimp only
    split <;> exact hr stability

lemma inv_analyzed_iff {connectivity : Option ConnectionStability} {now : ℕ} (h : Inv endpointHost p) :
    InStep endpointHost p (.analyzed connectivity now update) ↔
      Inv endpointHost (p.analyzed connectivity now update) := by
  have hi : Inv endpointHost
      { p with connectionHealthMonitor := p.connectionHealthMonitor.analyzed connectivity now } := by
    simpa only [Inv, pingAddress_analyzed] using h
  have hs : (∃ stability ∈ connectivity, p.connectionHealthMonitor.switchesServer stability now = true) ↔
      (connectivity.map (p.connectionHealthMonitor.switchesServer · now)).getD false = true := by
    cases connectivity <;> simp
  rw [InStep, hs, analyzed]
  split
  · next hw =>
    rw [hw, ← inv_silentServerSwitch_iff hi]
    simp [Rotates, pingAddress_analyzed]
  · next hw => exact iff_of_true (fun hw' => absurd hw' hw) hi

lemma inStep_iff (h : Inv endpointHost p) : InStep endpointHost p e ↔ Inv endpointHost (p.step e) := by
  cases e with
  | appSwitch proto update => exact inv_appSwitch_iff h
  | silentServerSwitch update => exact inv_silentServerSwitch_iff h
  | analyzed connectivity now update => exact inv_analyzed_iff h

/-- The provider after the start of the tunnel with what the app has saved. -/
def launched (endpointHost : String → Option String) (proto : ProtocolConfiguration) (now : ℕ) : PacketTunnelProvider :=
  ({ protocolConfiguration := some proto } : PacketTunnelProvider).startTunnel endpointHost false now

lemma inv_launched (proto : ProtocolConfiguration) (now : ℕ) : Inv endpointHost (launched endpointHost proto now) := by
  rw [launched, startTunnel]
  dsimp only
  rw [if_neg Bool.false_ne_true]
  split
  · next hn => exact ⟨proto, proto.first, rfl, rfl, first_eq proto, hn.symm⟩
  · next host hh => exact ⟨proto, proto.first, rfl, rfl, first_eq proto, hh.symm⟩

/-- The index, the running config and the pinged address agree throughout a run exactly if each switch of the app finds
the index at its start and each silent switch is taken, to a server whose endpoint is pinged already. -/
theorem sound_iff_inStep (endpointHost : String → Option String) (proto : ProtocolConfiguration) (now : ℕ)
    (events : List Event) :
    Meets step (InStep endpointHost) (launched endpointHost proto now) events ↔
      ∀ before, before <+: events → Sound endpointHost (run step (launched endpointHost proto now) before) :=
  meets_iff_throughout (P := Inv endpointHost) (fun _ _ h hs => (inStep_iff h).mp hs)
    (fun _ _ h => (inStep_iff h).trans ⟨Inv.sound, Sound.inv⟩) (inv_launched proto now) (inv_launched proto now).sound

/-- After a silent switch the first server is still pinged, and a switch of the app leaves the index at the second. -/
theorem unsound_switches : ¬Sound some (run step (launched some ⟨["first", "second"], by decide, by decide⟩ 0)
      [.silentServerSwitch .updated]) ∧
    ¬Sound some (run step (launched some ⟨["first", "second"], by decide, by decide⟩ 0)
      [.silentServerSwitch .updated, .appSwitch ⟨["third", "fourth"], by decide, by decide⟩ .updated]) := by
  constructor
  · intro h
    exact absurd (h.pinged "second" rfl) (by decide)
  · intro h
    obtain ⟨proto, hp, config, hr, hc⟩ := h.running
    cases hp
    cases hr
    exact absurd hc (by decide)

end PacketTunnelProvider

end VpnClient.Ios
