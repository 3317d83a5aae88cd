import VpnClient.Backend.Tunnel
import VpnClient.Library.Runs

/-! Which sequences of calls keep the peer and the routes of every hop on the interface. -/

namespace VpnClient.Backend

open Address Library.Runs

def Tunnel.Installed (t : Tunnel) : Prop := ∀ hop config, t.configs hop = some config →
  config.serverPublicKey ∈ t.interface.peers ∧ ∀ ip ∈ config.allowedIPAddressRanges, ip ∈ t.interface.routes

/-- The configuration `last` leaves nothing behind that `other` uses when `config` replaces it. -/
def Spares (last config other : InterfaceConfig) : Prop :=
  (last.serverPublicKey ≠ config.serverPublicKey → other.serverPublicKey ≠ last.serverPublicKey) ∧
    ∀ ip ∈ last.allowedIPAddressRanges, ip ∉ config.allowedIPAddressRanges → ip ∉ other.allowedIPAddressRanges

namespace Daemon

/-- Every connection has its peer on the interface and its ranges in the routing table. -/
def PeersAndRoutesInstalled (d : Daemon) : Prop := ∀ hop state, d.connections hop = some state →
  state.config.serverPublicKey ∈ d.interface.peers ∧
    ∀ ip ∈ state.config.allowedIPAddressRanges, ip ∈ d.interface.routes

/-- A call that switches the server of one hop spares what the other hops use. -/
def SparesOtherHops (d : Daemon) : Call → Prop
  | .activate config => ∀ last, d.connections config.hopType = some last →
    d.connections.supportServerSwitching config = true →
    ∀ hop other, d.connections hop = some other → hop ≠ config.hopType →
      Spares last.config config other.config
  | _ => True

end Daemon

open Daemon Tunnel

variable {b : Bool} {config last : InterfaceConfig} {d : Daemon} {t : Tunnel}

lemma forall_configs (d : Daemon) (p : HopType → InterfaceConfig → Prop) :
    (∀ hop config, d.tunnel.configs hop = some config → p hop config) ↔
      ∀ hop state, d.connections hop = some state → p hop state.config := by
  constructor
  · intro hp hop state hs
    exact hp hop state.config (by simp [Daemon.tunnel, hs])
  · intro hp hop config hc
    obtain ⟨state, hs, rfl⟩ := Option.map_eq_some_iff.mp hc
    exact hp hop state hs

lemma installed_iff (d : Daemon) : d.PeersAndRoutesInstalled ↔ d.tunnel.Installed :=
  (forall_configs d fun _ config => config.serverPublicKey ∈ d.interface.peers ∧
    ∀ ip ∈ config.allowedIPAddressRanges, ip ∈ d.interface.routes).symm

lemma installed_addHop (hi : t.Installed) (config : InterfaceConfig) : (t.addHop config).Installed := by
  intro hop other ho
  by_cases hh : hop = config.hopType
  · subst hh
    obtain rfl : config = other := by simpa [addHop] using ho
    simp +contextual [addHop]
  · obtain ⟨hp, hr⟩ := hi hop other (by simpa [addHop, hh] using ho)
    exact ⟨Finset.mem_insert_of_mem hp, fun ip hip => Finset.mem_union_left _ (hr ip hip)⟩

lemma installed_closed : closed.Installed := by
  rintro hop config ⟨⟩

lemma installed_replaceHop (hi : t.Installed) : (t.replaceHop last config).Installed ↔
    ∀ hop other, t.configs hop = some other → hop ≠ config.hopType → Spares last config other := by
  constructor
  · intro hr hop other ho hh
    obtain ⟨hp, hs⟩ := hr hop other (by simpa [replaceHop, hh] using ho)
    simp only [replaceHop, Finset.mem_sdiff, List.mem_toFinset] at hp hs
    refine ⟨fun hk he => hp.2 (by simp [he, hk.symm]), fun ip hl hc hip => (hs ip hip).2 ⟨hl, hc⟩⟩
  · intro hs hop other ho
    by_cases hh : hop = config.hopType
    · subst hh
      obtain rfl : config = other := by simpa [replaceHop] using ho
      refine ⟨?_, ?_⟩
      · by_cases hk : config.serverPublicKey = last.serverPublicKey <;> simp [replaceHop, hk]
      · intro ip hip
        simp [replaceHop, hip]
    · have ho' : t.configs hop = some other := by simpa [replaceHop, hh] using ho
      obtain ⟨hp, hr⟩ := hi hop other ho'
      obtain ⟨hk, hl⟩ := hs hop other ho' hh
      refine ⟨?_, ?_⟩
      · by_cases he : config.serverPublicKey = last.serverPublicKey
        · simp [replaceHop, he, hp]
        · simp [replaceHop, he, hp, hk (Ne.symm he)]
      · intro ip hip
        simp only [replaceHop, Finset.mem_sdiff, Finset.mem_union, List.mem_toFinset]
        exact ⟨Or.inl (hr ip hip), fun h => hl ip h.1 h.2 hip⟩

lemma installed_step (hi : d.PeersAndRoutesInstalled) (call : Call) :
    d.SparesOtherHops call ↔ (Daemon.step (.succeeding b) d call).PeersAndRoutesInstalled := by
  rw [installed_iff] at hi
  rw [installed_iff, tunnel_step]
  cases call with
  | deactivate emitSignals => simp [SparesOtherHops, Tunnel.step, installed_closed]
  | handshakeTimeout peers => simp [SparesOtherHops, Tunnel.step, hi]
  | activate config =>
    simp only [SparesOtherHops, Tunnel.step, Tunnel.activate]
    split
    · next hc =>
      have hd : d.connections config.hopType = none := Option.map_eq_none_iff.mp hc
      simp [hd, installed_addHop hi]
    · next last hc =>
      obtain ⟨state, hd, rfl⟩ := Option.map_eq_some_iff.mp hc
      rw [tunnel_supportServerSwitching]
      split
      · next hs =>
        rw [installed_replaceHop hi, forall_configs d fun hop other => hop ≠ config.hopType → Spares _ config other]
        simp [hd, hs]
      · next hs => simp [hs, installed_addHop installed_closed]

/-- The peers and routes of all hops stay installed exactly as long as every switch of a server
spares the other hops. -/
theorem peersAndRoutesInstalled_iff (supportIPUtils : Bool) (calls : List Call) :
    (∀ fs, fs <+: calls → (run (Daemon.step (.succeeding supportIPUtils)) {} fs).PeersAndRoutesInstalled) ↔
      Meets (Daemon.step (.succeeding supportIPUtils)) SparesOtherHops {} calls := by
  have h₀ : PeersAndRoutesInstalled {} := by rintro hop state ⟨⟩
  exact (meets_iff_throughout (P := PeersAndRoutesInstalled) (fun _ call hi => (installed_step hi call).mp)
    (fun _ call hi => installed_step hi call) h₀ h₀).symm

def hopConfig (hopType : HopType) (serverPublicKey : String) : InterfaceConfig :=
  { hopType, serverPublicKey, privateKey := "device" }

/-- Exchanging the entry and exit servers deletes the peer of the new entry server. -/
theorem peersAndRoutes_exchanged : ¬ (run (Daemon.step (.succeeding true)) {}
    [.activate (hopConfig .MultiHopEntry "A"), .activate (hopConfig .MultiHopExit "B"),
      .activate (hopConfig .MultiHopEntry "B"), .activate (hopConfig .MultiHopExit "A")]).PeersAndRoutesInstalled := by
  intro hi
  have he := hi .MultiHopEntry ⟨none, hopConfig .MultiHopEntry "B"⟩ (by rfl)
  revert he
  decide

end VpnClient.Backend
