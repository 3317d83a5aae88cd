import Mathlib.Tactic
import VpnClient.Library.Runs
import VpnClient.Linux.NetworkManagerController

/-! The profile that an activation commits, after any activations before it. -/

namespace VpnClient.Linux

open Address Backend Library.Runs

namespace NetworkManagerController

variable {connection initial : NMConnection} {s : NMSettingIPConfig} {family : Protocol} {p i : IPAddress}
  {ps : List IPAddress} {m : NetworkManagerController} {config : SingleHopConfig} {earlier : List SingleHopConfig}

/-- The route that an activation adds for a range. -/
def tunnelRoute (p : IPAddress) : NMIPRoute := { dest := p, table := some WG_FIREWALL_MARK }

/-- The route that an activation would add is there already. -/
def Known (p : IPAddress) (s : NMSettingIPConfig) : Prop := tunnelRoute p ∈ s.routes

instance : Decidable (Known p s) := inferInstanceAs (Decidable (_ ∈ _))

/-- The number of routes to the prefix in the table of the tunnel. -/
def tunnelRoutes (p : IPAddress) (connection : NMConnection) : ℕ :=
  ((connection.ipv4config.routes ++ connection.ipv6config.routes).filter
    fun route => route.dest = p ∧ route.table = some WG_FIREWALL_MARK).length

/-- The profile is what the config asks for, apart from the routes that were there at first. -/
structure Exact (initial profile : NMConnection) (config : InterfaceConfig) : Prop where
  once : ∀ p ∈ config.allowedIPAddressRanges, tunnelRoutes p profile = 1
  others : ∀ family, (initial.ipcfg family).routes <+: (profile.ipcfg family).routes ∧
    ∀ route ∈ (profile.ipcfg family).routes.drop (initial.ipcfg family).routes.length,
      route.dest ∈ config.allowedIPAddressRanges
  peer : ∃ peer, profile.wireguard.peers = [peer] ∧ peer.publicKey = config.serverPublicKey ∧
    peer.endpoint = config.serverIpv4AddrIn ++ ":" ++ toString config.serverPort ∧
    peer.allowedIps = config.allowedIPAddressRanges
  dns : profile.ipv4config.dns ++ profile.ipv6config.dns = [config.dnsServer]

/-- Nothing of the earlier configs is left to the new one. -/
structure Compatible (initial : NMConnection) (earlier : List SingleHopConfig) (config : SingleHopConfig) : Prop where
  ranges : ∀ before ∈ earlier, ∀ p ∈ before.allowedIPAddressRanges,
    p ∈ config.allowedIPAddressRanges ∨ Known p (initial.ipcfg p.address.protocol)
  profile : ∀ p ∈ config.allowedIPAddressRanges,
    tunnelRoutes p initial = if Known p (initial.ipcfg p.address.protocol) then 1 else 0
  dns : ∀ before ∈ earlier, dnsFamily before.dnsServer = dnsFamily config.dnsServer
  profileDns : ∀ family, family ≠ dnsFamily config.dnsServer → (initial.ipcfg family).dns = []

def activated : List Event → List SingleHopConfig
  | [] => []
  | .activate config :: events => config :: activated events
  | .deactivate :: events => activated events
  | .setActiveConnection _ :: events => activated events

/-- The setting has, after what it had at first, one route for each of the prefixes that it did not know. -/
def Extends (family : Protocol) (initial : NMSettingIPConfig) (ps : List IPAddress) (s : NMSettingIPConfig) : Prop :=
  ∃ added : List IPAddress, s.routes = initial.routes ++ added.map tunnelRoute ∧ added.Nodup ∧
    ∀ p, p ∈ added ↔ p ∈ ps ∧ p.address.protocol = family ∧ ¬Known p initial

structure Inv (initial : NMConnection) (earlier : List SingleHopConfig) (m : NetworkManagerController) : Prop where
  routes : ∀ family, Extends family (initial.ipcfg family) (earlier.flatMap (·.allowedIPAddressRanges))
    (m.settings.ipcfg family)
  kept : ∀ family, (∀ before ∈ earlier, dnsFamily before.dnsServer ≠ family) →
    (m.settings.ipcfg family).dns = (initial.ipcfg family).dns
  set : ∀ family, (∃ before ∈ earlier, dnsFamily before.dnsServer = family) → (m.settings.ipcfg family).dns ≠ []
  peers : m.settings.wireguard.peers.length ≤ 1

lemma ipcfg_updateIpcfg (family other : Protocol) (f : NMSettingIPConfig → NMSettingIPConfig) :
    (connection.updateIpcfg family f).ipcfg other =
      if other = family then f (connection.ipcfg other) else connection.ipcfg other := by
  cases family <;> cases other <;> rfl

lemma wireguard_updateIpcfg (f : NMSettingIPConfig → NMSettingIPConfig) :
    (connection.updateIpcfg family f).wireguard = connection.wireguard := by
  cases family <;> rfl

lemma ipcfg_wireguard (connection : NMConnection) (wireguard : NMSettingWireGuard) (family : Protocol) :
    { connection with wireguard : NMConnection }.ipcfg family = connection.ipcfg family := by
  cases family <;> rfl

/-- Adds the route for a range. -/
def addTunnelRoute (connection : NMConnection) (i : IPAddress) : NMConnection :=
  connection.updateIpcfg i.address.protocol (·.addRoute (tunnelRoute i))

lemma foldl_addRange {peer : NMWireGuardPeer} (h : ∀ p ∈ ps, p.prefixLength ≤ p.address.width) :
    ps.foldl addRange (peer, connection) =
      ({ peer with allowedIps := peer.allowedIps ++ ps }, ps.foldl addTunnelRoute connection) := by
  induction ps generalizing peer connection with
  | nil => simp
  | cons i ps ih =>
    obtain ⟨hi, hps⟩ := List.forall_mem_cons.mp h
    have ha : addRange (peer, connection) i =
        ({ peer with allowedIps := peer.allowedIps ++ [i] }, addTunnelRoute connection i) := by
      rw [addRange, nm_ip_route_new, if_pos hi]
      rfl
    rw [List.foldl_cons, ha, ih hps, List.foldl_cons]
    simp

lemma wireguard_foldl_addTunnelRoute : (ps.foldl addTunnelRoute connection).wireguard = connection.wireguard :=
  run_frame (f := NMConnection.wireguard) fun _ _ => wireguard_updateIpcfg _

lemma dns_foldl_addTunnelRoute :
    ((ps.foldl addTunnelRoute connection).ipcfg family).dns = (connection.ipcfg family).dns := by
  refine run_frame (f := fun connection : NMConnection => (connection.ipcfg family).dns) fun connection i => ?_
  rw [addTunnelRoute, ipcfg_updateIpcfg, NMSettingIPConfig.addRoute]
  split_ifs <;> rfl

lemma tunnelRoute_injective : Function.Injective tunnelRoute := fun _ _ h => congrArg NMIPRoute.dest h

lemma Extends.addRoute {initial : NMSettingIPConfig} (h : Extends family initial ps s)
    (hi : i.address.protocol = family) : Extends family initial (ps ++ [i]) (s.addRoute (tunnelRoute i)) := by
  obtain ⟨added, hr, hn, hm⟩ := h
  have hk : tunnelRoute i ∈ s.routes ↔ Known i initial ∨ i ∈ added := by
    rw [hr, List.mem_append, List.mem_map_of_injective tunnelRoute_injective]
    rfl
  rw [NMSettingIPConfig.addRoute]
  split
  case isTrue hs =>
    refine ⟨added, hr, hn, fun p => (hm p).trans ?_⟩
    refine and_congr_left fun hp => ?_
    rw [List.mem_append, List.mem_singleton]
    refine ⟨.inl, fun h => h.elim id ?_⟩
    rintro rfl
    exact ((hm p).mp ((hk.mp hs).resolve_left hp.2)).1
  case isFalse hs =>
    obtain ⟨hki, hia⟩ := not_or.mp (fun h => hs (hk.mpr h))
    refine ⟨added ++ [i], by simp [hr], by simpa using List.Nodup.concat hia hn, fun p => ?_⟩
    simp only [List.mem_append, List.mem_singleton, hm]
    constructor
    · rintro (⟨hp, hf⟩ | rfl)
      · exact ⟨.inl hp, hf⟩
      · exact ⟨.inr rfl, hi, hki⟩
    · rintro ⟨hp | rfl, hf⟩
      · exact .inl ⟨hp, hf⟩
      · exact .inr rfl

lemma Extends.skip {initial : NMSettingIPConfig} (h : Extends family initial ps s)
    (hi : i.address.protocol ≠ family) : Extends family initial (ps ++ [i]) s := by
  obtain ⟨added, hr, hn, hm⟩ := h
  refine ⟨added, hr, hn, fun p => (hm p).trans ?_⟩
  refine and_congr_left fun hp => ?_
  rw [List.mem_append, List.mem_singleton]
  refine ⟨.inl, fun h => h.elim id ?_⟩
  rintro rfl
  exact absurd hp.1 hi

variable (ps) in
lemma Extends.foldl {initial : NMSettingIPConfig} {before : List IPAddress}
    (h : Extends family initial before (connection.ipcfg family)) :
    Extends family initial (before ++ ps) ((ps.foldl addTunnelRoute connection).ipcfg family) := by
  induction ps generalizing connection before with
  | nil => simpa using h
  | cons i ps ih =>
    rw [← List.singleton_append, ← List.append_assoc]
    apply ih
    rw [addTunnelRoute, ipcfg_updateIpcfg]
    split
    case isTrue hf => exact h.addRoute hf.symm
    case isFalse hf => exact h.skip (Ne.symm hf)

lemma settings_activate : (m.activate config.toInterfaceConfig).settings =
    { config.allowedIPAddressRanges.foldl addTunnelRoute m.settings with
      wireguard := m.settings.wireguard.setPeer
        ⟨config.serverIpv4AddrIn ++ ":" ++ toString config.serverPort, WG_KEEPALIVE_PERIOD, config.serverPublicKey,
          config.allowedIPAddressRanges⟩ : NMConnection }.updateIpcfg (dnsFamily config.dnsServer)
      ({ · with dns := [config.dnsServer], dnsSearch := ["."], dnsPriority := 10 }) := by
  rw [activate]
  dsimp only
  rw [foldl_addRange config.fits, wireguard_foldl_addTunnelRoute, if_pos (.inl config.singleHop)]
  rfl

lemma committed_activate : (m.activate config.toInterfaceConfig).committed =
    (m.activate config.toInterfaceConfig).settings := rfl

lemma routes_ipcfg_activate :
    ((m.activate config.toInterfaceConfig).settings.ipcfg family).routes =
      ((config.allowedIPAddressRanges.foldl addTunnelRoute m.settings).ipcfg family).routes := by
  rw [settings_activate, ipcfg_updateIpcfg]
  cases family <;> split <;> rfl

variable (m config family) in
lemma dns_ipcfg_activate : ((m.activate config.toInterfaceConfig).settings.ipcfg family).dns =
    if family = dnsFamily config.dnsServer then [config.dnsServer] else (m.settings.ipcfg family).dns := by
  rw [settings_activate, ipcfg_updateIpcfg]
  split
  · rfl
  · exact (congrArg NMSettingIPConfig.dns (ipcfg_wireguard _ _ _)).trans dns_foldl_addTunnelRoute

lemma peers_activate (h : m.settings.wireguard.peers.length ≤ 1) :
    (m.activate config.toInterfaceConfig).settings.wireguard.peers =
      [⟨config.serverIpv4AddrIn ++ ":" ++ toString config.serverPort, WG_KEEPALIVE_PERIOD, config.serverPublicKey,
        config.allowedIPAddressRanges⟩] := by
  rw [settings_activate, wireguard_updateIpcfg]
  have ht : m.settings.wireguard.peers.tail = [] := List.eq_nil_of_length_eq_zero (by rw [List.length_tail]; omega)
  dsimp only [NMSettingWireGuard.setPeer]
  rw [ht]
  rfl

variable (config) in
lemma Inv.activate (h : Inv initial earlier m) :
    Inv initial (earlier ++ [config]) (m.activate config.toInterfaceConfig) where
  routes family := by
    obtain ⟨added, hr, hn, hm⟩ := (h.routes family).foldl config.allowedIPAddressRanges
    exact ⟨added, routes_ipcfg_activate.trans hr, hn, by simpa using hm⟩
  kept family hf := by
    obtain ⟨he, hc⟩ := List.forall_mem_append.mp hf
    rw [dns_ipcfg_activate, if_neg (fun hn => hc config (.head _) hn.symm)]
    exact h.kept family he
  set family hf := by
    rw [dns_ipcfg_activate]
    split
    · exact List.cons_ne_nil _ _
    · next hn =>
      obtain ⟨before, hb, hd⟩ := hf
      rcases List.mem_append.mp hb with hb | hb
      · exact h.set family ⟨before, hb, hd⟩
      · rw [List.mem_singleton.mp hb] at hd
        exact absurd hd.symm hn
  peers := by
    rw [peers_activate h.peers]
    exact le_rfl

lemma length_filter_tunnelRoute {added : List IPAddress} (hn : added.Nodup) (p : IPAddress) :
    ((added.map tunnelRoute).filter fun route => route.dest = p ∧ route.table = some WG_FIREWALL_MARK).length =
      if p ∈ added then 1 else 0 := by
  rw [List.filter_map, List.length_map]
  have hf : ((fun route : NMIPRoute => decide (route.dest = p ∧ route.table = some WG_FIREWALL_MARK)) ∘ tunnelRoute) =
      (· == p) := by
    funext i
    simp only [Function.comp_apply, tunnelRoute, and_true]
    rfl
  rw [hf, ← List.countP_eq_length_filter]
  exact hn.count

lemma Inv.tunnelRoutes_eq (h : Inv initial earlier m)
    (hp : p ∈ earlier.flatMap (·.allowedIPAddressRanges)) :
    tunnelRoutes p m.settings = tunnelRoutes p initial + if Known p (initial.ipcfg p.address.protocol) then 0 else 1 := by
  obtain ⟨added₄, h₄, hn₄, hm₄⟩ := h.routes .IPv4Protocol
  obtain ⟨added₆, h₆, hn₆, hm₆⟩ := h.routes .IPv6Protocol
  simp only [NMConnection.ipcfg] at h₄ h₆
  have hsum : ((if p ∈ added₄ then 1 else 0) + if p ∈ added₆ then 1 else 0) =
      if Known p (initial.ipcfg p.address.protocol) then 0 else 1 := by
    simp only [hm₄, hm₆, hp, true_and]
    cases hf : p.address.protocol <;> by_cases hk : Known p (initial.ipcfg p.address.protocol) <;>
      simp [hf] at hk ⊢
  unfold tunnelRoutes
  rw [h₄, h₆]
  simp only [List.filter_append, List.length_append, length_filter_tunnelRoute hn₄, length_filter_tunnelRoute hn₆]
  omega

variable (family) in
lemma Inv.drop_routes (h : Inv initial earlier m) : ∃ added : List IPAddress,
    (m.settings.ipcfg family).routes.drop (initial.ipcfg family).routes.length = added.map tunnelRoute ∧
      ∀ p, p ∈ added ↔ p ∈ earlier.flatMap (·.allowedIPAddressRanges) ∧ p.address.protocol = family ∧
        ¬Known p (initial.ipcfg family) := by
  obtain ⟨added, hr, -, hm⟩ := h.routes family
  exact ⟨added, by rw [hr, List.drop_left], hm⟩

lemma dns_activate_iff : (m.activate config.toInterfaceConfig).settings.ipv4config.dns ++
      (m.activate config.toInterfaceConfig).settings.ipv6config.dns = [config.dnsServer] ↔
    ∀ family, family ≠ dnsFamily config.dnsServer → (m.settings.ipcfg family).dns = [] := by
  have h₄ := dns_ipcfg_activate .IPv4Protocol m config
  have h₆ := dns_ipcfg_activate .IPv6Protocol m config
  simp only [NMConnection.ipcfg] at h₄ h₆
  rw [h₄, h₆]
  cases hf : dnsFamily config.dnsServer with
  | IPv4Protocol =>
    rw [if_pos rfl, if_neg (by simp), List.append_right_eq_self]
    exact ⟨fun hd family hn => by cases family <;> simp_all [NMConnection.ipcfg], fun hd => hd .IPv6Protocol (by simp)⟩
  | IPv6Protocol =>
    rw [if_neg (by simp), if_pos rfl, List.append_left_eq_self]
    exact ⟨fun hd family hn => by cases family <;> simp_all [NMConnection.ipcfg], fun hd => hd .IPv4Protocol (by simp)⟩

lemma Inv.exact_iff (h : Inv initial earlier m) :
    Exact initial (m.activate config.toInterfaceConfig).committed config.toInterfaceConfig ↔
      Compatible initial earlier config := by
  have ha := h.activate config
  have hone : ∀ p ∈ config.allowedIPAddressRanges,
      tunnelRoutes p (m.activate config.toInterfaceConfig).settings = 1 ↔
        tunnelRoutes p initial = if Known p (initial.ipcfg p.address.protocol) then 1 else 0 := by
    intro p hp
    rw [ha.tunnelRoutes_eq (by simp; exact .inr hp)]
    split_ifs <;> omega
  rw [committed_activate]
  constructor
  · intro he
    refine ⟨fun before hb p hp => ?_, fun p hp => (hone p hp).mp (he.once p hp), fun before hb => ?_, fun family hf => ?_⟩
    · by_contra hn
      obtain ⟨hc, hk⟩ := not_or.mp hn
      obtain ⟨added, hd, hm⟩ := ha.drop_routes p.address.protocol
      have hadded : p ∈ added := (hm p).mpr ⟨List.mem_flatMap.mpr ⟨before, List.mem_append_left _ hb, hp⟩, rfl, hk⟩
      refine hc ((he.others p.address.protocol).2 (tunnelRoute p) ?_)
      rw [hd]
      exact List.mem_map_of_mem hadded
    · by_contra hn
      exact h.set _ ⟨before, hb, rfl⟩ (dns_activate_iff.mp he.dns _ hn)
    · have hd := dns_activate_iff.mp he.dns
      refine (h.kept family fun before hb hn => ?_).symm.trans (hd family hf)
      exact h.set family ⟨before, hb, hn⟩ (hd family hf)
  · intro hc
    refine ⟨fun p hp => (hone p hp).mpr (hc.profile p hp), fun family => ⟨?_, ?_⟩,
      ⟨_, peers_activate h.peers, rfl, rfl, rfl⟩, ?_⟩
    · obtain ⟨added, hr, -⟩ := ha.routes family
      exact ⟨_, hr.symm⟩
    · intro route hr
      obtain ⟨added, hd, hm⟩ := ha.drop_routes family
      rw [hd] at hr
      obtain ⟨p, hp, rfl⟩ := List.mem_map.mp hr
      obtain ⟨hps, rfl, hk⟩ := (hm p).mp hp
      obtain ⟨before, hb, hpb⟩ := List.mem_flatMap.mp hps
      rcases List.mem_append.mp hb with hb | hb
      · exact (hc.ranges before hb p hpb).resolve_right hk
      · rw [List.mem_singleton.mp hb] at hpb
        exact hpb
    · refine dns_activate_iff.mpr fun family hf => ?_
      rw [h.kept family fun before hb hn => hf (hn.symm.trans (hc.dns before hb))]
      exact hc.profileDns family hf

lemma Inv.congr {m' : NetworkManagerController} (h : Inv initial earlier m) (he : m'.settings = m.settings) :
    Inv initial earlier m' :=
  ⟨he ▸ h.routes, he ▸ h.kept, he ▸ h.set, he ▸ h.peers⟩

lemma settings_deactivate : m.deactivate.settings = m.settings := by
  rw [deactivate]
  split <;> rfl

lemma settings_setActiveConnection (path : String) : (m.setActiveConnection path).settings = m.settings := by
  rw [setActiveConnection]
  split <;> rfl

lemma Inv.run (h : Inv initial earlier m) (events : List Event) :
    Inv initial (earlier ++ activated events) (run step m events) := by
  induction events generalizing m earlier with
  | nil => simpa [activated] using h
  | cons e events ih =>
    cases e with
    | activate config =>
      have hi := ih (h.activate config)
      rwa [List.append_assoc] at hi
    | deactivate => exact ih (h.congr settings_deactivate)
    | setActiveConnection path => exact ih (h.congr (settings_setActiveConnection path))

section

variable (privateKey deviceIpv4Address deviceIpv6Address : String) (remote : Option NMConnection)
  (active : Option String)

lemma inv_initializeController :
    Inv (initializeController privateKey deviceIpv4Address deviceIpv6Address remote active).settings []
      (initializeController privateKey deviceIpv4Address deviceIpv6Address remote active) where
  routes _ := ⟨[], by simp, List.nodup_nil, by simp⟩
  kept _ _ := rfl
  set _ hf := absurd hf (by simp)
  peers := by cases remote <;> exact Nat.zero_le 1

/-- What the last of any activations commits is exactly what its config asks for if and only if its ranges include those
of the earlier ones, as far as these added a route, all DNS servers are of one family, and the profile that was there at
first has no other DNS server and no other route of the tunnel to the ranges. -/
theorem exact_iff_compatible (events : List Event) (config : SingleHopConfig) :
    Exact (initializeController privateKey deviceIpv4Address deviceIpv6Address remote active).settings
        (run step (initializeController privateKey deviceIpv4Address deviceIpv6Address remote active)
          (events ++ [.activate config])).committed config.toInterfaceConfig ↔
      Compatible (initializeController privateKey deviceIpv4Address deviceIpv6Address remote active).settings
        (activated events) config := by
  rw [run_concat]
  exact ((inv_initializeController ..).run events).exact_iff

end

/-- All addresses, with an IPv4 server for DNS. -/
def fullRanges : SingleHopConfig where
  hopType := .SingleHop
  dnsServer := "10.64.0.1"
  allowedIPAddressRanges := [⟨.ipv4 0, 0⟩, ⟨.ipv6 (Vector.replicate 16 0), 0⟩]
  singleHop := rfl
  fits := by decide

/-- One network, with an IPv6 server for DNS. -/
def smallRanges : SingleHopConfig where
  hopType := .SingleHop
  dnsServer := "fc00::1"
  allowedIPAddressRanges := [⟨.ipv4 0x0a000000, 8⟩]
  singleHop := rfl
  fits := by decide

/-- The routes to all addresses are still there after the switch to one network. -/
theorem not_exact_smallRanges :
    ¬Exact (initializeController "key" "10.0.0.2/32" "fc00::2/128" none none).settings
      (run step (initializeController "key" "10.0.0.2/32" "fc00::2/128" none none)
        [.activate fullRanges, .deactivate, .activate smallRanges]).committed smallRanges.toInterfaceConfig :=
  fun h => absurd (h.others .IPv4Protocol).2 (by decide +kernel)

end NetworkManagerController

end VpnClient.Linux
