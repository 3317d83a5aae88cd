import VpnClient.Backend.Daemon

/-! The tunnel that the daemon keeps when every call of the platform succeeds: the configuration
of each hop, and the peers and routes on the interface. -/

namespace VpnClient.Backend

open Address Library.Attempts Library.Attempts.Attempt

structure Tunnel where
  configs : HopType → Option InterfaceConfig
  interface : Interface

def Daemon.tunnel (d : Daemon) : Tunnel := ⟨fun hop => (d.connections hop).map (·.config), d.interface⟩

namespace Tunnel

def hops (t : Tunnel) : List InterfaceConfig := HopType.all.filterMap t.configs

def apply (op : Op) (t : Tunnel) : Tunnel := { t with interface := t.interface.apply op }

def insert (config : InterfaceConfig) (t : Tunnel) : Tunnel :=
  { t with configs := Function.update t.configs config.hopType (some config) }

def addHop (config : InterfaceConfig) (t : Tunnel) : Tunnel where
  configs := Function.update t.configs config.hopType (some config)
  interface :=
    { present := true
      peers := Insert.insert config.serverPublicKey t.interface.peers
      routes := t.interface.routes ∪ config.allowedIPAddressRanges.toFinset }

def replaceHop (last config : InterfaceConfig) (t : Tunnel) : Tunnel where
  configs := Function.update t.configs config.hopType (some config)
  interface :=
    { present := t.interface.present
      peers := Insert.insert config.serverPublicKey t.interface.peers \
        if config.serverPublicKey = last.serverPublicKey then ∅ else {last.serverPublicKey}
      routes := (t.interface.routes ∪ config.allowedIPAddressRanges.toFinset) \
        (last.allowedIPAddressRanges.toFinset \ config.allowedIPAddressRanges.toFinset) }

def closed : Tunnel := ⟨fun _ => none, {}⟩

def supportServerSwitching (t : Tunnel) (config : InterfaceConfig) : Bool :=
  Connections.supportServerSwitching (fun hop => (t.configs hop).map fun config => { config }) config

def activate (config : InterfaceConfig) (t : Tunnel) : Tunnel :=
  match t.configs config.hopType with
  | none => t.addHop config
  | some last =>
    if t.supportServerSwitching config then t.replaceHop last config else closed.addHop config

def step (t : Tunnel) : Daemon.Call → Tunnel
  | .activate config => t.activate config
  | .deactivate _ => closed
  | .handshakeTimeout _ => t

end Tunnel

open Tunnel Daemon

def Daemon.At (t : Tunnel) (d : Daemon) : Prop := d.tunnel = t

variable {b : Bool} {config last : InterfaceConfig} {d : Daemon} {t : Tunnel}

lemma foldl_insert_routes (ips : List IPAddress) (t : Tunnel) :
    ips.foldl (fun t ip => t.apply (.updateRoutePrefix ip)) t =
      ⟨t.configs, { t.interface with routes := t.interface.routes ∪ ips.toFinset }⟩ := by
  induction ips generalizing t with
  | nil => simp
  | cons ip ips ih =>
    rw [List.foldl_cons, ih]
    simp [Tunnel.apply, Interface.apply, Finset.insert_union, Finset.union_insert]

lemma foldl_erase_routes (ips : List IPAddress) (t : Tunnel) :
    ips.foldl (fun t ip => t.apply (.deleteRoutePrefix ip)) t =
      ⟨t.configs, { t.interface with routes := t.interface.routes \ ips.toFinset }⟩ := by
  induction ips generalizing t with
  | nil => simp
  | cons ip ips ih =>
    rw [List.foldl_cons, ih]
    simp [Tunnel.apply, Interface.apply, ← Finset.erase_sdiff_comm, Finset.sdiff_insert]

lemma tunnel_values (d : Daemon) : d.connections.values.map (·.config) = d.tunnel.hops := by
  simp only [Connections.values, Tunnel.hops, Daemon.tunnel, List.map_filterMap]

lemma ensures_perform (op : Op) (t : Tunnel) :
    Ensures (At t) (perform (.succeeding b) op) (At (t.apply op)) := by
  rintro d rfl
  exact ⟨rfl, rfl⟩

lemma ensures_maybeUpdateResolvers (config : InterfaceConfig) (t : Tunnel) :
    Ensures (At t) (maybeUpdateResolvers (.succeeding b) config) (At t) := by
  unfold maybeUpdateResolvers
  split
  · exact ensures_perform _ t
  · exact ensures_succeed fun _ hd => hd

lemma ensures_updateRoutes (ips : List IPAddress) (t : Tunnel) :
    Ensures (At t) (forEach (fun ip => perform (.succeeding b) (.updateRoutePrefix ip)) ips)
      (At ⟨t.configs, { t.interface with routes := t.interface.routes ∪ ips.toFinset }⟩) := by
  rw [← foldl_insert_routes]
  exact ensures_forEach (fun t ip => ensures_perform _ t) t ips

lemma ensures_deleteRoutes (ips : List IPAddress) (t : Tunnel) :
    Ensures (At t) (forEach (fun ip => (perform (.succeeding b) (.deleteRoutePrefix ip)).ignoring) ips)
      (At ⟨t.configs, { t.interface with routes := t.interface.routes \ ips.toFinset }⟩) := by
  rw [← foldl_erase_routes]
  exact ensures_forEach (fun t ip => (ensures_perform _ t).ignoring) t ips

lemma ensures_bringUp (config : InterfaceConfig) (t : Tunnel) :
    Ensures (At t) (bringUp (.succeeding b) config) (At (t.apply (.addInterface config))) := by
  refine (ensures_perform _ t).andThen ?_
  refine Ensures.andThen (Q := At (t.apply (.addInterface config))) ?_ (ensures_perform _ _)
  refine Ensures.when ?_ fun _ hd _ => hd
  exact ((ensures_perform _ _).andThen (ensures_perform _ _)).consequence (fun _ hd => hd.1) fun _ hd => hd

lemma tunnel_insert (config : InterfaceConfig) (d : Daemon) :
    Daemon.tunnel { d with connections := d.connections.insert config } = d.tunnel.insert config := by
  simp only [Daemon.tunnel, Connections.insert, Tunnel.insert, Tunnel.mk.injEq, and_true]
  funext hop
  by_cases hh : hop = config.hopType
  · subst hh
    simp
  · simp [Function.update_of_ne hh]

lemma ensures_insert (config : InterfaceConfig) (t : Tunnel) :
    Ensures (At t) (succeed fun d => { d with connections := d.connections.insert config })
      (At (t.insert config)) := by
  refine ensures_succeed ?_
  rintro d rfl
  exact tunnel_insert config d

lemma ensures_connect (config : InterfaceConfig) (t : Tunnel) :
    Ensures (At t) (succeed (connect config)) (At (t.insert config)) := ensures_insert config t

lemma ensures_activateHop (config : InterfaceConfig) (t : Tunnel) :
    Ensures (At t) (activateHop (.succeeding b) config) (At (t.addHop config)) := by
  let up : Tunnel := ⟨t.configs, { t.interface with present := true }⟩
  have hup : Ensures (At t) ((bringUp (.succeeding b) config).when fun d => !d.interface.present) (At up) := by
    refine Ensures.when ?_ ?_
    · exact (ensures_bringUp config t).consequence (fun _ hd => hd.1) fun _ hd => hd
    · rintro d rfl hd
      have hi : d.interface.present = true := by simpa using hd
      change (⟨_, d.interface⟩ : Tunnel) = ⟨_, { d.interface with present := true }⟩
      rw [← hi]
      rfl
  exact hup.andThen <| (ensures_perform _ _).andThen <| (ensures_maybeUpdateResolvers _ _).andThen <|
    (ensures_updateRoutes _ _).andThen <| (ensures_perform _ _).andThen <| ensures_connect _ _

lemma toFinset_filter_notMem (ips others : List IPAddress) :
    (ips.filter (· ∉ others)).toFinset = ips.toFinset \ others.toFinset := by
  ext ip
  simp

lemma ensures_deleteLastPeer (config last : InterfaceConfig) (t : Tunnel) :
    Ensures (At t) ((perform (.succeeding b) (.deletePeer last)).when
        fun _ => config.serverPublicKey != last.serverPublicKey)
      (At ⟨t.configs, { t.interface with
        peers := t.interface.peers \
          if config.serverPublicKey = last.serverPublicKey then ∅ else {last.serverPublicKey} }⟩) := by
  refine Ensures.when ?_ ?_
  · rintro d ⟨rfl, hd⟩
    refine ⟨rfl, ?_⟩
    simp [At, (by simpa using hd : config.serverPublicKey ≠ last.serverPublicKey), perform,
      Env.succeeding, Daemon.tunnel, Interface.apply, Finset.sdiff_singleton_eq_erase]
  · rintro d rfl hd
    simp [At, (by simpa using hd : config.serverPublicKey = last.serverPublicKey)]

lemma ensures_switchServer (hl : t.configs config.hopType = some last) :
    Ensures (At t) (switchServer (.succeeding b) config) (At (t.replaceHop last config)) := by
  rintro d rfl
  obtain ⟨⟨date, last⟩, hc, rfl⟩ := Option.map_eq_some_iff.mp hl
  unfold switchServer
  rw [hc]
  have hs := (ensures_perform (b := b) (.updatePeer config) d.tunnel).andThen <|
    (ensures_updateRoutes (b := b) config.allowedIPAddressRanges _).ignoring.andThen <|
    (ensures_deleteRoutes (b := b) (last.allowedIPAddressRanges.filter (· ∉ config.allowedIPAddressRanges)) _).andThen <|
    (ensures_deleteLastPeer (b := b) config last _).andThen <| ensures_insert config _
  rw [toFinset_filter_notMem] at hs
  exact hs d rfl

lemma ensures_deleteConnections (env : Env) :
    Ensures (fun _ => True) (deleteConnections env) (fun d => d.connections = fun _ => none) := by
  have hp : ∀ op, Ensures (fun _ => True) (perform env op).ignoring (fun _ => True) := fun _ _ _ => ⟨rfl, trivial⟩
  have hd : ∀ state : ConnectionState, Ensures (fun _ => True)
      ((forEach (fun ip => (perform env (.deleteRoutePrefix ip)).ignoring) state.config.allowedIPAddressRanges).andThen
        (perform env (.deletePeer state.config)).ignoring) (fun _ => True) :=
    fun _ => (ensures_forEach_of (fun _ => hp _) _).andThen (hp _)
  have hc : Ensures (fun _ => True) (succeed fun d : Daemon => { d with connections := fun _ => none })
      (fun d => d.connections = fun _ => none) := ensures_succeed fun _ _ => rfl
  intro d _
  exact ((ensures_forEach_of hd d.connections.values).andThen hc) d trivial

lemma ensures_runDown (t : Tunnel) : Ensures (At t) (runDown (.succeeding b)) (At t) := by
  rintro d rfl
  unfold runDown
  split
  · exact ⟨rfl, rfl⟩
  · exact ensures_perform _ d.tunnel d rfl

lemma ensures_emitDisconnected {a : Attempt Daemon} {t' : Tunnel} (emitSignals : Bool)
    (ha : Ensures (At t) a (At t')) : Ensures (At t) (emitDisconnected emitSignals a) (At t') := by
  intro d hd
  obtain ⟨h₁, h₂⟩ := ha d hd
  refine ⟨h₁, ?_⟩
  cases emitSignals
  · exact h₂
  · exact h₂

lemma ensures_deleteInterface :
    Ensures (fun d => d.connections = fun _ => none) (perform (.succeeding b) .deleteInterface) (At closed) := by
  intro d hd
  refine ⟨rfl, ?_⟩
  simp only [At, Daemon.tunnel, closed, perform, Env.succeeding, hd]
  rfl

lemma ensures_deactivate (emitSignals : Bool) (t : Tunnel) :
    Ensures (At t) (deactivate (.succeeding b) emitSignals) (At closed) :=
  (ensures_runDown t).andThen <| ensures_emitDisconnected emitSignals <|
    ((ensures_perform _ _).ignoring.consequence (fun _ hd => hd) fun _ _ => trivial).andThen <|
    (ensures_deleteConnections _).andThen ensures_deleteInterface

lemma ensures_emitFailure {a : Attempt Daemon} {t' : Tunnel} (ha : Ensures (At t) a (At t')) :
    Ensures (At t) (emitFailure a) (At t') := by
  intro d hd
  obtain ⟨h₁, h₂⟩ := ha d hd
  simpa [emitFailure, h₁] using h₂

lemma ensures_activateNested_none (hc : t.configs config.hopType = none) (depth : ℕ) :
    Ensures (At t) (activateNested (.succeeding b) config (depth + 1)) (At (t.addHop config)) := by
  refine ensures_emitFailure ?_
  rintro d rfl
  have hd : d.connections config.hopType = none := Option.map_eq_none_iff.mp hc
  simpa [hd] using ensures_activateHop (b := b) config d.tunnel d rfl

lemma insert_replaceHop (last config : InterfaceConfig) (t : Tunnel) :
    (t.replaceHop last config).insert config = t.replaceHop last config := by
  simp [Tunnel.insert, Tunnel.replaceHop]

lemma tunnel_supportServerSwitching (d : Daemon) (config : InterfaceConfig) :
    d.tunnel.supportServerSwitching config = d.connections.supportServerSwitching config := by
  unfold Tunnel.supportServerSwitching Connections.supportServerSwitching Daemon.tunnel
  cases hc : d.connections config.hopType <;> simp [hc]

lemma ensures_activate (config : InterfaceConfig) (t : Tunnel) :
    Ensures (At t) (activate (.succeeding b) config) (At (t.activate config)) := by
  unfold Tunnel.activate
  split
  · next hc => exact ensures_activateNested_none hc 1
  · next last hc =>
    refine ensures_emitFailure ?_
    rintro d rfl
    have hd : (d.connections config.hopType).isSome = true := by
      simpa [Daemon.tunnel] using congrArg Option.isSome hc
    rw [tunnel_supportServerSwitching]
    simp only [hd, if_true]
    split
    · next hs =>
      rw [← insert_replaceHop]
      exact ((ensures_switchServer hc).andThen <| (ensures_perform _ _).andThen <|
        (ensures_maybeUpdateResolvers _ _).andThen <| (ensures_perform _ _).andThen <|
        ensures_connect _ _) d rfl
    · next hs =>
      exact ((ensures_deactivate false d.tunnel).andThen (ensures_activateNested_none rfl 0)) d rfl

lemma tunnel_checkHandshake (peers : List PeerStatus) (d : Daemon) :
    (checkHandshake peers d).tunnel = d.tunnel := by
  have hc : ∀ c : ConnectionState, (recordHandshake peers c).config = c.config := by
    intro c
    unfold recordHandshake
    split <;> rfl
  simp [checkHandshake, Daemon.tunnel, Function.comp_def, hc]

lemma tunnel_step (d : Daemon) (call : Call) :
    (Daemon.step (.succeeding b) d call).tunnel = d.tunnel.step call := by
  cases call with
  | activate config => exact (ensures_activate config d.tunnel d rfl).2
  | deactivate emitSignals => exact (ensures_deactivate emitSignals d.tunnel d rfl).2
  | handshakeTimeout peers =>
    simp only [Daemon.step, Tunnel.step]
    split
    · exact tunnel_checkHandshake peers d
    · rfl

end VpnClient.Backend
