import VpnClient.Backend.Session
import VpnClient.Library.Runs

/-! Which hops the daemon holds while a client activates, switches and deactivates. -/

namespace VpnClient.Backend

open Library.Runs

def Connections.keys (c : Connections) : List HopType := HopType.all.filter fun hop => (c hop).isSome

namespace Session

variable {b : Bool} {s : Session} {e : Event} {t : Tunnel}

/-- What the daemon holds fits the last activation, and its status never describes another one. -/
structure HopsFit (s : Session) : Prop where
  keys : s.daemon.connections.keys ∈
    [[], [.SingleHop], [.MultiHopEntry], [.MultiHopEntry, .MultiHopExit]]
  completed : s.completed = true → ∃ activation, s.activation = some activation ∧
    s.daemon.connections.values.map (·.config) = activation.activationQueue
  status : ∀ peers, (s.daemon.getStatus peers).connected = true →
    ∃ activation, s.activation = some activation ∧ ∃ config ∈ activation.activationQueue,
      (s.daemon.getStatus peers).serverIpv4Gateway = config.serverIpv4Gateway ∧
      (s.daemon.getStatus peers).deviceIpv4Address = config.deviceIpv4Address

/-- The daemon holds no hop of the other kind when an activation starts, and an exit hop that it
replaces supports switching. -/
def KindKept (s : Session) : Event → Prop
  | .activate (.singleHop _) =>
    s.daemon.connections .MultiHopEntry = none ∧ s.daemon.connections .MultiHopExit = none
  | .activate (.multiHop _ _) => s.daemon.connections .SingleHop = none
  | .connected => ∀ config ∈ s.activationQueue[1]?, s.daemon.connections .MultiHopExit = none ∨
    s.daemon.connections.supportServerSwitching config = true
  | _ => True

/-- The hops of a tunnel as an activation leaves them when `queue` of it still has to connect. -/
def Holds (configs : HopType → Option InterfaceConfig) (completed : Bool) (queue : List InterfaceConfig) :
    Option Activation → Prop
  | none => (∀ hop, configs hop = none) ∧ queue = [] ∧ completed = false
  | some (.singleHop exitConfig) =>
    configs .SingleHop = some (exitConfig.setHopType .SingleHop) ∧
      configs .MultiHopEntry = none ∧ configs .MultiHopExit = none ∧ queue.length ≤ 1
  | some (.multiHop entryConfig exitConfig) =>
    configs .SingleHop = none ∧
      configs .MultiHopEntry = some (entryConfig.setHopType .MultiHopEntry) ∧
      (queue.length = 1 ∨ completed = true →
        configs .MultiHopExit = some (exitConfig.setHopType .MultiHopExit)) ∧
      queue <:+ (Activation.multiHop entryConfig exitConfig).activationQueue

def Inv (s : Session) : Prop := Holds s.daemon.tunnel.configs s.completed s.activationQueue s.activation

lemma keys_eq (d : Daemon) :
    d.connections.keys = HopType.all.filter fun hop => (d.tunnel.configs hop).isSome := by
  simp [Connections.keys, Daemon.tunnel]

lemma getStatus_connected {d : Daemon} {peers : List Daemon.PeerStatus}
    (hc : (d.getStatus peers).connected = true) : ∃ config ∈ d.tunnel.hops.head?,
      (d.getStatus peers).serverIpv4Gateway = config.serverIpv4Gateway ∧
      (d.getStatus peers).deviceIpv4Address = config.deviceIpv4Address := by
  rw [← tunnel_values, List.head?_map]
  rw [Daemon.getStatus] at hc ⊢
  split_ifs at hc ⊢ with hp
  cases hf : d.connections.first with
  | none => simp [hf] at hc
  | some connection =>
    refine ⟨connection.config, by simpa [Connections.first] using ⟨connection, hf, rfl⟩, ?_⟩
    simp only [hf] at hc ⊢
    split at hc
    · cases hc
    · simp

lemma tunnel_hops (d : Daemon) : d.tunnel.hops = (d.tunnel.configs .SingleHop).toList ++
    (d.tunnel.configs .MultiHopEntry).toList ++ (d.tunnel.configs .MultiHopExit).toList := by
  cases hs : d.tunnel.configs .SingleHop <;> cases he : d.tunnel.configs .MultiHopEntry <;>
    cases hx : d.tunnel.configs .MultiHopExit <;> simp [Tunnel.hops, HopType.all, hs, he, hx]

lemma Inv.hops (hi : s.Inv) (config : InterfaceConfig) (hc : config ∈ s.daemon.tunnel.hops.head?) :
    ∃ activation, s.activation = some activation ∧ config ∈ activation.activationQueue := by
  rw [tunnel_hops] at hc
  unfold Inv Holds at hi
  split at hi
  · obtain ⟨hn, -⟩ := hi
    simp [hn] at hc
  · next exitConfig ha =>
    obtain ⟨hs, -⟩ := hi
    refine ⟨_, ha, ?_⟩
    simp only [hs, Option.toList_some, List.cons_append, List.head?_cons, Option.mem_some_iff] at hc
    simp [Activation.activationQueue, hc]
  · next entryConfig exitConfig ha =>
    obtain ⟨hs, he, -⟩ := hi
    refine ⟨_, ha, ?_⟩
    simp only [hs, he, Option.toList_none, Option.toList_some, List.nil_append, List.cons_append,
      List.head?_cons, Option.mem_some_iff] at hc
    simp [Activation.activationQueue, hc]

lemma Inv.hopsFit (hi : s.Inv) : s.HopsFit where
  keys := by
    rw [keys_eq]
    unfold Inv Holds at hi
    split at hi
    · obtain ⟨hn, -⟩ := hi
      simp [HopType.all, hn]
    · obtain ⟨hs, he, hx, -⟩ := hi
      simp [HopType.all, hs, he, hx]
    · obtain ⟨hs, he, -⟩ := hi
      cases hx : s.daemon.tunnel.configs .MultiHopExit <;> simp [HopType.all, hs, he, hx]
  completed := by
    intro hc
    rw [tunnel_values, tunnel_hops]
    unfold Inv Holds at hi
    split at hi
    · simp [hi.2.2] at hc
    · next exitConfig ha =>
      obtain ⟨hs, he, hx, -⟩ := hi
      exact ⟨_, ha, by simp [Activation.activationQueue, hs, he, hx]⟩
    · next entryConfig exitConfig ha =>
      obtain ⟨hs, he, hx, -⟩ := hi
      exact ⟨_, ha, by simp [Activation.activationQueue, hs, he, hx (Or.inr hc)]⟩
  status := by
    intro peers hc
    obtain ⟨config, hh, hg⟩ := getStatus_connected hc
    obtain ⟨activation, ha, hm⟩ := hi.hops config hh
    exact ⟨activation, ha, config, hm, hg⟩

lemma configs_activate (t : Tunnel) (config : InterfaceConfig) : (t.activate config).configs =
    Function.update (if (t.configs config.hopType).isSome ∧ t.supportServerSwitching config = false
      then fun _ => none else t.configs) config.hopType (some config) := by
  rw [Tunnel.activate]
  cases hc : t.configs config.hopType with
  | none => simp [Tunnel.addHop]
  | some last => cases hs : t.supportServerSwitching config <;> simp [Tunnel.addHop, Tunnel.replaceHop, Tunnel.closed]

lemma configs_none (d : Daemon) (hop : HopType) : d.tunnel.configs hop = none ↔ d.connections hop = none :=
  Option.map_eq_none_iff

lemma tunnel_send (call : Daemon.Call) (s : Session) :
    (s.send (.succeeding b) [call]).daemon.tunnel = s.daemon.tunnel.step call := tunnel_step _ _

lemma tunnel_activate (activation : Activation) (s : Session) :
    (step (.succeeding b) s (.activate activation)).daemon.tunnel =
      match activation with
      | .singleHop exitConfig => s.daemon.tunnel.activate (exitConfig.setHopType .SingleHop)
      | .multiHop entryConfig _ => s.daemon.tunnel.activate (entryConfig.setHopType .MultiHopEntry) := by
  cases activation <;> exact tunnel_send _ _

lemma holds_singleHop {configs : HopType → Option InterfaceConfig} (completed : Bool) (exitConfig : InterfaceConfig)
    (he : configs .MultiHopEntry = none) (hx : configs .MultiHopExit = none) :
    Holds (Function.update configs .SingleHop (some (exitConfig.setHopType .SingleHop))) completed
      (Activation.singleHop exitConfig).activationQueue (some (.singleHop exitConfig)) :=
  ⟨by simp, by simp [he], by simp [hx], le_rfl⟩

lemma holds_multiHop {configs : HopType → Option InterfaceConfig} (entryConfig exitConfig : InterfaceConfig)
    (hs : configs .SingleHop = none) :
    Holds (Function.update configs .MultiHopEntry (some (entryConfig.setHopType .MultiHopEntry))) false
      (Activation.multiHop entryConfig exitConfig).activationQueue (some (.multiHop entryConfig exitConfig)) :=
  ⟨by simp [hs], by simp, by simp [Activation.activationQueue], List.suffix_rfl⟩

lemma inv_activate {activation : Activation} (hk : s.KindKept (.activate activation)) :
    (step (.succeeding b) s (.activate activation)).Inv := by
  rw [Inv]
  rw [tunnel_activate]
  cases activation with
  | singleHop exitConfig =>
    obtain ⟨he, hx⟩ := hk
    rw [← configs_none] at he hx
    simp only [configs_activate]
    apply holds_singleHop <;> split_ifs <;> first | rfl | assumption
  | multiHop entryConfig exitConfig =>
    have hs := (configs_none _ _).mpr hk
    simp only [configs_activate]
    apply holds_multiHop
    split_ifs
    · rfl
    · exact hs

lemma suffix_pair {A : Type} {config x y : A} {queue : List A} (hq : config :: queue <:+ [x, y]) :
    config = x ∧ queue = [y] ∨ config = y ∧ queue = [] := by
  simpa [List.suffix_cons_iff] using hq

lemma configs_activate_self (t : Tunnel) (config : InterfaceConfig) :
    (t.activate config).configs config.hopType = some config := by
  rw [configs_activate, Function.update_self]

lemma configs_activate_other (t : Tunnel) (config : InterfaceConfig) {hop : HopType} (hh : hop ≠ config.hopType)
    (hk : t.configs config.hopType = none ∨ t.supportServerSwitching config = true) :
    (t.activate config).configs hop = t.configs hop := by
  rw [configs_activate, Function.update_of_ne hh, if_neg]
  rcases hk with hk | hk <;> simp [hk]

lemma inv_connected (hi : s.Inv) (hk : s.KindKept .connected) : (s.connected (.succeeding b)).Inv := by
  obtain ⟨_ | ⟨config, queue⟩, _ | exitConfig | ⟨entryConfig, exitConfig⟩, completed, daemon⟩ := s
  · exact hi
  · exact hi
  · exact hi
  · cases hi.2.1
  · obtain ⟨hs, he, hx, hl⟩ := hi
    obtain rfl : queue = [] := by simpa using hl
    exact ⟨hs, he, hx, by simp [connected]⟩
  · obtain ⟨hs, he, hx, hq⟩ := hi
    obtain ⟨rfl, rfl⟩ | ⟨rfl, rfl⟩ := suffix_pair hq
    · have hk' : daemon.tunnel.configs .MultiHopExit = none ∨
          daemon.tunnel.supportServerSwitching (exitConfig.setHopType .MultiHopExit) = true := by
        rw [configs_none, tunnel_supportServerSwitching]
        exact hk _ rfl
      have ht := tunnel_send (b := b) (.activate (exitConfig.setHopType .MultiHopExit))
        ⟨[exitConfig.setHopType .MultiHopExit], some (.multiHop entryConfig exitConfig), completed, daemon⟩
      change Holds (Session.daemon (send _ [_] ⟨_, _, _, daemon⟩)).tunnel.configs completed _ _
      rw [ht]
      refine ⟨?_, ?_, fun _ => configs_activate_self _ _, List.suffix_cons _ _⟩
      · exact (configs_activate_other _ _ (by simp) hk').trans hs
      · exact (configs_activate_other _ _ (by simp) hk').trans he
    · exact ⟨hs, he, fun _ => hx (Or.inl rfl), by simp [connected]⟩

lemma inv_deactivate (hi : s.Inv) (ready : Bool) (reason : Reason) :
    (s.deactivate (.succeeding b) ready reason).Inv := by
  have hm : deactivateMessages ready reason = [] ∨ deactivateMessages ready reason = [.deactivate true] := by
    rw [deactivateMessages]
    split_ifs <;> simp
  rw [deactivate]
  rcases hm with hm | hm
  · rw [hm]
    obtain ⟨queue, _ | exitConfig | ⟨entryConfig, exitConfig⟩, completed, daemon⟩ := s
    · exact ⟨hi.1, rfl, hi.2.2⟩
    · exact ⟨hi.1, hi.2.1, hi.2.2.1, by simp⟩
    · obtain ⟨hs, he, hx, -⟩ := hi
      exact ⟨hs, he, fun hc => hx (Or.inr (by simpa using hc)), List.nil_suffix⟩
  · rw [hm]
    refine ⟨fun hop => ?_, rfl, rfl⟩
    change (Session.daemon (send _ [_] s)).tunnel.configs hop = none
    rw [tunnel_send]
    rfl

lemma inv_step (hi : s.Inv) (hk : s.KindKept e) : (step (.succeeding b) s e).Inv := by
  cases e with
  | activate activation => exact inv_activate hk
  | connected => exact inv_connected hi hk
  | deactivate ready reason => exact inv_deactivate hi ready reason
  | handshakeTimeout peers =>
    rw [Inv]
    rw [step, tunnel_send]
    exact hi

lemma keys_mem {configs : HopType → Option InterfaceConfig}
    (hk : (HopType.all.filter fun hop => (configs hop).isSome) ∈
      [[], [.SingleHop], [.MultiHopEntry], [.MultiHopEntry, .MultiHopExit]]) :
    (configs .SingleHop = none ∨ configs .MultiHopEntry = none ∧ configs .MultiHopExit = none) ∧
      (configs .MultiHopEntry = none → configs .MultiHopExit = none) := by
  cases hs : configs .SingleHop <;> cases he : configs .MultiHopEntry <;> cases hx : configs .MultiHopExit <;>
    simp_all [HopType.all]

lemma kindKept_activate {activation : Activation} (hi : s.Inv)
    (hk : (step (.succeeding b) s (.activate activation)).daemon.connections.keys ∈
      [[], [.SingleHop], [.MultiHopEntry], [.MultiHopEntry, .MultiHopExit]]) :
    s.KindKept (.activate activation) := by
  rw [keys_eq, tunnel_activate] at hk
  obtain ⟨hk, -⟩ := keys_mem hk
  obtain ⟨queue, last, completed, daemon⟩ := s
  cases activation with
  | singleHop config =>
    simp only [KindKept, ← configs_none]
    rcases last with _ | exitConfig | ⟨entryConfig, exitConfig⟩
    · exact ⟨hi.1 _, hi.1 _⟩
    · exact ⟨hi.2.1, hi.2.2.1⟩
    · obtain ⟨hs, he, -⟩ := hi
      have hs' := configs_activate_self daemon.tunnel (config.setHopType .SingleHop)
      have he' := configs_activate_other daemon.tunnel (config.setHopType .SingleHop)
        (show HopType.MultiHopEntry ≠ .SingleHop by simp) (Or.inl hs)
      simp_all
  | multiHop config _ =>
    simp only [KindKept, ← configs_none]
    rcases last with _ | exitConfig | ⟨entryConfig, exitConfig⟩
    · exact hi.1 _
    · obtain ⟨hs, he, -⟩ := hi
      have he' := configs_activate_self daemon.tunnel (config.setHopType .MultiHopEntry)
      have hs' := configs_activate_other daemon.tunnel (config.setHopType .MultiHopEntry)
        (show HopType.SingleHop ≠ .MultiHopEntry by simp) (Or.inl he)
      simp_all
    · exact hi.1

lemma Inv.second {config : InterfaceConfig} (hi : s.Inv) (hc : config ∈ s.activationQueue[1]?) :
    config.hopType = .MultiHopExit ∧ ∃ first, s.activationQueue = [first, config] := by
  obtain ⟨_ | ⟨first, _ | ⟨next, queue⟩⟩, _ | exitConfig | ⟨entryConfig, exitConfig⟩, completed, daemon⟩ := s
  all_goals try simp at hc
  · cases hi.2.1
  · simp [Inv, Holds] at hi
  · obtain ⟨-, -, -, hq⟩ := hi
    obtain ⟨-, hq⟩ | ⟨-, hq⟩ := suffix_pair hq
    · obtain ⟨rfl, rfl⟩ : next = exitConfig.setHopType .MultiHopExit ∧ queue = [] := by simpa using hq
      exact ⟨hc ▸ rfl, first, by rw [hc]⟩
    · cases hq

lemma kindKept_connected (hi : s.Inv) (hk : (s.connected (.succeeding b)).daemon.connections.keys ∈
    [[], [.SingleHop], [.MultiHopEntry], [.MultiHopEntry, .MultiHopExit]]) : s.KindKept .connected := by
  intro config hc
  obtain ⟨hh, first, hq⟩ := hi.second hc
  have ht : (s.connected (.succeeding b)).daemon.tunnel = s.daemon.tunnel.activate config := by
    rw [connected]
    rw [hq]
    exact tunnel_send _ _
  rw [keys_eq, ht] at hk
  obtain ⟨-, hk⟩ := keys_mem hk
  rw [← configs_none, ← tunnel_supportServerSwitching]
  by_contra hn
  obtain ⟨hx, hs⟩ := not_or.mp hn
  have hx' := hh ▸ configs_activate_self s.daemon.tunnel config
  rw [hk (by simp [configs_activate, hh, hs, Option.isSome_iff_ne_none, hx])] at hx'
  cases hx'

lemma kindKept_of_keys (hi : s.Inv) (hk : (step (.succeeding b) s e).daemon.connections.keys ∈
    [[], [.SingleHop], [.MultiHopEntry], [.MultiHopEntry, .MultiHopExit]]) : s.KindKept e := by
  cases e with
  | activate activation => exact kindKept_activate hi hk
  | connected => exact kindKept_connected hi hk
  | deactivate ready reason => trivial
  | handshakeTimeout peers => trivial

/-- What the daemon holds fits the activations of the client exactly as long as no activation
changes the kind of connection under it. -/
theorem hopsFit_iff (supportIPUtils : Bool) (events : List Event) :
    (∀ fs, fs <+: events → (run (step (.succeeding supportIPUtils)) {} fs).HopsFit) ↔
      Meets (step (.succeeding supportIPUtils)) KindKept {} events := by
  have h₀ : Inv {} := ⟨fun _ => rfl, rfl, rfl⟩
  refine (meets_iff_throughout (P := Inv) (fun _ _ => inv_step) (fun s e hi => ?_) h₀ h₀.hopsFit).symm
  exact ⟨fun hk => (inv_step hi hk).hopsFit, fun hf => kindKept_of_keys hi hf.keys⟩

/-- A multi-hop activation that follows a single-hop one without a deactivation of the daemon leaves
the single hop in place, and the status describes it. -/
theorem hopsFit_kind_changed :
    let single : InterfaceConfig := { hopType := .SingleHop, serverPublicKey := "A", serverIpv4Gateway := "10.64.0.1" }
    let entry : InterfaceConfig := { hopType := .MultiHopEntry, serverPublicKey := "B" }
    let exit : InterfaceConfig := { hopType := .MultiHopExit, serverPublicKey := "C" }
    let s := run (step (.succeeding true)) {} [.activate (.singleHop single), .connected,
      .deactivate true .ReasonSwitching, .activate (.multiHop entry exit), .connected, .connected]
    s.completed = true ∧ s.daemon.connections.keys = [.SingleHop, .MultiHopEntry, .MultiHopExit] ∧
      (s.daemon.getStatus [⟨"A", 0, 0, 0⟩]).serverIpv4Gateway = "10.64.0.1" ∧ ¬ s.HopsFit := by
  intro single entry exit s
  have hk : s.daemon.connections.keys = [.SingleHop, .MultiHopEntry, .MultiHopExit] := by decide
  refine ⟨by decide, hk, by decide, fun hf => ?_⟩
  have hk' := hf.keys
  rw [hk] at hk'
  revert hk'
  decide

end Session

end VpnClient.Backend
