import VpnClient.Backend.Occupied

/-! What an activation reports when one call of the platform fails: its result, its signals, and the connection and the
routes that a success promises. -/

namespace VpnClient.Backend

open Library.Attempts Library.Attempts.Attempt

/-- The `k`-th call of the platform fails, and no other. -/
def Env.failing (supportIPUtils : Bool) (k : ℕ) : Env := ⟨supportIPUtils, fun n => n != k⟩

namespace Daemon

/-- Signals and routes that are left after a call are then those of the call. -/
def unmarked (d : Daemon) : Daemon := { d with signals := [], interface := { d.interface with routes := ∅ } }

/-- The hop has the connection, and the routes are updated. -/
def Connected (config : InterfaceConfig) (d : Daemon) : Prop :=
  d.connections config.hopType = some { config } ∧ ∀ ip ∈ config.allowedIPAddressRanges, ip ∈ d.interface.routes

def Reported (config : InterfaceConfig) (r : Bool × Daemon) : Prop :=
  if r.1 then Signal.activationFailure ∉ r.2.signals ∧ Connected config r.2
  else r.2.signals.count .activationFailure = 1

/-- The prefixes whose routes are updated before the failing call make up all of them. -/
def Routed (k : ℕ) (config : InterfaceConfig) (d : Daemon) : Prop :=
  d.calls < k → config.allowedIPAddressRanges ⊆ config.allowedIPAddressRanges.take (k - d.calls - 1)

/-- The failing call is not one of a hop that is brought up after a deactivation, nor one that leaves a switched hop
without a route. -/
def Spared (supportIPUtils : Bool) (k : ℕ) (config : InterfaceConfig) (d : Daemon) : Prop :=
  if Reconnects config d then k ≤ d.calls + downCalls d ∨
    d.calls + downCalls d + bringUpCalls (Env.failing supportIPUtils k) config {} < k
  else (d.connections config.hopType).isSome → Routed k config d

variable {env : Env} {config last : InterfaceConfig} {d : Daemon} {k : ℕ} {b : Bool}

/-- The part of `switchHop` that follows the updates of the routes. -/
def completeSwitch (env : Env) (config last : InterfaceConfig) : Attempt Daemon :=
  (forEach (fun ip => (perform env (.deleteRoutePrefix ip)).ignoring)
    (last.allowedIPAddressRanges.filter (· ∉ config.allowedIPAddressRanges))).andThen <|
  ((perform env (.deletePeer last)).when fun _ => config.serverPublicKey != last.serverPublicKey).andThen <|
  (succeed fun d => { d with connections := d.connections.insert config }).andThen <|
  (perform env .restoreResolvers).andThen <|
  (maybeUpdateResolvers env config).andThen <|
  (perform env (.run .Switch config)).andThen <|
  succeed (connect config)

lemma switchHop_eq {date : Option ℕ} (hl : d.connections config.hopType = some ⟨date, last⟩) :
    switchHop env config d = ((perform env (.updatePeer config)).andThen <|
      (forEach (fun ip => perform env (.updateRoutePrefix ip)) config.allowedIPAddressRanges).ignoring.andThen <|
      completeSwitch env config last) d := by
  have h : ∀ rest : Attempt Daemon, (switchServer env config).andThen rest d =
      (((perform env (.updatePeer config)).andThen <|
        (forEach (fun ip => perform env (.updateRoutePrefix ip)) config.allowedIPAddressRanges).ignoring.andThen <|
        (forEach (fun ip => (perform env (.deleteRoutePrefix ip)).ignoring)
          (last.allowedIPAddressRanges.filter (· ∉ config.allowedIPAddressRanges))).andThen <|
        ((perform env (.deletePeer last)).when fun _ => config.serverPublicKey != last.serverPublicKey).andThen <|
        succeed fun d => { d with connections := d.connections.insert config }).andThen rest) d := by
    intro rest
    rw [Attempt.andThen, switchServer, hl]
    rfl
  rw [switchHop, h, andThen_assoc, andThen_assoc, andThen_assoc, andThen_assoc]
  rfl

lemma keeps_signals {l : List Signal} (op : Op) : Keeps (fun d => d.signals = l) (perform env op) := fun _ hd => hd

lemma keeps_signals_completeSwitch {l : List Signal} :
    Keeps (fun d => d.signals = l) (completeSwitch env config last) := by
  have hi : Keeps (fun d => d.signals = l)
      (succeed fun d : Daemon => { d with connections := d.connections.insert config }) := fun _ hd => hd
  have hc : Keeps (fun d => d.signals = l) (succeed (connect config)) := fun _ hd => hd
  exact (keeps_forEach (fun _ => (keeps_signals _).ignoring) _).andThen <| (keeps_signals _).when.andThen <|
    hi.andThen <| (keeps_signals _).andThen <| (keeps_resolvers keeps_signals).andThen <| (keeps_signals _).andThen hc

lemma keeps_signals_activateHop {l : List Signal} : Keeps (fun d => d.signals = l) (activateHop env config) := by
  have hc : Keeps (fun d => d.signals = l) (succeed (connect config)) := fun _ hd => hd
  exact (keeps_bringUp keeps_signals).when.andThen <| (keeps_signals _).andThen <|
    (keeps_resolvers keeps_signals).andThen <| (keeps_forEach (fun _ => keeps_signals _) _).andThen <|
    (keeps_signals _).andThen hc

lemma keeps_signals_connectHop {l : List Signal} : Keeps (fun d => d.signals = l) (connectHop env config) := by
  intro d hd
  rw [connectHop]
  split
  · next h =>
    obtain ⟨⟨date, last⟩, hl⟩ := Option.isSome_iff_exists.mp h
    have hr : Keeps (fun d => d.signals = l)
        (forEach (fun ip => perform env (.updateRoutePrefix ip)) config.allowedIPAddressRanges).ignoring :=
      (keeps_forEach (fun _ => keeps_signals _) _).ignoring
    rw [switchHop_eq hl]
    exact ((keeps_signals (.updatePeer config)).andThen <| hr.andThen keeps_signals_completeSwitch) d hd
  · exact keeps_signals_activateHop d hd

lemma signals_deactivate : (deactivate env false d).2.signals = d.signals := by
  have hp : ∀ op, Keeps (fun d' => d'.signals = d.signals) (perform env op) := keeps_signals
  have hn : Keeps (fun d' => d'.signals = d.signals)
      (succeed fun d : Daemon => { d with connections := fun _ => none }) := fun _ hd => hd
  have hc : Keeps (fun d' => d'.signals = d.signals) (deleteConnections env) := fun d' hd =>
    ((keeps_forEach (fun (state : ConnectionState) => (keeps_forEach
      (fun ip => (hp (.deleteRoutePrefix ip)).ignoring) state.config.allowedIPAddressRanges).andThen
        (hp (.deletePeer state.config)).ignoring) d'.connections.values).andThen hn) d' hd
  have hr : Keeps (fun d' => d'.signals = d.signals) (runDown env) := by
    intro d' hd
    rw [runDown]
    split
    · exact hd
    · exact hp _ d' hd
  exact (hr.andThen <| (hp .restoreResolvers).ignoring.andThen <| hc.andThen (hp .deleteInterface)) d rfl

lemma count_emitFailure {a : Attempt Daemon} : (emitFailure a d).2.signals.count .activationFailure =
    (a d).2.signals.count .activationFailure + if (a d).1 then 0 else 1 := by
  rw [emitFailure]
  cases (a d).1 <;> simp [emit]

lemma keeps_route {ip : Address.IPAddress} (op : Op) (ho : ∀ i : Interface, ip ∈ i.routes → ip ∈ (i.apply op).routes) :
    Keeps (fun d => ip ∈ d.interface.routes) (perform env op) := by
  intro d hd
  rw [perform]
  dsimp only
  split
  · exact ho _ hd
  · exact hd

lemma yields_routes : Yields (fun _ => True)
    (forEach (fun ip => perform env (.updateRoutePrefix ip)) config.allowedIPAddressRanges)
    (fun d => ∀ ip ∈ config.allowedIPAddressRanges, ip ∈ d.interface.routes) := by
  apply yields_forEach (G := fun ip (d : Daemon) => ip ∈ d.interface.routes)
  · intro ip d _ hs
    have hs' : env.outcome d.calls = true := hs
    simp [perform, hs', Interface.apply]
  · intro ip other
    exact keeps_route _ fun _ hi => Finset.mem_insert_of_mem hi

lemma keeps_routes (op : Op) (ho : ∀ ip ∈ config.allowedIPAddressRanges, ∀ i : Interface, ip ∈ i.routes →
    ip ∈ (i.apply op).routes) :
    Keeps (fun d => ∀ ip ∈ config.allowedIPAddressRanges, ip ∈ d.interface.routes) (perform env op) :=
  fun d hd ip hip => keeps_route op (ho ip hip) d (hd ip hip)

lemma yields_connected : Yields (fun d => ∀ ip ∈ config.allowedIPAddressRanges, ip ∈ d.interface.routes)
    (succeed (connect config)) (Connected config) :=
  yields_succeed fun _ hd => ⟨Function.update_self .., hd⟩

lemma yields_connected_activateHop : Yields (fun _ => True) (activateHop env config) (Connected config) := by
  have ht : ∀ a : Attempt Daemon, Yields (fun _ => True) a (fun _ => True) := fun _ _ _ _ => trivial
  exact (ht _).andThen <| (ht _).andThen <| (ht _).andThen <| yields_routes.andThen <|
    (keeps_routes (.run .Up config) fun _ _ _ hi => hi).yields.andThen yields_connected

lemma yields_connected_completeSwitch :
    Yields (fun d => ∀ ip ∈ config.allowedIPAddressRanges, ip ∈ d.interface.routes)
      (completeSwitch env config last) (Connected config) := by
  have hd : Keeps (fun d => ∀ ip ∈ config.allowedIPAddressRanges, ip ∈ d.interface.routes)
      (forEach (fun ip => (perform env (.deleteRoutePrefix ip)).ignoring)
        (last.allowedIPAddressRanges.filter (· ∉ config.allowedIPAddressRanges))) := by
    apply keeps_forEach_of_mem
    intro ip hip
    apply Keeps.ignoring
    apply keeps_routes
    intro other ho i hi
    apply Finset.mem_erase_of_ne_of_mem _ hi
    rintro rfl
    simp [ho] at hip
  have hi : Keeps (fun d => ∀ ip ∈ config.allowedIPAddressRanges, ip ∈ d.interface.routes)
      (succeed fun d : Daemon => { d with connections := d.connections.insert config }) := fun _ hd => hd
  have hr : Keeps (fun d => ∀ ip ∈ config.allowedIPAddressRanges, ip ∈ d.interface.routes)
      (maybeUpdateResolvers env config) := by
    rw [maybeUpdateResolvers]
    split
    · exact keeps_routes _ fun _ _ _ hi => hi
    · exact keeps_succeed fun _ hd => hd
  exact hd.yields.andThen <| (keeps_routes (.deletePeer last) fun _ _ _ hi => hi).when.yields.andThen <|
    hi.yields.andThen <| (keeps_routes .restoreResolvers fun _ _ _ hi => hi).yields.andThen <| hr.yields.andThen <|
    (keeps_routes (.run .Switch config) fun _ _ _ hi => hi).yields.andThen yields_connected

lemma outcome_failing (n : ℕ) : (Env.failing b k).outcome n = true ↔ n ≠ k := by
  simp [Env.failing]

lemma routes_forEach (h : d.calls ≤ k) (ips : List Address.IPAddress) :
    (forEach (fun ip => perform (Env.failing b k) (.updateRoutePrefix ip)) ips d).2.interface.routes =
      d.interface.routes ∪ (ips.take (k - d.calls)).toFinset := by
  induction ips generalizing d with
  | nil => simp [forEach, succeed]
  | cons ip ips ih =>
    rw [forEach, Attempt.andThen, perform]
    by_cases hk : d.calls = k
    · simp [hk, Env.failing]
    · have ho := (outcome_failing (b := b) d.calls).mpr hk
      have hn : k - d.calls = k - (d.calls + 1) + 1 := by omega
      simp only [ho, if_true]
      rw [ih (by dsimp only; omega)]
      simp only [Interface.apply, hn, List.take_succ_cons, List.toFinset_cons, Finset.insert_union, Finset.union_insert]

/-- The failing call has been made. -/
def Past (k : ℕ) (d : Daemon) : Prop := k < d.calls

lemma past_or_succeeds_forEach (ips : List Address.IPAddress) :
    d.calls ≤ k ∧ Past k (forEach (fun ip => perform (Env.failing b k) (.updateRoutePrefix ip)) ips d).2 ∨
      (forEach (fun ip => perform (Env.failing b k) (.updateRoutePrefix ip)) ips d).1 = true ∧
        (d.calls ≤ k → d.calls + ips.length ≤ k) := by
  have hd := draws_forEach (fun ip => @draws_perform (Env.failing b k) (.updateRoutePrefix ip)) ips d
  obtain ⟨hs, -, hn⟩ | ⟨-, f, -, ⟨hf, ho, -⟩, hc⟩ := hd
  · refine .inr ⟨hs, fun hk => ?_⟩
    by_contra hlt
    exact (outcome_failing (b := b) k).mp (hn k hk (by omega)) rfl
  · obtain rfl : f = k := by simpa [Env.failing] using ho
    refine .inl ⟨hf, ?_⟩
    rw [Past, hc]
    omega

lemma ensures_past (op : Op) : Ensures (Past k) (perform (Env.failing b k) op) (Past k) :=
  fun _ hd => ⟨(outcome_failing (b := b) _).mpr hd.ne', Nat.lt_succ_of_lt hd⟩

lemma ensures_past_completeSwitch : Ensures (Past k) (completeSwitch (Env.failing b k) config last) (Past k) := by
  have hi : Ensures (Past k)
      (succeed fun d : Daemon => { d with connections := d.connections.insert config }) (Past k) :=
    ensures_succeed fun _ hd => hd
  have hc : Ensures (Past k) (succeed (connect config)) (Past k) := ensures_succeed fun _ hd => hd
  have hr : Ensures (Past k) (maybeUpdateResolvers (Env.failing b k) config) (Past k) := by
    rw [maybeUpdateResolvers]
    split
    · exact ensures_past _
    · exact ensures_succeed fun _ hd => hd
  exact (ensures_forEach_of (fun _ => (ensures_past _).ignoring) _).andThen <|
    (Ensures.when (fun d hd => ensures_past _ d hd.1) fun _ hd _ => hd).andThen <| hi.andThen <|
    (ensures_past _).andThen <| hr.andThen <| (ensures_past _).andThen hc

variable (env config last) in
/-- Whatever follows the updates of the routes adds none. -/
lemma keeps_subset_completeSwitch {r : Finset Address.IPAddress} :
    Keeps (fun d => d.interface.routes ⊆ r) (completeSwitch env config last) := by
  have hp : ∀ op, (∀ i : Interface, (i.apply op).routes ⊆ i.routes) →
      Keeps (fun d => d.interface.routes ⊆ r) (perform env op) := by
    intro op ho d hd
    rw [perform]
    dsimp only
    split
    · exact (ho _).trans hd
    · exact hd
  have hi : Keeps (fun d => d.interface.routes ⊆ r)
      (succeed fun d : Daemon => { d with connections := d.connections.insert config }) := fun _ hd => hd
  have hc : Keeps (fun d => d.interface.routes ⊆ r) (succeed (connect config)) := fun _ hd => hd
  have hr : Keeps (fun d => d.interface.routes ⊆ r) (maybeUpdateResolvers env config) := by
    rw [maybeUpdateResolvers]
    split
    · exact hp _ fun _ => subset_rfl
    · exact keeps_succeed fun _ hd => hd
  exact (keeps_forEach (fun ip => (hp (.deleteRoutePrefix ip) fun i => Finset.erase_subset ..).ignoring) _).andThen <|
    (hp (.deletePeer last) fun _ => subset_rfl).when.andThen <| hi.andThen <|
    (hp .restoreResolvers fun _ => subset_rfl).andThen <| hr.andThen <|
    (hp (.run .Switch config) fun _ => subset_rfl).andThen hc

lemma connected_switchHop_iff (hs : (d.connections config.hopType).isSome) (hr : d.interface.routes = ∅) :
    ((switchHop (Env.failing b k) config d).1 = true → Connected config (switchHop (Env.failing b k) config d).2) ↔
      Routed k config d := by
  obtain ⟨⟨date, last⟩, hl⟩ := Option.isSome_iff_exists.mp hs
  rw [switchHop_eq hl, Attempt.andThen]
  by_cases hk : d.calls = k
  · have ho : ¬(perform (Env.failing b k) (.updatePeer config) d).1 = true := by simp [perform, Env.failing, hk]
    rw [if_neg ho]
    exact iff_of_true (by simp) fun hlt => absurd hk hlt.ne
  · have ho : (perform (Env.failing b k) (.updatePeer config) d).1 = true := (outcome_failing (b := b) _).mpr hk
    have hn : (perform (Env.failing b k) (.updatePeer config) d).2.calls = d.calls + 1 := rfl
    have hi : (perform (Env.failing b k) (.updatePeer config) d).2.interface.routes = ∅ := by
      rw [perform]
      dsimp only
      split <;> exact hr
    rw [if_pos ho]
    generalize (perform (Env.failing b k) (.updatePeer config) d).2 = d' at hn hi
    rw [andThen_of_success rfl, ignoring]
    constructor
    · intro h hlt
      have hr' := routes_forEach (b := b) (d := d') (k := k) (by omega) config.allowedIPAddressRanges
      rw [hi, Finset.empty_union, hn] at hr'
      obtain ⟨-, hp⟩ | ⟨-, hle⟩ := past_or_succeeds_forEach (b := b) (k := k) (d := d') config.allowedIPAddressRanges
      · have hc := h (ensures_past_completeSwitch _ hp).1
        have hsub := keeps_subset_completeSwitch (Env.failing b k) config last _ hr'.subset
        intro ip hip
        simpa [Nat.sub_sub] using hsub (hc.2 ip hip)
      · rw [List.take_of_length_le (by have := hle (by omega); omega)]
        exact List.Subset.refl _
    · intro h
      apply yields_connected_completeSwitch
      dsimp only
      obtain ⟨hle, -⟩ | ⟨hs, -⟩ := past_or_succeeds_forEach (b := b) (k := k) (d := d') config.allowedIPAddressRanges
      · rw [routes_forEach hle, hi, Finset.empty_union, hn, ← Nat.sub_sub]
        intro ip hip
        exact List.mem_toFinset.mpr (h (by omega) hip)
      · exact yields_routes d' trivial hs

lemma reported_emitFailure {a : Attempt Daemon} (hs : (a d).2.signals = []) :
    Reported config (emitFailure a d) ↔ ((a d).1 = true → Connected config (a d).2) := by
  rw [Reported, count_emitFailure, hs, emitFailure]
  cases (a d).1 <;> simp [hs]

lemma due_failing_iff {n : ℕ} : Due (Env.failing b k) n d ↔ k < d.calls ∨ d.calls + n ≤ k := by
  constructor
  · intro h
    by_contra hn
    exact (outcome_failing _).mp (h (k - d.calls) (by omega)) (by omega)
  · intro h i hi
    exact (outcome_failing _).mpr (by omega)

/-- A hop that is brought up after a deactivation reports its failure by itself. -/
lemma reported_reactivation (hd : (deactivate env false d).1 = true) (hs : d.signals = [])
    (hc : (deactivate env false d).2.connections = fun _ => none) :
    Reported config (emitFailure ((deactivate env false).andThen (activateNested env config 1)) d) ↔
      Due env (bringUpCalls env config (deactivate env false d).2) (deactivate env false d).2 := by
  have hs' : (deactivate env false d).2.signals = [] := signals_deactivate.trans hs
  have ha : ((deactivate env false).andThen (activateNested env config 1)) d =
      emitFailure (activateHop env config) (deactivate env false d).2 := by
    rw [andThen_of_success hd, activateNested_of_not_reconnects fun h => by simp [Reconnects, hc] at h]
    simp [emitFailure, connectHop, hc]
  have hk : (activateHop env config (deactivate env false d).2).2.signals = [] := keeps_signals_activateHop _ hs'
  rw [← activateHop_iff, Reported, count_emitFailure, ha, count_emitFailure, hk, emitFailure, ha, emitFailure]
  cases hr : (activateHop env config (deactivate env false d).2).1 with
  | false => simp
  | true => simpa [hk] using yields_connected_activateHop _ trivial hr

lemma reported_of_reconnects (h : Reconnects config d) (hs : d.signals = []) :
    Reported config (activate (Env.failing b k) config d) ↔ k ≤ d.calls + downCalls d ∨
      d.calls + downCalls d + bringUpCalls (Env.failing b k) config {} < k := by
  have hf : (deactivate (Env.failing b k) false d).1 = false →
      Reported config (emitFailure ((deactivate (Env.failing b k) false).andThen
        (activateNested (Env.failing b k) config 1)) d) := by
    intro hf
    rw [reported_emitFailure]
    · rw [andThen_of_failure hf]
      simp
    · rw [andThen_of_failure hf]
      exact signals_deactivate.trans hs
  rw [activate, activateNested_of_reconnects h]
  by_cases hd : d.calls = k
  · have ho : (Env.failing b k).outcome d.calls = false := by simp [Env.failing, hd]
    exact iff_of_true (hf (deactivate_of_failure (isSome_of_reconnects h) ho false).1) (by omega)
  · obtain ⟨hr, hc, hn, hi⟩ := deactivate_of_success (isSome_of_reconnects h) ((outcome_failing (b := b) _).mpr hd) false
    by_cases hk : d.calls + downCalls d = k
    · have ho : (Env.failing b k).outcome (d.calls + downCalls d) = false := by simp [Env.failing, hk]
      exact iff_of_true (hf (hr.trans ho)) (by omega)
    · have ht := hr.trans ((outcome_failing _).mpr hk)
      have hb : bringUpCalls (Env.failing b k) config (deactivate (Env.failing b k) false d).2 =
          bringUpCalls (Env.failing b k) config {} := by simp only [bringUpCalls, hi ht]
      rw [reported_reactivation ht hs hc, hb, due_failing_iff, hn]
      omega

/-- Whichever single call of the platform fails. -/
theorem reported_iff_spared (supportIPUtils : Bool) (k : ℕ) (config : InterfaceConfig) (d : Daemon) :
    Reported config (activate (Env.failing supportIPUtils k) config d.unmarked) ↔
      Spared supportIPUtils k config d := by
  rw [Spared]
  split
  · next h => exact reported_of_reconnects (d := d.unmarked) h rfl
  · next h =>
    have h' : ¬Reconnects config d.unmarked := h
    rw [activate, activateNested_of_not_reconnects h', reported_emitFailure (keeps_signals_connectHop _ rfl), connectHop]
    split
    · next hs => exact (connected_switchHop_iff hs rfl).trans ⟨fun hr _ => hr, fun hr => hr hs⟩
    · next hs => exact iff_of_true (yields_connected_activateHop _ trivial) fun hs' => absurd hs' hs

/-- A hop that is switched without its route, and one whose interface cannot be added again: a success that does not
have the route, and two reports of a failure. -/
theorem unreported_failures :
    let hop : InterfaceConfig := { hopType := .SingleHop }
    let routed : InterfaceConfig := { hopType := .SingleHop, allowedIPAddressRanges := [⟨.ipv4 0, 0⟩] }
    let rekeyed : InterfaceConfig := { hopType := .SingleHop, privateKey := "other" }
    ¬ Reported routed (activate (.failing true 8) routed (activate (.failing true 8) hop {}).2.unmarked) ∧
      ¬ Reported rekeyed (activate (.failing true 11) rekeyed (activate (.failing true 11) hop {}).2.unmarked) := by
  constructor
  · intro h
    rw [Reported, if_pos (by decide)] at h
    exact absurd (h.2.2 ⟨.ipv4 0, 0⟩ (by decide)) (by decide)
  · intro h
    rw [Reported, if_neg (by decide)] at h
    exact absurd h (by decide)

end Daemon

end VpnClient.Backend
