import VpnClient.Backend.Daemon
import VpnClient.Library.Calls

/-! The connections that an activation leaves behind, and the calls of the platform that bringing up a hop takes. -/

namespace VpnClient.Backend

open Library.Attempts Library.Attempts.Attempt

def Connections.isEmpty (c : Connections) : Bool := c.values.isEmpty

lemma Connections.isEmpty_iff {c : Connections} : c.isEmpty = true ↔ ∀ hop, c hop = none := by
  rw [isEmpty, values]
  rw [List.isEmpty_iff, List.filterMap_eq_nil_iff]
  refine ⟨fun h hop => ?_, fun h hop _ => h hop⟩
  cases hop <;> exact h _ (by simp [HopType.all])

lemma Connections.isEmpty_insert (c : Connections) (config : InterfaceConfig) : (c.insert config).isEmpty = false := by
  rw [Bool.eq_false_iff]
  intro h
  simpa [Connections.insert] using isEmpty_iff.mp h config.hopType

namespace Daemon

variable {env : Env} {config : InterfaceConfig} {d : Daemon}

def IsUp (d : Daemon) : Prop := d.connections.isEmpty = false

instance (d : Daemon) : Decidable d.IsUp := inferInstanceAs (Decidable (_ = _))

/-- The part of `activate` that switches a connected hop to another server. -/
def switchHop (env : Env) (config : InterfaceConfig) : Attempt Daemon :=
  (switchServer env config).andThen <|
  (perform env .restoreResolvers).andThen <|
  (maybeUpdateResolvers env config).andThen <|
  (perform env (.run .Switch config)).andThen <|
  succeed (connect config)

/-- Whether the daemon deactivates on its way to a connection with the configuration. -/
def Reconnects (config : InterfaceConfig) (d : Daemon) : Prop :=
  (d.connections config.hopType).isSome ∧ d.connections.supportServerSwitching config = false

instance (config : InterfaceConfig) (d : Daemon) : Decidable (Reconnects config d) :=
  inferInstanceAs (Decidable (_ ∧ _))

/-- What `activateNested` does unless it deactivates. -/
def connectHop (env : Env) (config : InterfaceConfig) : Attempt Daemon := fun d =>
  if (d.connections config.hopType).isSome then switchHop env config d else activateHop env config d

lemma activateNested_of_not_reconnects (h : ¬Reconnects config d) (depth : ℕ) :
    activateNested env config (depth + 1) d = emitFailure (connectHop env config) d := by
  unfold activateNested emitFailure
  by_cases hc : (d.connections config.hopType).isSome
  · have hs : d.connections.supportServerSwitching config = true := by
      by_contra hn
      exact h ⟨hc, by simpa using hn⟩
    simp [hc, hs, connectHop, switchHop]
  · simp [hc, connectHop]

lemma activateNested_of_reconnects (h : Reconnects config d) (depth : ℕ) :
    activateNested env config (depth + 1) d =
      emitFailure ((deactivate env false).andThen (activateNested env config depth)) d := by
  simp only [activateNested, emitFailure, h.1, h.2, if_true, if_false, Bool.false_eq_true]

lemma isUp_perform (op : Op) : Keeps IsUp (perform env op) := fun _ hd => hd

lemma isUp_insert (config : InterfaceConfig) (d : Daemon) :
    IsUp { d with connections := d.connections.insert config } := d.connections.isEmpty_insert config

lemma keeps_resolvers {P : Daemon → Prop} (hp : ∀ op, Keeps P (perform env op)) :
    Keeps P (maybeUpdateResolvers env config) := by
  rw [maybeUpdateResolvers]
  split
  · exact hp _
  · exact keeps_succeed fun _ hd => hd

lemma keeps_bringUp {P : Daemon → Prop} (hp : ∀ op, Keeps P (perform env op)) : Keeps P (bringUp env config) :=
  (hp _).andThen <| ((hp _).andThen (hp _)).when.andThen (hp _)

lemma isUp_switchServer : Keeps IsUp (switchServer env config) := by
  intro d hd
  rw [switchServer]
  split
  · exact hd
  · next last _ =>
    have hp : ∀ op, Keeps IsUp (perform env op) := isUp_perform
    exact ((hp (.updatePeer config)).andThen <|
      (keeps_forEach (fun ip => hp (.updateRoutePrefix ip)) config.allowedIPAddressRanges).ignoring.andThen <|
      (keeps_forEach (fun ip => (hp (.deleteRoutePrefix ip)).ignoring)
        (last.allowedIPAddressRanges.filter (· ∉ config.allowedIPAddressRanges))).andThen <|
      ((hp (.deletePeer last)).when (c := fun _ => config.serverPublicKey != last.serverPublicKey)).andThen <|
      keeps_succeed fun d _ => isUp_insert config d) d hd

lemma isUp_switchHop : Keeps IsUp (switchHop env config) :=
  isUp_switchServer.andThen <| (isUp_perform _).andThen <| (keeps_resolvers isUp_perform).andThen <|
    (isUp_perform _).andThen <| keeps_succeed fun d _ => isUp_insert config d

lemma isUp_activateHop : Keeps IsUp (activateHop env config) :=
  (keeps_bringUp isUp_perform).when.andThen <| (isUp_perform _).andThen <| (keeps_resolvers isUp_perform).andThen <|
    (keeps_forEach (fun _ => isUp_perform _) _).andThen <| (isUp_perform _).andThen <|
    keeps_succeed fun d _ => isUp_insert config d

lemma isUp_connectHop : Keeps IsUp (connectHop env config) := by
  intro d hd
  rw [connectHop]
  split
  · exact isUp_switchHop d hd
  · exact isUp_activateHop d hd

/-- The part of `activateHop` that follows `bringUp`. -/
def completeHop (env : Env) (config : InterfaceConfig) : Attempt Daemon :=
  (perform env (.updatePeer config)).andThen <|
  (maybeUpdateResolvers env config).andThen <|
  (forEach (fun ip => perform env (.updateRoutePrefix ip)) config.allowedIPAddressRanges).andThen <|
  (perform env (.run .Up config)).andThen <|
  succeed (connect config)

/-- The next `n` calls of the platform succeed. -/
def Due (env : Env) (n : ℕ) (d : Daemon) : Prop := ∀ i < n, env.outcome (d.calls + i) = true

/-- The number of calls that bring up a hop if none of them fails. -/
def bringUpCalls (env : Env) (config : InterfaceConfig) (d : Daemon) : ℕ :=
  (if d.interface.present then 0 else if env.supportIPUtils then 4 else 2) +
    (1 + ((if config.hopType = .MultiHopExit ∨ config.hopType = .SingleHop then 1 else 0) +
      (config.allowedIPAddressRanges.length + 1)))

lemma draws_perform (op : Op) : Draws env.outcome Daemon.calls 1 (perform env op) := draws_one fun _ => ⟨rfl, rfl⟩

lemma draws_maybeUpdateResolvers : Draws env.outcome Daemon.calls
    (if config.hopType = .MultiHopExit ∨ config.hopType = .SingleHop then 1 else 0) (maybeUpdateResolvers env config) := by
  rw [maybeUpdateResolvers]
  split
  · exact draws_perform _
  · exact draws_succeed fun _ => rfl

lemma draws_completeHop : Draws env.outcome Daemon.calls
    (1 + ((if config.hopType = .MultiHopExit ∨ config.hopType = .SingleHop then 1 else 0) +
      (config.allowedIPAddressRanges.length + 1))) (completeHop env config) :=
  (draws_perform _).andThen <| draws_maybeUpdateResolvers.andThen <|
    (draws_forEach (fun _ => draws_perform _) _).andThen <| (draws_perform _).andThen <|
    draws_succeed (f := connect config) fun _ => rfl

lemma draws_bringUp :
    Draws env.outcome Daemon.calls (if env.supportIPUtils then 4 else 2) (bringUp env config) := by
  have hips : Draws env.outcome Daemon.calls (if env.supportIPUtils then 2 else 0)
      (((perform env (.addInterfaceIPs config)).andThen (perform env (.setMTUAndUp config))).when
        fun _ => env.supportIPUtils) := by
    cases hs : env.supportIPUtils with
    | true => exact (draws_perform _).andThen (draws_perform _)
    | false => exact draws_succeed fun _ => rfl
  have hn : (if env.supportIPUtils then 4 else 2) = 1 + ((if env.supportIPUtils then 2 else 0) + 1) := by
    split <;> rfl
  rw [hn]
  exact (draws_perform _).andThen (hips.andThen (draws_perform _))

lemma due_iff {a : Attempt Daemon} {n : ℕ} (ha : Draws env.outcome Daemon.calls n a) (d : Daemon) :
    (a d).1 = true ↔ Due env n d := by
  obtain ⟨hr, -, hs⟩ | ⟨hr, f, hf, hff, -⟩ := ha d
  · exact iff_of_true hr fun i hi => hs _ (by omega) (by omega)
  · refine iff_of_false (by simp [hr]) fun hd => ?_
    have h := hd (f - d.calls) (by have := hff.1; omega)
    rw [Nat.add_sub_cancel' hff.1, hff.2.1] at h
    cases h

lemma activateHop_iff (config : InterfaceConfig) (d : Daemon) :
    (activateHop env config d).1 = true ↔ Due env (bringUpCalls env config d) d := by
  cases hp : d.interface.present with
  | true =>
    have h : activateHop env config d = completeHop env config d := by
      simp [activateHop, completeHop, Attempt.andThen, Attempt.when, hp]
    rw [h, due_iff draws_completeHop, bringUpCalls, hp, if_pos rfl, Nat.zero_add]
  | false =>
    have h : activateHop env config d = ((bringUp env config).andThen (completeHop env config)) d := by
      simp [activateHop, completeHop, Attempt.andThen, Attempt.when, hp]
    rw [h, due_iff (draws_bringUp.andThen draws_completeHop), bringUpCalls, hp, if_neg Bool.false_ne_true]

lemma isUp_of_activateHop (h : (activateHop env config d).1 = true) : (activateHop env config d).2.IsUp := by
  have ht : ∀ a : Attempt Daemon, Yields (fun _ => True) a (fun _ => True) := fun _ _ _ _ => trivial
  have hup : Yields (fun _ => True) (activateHop env config) IsUp :=
    (ht _).andThen <| (ht _).andThen <| (ht _).andThen <| (ht _).andThen <| (ht _).andThen <|
      yields_succeed fun d _ => isUp_insert config d
  exact hup d trivial h

lemma connections_of_activateHop (h : (activateHop env config d).1 = false) :
    (activateHop env config d).2.connections = d.connections := by
  have hp : ∀ op, Keeps (fun d' => d'.connections = d.connections) (perform env op) := fun _ _ hd => hd
  have hs : Spares (fun d' => d'.connections = d.connections) (activateHop env config) :=
    (keeps_bringUp hp).when.andThen_spares <| (hp _).andThen_spares <|
      (keeps_resolvers hp).andThen_spares <| (keeps_forEach (fun _ => hp _) _).andThen_spares <|
      (hp _).andThen_spares spares_succeed
  exact hs d rfl h

lemma isEmpty_checkHandshake (peers : List PeerStatus) (d : Daemon) :
    (checkHandshake peers d).connections.isEmpty = d.connections.isEmpty := by
  rw [Bool.eq_iff_iff, Connections.isEmpty_iff, Connections.isEmpty_iff]
  simp only [checkHandshake, Option.map_eq_none_iff]

end Daemon

end VpnClient.Backend
