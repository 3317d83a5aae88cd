import VpnClient.Backend.Activated

/-! Which calls of the platform decide whether an activation or a deactivation leaves a connection. -/

namespace VpnClient.Backend

open Library.Attempts Library.Attempts.Attempt

namespace Daemon

variable {env : Env} {config : InterfaceConfig} {d : Daemon}

/-- The number of calls of a deactivation before it deletes the interface. -/
def downCalls (d : Daemon) : ℕ :=
  2 + (d.connections.values.map fun state => state.config.allowedIPAddressRanges.length + 1).sum

/-- The interface is deleted, and then the hop is brought up. -/
def Reestablishes (env : Env) (config : InterfaceConfig) (d : Daemon) : Prop :=
  env.outcome (d.calls + downCalls d) = true ∧
    Due env (bringUpCalls env config {}) { d with calls := d.calls + downCalls d + 1 }

lemma foldl_add_length {A : Type} (f : A → ℕ) (xs : List A) (n : ℕ) :
    xs.foldl (fun n x => n + f x) n = n + (xs.map f).sum := by
  induction xs generalizing n with
  | nil => rfl
  | cons x xs ih => rw [List.foldl_cons, ih, List.map_cons, List.sum_cons, Nat.add_assoc]

lemma ensures_calls (env : Env) (op : Op) (n : ℕ) :
    Ensures (fun d => d.calls = n) (perform env op).ignoring (fun d => d.calls = n + 1) :=
  fun _ hd => ⟨rfl, congrArg (· + 1) hd⟩

lemma ensures_calls_deletePeer (env : Env) (state : ConnectionState) (n : ℕ) :
    Ensures (fun d => d.calls = n)
      ((forEach (fun ip => (perform env (.deleteRoutePrefix ip)).ignoring) state.config.allowedIPAddressRanges).andThen
        (perform env (.deletePeer state.config)).ignoring)
      (fun d => d.calls = n + (state.config.allowedIPAddressRanges.length + 1)) := by
  have hr := ensures_forEach (I := fun n (d : Daemon) => d.calls = n) (g := fun n _ => n + 1)
    (fun n ip => ensures_calls env (.deleteRoutePrefix ip) n) n state.config.allowedIPAddressRanges
  rw [foldl_add_length (fun _ => 1), List.map_const', List.sum_replicate, smul_eq_mul, Nat.mul_one] at hr
  exact hr.andThen (ensures_calls _ _ _)

lemma calls_deleteConnections (env : Env) (d : Daemon) :
    (deleteConnections env d).2.calls =
      d.calls + (d.connections.values.map fun state => state.config.allowedIPAddressRanges.length + 1).sum := by
  have hl := ensures_forEach (I := fun n (d : Daemon) => d.calls = n)
    (g := fun n state => n + (state.config.allowedIPAddressRanges.length + 1))
    (fun n state => ensures_calls_deletePeer env state n) d.calls d.connections.values
  rw [foldl_add_length] at hl
  have hn : ∀ n, Ensures (fun d => d.calls = n)
      (succeed fun d : Daemon => { d with connections := fun _ => none }) (fun d => d.calls = n) :=
    fun n => ensures_succeed fun _ hd => hd
  exact ((hl.andThen (hn _)) d rfl).2

lemma exists_first (h : d.IsUp) : ∃ state, d.connections.first = some state := by
  rw [IsUp, Connections.isEmpty, List.isEmpty_eq_false_iff] at h
  exact ⟨_, List.head?_eq_some_head h⟩

lemma isUp_iff_of_connections {d' : Daemon} (h : d'.connections = d.connections) : d'.IsUp ↔ d.IsUp := by
  rw [IsUp, IsUp, h]

lemma not_isUp_of_connections (h : d.connections = fun _ => none) : ¬d.IsUp := by
  rw [IsUp, Bool.not_eq_false]
  exact Connections.isEmpty_iff.mpr fun hop => congrFun h hop

lemma deactivate_of_failure (h : d.IsUp) (hd : env.outcome d.calls = false) (emitSignals : Bool) :
    (deactivate env emitSignals d).1 = false ∧ (deactivate env emitSignals d).2.connections = d.connections := by
  obtain ⟨state, hs⟩ := exists_first h
  have hr : runDown env d = perform env (.run .Down state.config) d := by simp only [runDown, hs]
  have hf : (runDown env d).1 = false := (congrArg Prod.fst hr).trans hd
  rw [deactivate, andThen_of_failure hf, hr]
  exact ⟨rfl, rfl⟩

lemma deactivate_of_success (h : d.IsUp) (hd : env.outcome d.calls = true) (emitSignals : Bool) :
    (deactivate env emitSignals d).1 = env.outcome (d.calls + downCalls d) ∧
      (deactivate env emitSignals d).2.connections = (fun _ => none) ∧
      (deactivate env emitSignals d).2.calls = d.calls + downCalls d + 1 ∧
      ((deactivate env emitSignals d).1 = true → (deactivate env emitSignals d).2.interface = {}) := by
  obtain ⟨state, hs⟩ := exists_first h
  have hr : runDown env d = perform env (.run .Down state.config) d := by simp only [runDown, hs]
  have ht : (runDown env d).1 = true := (congrArg Prod.fst hr).trans hd
  -- the state in which the connections are deleted
  let d₂ := (perform env .restoreResolvers (runDown env d).2).2
  have hn : d₂.calls = d.calls + 2 := by rw [show d₂.calls = (runDown env d).2.calls + 1 from rfl, hr]; rfl
  have hv : d₂.connections = d.connections := by rw [show d₂.connections = (runDown env d).2.connections from rfl, hr]; rfl
  have hc : (deleteConnections env d₂).2.calls = d.calls + downCalls d := by
    rw [calls_deleteConnections, downCalls, hn, hv, Nat.add_assoc]
  obtain ⟨h₁, h₂⟩ := ensures_deleteConnections env d₂ trivial
  have he : ((perform env .restoreResolvers).ignoring.andThen <| (deleteConnections env).andThen <|
      perform env .deleteInterface) (runDown env d).2 = perform env .deleteInterface (deleteConnections env d₂).2 :=
    (andThen_of_success (s := (runDown env d).2) rfl).trans (andThen_of_success (s := d₂) h₁)
  rw [deactivate, andThen_of_success ht, emitDisconnected, he, ← hc]
  refine ⟨rfl, ?_, ?_, fun hi => ?_⟩
  · cases emitSignals <;> exact h₂
  · cases emitSignals <;> rfl
  · have hi' : env.outcome (deleteConnections env d₂).2.calls = true := hi
    cases emitSignals <;> simp [perform, hi', Interface.apply, emit]

lemma isUp_deactivate_iff (h : d.IsUp) (emitSignals : Bool) :
    (deactivate env emitSignals d).2.IsUp ↔ env.outcome d.calls = false := by
  cases hd : env.outcome d.calls with
  | true => exact iff_of_false (not_isUp_of_connections (deactivate_of_success h hd emitSignals).2.1) (by simp)
  | false => exact iff_of_true ((isUp_iff_of_connections (deactivate_of_failure h hd emitSignals).2).mpr h) rfl

lemma isUp_emitFailure {a : Attempt Daemon} : (emitFailure a d).2.IsUp ↔ (a d).2.IsUp := by
  simp only [emitFailure]
  split <;> rfl

lemma isSome_of_reconnects (h : Reconnects config d) : d.IsUp := by
  rw [IsUp, Bool.eq_false_iff]
  intro he
  simp [Reconnects, Connections.isEmpty_iff.mp he] at h

lemma isUp_activateNested_iff (h : ¬d.IsUp) (depth : ℕ) :
    (activateNested env config (depth + 1) d).2.IsUp ↔ Due env (bringUpCalls env config d) d := by
  have hc : ¬(d.connections config.hopType).isSome := by
    rw [IsUp, Bool.not_eq_false] at h
    simp [Connections.isEmpty_iff.mp h]
  rw [activateNested_of_not_reconnects fun hr => hc hr.1, isUp_emitFailure, connectHop, if_neg hc, ← activateHop_iff]
  cases ha : (activateHop env config d).1 with
  | true => exact iff_of_true (isUp_of_activateHop ha) rfl
  | false => exact iff_of_false (mt (isUp_iff_of_connections (connections_of_activateHop ha)).mp h) (by simp)

lemma isUp_activate_of_not_isUp (h : ¬d.IsUp) :
    (activate env config d).2.IsUp ↔ Due env (bringUpCalls env config d) d := isUp_activateNested_iff h 1

lemma isUp_activate_iff (h : d.IsUp) : (activate env config d).2.IsUp ↔
    (Reconnects config d → env.outcome d.calls = true → Reestablishes env config d) := by
  rw [activate]
  by_cases hr : Reconnects config d
  · rw [activateNested_of_reconnects hr, isUp_emitFailure, Attempt.andThen]
    cases hd : env.outcome d.calls with
    | false =>
      obtain ⟨hf, hc⟩ := deactivate_of_failure h hd false
      rw [hf, if_neg Bool.false_ne_true]
      exact iff_of_true ((isUp_iff_of_connections hc).mpr h) fun _ h => by cases h
    | true =>
      obtain ⟨hs, hc, hn, hi⟩ := deactivate_of_success h hd false
      simp only [hr, forall_const, Reestablishes]
      rw [hs]
      cases ho : env.outcome (d.calls + downCalls d) with
      | false => exact iff_of_false (not_isUp_of_connections hc) (by simp)
      | true =>
        rw [if_pos rfl, isUp_activateNested_iff (not_isUp_of_connections hc)]
        simp only [Due, bringUpCalls, hn, hi (hs.trans ho), true_and]
  · rw [activateNested_of_not_reconnects hr, isUp_emitFailure]
    exact iff_of_true (isUp_connectHop d h) fun hr' => absurd hr' hr

end Daemon

end VpnClient.Backend
