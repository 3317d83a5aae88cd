import VpnClient.Backend.BringUp
import VpnClient.Backend.Tunnel

/-! What an activation that succeeds and a deactivation leave behind, whichever of the other calls of the platform
fail. -/

namespace VpnClient.Backend

open Library.Attempts Library.Attempts.Attempt

namespace Daemon

/-- The connections, with the interface up and a peer on it. -/
def On (connections : Connections) (pubkeys : Finset String) (d : Daemon) : Prop :=
  d.connections = connections ∧ d.interface.present = true ∧ pubkeys ⊆ d.interface.peers

variable {env : Env} {config : InterfaceConfig} {d : Daemon} {c : Connections} {ks : Finset String}

lemma keeps_perform (op : Op)
    (ho : ∀ i : Interface, i.present = true → ks ⊆ i.peers → (i.apply op).present = true ∧ ks ⊆ (i.apply op).peers) :
    Keeps (On c ks) (perform env op) := by
  rintro d ⟨hc, hi, hk⟩
  refine ⟨hc, ?_⟩
  rw [perform]
  dsimp only
  split
  · exact ho _ hi hk
  · exact ⟨hi, hk⟩

lemma keeps_maybeUpdateResolvers : Keeps (On c ks) (maybeUpdateResolvers env config) := by
  rw [maybeUpdateResolvers]
  split
  · exact keeps_perform _ fun _ hi hk => ⟨hi, hk⟩
  · exact keeps_succeed fun _ hd => hd

lemma keeps_updateRoutes : Keeps (On c ks)
    (forEach (fun ip => perform env (.updateRoutePrefix ip)) config.allowedIPAddressRanges) :=
  keeps_forEach (fun ip => keeps_perform (.updateRoutePrefix ip) fun _ hi hk => ⟨hi, hk⟩) _

lemma yields_updatePeer :
    Yields (On c ∅) (perform env (.updatePeer config)) (On c {config.serverPublicKey}) := by
  rintro d ⟨hc, hi, -⟩ hs
  have hs' : env.outcome d.calls = true := hs
  refine ⟨hc, ?_⟩
  simp only [perform, hs', if_true, Interface.apply, hi, true_and, Finset.singleton_subset_iff]
  exact Finset.mem_insert_self _ _

lemma yields_deletePeer {last : InterfaceConfig} :
    Yields (On c {config.serverPublicKey})
      ((perform env (.deletePeer last)).when fun _ => config.serverPublicKey != last.serverPublicKey)
      (On c {config.serverPublicKey}) := by
  refine Yields.when (fun d hd => ?_) fun _ hd _ => hd
  have hn : config.serverPublicKey ≠ last.serverPublicKey := by simpa using hd.2
  refine (keeps_perform (.deletePeer last) fun i hi hk => ⟨hi, ?_⟩).yields d hd.1
  rw [Finset.singleton_subset_iff] at hk ⊢
  exact Finset.mem_erase_of_ne_of_mem hn hk

lemma yields_bringUp : Yields (fun d => d.connections = c)
    ((bringUp env config).when fun d => !d.interface.present) (On c ∅) := by
  refine Yields.when ?_ fun d hd hp => ⟨hd, by simpa using hp, Finset.empty_subset _⟩
  have ha : Yields (fun d => d.connections = c ∧ (!d.interface.present) = true) (perform env (.addInterface config))
      (On c ∅) := by
    rintro d ⟨hd, -⟩ hs
    have hs' : env.outcome d.calls = true := hs
    exact ⟨hd, by simp [perform, hs', Interface.apply]⟩
  have hp : ∀ op, op = .addInterfaceIPs config ∨ op = .setMTUAndUp config ∨ op = .excludeLocalNetworks →
      Keeps (On c ∅) (perform env op) := by
    rintro op (rfl | rfl | rfl) <;> exact keeps_perform _ fun _ hi hk => ⟨hi, hk⟩
  exact ha.andThen <| (((hp _ (.inl rfl)).andThen (hp _ (.inr (.inl rfl)))).when.andThen
    (hp _ (.inr (.inr rfl)))).yields

/-- The hop has a new connection, its peer is on the interface, and the handshake is awaited. -/
def Hop (connections : Connections) (config : InterfaceConfig) (d : Daemon) : Prop :=
  On (connections.insert config) {config.serverPublicKey} d ∧ d.handshakeTimer = true

lemma yields_connect : Yields (On c {config.serverPublicKey}) (succeed (connect config)) (Hop c config) :=
  yields_succeed fun _ ⟨hc, hi⟩ => ⟨⟨congrArg (Connections.insert · config) hc, hi⟩, rfl⟩

lemma keeps_run (op : RunOp) : Keeps (On c ks) (perform env (.run op config)) :=
  keeps_perform _ fun _ hi hk => ⟨hi, hk⟩

lemma yields_activateHop : Yields (fun d => d.connections = c) (activateHop env config) (Hop c config) :=
  yields_bringUp.andThen <| yields_updatePeer.andThen <| keeps_maybeUpdateResolvers.yields.andThen <|
    keeps_updateRoutes.yields.andThen <| (keeps_run .Up).yields.andThen yields_connect

lemma yields_switchServer (hs : (c config.hopType).isSome) :
    Yields (On c ∅) (switchServer env config) (On (c.insert config) {config.serverPublicKey}) := by
  rintro d hd
  obtain ⟨⟨date, last⟩, hl⟩ := Option.isSome_iff_exists.mp hs
  unfold switchServer
  rw [hd.1, hl]
  refine (yields_updatePeer.andThen <| keeps_updateRoutes.ignoring.yields.andThen <| Keeps.yields ?_ |>.andThen <|
    yields_deletePeer.andThen <| yields_succeed ?_) d hd
  · exact keeps_forEach (fun ip => (keeps_perform (.deleteRoutePrefix ip) fun _ hi hk => ⟨hi, hk⟩).ignoring) _
  · exact fun d ⟨hc, hi⟩ => ⟨congrArg (Connections.insert · config) hc, hi⟩

lemma insert_insert : (c.insert config).insert config = c.insert config := Function.update_idem ..

lemma yields_switchHop (hs : (c config.hopType).isSome) :
    Yields (On c ∅) (switchHop env config) (Hop c config) := by
  have hc : Yields (On (c.insert config) {config.serverPublicKey}) (succeed (connect config)) (Hop c config) := by
    have h : Yields _ (succeed (connect config)) (Hop (c.insert config) config) := yields_connect
    unfold Hop at h
    rwa [insert_insert] at h
  exact (yields_switchServer hs).andThen <|
    (keeps_perform .restoreResolvers fun _ hi hk => ⟨hi, hk⟩).yields.andThen <|
    keeps_maybeUpdateResolvers.yields.andThen <| (keeps_run .Switch).yields.andThen hc

/-- The interface is up whenever there is a connection. -/
def Wired (d : Daemon) : Prop := ∀ hop, (d.connections hop).isSome → d.interface.present = true

lemma yields_connectHop : Yields (fun d => d.connections = c ∧ Wired d) (connectHop env config) (Hop c config) := by
  rintro d ⟨rfl, hw⟩
  rw [connectHop]
  split
  · next hs => exact yields_switchHop hs d ⟨rfl, hw _ hs, Finset.empty_subset _⟩
  · exact yields_activateHop d rfl

lemma keeps_handshakeTimer {b : Bool} (emitSignals : Bool) :
    Keeps (fun d => d.handshakeTimer = b) (deactivate env emitSignals) := by
  have hp : ∀ op, Keeps (fun d => d.handshakeTimer = b) (perform env op) := fun _ _ hd => hd
  have hr : Keeps (fun d => d.handshakeTimer = b) (runDown env) := by
    intro d hd
    rw [runDown]
    split
    · exact hd
    · exact hp _ d hd
  have hn : Keeps (fun d => d.handshakeTimer = b) (succeed fun d : Daemon => { d with connections := fun _ => none }) :=
    fun _ hd => hd
  have hc : Keeps (fun d => d.handshakeTimer = b) (deleteConnections env) := fun d hd =>
    ((keeps_forEach (fun (state : ConnectionState) => (keeps_forEach
      (fun ip => (hp (.deleteRoutePrefix ip)).ignoring) state.config.allowedIPAddressRanges).andThen
        (hp (.deletePeer state.config)).ignoring) d.connections.values).andThen hn) d hd
  refine hr.andThen fun d hd => ?_
  have h := ((hp .restoreResolvers).ignoring.andThen <| hc.andThen (hp .deleteInterface)) d hd
  unfold emitDisconnected
  cases emitSignals
  · exact h
  · exact h

lemma deactivate_cases (env : Env) (emitSignals : Bool) (d : Daemon) :
    (deactivate env emitSignals d).2.connections = (fun _ => none) ∨
      (deactivate env emitSignals d).1 = false ∧ (deactivate env emitSignals d).2.connections = d.connections ∧
        (deactivate env emitSignals d).2.interface = d.interface := by
  have hr : (runDown env d).1 = false → (runDown env d).2.connections = d.connections ∧
      (runDown env d).2.interface = d.interface := by
    rw [runDown]
    split
    · exact fun h => by cases h
    · intro h
      have h' : env.outcome d.calls = false := h
      exact ⟨rfl, by simp [perform, h']⟩
  rw [deactivate, andThen]
  split
  · left
    have hc : ∀ d, (((perform env .restoreResolvers).ignoring.andThen <|
        (deleteConnections env).andThen (perform env .deleteInterface)) d).2.connections = fun _ => none := by
      intro d
      obtain ⟨h₁, h₂⟩ := ensures_deleteConnections env (perform env .restoreResolvers d).2 trivial
      simp only [andThen, ignoring, h₁, if_true]
      exact h₂
    cases emitSignals
    · exact hc _
    · exact hc _
  · next h => exact .inr ⟨rfl, hr (by simpa using h)⟩

lemma yields_emitFailure {P Q : Daemon → Prop} {a : Attempt Daemon} (ha : Yields P a Q) : Yields P (emitFailure a) Q := by
  intro d hd hs
  have hs' : (a d).1 = true := hs
  simpa only [emitFailure, hs', if_true] using ha d hd hs'

lemma yields_activateNested (depth : ℕ) (hc : ¬Reconnects config d) (hw : Wired d)
    (hs : (activateNested env config (depth + 1) d).1 = true) :
    Hop d.connections config (activateNested env config (depth + 1) d).2 := by
  rw [activateNested_of_not_reconnects hc] at hs ⊢
  exact yields_emitFailure yields_connectHop d ⟨rfl, hw⟩ hs

lemma yields_activate (hw : Wired d) (hs : (activate env config d).1 = true) :
    Hop (if Reconnects config d then fun _ => none else d.connections) config (activate env config d).2 := by
  split
  · next hr =>
    rw [activate] at hs ⊢
    rw [activateNested_of_reconnects hr] at hs ⊢
    refine yields_emitFailure (P := (· = d)) (Yields.andThen (Q := fun d => d.connections = fun _ => none) ?_ ?_) d rfl hs
    · rintro d rfl hd
      obtain h | ⟨h, -⟩ := deactivate_cases env false d
      · exact h
      · rw [h] at hd
        cases hd
    · intro d hd hs
      have hn : ¬Reconnects config d := fun h => by simp [Reconnects, hd] at h
      have hw : Wired d := fun hop h => by simp [hd] at h
      have h := yields_activateNested 0 hn hw hs
      rwa [hd] at h
  · next hr => exact yields_activateNested 1 hr hw hs

lemma wired_deactivate (hw : Wired d) (emitSignals : Bool) : Wired (deactivate env emitSignals d).2 := by
  intro hop hs
  obtain h | ⟨-, hc, hi⟩ := deactivate_cases env emitSignals d
  · simp [h] at hs
  · rw [hc] at hs
    rw [hi]
    exact hw hop hs

end Daemon

end VpnClient.Backend
