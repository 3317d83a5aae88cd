import VpnClient.Backend.Activated
import VpnClient.Library.Runs

/-! The handshakes of the peers on the interface, and the connections that the daemon reports when it polls them. -/

namespace VpnClient.Backend

open Library.Attempts Library.Attempts.Attempt Library.Runs

lemma Connections.mem_values {c : Connections} {hop : HopType} {state : ConnectionState} (hc : c hop = some state) :
    state ∈ c.values := List.mem_filterMap.mpr ⟨hop, by cases hop <;> simp [HopType.all], hc⟩

/-- The peer is on the interface. -/
def Interface.Has (i : Interface) (pubkey : String) : Prop := i.present = true ∧ pubkey ∈ i.peers

instance (i : Interface) (pubkey : String) : Decidable (i.Has pubkey) := inferInstanceAs (Decidable (_ ∧ _))

namespace Daemon

variable {peers : List PeerStatus}

/-- What a poll emits for the connection of a hop. -/
def handshakeSignals (peers : List PeerStatus) (d : Daemon) (hop : HopType) : List Signal :=
  (d.connections hop).toList.flatMap fun connection => (completed peers connection).map (.connected ·.pubkey)

lemma config_recordHandshake (peers : List PeerStatus) (state : ConnectionState) :
    (recordHandshake peers state).config = state.config := by
  rw [recordHandshake]
  split <;> rfl

lemma mem_completed {status : PeerStatus} {state : ConnectionState} : status ∈ completed peers state ↔
    state.date = none ∧ status ∈ peers ∧ status.pubkey = state.config.serverPublicKey ∧ status.handshake ≠ 0 := by
  rw [completed]
  split
  · next h => simp [Option.isSome_iff_ne_none.mp h]
  · next h =>
    simp [Option.not_isSome_iff_eq_none.mp h, @eq_comm _ state.config.serverPublicKey]

lemma length_completed_le (hp : (peers.map (·.pubkey)).Nodup) (state : ConnectionState) :
    (completed peers state).length ≤ 1 := by
  have hn : ((completed peers state).map (·.pubkey)).Nodup := by
    rw [completed]
    split
    · exact List.nodup_nil
    · exact hp.sublist (List.filter_sublist.map _)
  have hk : ∀ status ∈ completed peers state, status.pubkey = state.config.serverPublicKey :=
    fun status h => (mem_completed.mp h).2.2.1
  cases hl : completed peers state with
  | nil => simp
  | cons a l =>
    cases l with
    | nil => simp
    | cons b l =>
      rw [hl] at hn hk
      have hab : a.pubkey = b.pubkey := (hk a (by simp)).trans (hk b (by simp)).symm
      simp [hab] at hn

lemma isSome_recordHandshake (state : ConnectionState) :
    (recordHandshake peers state).date.isSome = (state.date.isSome || !(completed peers state).isEmpty) := by
  rw [recordHandshake]
  cases hl : (completed peers state).getLast? with
  | none => simp [List.getLast?_eq_none_iff.mp hl]
  | some status =>
    have hn : completed peers state ≠ [] := fun h => by simp [h] at hl
    simp [hn]

end Daemon

/-- The daemon with the handshakes of its peers. For the connection of each hop it is recorded whether its peer has
completed a handshake since it was activated, and how often it was reported. -/
structure PeerHandshakes where
  daemon : Daemon := {}
  handshakes : String → ℕ := fun _ => 0
  fresh : HopType → Bool := fun _ => false
  emitted : HopType → ℕ := fun _ => 0

namespace PeerHandshakes

open Daemon

inductive Event where
  | activate (config : InterfaceConfig)
  | deactivate (emitSignals : Bool)
  | handshake (pubkey : String) (time : ℕ)
  | handshakeTimeout (peers : List PeerStatus)

/-- The time of the last handshake is known as long as the peer stays on the interface. -/
def keep (daemon : Daemon) (handshakes : String → ℕ) (pubkey : String) : ℕ :=
  if daemon.interface.Has pubkey then handshakes pubkey else 0

variable (env : Env)

/-- An activation that reconnects deletes the interface before it brings it up again. -/
def activate (config : InterfaceConfig) (s : PeerHandshakes) : PeerHandshakes :=
  let daemon := (Daemon.activate env config s.daemon).2
  { daemon
    handshakes := keep daemon (if Reconnects config s.daemon then fun _ => 0 else s.handshakes)
    fresh := Function.update s.fresh config.hopType false
    emitted := Function.update s.emitted config.hopType 0 }

def deactivate (emitSignals : Bool) (s : PeerHandshakes) : PeerHandshakes :=
  let daemon := (Daemon.deactivate env emitSignals s.daemon).2
  { s with daemon, handshakes := keep daemon s.handshakes }

def handshake (pubkey : String) (time : ℕ) (s : PeerHandshakes) : PeerHandshakes :=
  if s.daemon.interface.Has pubkey then
    { s with
      handshakes := Function.update s.handshakes pubkey time
      fresh := fun hop => s.fresh hop || (s.daemon.connections hop).any (·.config.serverPublicKey == pubkey) }
  else s

def handshakeTimeout (peers : List PeerStatus) (s : PeerHandshakes) : PeerHandshakes :=
  { s with
    daemon := s.daemon.step env (.handshakeTimeout peers)
    emitted := fun hop =>
      s.emitted hop + if s.daemon.handshakeTimer then (handshakeSignals peers s.daemon hop).length else 0 }

def step (s : PeerHandshakes) : Event → PeerHandshakes
  | .activate config => s.activate env config
  | .deactivate emitSignals => s.deactivate env emitSignals
  | .handshake pubkey time => s.handshake pubkey time
  | .handshakeTimeout peers => s.handshakeTimeout env peers

/-- The status of each peer on the interface, with the time of its last handshake. -/
structure Reported (peers : List PeerStatus) (s : PeerHandshakes) : Prop where
  nodup : (peers.map (·.pubkey)).Nodup
  sound : ∀ status ∈ peers, s.daemon.interface.Has status.pubkey ∧ status.handshake = s.handshakes status.pubkey
  complete : ∀ pubkey, s.daemon.interface.Has pubkey → ∃ status ∈ peers, status.pubkey = pubkey

/-- Activations succeed, a handshake has a time, and polls are answered truly. -/
def Allowed (s : PeerHandshakes) : Event → Prop
  | .activate config => (Daemon.activate env config s.daemon).1 = true
  | .deactivate _ => True
  | .handshake _ time => time ≠ 0
  | .handshakeTimeout peers => Reported peers s

/-- An activation reconnects, or its server has not completed a handshake. -/
def FreshKey (s : PeerHandshakes) : Event → Prop
  | .activate config => Reconnects config s.daemon ∨ s.handshakes config.serverPublicKey = 0
  | _ => True

/-- A poll reports only connections whose peer has completed a handshake since their activation. -/
def OnlyFresh (s : PeerHandshakes) : Prop :=
  ∀ peers, Reported peers s → ∀ hop, handshakeSignals peers s.daemon hop ≠ [] → s.fresh hop = true

/-- Each connection was reported once if it has a date, and not at all otherwise. -/
def Once (s : PeerHandshakes) : Prop := ∀ hop state, s.daemon.connections hop = some state →
  s.emitted hop = if state.date.isSome then 1 else 0

/-- The handshake timer runs while a connection has no date. -/
def Awaits (s : PeerHandshakes) : Prop := ∀ hop state, s.daemon.connections hop = some state →
  state.date = none → s.daemon.handshakeTimer = true

/-- A poll finds each connection whose peer has completed a handshake. -/
def Finds (s : PeerHandshakes) : Prop := ∀ peers, Reported peers s →
  ∀ hop state, (s.handshakeTimeout env peers).daemon.connections hop = some state →
    s.daemon.interface.Has state.config.serverPublicKey → s.handshakes state.config.serverPublicKey ≠ 0 →
      state.date.isSome = true

/-- A connection without a date whose peer has completed a handshake did so since its activation. -/
def Fresh (s : PeerHandshakes) : Prop := ∀ hop state, s.daemon.connections hop = some state → state.date = none →
  s.handshakes state.config.serverPublicKey ≠ 0 → s.fresh hop = true

variable {env} {config : InterfaceConfig} {s : PeerHandshakes} {peers : List PeerStatus} {hop : HopType}
  {state : ConnectionState} {event : Event}

lemma le_keep {daemon : Daemon} {handshakes : String → ℕ} {pubkey : String} (h : keep daemon handshakes pubkey ≠ 0) :
    handshakes pubkey ≠ 0 := by
  unfold keep at h
  split at h
  · exact h
  · exact absurd rfl h

lemma activate_connection (hw : Wired s.daemon) (hs : (Daemon.activate env config s.daemon).1 = true)
    (hc : (s.activate env config).daemon.connections hop = some state) :
    hop = config.hopType ∧ state = { config } ∨
      hop ≠ config.hopType ∧ ¬Reconnects config s.daemon ∧ s.daemon.connections hop = some state := by
  have h : (s.activate env config).daemon.connections =
      Connections.insert (if Reconnects config s.daemon then fun _ => none else s.daemon.connections) config :=
    (yields_activate hw hs).1.1
  rw [h] at hc
  by_cases hh : hop = config.hopType
  · subst hh
    simp only [Connections.insert, Function.update_self, Option.some.injEq] at hc
    exact .inl ⟨rfl, hc.symm⟩
  · simp only [Connections.insert, Function.update_of_ne hh] at hc
    split at hc
    · cases hc
    · next hr => exact .inr ⟨hh, hr, hc⟩

lemma deactivate_connection {emitSignals : Bool}
    (hc : (s.deactivate env emitSignals).daemon.connections hop = some state) :
    s.daemon.connections hop = some state := by
  have hd : (s.deactivate env emitSignals).daemon = (Daemon.deactivate env emitSignals s.daemon).2 := rfl
  rw [hd] at hc
  obtain h | ⟨-, h, -⟩ := deactivate_cases env emitSignals s.daemon
  · simp [h] at hc
  · rwa [h] at hc

lemma timer_deactivate (emitSignals : Bool) :
    (s.deactivate env emitSignals).daemon.handshakeTimer = s.daemon.handshakeTimer :=
  keeps_handshakeTimer emitSignals s.daemon rfl

lemma daemon_handshake (pubkey : String) (time : ℕ) : (s.handshake pubkey time).daemon = s.daemon := by
  rw [handshake]
  split <;> rfl

lemma emitted_handshake (pubkey : String) (time : ℕ) : (s.handshake pubkey time).emitted = s.emitted := by
  rw [handshake]
  split <;> rfl

lemma handshakeTimeout_connection (hc : (s.handshakeTimeout env peers).daemon.connections hop = some state) :
    (s.daemon.handshakeTimer = false ∧ s.daemon.connections hop = some state) ∨
      (s.daemon.handshakeTimer = true ∧ ∃ last, s.daemon.connections hop = some last ∧
        state = recordHandshake peers last) := by
  unfold handshakeTimeout Daemon.step at hc
  dsimp only at hc
  split at hc
  · next ht =>
    obtain ⟨last, hl, rfl⟩ := Option.map_eq_some_iff.mp hc
    exact .inr ⟨ht, last, hl, rfl⟩
  · next ht => exact .inl ⟨by simpa using ht, hc⟩

lemma wired_step (hw : Wired s.daemon) (ha : s.Allowed env event) : Wired (s.step env event).daemon := by
  cases event with
  | activate config =>
    intro _ _
    exact (yields_activate hw ha).1.2.1
  | deactivate emitSignals => exact wired_deactivate hw emitSignals
  | handshake pubkey time =>
    have hd : (s.step env (.handshake pubkey time)).daemon = s.daemon := daemon_handshake _ _
    rwa [hd]
  | handshakeTimeout peers =>
    intro hop hs
    obtain ⟨state, hc⟩ := Option.isSome_iff_exists.mp hs
    have hi : (s.step env (.handshakeTimeout peers)).daemon.interface = s.daemon.interface := by
      simp only [PeerHandshakes.step, handshakeTimeout, Daemon.step]
      split <;> rfl
    rw [hi]
    obtain ⟨-, h⟩ | ⟨-, last, h, -⟩ := handshakeTimeout_connection hc
    · exact hw hop (by simp [h])
    · exact hw hop (by simp [h])

lemma Once.step (h : s.Once) (hw : Wired s.daemon) (ha : s.Allowed env event) : (s.step env event).Once := by
  intro hop state hc
  cases event with
  | activate config =>
    obtain ⟨rfl, rfl⟩ | ⟨hh, -, hc⟩ := activate_connection hw ha hc
    · simp [PeerHandshakes.step, activate]
    · simpa [PeerHandshakes.step, activate, Function.update_of_ne hh] using h hop state hc
  | deactivate emitSignals => exact h hop state (deactivate_connection hc)
  | handshake pubkey time =>
    rw [PeerHandshakes.step, daemon_handshake] at hc
    rw [PeerHandshakes.step, emitted_handshake]
    exact h hop state hc
  | handshakeTimeout peers =>
    simp only [PeerHandshakes.step, handshakeTimeout]
    obtain ⟨ht, hc'⟩ | ⟨ht, last, hc', rfl⟩ := handshakeTimeout_connection hc
    · simpa [ht] using h hop state hc'
    · have hl := length_completed_le ha.nodup last
      have hd : last.date.isSome → completed peers last = [] := fun hs => by simp [completed, hs]
      simp only [ht, if_true, h hop last hc', isSome_recordHandshake, handshakeSignals, hc', Option.toList_some,
        List.flatMap_cons, List.flatMap_nil, List.append_nil, List.length_map]
      cases hs : last.date.isSome with
      | true => simp [hd hs]
      | false => cases hp : completed peers last <;> simp_all

lemma Awaits.step (h : s.Awaits) (hw : Wired s.daemon) (ha : s.Allowed env event) : (s.step env event).Awaits := by
  intro hop state hc hd
  cases event with
  | activate config => exact (yields_activate hw ha).2
  | deactivate emitSignals => exact (timer_deactivate emitSignals).trans (h hop state (deactivate_connection hc) hd)
  | handshake pubkey time =>
    rw [PeerHandshakes.step, daemon_handshake] at hc ⊢
    exact h hop state hc hd
  | handshakeTimeout peers =>
    obtain ⟨ht, hc'⟩ | ⟨ht, -⟩ := handshakeTimeout_connection hc
    · simp [h hop state hc' hd] at ht
    · simp only [PeerHandshakes.step, handshakeTimeout, Daemon.step, ht, if_true] at hc ⊢
      exact List.any_eq_true.mpr ⟨state, Connections.mem_values hc, by simp [hd]⟩

lemma finds_of_awaits (h : s.Awaits) : s.Finds env := by
  intro peers hr hop state hc hi hn
  obtain ⟨ht, hc'⟩ | ⟨-, last, hc', rfl⟩ := handshakeTimeout_connection hc
  · by_contra hd
    simp [h hop state hc' (Option.not_isSome_iff_eq_none.mp hd)] at ht
  · rw [config_recordHandshake] at hi hn
    obtain ⟨status, hm, hk⟩ := hr.complete _ hi
    rw [isSome_recordHandshake, Bool.or_eq_true, or_iff_not_imp_left]
    intro hd
    have hc : status ∈ completed peers last := by
      refine mem_completed.mpr ⟨Option.not_isSome_iff_eq_none.mp hd, hm, hk, ?_⟩
      rwa [(hr.sound status hm).2, hk]
    simp [List.ne_nil_of_mem hc]

lemma Fresh.onlyFresh (h : s.Fresh) : s.OnlyFresh := by
  intro peers hr hop hn
  obtain ⟨signal, hs⟩ := List.exists_mem_of_ne_nil _ hn
  obtain ⟨state, hc, hm⟩ := List.mem_flatMap.mp hs
  obtain ⟨status, hm, -⟩ := List.mem_map.mp hm
  obtain ⟨hd, hm, hk, hh⟩ := mem_completed.mp hm
  apply h hop state (by simpa using hc) hd
  rwa [← hk, ← (hr.sound status hm).2]

lemma exists_reported (s : PeerHandshakes) : ∃ peers, Reported peers s := by
  let keys := if s.daemon.interface.present then s.daemon.interface.peers else ∅
  have hk : ∀ k, k ∈ keys ↔ s.daemon.interface.Has k := by
    intro k
    unfold keys Interface.Has
    split <;> simp [*]
  refine ⟨keys.toList.map fun k => ⟨k, s.handshakes k, 0, 0⟩, ?_, ?_, ?_⟩
  · simpa [List.map_map, Function.comp_def] using keys.nodup_toList
  · intro status hm
    obtain ⟨k, hm', rfl⟩ := List.mem_map.mp hm
    exact ⟨(hk k).mp (Finset.mem_toList.mp hm'), rfl⟩
  · intro k hi
    exact ⟨_, List.mem_map_of_mem (Finset.mem_toList.mpr ((hk k).mpr hi)), rfl⟩

lemma freshKey_of_onlyFresh (hw : Wired s.daemon) (ha : s.Allowed env event) (h : (s.step env event).OnlyFresh) :
    s.FreshKey event := by
  cases event with
  | activate config =>
    by_contra hn
    obtain ⟨hr, hk⟩ := not_or.mp hn
    obtain ⟨⟨hc, hi, hp⟩, -⟩ := yields_activate hw ha
    rw [if_neg hr] at hc
    have hh : (s.step env (.activate config)).handshakes config.serverPublicKey ≠ 0 := by
      have hm : (Daemon.activate env config s.daemon).2.interface.Has config.serverPublicKey :=
        ⟨hi, Finset.singleton_subset_iff.mp hp⟩
      simpa [PeerHandshakes.step, activate, keep, hm, hr] using hk
    have hc' : (s.step env (.activate config)).daemon.connections config.hopType = some { config } := by
      have hd : (s.step env (.activate config)).daemon = (Daemon.activate env config s.daemon).2 := rfl
      simp [hd, hc, Connections.insert]
    obtain ⟨peers, hr'⟩ := exists_reported (s.step env (.activate config))
    obtain ⟨status, hm, hs⟩ := hr'.complete config.serverPublicKey ⟨hi, Finset.singleton_subset_iff.mp hp⟩
    have hf := h peers hr' config.hopType (List.ne_nil_of_mem (List.mem_flatMap.mpr
      ⟨{ config }, by simp [hc'], List.mem_map_of_mem (mem_completed.mpr ⟨rfl, hm, hs, by rwa [(hr'.sound status hm).2, hs]⟩)⟩))
    simp [PeerHandshakes.step, activate] at hf
  | deactivate emitSignals => trivial
  | handshake pubkey time => trivial
  | handshakeTimeout peers => trivial

lemma Fresh.step (h : s.Fresh) (hw : Wired s.daemon) (ha : s.Allowed env event) (hf : s.FreshKey event) :
    (s.step env event).Fresh := by
  intro hop state hc hd hn
  cases event with
  | activate config =>
    obtain ⟨rfl, rfl⟩ | ⟨hh, hr, hc⟩ := activate_connection hw ha hc
    · have hk := le_keep hn
      obtain hr | hz := hf
      · simp [hr] at hk
      · split at hk
        · exact absurd rfl hk
        · exact absurd hz hk
    · have hk := le_keep hn
      rw [if_neg hr] at hk
      simpa [PeerHandshakes.step, activate, Function.update_of_ne hh] using h hop state hc hd hk
  | deactivate emitSignals => exact h hop state (deactivate_connection hc) hd (le_keep hn)
  | handshake pubkey time =>
    rw [PeerHandshakes.step, daemon_handshake] at hc
    simp only [PeerHandshakes.step, handshake] at hn ⊢
    split at hn
    · next hi =>
      rw [if_pos hi]
      simp only [hc, Option.any_some, Bool.or_eq_true, beq_iff_eq]
      by_cases hk : state.config.serverPublicKey = pubkey
      · exact .inr hk
      · exact .inl (h hop state hc hd (by simpa [Function.update_of_ne hk] using hn))
    · next hi =>
      rw [if_neg hi]
      exact h hop state hc hd hn
  | handshakeTimeout peers =>
    obtain ⟨-, hc'⟩ | ⟨-, last, hc', rfl⟩ := handshakeTimeout_connection hc
    · exact h hop state hc' hd hn
    · refine h hop last hc' ?_ (by rwa [config_recordHandshake] at hn)
      have hs : (recordHandshake peers last).date.isSome = false := by simp [hd]
      rw [isSome_recordHandshake, Bool.or_eq_false_iff] at hs
      simpa using hs.1

/-- In every run in which activations succeed, the connections with a date are those that were reported, once, and the
handshake timer runs until all are; what a poll reports is always fresh exactly if each activation is for a server
without a handshake. -/
theorem reported_once (env : Env) (events : List Event) (ha : Meets (step env) (Allowed env) {} events) :
    (∀ es, es <+: events → (run (step env) {} es).Once ∧ (run (step env) {} es).Awaits ∧
      (run (step env) {} es).Finds env) ∧
    ((∀ es, es <+: events → (run (step env) {} es).OnlyFresh) ↔ Meets (step env) FreshKey {} events) := by
  have hw : Wired ({} : PeerHandshakes).daemon := fun _ h => by cases h
  have ho : Once {} := fun _ _ hc => by cases hc
  have ht : Awaits {} := fun _ _ hc => by cases hc
  have hf : Fresh {} := fun _ _ hc => by cases hc
  constructor
  · intro es he
    have h := (ha.of_prefix he).invariant (P := fun s => Wired s.daemon ∧ s.Once ∧ s.Awaits)
      (fun s e h ha => ⟨wired_step h.1 ha, h.2.1.step h.1 ha, h.2.2.step h.1 ha⟩)
      ⟨hw, ho, ht⟩
    exact ⟨h.2.1, h.2.2, finds_of_awaits h.2.2⟩
  · exact (ha.iff_throughout (P := fun s => Wired s.daemon ∧ s.Fresh) (Q := OnlyFresh)
      (fun s e h ha hk => ⟨wired_step h.1 ha, h.2.step h.1 ha hk⟩)
      (fun s e h ha => ⟨fun hk => (h.2.step h.1 ha hk).onlyFresh, freshKey_of_onlyFresh h.1 ha⟩)
      ⟨hw, hf⟩ hf.onlyFresh).symm

lemma reported_singleton {pubkey : String} (hp : s.daemon.interface.present = true)
    (hk : s.daemon.interface.peers = {pubkey}) : Reported [⟨pubkey, s.handshakes pubkey, 0, 0⟩] s where
  nodup := by simp
  sound status hm := by
    obtain rfl := List.mem_singleton.mp hm
    exact ⟨⟨hp, by simp [hk]⟩, rfl⟩
  complete k hi := by
    have hi' : k = pubkey := by simpa [hk] using hi.2
    exact ⟨_, List.mem_singleton_self _, hi'.symm⟩

lemma allowed_activate {b : Bool} (config : InterfaceConfig) (s : PeerHandshakes) :
    s.Allowed (.succeeding b) (.activate config) := (ensures_activate config s.daemon.tunnel s.daemon rfl).1

/-- After a deactivation the same server is awaited anew. -/
theorem reported_once_again :
    let config : InterfaceConfig := { hopType := .SingleHop, serverPublicKey := "k" }
    let events : List Event :=
      [.activate config, .handshake "k" 5, .handshakeTimeout [⟨"k", 5, 0, 0⟩], .deactivate true, .activate config]
    ∀ es, es <+: events → (run (step (.succeeding true)) {} es).OnlyFresh := by
  intro config events
  have ha : Meets (step (.succeeding true)) (Allowed (.succeeding true)) {} events := by
    refine ⟨allowed_activate _ _, Nat.succ_ne_zero 4, ?_, trivial, allowed_activate _ _, trivial⟩
    let s := run (step (.succeeding true)) {} [.activate config, .handshake "k" 5]
    exact @reported_singleton s "k" (by decide +kernel) (by decide +kernel)
  have hf : Meets (step (.succeeding true)) FreshKey {} events :=
    ⟨.inr rfl, trivial, trivial, trivial, .inr (by decide +kernel), trivial⟩
  exact (reported_once (.succeeding true) events ha).2.mpr hf

/-- The server is activated again with its peer on the interface, and reported without another handshake. -/
theorem reported_stale :
    let config : InterfaceConfig := { hopType := .SingleHop, serverPublicKey := "k" }
    let peers : List PeerStatus := [⟨"k", 5, 0, 0⟩]
    let events : List Event :=
      [.activate config, .handshake "k" 5, .handshakeTimeout peers, .activate config]
    let s := run (step (.succeeding true)) {} events
    Meets (step (.succeeding true)) (Allowed (.succeeding true)) {} (events ++ [.handshakeTimeout peers]) ∧
      s.fresh .SingleHop = false ∧ handshakeSignals peers s.daemon .SingleHop = [.connected "k"] ∧ ¬s.OnlyFresh := by
  intro config peers events s
  have hr : Reported peers s := by
    have hk : s.handshakes "k" = 5 := by decide +kernel
    have h := @reported_singleton s "k" (by decide +kernel) (by decide +kernel)
    rwa [hk] at h
  have hf : s.fresh .SingleHop = false := by decide +kernel
  have hs : handshakeSignals peers s.daemon .SingleHop = [.connected "k"] := by decide +kernel
  have ha : Meets (step (.succeeding true)) (Allowed (.succeeding true)) {} events := by
    refine ⟨allowed_activate _ _, Nat.succ_ne_zero 4, ?_, allowed_activate _ _, trivial⟩
    let s := run (step (.succeeding true)) {} [.activate config, .handshake "k" 5]
    exact @reported_singleton s "k" (by decide +kernel) (by decide +kernel)
  refine ⟨meets_concat.mpr ⟨ha, hr⟩, hf, hs, fun h => ?_⟩
  have hn := h peers hr .SingleHop (by simp [hs])
  simp [hf] at hn

end PeerHandshakes

end VpnClient.Backend
