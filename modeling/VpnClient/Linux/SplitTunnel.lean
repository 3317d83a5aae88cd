import VpnClient.Library.KeyedLists
import VpnClient.Linux.SessionOwner

/-! The split tunnel: the control groups whose traffic is marked are the running ones of the excluded applications. -/

namespace VpnClient.Linux

open Backend Library.Attempts Library.Attempts.Attempt Library.Entries Library.Runs
open Backend.Daemon (Reconnects)

namespace DBusService

/-- The running control groups of the applications. -/
def excluded (apps : Finset String) (running : AList fun _ : Cgroup => String) : Finset Cgroup :=
  running.keys.toFinset.filter fun c => ∃ id ∈ apps, running.lookup c = some id

/-- The control groups are told apart by the rules. -/
def Apart (cs : List Cgroup) : Prop :=
  ∀ c ∈ cs, ∀ c' ∈ cs, c.path.take 511 = c'.path.take 511 → c = c'

/-- The records of the daemon and the rules are those for the excluded applications and control groups. -/
structure Tracks (apps : Finset String) (keys : Finset Cgroup) (s : DBusService) : Prop where
  apps : ∀ id, s.excludedApps id = if id ∈ apps then some .Excluded else none
  cgroups : ∀ c, s.excludedCgroups c = if c ∈ keys then some .Excluded else none
  mark : Holds Cgroup.xtmatch keys s.chains.cgroupMark
  nat : Holds Cgroup.xtmatch keys s.chains.cgroupNat

variable {env : Env} {message : Option Message} {config : InterfaceConfig} {apps : Finset String}
  {keys : Finset Cgroup} {c : Cgroup} {id : String} {s : DBusService}
  {running : AList fun _ : Cgroup => String}

lemma mem_excluded : c ∈ excluded apps running ↔ ∃ id ∈ apps, running.lookup c = some id := by
  rw [excluded]
  rw [Finset.mem_filter, List.mem_toFinset, ← AList.mem_keys]
  apply and_iff_right_of_imp
  rintro ⟨id, -, h⟩
  exact AList.lookup_isSome.mp (Option.isSome_of_eq_some h)

lemma excluded_empty : excluded ∅ running = ∅ := by
  ext c
  simp [mem_excluded]

lemma excluded_erase : excluded apps (running.erase c) = (excluded apps running).erase c := by
  ext c'
  rw [Finset.mem_erase, mem_excluded, mem_excluded]
  by_cases hc : c' = c
  · subst hc
    simp [AList.lookup_erase]
  · simp [AList.lookup_erase_ne hc, hc]

lemma excluded_insert (hc : c ∉ running) : excluded apps (running.insert c id) =
    if id ∈ apps then insert c (excluded apps running) else excluded apps running := by
  have hn : c ∉ excluded apps running := by
    intro h
    obtain ⟨id', -, h⟩ := mem_excluded.mp h
    exact hc (AList.lookup_isSome.mp (Option.isSome_of_eq_some h))
  ext c'
  by_cases he : c' = c
  · subst he
    by_cases hi : id ∈ apps <;> simp [mem_excluded, AList.lookup_insert, hi, hn]
  · by_cases hi : id ∈ apps <;> simp [mem_excluded, AList.lookup_insert_ne he, hi, he]

lemma excluded_insert_app : excluded (insert id apps) running =
    excluded apps running ∪ (running.keys.filter fun c => running.lookup c = some id).toFinset := by
  ext c
  simp only [mem_excluded, Finset.mem_union, List.mem_toFinset, List.mem_filter, decide_eq_true_eq,
    Finset.mem_insert, or_and_right, exists_or, exists_eq_left]
  rw [or_comm]
  refine or_congr_right ⟨fun h => ⟨?_, h⟩, And.right⟩
  exact AList.mem_keys.mp (AList.lookup_isSome.mp (Option.isSome_of_eq_some h))

lemma Tracks.frame (h : Tracks apps keys s) (daemon : Daemon) (sessionUid : ℕ)
    (runningCgroups : AList fun _ : Cgroup => String) :
    Tracks apps keys { s with daemon, sessionUid, runningCgroups } := ⟨h.apps, h.cgroups, h.mark, h.nat⟩

lemma tracks_clearAppStates (s : DBusService) : Tracks ∅ ∅ s.clearAppStates where
  apps _ := by simp [clearAppStates]
  cgroups _ := by simp [clearAppStates]
  mark := holds_empty
  nat := holds_empty

lemma Tracks.applyState (h : Tracks apps keys s) (hc : c ∉ keys) :
    Tracks apps (insert c keys) (s.applyState c .Excluded) where
  apps := h.apps
  cgroups c' := by
    by_cases he : c' = c
    · subst he
      simp [DBusService.applyState, excludeCgroup]
    · simp [DBusService.applyState, excludeCgroup, h.cgroups, he]
  mark := h.mark.append hc
  nat := h.nat.append hc

lemma Tracks.appLaunched (h : Tracks apps keys s) (hc : c ∉ keys) (id : String) :
    Tracks apps (if id ∈ apps then insert c keys else keys) (s.appLaunched c id) := by
  by_cases hi : id ∈ apps
  · simpa [DBusService.appLaunched, h.apps, hi] using h.applyState hc
  · simpa [DBusService.appLaunched, h.apps, hi] using h

lemma Tracks.appTerminated (h : Tracks apps keys s) (hi : ∀ k ∈ keys, k.xtmatch = c.xtmatch → k = c) :
    Tracks apps (keys.erase c) (s.appTerminated c) := by
  by_cases hc : c ∈ keys
  · have hs : (s.excludedCgroups c).isSome = true := by simp [h.cgroups, hc]
    rw [DBusService.appTerminated]
    rw [if_pos hs]
    refine ⟨h.apps, fun c' => ?_, h.mark.filter hi, h.nat.filter hi⟩
    by_cases he : c' = c
    · subst he
      simp [resetCgroup]
    · simp [resetCgroup, h.cgroups, he]
  · have hs : s.excludedCgroups c = none := by simp [h.cgroups, hc]
    rw [DBusService.appTerminated]
    rw [if_neg (by simp [hs]), Finset.erase_eq_of_notMem hc]
    exact h

lemma Tracks.reapplyState (h : Tracks apps keys s) (hi : ∀ k ∈ keys, k.xtmatch = c.xtmatch → k = c) :
    Tracks apps (insert c keys)
      ((if (s.excludedCgroups c).isSome then s.resetCgroup c else s).applyState c .Excluded) := by
  by_cases hc : c ∈ keys
  · have hs : (s.excludedCgroups c).isSome = true := by simp [h.cgroups, hc]
    rw [if_pos hs, Finset.insert_eq_self.mpr hc]
    have hmark := (h.mark.filter hi).append (Finset.notMem_erase c keys)
    have hnat := (h.nat.filter hi).append (Finset.notMem_erase c keys)
    rw [Finset.insert_erase hc] at hmark hnat
    refine ⟨h.apps, fun c' => ?_, hmark, hnat⟩
    by_cases he : c' = c
    · subst he
      simp [DBusService.applyState, excludeCgroup, hc]
    · simp [DBusService.applyState, excludeCgroup, resetCgroup, h.cgroups, he]
  · have hs : s.excludedCgroups c = none := by simp [h.cgroups, hc]
    rw [if_neg (by simp [hs])]
    exact h.applyState hc

lemma Tracks.reapplyStates (cs : List Cgroup) (h : Tracks apps keys s)
    (hi : ∀ c ∈ cs, ∀ k ∈ keys ∪ cs.toFinset, k.xtmatch = c.xtmatch → k = c) :
    Tracks apps (keys ∪ cs.toFinset) (cs.foldl (fun s cgroup =>
      (if (s.excludedCgroups cgroup).isSome then s.resetCgroup cgroup else s).applyState cgroup .Excluded) s) := by
  induction cs generalizing s keys with
  | nil => simpa using h
  | cons c cs ih =>
    have hu : keys ∪ (c :: cs).toFinset = insert c keys ∪ cs.toFinset := by
      rw [List.toFinset_cons, Finset.union_insert, Finset.insert_union]
    rw [hu] at hi ⊢
    apply ih (h.reapplyState fun k hk => hi c (by simp) k (by simp [hk]))
    exact fun c' hc' => hi c' (List.mem_cons_of_mem c hc')

lemma Apart.eq {cs : List Cgroup} {c' : Cgroup} (h : Apart cs) (hc : c ∈ cs) (hc' : c' ∈ cs)
    (he : c.xtmatch = c'.xtmatch) : c = c' := h c hc c' hc' (xtmatch_eq_iff.mp he)

lemma mem_keys_of_mem_excluded (h : c ∈ excluded apps running) : c ∈ running.keys :=
  List.mem_toFinset.mp (Finset.mem_filter.mp h).1

lemma Tracks.setAppState (h : Tracks apps (excluded apps s.runningCgroups) s) (ha : Apart s.runningCgroups.keys)
    (id : String) :
    Tracks (insert id apps) (excluded (insert id apps) s.runningCgroups) (s.setAppState id .Excluded) := by
  have hs : Tracks (insert id apps) (excluded apps s.runningCgroups)
      { s with excludedApps := Function.update s.excludedApps id (some .Excluded) } := by
    refine ⟨fun id' => ?_, h.cgroups, h.mark, h.nat⟩
    by_cases he : id' = id
    · subst he
      simp
    · simp [h.apps, he]
  have hf : ∀ c ∈ s.findByDesktopFileId id, c ∈ s.runningCgroups.keys := fun c hc => (List.mem_filter.mp hc).1
  rw [excluded_insert_app]
  refine hs.reapplyStates (s.findByDesktopFileId id) fun c hc k hk he => ?_
  refine ha.eq ?_ (hf c hc) he
  obtain hk | hk := Finset.mem_union.mp hk
  · exact mem_keys_of_mem_excluded hk
  · exact hf k (List.mem_toFinset.mp hk)

lemma runningCgroups_setAppState (id : String) (s : DBusService) :
    (s.setAppState id .Excluded).runningCgroups = s.runningCgroups := by
  refine run_frame (f := runningCgroups) fun s cgroup => ?_
  dsimp only [applyState]
  split <;> split <;> rfl

/-- The rules are those of the running control groups of the applications, which they tell apart. -/
structure SplitTunnel (apps : Finset String) (s : DBusService) : Prop where
  tracks : Tracks apps (excluded apps s.runningCgroups) s
  apart : Apart s.runningCgroups.keys

def excludedIds (config : InterfaceConfig) : Finset String := (config.vpnDisabledApps.map desktopFileId).toFinset

lemma SplitTunnel.frame (h : SplitTunnel apps s) (daemon : Daemon) (sessionUid : ℕ) :
    SplitTunnel apps { s with daemon, sessionUid } :=
  ⟨h.tracks.frame daemon sessionUid s.runningCgroups, h.apart⟩

lemma splitTunnel_clearAppStates (ha : Apart s.runningCgroups.keys) : SplitTunnel ∅ s.clearAppStates where
  tracks := by
    rw [excluded_empty]
    exact tracks_clearAppStates s
  apart := ha

lemma SplitTunnel.setAppState (h : SplitTunnel apps s) (id : String) :
    SplitTunnel (insert id apps) (s.setAppState id .Excluded) := by
  have hr := runningCgroups_setAppState id s
  refine ⟨?_, hr ▸ h.apart⟩
  rw [hr]
  exact h.tracks.setAppState h.apart id

lemma splitTunnel_excludeApps (config : InterfaceConfig) (ha : Apart s.runningCgroups.keys) :
    SplitTunnel (excludedIds config) (s.excludeApps config) := by
  have h : ∀ (disabled : List String) (apps : Finset String) (s : DBusService), SplitTunnel apps s →
      SplitTunnel (apps ∪ (disabled.map desktopFileId).toFinset)
        (disabled.foldl (fun s app => s.setAppState (desktopFileId app) .Excluded) s) := by
    intro disabled
    induction disabled with
    | nil =>
      intro apps s h
      simpa using h
    | cons app disabled ih =>
      intro apps s h
      rw [List.map_cons, List.toFinset_cons, Finset.union_insert, ← Finset.insert_union]
      exact ih _ _ (h.setAppState _)
  simpa [excludedIds, excludeApps] using h config.vpnDisabledApps ∅ s.clearAppStates (splitTunnel_clearAppStates ha)

lemma runningCgroups_appLaunched (c : Cgroup) (id : String) (s : DBusService) :
    (s.appLaunched c id).runningCgroups = s.runningCgroups := by
  dsimp only [appLaunched, applyState]
  split
  · rfl
  · split <;> rfl

lemma runningCgroups_appTerminated (c : Cgroup) (s : DBusService) :
    (s.appTerminated c).runningCgroups = s.runningCgroups := by
  rw [appTerminated]
  split <;> rfl

/-- What holds while `cgroupsChanged` goes through the scopes: those that are still to come have not been launched. -/
structure Scanning (apps : Finset String) (all : List Cgroup) (scopes : List (Cgroup × String))
    (p : List Cgroup × DBusService) : Prop where
  tracks : Tracks apps (excluded apps p.2.runningCgroups) p.2
  subset : ∀ c ∈ p.2.runningCgroups, c ∈ all
  kept : ∀ c ∈ p.1, c ∈ all
  old : ∀ c ∈ p.2.runningCgroups, c ∈ scopes.map Prod.fst → c ∈ p.1
  nodup : (scopes.map Prod.fst).Nodup
  listed : ∀ c ∈ scopes.map Prod.fst, c ∈ all

lemma Scanning.scopeFound {all : List Cgroup} {scope : Cgroup × String} {scopes : List (Cgroup × String)}
    {p : List Cgroup × DBusService} (h : Scanning apps all (scope :: scopes) p) :
    Scanning apps all scopes (scopeFound p scope) := by
  obtain ⟨hs, hn⟩ := List.nodup_cons.mp h.nodup
  have hlisted : ∀ c ∈ scopes.map Prod.fst, c ∈ all := fun c hc => h.listed c (List.mem_cons_of_mem _ hc)
  rw [DBusService.scopeFound]
  by_cases ho : scope.1 ∈ p.1
  · rw [if_pos ho]
    refine ⟨h.tracks, h.subset, fun c hc => h.kept c (List.mem_filter.mp hc).1, fun c hc hm => ?_, hn, hlisted⟩
    refine List.mem_filter.mpr ⟨h.old c hc (List.mem_cons_of_mem _ hm), ?_⟩
    simp only [decide_eq_true_eq]
    rintro rfl
    exact hs hm
  · rw [if_neg ho]
    have hr : scope.1 ∉ p.2.runningCgroups := fun hr => ho (h.old _ hr (by simp))
    have he : scope.1 ∉ excluded apps p.2.runningCgroups := fun he =>
      hr (AList.mem_keys.mpr (mem_keys_of_mem_excluded he))
    have ht := (h.tracks.frame p.2.daemon p.2.sessionUid (p.2.runningCgroups.insert scope.1 scope.2)).appLaunched
      he scope.2
    rw [← excluded_insert hr] at ht
    refine ⟨?_, ?_, h.kept, ?_, hn, hlisted⟩
    · rw [runningCgroups_appLaunched]
      exact ht
    · rw [runningCgroups_appLaunched]
      intro c hc
      obtain rfl | hc := (AList.mem_insert _).mp hc
      · exact h.listed _ (by simp)
      · exact h.subset c hc
    · rw [runningCgroups_appLaunched]
      intro c hc hm
      obtain rfl | hc := (AList.mem_insert _).mp hc
      · exact absurd hm hs
      · exact h.old c hc (List.mem_cons_of_mem _ hm)

lemma Scanning.foldl {all : List Cgroup} {scopes : List (Cgroup × String)} {p : List Cgroup × DBusService}
    (h : Scanning apps all scopes p) : Scanning apps all [] (scopes.foldl DBusService.scopeFound p) := by
  induction scopes generalizing p with
  | nil => exact h
  | cons scope scopes ih => exact ih h.scopeFound

lemma Apart.subset {cs cs' : List Cgroup} (h : Apart cs') (hs : ∀ c ∈ cs, c ∈ cs') : Apart cs :=
  fun c hc c' hc' => h c (hs c hc) c' (hs c' hc')

lemma Tracks.scopeMissing (h : Tracks apps (excluded apps s.runningCgroups) s) (directory : Library.Nftables.Data)
    (hi : ∀ k ∈ s.runningCgroups, k.xtmatch = c.xtmatch → k = c) :
    Tracks apps (excluded apps (s.scopeMissing directory c).runningCgroups) (s.scopeMissing directory c) ∧
      ∀ k ∈ (s.scopeMissing directory c).runningCgroups, k ∈ s.runningCgroups := by
  rw [DBusService.scopeMissing]
  split
  · rw [runningCgroups_appTerminated, excluded_erase]
    refine ⟨(h.frame s.daemon s.sessionUid (s.runningCgroups.erase c)).appTerminated fun k hk => ?_, fun k hk => ?_⟩
    · exact hi k (AList.mem_keys.mpr (mem_keys_of_mem_excluded hk))
    · exact (AList.mem_erase.mp hk).2
  · exact ⟨h, fun _ hk => hk⟩

lemma Tracks.scopesMissing (h : Tracks apps (excluded apps s.runningCgroups) s) (directory : Library.Nftables.Data)
    {all cs : List Cgroup} (ha : Apart all) (hs : ∀ k ∈ s.runningCgroups, k ∈ all) (hcs : ∀ c ∈ cs, c ∈ all) :
    SplitTunnel apps (cs.foldl (DBusService.scopeMissing directory) s) := by
  induction cs generalizing s with
  | nil => exact ⟨h, ha.subset fun k hk => hs k (AList.mem_keys.mpr hk)⟩
  | cons c cs ih =>
    obtain ⟨hc, hcs⟩ := List.forall_mem_cons.mp hcs
    obtain ⟨ht, hk⟩ := h.scopeMissing directory fun k hk => ha.eq (hs k hk) hc
    exact ih ht (fun k hk' => hs k (hk k hk')) hcs

lemma SplitTunnel.cgroupsChanged (h : SplitTunnel apps s) (directory : Library.Nftables.Data) (newScopes : Listing)
    (ha : Apart (s.runningCgroups.keys ++ newScopes.scopes.map Prod.fst)) :
    SplitTunnel apps (s.cgroupsChanged directory newScopes) := by
  have h₀ : Scanning apps (s.runningCgroups.keys ++ newScopes.scopes.map Prod.fst) newScopes.scopes
      (s.runningCgroups.keys, s) :=
    { tracks := h.tracks
      subset := fun c hc => List.mem_append_left _ (AList.mem_keys.mp hc)
      kept := fun c hc => List.mem_append_left _ hc
      old := fun c hc _ => AList.mem_keys.mp hc
      nodup := newScopes.nodup
      listed := fun c hc => List.mem_append_right _ hc }
  have hf := h₀.foldl
  exact hf.tracks.scopesMissing directory ha hf.subset hf.kept

lemma SplitTunnel.authorization (h : SplitTunnel apps s) (message : Option Message) :
    SplitTunnel apps (isCallerAuthorized message s).2 := by
  cases message with
  | none => exact h
  | some message =>
    rw [isCallerAuthorized_some]
    exact h.frame s.daemon _

lemma SplitTunnel.deactivate (h : SplitTunnel apps s) (env : Env) (message : Option Message) (emitSignals : Bool) :
    SplitTunnel (if (isCallerAuthorized message s).1 then ∅ else apps) (deactivate env message emitSignals s).2 := by
  cases hm : (isCallerAuthorized message s).1 with
  | true =>
    simp only [DBusService.deactivate, andThen, hm, succeed, onDaemon, if_true]
    exact (splitTunnel_clearAppStates (h.authorization message).apart).frame _ _
  | false => simpa [DBusService.deactivate, andThen, isCallerAuthorized_of_fst_eq_false hm] using h

lemma splitTunnel_emitFailure {a : Attempt DBusService} (h : SplitTunnel apps (a s).2) :
    SplitTunnel apps (emitFailure a s).2 := by
  dsimp only [emitFailure]
  split
  · exact h
  · exact h.frame _ _

lemma SplitTunnel.connectHop (h : SplitTunnel apps s) (hr : ¬Reconnects config s.daemon) (depth : ℕ) :
    SplitTunnel apps (activateNested env message config (depth + 1) s).2 := by
  rw [activateNested_of_not_reconnects hr]
  exact splitTunnel_emitFailure (h.frame _ s.sessionUid)

lemma splitTunnel_empty (depth : ℕ) : Keeps (SplitTunnel ∅) (activateNested env message config depth) := by
  have hd : Keeps (SplitTunnel ∅) (DBusService.deactivate env message false) := by
    intro s hs
    simpa using hs.deactivate env message false
  induction depth with
  | zero => exact fun _ hs => hs
  | succ depth ih =>
    intro s hs
    by_cases hr : Reconnects config s.daemon
    · rw [activateNested_of_reconnects hr]
      exact splitTunnel_emitFailure (hd.andThen ih s hs)
    · exact hs.connectHop hr depth

lemma SplitTunnel.reconnect (h : SplitTunnel apps s) (hr : Reconnects config s.daemon)
    (ha : (DBusService.isCallerAuthorized message s).1 = true) (depth : ℕ) :
    SplitTunnel ∅ (activateNested env message config (depth + 1) s).2 := by
  have hd : SplitTunnel ∅ (DBusService.deactivate env message false s).2 := by
    simpa [ha] using h.deactivate env message false
  rw [activateNested_of_reconnects hr]
  apply splitTunnel_emitFailure
  rw [andThen]
  split
  · exact splitTunnel_empty depth _ hd
  · exact hd

/-- Watches the applications that the last activation excludes, up to the next deactivation. -/
def observeApps (env : Env) (s : DBusService) (e : Event) (apps : Finset String) : Finset String :=
  match e with
  | .call caller (.activate (some config)) =>
    let authorized := (isCallerAuthorized ((Call.activate (some config)).message caller) s).1
    if (serve env caller (.activate (some config)) s).1 then excludedIds config
    else if authorized ∧ Reconnects config s.daemon then ∅ else apps
  | .call caller .deactivate =>
    if (isCallerAuthorized (Call.deactivate.message caller) s).1 then ∅ else apps
  | .quitRequested => ∅
  | _ => apps

/-- Each running control group of the applications has one rule in each chain, and there are no other rules. -/
def RulesMatch (apps : Finset String) (s : DBusService) : Prop :=
  ∀ rules ∈ [s.chains.cgroupMark, s.chains.cgroupNat],
    (∀ c ∈ s.runningCgroups,
      rules.count c.xtmatch = if ∃ id ∈ apps, s.runningCgroups.lookup c = some id then 1 else 0) ∧
    ∀ rule ∈ rules, ∃ c, (∃ id ∈ apps, s.runningCgroups.lookup c = some id) ∧ c.xtmatch = rule

/-- The control groups that run and those that are found are told apart by the rules. -/
def Distinguished (s : DBusService) : Event → Prop
  | .cgroupsChanged _ newScopes => Apart (s.runningCgroups.keys ++ newScopes.scopes.map Prod.fst)
  | _ => True

lemma SplitTunnel.activate (h : SplitTunnel apps s) (env : Env) (caller : Caller) (config : InterfaceConfig) :
    SplitTunnel (observeApps env s (.call caller (.activate (some config))) apps)
      (serve env caller (.activate (some config)) s).2 := by
  cases ha : (isCallerAuthorized ((Call.activate (some config)).message caller) s).1 with
  | false =>
    have hs : serve env caller (.activate (some config)) s = (false, s) :=
      serve_of_not_authorized (isCallerAuthorized_of_fst_eq_false ha)
    simpa [observeApps, hs, ha] using h
  | true =>
    have h₁ := h.authorization (some ((Call.activate (some config)).message caller))
    have hn : SplitTunnel (if Reconnects config s.daemon then ∅ else apps)
        (activateNested env (some ((Call.activate (some config)).message caller)) config 2
          (isCallerAuthorized ((Call.activate (some config)).message caller) s).2).2 := by
      split
      · next hr => exact h₁.reconnect (by rwa [isCallerAuthorized_daemon]) (isCallerAuthorized_again ha) 1
      · next hr => exact h₁.connectHop (by rwa [isCallerAuthorized_daemon]) 1
    have hs : serve env caller (.activate (some config)) s =
        (activateNested env (some ((Call.activate (some config)).message caller)) config 2).andThen
          (succeed (excludeApps config)) (isCallerAuthorized ((Call.activate (some config)).message caller) s).2 :=
      if_pos ha
    simp only [observeApps, hs, ha, true_and]
    rw [andThen]
    cases hr : (activateNested env (some ((Call.activate (some config)).message caller)) config 2
        (isCallerAuthorized ((Call.activate (some config)).message caller) s).2).1 with
    | true => simpa [succeed] using splitTunnel_excludeApps config hn.apart
    | false => simpa using hn

lemma splitTunnel_step (env : Env) (p : DBusService × Finset String) (e : Event) (h : SplitTunnel p.2 p.1)
    (he : Distinguished p.1 e) :
    SplitTunnel (watch (step env) (observeApps env) p e).2 (watch (step env) (observeApps env) p e).1 := by
  obtain ⟨s, apps⟩ := p
  cases e with
  | call caller call =>
    cases call with
    | activate config =>
      cases config with
      | none =>
        refine (?_ : SplitTunnel apps (serve env caller (.activate none) s).2)
        rw [serve_activate_none]
        exact h.frame s.daemon _
      | some config => exact h.activate env caller config
    | deactivate => exact h.deactivate env _ true
    | getLogs => exact h.authorization _
  | quitRequested => exact h.deactivate env none true
  | handshakeTimeout peers => exact h.frame _ s.sessionUid
  | cgroupsChanged directory newScopes => exact h.cgroupsChanged directory newScopes he

lemma SplitTunnel.rulesMatch (h : SplitTunnel apps s) : RulesMatch apps s := by
  have hrules : ∀ rules, Holds Cgroup.xtmatch (excluded apps s.runningCgroups) rules →
      (∀ c ∈ s.runningCgroups,
        rules.count c.xtmatch = if ∃ id ∈ apps, s.runningCgroups.lookup c = some id then 1 else 0) ∧
      ∀ rule ∈ rules, ∃ c, (∃ id ∈ apps, s.runningCgroups.lookup c = some id) ∧ c.xtmatch = rule := by
    intro rules hr
    refine ⟨fun c hc => ?_, fun rule hm => ?_⟩
    · have hcount := hr.count fun k hk => h.apart.eq (mem_keys_of_mem_excluded hk) (AList.mem_keys.mp hc)
      simp only [mem_excluded] at hcount
      convert hcount
    · obtain ⟨c, hc, he⟩ := hr.mem_iff.mp hm
      exact ⟨c, mem_excluded.mp hc, he⟩
  simp only [RulesMatch, List.forall_mem_cons]
  exact ⟨hrules _ h.tracks.mark, hrules _ h.tracks.nat, by simp⟩

/-- In every run in which the rules can tell the control groups apart, they are those of the running control groups
of the excluded applications. -/
theorem rules_match (env : Env) (es : List Event) (hd : Meets (step env) Distinguished {} es) :
    let p := run (watch (step env) (observeApps env)) ({}, ∅) es
    RulesMatch p.2 p.1 := by
  have hm : Meets (watch (step env) (observeApps env)) (fun p e => Distinguished p.1 e) ({}, ∅) es :=
    (meets_watch _ _).mpr hd
  have h₀ : SplitTunnel ∅ {} := splitTunnel_clearAppStates (s := {}) fun c hc => absurd hc (by simp)
  exact (hm.invariant (splitTunnel_step env) h₀).rulesMatch

/-- A control group of 402 bytes, as deep nesting makes them. -/
def deepDirectory : Library.Nftables.Data :=
  separator :: List.replicate 200 0x61 ++ separator :: List.replicate 200 0x61

/-- The text ".scope". -/
def scopeSuffix : Library.Nftables.Data := [0x2e, 0x73, 0x63, 0x6f, 0x70, 0x65]

/-- A scope in the deep directory whose first 511 bytes end before `last`. -/
def longScope (last : UInt8) (h : last ≠ 0) : Cgroup where
  path := deepDirectory ++ separator :: (List.replicate 108 0x61 ++ last :: scopeSuffix)
  nonzero := by
    simp only [deepDirectory, scopeSuffix, separator, List.mem_append, List.mem_cons, List.mem_replicate,
      List.not_mem_nil, h.symm, or_false]
    decide

def scopeB : Cgroup := longScope 0x62 (by decide)

def scopeC : Cgroup := longScope 0x63 (by decide)

lemma scopeB_ne_scopeC : scopeB ≠ scopeC := by
  intro h
  have hp := (List.cons.inj (List.append_cancel_left (congrArg Cgroup.path h))).2
  exact absurd (List.cons.inj (List.append_cancel_left hp)).1 (by decide)

def excludeBrowser : Event :=
  .call user (.activate (some { hopType := .SingleHop, vpnDisabledApps := ["browser.desktop"] }))

def scopesFound : Event :=
  .cgroupsChanged deepDirectory ⟨[(scopeB, "browser.desktop"), (scopeC, "browser.desktop")], by simpa using scopeB_ne_scopeC⟩

def scopeGone : Event := .cgroupsChanged deepDirectory ⟨[(scopeB, "browser.desktop")], by simp⟩

theorem rules_match_browser :
    let p := run (watch (step (.succeeding true)) (observeApps (.succeeding true))) ({}, ∅) [scopeGone, excludeBrowser]
    p.1.chains.cgroupMark = [scopeB.xtmatch] ∧ RulesMatch p.2 p.1 := by
  refine ⟨by decide +kernel, rules_match (.succeeding true) [scopeGone, excludeBrowser] ⟨?_, trivial, trivial⟩⟩
  intro c hc c' hc' _
  simp only [AList.keys_empty, List.map_cons, List.map_nil, List.nil_append, List.mem_singleton] at hc hc'
  rw [hc, hc']

/-- When one of two control groups whose paths agree as far as the rules match ends, the other one loses its rules. -/
theorem rules_match_long_paths :
    let p := run (watch (step (.succeeding true)) (observeApps (.succeeding true))) ({}, ∅)
      [excludeBrowser, scopesFound, scopeGone]
    p.1.runningCgroups.lookup scopeB = some "browser.desktop" ∧ "browser.desktop" ∈ p.2 ∧
      p.1.chains.cgroupMark = [] ∧ ¬RulesMatch p.2 p.1 := by
  intro p
  have hl : p.1.runningCgroups.lookup scopeB = some "browser.desktop" := by decide +kernel
  have ha : "browser.desktop" ∈ p.2 := by decide +kernel
  have hc : p.1.chains.cgroupMark = [] := by decide +kernel
  refine ⟨hl, ha, hc, fun h => ?_⟩
  have hb := (h _ (List.mem_cons_self ..)).1 scopeB (AList.lookup_isSome.mp (by rw [hl]; rfl))
  rw [if_pos ⟨_, ha, hl⟩, hc] at hb
  exact absurd hb (by simp)

end DBusService

end VpnClient.Linux
