import VpnClient.Library.Calls
import VpnClient.Library.Runs
import VpnClient.Windows.WindowsFirewall

/-! The filters that are live in the engine, and the records of them from which the firewall is disabled. -/

namespace VpnClient.Windows.WindowsFirewall

open Backend Library.Attempts Library.Attempts.Attempt Library.Runs Library.Transactions

abbrev live (s : WindowsFirewall) : List (FilterId × Filter) := s.filters.committed

def recorded (s : WindowsFirewall) : List FilterId := s.peerRules.map (·.2) ++ s.activeRules

def Recorded (s : WindowsFirewall) : Prop := ∀ f ∈ s.live, f.1 ∈ s.recorded

def Idle (s : WindowsFirewall) : Prop := s.filters.pending = none

/-- Filters are recorded as soon as a transaction adds them, and each only once. -/
structure Kept (s : WindowsFirewall) : Prop where
  covered : s.filters.Always fun filters => ∀ f ∈ filters, f.1 ∈ s.recorded
  nodup : s.recorded.Nodup
  fresh : ∀ id ∈ s.recorded, id < s.nextId

variable {outcome : ℕ → Bool} {s : WindowsFirewall} {rule : Rule} {rules : List Rule} {peer pubkey : String} {f : ℕ}

lemma transactionAbort_of_idle (h : s.Idle) : s.transactionAbort = s := by
  rw [transactionAbort]
  rw [Store.abort_of_pending_eq_none h]

lemma foldl_filterDeleteById {filters : List (FilterId × Filter)} (h : s.filters.pending = some filters)
    (ids : List FilterId) : ids.foldl filterDeleteById s =
      { s with filters := { s.filters with pending := some (filters.filter fun f => f.1 ∉ ids) } } := by
  induction ids generalizing s filters with
  | nil => simp [← h]
  | cons id ids ih =>
    rw [List.foldl_cons, ih (Store.pending_modify h)]
    simp only [filterDeleteById, Store.committed_modify h, List.filter_filter, List.mem_cons, not_or,
      Bool.decide_and, Bool.and_comm]

lemma disableKillSwitch_eq (h : s.Idle) : disableKillSwitch outcome s =
    if outcome s.calls && outcome (s.calls + 1) then
      (true,
        { s with
          filters := { committed := s.live.filter fun f => f.1 ∉ s.recorded }
          calls := s.calls + 2
          peerRules := []
          activeRules := [] })
    else (false, { s with calls := if outcome s.calls then s.calls + 2 else s.calls + 1 }) := by
  have ha : s.filters.abort = s.filters := Store.abort_of_pending_eq_none h
  have hf : ((s.live.filter fun f => f.1 ∉ s.peerRules.map (·.2)).filter fun f => f.1 ∉ s.activeRules) =
      s.live.filter fun f => f.1 ∉ s.recorded := by
    rw [List.filter_filter]
    refine List.filter_congr fun f _ => ?_
    rw [Bool.eq_iff_iff, Bool.and_eq_true, decide_eq_true_iff, decide_eq_true_iff, decide_eq_true_iff, recorded,
      List.mem_append, not_or, and_comm]
  unfold disableKillSwitch transactionBegin transactionCommit
  cases h₁ : outcome s.calls with
  | false => simp [transactionAbort, ha]
  | true =>
    simp only [if_true, Bool.not_true, Bool.false_eq_true, if_false, Bool.true_and]
    rw [foldl_filterDeleteById (s := { s with calls := s.calls + 1, filters := s.filters.start }) rfl,
      foldl_filterDeleteById rfl]
    cases h₂ : outcome (s.calls + 1) with
    | false => simpa [transactionAbort, Store.abort] using ha
    | true => simpa [Store.commit] using hf

lemma live_disableKillSwitch (hi : s.Idle) (hr : s.Recorded) (h : (disableKillSwitch outcome s).1 = true) :
    (disableKillSwitch outcome s).2.live = [] := by
  rw [disableKillSwitch_eq hi] at h ⊢
  split_ifs at h ⊢
  exact List.filter_eq_nil_iff.mpr fun f hf => by simpa using hr f hf

/-- The filters of a peer. -/
def idsOf (pubkey : String) (s : WindowsFirewall) : List FilterId :=
  (s.peerRules.filter (·.1 = pubkey)).map (·.2)

lemma mem_idsOf {id : FilterId} : id ∈ s.idsOf pubkey ↔ (pubkey, id) ∈ s.peerRules := by
  rw [idsOf]
  constructor
  · rintro h
    obtain ⟨r, hr, rfl⟩ := List.mem_map.mp h
    obtain ⟨hr, hk⟩ := List.mem_filter.mp hr
    rwa [← (of_decide_eq_true hk : r.1 = pubkey)]
  · exact fun h => List.mem_map.mpr ⟨_, List.mem_filter.mpr ⟨h, by simp⟩, rfl⟩

lemma foldl_remove (ids : List FilterId) (s : WindowsFirewall) :
    ids.foldl (fun s filterID =>
        { s.filterDeleteById filterID with peerRules := s.peerRules.filter (· ≠ (pubkey, filterID)) }) s =
      { ids.foldl filterDeleteById s with
        peerRules := s.peerRules.filter fun r => ¬(r.1 = pubkey ∧ r.2 ∈ ids) } := by
  have hd : ∀ (ids : List FilterId) (s : WindowsFirewall) (rules : List (String × FilterId)),
      ids.foldl filterDeleteById { s with peerRules := rules } =
        { ids.foldl filterDeleteById s with peerRules := rules } := by
    intro ids
    induction ids with
    | nil => exact fun s rules => rfl
    | cons id ids ih => exact fun s rules => ih (s.filterDeleteById id) rules
  induction ids generalizing s with
  | nil => simp
  | cons id ids ih =>
    have hr : ((s.peerRules.filter (· ≠ (pubkey, id))).filter fun r => ¬(r.1 = pubkey ∧ r.2 ∈ ids)) =
        s.peerRules.filter fun r => ¬(r.1 = pubkey ∧ r.2 ∈ id :: ids) := by
      rw [List.filter_filter]
      refine List.filter_congr fun r _ => ?_
      rw [← Bool.decide_and, decide_eq_decide]
      simp only [List.mem_cons, ne_eq, Prod.ext_iff]
      tauto
    rw [List.foldl_cons, ih, List.foldl_cons, hd, hr]

lemma filter_idsOf :
    (s.peerRules.filter fun r => ¬(r.1 = pubkey ∧ r.2 ∈ s.idsOf pubkey)) = s.peerRules.filter (·.1 ≠ pubkey) := by
  refine List.filter_congr fun r hr => decide_eq_decide.mpr (not_congr ⟨And.left, fun h => ⟨h, ?_⟩⟩)
  exact mem_idsOf.mpr (by rwa [← h])

lemma disablePeerTraffic_eq (h : s.Idle) : disablePeerTraffic outcome pubkey s =
    if outcome s.calls && outcome (s.calls + 1) then
      (true,
        { s with
          filters := { committed := s.live.filter fun f => f.1 ∉ s.idsOf pubkey }
          calls := s.calls + 2
          peerRules := s.peerRules.filter (·.1 ≠ pubkey) })
    else if outcome s.calls then
      (false, { s with calls := s.calls + 2, peerRules := s.peerRules.filter (·.1 ≠ pubkey) })
    else (false, { s with calls := s.calls + 1 }) := by
  have ha : s.filters.abort = s.filters := Store.abort_of_pending_eq_none h
  unfold disablePeerTraffic transactionBegin transactionCommit
  cases h₁ : outcome s.calls with
  | false => simp [transactionAbort, ha]
  | true =>
    simp only [if_true, Bool.not_true, Bool.false_eq_true, if_false, Bool.true_and]
    rw [foldl_remove, foldl_filterDeleteById (s := { s with calls := s.calls + 1, filters := s.filters.start }) rfl]
    simp only [show ((s.peerRules.filter fun r => decide (r.1 = pubkey)).map (·.2)) = s.idsOf pubkey from rfl,
      filter_idsOf]
    cases h₂ : outcome (s.calls + 1) with
    | false => simpa [transactionAbort, Store.abort] using ha
    | true => simp [Store.commit]

lemma Kept.recorded (h : s.Kept) : s.Recorded := h.covered.1

lemma kept_begin : Keeps Kept (transactionBegin outcome) := by
  intro s h
  refine ⟨?_, h.nodup, h.fresh⟩
  rw [transactionBegin]
  split
  · exact h.covered.start
  · exact h.covered

lemma kept_commit : Keeps Kept (transactionCommit outcome) := by
  intro s h
  refine ⟨?_, h.nodup, h.fresh⟩
  unfold transactionCommit
  split
  · exact h.covered.commit
  · exact h.covered.abort

lemma Kept.transactionAbort (h : s.Kept) : s.transactionAbort.Kept := ⟨h.covered.abort, h.nodup, h.fresh⟩

lemma Kept.add {s' : WindowsFirewall} (h : s.Kept) (filter : Filter)
    (hf : s'.filters = s.filters.modify fun filters => filters ++ [(s.nextId, filter)])
    (hr : s'.recorded.Perm (s.nextId :: s.recorded)) (hn : s'.nextId = s.nextId + 1) : s'.Kept := by
  have hm : ∀ {id}, id ∈ s'.recorded ↔ id = s.nextId ∨ id ∈ s.recorded := by simp [hr.mem_iff]
  refine ⟨?_, ?_, fun id hid => ?_⟩
  · rw [hf]
    refine (h.covered.mono fun filters hc f hf => hm.mpr (.inr (hc f hf))).modify fun filters hc f hf => ?_
    rcases List.mem_append.mp hf with hf | hf
    · exact hc f hf
    · rw [List.mem_singleton.mp hf]
      exact hm.mpr (.inl rfl)
  · exact hr.nodup_iff.mpr (List.nodup_cons.mpr ⟨fun hm => (h.fresh _ hm).false, h.nodup⟩)
  · rw [hn]
    rcases hm.mp hid with rfl | hid
    · exact Nat.lt_succ_self _
    · exact (h.fresh id hid).trans (Nat.lt_succ_self _)

lemma kept_enableFilter (filter : Filter) : Keeps Kept (enableFilter outcome filter peer) := by
  intro s h
  rw [enableFilter]
  split
  · dsimp only
    split
    · refine h.add filter rfl ?_ rfl
      simp only [WindowsFirewall.recorded, ← List.append_assoc]
      exact List.perm_append_singleton _ _
    · refine h.add filter rfl ?_ rfl
      simp only [WindowsFirewall.recorded, List.map_append, List.map_cons, List.map_nil, List.append_assoc]
      exact List.perm_middle
  · exact ⟨h.covered, h.nodup, h.fresh⟩

lemma kept_perform (call : Call) : Keeps Kept (perform outcome peer call) := by
  cases call with
  | getAppIdFromFileName path => exact fun s h => ⟨h.covered, h.nodup, h.fresh⟩
  | filterAdd filter => exact kept_enableFilter filter

lemma kept_disableKillSwitch (hi : s.Idle) (h : s.Kept) : (disableKillSwitch outcome s).2.Kept := by
  have hl : (s.live.filter fun f => f.1 ∉ s.recorded) = [] :=
    List.filter_eq_nil_iff.mpr fun f hf => by simpa using h.recorded f hf
  rw [disableKillSwitch_eq hi, hl]
  split
  · exact ⟨⟨by simp, by simp⟩, by simp [WindowsFirewall.recorded], by simp [WindowsFirewall.recorded]⟩
  · exact ⟨h.covered, h.nodup, h.fresh⟩

lemma idle_disableKillSwitch (hi : s.Idle) : (disableKillSwitch outcome s).2.Idle := by
  rw [disableKillSwitch_eq hi]
  split
  · rfl
  · exact hi

/-- A rule in an open transaction. -/
def entered (outcome : ℕ → Bool) (rule : Rule) (peer : String) : Attempt WindowsFirewall :=
  (transactionBegin outcome).andThen (enableRule outcome rule peer)

lemma fwOk_eq (hi : s.Idle) : fwOk outcome rule s =
    if (entered outcome rule "" s).1 then transactionCommit outcome (entered outcome rule "" s).2
    else (false, (disableKillSwitch outcome (entered outcome rule "" s).2.transactionAbort).2) := by
  rw [fwOk, entered, Attempt.andThen]
  cases h : (transactionBegin outcome s).1 with
  | false =>
    have ha : (transactionBegin outcome s).2.Idle := by
      simp only [transactionBegin] at h
      simpa [Idle, transactionBegin, h] using hi
    simp [h, transactionAbort_of_idle ha]
  | true => cases h' : (enableRule outcome rule "" (transactionBegin outcome s).2).1 <;> simp [h, h']

lemma guarded_eq (hi : s.Idle) : guarded outcome rule peer s =
    if ((entered outcome rule peer).andThen (transactionCommit outcome) s).1 then
      (entered outcome rule peer).andThen (transactionCommit outcome) s
    else
      (false, (disableKillSwitch outcome
        ((entered outcome rule peer).andThen (transactionCommit outcome) s).2.transactionAbort).2) := by
  unfold guarded entered Attempt.andThen
  cases h : (transactionBegin outcome s).1 with
  | false =>
    have ha : (transactionBegin outcome s).2.Idle := by
      simp only [transactionBegin] at h
      simpa [Idle, transactionBegin, h] using hi
    simp [h, transactionAbort_of_idle ha]
  | true =>
    cases h' : (enableRule outcome rule peer (transactionBegin outcome s).2).1 with
    | false => simp [h, h']
    | true =>
      cases h'' : (transactionCommit outcome (enableRule outcome rule peer (transactionBegin outcome s).2).2).1 <;>
        simp [h, h', h'', Prod.ext_iff]

lemma kept_entered : Keeps Kept (entered outcome rule peer) :=
  kept_begin.andThen (keeps_forEach kept_perform rule)

lemma draws_perform (call : Call) : Draws outcome calls 1 (perform outcome peer call) := by
  refine draws_one fun s => ?_
  cases call with
  | getAppIdFromFileName path => exact ⟨rfl, rfl⟩
  | filterAdd filter => exact ⟨enableFilter_fst .., calls_enableFilter ..⟩

variable (outcome) (rule) (peer) in
lemma draws_entered : Draws outcome calls (1 + rule.length) (entered outcome rule peer) :=
  (draws_one fun _ => ⟨rfl, rfl⟩).andThen (draws_forEach draws_perform rule)

lemma draws_commit : Draws outcome calls 1 (transactionCommit outcome) := draws_one fun _ => ⟨rfl, rfl⟩

lemma live_entered : (entered outcome rule peer s).2.live = s.live := by
  have hp : ∀ call, Keeps (fun s' => s'.live = s.live ∧ s'.filters.pending.isSome) (perform outcome peer call) := by
    intro call s' h
    cases call with
    | getAppIdFromFileName path => exact h
    | filterAdd filter =>
      obtain ⟨filters, hf⟩ := Option.isSome_iff_exists.mp h.2
      simp only [perform, live, filters_enableFilter]
      split
      · rw [Store.committed_modify hf, Store.pending_modify hf]
        exact ⟨h.1, rfl⟩
      · exact h
  rw [entered, Attempt.andThen]
  cases h : outcome s.calls with
  | false => simp [transactionBegin, h]
  | true =>
    rw [if_pos (by simpa [transactionBegin] using h)]
    refine (keeps_forEach hp rule _ ⟨?_, ?_⟩).1 <;> simp only [transactionBegin, live, h, if_true]
    · exact Store.committed_start
    · rfl

/-- The filters that a transaction adds to one that has some. -/
def HasPending (s : WindowsFirewall) : Prop := ∃ filters, s.filters.pending = some filters ∧ filters ≠ []

lemma hasPending_enableFilter {filter : Filter} (hs : s.filters.pending.isSome)
    (h : outcome s.calls = true) : (enableFilter outcome filter peer s).2.HasPending := by
  obtain ⟨filters, hf⟩ := Option.isSome_iff_exists.mp hs
  refine ⟨filters ++ [(s.nextId, filter)], ?_, by simp⟩
  rw [filters_enableFilter, if_pos h, Store.pending_modify hf]

lemma hasPending_perform (call : Call) : Keeps HasPending (perform outcome peer call) := by
  intro s h
  obtain ⟨filters, hf, hn⟩ := h
  cases call with
  | getAppIdFromFileName path => exact ⟨filters, hf, hn⟩
  | filterAdd filter =>
    by_cases ho : outcome s.calls = true
    · exact hasPending_enableFilter (by simp [hf]) ho
    · exact ⟨filters, by simpa [perform, ho] using hf, hn⟩

/-- Between two calls no transaction is open. -/
def Settled (s : WindowsFirewall) : Prop := s.Kept ∧ s.Idle

lemma settled_disableKillSwitch (h : s.Settled) : (disableKillSwitch outcome s).2.Settled :=
  ⟨kept_disableKillSwitch h.2 h.1, idle_disableKillSwitch h.2⟩

lemma Kept.settled_transactionAbort (h : s.Kept) : s.transactionAbort.Settled := ⟨h.transactionAbort, rfl⟩

lemma settled_commit (h : s.Kept) : (transactionCommit outcome s).2.Settled := by
  refine ⟨kept_commit s h, ?_⟩
  rw [transactionCommit, Idle]
  split <;> rfl

lemma settled_fwOk (h : s.Settled) : (fwOk outcome rule s).2.Settled := by
  rw [fwOk_eq h.2]
  split
  · exact settled_commit (kept_entered s h.1)
  · exact settled_disableKillSwitch (kept_entered s h.1).settled_transactionAbort

lemma settled_guarded (h : s.Settled) : (guarded outcome rule peer s).2.Settled := by
  have hk : Keeps Kept ((entered outcome rule peer).andThen (transactionCommit outcome)) :=
    kept_entered.andThen kept_commit
  rw [guarded_eq h.2]
  split
  · next ht =>
    rw [Attempt.andThen] at ht ⊢
    split_ifs at ht ⊢
    exact settled_commit (kept_entered s h.1)
  · exact settled_disableKillSwitch (hk s h.1).settled_transactionAbort

lemma live_of_disabled (h : s.Settled) (hf : s.calls = f + 1) (h₁ : outcome (f + 1) = true)
    (h₂ : outcome (f + 2) = true) : (disableKillSwitch outcome s).2.live = [] := by
  apply live_disableKillSwitch h.2 h.1.recorded
  rw [disableKillSwitch_eq h.2, hf, h₁, h₂]
  rfl

lemma live_guarded (h : s.Settled) (hr : (guarded outcome rule peer s).1 = false)
    (hf : FailsFirst outcome s.calls f) (h₁ : outcome (f + 1) = true) (h₂ : outcome (f + 2) = true) :
    (guarded outcome rule peer s).2.live = [] := by
  have hk : Keeps Kept ((entered outcome rule peer).andThen (transactionCommit outcome)) :=
    kept_entered.andThen kept_commit
  rw [guarded_eq h.2] at hr ⊢
  split_ifs at hr ⊢ with ht
  · simp [ht] at hr
  · rcases ((draws_entered outcome rule peer).andThen draws_commit) s with hs | ⟨_, g, _, hg, hc⟩
    · exact absurd hs.1 ht
    · obtain rfl := hf.unique hg
      exact live_of_disabled (hk s h.1).settled_transactionAbort hc h₁ h₂

variable (rule) in
lemma fwOk_cases (h : s.Settled) (hf : FailsFirst outcome s.calls f) (h₁ : outcome (f + 1) = true)
    (h₂ : outcome (f + 2) = true) :
    ((fwOk outcome rule s).1 = true ∧ (fwOk outcome rule s).2.calls = s.calls + rule.length + 2 ∧
        FailsFirst outcome (s.calls + rule.length + 2) f) ∨
      ((fwOk outcome rule s).1 = false ∧ f < s.calls + rule.length + 1 ∧ (fwOk outcome rule s).2.live = []) ∨
      ((fwOk outcome rule s).1 = false ∧ f = s.calls + rule.length + 1 ∧
        (fwOk outcome rule s).2.live = s.live) := by
  rw [fwOk_eq h.2]
  rcases draws_entered outcome rule "" s with ⟨ht, hc, hs⟩ | ⟨ht, g, hg, hgf, hc⟩
  · have hf' := hf.after hs (by omega)
    rw [if_pos ht]
    cases ho : outcome (s.calls + (1 + rule.length)) with
    | true =>
      refine .inl ⟨by simpa [transactionCommit, hc] using ho, by simp only [transactionCommit]; omega, ?_⟩
      refine hf'.after (fun i hi hlt => ?_) (by omega)
      obtain rfl : i = s.calls + (1 + rule.length) := by omega
      exact ho
    | false =>
      have hfe : f = s.calls + (1 + rule.length) :=
        hf'.unique ⟨le_rfl, ho, fun i hi hlt => by omega⟩
      refine .inr (.inr ⟨by simpa [transactionCommit, hc] using ho, by omega, ?_⟩)
      simp only [transactionCommit, hc, ho, Bool.false_eq_true, if_false]
      exact live_entered
  · obtain rfl := hf.unique hgf
    rw [if_neg (by simp [ht])]
    exact .inr (.inl ⟨rfl, by omega,
      live_of_disabled (kept_entered s h.1).settled_transactionAbort hc h₁ h₂⟩)

lemma live_fwOk_ne_nil (hi : s.Idle) (hr : (fwOk outcome rule s).1 = true)
    (hl : s.live ≠ [] ∨ ∃ filter calls, rule = .filterAdd filter :: calls) : (fwOk outcome rule s).2.live ≠ [] := by
  rw [fwOk_eq hi] at hr ⊢
  split_ifs at hr ⊢ with ht
  have hp : (entered outcome rule "" s).2.HasPending := by
    rw [entered, Attempt.andThen] at ht ⊢
    split_ifs at ht ⊢ with hb
    have hb' : (transactionBegin outcome s).2.filters.pending = some s.live := by
      simp only [transactionBegin] at hb ⊢
      rw [if_pos hb]
      rfl
    rcases hl with hl | ⟨filter, calls, rfl⟩
    · exact keeps_forEach hasPending_perform rule _ ⟨s.live, hb', hl⟩
    · simp only [enableRule, forEach, Attempt.andThen] at ht ⊢
      split_ifs at ht ⊢ with ha
      exact keeps_forEach hasPending_perform calls _
        (hasPending_enableFilter (by rw [hb']; rfl) ((enableFilter_fst ..).symm.trans ha))
  obtain ⟨filters, hf, hn⟩ := hp
  simp only [transactionCommit] at hr ⊢
  rwa [if_pos hr, live, Store.committed_commit hf]

/-- The numbers of the calls that commit the transactions of the rules, if the first begins with the call `c`. -/
def commits : ℕ → List Rule → List ℕ
  | _, [] => []
  | c, rule :: rules => (c + rule.length + 1) :: commits (c + rule.length + 2) rules

lemma lt_of_mem_commits {c i : ℕ} (h : i ∈ commits c rules) : c < i := by
  induction rules generalizing c with
  | nil => simp [commits] at h
  | cons rule rules ih =>
    rcases List.mem_cons.mp h with rfl | h
    · omega
    · exact lt_trans (by omega) (ih h)

lemma live_forEach_fwOk (h : s.Settled) (hl : s.live ≠ []) (hf : FailsFirst outcome s.calls f)
    (h₁ : outcome (f + 1) = true) (h₂ : outcome (f + 2) = true) :
    ((forEach (fwOk outcome) rules s).1 = false → (forEach (fwOk outcome) rules s).2.live = []) ↔
      f ∉ commits s.calls rules := by
  induction rules generalizing s with
  | nil => simp [forEach, succeed, commits]
  | cons rule rules ih =>
    simp only [forEach, Attempt.andThen, commits, List.mem_cons, not_or]
    rcases fwOk_cases rule h hf h₁ h₂ with ⟨hr, hc, hf'⟩ | ⟨hr, hlt, he⟩ | ⟨hr, rfl, he⟩
    · rw [if_pos hr, ih (settled_fwOk h) (live_fwOk_ne_nil h.2 hr (.inl hl)) (hc ▸ hf'), hc]
      have hne : f ≠ s.calls + rule.length + 1 := fun he => by
        have := hf'.1
        omega
      simp [hne]
    · have hn : f ∉ commits (s.calls + rule.length + 2) rules := fun hm => by
        have := lt_of_mem_commits hm
        omega
      have hne : f ≠ s.calls + rule.length + 1 := hlt.ne
      simp [hr, he, hn, hne]
    · simp [hr, he, hl]

lemma live_enableInterface {system : System} {index : UInt32} (h : s.Settled) (hf : FailsFirst outcome s.calls f)
    (h₁ : outcome (f + 1) = true) (h₂ : outcome (f + 2) = true) :
    ((enableInterface outcome system index s).1 = false → (enableInterface outcome system index s).2.live = []) ↔
      f ∉ if s.live = [] then (commits s.calls (interfaceRules system index)).tail
        else commits s.calls (interfaceRules system index) := by
  rw [enableInterface]
  split
  · next hl =>
    generalize hrs : interfaceRules system index = rules
    obtain ⟨rule, rules, rfl⟩ : ∃ rule rest, rules = rule :: rest := ⟨_, _, hrs.symm⟩
    obtain ⟨rfl, -⟩ := List.cons_eq_cons.mp hrs
    simp only [forEach, Attempt.andThen, commits, List.tail_cons]
    rcases fwOk_cases (allowTrafficOfAdapter index MED_WEIGHT) h hf h₁ h₂ with
      ⟨hr, hc, hf'⟩ | ⟨hr, hlt, he⟩ | ⟨hr, rfl, he⟩
    · have hl' := live_fwOk_ne_nil h.2 hr (.inr ⟨_, _, rfl⟩)
      rw [if_pos hr, live_forEach_fwOk (settled_fwOk h) hl' (hc ▸ hf') h₁ h₂, hc]
    · have hn : f ∉ commits (s.calls + (allowTrafficOfAdapter index MED_WEIGHT).length + 2) rules := fun hm => by
        have := lt_of_mem_commits hm
        omega
      simp [hr, he, hn]
    · have hn : s.calls + (allowTrafficOfAdapter index MED_WEIGHT).length + 1 ∉
          commits (s.calls + (allowTrafficOfAdapter index MED_WEIGHT).length + 2) rules := fun hm => by
        have := lt_of_mem_commits hm
        omega
      simp [hr, he, hl, hn]
  · next hl => exact live_forEach_fwOk h hl hf h₁ h₂

inductive Event where
  | enableInterface (system : System) (vpnAdapterIndex : UInt32)
  | enableLanBypass (ranges : List Address.IPAddress)
  | enablePeerTraffic (system : System) (config : InterfaceConfig)
  | disablePeerTraffic (pubkey : String)
  | disableKillSwitch

def Event.enables : Event → Bool
  | .enableInterface .. | .enableLanBypass .. | .enablePeerTraffic .. => true
  | .disablePeerTraffic _ | .disableKillSwitch => false

variable (outcome)

def handle : Event → Attempt WindowsFirewall
  | .enableInterface system vpnAdapterIndex => WindowsFirewall.enableInterface outcome system vpnAdapterIndex
  | .enableLanBypass ranges => WindowsFirewall.enableLanBypass outcome ranges
  | .enablePeerTraffic system config => WindowsFirewall.enablePeerTraffic outcome system config
  | .disablePeerTraffic pubkey => WindowsFirewall.disablePeerTraffic outcome pubkey
  | .disableKillSwitch => WindowsFirewall.disableKillSwitch outcome

def step (s : WindowsFirewall) (e : Event) : WindowsFirewall := (handle outcome e s).2

/-- After the call every live filter is recorded. None is live if it disabled the firewall, or if it failed to enable
something and the two calls after the first that failed, with which it can disable the firewall, succeed. -/
structure Sound (s : WindowsFirewall) (e : Event) : Prop where
  recorded : (step outcome s e).Recorded
  disabled : e = .disableKillSwitch → (handle outcome e s).1 = true → (step outcome s e).live = []
  failed : e.enables = true → (handle outcome e s).1 = false → ∀ f, FailsFirst outcome s.calls f →
    outcome (f + 1) = true → outcome (f + 2) = true → (step outcome s e).live = []

/-- The condition on a call: a commit of `enableInterface` does not fail first while filters are live, unless they
could not be disabled either, and that of `disablePeerTraffic` only if no filter of the peer is live. -/
def Harmless (s : WindowsFirewall) : Event → Prop
  | .enableInterface system vpnAdapterIndex =>
    ∀ f, FailsFirst outcome s.calls f → outcome (f + 1) = true → outcome (f + 2) = true →
      f ∉ if s.live = [] then (commits s.calls (interfaceRules system vpnAdapterIndex)).tail
        else commits s.calls (interfaceRules system vpnAdapterIndex)
  | .disablePeerTraffic pubkey =>
    outcome s.calls = true → outcome (s.calls + 1) = false → ∀ f ∈ s.live, (pubkey, f.1) ∉ s.peerRules
  | _ => True

variable {outcome} {e : Event}

lemma settled_forEach_fwOk (h : s.Settled) : (forEach (fwOk outcome) rules s).2.Settled :=
  keeps_forEach (P := Settled) (fun _ _ h => settled_fwOk h) rules s h

variable (pubkey) in
lemma mem_remaining (id : FilterId) (h : s.recorded.Nodup) :
    id ∈ (s.peerRules.filter (·.1 ≠ pubkey)).map (·.2) ++ s.activeRules ↔
      id ∈ s.recorded ∧ (pubkey, id) ∉ s.peerRules := by
  obtain ⟨hp, -, hd⟩ := List.nodup_append.mp h
  constructor
  · intro hm
    rcases List.mem_append.mp hm with hm | hm
    · obtain ⟨r, hr, rfl⟩ := List.mem_map.mp hm
      obtain ⟨hr, hk⟩ := List.mem_filter.mp hr
      refine ⟨List.mem_append_left _ (List.mem_map_of_mem hr), fun hq => ?_⟩
      have he : r = (pubkey, r.2) := List.inj_on_of_nodup_map hp hr hq rfl
      exact of_decide_eq_true hk (congrArg Prod.fst he)
    · exact ⟨List.mem_append_right _ hm, fun hq => hd _ (List.mem_map_of_mem hq) _ hm rfl⟩
  · rintro ⟨hm, hn⟩
    rcases List.mem_append.mp hm with hm | hm
    · obtain ⟨⟨peer, id⟩, hr, rfl⟩ := List.mem_map.mp hm
      have hk : peer ≠ pubkey := by
        rintro rfl
        exact hn hr
      exact List.mem_append_left _ (List.mem_map.mpr ⟨_, List.mem_filter.mpr ⟨hr, by simpa using hk⟩, rfl⟩)
    · exact List.mem_append_right _ hm

lemma recorded_disablePeerTraffic (h : s.Settled) :
    (WindowsFirewall.disablePeerTraffic outcome pubkey s).2.Recorded ↔
      Harmless outcome s (.disablePeerTraffic pubkey) := by
  have hm {id : FilterId} := mem_remaining pubkey id h.1.nodup
  rw [disablePeerTraffic_eq h.2]
  rw [Harmless]
  cases h₁ : outcome s.calls with
  | false => exact iff_of_true h.1.recorded (by simp)
  | true =>
    cases h₂ : outcome (s.calls + 1) with
    | true =>
      simp only [Bool.and_true, if_true, reduceCtorEq, false_implies, implies_true, iff_true]
      intro f hf
      obtain ⟨hf, hn⟩ := List.mem_filter.mp hf
      rw [decide_eq_true_iff, mem_idsOf] at hn
      exact hm.mpr ⟨h.1.recorded f hf, hn⟩
    | false =>
      simp only [Bool.and_false, Bool.false_eq_true, if_true, if_false, forall_const]
      exact ⟨fun hr f hf => (hm.mp (hr f hf)).2, fun hr f hf => hm.mpr ⟨h.1.recorded f hf, hr f hf⟩⟩

lemma settled_disablePeerTraffic (h : s.Settled)
    (hr : (WindowsFirewall.disablePeerTraffic outcome pubkey s).2.Recorded) :
    (WindowsFirewall.disablePeerTraffic outcome pubkey s).2.Settled := by
  have hs : ((s.peerRules.filter (·.1 ≠ pubkey)).map (·.2) ++ s.activeRules).Sublist s.recorded :=
    (List.filter_sublist.map _).append_right _
  rw [disablePeerTraffic_eq h.2] at hr ⊢
  split_ifs at hr ⊢
  · exact ⟨⟨⟨hr, by simp⟩, h.1.nodup.sublist hs, fun id hid => h.1.fresh id (hs.subset hid)⟩, rfl⟩
  · exact ⟨⟨⟨hr, fun filters hf => by cases h.2.symm.trans hf⟩, h.1.nodup.sublist hs, fun id hid => h.1.fresh id (hs.subset hid)⟩, h.2⟩
  · exact ⟨⟨h.1.covered, h.1.nodup, h.1.fresh⟩, h.2⟩

lemma settled_step (h : s.Settled) (hr : (step outcome s e).Recorded) : (step outcome s e).Settled := by
  cases e with
  | enableInterface system index => exact settled_forEach_fwOk h
  | enableLanBypass ranges => exact settled_guarded h
  | enablePeerTraffic system config => exact settled_guarded h
  | disablePeerTraffic pubkey => exact settled_disablePeerTraffic h hr
  | disableKillSwitch => exact settled_disableKillSwitch h

lemma sound_iff_harmless (h : s.Settled) : Sound outcome s e ↔ Harmless outcome s e := by
  cases e with
  | enableInterface system index =>
    constructor
    · exact fun hs f hf h₁ h₂ => (live_enableInterface h hf h₁ h₂).mp fun hr => hs.failed rfl hr f hf h₁ h₂
    · intro hh
      refine ⟨(settled_forEach_fwOk h).1.recorded, by simp, fun _ hr f hf h₁ h₂ => ?_⟩
      exact (live_enableInterface h hf h₁ h₂).mpr (hh f hf h₁ h₂) hr
  | enableLanBypass ranges =>
    refine iff_of_true ⟨(settled_guarded h).1.recorded, by simp, fun _ hr f hf h₁ h₂ => ?_⟩ trivial
    exact live_guarded h hr hf h₁ h₂
  | enablePeerTraffic system config =>
    refine iff_of_true ⟨(settled_guarded h).1.recorded, by simp, fun _ hr f hf h₁ h₂ => ?_⟩ trivial
    exact live_guarded h hr hf h₁ h₂
  | disablePeerTraffic pubkey =>
    rw [← recorded_disablePeerTraffic h]
    exact ⟨Sound.recorded, fun hr => ⟨hr, by simp, by simp [Event.enables]⟩⟩
  | disableKillSwitch =>
    refine iff_of_true ⟨(settled_disableKillSwitch h).1.recorded, fun _ hr => ?_, by simp [Event.enables]⟩ trivial
    exact live_disableKillSwitch h.2 h.1.recorded hr

lemma settled_initial : ({} : WindowsFirewall).Settled :=
  ⟨⟨⟨by simp, by simp⟩, List.nodup_nil, by simp [recorded]⟩, rfl⟩

theorem records_sound (outcome : ℕ → Bool) (events : List Event) :
    Meets (step outcome) (Sound outcome) {} events ↔ Meets (step outcome) (Harmless outcome) {} events :=
  meets_congr (P := Settled) (fun _ _ h hs => settled_step h hs.recorded) (fun _ _ h => sound_iff_harmless h)
    settled_initial

def exampleSystem : System where
  currentPath := ""
  absoluteFilePath := fun _ name => name
  appId := fun _ => []
  allInterfaces := []
  hostAddress := fun _ => .ipv4 0

def examplePeer : InterfaceConfig where
  hopType := .SingleHop
  serverPublicKey := "key"
  allowedIPAddressRanges := [⟨.ipv4 0, 0⟩]

/-- A filter stays live without a record once the commit of `disablePeerTraffic` fails, and the filters of the first
rule stay live if the transaction of the second one cannot be committed. -/
theorem records_unsound :
    ¬Meets (step (· ≠ 5)) (Sound (· ≠ 5)) {} [.enablePeerTraffic exampleSystem examplePeer, .disablePeerTraffic "key"] ∧
      ¬Meets (step (· ≠ 11)) (Sound (· ≠ 11)) {} [.enableInterface exampleSystem 1] := by
  constructor
  · rintro ⟨-, hs, -⟩
    exact absurd hs.recorded (by unfold Recorded; decide +kernel)
  · rintro ⟨hs, -⟩
    have hl := hs.failed rfl (by decide +kernel) 11 ⟨by decide, by decide, by decide +kernel⟩ (by decide) (by decide)
    exact absurd hl (by decide +kernel)

end VpnClient.Windows.WindowsFirewall
