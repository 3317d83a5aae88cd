import VpnClient.Client.ServerLatency
import VpnClient.Library.Descent

/-! Every server of a measurement is waited for, waiting or done with, and the measurement comes to an end. -/

namespace VpnClient.Client.ServerLatency

open Library Runs Descent

variable {Distance : Type}

def occurrences (pubkey : String) (records : List (ServerPingRecord Distance)) : ℕ :=
  (records.map (·.publicKey)).count pubkey

/-- The retries that are left for the pings to a server. -/
def retriesLeft (pubkey : String) (records : List (ServerPingRecord Distance)) : ℕ :=
  (records.map fun record =>
    if record.publicKey = pubkey then SERVER_LATENCY_MAX_RETRIES - record.retries else 0).sum

structure Inv (initial : List (ServerPingRecord Distance)) (now : ℕ) (s : ServerLatency Distance) : Prop where
  placed : ∀ pubkey, occurrences pubkey s.pingSendQueue + occurrences pubkey s.pingReplyList +
    occurrences pubkey s.finished = occurrences pubkey initial
  parallel : s.pingReplyList.length ≤ SERVER_LATENCY_MAX_PARALLEL
  waiting : s.pingReplyList.Sublist s.sent
  numbered : s.sent.map (·.sequence) = (List.range s.sent.length).map UInt16.ofNat
  next : s.sequence = UInt16.ofNat s.sent.length
  ordered : (s.sent.map (·.timestamp)).Pairwise (· ≤ ·)
  past : ∀ record ∈ s.sent, record.timestamp ≤ now
  budget : ∀ pubkey, occurrences pubkey s.sent + retriesLeft pubkey s.pingReplyList +
    (1 + SERVER_LATENCY_MAX_RETRIES) * occurrences pubkey s.pingSendQueue ≤
      (1 + SERVER_LATENCY_MAX_RETRIES) * occurrences pubkey initial

variable {initial queue rest : List (ServerPingRecord Distance)} {record : ServerPingRecord Distance}
  {s : ServerLatency Distance} {now clock retries : ℕ} {pubkey : String}

@[simp] lemma occurrences_nil : occurrences pubkey ([] : List (ServerPingRecord Distance)) = 0 := rfl

@[simp] lemma occurrences_append (a b : List (ServerPingRecord Distance)) :
    occurrences pubkey (a ++ b) = occurrences pubkey a + occurrences pubkey b := by
  simp [occurrences]

lemma occurrences_cons : occurrences pubkey (record :: rest) =
    occurrences pubkey rest + if record.publicKey = pubkey then 1 else 0 := by
  simp [occurrences, List.count_cons]

@[simp] lemma retriesLeft_nil : retriesLeft pubkey ([] : List (ServerPingRecord Distance)) = 0 := rfl

@[simp] lemma retriesLeft_append (a b : List (ServerPingRecord Distance)) :
    retriesLeft pubkey (a ++ b) = retriesLeft pubkey a + retriesLeft pubkey b := by
  simp [retriesLeft]

lemma retriesLeft_cons : retriesLeft pubkey (record :: rest) =
    (if record.publicKey = pubkey then SERVER_LATENCY_MAX_RETRIES - record.retries else 0) +
      retriesLeft pubkey rest := by
  simp [retriesLeft]

lemma retriesLeft_le (pubkey : String) {a b : List (ServerPingRecord Distance)} (h : a.Sublist b) :
    retriesLeft pubkey a ≤ retriesLeft pubkey b :=
  (h.map _).sum_le_sum (by simp)

lemma Inv.mono (h : Inv initial clock s) (hc : clock ≤ now) : Inv initial now s :=
  { h with past := fun record hm => (h.past record hm).trans hc }

lemma Inv.send (rest queue : List (ServerPingRecord Distance)) (h : Inv initial now s)
    (hw : rest.Sublist s.sent) (hl : rest.length < SERVER_LATENCY_MAX_PARALLEL)
    (hp : ∀ pubkey, occurrences pubkey queue + occurrences pubkey (rest ++ [record]) +
      occurrences pubkey s.finished = occurrences pubkey initial)
    (hb : ∀ pubkey, occurrences pubkey (s.sent ++ [record]) + retriesLeft pubkey (rest ++ [{ record with retries }]) +
      (1 + SERVER_LATENCY_MAX_RETRIES) * occurrences pubkey queue ≤
        (1 + SERVER_LATENCY_MAX_RETRIES) * occurrences pubkey initial) :
    Inv initial now (send now retries record { s with pingSendQueue := queue, pingReplyList := rest }) where
  placed := by
    intro pubkey
    simpa [ServerLatency.send, occurrences_cons] using hp pubkey
  parallel := by simpa [ServerLatency.send] using hl
  waiting := hw.append (.refl _)
  numbered := by
    simp only [ServerLatency.send, List.map_append, h.numbered, List.map_singleton, h.next, List.length_append,
      List.length_singleton, List.range_succ]
  next := by
    simp only [ServerLatency.send, h.next, List.length_append, List.length_singleton]
    rw [← UInt16.ofNat_one, ← UInt16.ofNat_add]
  ordered := by
    simp only [ServerLatency.send, List.map_append, List.map_singleton]
    refine List.pairwise_append.mpr ⟨h.ordered, List.pairwise_singleton _ _, ?_⟩
    simp only [List.mem_map, List.mem_singleton, forall_eq, forall_exists_index, and_imp, forall_apply_eq_imp_iff₂]
    exact h.past
  past := by
    simp only [ServerLatency.send, List.mem_append, List.mem_singleton]
    rintro ping (hm | rfl)
    · exact h.past ping hm
    · exact le_rfl
  budget := by
    intro pubkey
    simpa [ServerLatency.send, occurrences_cons, retriesLeft_cons] using hb pubkey

lemma Inv.retry (h : Inv initial now s) (hl : s.pingReplyList = record :: rest)
    (hr : record.retries < SERVER_LATENCY_MAX_RETRIES) :
    Inv initial now (ServerLatency.send now (record.retries + 1) record { s with pingReplyList := rest }) := by
  have hp := h.parallel
  have hw := h.waiting
  rw [hl] at hp hw
  refine Inv.send rest s.pingSendQueue h ((List.sublist_cons_self _ _).trans hw) (by simpa using hp) ?_ ?_
  · intro pubkey
    have := h.placed pubkey
    simp only [hl, occurrences_append, occurrences_cons, occurrences_nil] at this ⊢
    omega
  · intro pubkey
    have := h.budget pubkey
    simp only [hl, occurrences_append, occurrences_cons, occurrences_nil, retriesLeft_append, retriesLeft_cons,
      retriesLeft_nil] at this ⊢
    split_ifs at this ⊢ <;> omega

lemma Inv.finish (h : Inv initial now s) (hs : rest.Sublist s.pingReplyList)
    (ho : ∀ pubkey, occurrences pubkey s.pingReplyList = occurrences pubkey (record :: rest)) :
    Inv initial now { s with pingReplyList := rest, finished := s.finished ++ [record] } :=
  { h with
    placed := by
      intro pubkey
      have := h.placed pubkey
      simp only [ho, occurrences_append, occurrences_cons, occurrences_nil] at this ⊢
      omega
    parallel := hs.length_le.trans h.parallel
    waiting := hs.trans h.waiting
    budget := by
      intro pubkey
      have := h.budget pubkey
      have := retriesLeft_le pubkey hs
      dsimp only
      omega }

lemma Inv.first (h : Inv initial now s) (hq : s.pingSendQueue = record :: queue)
    (hl : s.pingReplyList.length < SERVER_LATENCY_MAX_PARALLEL) :
    Inv initial now (ServerLatency.send now 0 record { s with pingSendQueue := queue }) := by
  refine Inv.send s.pingReplyList queue h h.waiting hl ?_ ?_
  · intro pubkey
    have := h.placed pubkey
    simp only [hq, occurrences_append, occurrences_cons, occurrences_nil] at this ⊢
    omega
  · intro pubkey
    have := h.budget pubkey
    simp only [hq, occurrences_append, occurrences_cons, occurrences_nil, retriesLeft_append, retriesLeft_cons,
      retriesLeft_nil, SERVER_LATENCY_MAX_RETRIES] at this ⊢
    split_ifs at this ⊢ <;> omega

lemma expire_invariant {P : ServerLatency Distance → Prop}
    (hr : ∀ s record rest, P s → s.pingReplyList = record :: rest → record.retries < SERVER_LATENCY_MAX_RETRIES →
      P (send now (record.retries + 1) record { s with pingReplyList := rest }))
    (hd : ∀ s record rest, P s → s.pingReplyList = record :: rest →
      P { s with pingReplyList := rest, finished := s.finished ++ [record] })
    (h : P s) : P (s.expire now) := by
  fun_induction expire now s with
  | case1 s _ => exact h
  | case2 s record rest _ hn => exact h
  | case3 s record rest hl _ hn ih => exact ih (hr s record rest h hl hn)
  | case4 s record rest hl _ hn ih => exact ih (hd s record rest h hl)

lemma refill_invariant {P : ServerLatency Distance → Prop}
    (hf : ∀ s record queue, P s → s.pingSendQueue = record :: queue →
      s.pingReplyList.length < SERVER_LATENCY_MAX_PARALLEL → P (send now 0 record { s with pingSendQueue := queue }))
    (h : P s) : P (s.refill now) := by
  fun_induction refill now s with
  | case1 s _ => exact h
  | case2 s record queue hq hl ih => exact ih (hf s record queue h hq hl)
  | case3 s record queue _ hl => exact h

lemma Inv.expire (h : Inv initial now s) : Inv initial now (s.expire now) := by
  apply expire_invariant (P := Inv initial now) _ _ h
  · intro s record rest h hl hr
    exact h.retry hl hr
  · intro s record rest h hl
    exact h.finish (hl ▸ List.sublist_cons_self _ _) (fun pubkey => by rw [hl])

lemma Inv.refill (h : Inv initial now s) : Inv initial now (s.refill now) :=
  refill_invariant (P := Inv initial now) (fun _ _ _ h hq hl => h.first hq hl) h

/-- What holds between handlers beside the invariant: the timer is set for the ping that was sent first. -/
structure Settled (initial : List (ServerPingRecord Distance)) (s : ServerLatency Distance) : Prop where
  timed : s.pingSender = true → ∃ record rest, s.pingReplyList = record :: rest ∧
    s.deadline = some ((record.timestamp : ℤ) + SERVER_LATENCY_TIMEOUT)
  total : s.pingSender = true → s.pingSendTotal = initial.length
  stopped : s.pingSender = false → ∃ former, s = stop former

lemma Inv.stop (h : Inv initial now s) : Inv initial now s.stop :=
  { h with
    placed := by
      intro pubkey
      have := h.placed pubkey
      simp only [ServerLatency.stop, occurrences_append, occurrences_nil]
      omega
    parallel := Nat.zero_le _
    waiting := List.nil_sublist _
    budget := by
      intro pubkey
      have := h.budget pubkey
      simp only [ServerLatency.stop, retriesLeft_nil, occurrences_nil]
      omega }

lemma settled_stop : Settled initial s.stop where
  timed h := by cases h
  total h := by cases h
  stopped _ := ⟨s, rfl⟩

lemma loops_frame (now : ℕ) (s : ServerLatency Distance) : ((s.expire now).refill now).pingSender = s.pingSender ∧
    ((s.expire now).refill now).pingSendTotal = s.pingSendTotal := by
  apply refill_invariant (P := fun s' => s'.pingSender = s.pingSender ∧ s'.pingSendTotal = s.pingSendTotal)
  · intro s' record queue h _ _
    exact h
  · apply expire_invariant (P := fun s' => s'.pingSender = s.pingSender ∧ s'.pingSendTotal = s.pingSendTotal)
    · intro s' record rest h _ _
      exact h
    · intro s' record rest h _
      exact h
    · exact ⟨rfl, rfl⟩

lemma inv_maybeSendPings (h : Inv initial now s) : Inv initial now (s.maybeSendPings now) := by
  rw [maybeSendPings]
  split
  · exact h
  · have hl : Inv initial now { (s.expire now).refill now with lastUpdateTime := now, progressDelayTimer := true } :=
      { h.expire.refill with }
    dsimp only
    split
    · exact hl.stop
    · exact { hl with }

lemma maybeSendPings_settled (hs : s.pingSender = true) (ht : s.pingSendTotal = initial.length) :
    Settled initial (s.maybeSendPings now) := by
  obtain ⟨hps, hpt⟩ := loops_frame now s
  rw [maybeSendPings, hs, Bool.not_true, if_neg Bool.false_ne_true]
  dsimp only
  split
  · exact settled_stop
  · next record rest hl =>
    refine ⟨fun _ => ⟨record, rest, hl, ?_⟩, fun _ => hpt.trans ht, ?_⟩
    · simp only [deadline, Option.map_some, Option.some.injEq]
      ring
    · intro hn
      cases (hps.trans hs).symm.trans hn

lemma Settled.maybeSendPings (now : ℕ) (h : Settled initial s) : Settled initial (s.maybeSendPings now) := by
  by_cases hs : s.pingSender = true
  · exact maybeSendPings_settled hs (h.total hs)
  · rw [ServerLatency.maybeSendPings, Bool.eq_false_iff.mpr hs]
    exact h

lemma exists_of_find {sequence : UInt16} {l : List (ServerPingRecord Distance)}
    (h : l.find? (·.sequence = sequence) = some record) :
    ∃ a b, l = a ++ record :: b ∧ l.eraseP (·.sequence = sequence) = a ++ b := by
  obtain ⟨hr, a, b, rfl, ha⟩ := List.find?_eq_some_iff_append.mp h
  refine ⟨a, b, rfl, ?_⟩
  rw [List.eraseP_append_right _ (by simpa using ha), List.eraseP_cons, hr, cond_true]

lemma exists_recordLatency (record : ServerPingRecord Distance) (received : ℕ) (s : ServerLatency Distance) :
    ∃ latency sumLatencyMsec, s.recordLatency record received = { s with latency, sumLatencyMsec } := by
  rw [recordLatency]
  split
  · exact ⟨_, _, rfl⟩
  · exact ⟨_, _, rfl⟩

lemma Inv.recvPing {sequence : UInt16} {received : ℕ} (h : Inv initial clock s) (hr : clock ≤ received)
    (hn : received ≤ now) : Inv initial now (s.recvPing sequence received now) := by
  have h := h.mono (hr.trans hn)
  rw [ServerLatency.recvPing]
  split
  · exact h
  · next record hf =>
    obtain ⟨a, b, hl, he⟩ := exists_of_find hf
    obtain ⟨latency, sum, hs⟩ := exists_recordLatency record received s
    apply inv_maybeSendPings
    have hd : Inv initial now { s with pingReplyList := a ++ b, finished := s.finished ++ [record] } := by
      apply h.finish
      · rw [hl]
        exact List.Sublist.append_left (List.sublist_cons_self _ _) a
      · intro pubkey
        simp only [hl, occurrences_append, occurrences_cons]
        omega
    simp only [hs, he]
    exact { hd with }

lemma Settled.recvPing {sequence : UInt16} {received : ℕ} (h : Settled initial s) :
    Settled initial (s.recvPing sequence received now) := by
  rw [ServerLatency.recvPing]
  split
  · exact h
  · next record hf =>
    have hs : s.pingSender = true := by
      by_contra hs
      obtain ⟨former, rfl⟩ := h.stopped (Bool.eq_false_iff.mpr hs)
      cases hf
    obtain ⟨latency, sum, hl⟩ := exists_recordLatency record received s
    simp only [hl]
    exact maybeSendPings_settled hs (h.total hs)

lemma inv_step {e : Event} (h : Inv initial clock s) (hb : clock ≤ e.begins) (he : e.begins ≤ e.ends) :
    Inv initial e.ends (step s e) := by
  cases e with
  | recvPing sequence received now => exact h.recvPing hb he
  | timeout now => exact inv_maybeSendPings (h.mono hb)
  | stop now => exact (h.mono hb).stop

lemma settled_step {e : Event} (h : Settled initial s) : Settled initial (step s e) := by
  cases e with
  | recvPing sequence received now => exact h.recvPing
  | timeout now => exact h.maybeSendPings now
  | stop now => exact settled_stop

lemma inv_run {events : List Event} (h : Inv initial clock s) (ht : Timely clock events) :
    ∃ now, Inv initial now (run step s events) := by
  induction events generalizing s clock with
  | nil => exact ⟨clock, h⟩
  | cons e events ih =>
    obtain ⟨hb, he, ht⟩ := ht
    exact ih (inv_step h hb he) ht

lemma settled_run {events : List Event} (h : Settled initial s) : Settled initial (run step s events) :=
  run_invariant (fun _ _ h => settled_step h) h

/-- The pings that may still be sent. -/
def rank (s : ServerLatency Distance) : ℕ :=
  attempts s.pingReplyList + (1 + SERVER_LATENCY_MAX_RETRIES) * s.pingSendQueue.length

@[simp] lemma attempts_append (a b : List (ServerPingRecord Distance)) :
    attempts (a ++ b) = attempts a + attempts b := by
  simp [attempts]

@[simp] lemma attempts_cons :
    attempts (record :: rest) = 1 + (SERVER_LATENCY_MAX_RETRIES - record.retries) + attempts rest := by
  simp [attempts]

@[simp] lemma attempts_nil : attempts ([] : List (ServerPingRecord Distance)) = 0 := rfl

lemma rank_retry (hl : s.pingReplyList = record :: rest) (hr : record.retries < SERVER_LATENCY_MAX_RETRIES) :
    rank (send now (record.retries + 1) record { s with pingReplyList := rest }) < rank s := by
  simp only [rank, send, hl, attempts_append, attempts_cons, attempts_nil]
  omega

lemma rank_finish (hl : s.pingReplyList = record :: rest) :
    rank { s with pingReplyList := rest, finished := s.finished ++ [record] } < rank s := by
  simp only [rank, hl, attempts_cons]
  omega

lemma rank_expire_le : rank (s.expire now) ≤ rank s := by
  apply expire_invariant (P := fun s' => rank s' ≤ rank s)
  · intro s' record rest h hl hr
    exact (rank_retry hl hr).le.trans h
  · intro s' record rest h hl
    exact (rank_finish hl).le.trans h
  · exact le_rfl

lemma rank_expire_lt (hl : s.pingReplyList = record :: rest) (ht : record.timestamp + SERVER_LATENCY_TIMEOUT ≤ now) :
    rank (s.expire now) < rank s := by
  fun_cases expire now s with
  | case1 hn => cases hl.symm.trans hn
  | case2 record' rest' hl' hn =>
    cases hl.symm.trans hl'
    omega
  | case3 record' rest' hl' _ hr => exact rank_expire_le.trans_lt (rank_retry hl' hr)
  | case4 record' rest' hl' _ hr => exact rank_expire_le.trans_lt (rank_finish hl')

lemma expire_of_fresh (hl : s.pingReplyList = record :: rest) (ht : now < record.timestamp + SERVER_LATENCY_TIMEOUT) :
    s.expire now = s := by
  fun_cases expire now s with
  | case1 hn => rfl
  | case2 record' rest' hl' hn => rfl
  | case3 record' rest' hl' hn hr =>
    cases hl.symm.trans hl'
    omega
  | case4 record' rest' hl' hn hr =>
    cases hl.symm.trans hl'
    omega

lemma refill_keeps (now : ℕ) (s : ServerLatency Distance) : rank (s.refill now) = rank s ∧
    ∀ first ∈ s.pingReplyList.head?, (s.refill now).pingReplyList.head? = some first := by
  apply refill_invariant (P := fun s' => rank s' = rank s ∧
    ∀ first ∈ s.pingReplyList.head?, s'.pingReplyList.head? = some first)
  · rintro s' record queue ⟨hr, hf⟩ hq hl
    constructor
    · rw [← hr]
      simp only [rank, send, hq, attempts_append, attempts_cons, attempts_nil, List.length_cons,
        SERVER_LATENCY_MAX_RETRIES]
      omega
    · intro first hm
      simp [send, hf first hm]
  · exact ⟨rfl, fun first hm => hm⟩

lemma rank_of_maybeSendPings (h : (s.maybeSendPings now).pingSender = true) :
    rank (s.maybeSendPings now) = rank ((s.expire now).refill now) ∧
      (s.maybeSendPings now).pingReplyList = ((s.expire now).refill now).pingReplyList := by
  have hs : s.pingSender = true := by
    by_contra hs
    rw [maybeSendPings, Bool.eq_false_iff.mpr hs] at h
    exact hs h
  rw [maybeSendPings, hs, Bool.not_true, if_neg Bool.false_ne_true] at h ⊢
  dsimp only at h ⊢
  split at h
  · cases h
  · exact ⟨rfl, rfl⟩

lemma rank_maybeSendPings_le (h : (s.maybeSendPings now).pingSender = true) :
    rank (s.maybeSendPings now) ≤ rank s := by
  rw [(rank_of_maybeSendPings h).1, (refill_keeps _ _).1]
  exact rank_expire_le

lemma rank_timeout (now : ℕ) (hi : Settled initial s) (hs : s.pingSender = true) :
    (s.maybeSendPings now).pingSender = false ∨ rank (s.maybeSendPings now) < rank s ∨
      (¬ (∃ deadline ∈ s.deadline, (Event.timeout now).Fires deadline) ∧ rank (s.maybeSendPings now) = rank s ∧
        (s.maybeSendPings now).deadline = s.deadline) := by
  by_cases h : (s.maybeSendPings now).pingSender = true
  · right
    obtain ⟨record, rest, hl, hd⟩ := hi.timed hs
    obtain ⟨hr, hp⟩ := rank_of_maybeSendPings h
    rw [hr, (refill_keeps _ _).1]
    by_cases ht : record.timestamp + SERVER_LATENCY_TIMEOUT ≤ now
    · exact .inl (rank_expire_lt hl ht)
    · right
      have he := expire_of_fresh hl (not_le.mp ht)
      refine ⟨?_, by rw [he], ?_⟩
      · rintro ⟨deadline, hm, hn⟩
        rw [hd] at hm
        cases hm
        have hn : (record.timestamp : ℤ) + SERVER_LATENCY_TIMEOUT ≤ now := hn
        exact ht (by exact_mod_cast hn)
      · obtain ⟨record', rest', hl', hd'⟩ := Settled.timed (hi.maybeSendPings now) h
        have hf := (refill_keeps now s).2 record (by simp [hl])
        rw [hp, he] at hl'
        rw [hl'] at hf
        cases hf
        rw [hd, hd']
  · exact .inl (Bool.eq_false_iff.mpr h)

lemma rank_recvPing (sequence : UInt16) (received now : ℕ) (s : ServerLatency Distance) :
    (s.recvPing sequence received now).pingSender = false ∨
      rank (s.recvPing sequence received now) < rank s ∨ s.recvPing sequence received now = s := by
  by_cases h : (s.recvPing sequence received now).pingSender = true
  · right
    rw [recvPing] at h ⊢
    split at h
    · exact .inr rfl
    · next record hf =>
      left
      obtain ⟨a, b, hl, he⟩ := exists_of_find hf
      apply (rank_maybeSendPings_le h).trans_lt
      obtain ⟨latency, sum, hs⟩ := exists_recordLatency record received s
      simp only [hs, rank, he]
      simp only [hl, attempts_append, attempts_cons]
      omega
  · exact .inl (Bool.eq_false_iff.mpr h)

lemma stopped_of_fires {events : ℕ → Event} (h : Settled initial s)
    (hf : ∀ n, ∀ deadline ∈ (states step s events n).deadline,
      ∃ m ≥ n, (states step s events m).pingSender = false ∨ (events m).Fires deadline) :
    ∃ n former, states step s events n = stop former := by
  have hi (n : ℕ) : Settled initial (states step s events n) := states_eq_run (s := s) n ▸ settled_run h
  suffices hn : ∃ n, (states step s events n).pingSender = false by
    obtain ⟨n, hn⟩ := hn
    exact ⟨n, (hi n).stopped hn⟩
  apply exists_of_duties (fun s : ServerLatency Distance => s.pingSender = false) rank deadline
    fun d e => ∃ deadline ∈ d, Event.Fires deadline e
  · intro n
    by_cases hs : (states step s events n).pingSender = true
    · right
      rw [states]
      cases events n with
      | recvPing sequence received now =>
        obtain hq | hr | he := rank_recvPing sequence received now (states step s events n)
        · exact .inl hq
        · exact .inr (.inl hr)
        · exact .inr (.inr ⟨congrArg rank he, congrArg deadline he⟩)
      | timeout now =>
        obtain hq | hr | ⟨-, hr⟩ := rank_timeout now (hi n) hs
        · exact .inl hq
        · exact .inr (.inl hr)
        · exact .inr (.inr hr)
      | stop now => exact .inl rfl
    · exact .inl (Bool.eq_false_iff.mpr hs)
  · intro n hd
    by_cases hs : (states step s events n).pingSender = true
    · right
      rw [states]
      cases he : events n with
      | recvPing sequence received now => simp [he, Event.Fires] at hd
      | timeout now =>
        obtain hq | hr | ⟨hn, -⟩ := rank_timeout now (hi n) hs
        · exact .inl hq
        · exact .inr hr
        · exact absurd (he ▸ hd) hn
      | stop now => exact .inl rfl
    · exact .inl (Bool.eq_false_iff.mpr hs)
  · intro n
    by_cases hs : (states step s events n).pingSender = true
    · right
      obtain ⟨record, rest, -, hd⟩ := (hi n).timed hs
      obtain ⟨m, hm, hq | hd'⟩ := hf n _ hd
      · exact ⟨m, hm, .inl hq⟩
      · exact ⟨m, hm, .inr ⟨_, hd, hd'⟩⟩
    · exact .inl (Bool.eq_false_iff.mpr hs)

section Start

variable [LE Distance] [DecidableLE Distance] {env : PingEnvironment Distance}

/-- The servers of all cities, in the order in which they are pinged. -/
def initialQueue (env : PingEnvironment Distance) : List (ServerPingRecord Distance) := env.cities.foldl insertCity []

structure IsIdle (s : ServerLatency Distance) : Prop where
  sender : s.pingSender = false
  queue : s.pingSendQueue = []
  reply : s.pingReplyList = []

lemma start_eq (h : IsIdle s) (hs : env.isSupported) (ho : env.isOff) : s.start env now =
    maybeSendPings now
      { s with
        sequence := 0, wantRefresh := false, pingSender := true, pingSendQueue := initialQueue env
        pingSendTotal := (initialQueue env).length, progressDelayTimer := false, refreshTimer := false
        sent := [], finished := [] } := by
  simp [start, hs, ho, h.sender, h.queue, initialQueue]

lemma inv_start (h : IsIdle s) (hs : env.isSupported) (ho : env.isOff) :
    Inv (initialQueue env) now (s.start env now) := by
  rw [start_eq h hs ho]
  apply inv_maybeSendPings
  refine ⟨?_, ?_, ?_, rfl, rfl, List.Pairwise.nil, ?_, ?_⟩
  · simp [h.reply]
  · simp [h.reply]
  · simp [h.reply]
  · simp
  · simp [h.reply]

lemma settled_start (h : IsIdle s) (hs : env.isSupported) (ho : env.isOff) :
    Settled (initialQueue env) (s.start env now) := by
  rw [start_eq h hs ho]
  exact maybeSendPings_settled rfl rfl

/-- What is promised between the handlers of a measurement of the servers. -/
structure Consistent (initial : List (ServerPingRecord Distance)) (s : ServerLatency Distance) : Prop where
  placed : ∀ pubkey, occurrences pubkey s.pingSendQueue + occurrences pubkey s.pingReplyList +
    occurrences pubkey s.finished = occurrences pubkey initial
  parallel : s.pingReplyList.length ≤ SERVER_LATENCY_MAX_PARALLEL
  distinct : (s.pingReplyList.map (·.sequence)).Nodup
  ordered : (s.pingReplyList.map (·.timestamp)).Pairwise (· ≤ ·)
  pinged : ∀ pubkey, occurrences pubkey s.sent ≤ (1 + SERVER_LATENCY_MAX_RETRIES) * occurrences pubkey initial
  progress : 0 ≤ s.progress ∧ s.progress ≤ 1
  sender : s.pingSender = false ↔ s.pingSendQueue = [] ∧ s.pingReplyList = []

omit [LE Distance] [DecidableLE Distance] in
lemma Inv.length_eq (h : Inv initial now s) :
    s.pingSendQueue.length + s.pingReplyList.length + s.finished.length = initial.length := by
  have hp : List.Perm ((s.pingSendQueue ++ s.pingReplyList ++ s.finished).map fun record => record.publicKey)
      (initial.map fun record => record.publicKey) := by
    refine List.perm_iff_count.mpr fun pubkey => ?_
    rw [List.map_append, List.map_append, List.count_append, List.count_append]
    exact h.placed pubkey
  simpa [add_assoc] using hp.length_eq

omit [LE Distance] [DecidableLE Distance] in
lemma consistent_of_inv (h : Inv initial now s) (hs : Settled initial s) (hn : s.sent.length < 65536) :
    Consistent initial s where
  placed := h.placed
  parallel := h.parallel
  distinct := by
    apply (h.waiting.map _).nodup
    rw [h.numbered]
    refine List.Nodup.map_on ?_ List.nodup_range
    intro i hi j hj he
    have hm : i % 65536 = j % 65536 := by simpa using congrArg UInt16.toNat he
    simp only [List.mem_range] at hi hj
    omega
  ordered := h.ordered.sublist (h.waiting.map _)
  pinged pubkey := by
    have := h.budget pubkey
    omega
  progress := by
    rw [ServerLatency.progress]
    split
    · exact ⟨zero_le_one, le_rfl⟩
    · next hp =>
      simp only [Bool.or_eq_true, Bool.not_eq_true', decide_eq_true_eq, not_or, Bool.not_eq_false] at hp
      have hl := h.length_eq
      have ht := hs.total hp.1
      have hpos : (0 : ℚ) < s.pingSendTotal := by exact_mod_cast Nat.pos_of_ne_zero hp.2
      have hle : ((s.pingReplyList.length + s.pingSendQueue.length : ℕ) : ℚ) ≤ s.pingSendTotal := by
        exact_mod_cast (by omega)
      constructor
      · exact sub_nonneg.mpr ((div_le_one hpos).mpr hle)
      · exact sub_le_self _ (by positivity)
  sender := by
    constructor
    · intro hp
      obtain ⟨former, rfl⟩ := hs.stopped hp
      exact ⟨rfl, rfl⟩
    · rintro ⟨-, hr⟩
      by_contra hp
      obtain ⟨record, rest, hl, -⟩ := hs.timed (Bool.eq_true_of_not_eq_false hp)
      cases hr.symm.trans hl

/-- A measurement keeps what is promised for as long as its pings have different numbers, and is stopped in the end. -/
theorem measures_servers (h : IsIdle s) (hs : env.isSupported) (ho : env.isOff) :
    (∀ events, Timely now events → (run step (s.start env now) events).sent.length < 65536 →
      Consistent (initialQueue env) (run step (s.start env now) events)) ∧
    ∀ events : ℕ → Event, (∀ n, Timely now ((List.range n).map events)) →
      (∀ n, ∀ deadline ∈ (states step (s.start env now) events n).deadline,
        ∃ m ≥ n, (states step (s.start env now) events m).pingSender = false ∨ (events m).Fires deadline) →
      ∃ n former, states step (s.start env now) events n = stop former := by
  constructor
  · intro events ht hn
    obtain ⟨clock, hi⟩ := inv_run (inv_start h hs ho) ht
    exact consistent_of_inv hi (settled_run (settled_start h hs ho)) hn
  · intro events _ hf
    exact stopped_of_fires (settled_start h hs ho) hf

end Start

lemma timely_ticks (interval k n clock : ℕ) (h : clock ≤ interval * (k + 1)) :
    Timely clock ((List.range' k n).map fun i => .timeout (interval * (i + 1))) := by
  induction n generalizing k clock with
  | zero => trivial
  | succ n ih =>
    refine ⟨h, le_rfl, ih (k + 1) _ ?_⟩
    exact Nat.mul_le_mul_left _ (Nat.le_succ _)

/-- More servers than are waited for at a time. -/
def tenServers : PingEnvironment ℕ where
  isSupported := true
  isOff := true
  cities :=
    [⟨"se", "Malmö", 7, ["a", "b", "c", "d", "e", "f"]⟩, ⟨"se", "Stockholm", 9, []⟩,
      ⟨"de", "Berlin", 3, ["g", "h", "i", "j"]⟩]

theorem measures_tenServers :
    (∀ events, Timely 0 events → (run step (({} : ServerLatency ℕ).start tenServers 0) events).sent.length < 65536 →
      Consistent (initialQueue tenServers) (run step (({} : ServerLatency ℕ).start tenServers 0) events)) ∧
    ∃ n former, states step (({} : ServerLatency ℕ).start tenServers 0) (fun n => .timeout (5000 * (n + 1))) n =
      stop former := by
  refine And.imp_right (fun h => h _ ?_ ?_) (measures_servers ⟨rfl, rfl, rfl⟩ rfl rfl)
  · intro n
    rw [List.range_eq_range']
    exact timely_ticks 5000 0 n 0 (Nat.zero_le _)
  · intro n deadline _
    refine ⟨max n deadline.toNat, le_max_left .., .inr ?_⟩
    simp only [Event.Fires]
    omega

end VpnClient.Client.ServerLatency
