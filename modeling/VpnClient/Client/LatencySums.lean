import VpnClient.Client.ServerLatency
import VpnClient.Library.Tables

/-! The latencies by the keys of the servers, with their sum and their average in numbers of 64 bits. -/

namespace VpnClient.Client.LatencySums

open Library.Tables

/-- The result of an operation on signed numbers, if it does not overflow. -/
def qint64 (n : ℤ) : Option ℤ := if -2 ^ 63 ≤ n ∧ n < 2 ^ 63 then some n else none

structure Latencies where
  latency : Table String ℤ := ∅
  sumLatencyMsec : ℤ := 0

namespace Latencies

/-- A key that is not in the table is there with a zero once it has been looked up. -/
def setLatency (pubkey : String) (msec : ℤ) (s : Latencies) : Option Latencies := do
  let sumLatencyMsec ← qint64 (s.sumLatencyMsec - (s.latency.lookup pubkey).getD 0)
  let sumLatencyMsec ← qint64 (sumLatencyMsec + msec)
  pure { latency := s.latency.insert pubkey msec, sumLatencyMsec }

def clear (_ : Latencies) : Latencies := {}

def avgLatency (s : Latencies) : Option ℤ :=
  let count : ℤ := s.latency.entries.length
  if count = 0 then some 0
  else do
    let total ← qint64 (s.sumLatencyMsec + count)
    let total ← qint64 (total - 1)
    pure (total.tdiv count)

end Latencies

inductive Op where
  | setLatency (pubkey : String) (msec : ℤ)
  | clear

def step (s : Latencies) : Op → Option Latencies
  | .setLatency pubkey msec => s.setLatency pubkey msec
  | .clear => some s.clear

def run (ops : List Op) : Option Latencies := ops.foldlM step {}

/-- What a call makes of the latencies themselves: each server has the last one that was set. -/
def store (t : Table String ℤ) : Op → Table String ℤ
  | .setLatency pubkey msec => t.insert pubkey msec
  | .clear => ∅

def stored (ops : List Op) : Table String ℤ := ops.foldl store ∅

def total (t : Table String ℤ) : ℤ := (values t).sum

def count (t : Table String ℤ) : ℕ := (values t).length

/-- The mean of the latencies, rounded up. -/
def mean (t : Table String ℤ) : ℤ := if count t = 0 then 0 else ⌈(total t : ℚ) / count t⌉

def Op.NonNegative : Op → Prop
  | .setLatency _ msec => 0 ≤ msec
  | .clear => True

/-- The calls have a result, whose sum and average are those of the latencies. -/
def Exact (ops : List Op) : Prop :=
  ∃ s, run ops = some s ∧ s.sumLatencyMsec = total s.latency ∧ s.avgLatency = some (mean s.latency)

/-- The sum is always a number of 64 bits, and in the end even with the number of the latencies. -/
def InRange (ops : List Op) : Prop :=
  (∀ before, before <+: ops → total (stored before) < 2 ^ 63) ∧ total (stored ops) + count (stored ops) < 2 ^ 63

variable {s t : Latencies} {latency : Table String ℤ} {op : Op} {ops : List Op} {n : ℤ}

lemma qint64_of_nonneg (h : 0 ≤ n) : qint64 n = if n < 2 ^ 63 then some n else none := by
  rw [qint64]
  have hl : -2 ^ 63 ≤ n := le_trans (by norm_num) h
  simp only [hl, true_and]

lemma total_insert (latency : Table String ℤ) (pubkey : String) (msec : ℤ) :
    total (latency.insert pubkey msec) = total latency - (latency.lookup pubkey).getD 0 + msec := sum_values_insert

def NonNegative (latency : Table String ℤ) : Prop := ∀ msec ∈ values latency, 0 ≤ msec

lemma NonNegative.total (h : NonNegative latency) : 0 ≤ total latency := List.sum_nonneg h

lemma NonNegative.erase (h : NonNegative latency) (pubkey : String) : NonNegative (latency.erase pubkey) :=
  fun _ hm => h _ (values_perm.mem_iff.mpr (List.mem_append_right _ hm))

lemma NonNegative.store (h : NonNegative latency) (ho : op.NonNegative) : NonNegative (store latency op) := by
  cases op with
  | setLatency pubkey msec =>
    intro n hn
    obtain rfl | hm := List.mem_cons.mp hn
    · exact ho
    · exact h.erase pubkey n hm
  | clear => exact fun _ hn => absurd hn List.not_mem_nil

lemma stored_concat (ops : List Op) (op : Op) : stored (ops ++ [op]) = store (stored ops) op :=
  List.foldl_concat ..

lemma nonNegative_stored (h : ∀ op ∈ ops, op.NonNegative) : NonNegative (stored ops) := by
  induction ops using List.reverseRecOn with
  | nil => exact fun _ hn => absurd hn List.not_mem_nil
  | append_singleton ops op ih =>
    rw [stored_concat]
    exact (ih fun o ho => h o (List.mem_append_left _ ho)).store (h op (List.mem_append_right _ List.mem_cons_self))

lemma total_erase (pubkey : String) :
    total (latency.erase pubkey) = total latency - (latency.lookup pubkey).getD 0 := by
  have hi := total_insert latency pubkey 0
  rw [total, values_insert, List.sum_cons, zero_add, add_zero] at hi
  exact hi

lemma step_eq (hn : NonNegative latency) (ht : total latency < 2 ^ 63) (ho : op.NonNegative) :
    step ⟨latency, total latency⟩ op =
      if total (store latency op) < 2 ^ 63 then some ⟨store latency op, total (store latency op)⟩ else none := by
  cases op with
  | setLatency pubkey msec =>
    have he : 0 ≤ total (latency.erase pubkey) := (hn.erase pubkey).total
    have hle : total (latency.erase pubkey) ≤ total latency := by
      rw [total_erase]
      apply sub_le_self
      cases hl : latency.lookup pubkey with
      | none => exact le_rfl
      | some msec' => exact hn _ (values_perm.mem_iff.mpr (by rw [hl]; exact List.mem_cons_self))
    rw [step, Latencies.setLatency, ← total_erase, qint64_of_nonneg he, if_pos (hle.trans_lt ht), store, total_insert,
      ← total_erase]
    show (qint64 (total (latency.erase pubkey) + msec) >>= _) = _
    rw [qint64_of_nonneg (add_nonneg he ho)]
    split_ifs <;> rfl
  | clear => rfl

lemma run_concat (ops : List Op) (op : Op) : run (ops ++ [op]) = run ops >>= fun s => step s op := by
  rw [run, List.foldlM_append]
  cases hr : ops.foldlM step {} with
  | none => simp [run, hr]
  | some s => simp [run, hr]

/-- The calls have a result as long as the sums are numbers of 64 bits. -/
lemma run_iff (h : ∀ op ∈ ops, op.NonNegative) : run ops = some s ↔
    (∀ before, before <+: ops → total (stored before) < 2 ^ 63) ∧ s = ⟨stored ops, total (stored ops)⟩ := by
  induction ops using List.reverseRecOn generalizing s with
  | nil =>
    have ht : total (stored []) < 2 ^ 63 := by decide
    constructor
    · rintro ⟨⟩
      exact ⟨fun before hb => List.prefix_nil.mp hb ▸ ht, rfl⟩
    · rintro ⟨-, rfl⟩
      rfl
  | append_singleton ops op ih =>
    have hops : ∀ o ∈ ops, o.NonNegative := fun o ho => h o (List.mem_append_left _ ho)
    have hop : op.NonNegative := h op (List.mem_append_right _ List.mem_cons_self)
    rw [run_concat, Option.bind_eq_bind, Option.bind_eq_some_iff]
    constructor
    · rintro ⟨s', hr, hs⟩
      obtain ⟨ht, rfl⟩ := (ih hops).mp hr
      rw [step_eq (nonNegative_stored hops) (ht ops List.prefix_rfl) hop, ← stored_concat] at hs
      split_ifs at hs with hlt
      obtain rfl := Option.some.inj hs
      refine ⟨fun before hb => ?_, rfl⟩
      obtain rfl | hb := List.prefix_concat_iff.mp hb
      · exact hlt
      · exact ht before hb
    · rintro ⟨ht, rfl⟩
      have hb : ∀ before, before <+: ops → total (stored before) < 2 ^ 63 :=
        fun before hb => ht before (hb.trans (List.prefix_append ops [op]))
      refine ⟨_, (ih hops).mpr ⟨hb, rfl⟩, ?_⟩
      rw [step_eq (nonNegative_stored hops) (hb ops List.prefix_rfl) hop, ← stored_concat,
        if_pos (ht _ List.prefix_rfl)]

lemma mean_eq (hc : 0 < count latency) :
    mean latency = (total latency + count latency - 1) / count latency := by
  rw [mean, if_neg hc.ne', Int.ceil_eq_iff]
  have hq : (0 : ℚ) < count latency := Nat.cast_pos.mpr hc
  have hi : (0 : ℤ) < count latency := Nat.cast_pos.mpr hc
  have hm := Int.mul_ediv_add_emod (total latency + count latency - 1) (count latency)
  have hl := Int.emod_nonneg (total latency + count latency - 1) hi.ne'
  have hu := Int.emod_lt_of_pos (total latency + count latency - 1) hi
  constructor
  · rw [lt_div_iff₀ hq]
    have hd : ((total latency + count latency - 1) / count latency - 1) * (count latency : ℤ) < total latency := by
      nlinarith
    exact_mod_cast hd
  · rw [div_le_iff₀ hq]
    have hd : total latency ≤ (total latency + count latency - 1) / count latency * (count latency : ℤ) := by nlinarith
    exact_mod_cast hd

lemma avgLatency_iff (hn : NonNegative latency) :
    Latencies.avgLatency ⟨latency, total latency⟩ = some (mean latency) ↔ total latency + count latency < 2 ^ 63 := by
  have hlen : latency.entries.length = count latency := (List.length_map _).symm
  rw [Latencies.avgLatency]
  simp only [hlen, Nat.cast_eq_zero]
  by_cases hc : count latency = 0
  · have ht : total latency = 0 := by rw [total, List.length_eq_zero_iff.mp hc, List.sum_nil]
    rw [if_pos hc, mean, if_pos hc, ht, hc]
    norm_num
  · have hpos : (0 : ℤ) < count latency := Nat.cast_pos.mpr (Nat.pos_of_ne_zero hc)
    have ht := hn.total
    rw [if_neg hc, qint64_of_nonneg (add_nonneg ht hpos.le)]
    by_cases hlt : total latency + count latency < 2 ^ 63
    · rw [if_pos hlt]
      show (qint64 (total latency + count latency - 1) >>= _) = _ ↔ _
      rw [qint64_of_nonneg (by omega), if_pos (by omega), mean_eq (Nat.pos_of_ne_zero hc)]
      simp only [hlt, iff_true]
      exact congrArg some (Int.tdiv_eq_ediv_of_nonneg (by omega))
    · rw [if_neg hlt]
      simpa using hlt

/-- The calls are exact as long as the numbers of 64 bits are large enough. -/
theorem exact_iff_inRange (ops : List Op) (h : ∀ op ∈ ops, op.NonNegative) : Exact ops ↔ InRange ops := by
  have hn := nonNegative_stored h
  constructor
  · rintro ⟨s, hr, -, ha⟩
    obtain ⟨ht, rfl⟩ := (run_iff h).mp hr
    exact ⟨ht, (avgLatency_iff hn).mp ha⟩
  · rintro ⟨ht, ha⟩
    exact ⟨_, (run_iff h).mpr ⟨ht, rfl⟩, rfl, (avgLatency_iff hn).mpr ha⟩

/-- Calls for two servers, before and after the latencies are cleared. -/
def updates : List Op :=
  [.setLatency "a" 5, .setLatency "b" 2, .clear, .setLatency "a" 7, .setLatency "c" 2, .setLatency "a" 0]

theorem exact_updates : Exact updates := by
  apply (exact_iff_inRange updates _).mpr
  · have ht : ∀ before ∈ updates.inits, total (stored before) < 2 ^ 63 := by decide
    exact ⟨fun before hb => ht before ((List.mem_inits _ _).mpr hb), by decide⟩
  · simp [updates, Op.NonNegative]

/-- The sum of two latencies is too large, or that of one with their number. -/
theorem not_exact_overflow :
    ¬Exact [.setLatency "a" (2 ^ 63 - 1), .setLatency "b" 1] ∧ ¬Exact [.setLatency "a" (2 ^ 63 - 1)] := by
  constructor
  · rintro ⟨s, hs, -⟩
    have hn : run [.setLatency "a" (2 ^ 63 - 1), .setLatency "b" 1] = none := by decide
    rw [hn] at hs
    cases hs
  · rintro ⟨s, hs, -, ha⟩
    have hr : run [.setLatency "a" (2 ^ 63 - 1)] = some ⟨AList.insert "a" (2 ^ 63 - 1) ∅, 2 ^ 63 - 1⟩ := rfl
    obtain rfl := Option.some.inj (hr.symm.trans hs)
    have hn : Latencies.avgLatency ⟨AList.insert "a" (2 ^ 63 - 1) ∅, 2 ^ 63 - 1⟩ = none := by decide
    rw [hn] at ha
    cases ha

/-- What `recvPing` records. -/
def Op.Recorded : Op → Prop
  | .setLatency _ msec => msec ≤ 2 ^ 32 - 1
  | .clear => True

lemma recorded_stored (h : ∀ op ∈ ops, op.Recorded) : ∀ msec ∈ values (stored ops), msec ≤ 2 ^ 32 - 1 := by
  induction ops using List.reverseRecOn with
  | nil => exact fun _ hn => absurd hn List.not_mem_nil
  | append_singleton ops op ih =>
    have hs := ih fun o ho => h o (List.mem_append_left _ ho)
    have ho := h op (List.mem_append_right _ List.mem_cons_self)
    rw [stored_concat]
    cases op with
    | setLatency pubkey msec =>
      intro n hn
      obtain rfl | hm := List.mem_cons.mp hn
      · exact ho
      · exact hs n (values_perm.mem_iff.mpr (List.mem_append_right _ hm))
    | clear => exact fun _ hn => absurd hn List.not_mem_nil

/-- Nothing overflows for fewer than 2 ^ 31 servers. -/
theorem inRange_of_recorded (h : ∀ op ∈ ops, op.Recorded)
    (hc : ∀ before, before <+: ops → count (stored before) < 2 ^ 31) : InRange ops := by
  have hb {before : List Op} (hb : before <+: ops) : total (stored before) + count (stored before) < 2 ^ 63 := by
    have ht := List.sum_le_card_nsmul _ _ (recorded_stored fun op ho => h op (hb.subset ho))
    rw [nsmul_eq_mul] at ht
    have hcount : (count (stored before) : ℤ) < 2 ^ 31 := by exact_mod_cast hc before hb
    calc total (stored before) + count (stored before)
        ≤ count (stored before) * (2 ^ 32 - 1) + count (stored before) := add_le_add_left ht _
      _ = count (stored before) * 2 ^ 32 := by ring
      _ < 2 ^ 63 := by omega
  exact ⟨fun before hp => lt_of_le_of_lt (le_add_of_nonneg_right (Nat.cast_nonneg _)) (hb hp), hb List.prefix_rfl⟩

section Agrees

variable {Distance : Type} {p : ServerLatency Distance} {pubkey : String} {msec : ℤ}

/-- The measurement has these latencies. -/
structure Agrees (p : ServerLatency Distance) (s : Latencies) : Prop where
  latency : ∀ pubkey, p.latency pubkey = (s.latency.lookup pubkey).getD 0
  sumLatencyMsec : p.sumLatencyMsec = s.sumLatencyMsec

lemma agrees_setLatency (h : Agrees p s) (hs : s.setLatency pubkey msec = some t) :
    Agrees (p.setLatency pubkey msec) t := by
  rw [Latencies.setLatency, Option.bind_eq_bind, Option.bind_eq_some_iff] at hs
  obtain ⟨sum, hsum, hs⟩ := hs
  obtain ⟨sum', hsum', hs⟩ := Option.bind_eq_some_iff.mp hs
  obtain rfl := Option.some.inj hs
  have he {m n : ℤ} (hq : qint64 m = some n) : m = n := by
    rw [qint64] at hq
    split_ifs at hq
    exact Option.some.inj hq
  constructor
  · intro key
    rw [lookup_insert, ServerLatency.setLatency]
    by_cases hk : key = pubkey
    · simp [hk]
    · simp [hk, h.latency key]
  · rw [ServerLatency.setLatency, h.latency, h.sumLatencyMsec, he hsum]
    exact he hsum'

lemma agrees_clear (p : ServerLatency Distance) (s : Latencies) : Agrees p.clear s.clear := ⟨fun _ => rfl, rfl⟩

end Agrees

end VpnClient.Client.LatencySums
