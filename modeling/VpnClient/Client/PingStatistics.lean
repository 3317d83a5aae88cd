import VpnClient.Client.PingHelper
import VpnClient.Library.Rings
import VpnClient.Library.Runs

/-! The statistics are those of the last pings since the start, as long as no reply with the initial sequence number
comes before the first ping, the clock has left zero behind and no reply is too late to count. -/

namespace VpnClient.Client.PingHelper

open Library Library.Rings

/-- A ping since the last start, and the latency that its last reply has shown. -/
structure Ping where
  time : ℤ
  sequence : UInt16
  answer : Option ℤ := none

structure History where
  clock : ℤ
  pings : List Ping := []

/-- A reply answers those of the last pings that have its sequence number. -/
def answered (sequence : UInt16) (now : ℤ) (pings : List Ping) : List Ping :=
  pings.mapIdx fun j ping =>
    if pings.length ≤ j + PING_STATS_WINDOW ∧ ping.sequence = sequence then
      { ping with answer := some (now - ping.time) }
    else ping

def observe (s : PingHelper) : Event → History → History
  | .start, h => { h with pings := [] }
  | .stop, h => h
  | .timeout now, h =>
    if s.pingTimer then { clock := now, pings := h.pings ++ [{ time := now, sequence := s.sequence }] }
    else { h with clock := now }
  | .recvPing sequence now, h => { clock := now, pings := answered sequence now h.pings }

namespace History

def recent (h : History) : List Ping := h.pings.rtake PING_STATS_WINDOW

def measured (h : History) : List ℤ := h.recent.filterMap (·.answer)

/-- The pings that are older than a second and have no answer. -/
def lost (now : ℤ) (h : History) : List Ping := h.recent.filter fun ping => ping.answer = none ∧ ping.time < now - 1000

/-- The clock does not go back. -/
def Timely (h : History) : Event → Prop
  | .timeout now => h.clock ≤ now
  | .recvPing _ now => h.clock ≤ now
  | _ => True

/-- No reply with the initial sequence number comes before the first ping, no ping is sent at time zero or before, and
no latency that counts has 32 bits or more. -/
def Fits (h : History) : Event → Prop
  | .timeout now => 0 < now
  | .recvPing sequence now =>
    (h.pings = [] → sequence ≠ 0) ∧ ∀ ping ∈ h.recent, ping.sequence = sequence → now - ping.time < UINT_MAX
  | _ => True

end History

/-- A reply changes nothing, or the slot of one of the last pings, with a latency that is measured from it. -/
def Replied (s : PingHelper) (h : History) : Event → Prop
  | .recvPing sequence now => s.pingReceived sequence now = s ∨
      ∃ ping ∈ h.recent, ping.sequence = sequence ∧ 0 ≤ now - ping.time ∧
        s.pingReceived sequence now = { s with
          pingData := s.pingData.set (sequence.toNat % PING_STATS_WINDOW)
            { timestamp := ping.time, latency := now - ping.time, sequence }
          received := s.received ++ [now - ping.time] }
  | _ => True

structure Correct (s : PingHelper) (h : History) : Prop where
  slots : ∀ i j ping, h.pings[j]? = some ping → j % PING_STATS_WINDOW = i →
    (∀ k, j < k → k < h.pings.length → k % PING_STATS_WINDOW ≠ i) →
      (s.pingData[i]?).map (·.sequence) = some ping.sequence
  loss : ∀ now, s.loss now = (h.lost now).length / 32 ∧ 0 ≤ s.loss now ∧ s.loss now ≤ 1
  latency : h.measured ≠ [] → ∀ lo hi : ℤ, (∀ m ∈ h.measured, lo ≤ m ∧ m ≤ hi) → lo ≤ s.latency ∧ s.latency ≤ hi
  maximum : h.measured ≠ [] → ∀ lo hi : ℤ, (∀ m ∈ h.measured, lo ≤ m ∧ m ≤ hi) → lo ≤ s.maximum ∧ s.maximum ≤ hi

def Ping.data (ping : Ping) : PingSendData :=
  { timestamp := ping.time, latency := ping.answer.getD (-1), sequence := ping.sequence }

structure Inv (s : PingHelper) (h : History) : Prop where
  shows : Shows {} PING_STATS_WINDOW s.pingData (h.pings.map Ping.data)
  numbered : ∀ j ping, h.pings[j]? = some ping → ping.sequence = UInt16.ofNat j
  next : s.sequence = UInt16.ofNat h.pings.length
  sent : ∀ ping ∈ h.pings, 0 < ping.time ∧ ping.time ≤ h.clock
  answers : ∀ ping ∈ h.pings, ∀ m, ping.answer = some m → 0 ≤ m ∧ m < UINT_MAX

variable {s : PingHelper} {h : History} {ping : Ping} {pings : List Ping} {sequence : UInt16} {now : ℤ} {i j n : ℕ}

lemma toNat_mod (n : ℕ) : (UInt16.ofNat n).toNat % PING_STATS_WINDOW = n % PING_STATS_WINDOW := by
  rw [UInt16.toNat_ofNat']
  exact Nat.mod_mod_of_dvd n (by decide)

lemma mem_recent : ping ∈ h.recent ↔ ∃ j, h.pings[j]? = some ping ∧ h.pings.length ≤ j + PING_STATS_WINDOW := by
  rw [History.recent, List.rtake, List.mem_iff_getElem?]
  constructor
  · rintro ⟨k, hk⟩
    rw [List.getElem?_drop] at hk
    exact ⟨_, hk, by omega⟩
  · rintro ⟨j, hj, hl⟩
    refine ⟨j - (h.pings.length - PING_STATS_WINDOW), ?_⟩
    rw [List.getElem?_drop, ← hj]
    congr 1
    omega

section Steps

lemma Inv.slot (hi : Inv s h) (hj : h.pings[j]? = some ping) (hl : h.pings.length ≤ j + PING_STATS_WINDOW) :
    s.pingData[j % PING_STATS_WINDOW]? = some ping.data := by
  have hlt := (List.getElem?_eq_some_iff.mp hj).1
  rw [hi.shows.getElem? (by simpa using hlt) (by simpa using hl), List.getElem?_map, hj]
  rfl

lemma ofNat_inj (hij : i < j + 32) (hji : j < i + 32) (he : UInt16.ofNat i = UInt16.ofNat j) : i = j := by
  have ht := congrArg UInt16.toNat he
  rw [UInt16.toNat_ofNat', UInt16.toNat_ofNat'] at ht
  omega

/-- Two of the last pings have different sequence numbers. -/
lemma Inv.index_unique {other : Ping} {k : ℕ} (hi : Inv s h) (hj : h.pings[j]? = some ping)
    (hk : h.pings[k]? = some other) (hlj : h.pings.length ≤ j + PING_STATS_WINDOW)
    (hlk : h.pings.length ≤ k + PING_STATS_WINDOW) (he : ping.sequence = other.sequence) : j = k := by
  have hjn := (List.getElem?_eq_some_iff.mp hj).1
  have hkn := (List.getElem?_eq_some_iff.mp hk).1
  rw [hi.numbered j ping hj, hi.numbered k other hk] at he
  rw [PING_STATS_WINDOW] at hlj hlk
  exact ofNat_inj (by omega) (by omega) he

/-- A slot with the sequence number of a reply is that of one of the last pings. -/
lemma Inv.hit {data : PingSendData} (hi : Inv s h) (hf : h.pings = [] → sequence ≠ 0)
    (hd : s.pingData[sequence.toNat % PING_STATS_WINDOW]? = some data) (hs : data.sequence = sequence) :
    ∃ j ping, h.pings[j]? = some ping ∧ h.pings.length ≤ j + PING_STATS_WINDOW ∧ data = ping.data := by
  have hm : sequence.toNat % PING_STATS_WINDOW < 32 := Nat.mod_lt _ (by decide)
  rcases Nat.lt_or_ge (sequence.toNat % PING_STATS_WINDOW) h.pings.length with hn | hn
  · -- The last index below the number of pings that leaves the same remainder.
    generalize hr : sequence.toNat % PING_STATS_WINDOW = r at hd hm hn
    have hj : (h.pings.length - 1 - (h.pings.length - 1 - r) % 32) % PING_STATS_WINDOW = r := by
      rw [PING_STATS_WINDOW]
      omega
    have hlt : h.pings.length - 1 - (h.pings.length - 1 - r) % 32 < h.pings.length := by omega
    have hl : h.pings.length ≤ h.pings.length - 1 - (h.pings.length - 1 - r) % 32 + PING_STATS_WINDOW := by
      rw [PING_STATS_WINDOW]
      omega
    have hslot := hi.slot (List.getElem?_eq_getElem hlt) hl
    rw [hj, hd] at hslot
    exact ⟨_, _, List.getElem?_eq_getElem hlt, hl, Option.some.inj hslot⟩
  · have hfresh := hi.shows.getElem?_fresh (by simpa using hn) hm
    rw [hd] at hfresh
    have hz : sequence = 0 := by
      rw [← hs, Option.some.inj hfresh]
    rw [hz] at hn
    exact absurd hz (hf (List.length_eq_zero_iff.mp (Nat.le_zero.mp hn)))

lemma answered_eq_self (hn : ∀ ping ∈ h.recent, ping.sequence ≠ sequence) : answered sequence now h.pings = h.pings := by
  apply List.ext_getElem
  · simp [answered]
  · intro k hk hk'
    simp only [answered, List.getElem_mapIdx]
    apply if_neg
    rintro ⟨hl, hs⟩
    exact hn _ (mem_recent.mpr ⟨k, List.getElem?_eq_getElem hk', hl⟩) hs

lemma Inv.answered_eq_set (hi : Inv s h) (hj : h.pings[j]? = some ping)
    (hl : h.pings.length ≤ j + PING_STATS_WINDOW) (hs : ping.sequence = sequence) :
    answered sequence now h.pings = h.pings.set j { ping with answer := some (now - ping.time) } := by
  apply List.ext_getElem
  · simp [answered]
  · intro k hk hk'
    have hk : k < h.pings.length := by simpa [answered] using hk
    simp only [answered, List.getElem_mapIdx, List.getElem_set]
    by_cases hjk : j = k
    · subst hjk
      obtain ⟨_, rfl⟩ := List.getElem?_eq_some_iff.mp hj
      rw [if_pos ⟨hl, hs⟩, if_pos rfl]
    · rw [if_neg hjk, if_neg]
      rintro ⟨hlk, hsk⟩
      exact hjk (hi.index_unique hj (List.getElem?_eq_getElem hk) hl hlk (hs.trans hsk.symm))

variable (now) in
/-- What a reply does to the slots and to the history: nothing, or it answers one of the last pings. -/
lemma Inv.pingReceived_cases (hi : Inv s h) (hf : h.pings = [] → sequence ≠ 0) :
    s.pingReceived sequence now = s ∧ answered sequence now h.pings = h.pings ∨
      ∃ j ping, h.pings[j]? = some ping ∧ h.pings.length ≤ j + PING_STATS_WINDOW ∧ ping.sequence = sequence ∧
        s.pingReceived sequence now = { s with
          pingData := s.pingData.set (j % PING_STATS_WINDOW)
            { timestamp := ping.time, latency := now - ping.time, sequence }
          received := s.received ++ [now - ping.time] } ∧
        answered sequence now h.pings = h.pings.set j { ping with answer := some (now - ping.time) } := by
  have hlen : s.pingData.length = PING_STATS_WINDOW := hi.shows.length
  have hm : sequence.toNat % PING_STATS_WINDOW < s.pingData.length := by
    rw [hlen]
    exact Nat.mod_lt _ (by decide)
  have hd := List.getElem?_eq_getElem hm
  by_cases hs : s.pingData[sequence.toNat % PING_STATS_WINDOW].sequence = sequence
  · right
    obtain ⟨j, ping, hj, hl, he⟩ := hi.hit hf hd hs
    have hp : ping.sequence = sequence := by
      rw [he] at hs
      exact hs
    have hmod : sequence.toNat % PING_STATS_WINDOW = j % PING_STATS_WINDOW := by
      rw [← hp, hi.numbered j ping hj, toNat_mod]
    refine ⟨j, ping, hj, hl, hp, ?_, hi.answered_eq_set hj hl hp⟩
    rw [pingReceived, hd]
    simp only [hs, if_true]
    rw [he, hmod, ← hp]
    rfl
  · left
    constructor
    · rw [pingReceived, hd]
      exact if_neg hs
    · apply answered_eq_self
      intro ping hping hp
      obtain ⟨j, hj, hl⟩ := mem_recent.mp hping
      have hslot := hi.slot hj hl
      rw [← toNat_mod, ← hi.numbered j ping hj, hp, hd] at hslot
      apply hs
      rw [Option.some.inj hslot]
      exact hp

lemma Inv.start (clock : ℤ) (s : PingHelper) : Inv s.start { clock } := by
  constructor
  case shows => exact shows_nil
  case numbered => simp
  case next => rfl
  case sent => simp
  case answers => simp

lemma inv_start (clock : ℤ) : Inv ({} : PingHelper) { clock } := by
  have h := Inv.start clock {}
  exact ⟨h.shows, h.numbered, h.next, h.sent, h.answers⟩

lemma Inv.nextPing (hi : Inv s h) (hc : h.clock ≤ now) (h0 : 0 < now) :
    Inv (s.nextPing now) { clock := now, pings := h.pings ++ [{ time := now, sequence := s.sequence }] } := by
  constructor
  case shows =>
    have hp := hi.shows.push (by decide) { timestamp := now, latency := -1, sequence := s.sequence }
    rw [List.length_map, ← toNat_mod, ← hi.next] at hp
    rw [List.map_append]
    exact hp
  case numbered =>
    intro j ping hj
    rw [List.getElem?_append] at hj
    split_ifs at hj with hl
    · exact hi.numbered j ping hj
    · rw [List.getElem?_singleton] at hj
      split_ifs at hj with hz
      rw [← Option.some.inj hj, show j = h.pings.length by omega]
      exact hi.next
  case next =>
    rw [PingHelper.nextPing, hi.next, List.length_append, List.length_singleton, UInt16.ofNat_add]
    rfl
  case sent =>
    intro ping hp
    rcases List.mem_append.mp hp with hp | hp
    · exact ⟨(hi.sent ping hp).1, (hi.sent ping hp).2.trans hc⟩
    · obtain rfl := List.mem_singleton.mp hp
      exact ⟨h0, le_rfl⟩
  case answers =>
    intro ping hp m hm
    rcases List.mem_append.mp hp with hp | hp
    · exact hi.answers ping hp m hm
    · obtain rfl := List.mem_singleton.mp hp
      cases hm

lemma set_getElem? {other : Ping} {k : ℕ} (hj : h.pings[j]? = some ping)
    (hk : (h.pings.set j { ping with answer := some (now - ping.time) })[k]? = some other) :
    ∃ old, h.pings[k]? = some old ∧ other.sequence = old.sequence ∧ other.time = old.time ∧
      (other.answer = old.answer ∨ old = ping ∧ other.answer = some (now - ping.time)) := by
  rw [List.getElem?_set] at hk
  split_ifs at hk with hjk hl
  · subst hjk
    obtain rfl := Option.some.inj hk
    exact ⟨ping, hj, rfl, rfl, Or.inr ⟨rfl, rfl⟩⟩
  · exact ⟨other, hk, rfl, rfl, Or.inl rfl⟩

lemma Inv.pingReceived (hi : Inv s h) (hc : h.clock ≤ now) (hf : h.Fits (.recvPing sequence now)) :
    Inv (s.pingReceived sequence now) { clock := now, pings := answered sequence now h.pings } := by
  rcases hi.pingReceived_cases now hf.1 with ⟨hs, ha⟩ | ⟨j, ping, hj, hl, hp, hs, ha⟩
  · rw [hs, ha]
    exact { hi with sent := fun ping hp => ⟨(hi.sent ping hp).1, (hi.sent ping hp).2.trans hc⟩ }
  · rw [hs, ha]
    have hm : ping ∈ h.recent := mem_recent.mpr ⟨j, hj, hl⟩
    have hn := (List.getElem?_eq_some_iff.mp hj).1
    have ht := (hi.sent ping (List.mem_of_getElem? hj)).2.trans hc
    constructor
    case shows =>
      have hset := hi.shows.set (j := j) (by simpa using hn) (by simpa using hl)
        { timestamp := ping.time, latency := now - ping.time, sequence }
      rw [List.map_set]
      rw [← hp] at hset ⊢
      exact hset
    case numbered =>
      intro k other hk
      obtain ⟨old, hk, he, -⟩ := set_getElem? hj hk
      rw [he]
      exact hi.numbered k old hk
    case next =>
      rw [List.length_set]
      exact hi.next
    case sent =>
      intro other hother
      obtain ⟨k, hk⟩ := List.getElem?_of_mem hother
      obtain ⟨old, hk, -, he, -⟩ := set_getElem? hj hk
      have hold := hi.sent old (List.mem_of_getElem? hk)
      rw [he]
      exact ⟨hold.1, hold.2.trans hc⟩
    case answers =>
      intro other hother m hm'
      obtain ⟨k, hk⟩ := List.getElem?_of_mem hother
      obtain ⟨old, hk, -, -, he | ⟨rfl, he⟩⟩ := set_getElem? hj hk
      · exact hi.answers old (List.mem_of_getElem? hk) m (he ▸ hm')
      · obtain rfl := Option.some.inj (he.symm.trans hm')
        exact ⟨by omega, hf.2 old hm hp⟩

lemma Inv.step {e : Event} (hi : Inv s h) (ht : h.Timely e) (hf : h.Fits e) : Inv (s.step e) (observe s e h) := by
  cases e with
  | start => exact Inv.start h.clock s
  | stop => exact ⟨hi.shows, hi.numbered, hi.next, hi.sent, hi.answers⟩
  | timeout now =>
    rw [PingHelper.step, observe]
    split_ifs
    · exact hi.nextPing ht hf
    · exact { hi with sent := fun ping hp => ⟨(hi.sent ping hp).1, (hi.sent ping hp).2.trans ht⟩ }
  | recvPing sequence now => exact hi.pingReceived ht hf

lemma Inv.replied {e : Event} (hi : Inv s h) (ht : h.Timely e) (hf : h.Fits e) : Replied s h e := by
  cases e with
  | recvPing sequence now =>
    rcases hi.pingReceived_cases now hf.1 with ⟨hs, -⟩ | ⟨j, ping, hj, hl, hp, hs, -⟩
    · exact Or.inl hs
    · right
      refine ⟨ping, mem_recent.mpr ⟨j, hj, hl⟩, hp, ?_, ?_⟩
      · exact sub_nonneg.mpr ((hi.sent ping (List.mem_of_getElem? hj)).2.trans ht)
      · rw [hs, ← toNat_mod j, ← hi.numbered j ping hj, hp]
  | _ => trivial

end Steps

section Statistics

lemma rtake_map : (h.pings.map Ping.data).rtake PING_STATS_WINDOW = h.recent.map Ping.data := by
  rw [History.recent, List.rtake, List.rtake, List.map_drop, List.length_map]

lemma Inv.perm (hi : Inv s h) : s.pingData.Perm
    (List.replicate (PING_STATS_WINDOW - h.pings.length) ({} : PingSendData) ++ h.recent.map Ping.data) := by
  have hp := hi.shows.perm
  rwa [rtake_map, List.length_map] at hp

lemma mem_of_mem_recent (hp : ping ∈ h.recent) : ping ∈ h.pings := List.mem_of_mem_drop hp

/-- What is counted in the slots is counted in the last pings. -/
lemma Inv.countP (hi : Inv s h) {p : PingSendData → Bool} (hp : p {} = false) :
    s.pingData.countP p = h.recent.countP fun ping => p ping.data := by
  rw [hi.perm.countP_eq, List.countP_append, List.countP_replicate, if_neg (by simp [hp]), List.countP_map, Nat.zero_add]
  rfl

lemma countP_or (p q : Ping → Bool) (pings : List Ping) : pings.countP (fun ping => p ping || q ping) =
    pings.countP p + (pings.filter fun ping => !p ping && q ping).length := by
  rw [← List.countP_eq_length_filter]
  induction pings with
  | nil => rfl
  | cons ping pings ih =>
    rw [List.countP_cons, List.countP_cons, List.countP_cons, ih]
    cases p ping <;> cases q ping <;> simp <;> omega

lemma Inv.latency_neg (hi : Inv s h) (hp : ping ∈ h.recent) : 0 ≤ ping.data.latency ↔ ping.answer ≠ none := by
  cases ha : ping.answer with
  | none => simp [Ping.data, ha]
  | some m => simpa [Ping.data, ha] using (hi.answers ping (mem_of_mem_recent hp) m ha).1

lemma length_recent : h.recent.length ≤ PING_STATS_WINDOW := by
  rw [History.recent, List.rtake, List.length_drop]
  omega

lemma Inv.length_lost (hi : Inv s h) (now : ℤ) :
    s.pingData.countP (fun data => data.latency ≥ 0 ∨ data.timestamp > 0 ∧ data.timestamp < now - PING_TIMEOUT) =
      s.pingData.countP (fun data => data.latency ≥ 0) + (h.lost now).length := by
  rw [hi.countP (by simp), hi.countP (by decide)]
  simp only [Bool.decide_or]
  rw [countP_or, History.lost]
  congr 2
  apply List.filter_congr
  intro ping hp
  have hn := hi.latency_neg hp
  have ht := (hi.sent ping (mem_of_mem_recent hp)).1
  cases ha : ping.answer with
  | none =>
    simp [Ping.data, ha, ht, PING_TIMEOUT]
  | some m =>
    have hl : 0 ≤ ping.data.latency := hn.mpr (by simp [ha])
    simp [hl]

lemma Inv.loss (hi : Inv s h) (now : ℤ) : s.loss now = (h.lost now).length / 32 := by
  have hl := hi.length_lost now
  rw [PingHelper.loss]
  simp only [hl, PING_STATS_WINDOW]
  split_ifs with hz
  · obtain ⟨-, hz⟩ := Nat.add_eq_zero_iff.mp hz
    simp [hz]
  · push_cast
    ring

lemma Inv.loss_le (hi : Inv s h) (now : ℤ) : 0 ≤ s.loss now ∧ s.loss now ≤ 1 := by
  rw [hi.loss]
  have hl : (h.lost now).length ≤ 32 := (List.length_filter_le _ _).trans length_recent
  constructor
  · positivity
  · rw [div_le_one (by norm_num)]
    exact_mod_cast hl

/-- The latencies that are averaged are the measured ones. -/
lemma Inv.latencies (hi : Inv s h) :
    ((s.pingData.map (·.latency)).filter fun latency => ¬ latency < 0).Perm h.measured := by
  have hp := (hi.perm.map (·.latency)).filter fun latency => ¬ latency < 0
  have he : ∀ pings : List Ping, (∀ ping ∈ pings, 0 ≤ ping.data.latency ↔ ping.answer ≠ none) →
      ((pings.map Ping.data).map (·.latency)).filter (fun latency => ¬ latency < 0) = pings.filterMap (·.answer) := by
    intro pings hn
    induction pings with
    | nil => rfl
    | cons ping pings ih =>
      obtain ⟨hn, hns⟩ := List.forall_mem_cons.mp hn
      have ih := ih hns
      cases ha : ping.answer with
      | none =>
        have hl : ¬ 0 ≤ ping.data.latency := fun hl => hn.mp hl ha
        simpa [ha, not_le.mp hl] using ih
      | some m =>
        have hl : 0 ≤ ping.data.latency := hn.mpr (by simp [ha])
        have hm : ping.data.latency = m := by simp [Ping.data, ha]
        rw [hm] at hl
        rw [List.map_cons, List.map_cons, hm, List.filter_cons_of_pos (by simpa using hl), List.filterMap_cons_some ha, ih]
  rw [List.map_append, List.filter_append, he _ fun ping hp => hi.latency_neg hp] at hp
  simpa [History.measured] using hp

lemma Inv.mem_measured (hi : Inv s h) {m : ℤ} (hm : m ∈ h.measured) : 0 ≤ m ∧ m < UINT_MAX := by
  obtain ⟨ping, hp, ha⟩ := List.mem_filterMap.mp hm
  exact hi.answers ping (mem_of_mem_recent hp) m ha

/-- A rounded mean lies between the bounds of what it is taken of. -/
lemma mean_bounds {l : List ℤ} {lo hi : ℤ} (hn : l ≠ []) (hl : ∀ m ∈ l, lo ≤ m ∧ m ≤ hi) :
    lo ≤ (l.sum + (l.length / 2 : ℕ)) / l.length ∧ (l.sum + (l.length / 2 : ℕ)) / l.length ≤ hi := by
  have h0 : (0 : ℤ) < l.length := by exact_mod_cast List.length_pos_iff.mpr hn
  have hlo := List.card_nsmul_le_sum l lo fun m hm => (hl m hm).1
  have hhi := List.sum_le_card_nsmul l hi fun m hm => (hl m hm).2
  rw [nsmul_eq_mul] at hlo hhi
  constructor
  · rw [Int.le_ediv_iff_mul_le h0, mul_comm]
    omega
  · rw [← Int.lt_add_one_iff, Int.ediv_lt_iff_lt_mul h0, add_mul, one_mul, mul_comm]
    omega

lemma Inv.latency_bounds (hi : Inv s h) (hn : h.measured ≠ []) {lo up : ℤ}
    (hb : ∀ m ∈ h.measured, lo ≤ m ∧ m ≤ up) : lo ≤ s.latency ∧ s.latency ≤ up := by
  have hp := hi.latencies
  have hz : h.measured.length ≠ 0 := fun hz => hn (List.length_eq_zero_iff.mp hz)
  have hr := mean_bounds hn fun m hm => ⟨(hi.mem_measured hm).1, Int.le_sub_one_of_lt (hi.mem_measured hm).2⟩
  have hm : (h.measured.sum + (h.measured.length / 2 : ℕ)) / h.measured.length % 2 ^ 32 =
      (h.measured.sum + (h.measured.length / 2 : ℕ)) / h.measured.length := by
    apply Int.emod_eq_of_lt hr.1
    rw [UINT_MAX] at hr
    omega
  have hl : (s.latency : ℤ) = (h.measured.sum + (h.measured.length / 2 : ℕ)) / h.measured.length := by
    rw [latency]
    simp only [hp.length_eq, hp.sum_eq, hm, if_neg hz]
    exact Int.toNat_of_nonneg hr.1
  rw [hl]
  exact mean_bounds hn hb

/-- The step of the loop of `maximum`. -/
def maxStep (maxRtt : ℕ) (data : PingSendData) : ℕ :=
  if data.latency < 0 then maxRtt
  else if (maxRtt : ℤ) < data.latency ∧ data.latency < UINT_MAX then data.latency.toNat
  else maxRtt

lemma le_maxStep (maxRtt : ℕ) (data : PingSendData) : maxRtt ≤ maxStep maxRtt data := by
  rw [maxStep]
  split_ifs with h0 h1
  · exact le_rfl
  · omega
  · exact le_rfl

lemma le_foldl_maxStep (slots : List PingSendData) (maxRtt : ℕ) : maxRtt ≤ slots.foldl maxStep maxRtt := by
  induction slots generalizing maxRtt with
  | nil => exact le_rfl
  | cons data slots ih => exact (le_maxStep maxRtt data).trans (ih _)

lemma latency_le_foldl {slots : List PingSendData} {data : PingSendData} (maxRtt : ℕ) (hd : data ∈ slots)
    (h0 : 0 ≤ data.latency) (h1 : data.latency < UINT_MAX) : data.latency ≤ slots.foldl maxStep maxRtt := by
  induction slots generalizing maxRtt with
  | nil => cases hd
  | cons other slots ih =>
    rw [List.foldl_cons]
    rcases List.mem_cons.mp hd with rfl | hd
    · have hs : data.latency ≤ maxStep maxRtt data := by
        rw [maxStep, if_neg (not_lt.mpr h0)]
        split_ifs with h
        · exact Int.self_le_toNat _
        · exact not_lt.mp fun hlt => h ⟨hlt, h1⟩
      have hf := le_foldl_maxStep slots (maxStep maxRtt data)
      omega
    · exact ih _ hd

lemma foldl_maxStep_le {slots : List PingSendData} {up : ℤ} {maxRtt : ℕ}
    (hd : ∀ data ∈ slots, 0 ≤ data.latency → data.latency ≤ up) (hm : maxRtt ≤ up) :
    slots.foldl maxStep maxRtt ≤ up := by
  induction slots generalizing maxRtt with
  | nil => exact hm
  | cons data slots ih =>
    obtain ⟨hd, hds⟩ := List.forall_mem_cons.mp hd
    rw [List.foldl_cons]
    apply ih hds
    rw [maxStep]
    split_ifs with h0 h1
    · exact hm
    · rw [Int.toNat_of_nonneg (not_lt.mp h0)]
      exact hd (not_lt.mp h0)
    · exact hm

lemma Inv.maximum_bounds (hi : Inv s h) (hn : h.measured ≠ []) {lo up : ℤ}
    (hb : ∀ m ∈ h.measured, lo ≤ m ∧ m ≤ up) : lo ≤ s.maximum ∧ s.maximum ≤ up := by
  have hmem : ∀ m, (∃ data ∈ s.pingData, 0 ≤ data.latency ∧ data.latency = m) ↔ m ∈ h.measured := by
    intro m
    rw [← hi.latencies.mem_iff]
    simp only [List.mem_filter, List.mem_map, decide_eq_true_eq, not_lt]
    constructor
    · rintro ⟨data, hd, h0, rfl⟩
      exact ⟨⟨data, hd, rfl⟩, h0⟩
    · rintro ⟨⟨data, hd, rfl⟩, h0⟩
      exact ⟨data, hd, h0, rfl⟩
  obtain ⟨m, hm⟩ := List.exists_mem_of_ne_nil _ hn
  obtain ⟨data, hd, h0, rfl⟩ := (hmem m).mpr hm
  constructor
  · exact (hb _ hm).1.trans (latency_le_foldl 0 hd h0 (hi.mem_measured hm).2)
  · apply foldl_maxStep_le
    · intro other ho h0
      exact (hb _ ((hmem _).mp ⟨other, ho, h0, rfl⟩)).2
    · exact h0.trans (hb _ hm).2

end Statistics

lemma Inv.correct (hi : Inv s h) : Correct s h := by
  constructor
  case slots =>
    intro i j ping hj hij hk
    have hl : h.pings.length ≤ j + PING_STATS_WINDOW := by
      by_contra hl
      apply hk (j + PING_STATS_WINDOW) (Nat.lt_add_of_pos_right (by decide)) (by omega)
      rw [Nat.add_mod_right, hij]
    rw [← hij, hi.slot hj hl]
    rfl
  case loss => exact fun now => ⟨hi.loss now, hi.loss_le now⟩
  case latency => exact fun hn lo up hb => hi.latency_bounds hn hb
  case maximum => exact fun hn lo up hb => hi.maximum_bounds hn hb

/-- In a run whose replies and pings meet the conditions, each reply counts for the ping that it answers, and the
statistics are those of the last pings. -/
theorem correct_of_meets (clock : ℤ) (events : List Event)
    (hm : Runs.Meets (Runs.watch step observe) (fun p e => p.2.Timely e ∧ p.2.Fits e) ({}, { clock }) events) :
    Runs.Meets (Runs.watch step observe) (fun p e => Replied p.1 p.2 e) ({}, { clock }) events ∧
      Correct (Runs.run (Runs.watch step observe) ({}, { clock }) events).1
        (Runs.run (Runs.watch step observe) ({}, { clock }) events).2 := by
  have hp : ∀ (p : PingHelper × History) (e : Event), Inv p.1 p.2 → p.2.Timely e ∧ p.2.Fits e →
      Inv (Runs.watch step observe p e).1 (Runs.watch step observe p e).2 := fun p e hi hc => hi.step hc.1 hc.2
  constructor
  · exact hm.along hp (fun p e hi hc => hi.replied hc.1 hc.2) (inv_start clock)
  · exact (hm.invariant hp (inv_start clock)).correct

theorem correct_one_ping :
    Runs.Meets (Runs.watch step observe) (fun p e => Replied p.1 p.2 e) ({}, { clock := 0 })
      [.start, .timeout 1, .recvPing 0 5] ∧
      Correct (Runs.run (Runs.watch step observe) ({}, { clock := 0 }) [.start, .timeout 1, .recvPing 0 5]).1
        (Runs.run (Runs.watch step observe) ({}, { clock := 0 }) [.start, .timeout 1, .recvPing 0 5]).2 := by
  apply correct_of_meets 0 [.start, .timeout 1, .recvPing 0 5]
  refine ⟨⟨trivial, trivial⟩, ⟨(by decide : (0 : ℤ) ≤ 1), (by decide : (0 : ℤ) < 1)⟩,
    ⟨(by decide : (1 : ℤ) ≤ 5), ?_, ?_⟩, trivial⟩
  · intro h
    cases h
  · intro ping hp _
    obtain rfl := List.mem_singleton.mp hp
    decide

theorem not_replied_before_ping :
    ¬ Replied (Runs.run step {} [.start]) { clock := 1 } (.recvPing 0 1) := by
  rintro (h | ⟨ping, hp, -⟩)
  · revert h
    decide
  · cases hp

end VpnClient.Client.PingHelper
