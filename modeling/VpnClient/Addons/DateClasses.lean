import VpnClient.Library.Calendar

/-! How the date of a message is shown, and when it has to be shown anew. Moments are local times in milliseconds since
the start of 1970, with days of 86400 seconds. -/

namespace VpnClient.Addons

open Library.Calendar

/-- The number of the day in the calendar, whose day 0 is the first one of the year 1. -/
def date (moment : ℤ) : ℤ := moment / 86400000 + 719162

/-- The milliseconds since midnight. -/
def time (moment : ℤ) : ℤ := moment % 86400000

def secsTo (moment other : ℤ) : ℤ := (other - moment).tdiv 1000

/-- Monday is 1. -/
def dayOfWeek (day : ℤ) : ℤ := day % 7 + 1

inductive FormattedDate where
  | time (time : ℤ)
  | yesterday
  | dayName (dayOfWeek : ℤ)
  | date (date : ℤ)
  deriving DecidableEq

/-- The test for yesterday, which compares days of the year. -/
def LooksYesterday (nowDate messageDate : ℤ) : Prop :=
  dayOfYear messageDate = dayOfYear nowDate - 1 ∨
    (dayOfYear nowDate = 1 ∧ dayOfYear messageDate = daysInYear messageDate)

instance (nowDate messageDate : ℤ) : Decidable (LooksYesterday nowDate messageDate) :=
  inferInstanceAs (Decidable (_ ∨ _))

def Localizer.formatDate (now message : ℤ) : FormattedDate :=
  let diff := secsTo message now
  if diff < 0 then .time (time now)
  else if diff < 86400 ∧ time message ≤ time now then .time (time message)
  else if LooksYesterday (date now) (date message) then .yesterday
  else if date message ≥ date now + -6 then .dayName (dayOfWeek (date message))
  else .date (date message)

namespace AddonMessage

/-- The seconds from a time of the day to its midnight, without the milliseconds. -/
def secsToMidnight (time : ℤ) : ℤ := 0 - time / 1000

def planDateRetranslationInternal (now message : ℤ) : ℤ :=
  let diff := secsTo message now
  let secs :=
    if diff < 0 then some (secsToMidnight (time now))
    else if diff < 86400 ∧ time message ≤ time now then some (secsToMidnight (time message))
    else if diff < 86400 then some (secsToMidnight (time message))
    else none
  match secs with
  | none => -1
  | some secs => if secs > 0 then secs else 86400 + secs

/-- The interval of the timer that is started for a date in seconds; `offset` is that of the local time. -/
def planDateRetranslation (offset now messageDate : ℤ) : Option ℤ :=
  if messageDate = 0 then none
  else
    let time := planDateRetranslationInternal (now + offset) (messageDate * 1000 + offset)
    if time = -1 then none else some ((1 + time) * 1000)

end AddonMessage

end VpnClient.Addons

/-! Where the class of a shown date is that of the calendar, and where it lasts until it is shown anew. -/

namespace VpnClient.Addons

open Library.Calendar AddonMessage

inductive DateClass where
  | timeOfDay
  | yesterday
  | weekday
  | fullDate
  deriving DecidableEq

def FormattedDate.toClass : FormattedDate → DateClass
  | .time _ => .timeOfDay
  | .yesterday => .yesterday
  | .dayName _ => .weekday
  | .date _ => .fullDate

/-- The class that a message has by the calendar, when it is not later than now. -/
def calendarClass (now message : ℤ) : DateClass :=
  if date message = date now then .timeOfDay
  else if date message = date now - 1 then .yesterday
  else if date now - 6 ≤ date message then .weekday
  else .fullDate

def shownClass (now message : ℤ) : DateClass := (Localizer.formatDate now message).toClass

def nextMidnight (now : ℤ) : ℤ := (now / 86400000 + 1) * 86400000

/-- The message comes exactly at the next midnight, or two seconds after it and later, or it is of yesterday and its
time of the day is at least a second ahead. -/
def Settled (now message : ℤ) : Prop :=
  message = nextMidnight now ∧ now + 1000 ≤ message ∨ nextMidnight now + 1999 + now % 1000 ≤ message ∨
    date message = date now - 1 ∧ time now + 1000 ≤ time message / 1000 * 1000

variable {now message later day : ℤ}

section Seconds

lemma secsTo_neg_iff : secsTo message now < 0 ↔ now + 1000 ≤ message := by
  rw [secsTo, Int.tdiv_eq_ediv]
  split_ifs with h
  · omega
  · rw [Int.sign_eq_one_of_pos (by norm_num)]
    omega

lemma secsTo_lt_iff : secsTo message now < 86400 ↔ now - message < 86400000 := by
  rw [secsTo, Int.tdiv_eq_ediv]
  split_ifs with h
  · omega
  · rw [Int.sign_eq_one_of_pos (by norm_num)]
    omega

/-- A message that is not later is of today if and only if it passes the test for today. -/
lemma today_iff (hm : message ≤ now) :
    now - message < 86400000 ∧ time message ≤ time now ↔ date message = date now := by
  rw [time, time, date, date]
  omega

end Seconds

section Years

lemma looksYesterday_of_yesterday (h : date message = date now - 1) : LooksYesterday (date now) (date message) := by
  have hn : date now = date message + 1 := by omega
  rw [LooksYesterday, hn]
  rcases succ_cases (date message) with ⟨h1, -⟩ | ⟨h1, h2⟩
  · left
    omega
  · right
    exact ⟨h1, h2⟩

lemma not_looksYesterday_add_two (day : ℤ) : ¬ LooksYesterday (day + 1 + 1) day := by
  have h1 := one_le_dayOfYear day
  have hb := daysInYear_bounds day
  have hb' := daysInYear_bounds (day + 1)
  rw [LooksYesterday]
  rcases succ_cases day with ⟨hd, hy⟩ | ⟨hd, hy⟩ <;> rcases succ_cases (day + 1) with ⟨he, -⟩ | ⟨he, hz⟩ <;> omega

/-- Each message looks like one of yesterday on some later day, and does not on another one. -/
lemma exists_looksYesterday (bound : ℤ) (day : ℤ) : ∃ later, bound < later ∧ LooksYesterday later day := by
  have h1 := one_le_dayOfYear day
  have hle := dayOfYear_le day
  have hb := daysInYear_bounds day
  by_cases hl : dayOfYear day = daysInYear day
  · obtain ⟨later, hlt, hn⟩ := exists_day bound (n := 1) (by norm_num) (by norm_num)
    exact ⟨later, hlt, Or.inr ⟨hn, hl⟩⟩
  · obtain ⟨later, hlt, hn⟩ := exists_day bound (n := dayOfYear day + 1) (by omega) (by omega)
    refine ⟨later, hlt, Or.inl ?_⟩
    omega

lemma exists_not_looksYesterday (bound : ℤ) (day : ℤ) : ∃ later, bound < later ∧ ¬ LooksYesterday later day := by
  have h1 := one_le_dayOfYear day
  by_cases hd : dayOfYear day = 1
  · obtain ⟨later, hlt, hn⟩ := exists_day bound (n := 3) (by norm_num) (by norm_num)
    refine ⟨later, hlt, ?_⟩
    rw [LooksYesterday, hn]
    omega
  · obtain ⟨later, hlt, hn⟩ := exists_day bound (n := 2) (by norm_num) (by norm_num)
    refine ⟨later, hlt, ?_⟩
    rw [LooksYesterday, hn]
    omega

end Years

section Classes

lemma shownClass_eq (now message : ℤ) : shownClass now message =
    if now + 1000 ≤ message then .timeOfDay
    else if now - message < 86400000 ∧ time message ≤ time now then .timeOfDay
    else if LooksYesterday (date now) (date message) then .yesterday
    else if date now - 6 ≤ date message then .weekday
    else .fullDate := by
  rw [shownClass, Localizer.formatDate]
  simp only [secsTo_neg_iff, secsTo_lt_iff, ge_iff_le, ← sub_eq_add_neg]
  split_ifs <;> rfl

lemma shownClass_eq_timeOfDay_iff : shownClass now message = .timeOfDay ↔
    now + 1000 ≤ message ∨ now - message < 86400000 ∧ time message ≤ time now := by
  rw [shownClass_eq]
  split_ifs with h1 h2 <;> simp [*]

/-- The class of a message of the past. -/
lemma shownClass_past (hm : message ≤ now) : shownClass now message =
    if date message = date now then .timeOfDay
    else if LooksYesterday (date now) (date message) then .yesterday
    else if date now - 6 ≤ date message then .weekday
    else .fullDate := by
  rw [shownClass_eq, if_neg (by omega)]
  simp only [today_iff hm]

lemma shownClass_eq_calendarClass_iff (hm : message ≤ now) : shownClass now message = calendarClass now message ↔
    (date message < date now - 1 → ¬ LooksYesterday (date now) (date message)) := by
  have hd : date message ≤ date now := by
    rw [date, date]
    omega
  rw [shownClass_past hm, calendarClass]
  by_cases h0 : date message = date now
  · rw [if_pos h0, if_pos h0]
    simp [h0]
  · rw [if_neg h0, if_neg h0]
    by_cases h1 : date message = date now - 1
    · rw [if_pos (looksYesterday_of_yesterday h1), if_pos h1]
      simp [h1]
    · rw [if_neg h1]
      have hlt : date message < date now - 1 := by omega
      by_cases hy : LooksYesterday (date now) (date message)
      · rw [if_pos hy]
        split_ifs <;> simp [hlt, hy]
      · rw [if_neg hy]
        simp [hy]

end Classes

section Plans

lemma plan_future (h : now + 1000 ≤ message) : planDateRetranslationInternal now message = 86400 - time now / 1000 := by
  have hs : secsTo message now < 0 := secsTo_neg_iff.mpr h
  have ht : ¬ secsToMidnight (time now) > 0 := by
    rw [secsToMidnight, time]
    omega
  rw [planDateRetranslationInternal]
  simp only [hs, if_true, if_neg ht]
  rw [secsToMidnight]
  ring

lemma plan_recent (h : ¬ now + 1000 ≤ message) (hd : now - message < 86400000) :
    planDateRetranslationInternal now message = 86400 - time message / 1000 := by
  have hs : ¬ secsTo message now < 0 := mt secsTo_neg_iff.mp h
  have hl : secsTo message now < 86400 := secsTo_lt_iff.mpr hd
  have ht : ¬ secsToMidnight (time message) > 0 := by
    rw [secsToMidnight, time]
    omega
  rw [planDateRetranslationInternal]
  simp only [if_neg hs, hl, if_true, true_and, ite_self, if_neg ht]
  rw [secsToMidnight]
  ring

lemma plan_old (hd : ¬ now - message < 86400000) : planDateRetranslationInternal now message = -1 := by
  have hs : ¬ secsTo message now < 0 := by
    rw [secsTo_neg_iff]
    omega
  have hl : ¬ secsTo message now < 86400 := mt secsTo_lt_iff.mp hd
  rw [planDateRetranslationInternal]
  simp only [if_neg hs, hl, false_and, if_false]

lemma plan_nonneg_iff : 0 ≤ planDateRetranslationInternal now message ↔ now - message < 86400000 := by
  constructor
  · intro hp
    by_contra hd
    rw [plan_old hd] at hp
    omega
  · intro hd
    by_cases h : now + 1000 ≤ message
    · rw [plan_future h, time]
      omega
    · rw [plan_recent h hd, time]
      omega

/-- The class that is shown lasts until the date is shown anew. -/
def Lasts (now message : ℤ) : Prop :=
  ∀ later, now ≤ later → later < now + 1000 * (planDateRetranslationInternal now message + 1) →
    shownClass later message = shownClass now message

lemma lasts_future_iff (h : now + 1000 ≤ message) : Lasts now message ↔ Settled now message := by
  have hn : shownClass now message = .timeOfDay := shownClass_eq_timeOfDay_iff.mpr (Or.inl h)
  rw [Lasts, plan_future h, hn]
  constructor
  · intro hl
    by_contra hs
    rw [Settled, nextMidnight] at hs
    rcases lt_or_ge message (nextMidnight now) with hm | hm
    · have ht := hl (message - 1) (by omega) (by rw [nextMidnight] at hm; rw [time]; omega)
      rw [shownClass_eq_timeOfDay_iff, time, time] at ht
      rw [nextMidnight] at hm
      omega
    · have ht := hl (max (nextMidnight now) (message - 999)) (by omega) (by rw [nextMidnight] at hm ⊢; rw [time]; omega)
      rw [shownClass_eq_timeOfDay_iff, time, time] at ht
      rw [nextMidnight] at hm ht
      omega
  · intro hs later hnow hstop
    rw [shownClass_eq_timeOfDay_iff, time, time]
    rw [Settled, nextMidnight, date, date] at hs
    rw [time] at hstop
    omega

lemma date_nextMidnight (now : ℤ) : date (nextMidnight now) = date now + 1 := by
  rw [date, nextMidnight, date]
  omega

lemma shownClass_ne_timeOfDay (hm : message ≤ now) (hd : date message ≠ date now) :
    shownClass now message ≠ .timeOfDay := by
  rw [Ne, shownClass_eq_timeOfDay_iff, today_iff hm]
  omega

/-- A message of today is shown anew too late, since it is of yesterday from the next midnight on. -/
lemma not_lasts_today (hm : message ≤ now) (hd : date message = date now) : ¬ Lasts now message := by
  intro hl
  have hp : planDateRetranslationInternal now message = 86400 - time message / 1000 :=
    plan_recent (by omega) ((today_iff hm).mpr hd).1
  have hle : now < nextMidnight now := by
    rw [nextMidnight]
    omega
  have hstop : nextMidnight now < now + 1000 * (planDateRetranslationInternal now message + 1) := by
    rw [hp, nextMidnight, time]
    rw [date, date] at hd
    omega
  have ht := hl (nextMidnight now) hle.le hstop
  rw [shownClass_past hm, if_pos hd] at ht
  exact shownClass_ne_timeOfDay (hm.trans hle.le) (by rw [date_nextMidnight]; omega) ht

/-- A message that comes in less than a second is not of today yet. -/
lemma not_lasts_soon (h : ¬ now + 1000 ≤ message) (hm : now < message) : ¬ Lasts now message := by
  intro hl
  have hp : planDateRetranslationInternal now message = 86400 - time message / 1000 := plan_recent h (by omega)
  by_cases hd : date message = date now
  · have ht := hl message hm.le (by rw [hp, time]; omega)
    rw [shownClass_past le_rfl, if_pos rfl, eq_comm, shownClass_eq_timeOfDay_iff, time, time] at ht
    rw [date, date] at hd
    omega
  · have hn : shownClass now message = .timeOfDay := by
      rw [shownClass_eq_timeOfDay_iff, time, time]
      rw [date, date] at hd
      omega
    have ht := hl (message / 86400000 * 86400000 + 86400000) (by omega)
      (by rw [hp, time]; rw [date, date] at hd; omega)
    rw [hn] at ht
    exact shownClass_ne_timeOfDay (by omega) (by rw [date, date]; omega) ht

lemma lasts_yesterday_iff (hd : date message = date now - 1) (hr : now - message < 86400000) :
    Lasts now message ↔ time now + 1000 ≤ time message / 1000 * 1000 := by
  have hm : message ≤ now := by
    rw [date, date] at hd
    omega
  have hn : shownClass now message = .yesterday := by
    rw [shownClass_past hm, if_neg (by omega), if_pos (looksYesterday_of_yesterday hd)]
  rw [Lasts, plan_recent (by omega) hr, hn]
  constructor
  · intro hl
    by_contra ht
    have hle : now < nextMidnight now := by
      rw [nextMidnight]
      omega
    have hy := hl (nextMidnight now) hle.le (by rw [nextMidnight]; rw [time, time] at ht; rw [date, date] at hd; rw [time]; omega)
    have h2 : date (nextMidnight now) = date message + 1 + 1 := by
      rw [date_nextMidnight]
      omega
    rw [shownClass_past (hm.trans hle.le), h2, if_neg (by omega), if_neg (not_looksYesterday_add_two _),
      if_pos (by omega)] at hy
    cases hy
  · intro ht later hnow hstop
    have hdl : date message = date later - 1 := by
      rw [date, date] at hd ⊢
      rw [time, time] at ht
      rw [time] at hstop
      omega
    rw [shownClass_past (hm.trans hnow), if_neg (by omega), if_pos (looksYesterday_of_yesterday hdl)]

lemma lasts_iff_settled (hr : now - message < 86400000) : Lasts now message ↔ Settled now message := by
  by_cases h : now + 1000 ≤ message
  · exact lasts_future_iff h
  · have hs : Settled now message ↔ date message = date now - 1 ∧ time now + 1000 ≤ time message / 1000 * 1000 := by
      rw [Settled, nextMidnight]
      constructor
      · intro hs
        rcases hs with hs | hs | hs
        · exact absurd hs.2 h
        · omega
        · exact hs
      · exact fun hs => Or.inr (Or.inr hs)
    rw [hs]
    rcases lt_or_ge now message with hm | hm
    · apply iff_of_false (not_lasts_soon h hm)
      rintro ⟨hd, -⟩
      rw [date, date] at hd
      omega
    · by_cases hd : date message = date now - 1
      · rw [lasts_yesterday_iff hd hr]
        exact (and_iff_right hd).symm
      · have h0 : date message = date now := by
          rw [date, date] at hd ⊢
          omega
        apply iff_of_false (not_lasts_today hm h0)
        exact fun hs => hd hs.1

/-- Of a message that is not planned to be shown anew, the class changes later. -/
lemma exists_later_class (hd : ¬ now - message < 86400000) :
    ∃ later, now ≤ later ∧ shownClass later message ≠ shownClass now message := by
  have hm : message ≤ now := by omega
  have hdate : date message ≤ date now := by
    rw [date, date]
    omega
  have hback : ∀ day, date ((day - 719162) * 86400000) = day := by
    intro day
    rw [date]
    omega
  have hlate : ∀ day, date now < day → now ≤ (day - 719162) * 86400000 := by
    intro day h
    rw [date] at h
    omega
  obtain ⟨day, hday, hy⟩ := exists_looksYesterday (date now) (date message)
  obtain ⟨other, hother, hn⟩ := exists_not_looksYesterday (date now + 6) (date message)
  have hyes : shownClass ((day - 719162) * 86400000) message = .yesterday := by
    rw [shownClass_past (hm.trans (hlate day hday)), hback, if_neg (by omega), if_pos hy]
  have hfull : shownClass ((other - 719162) * 86400000) message = .fullDate := by
    rw [shownClass_past (hm.trans (hlate other (by omega))), hback, if_neg (by omega), if_neg hn, if_neg (by omega)]
  by_cases hc : shownClass now message = .yesterday
  · refine ⟨_, hlate other (by omega), ?_⟩
    rw [hfull, hc]
    decide
  · refine ⟨_, hlate day hday, ?_⟩
    rw [hyes]
    exact Ne.symm hc

end Plans

/-- The class that is shown is that of the calendar unless the message looks like one of yesterday and is older; it
lasts until the planned moment only for settled messages; and it changes when nothing is planned. -/
theorem shownClass_iff (now message : ℤ) :
    (message ≤ now → (shownClass now message = calendarClass now message ↔
      (date message < date now - 1 → ¬ LooksYesterday (date now) (date message)))) ∧
    (0 ≤ planDateRetranslationInternal now message →
      ((∀ later, now ≤ later → later < now + 1000 * (planDateRetranslationInternal now message + 1) →
        shownClass later message = shownClass now message) ↔ Settled now message)) ∧
    (planDateRetranslationInternal now message = -1 →
      ¬ ∀ later, now ≤ later → shownClass later message = shownClass now message) := by
  refine ⟨shownClass_eq_calendarClass_iff, fun hp => lasts_iff_settled (plan_nonneg_iff.mp hp), ?_⟩
  intro hp hl
  have hd : ¬ now - message < 86400000 := by
    rw [← plan_nonneg_iff, hp]
    norm_num
  obtain ⟨later, hle, hne⟩ := exists_later_class hd
  exact hne (hl later hle)

/-- An hour after midnight, a message of an hour before midnight is planned to be shown anew while it is of yesterday. -/
theorem lasts_two_hours : ∀ later, 90000000 ≤ later →
    later < 90000000 + 1000 * (planDateRetranslationInternal 90000000 82800000 + 1) →
      shownClass later 82800000 = shownClass 90000000 82800000 :=
  ((shownClass_iff 90000000 82800000).2.1 (by decide)).mpr (Or.inr (Or.inr ⟨by decide, by decide⟩))

/-- On the second of March, a message of the first of March of the year before. -/
theorem not_calendarClass_year_before :
    ¬ shownClass (19418 * 86400000) (19052 * 86400000) = calendarClass (19418 * 86400000) (19052 * 86400000) := by
  decide +kernel

end VpnClient.Addons
