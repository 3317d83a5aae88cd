import VpnClient.Models.SubscriptionData

/-! A refused document leaves the data as they were or blank, an accepted one gives them its own values. -/

namespace VpnClient.Models.SubscriptionData

open Ipc

variable (documents : SubscriptionDocuments)

def subscription (obj : JsonObject) : JsonObject := entryObject obj "subscription"

def plan (obj : JsonObject) : JsonObject := entryObject obj "plan"

def payment (obj : JsonObject) : JsonObject := entryObject obj "payment"

def subscriptionType (obj : JsonObject) : String := entryString (subscription obj) "_subscription_type"

/-- The milliseconds at which a subscription of the web was created. -/
def creation (obj : JsonObject) : ℤ := documents.toLongLong (entry (subscription obj) "created") * 1000

/-- The milliseconds at which a subscription expires. -/
def expiry (obj : JsonObject) : ℤ :=
  if subscriptionType obj = "web" then documents.toLongLong (entry (subscription obj) "current_period_end") * 1000
  else documents.toLongLong (entry (subscription obj) "expiry_time_millis")

/-- The months between two payments. -/
def HasMonths (obj : JsonObject) (months : ℤ) : Prop :=
  ∃ interval, intervalMonths documents (entryString (plan obj) "interval") = some interval ∧
    interval * entryInt (plan obj) "interval_count" = months

structure RightInterval (obj : JsonObject) (interval : TypeBillingInterval) : Prop where
  monthly : interval = .BillingIntervalMonthly ↔ HasMonths documents obj 1
  halfYearly : interval = .BillingIntervalHalfYearly ↔ HasMonths documents obj 6
  yearly : interval = .BillingIntervalYearly ↔ HasMonths documents obj 12

structure Right (obj : JsonObject) (data : SubscriptionData) : Prop where
  interval : RightInterval documents obj data.planBillingInterval
  expiresOn : data.expiresOn = expiry documents obj
  createdAt : data.type = .SubscriptionWeb → data.createdAt = creation documents obj

/-- What is asked of a call of `fromJson`. -/
structure Correct (m : SubscriptionData) (now : ℤ) (json : Bytes) : Prop where
  refused : (m.fromJson documents now json).1 = false →
    (m.fromJson documents now json).2.1 = m ∨ (m.fromJson documents now json).2.1 = m.resetData
  accepted : (m.fromJson documents now json).1 = true →
    (m.fromJson documents now json).2.1.type ∈ [TypeSubscription.SubscriptionWeb, .SubscriptionGoogle] →
      ∃ obj, documents.fromJson json = some obj ∧ Right documents obj (m.fromJson documents now json).2.1

def Recognized (obj : JsonObject) : Prop := subscriptionType obj ∈ ["web", "iap_apple", "iap_google"]

/-- A positive number of 64 bits. -/
def Fits (n : ℤ) : Prop := 0 < n ∧ n < 2 ^ 64

structure PlanComplete (obj : JsonObject) : Prop where
  amount : entryInt (plan obj) "amount" ≠ 0
  months : HasMonths documents obj 1 ∨ HasMonths documents obj 6 ∨ HasMonths documents obj 12
  currency : documents.toUpper (entryString (plan obj) "currency") ≠ ""

structure WebComplete (obj : JsonObject) : Prop where
  creation : Fits (creation documents obj)
  status : entryString (subscription obj) "status" ≠ ""
  paymentProvider : payment obj ≠ [] → entryString (payment obj) "payment_provider" ≠ ""

/-- A document with all that its kind of subscription needs, and with no number that is too large. -/
def Complete (obj : JsonObject) : Prop :=
  if subscriptionType obj = "iap_apple" then ¬ 2 ^ 64 ∣ expiry documents obj
  else Fits (expiry documents obj) ∧ PlanComplete documents obj ∧
    (subscriptionType obj = "web" → WebComplete documents obj)

/-- No document of a known type is incomplete. -/
def Meets (json : Bytes) : Prop :=
  ∀ obj, documents.fromJson json = some obj → Recognized obj → Complete documents obj

section Values

variable {documents} {obj : JsonObject} {m : SubscriptionData}

lemma toQuint64_eq_zero {n : ℤ} : toQuint64 n = 0 ↔ 2 ^ 64 ∣ n := by
  rw [toQuint64, Int.dvd_iff_emod_eq_zero]

lemma toQuint64_fits {n : ℤ} : toQuint64 n ≠ 0 ∧ toQuint64 n = n ↔ Fits n := by
  simp only [toQuint64, Fits]
  omega

lemma toInt32_eq (n : ℤ) : toInt32 n = (n + 2 ^ 31) % 2 ^ 32 - 2 ^ 31 := rfl

lemma billingInterval_right {months count : ℤ} {interval : TypeBillingInterval}
    (hm : intervalMonths documents (entryString (plan obj) "interval") = some months)
    (hc : entryInt (plan obj) "interval_count" = count)
    (hi : billingInterval (toInt32 (months * count)) = some interval) :
    RightInterval documents obj interval ↔
      HasMonths documents obj 1 ∨ HasMonths documents obj 6 ∨ HasMonths documents obj 12 := by
  have h (n : ℤ) : HasMonths documents obj n ↔ months * count = n := by simp [HasMonths, hm, hc]
  have hr : RightInterval documents obj interval ↔
      (interval = .BillingIntervalMonthly ↔ months * count = 1) ∧
      (interval = .BillingIntervalHalfYearly ↔ months * count = 6) ∧
      (interval = .BillingIntervalYearly ↔ months * count = 12) := by
    rw [← h, ← h, ← h]
    exact ⟨fun h => ⟨h.1, h.2, h.3⟩, fun h => ⟨h.1, h.2.1, h.2.2⟩⟩
  have ht := toInt32_eq (months * count)
  rw [hr, h, h, h]
  rw [billingInterval] at hi
  split_ifs at hi <;> cases hi <;> simp only [reduceCtorEq, true_iff, false_iff] <;> omega

lemma billingInterval_none {months count : ℤ}
    (hm : intervalMonths documents (entryString (plan obj) "interval") = some months)
    (hc : entryInt (plan obj) "interval_count" = count) (hi : billingInterval (toInt32 (months * count)) = none) :
    ¬ (HasMonths documents obj 1 ∨ HasMonths documents obj 6 ∨ HasMonths documents obj 12) := by
  have h (n : ℤ) : HasMonths documents obj n ↔ months * count = n := by simp [HasMonths, hm, hc]
  have ht := toInt32_eq (months * count)
  rw [h, h, h]
  rw [billingInterval] at hi
  split_ifs at hi
  omega

/-- The fields that are read before the plan. -/
structure SameBefore (m data : SubscriptionData) : Prop where
  rawJson : data.rawJson = m.rawJson
  type : data.type = m.type
  createdAt : data.createdAt = m.createdAt
  expiresOn : data.expiresOn = m.expiresOn

lemma SameBefore.trans {data after : SubscriptionData} (h : SameBefore m data) (h' : SameBefore data after) :
    SameBefore m after :=
  ⟨h'.rawJson.trans h.rawJson, h'.type.trans h.type, h'.createdAt.trans h.createdAt, h'.expiresOn.trans h.expiresOn⟩

lemma parsePayment_same (paymentData : JsonObject) :
    SameBefore m (parsePayment paymentData m).2 ∧
      (parsePayment paymentData m).2.planBillingInterval = m.planBillingInterval := by
  rw [parsePayment]
  dsimp only
  split_ifs <;> exact ⟨⟨rfl, rfl, rfl, rfl⟩, rfl⟩

lemma parsePayment_iff (paymentData : JsonObject) :
    (parsePayment paymentData m).1 = true ↔
      (m.type = .SubscriptionWeb → paymentData ≠ [] → entryString paymentData "payment_provider" ≠ "") := by
  rw [parsePayment]
  dsimp only
  split_ifs with h he hs
  case pos => simpa [he] using h.symm
  case pos => simp [he]
  case neg => simp [he]
  case neg =>
    have h : m.type = .SubscriptionWeb → paymentData = [] := by simpa [imp_not_comm] using h
    simpa using fun ht hp => absurd (h ht) hp

lemma entryObject_plan : entryObject obj "plan" = plan obj := rfl

lemma entryObject_payment : entryObject obj "payment" = payment obj := rfl

variable (documents obj m)

/-- Either a part of the plan is missing, or the payment is read after it. -/
lemma parsePlan_cases :
    (∃ data, parsePlan documents obj m = (false, data) ∧ SameBefore m data ∧ ¬ PlanComplete documents obj) ∨
    ∃ data, parsePlan documents obj m = parsePayment (payment obj) data ∧ SameBefore m data ∧
      (RightInterval documents obj data.planBillingInterval ↔ PlanComplete documents obj) := by
  rw [parsePlan]
  simp only [entryObject_plan, entryObject_payment]
  by_cases ha : entryInt (plan obj) "amount" = 0
  case pos =>
    simp only [ha, ↓reduceIte]
    exact .inl ⟨_, rfl, ⟨rfl, rfl, rfl, rfl⟩, fun h => h.amount ha⟩
  simp only [ha, ↓reduceIte]
  cases hm : intervalMonths documents (entryString (plan obj) "interval") with
  | none => exact .inl ⟨_, rfl, ⟨rfl, rfl, rfl, rfl⟩, fun h => by simpa [HasMonths, hm] using h.months⟩
  | some months =>
    dsimp only
    by_cases hc : entryInt (plan obj) "interval_count" = 0
    case pos =>
      simp only [hc, ↓reduceIte]
      exact .inl ⟨_, rfl, ⟨rfl, rfl, rfl, rfl⟩, fun h => by simpa [HasMonths, hc] using h.months⟩
    simp only [hc, ↓reduceIte]
    cases hi : billingInterval (toInt32 (months * entryInt (plan obj) "interval_count")) with
    | none => exact .inl ⟨_, rfl, ⟨rfl, rfl, rfl, rfl⟩, fun h => billingInterval_none hm rfl hi h.months⟩
    | some interval =>
      dsimp only
      by_cases hu : documents.toUpper (entryString (plan obj) "currency") = ""
      case pos =>
        simp only [hu, ↓reduceIte]
        exact .inl ⟨_, rfl, ⟨rfl, rfl, rfl, rfl⟩, fun h => h.currency hu⟩
      simp only [hu, ↓reduceIte]
      refine .inr ⟨_, rfl, ⟨rfl, rfl, rfl, rfl⟩, ?_⟩
      rw [billingInterval_right hm rfl hi]
      exact ⟨fun h => ⟨ha, h, hu⟩, fun h => h.months⟩

lemma parsePlan_same : SameBefore m (parsePlan documents obj m).2 := by
  obtain ⟨data, h, hs, -⟩ | ⟨data, h, hs, -⟩ := parsePlan_cases documents obj m
  · rw [h]
    exact hs
  · rw [h]
    exact hs.trans (parsePayment_same _).1

/-- A plan is read right if and only if it is complete. -/
lemma parsePlan_iff :
    (parsePlan documents obj m).1 = true ∧
        RightInterval documents obj (parsePlan documents obj m).2.planBillingInterval ↔
      PlanComplete documents obj ∧ (m.type = .SubscriptionWeb →
        payment obj ≠ [] → entryString (payment obj) "payment_provider" ≠ "") := by
  obtain ⟨data, h, -, hn⟩ | ⟨data, h, hs, hr⟩ := parsePlan_cases documents obj m
  · simp [h, hn]
  · rw [h, parsePayment_iff, (parsePayment_same _).2, hr, hs.type]
    exact and_comm

lemma parseSubscriptionDataIap_iff (now : ℤ) (subscriptionData : JsonObject) :
    (parseSubscriptionDataIap documents now subscriptionData m).1 = true ↔
      ¬ 2 ^ 64 ∣ documents.toLongLong (entry subscriptionData "expiry_time_millis") := by
  rw [parseSubscriptionDataIap, ← toQuint64_eq_zero]
  dsimp only
  split_ifs with h <;> simp [h]

lemma parseSubscriptionDataIap_fields (now : ℤ) (subscriptionData : JsonObject) :
    (parseSubscriptionDataIap documents now subscriptionData m).2.rawJson = m.rawJson ∧
      (parseSubscriptionDataIap documents now subscriptionData m).2.type = m.type ∧
      (parseSubscriptionDataIap documents now subscriptionData m).2.expiresOn =
        toQuint64 (documents.toLongLong (entry subscriptionData "expiry_time_millis")) := by
  rw [parseSubscriptionDataIap]
  dsimp only
  split_ifs <;> exact ⟨rfl, rfl, rfl⟩

lemma parseSubscriptionDataWeb_same (subscriptionData : JsonObject) :
    (parseSubscriptionDataWeb documents subscriptionData m).2.rawJson = m.rawJson ∧
      (parseSubscriptionDataWeb documents subscriptionData m).2.type = m.type := by
  rw [parseSubscriptionDataWeb]
  dsimp only
  split_ifs <;> exact ⟨rfl, rfl⟩

lemma parseSubscriptionDataWeb_iff (hw : subscriptionType obj = "web") :
    (parseSubscriptionDataWeb documents (subscription obj) m).1 = true ∧
        (parseSubscriptionDataWeb documents (subscription obj) m).2.expiresOn = expiry documents obj ∧
        (parseSubscriptionDataWeb documents (subscription obj) m).2.createdAt = creation documents obj ↔
      Fits (expiry documents obj) ∧ Fits (creation documents obj) ∧ entryString (subscription obj) "status" ≠ "" := by
  have he : expiry documents obj = documents.toLongLong (entry (subscription obj) "current_period_end") * 1000 :=
    if_pos hw
  rw [← toQuint64_fits, ← toQuint64_fits, parseSubscriptionDataWeb, ← he, ← creation]
  by_cases hc : toQuint64 (creation documents obj) = 0
  case pos => simp [hc]
  by_cases hx : toQuint64 (expiry documents obj) = 0
  case pos => simp [hc, hx]
  by_cases ht : entryString (subscription obj) "status" = ""
  case pos => simp [hc, hx, ht]
  simp [hc, hx, ht]

variable {documents obj m}

variable (documents obj) in
/-- What is left of blank data by a document of a known type. -/
structure Parsed (parsed : Bool × SubscriptionData) : Prop where
  rawJson : parsed.2.rawJson = []
  type : parsed.2.type ≠ .SubscriptionUnknown
  right : parsed.1 = true ∧ (parsed.2.type ≠ .SubscriptionApple → Right documents obj parsed.2) ↔
    Complete documents obj

lemma right_iff {data : SubscriptionData} :
    Right documents obj data ↔ RightInterval documents obj data.planBillingInterval ∧
      data.expiresOn = expiry documents obj ∧
      (data.type = .SubscriptionWeb → data.createdAt = creation documents obj) :=
  ⟨fun h => ⟨h.1, h.2, h.3⟩, fun h => ⟨h.1, h.2.1, h.2.2⟩⟩

/-- The plan is read after the fields of a subscription that is not of Apple. -/
lemma parsed_plan {parsed : Bool × SubscriptionData} (hn : subscriptionType obj ≠ "iap_apple")
    (hraw : parsed.2.rawJson = [])
    (ht : parsed.2.type = if subscriptionType obj = "web" then .SubscriptionWeb else .SubscriptionGoogle)
    (hp : parsed.1 = true ∧ parsed.2.expiresOn = expiry documents obj ∧
        (subscriptionType obj = "web" → parsed.2.createdAt = creation documents obj) ↔
      Fits (expiry documents obj) ∧ (subscriptionType obj = "web" →
        Fits (creation documents obj) ∧ entryString (subscription obj) "status" ≠ "")) :
    Parsed documents obj (if parsed.1 then parsePlan documents obj parsed.2 else (false, parsed.2)) := by
  have hw : parsed.2.type = .SubscriptionWeb ↔ subscriptionType obj = "web" := by
    rw [ht]
    split_ifs with h <;> simp [h]
  have ha : parsed.2.type ≠ .SubscriptionApple ∧ parsed.2.type ≠ .SubscriptionUnknown := by
    rw [ht]
    split_ifs <;> simp
  have hc : Complete documents obj ↔ (Fits (expiry documents obj) ∧ (subscriptionType obj = "web" →
      Fits (creation documents obj) ∧ entryString (subscription obj) "status" ≠ "")) ∧
      PlanComplete documents obj ∧ (subscriptionType obj = "web" →
        payment obj ≠ [] → entryString (payment obj) "payment_provider" ≠ "") := by
    have hweb : WebComplete documents obj ↔ Fits (creation documents obj) ∧
        entryString (subscription obj) "status" ≠ "" ∧
        (payment obj ≠ [] → entryString (payment obj) "payment_provider" ≠ "") :=
      ⟨fun h => ⟨h.1, h.2, h.3⟩, fun h => ⟨h.1, h.2.1, h.2.2⟩⟩
    rw [Complete, if_neg hn, hweb]
    constructor
    case mp =>
      intro h
      exact ⟨⟨h.1, fun hw => ⟨(h.2.2 hw).1, (h.2.2 hw).2.1⟩⟩, h.2.1, fun hw => (h.2.2 hw).2.2⟩
    case mpr =>
      intro h
      exact ⟨h.1.1, h.2.1, fun hw => ⟨(h.1.2 hw).1, (h.1.2 hw).2, h.2.2 hw⟩⟩
  cases hb : parsed.1 with
  | false =>
    rw [if_neg (by simp)]
    refine ⟨hraw, ha.2, ?_⟩
    rw [hc, ← hp, hb]
    simp
  | true =>
    have hs := parsePlan_same documents obj parsed.2
    rw [if_pos rfl]
    refine ⟨hs.rawJson.trans hraw, hs.type.trans_ne ha.2, ?_⟩
    have hplan := parsePlan_iff documents obj parsed.2
    rw [hw] at hplan
    rw [hc, ← hp, ← hplan, right_iff, hs.type, hs.expiresOn, hs.createdAt, hw]
    simp only [hb, ne_eq, ha.1, not_false_eq_true, true_imp_iff, true_and]
    exact ⟨fun h => ⟨h.2.2, h.1, h.2.1⟩, fun h => ⟨h.2.1, h.2.2, h.1⟩⟩

lemma parsed_web (hw : subscriptionType obj = "web") :
    Parsed documents obj
      (if (parseSubscriptionDataWeb documents (subscription obj) { type := .SubscriptionWeb }).1 then
        parsePlan documents obj (parseSubscriptionDataWeb documents (subscription obj) { type := .SubscriptionWeb }).2
      else (false, (parseSubscriptionDataWeb documents (subscription obj) { type := .SubscriptionWeb }).2)) := by
  have hs := parseSubscriptionDataWeb_same documents { type := .SubscriptionWeb } (subscription obj)
  apply parsed_plan (by simp [hw]) hs.1
  · rw [hs.2, if_pos hw]
  · rw [forall_prop_of_true hw, forall_prop_of_true hw]
    exact parseSubscriptionDataWeb_iff documents obj { type := .SubscriptionWeb } hw

lemma parsed_google {now : ℤ} (hg : subscriptionType obj = "iap_google") :
    Parsed documents obj
      (if (parseSubscriptionDataIap documents now (subscription obj) { type := .SubscriptionGoogle }).1 then
        parsePlan documents obj
          (parseSubscriptionDataIap documents now (subscription obj) { type := .SubscriptionGoogle }).2
      else (false, (parseSubscriptionDataIap documents now (subscription obj) { type := .SubscriptionGoogle }).2)) := by
  have hw : subscriptionType obj ≠ "web" := by simp [hg]
  have he : expiry documents obj = documents.toLongLong (entry (subscription obj) "expiry_time_millis") := if_neg hw
  have hs := parseSubscriptionDataIap_fields documents { type := .SubscriptionGoogle } now (subscription obj)
  apply parsed_plan (by simp [hg]) hs.1
  · rw [hs.2.1, if_neg hw]
  · rw [forall_prop_of_false hw, forall_prop_of_false hw, parseSubscriptionDataIap_iff, hs.2.2, ← he,
      ← toQuint64_eq_zero, ← toQuint64_fits, and_true, and_true]

lemma parsed_apple {now : ℤ} (ha : subscriptionType obj = "iap_apple") :
    Parsed documents obj (parseSubscriptionDataIap documents now (subscription obj) { type := .SubscriptionApple }) := by
  have he : expiry documents obj = documents.toLongLong (entry (subscription obj) "expiry_time_millis") :=
    if_neg (by simp [ha])
  have hs := parseSubscriptionDataIap_fields documents { type := .SubscriptionApple } now (subscription obj)
  refine ⟨hs.1, by simp [hs.2.1], ?_⟩
  rw [Complete, if_pos ha, he, parseSubscriptionDataIap_iff, hs.2.1]
  simp

lemma ite_fst_eq_self (parsed : Bool × SubscriptionData) :
    (if parsed.1 then (true, parsed.2) else (false, parsed.2)) = parsed := by
  rcases parsed with ⟨_ | _, _⟩ <;> rfl

lemma fromJsonInternal_parsed (m : SubscriptionData) (now : ℤ) {json : Bytes} (hd : documents.fromJson json = some obj)
    (hr : Recognized obj) : Parsed documents obj (m.fromJsonInternal documents now json) := by
  rw [Recognized] at hr
  rw [fromJsonInternal, hd]
  change Parsed documents obj (if subscriptionType obj = "" then _ else if subscriptionType obj = "web" then _
    else if subscriptionType obj = "iap_apple" then _ else if subscriptionType obj = "iap_google" then _ else _)
  simp only [List.mem_cons, List.not_mem_nil, or_false] at hr
  rcases hr with h | h | h
  · rw [if_neg (by simp [h]), if_pos h]
    exact parsed_web h
  · rw [if_neg (by simp [h]), if_neg (by simp [h]), if_pos h]
    rw [ite_fst_eq_self]
    exact parsed_apple h
  · rw [if_neg (by simp [h]), if_neg (by simp [h]), if_neg (by simp [h]), if_pos h]
    exact parsed_google h

lemma fromJsonInternal_unrecognized (m : SubscriptionData) (now : ℤ) {json : Bytes}
    (h : ∀ obj, documents.fromJson json = some obj → ¬ Recognized obj) :
    m.fromJsonInternal documents now json = (false, {}) := by
  rw [fromJsonInternal]
  cases hd : documents.fromJson json with
  | none => rfl
  | some obj =>
    have hn := h obj hd
    simp only [Recognized, List.mem_cons, List.not_mem_nil, or_false, not_or] at hn
    change (if subscriptionType obj = "" then _ else if subscriptionType obj = "web" then _
      else if subscriptionType obj = "iap_apple" then _ else if subscriptionType obj = "iap_google" then _ else _) = _
    rw [if_neg hn.1, if_neg hn.2.1, if_neg hn.2.2, ite_self]
    rfl

variable (documents) in
lemma fromJsonInternal_rawJson (m : SubscriptionData) (now : ℤ) (json : Bytes) :
    (m.fromJsonInternal documents now json).2.rawJson = [] := by
  by_cases h : ∃ obj, documents.fromJson json = some obj ∧ Recognized obj
  · obtain ⟨obj, hd, hr⟩ := h
    exact (fromJsonInternal_parsed m now hd hr).rawJson
  · rw [fromJsonInternal_unrecognized m now fun obj hd hr => h ⟨obj, hd, hr⟩]

end Values

section Runs

variable {documents} {m : SubscriptionData} {now : ℤ} {json : Bytes}

variable (documents) in
/-- Data that hold a document have been read from it. -/
def Kept (m : SubscriptionData) : Prop :=
  m.rawJson ≠ [] → ∃ now, m.fromJsonInternal documents now m.rawJson = (true, { m with rawJson := [] })

variable (documents) in
def run (m : SubscriptionData) (events : List Event) : SubscriptionData := events.foldl (step documents) m

lemma kept_parsed (hp : (m.fromJsonInternal documents now json).1 = true) :
    Kept documents { (m.fromJsonInternal documents now json).2 with rawJson := json } := by
  intro _
  use now
  have hr := m.fromJsonInternal_rawJson documents now json
  change m.fromJsonInternal documents now json = _
  exact Prod.ext hp (by rw [← hr])

lemma kept_of_rawJson (h : m.rawJson = []) : Kept documents m := fun hn => absurd h hn

lemma Kept.step (h : Kept documents m) (event : Event) : Kept documents (m.step documents event) := by
  cases event with
  | fromJson now json =>
    rw [SubscriptionData.step, SubscriptionData.fromJson]
    dsimp only
    split_ifs with he hp
    · exact h
    · exact kept_parsed hp
    · exact kept_of_rawJson (m.fromJsonInternal_rawJson documents now json)
  | fromSettings now json =>
    rw [SubscriptionData.step, SubscriptionData.fromSettings]
    dsimp only
    split_ifs with he hp
    · exact h
    · exact kept_parsed hp
    · exact kept_of_rawJson (m.fromJsonInternal_rawJson documents now json)
  | resetData => exact kept_of_rawJson rfl

lemma Kept.run (h : Kept documents m) (events : List Event) : Kept documents (m.run documents events) := by
  induction events generalizing m with
  | nil => exact h
  | cons event events ih => exact ih (h.step event)

/-- Data of a document that was refused. -/
def Leftover (m : SubscriptionData) : Prop := m.rawJson = [] ∧ m ≠ {}

lemma meets_iff {obj : JsonObject} (hd : documents.fromJson json = some obj) (hr : Recognized obj) :
    Meets documents json ↔ Complete documents obj := by
  constructor
  case mp =>
    intro h
    exact h obj hd hr
  case mpr =>
    intro h obj' hd' _
    rwa [← Option.some.inj (hd.symm.trans hd')]

lemma meets_of_unrecognized (h : ¬ ∃ obj, documents.fromJson json = some obj ∧ Recognized obj) :
    Meets documents json := fun obj hd hr => absurd ⟨obj, hd, hr⟩ h

lemma correct_accepted {obj : JsonObject} {data : SubscriptionData} {changed : Bool}
    (hf : m.fromJson documents now json = (true, data, changed)) (hd : documents.fromJson json = some obj)
    (ht : data.type ≠ .SubscriptionUnknown) :
    Correct documents m now json ↔ (data.type ≠ .SubscriptionApple → Right documents obj data) := by
  have hm : data.type ∈ [TypeSubscription.SubscriptionWeb, .SubscriptionGoogle] ↔ data.type ≠ .SubscriptionApple := by
    cases h : data.type with
    | SubscriptionUnknown => exact absurd h ht
    | _ => simp
  constructor
  case mp =>
    intro h ha
    have hr := h.accepted
    rw [hf] at hr
    obtain ⟨obj', hd', hr⟩ := hr rfl (hm.mpr ha)
    rwa [Option.some.inj (hd.symm.trans hd')]
  case mpr =>
    intro h
    constructor
    case refused =>
      intro hn
      simp [hf] at hn
    case accepted =>
      intro _ ha
      rw [hf] at ha ⊢
      exact ⟨obj, hd, h (hm.mp ha)⟩

lemma right_rawJson {obj : JsonObject} (bytes : Bytes) :
    Right documents obj { m with rawJson := bytes } ↔ Right documents obj m := by
  rw [right_iff, right_iff]

variable (now) in
lemma correct_unchanged (hk : Kept documents m) (hj : json ≠ []) (he : m.rawJson = json) :
    Correct documents m now json ↔ Meets documents json := by
  obtain ⟨before, hp⟩ := hk (he ▸ hj)
  rw [he] at hp
  by_cases h : ∃ obj, documents.fromJson json = some obj ∧ Recognized obj
  case neg =>
    have hn := fromJsonInternal_unrecognized m before fun obj hd hr => h ⟨obj, hd, hr⟩
    simp [hp] at hn
  case pos =>
    obtain ⟨obj, hd, hr⟩ := h
    have hs := fromJsonInternal_parsed m before hd hr
    rw [hp] at hs
    have hf : m.fromJson documents now json = (true, m, false) := if_pos ⟨hj, he⟩
    rw [meets_iff hd hr, ← hs.right, right_rawJson, correct_accepted hf hd hs.type]
    simp

lemma correct_changed (hn : ¬ (json ≠ [] ∧ m.rawJson = json)) :
    (Meets documents json → Correct documents m now json) ∧
      (Correct documents m now json → ¬ Leftover m → Meets documents json) := by
  have hf : m.fromJson documents now json =
      if (m.fromJsonInternal documents now json).1 then
        (true, { (m.fromJsonInternal documents now json).2 with rawJson := json }, true)
      else (false, (m.fromJsonInternal documents now json).2, false) := if_neg hn
  by_cases h : ∃ obj, documents.fromJson json = some obj ∧ Recognized obj
  case neg =>
    have hu := fromJsonInternal_unrecognized m now fun obj hd hr => h ⟨obj, hd, hr⟩
    rw [hu, if_neg (by simp)] at hf
    refine ⟨fun _ => ⟨fun _ => ?_, fun ht => ?_⟩, fun _ _ => meets_of_unrecognized h⟩
    · rw [hf]
      exact Or.inr rfl
    · simp [hf] at ht
  case pos =>
    obtain ⟨obj, hd, hr⟩ := h
    have hs := fromJsonInternal_parsed m now hd hr
    rw [meets_iff hd hr, ← hs.right]
    cases hp : (m.fromJsonInternal documents now json).1 with
    | true =>
      rw [if_pos hp] at hf
      have hc := correct_accepted hf hd hs.type
      rw [right_rawJson] at hc
      exact ⟨fun h => hc.mpr h.2, fun h _ => ⟨rfl, hc.mp h⟩⟩
    | false =>
      rw [if_neg (by simp [hp])] at hf
      refine ⟨fun h => absurd h.1 (by simp), fun h hl => ?_⟩
      have hrefused := h.refused
      rw [hf] at hrefused
      rcases hrefused rfl with hm | hm
      · dsimp only at hm
        apply absurd _ hl
        rw [Leftover, ← hm]
        exact ⟨hs.rawJson, fun h => hs.type (by rw [h])⟩
      · exact absurd (congrArg SubscriptionData.type hm) hs.type

end Runs

/-- In every state that is reached, a call does what is asked of it if its document is not an incomplete one of a known
type, and otherwise at most in a state that a refused document left. -/
theorem correct_iff_meets (events : List Event) (now : ℤ) (json : Bytes) :
    (Meets documents json → Correct documents (run documents {} events) now json) ∧
      (Correct documents (run documents {} events) now json → ¬ Leftover (run documents {} events) →
        Meets documents json) := by
  have hk : Kept documents (run documents {} events) := (kept_of_rawJson rfl).run events
  by_cases hn : json ≠ [] ∧ (run documents {} events).rawJson = json
  · have hc := correct_unchanged now hk hn.1 hn.2
    exact ⟨hc.mpr, fun h _ => hc.mp h⟩
  · exact correct_changed hn

/-- A subscription of the web with its type only. -/
def typeOnly : Bytes := "\x7b\"subscription\":\x7b\"_subscription_type\":\"web\"\x7d\x7d".toUTF8.toList

def oneSubscription : SubscriptionDocuments where
  fromJson json :=
    if json = typeOnly then some [("subscription", .object [("_subscription_type", .string "web")])] else none
  toLongLong := JsonValue.toInt
  toUpper currency := currency.toUpper
  inProduction := true

/-- The type stays, although all the other fields are blank. -/
theorem not_correct_type_only : ¬ Correct oneSubscription {} 0 typeOnly := by
  intro h
  have hf : fromJson oneSubscription 0 typeOnly {} = (false, { type := .SubscriptionWeb }, false) := by
    rw [fromJson, if_neg (fun hn => hn.1 hn.2.symm), fromJsonInternal]
    simp only [oneSubscription, ↓reduceIte]
    rfl
  have hr := h.refused
  rw [hf] at hr
  rcases hr rfl with hm | hm <;> exact absurd (congrArg SubscriptionData.type hm) (by decide)

end VpnClient.Models.SubscriptionData
