import VpnClient.Ipc.Message

/-! The subscription of the user, as it is read from JSON. -/

namespace VpnClient.Models

open Ipc

/-- How documents, 64-bit numbers and upper case are read. -/
structure SubscriptionDocuments where
  fromJson : Bytes → Option JsonObject
  toLongLong : JsonValue → ℤ
  toUpper : String → String
  inProduction : Bool

inductive TypeSubscription where
  | SubscriptionApple
  | SubscriptionGoogle
  | SubscriptionWeb
  | SubscriptionUnknown
  deriving DecidableEq

inductive TypeStatus where
  | Active
  | Inactive
  deriving DecidableEq

inductive TypeBillingInterval where
  | BillingIntervalMonthly
  | BillingIntervalHalfYearly
  | BillingIntervalYearly
  | BillingIntervalUnknown
  deriving DecidableEq

structure SubscriptionData where
  rawJson : Bytes := []
  type : TypeSubscription := .SubscriptionUnknown
  status : TypeStatus := .Inactive
  createdAt : ℤ := 0
  expiresOn : ℤ := 0
  isCancelled : Bool := false
  planBillingInterval : TypeBillingInterval := .BillingIntervalUnknown
  planAmount : ℤ := 0
  planCurrency : String := ""
  planRequiresTax : Bool := false
  paymentProvider : String := ""
  creditCardBrand : String := ""
  creditCardLast4 : String := ""
  creditCardExpMonth : ℤ := 0
  creditCardExpYear : ℤ := 0
  deriving DecidableEq

/-- A number of 64 bits without a sign. -/
def toQuint64 (n : ℤ) : ℤ := n % 2 ^ 64

/-- A number of 32 bits with a sign. -/
def toInt32 (n : ℤ) : ℤ := (n + 2 ^ 31) % 2 ^ 32 - 2 ^ 31

def entry (obj : JsonObject) (name : String) : JsonValue := (obj.value name).getD .null

def entryInt (obj : JsonObject) (name : String) : ℤ := (entry obj name).toInt

def entryString (obj : JsonObject) (name : String) : String := (entry obj name).string?.getD ""

def entryBool (obj : JsonObject) (name : String) : Bool := (entry obj name).bool?.getD false

def entryObject (obj : JsonObject) (name : String) : JsonObject := (entry obj name).object?.getD []

namespace SubscriptionData

variable (documents : SubscriptionDocuments)

/-- All fields are reset. -/
def resetData (_ : SubscriptionData) : SubscriptionData := {}

def parseSubscriptionDataIap (now : ℤ) (subscriptionData : JsonObject) (m : SubscriptionData) :
    Bool × SubscriptionData :=
  let m := { m with expiresOn := toQuint64 (documents.toLongLong (entry subscriptionData "expiry_time_millis")) }
  if m.expiresOn = 0 then (false, m)
  else
    let m := { m with isCancelled := !entryBool subscriptionData "auto_renewing" }
    (true, { m with status := if toQuint64 now ≤ m.expiresOn then .Active else .Inactive })

def parseSubscriptionDataWeb (subscriptionData : JsonObject) (m : SubscriptionData) : Bool × SubscriptionData :=
  let m := { m with createdAt := toQuint64 (documents.toLongLong (entry subscriptionData "created") * 1000) }
  if m.createdAt = 0 then (false, m)
  else
    let m :=
      { m with expiresOn := toQuint64 (documents.toLongLong (entry subscriptionData "current_period_end") * 1000) }
    if m.expiresOn = 0 then (false, m)
    else
      let m := { m with isCancelled := entryBool subscriptionData "cancel_at_period_end" }
      let subscriptionStatus := entryString subscriptionData "status"
      if subscriptionStatus = "" then (false, m)
      else
        (true, { m with
          status := if subscriptionStatus = "active" ∨ subscriptionStatus = "trialing" then .Active else .Inactive })

/-- The number of months of an interval. -/
def intervalMonths (planInterval : String) : Option ℤ :=
  if planInterval = "year" then some 12
  else if planInterval = "month" then some 1
  else if (planInterval = "week" ∨ planInterval = "day") ∧ ¬ documents.inProduction then some 1
  else none

def billingInterval (planIntervalMonthsTotal : ℤ) : Option TypeBillingInterval :=
  if planIntervalMonthsTotal = 1 then some .BillingIntervalMonthly
  else if planIntervalMonthsTotal = 6 then some .BillingIntervalHalfYearly
  else if planIntervalMonthsTotal = 12 then some .BillingIntervalYearly
  else none

/-- The part of `fromJsonInternal` that reads the payment. -/
def parsePayment (paymentData : JsonObject) (m : SubscriptionData) : Bool × SubscriptionData :=
  if ¬ paymentData.isEmpty ∧ m.type = .SubscriptionWeb then
    let m := { m with paymentProvider := entryString paymentData "payment_provider" }
    if m.paymentProvider = "" then (false, m)
    else if m.paymentProvider = "stripe" then
      (true, { m with
        creditCardBrand := entryString paymentData "brand"
        creditCardLast4 := entryString paymentData "last4"
        creditCardExpMonth := entryInt paymentData "exp_month"
        creditCardExpYear := entryInt paymentData "exp_year" })
    else (true, m)
  else (true, m)

/-- The part of `fromJsonInternal` that reads the plan and the payment. -/
def parsePlan (obj : JsonObject) (m : SubscriptionData) : Bool × SubscriptionData :=
  let planData := entryObject obj "plan"
  let m := { m with planAmount := entryInt planData "amount" }
  if m.planAmount = 0 then (false, m)
  else
    match intervalMonths documents (entryString planData "interval") with
    | none => (false, m)
    | some planIntervalMonths =>
      let planIntervalCount := entryInt planData "interval_count"
      if planIntervalCount = 0 then (false, m)
      else
        match billingInterval (toInt32 (planIntervalMonths * planIntervalCount)) with
        | none => (false, m)
        | some interval =>
          let m :=
            { m with
              planBillingInterval := interval
              planCurrency := documents.toUpper (entryString planData "currency") }
          if m.planCurrency = "" then (false, m)
          else
            parsePayment (entryObject obj "payment")
              { m with planRequiresTax := m.planCurrency ∈ ["USD", "CAD"] }

def fromJsonInternal (now : ℤ) (json : Bytes) (m : SubscriptionData) : Bool × SubscriptionData :=
  let m := m.resetData
  match documents.fromJson json with
  | none => (false, m)
  | some obj =>
    let subscriptionData := entryObject obj "subscription"
    let type := entryString subscriptionData "_subscription_type"
    if type = "" then (false, m)
    else if type = "web" then
      let parsed := parseSubscriptionDataWeb documents subscriptionData { m with type := .SubscriptionWeb }
      if parsed.1 then parsePlan documents obj parsed.2 else (false, parsed.2)
    else if type = "iap_apple" then
      let parsed := parseSubscriptionDataIap documents now subscriptionData { m with type := .SubscriptionApple }
      if parsed.1 then (true, parsed.2) else (false, parsed.2)
    else if type = "iap_google" then
      let parsed := parseSubscriptionDataIap documents now subscriptionData { m with type := .SubscriptionGoogle }
      if parsed.1 then parsePlan documents obj parsed.2 else (false, parsed.2)
    else (false, m)

/-- The result, the data, and whether `changed` is emitted. -/
def fromJson (now : ℤ) (json : Bytes) (m : SubscriptionData) : Bool × SubscriptionData × Bool :=
  if json ≠ [] ∧ m.rawJson = json then (true, m, false)
  else
    let parsed := m.fromJsonInternal documents now json
    if parsed.1 then (true, { parsed.2 with rawJson := json }, true) else (false, parsed.2, false)

/-- The result, the data, and whether `initialized` is emitted. -/
def fromSettings (now : ℤ) (json : Bytes) (m : SubscriptionData) : Bool × SubscriptionData × Bool :=
  if json = [] then (false, m, false)
  else
    let parsed := m.fromJsonInternal documents now json
    if parsed.1 then (true, { parsed.2 with rawJson := json }, true) else (false, parsed.2, false)

inductive Event where
  | fromJson (now : ℤ) (json : Bytes)
  | fromSettings (now : ℤ) (json : Bytes)
  | resetData

def step (m : SubscriptionData) : Event → SubscriptionData
  | .fromJson now json => (m.fromJson documents now json).2.1
  | .fromSettings now json => (m.fromSettings documents now json).2.1
  | .resetData => m.resetData

end SubscriptionData

end VpnClient.Models
