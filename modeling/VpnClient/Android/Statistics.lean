import VpnClient.Android.FallbackDns

/-! The statistics of a running tunnel: the document that the service reads them from, and what the app is told. -/

namespace VpnClient.Android.Statistics

open Ipc (JsonValue JsonObject)
open Backend Library.Results JsonConfig AndroidController
open BoundService hiding activate

/-- The config that WireGuard prints for a handle, and the digits that Java knows. -/
structure Runtime where
  wgGetConfig : ℤ → Option (List Char)
  digit : Char → Option ℕ

variable (libs : Libraries) (runtime : Runtime)

def inputError (text : List Char) : Option String := some ("For input string: \"" ++ String.ofList text ++ "\"")

def digits (text : List Char) (sign : ℤ) (cs : List Char) : Read ℤ :=
  match cs.mapM runtime.digit with
  | none | some [] => .error (inputError text)
  | some ds =>
    let value := sign * (ds.foldl (fun value d => 10 * value + d) 0 : ℕ)
    if -2 ^ 31 ≤ value ∧ value < 2 ^ 31 then .ok value else .error (inputError text)

/-- A sign and at least one digit, within 32 bits. -/
def toInt (text : List Char) : Read ℤ :=
  match text with
  | '-' :: cs => digits runtime text (-1) cs
  | '+' :: cs => digits runtime text 1 cs
  | cs => digits runtime text 1 cs

/-- The first line that starts with the key, of which the last part is read. -/
def getConfigValue (key : List Char) (s : BoundService) : Option (List Char) :=
  if !s.isUp then none
  else
    (runtime.wgGetConfig s.currentTunnelHandle).bind fun config =>
      (((config.splitOn '\n').map fun line => line.splitOn '=').find? fun parts => parts.head? == some key).bind
        List.getLast?

def counter (key : List Char) (s : BoundService) : Read (Option ℤ) :=
  match getConfigValue runtime key s with
  | none => .ok none
  | some text => (toInt runtime text).map some

/-- A field of an object in the config, or nothing without a config. -/
def configField (object field : String) (s : BoundService) : Read (Option String) :=
  match s.mConfig with
  | none => .ok none
  | some config => do
    let object ← getJSONObject libs config object
    let value ← getString libs object field
    return some value

def putOpt (name : String) (value : Option JsonValue) (obj : JsonObject) : JsonObject :=
  match value with
  | none => obj
  | some value => obj.insert name value

/-- The document of the event, or the exception that `requestStatistic` does not catch. -/
def status (s : BoundService) : Read JsonObject := do
  let rxBytes ← counter runtime "rx_bytes".toList s
  let txBytes ← counter runtime "tx_bytes".toList s
  let endpoint ← configField libs "server" "ipv4Gateway" s
  let deviceIpv4 ← configField libs "device" "ipv4Address" s
  return putOpt "deviceIpv4" (deviceIpv4.map .string) <| putOpt "endpoint" (endpoint.map .string) <|
    putOpt "tx_bytes" (txBytes.map fun value => .double value) <|
      putOpt "rx_bytes" (rxBytes.map fun value => .double value) []

structure StatusUpdated where
  serverIpv4Gateway : String
  deviceIpv4Address : String
  txBytes : ℤ
  rxBytes : ℤ
  deriving DecidableEq, Repr

def toString (value : Option JsonValue) : String := (value.bind JsonValue.string?).getD ""

def toInt32 (value : Option JsonValue) : ℤ := (value.map JsonValue.toInt).getD 0

def eventStatisticUpdate (doc : JsonObject) : StatusUpdated where
  serverIpv4Gateway := toString (doc.value "endpoint")
  deviceIpv4Address := toString (doc.value "deviceIpv4")
  txBytes := toInt32 (doc.value "tx_bytes")
  rxBytes := toInt32 (doc.value "rx_bytes")

/-- The request is answered, and the app is told the gateway of the server in use, the address of the device and the
counters of the tunnel. -/
def Told (config : InterfaceConfig) (c : ActivationContext) (txBytes rxBytes : ℕ) (s : BoundService) : Prop :=
  ∃ doc gw, status libs runtime s = .ok doc ∧ gateway config c s.currentServerConfig = some gw ∧
    eventStatisticUpdate doc = ⟨gw, config.deviceIpv4Address, txBytes, rxBytes⟩

/-- The service after an activation whose tunnel is up, and after the switches to other servers of the config. -/
inductive Active (json : JsonObject) : BoundService → Prop
  | activated {s : BoundService} {t : Transaction} (h : t.config s = some json) (hu : Up json (transact libs s t).2) :
      Active json (transact libs s t).2
  | silentServerSwitch {s : BoundService} (answers : SystemAnswers) (h : Active json s) :
      Active json (s.reconnect libs true none answers).2

variable {libs runtime} {s : BoundService} {t : Transaction} {json jServer : JsonObject} {answers : SystemAnswers}
  {useFallbackServer isDaemonChangingServers : Bool} {wgConfig : String}

/-- The config is stored, or stays as it is while no tunnel starts. -/
def Stores (json : JsonObject) (s t : BoundService) : Prop :=
  t.mConfig = some json ∨ t.mConfig = s.mConfig ∧ (t.started = true → s.started = true)

lemma Stores.refl : Stores json s s := Or.inr ⟨rfl, id⟩

lemma mConfig_recordSession :
    (s.recordSession libs json jServer isDaemonChangingServers answers).2.mConfig = some json := by
  rw [recordSession]
  dsimp only
  split
  · rfl
  · split
    · split <;> rfl
    · rfl

lemma stores_replaceTunnel :
    Stores json s (s.replaceTunnel libs json jServer wgConfig isDaemonChangingServers answers).2 := by
  rw [replaceTunnel]
  generalize hg : (if s.currentTunnelHandle ≠ -1 then s.wgTurnOff s.currentTunnelHandle else s) = closed
  have hc : closed.mConfig = s.mConfig ∧ (closed.started = true → s.started = true) := by
    rw [← hg, wgTurnOff]
    split_ifs
    · exact ⟨rfl, False.elim⟩
    · exact ⟨rfl, id⟩
    · exact ⟨rfl, id⟩
  rw [currentTunnelHandle_set]
  by_cases hl : answers.wgTurnOn < 0
  · rw [if_pos hl, wgTurnOn, if_pos hl, setCurrentTunnelHandle, if_neg (by omega)]
    exact Or.inr hc
  · rw [if_neg hl]
    exact Or.inl mConfig_recordSession

lemma stores_establish :
    Stores json s (s.establish libs json jServer wgConfig isDaemonChangingServers answers).2 := by
  rw [establish]
  split
  · exact Stores.refl
  · split
    · exact Stores.refl
    · split
      · exact Stores.refl
      · split
        · exact Stores.refl
        · split
          · exact Stores.refl
          · split
            · exact Stores.refl
            · exact stores_replaceTunnel

lemma stores_turnOn :
    Stores json s (s.turnOn libs json useFallbackServer isDaemonChangingServers answers).2 := by
  rw [turnOn]
  split
  · exact Stores.refl
  · dsimp only
    split
    · exact Stores.refl
    · split
      · exact Stores.refl
      · split
        · exact Stores.refl
        · exact (stores_establish : Stores json { s with currentServerConfig := _, mCityname := _ } _)

lemma stores_reportException {called : Result × BoundService} (h : Stores json s called.2) :
    Stores json s (reportException called).2 := by
  rw [reportException]
  split <;> exact h

lemma stores_reconnect {forceFallBack : Bool} {source : Option String} (h : s.storedConfig = some json) :
    Stores json s (s.reconnect libs forceFallBack source answers).2 := by
  rw [reconnect, h]
  dsimp only
  split
  · exact stores_turnOn
  · split_ifs <;> exact stores_turnOn

lemma stores_transact (h : t.config s = some json) :
    Stores json { s with events := [], started := false } (transact libs s t).2 := by
  cases t with
  | activate config permission answers =>
    obtain rfl : config = json := Option.some.inj h
    rw [transact, BoundService.activate]
    apply stores_reportException
    dsimp only
    split
    · exact Stores.refl
    · exact stores_turnOn
  | resumeActivate answers =>
    replace h : s.mResumeConfig = some json := h
    rw [transact, resumeActivate, h]
    exact stores_reportException stores_turnOn
  | reactivate answers =>
    rw [transact, reactivate]
    apply stores_reportException
    exact stores_reconnect h

lemma Active.mConfig (h : Active libs json s) : s.mConfig = some json := by
  induction h with
  | activated h hu => exact (stores_transact h).resolve_right fun hs => Bool.noConfusion (hs.2 hu.1)
  | silentServerSwitch answers h ih =>
    exact (stores_reconnect (by rw [storedConfig, ih]; rfl)).elim id fun hs => hs.1.trans ih

lemma configField_server {config : InterfaceConfig} {c : ActivationContext} (h : s.mConfig = some (activate config c))
    (field : String) : configField libs "server" field s = .error (some "No value for server") := by
  simp only [configField, h, getJSONObject, JsonConfig.get, value_server]
  rfl

lemma status_ne_ok {config : InterfaceConfig} {c : ActivationContext} (h : s.mConfig = some (activate config c))
    (doc : JsonObject) : status libs runtime s ≠ .ok doc := by
  intro hs
  simp only [status, bind_ok_iff, configField_server h] at hs
  obtain ⟨rxBytes, -, txBytes, -, endpoint, he, -⟩ := hs
  cases he

/-- While an activated config is in use no request for the statistics is answered. -/
theorem not_told_of_active (libs : Libraries) (runtime : Runtime) (config : InterfaceConfig) (c : ActivationContext)
    (txBytes rxBytes : ℕ) (s : BoundService) (h : Active libs (activate config c) s) :
    ¬ Told libs runtime config c txBytes rxBytes s := by
  rintro ⟨doc, gw, hs, -⟩
  exact status_ne_ok h.mConfig doc hs

/-- A tunnel that has received 17 bytes and sent 4. -/
def seventeen : Runtime where
  wgGetConfig _ := some "rx_bytes=17\ntx_bytes=4\n".toList
  digit d := if d.isDigit then some (d.toNat - 48) else none

def activated : Result × BoundService :=
  transact printingLibraries {} (.activate (activate defaultDns oneFallback) true plainAnswers)

lemma active_activated : Active printingLibraries (activate defaultDns oneFallback) activated.2 := by
  apply Active.activated rfl
  exact ⟨by decide +kernel, by decide +kernel, _, rfl, rfl⟩

theorem not_told_activated : ¬ Told printingLibraries seventeen defaultDns oneFallback 4 17 activated.2 :=
  not_told_of_active printingLibraries seventeen defaultDns oneFallback 4 17 activated.2 active_activated

/-- The counters are read, and then the request fails. -/
theorem uncaught_activated : Active printingLibraries (activate defaultDns oneFallback) activated.2 ∧
    (counter seventeen "rx_bytes".toList activated.2).toOption = some (some 17) ∧
    (counter seventeen "tx_bytes".toList activated.2).toOption = some (some 4) ∧
    ¬ Told printingLibraries seventeen defaultDns oneFallback 4 17 activated.2 := by
  refine ⟨active_activated, by decide +kernel, by decide +kernel, ?_⟩
  rintro ⟨doc, gw, hs, -⟩
  exact status_ne_ok active_activated.mConfig doc hs

end VpnClient.Android.Statistics
