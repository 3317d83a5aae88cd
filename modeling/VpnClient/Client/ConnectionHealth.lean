import VpnClient.Client.Controller
import VpnClient.Library.Runs

/-! The health of the connection: which pings and timers run in each state of the controller. -/

namespace VpnClient.Client

open Library.Runs

/-- The pings and timers, with the state of the controller and the callbacks that wait there for the status. What the
checks conclude is left out: a silent switch comes back as a change of the state. `answered` is the gateway of the last
status since the state was entered, and `criticalPingError` whether such an error occurred since. -/
structure ConnectionHealth where
  state : State := .StateInitializing
  getStatusCallbacks : ℕ := 0
  pingHelper : Option (String × String) := none
  noSignalTimer : Bool := false
  healthCheckTimer : Bool := false
  dnsPingSender : Bool
  dnsPingTimer : Bool := false
  answered : Option String := none
  criticalPingError : Bool := false
  deriving DecidableEq

namespace ConnectionHealth

/-- The sender's socket is closed for good. -/
def stop (h : ConnectionHealth) : ConnectionHealth :=
  { h with
    pingHelper := none, noSignalTimer := false, healthCheckTimer := false, dnsPingSender := false,
    dnsPingTimer := false }

def isOn (h : ConnectionHealth) : Bool := h.state = .StateOn ∨ h.state = .StateOnPartial

def startActive (serverIpv4Gateway deviceIpv4Address : String) (h : ConnectionHealth) : ConnectionHealth :=
  if serverIpv4Gateway = "" ∨ h.isOn = false then h
  else
    { h with
      pingHelper := some (serverIpv4Gateway, deviceIpv4Address), noSignalTimer := true, healthCheckTimer := true,
      dnsPingSender := false, dnsPingTimer := false }

def dnsPingError (h : ConnectionHealth) : ConnectionHealth :=
  { h with dnsPingTimer := false, criticalPingError := true }

def sendDnsPing (h : ConnectionHealth) : ConnectionHealth := if h.dnsPingSender then h else h.dnsPingError

def startIdle (h : ConnectionHealth) : ConnectionHealth :=
  let h := { h with pingHelper := none, noSignalTimer := false, healthCheckTimer := false }
  if h.dnsPingSender then { h with dnsPingTimer := true }.sendDnsPing else h

/-- What is called with the status. -/
def callback (serverIpv4Gateway deviceIpv4Address : String) (h : ConnectionHealth) : ConnectionHealth :=
  let h := h.stop.startActive serverIpv4Gateway deviceIpv4Address
  if serverIpv4Gateway ≠ "" ∧ h.isOn then { h with answered := some serverIpv4Gateway } else h

def statusUpdated (serverIpv4Gateway deviceIpv4Address : String) (h : ConnectionHealth) : ConnectionHealth :=
  (callback serverIpv4Gateway deviceIpv4Address)^[h.getStatusCallbacks] { h with getStatusCallbacks := 0 }

def connectionStateChanged (h : ConnectionHealth) : ConnectionHealth :=
  match h.state with
  | .StateOn | .StateOnPartial => { h with getStatusCallbacks := h.getStatusCallbacks + 1 }
  | .StateOff => h.startIdle
  | _ => h.stop

def setState (state : State) (h : ConnectionHealth) : ConnectionHealth :=
  if h.state = state then h
  else { h with state, answered := none, criticalPingError := false }.connectionStateChanged

def pingSentAndReceived (h : ConnectionHealth) : ConnectionHealth :=
  { h with noSignalTimer := true, healthCheckTimer := true }

/-- Changes of the controller, answers to pings, and timeouts. -/
inductive Event where
  | setState (state : State)
  | statusUpdated (serverIpv4Gateway deviceIpv4Address : String)
  | pingSentAndReceived
  | dnsPingReceived
  | criticalPingError
  | noSignalTimeout
  | healthCheckTimeout
  | dnsPingTimeout

def step (h : ConnectionHealth) : Event → ConnectionHealth
  | .setState state => h.setState state
  | .statusUpdated serverIpv4Gateway deviceIpv4Address => h.statusUpdated serverIpv4Gateway deviceIpv4Address
  | .pingSentAndReceived => h.pingSentAndReceived
  | .dnsPingReceived => h
  | .criticalPingError => h.dnsPingError
  | .noSignalTimeout => { h with noSignalTimer := false }
  | .healthCheckTimeout => h
  | .dnsPingTimeout => if h.dnsPingTimer then h.sendDnsPing else h

/-- What runs is what the state asks for. -/
def Fits (h : ConnectionHealth) : Prop :=
  match h.state with
  | .StateOff => h.pingHelper = none ∧ h.healthCheckTimer = false ∧
      (h.criticalPingError = false → h.dnsPingSender = true → h.dnsPingTimer = true)
  | .StateOn | .StateOnPartial => ∀ gateway, h.answered = some gateway → ∃ device, h.pingHelper = some (gateway, device)
  | _ => h.pingHelper = none ∧ h.noSignalTimer = false ∧ h.healthCheckTimer = false ∧ h.dnsPingTimer = false

/-- An answer to a ping arrives only while there is a connection. -/
def OnTime (h : ConnectionHealth) : Event → Prop
  | .pingSentAndReceived => h.isOn = true
  | _ => True

/-- Who has an answer does not wait for one. -/
def Answered (h : ConnectionHealth) : Prop := h.answered.isSome = true → h.getStatusCallbacks = 0

variable {h : ConnectionHealth} {event : Event} {gateway device : String}

lemma fits_of_isOn (hs : h.isOn = true)
    (hg : ∀ gateway, h.answered = some gateway → ∃ device, h.pingHelper = some (gateway, device)) : h.Fits := by
  rw [Fits]
  cases hc : h.state <;> first | exact hg | simp [isOn, hc] at hs

lemma pings_of_fits (hf : h.Fits) (hs : h.isOn = true) :
    ∀ gateway, h.answered = some gateway → ∃ device, h.pingHelper = some (gateway, device) := by
  unfold Fits at hf
  cases hc : h.state <;> simp only [hc] at hf <;> first | exact hf | simp [isOn, hc] at hs

lemma fits_stop (hs : h.isOn = false) : h.stop.Fits := by
  rw [Fits, stop]
  cases hc : h.state <;> simp [isOn, hc] at hs ⊢

lemma callback_eq (h : ConnectionHealth) : h.callback gateway device =
    if gateway = "" ∨ h.isOn = false then h.stop
    else
      { h.stop with
        pingHelper := some (gateway, device), noSignalTimer := true, healthCheckTimer := true,
        answered := some gateway } := by
  have hs : h.stop.isOn = h.isOn := rfl
  rw [callback, startActive]
  rw [hs]
  by_cases hc : gateway = "" ∨ h.isOn = false
  · have hn : ¬(gateway ≠ "" ∧ h.stop.isOn = true) := by
      rw [hs]
      rcases hc with hc | hc <;> simp [hc]
    rw [if_pos hc, if_pos hc]
    exact if_neg hn
  · obtain ⟨hg, ho⟩ := not_or.mp hc
    rw [if_neg hc, if_neg hc]
    have ho' : h.isOn = true := by simpa using ho
    exact if_pos ⟨hg, ho'⟩

lemma callback_callback (h : ConnectionHealth) :
    (h.callback gateway device).callback gateway device = h.callback gateway device := by
  rw [callback_eq (h.callback gateway device), callback_eq h]
  by_cases hc : gateway = "" ∨ h.isOn = false
  · have hc' : gateway = "" ∨ h.stop.isOn = false := hc
    rw [if_pos hc, if_pos hc']
    rfl
  · rw [if_neg hc]
    exact if_neg hc

lemma fits_callback (ha : h.answered = none) : (h.callback gateway device).Fits := by
  rw [callback_eq]
  split
  · cases hs : h.isOn with
    | false => exact fits_stop hs
    | true => exact fits_of_isOn hs fun g hg => by simp [stop, ha] at hg
  · next hc =>
    have ho : h.isOn = true := by simpa using (not_or.mp hc).2
    exact fits_of_isOn ho fun g hg => ⟨device, by simpa using hg⟩

lemma statusUpdated_eq (h : ConnectionHealth) : h.statusUpdated gateway device =
    if h.getStatusCallbacks = 0 then h
    else { h with getStatusCallbacks := 0 }.callback gateway device := by
  rw [statusUpdated]
  split
  · next hn =>
    rw [hn]
    cases h
    simpa using hn.symm
  · next hn =>
    obtain ⟨n, hn⟩ := Nat.exists_eq_succ_of_ne_zero hn
    rw [hn]
    clear hn
    induction n with
    | zero => rfl
    | succ n ih => rw [Function.iterate_succ_apply', ih, callback_callback]

lemma getStatusCallbacks_callback : (h.callback gateway device).getStatusCallbacks = h.getStatusCallbacks := by
  rw [callback_eq]
  split <;> rfl

lemma answered_startIdle : h.startIdle.answered = h.answered := by
  simp only [startIdle, sendDnsPing, dnsPingError]
  split_ifs <;> rfl

lemma answered_connectionStateChanged : h.connectionStateChanged.answered = h.answered := by
  rw [connectionStateChanged]
  split
  · rfl
  · rfl
  · exact answered_startIdle
  · rfl

lemma Answered.step (ha : h.Answered) (event : Event) : (step h event).Answered := by
  rw [Answered] at *
  cases event with
  | setState state =>
    simp only [ConnectionHealth.step, setState]
    split
    · exact ha
    · simp [answered_connectionStateChanged]
  | statusUpdated gateway device =>
    rw [ConnectionHealth.step, statusUpdated_eq]
    split
    · exact ha
    · exact fun _ => getStatusCallbacks_callback
  | dnsPingTimeout =>
    simp only [ConnectionHealth.step, sendDnsPing, dnsPingError]
    split_ifs <;> exact ha
  | pingSentAndReceived => exact ha
  | dnsPingReceived => exact ha
  | criticalPingError => exact ha
  | noSignalTimeout => exact ha
  | healthCheckTimeout => exact ha

lemma fits_connectionStateChanged (ha : h.answered = none) : h.connectionStateChanged.Fits := by
  rw [connectionStateChanged]
  split
  · next hs => exact fits_of_isOn (by simp [isOn, hs]) fun g hg => by simp [ha] at hg
  · next hs => exact fits_of_isOn (by simp [isOn, hs]) fun g hg => by simp [ha] at hg
  · next hs =>
    rw [Fits, startIdle, sendDnsPing]
    cases hv : h.dnsPingSender <;> simp [hs]
  · next h₁ h₂ h₃ => exact fits_stop (by simpa [isOn] using ⟨h₁, h₂⟩)

lemma Fits.dnsPingError (hf : h.Fits) : h.dnsPingError.Fits := by
  rw [Fits, ConnectionHealth.dnsPingError] at *
  cases hc : h.state <;> simp only [hc] at hf ⊢ <;> first | exact hf | simp [hf]

lemma Fits.noSignalTimeout (hf : h.Fits) : Fits { h with noSignalTimer := false } := by
  rw [Fits] at *
  cases hc : h.state <;> simp only [hc] at hf ⊢ <;> first | exact hf | simp [hf]

lemma fits_pingSentAndReceived_iff (hf : h.Fits) : h.pingSentAndReceived.Fits ↔ h.isOn = true := by
  constructor
  · intro hp
    unfold Fits pingSentAndReceived at hp
    rw [isOn]
    cases hc : h.state <;> simp [hc] at hp ⊢
  · intro hs
    have hp := pings_of_fits hf hs
    exact fits_of_isOn hs hp

lemma onTime_iff (hf : h.Fits) (ha : h.Answered) (event : Event) : h.OnTime event ↔ (step h event).Fits := by
  cases event with
  | setState state =>
    apply iff_of_true trivial
    simp only [step, setState]
    split
    · exact hf
    · exact fits_connectionStateChanged rfl
  | statusUpdated gateway device =>
    rw [ConnectionHealth.step, statusUpdated_eq]
    apply iff_of_true trivial
    split
    · exact hf
    · next hn =>
      apply fits_callback
      by_contra hc
      exact hn (ha (Option.isSome_iff_ne_none.mpr hc))
  | pingSentAndReceived => exact (fits_pingSentAndReceived_iff hf).symm
  | dnsPingTimeout =>
    apply iff_of_true trivial
    simp only [step, sendDnsPing]
    split_ifs
    · exact hf
    · exact hf.dnsPingError
    · exact hf
  | criticalPingError => exact iff_of_true trivial hf.dnsPingError
  | dnsPingReceived => exact iff_of_true trivial hf
  | noSignalTimeout => exact iff_of_true trivial hf.noSignalTimeout
  | healthCheckTimeout => exact iff_of_true trivial hf

/-- What runs is what each state asks for in every state of a run exactly if all answers to pings arrive while there is
a connection; late callbacks do no harm. -/
theorem fits_iff_onTime (dnsPingSender : Bool) (events : List Event) :
    (∀ es, es <+: events → (run step { dnsPingSender } es).Fits) ↔ Meets step OnTime { dnsPingSender } events := by
  have h₀ : Fits { dnsPingSender } := ⟨rfl, rfl, rfl, rfl⟩
  have ha : Answered { dnsPingSender } := fun _ => rfl
  exact (meets_iff_throughout (P := fun h => h.Fits ∧ h.Answered) (Q := Fits)
    (fun h e hp hc => ⟨(onTime_iff hp.1 hp.2 e).mp hc, hp.2.step e⟩)
    (fun h e hp => onTime_iff hp.1 hp.2 e) ⟨h₀, ha⟩ h₀).symm

/-- An answer that is delivered after the connection is closed starts the health check. -/
theorem fits_late_ping :
    let h := run step { dnsPingSender := true }
      [.setState .StateOn, .statusUpdated "10.64.0.1" "10.0.0.2", .setState .StateOff, .pingSentAndReceived]
    h.state = .StateOff ∧ h.healthCheckTimer = true ∧ ¬h.Fits := by
  refine ⟨by decide, by decide, fun h => ?_⟩
  have hf := h.2.1
  revert hf
  decide

end ConnectionHealth

end VpnClient.Client
