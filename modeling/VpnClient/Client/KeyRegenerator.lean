import VpnClient.Client.Controller
import VpnClient.Tasks.TaskQueue

/-! The regeneration of the device key: when a task for it is scheduled, and in which state its key is taken over. -/

namespace VpnClient.Client

open Library.Runs Tasks

/-- The tasks of the queue, apart from those that have nothing to do with the regeneration. -/
inductive KeyTask where
  | addDevice
  | account
  | other
  deriving DecidableEq, Repr

/-- What the regeneration reads and writes, with the states of the controller in which a device was added. -/
structure KeyRegenerator where
  isSupported : Bool
  state : AppState
  controllerState : State
  keyRegenerationTimeSec : Option ℤ
  timer : Option ℤ := none
  queue : TaskQueue KeyTask := {}
  privateKey : String := ""
  publicKey : String := ""
  deviceAddedIn : List State := []
  deriving DecidableEq

namespace KeyRegenerator

def keyRegeneratorTimeSec (inProduction : Bool) : ℤ := if inProduction then 604800 else 300

/-- Seconds as an int of milliseconds, or the greatest int if they do not fit. -/
def toMSec (sec : ℤ) : ℤ :=
  let value := sec.bmod (2 ^ 32) * 1000
  if -2 ^ 31 ≤ value ∧ value ≤ 2 ^ 31 - 1 then value else 2 ^ 31 - 1

variable (inProduction : Bool)

def stateChanged (now : ℤ) (s : KeyRegenerator) : KeyRegenerator :=
  let s := { s with timer := none }
  if !s.isSupported then s
  else if s.state ≠ .StateMain ∨ s.controllerState ≠ .StateOff then s
  else
    let time := s.keyRegenerationTimeSec.getD now
    let s := { s with keyRegenerationTimeSec := some time }
    let diff := keyRegeneratorTimeSec inProduction - (now - time)
    if diff > 0 then { s with timer := some (toMSec diff) }
    else
      { s with
        queue := (s.queue.scheduleTask .addDevice).scheduleTask .account
        timer := some (toMSec (keyRegeneratorTimeSec inProduction)) }

def deviceAdded (privateKey publicKey : String) (now : ℤ) (s : KeyRegenerator) : KeyRegenerator :=
  { s with
    privateKey, publicKey, keyRegenerationTimeSec := some now
    deviceAddedIn := s.deviceAddedIn ++ [s.controllerState] }

/-- The request of the running task ends, with the new keys if it has added a device. -/
def requestEnded (keys : Option (String × String)) (now : ℤ) (s : KeyRegenerator) : KeyRegenerator :=
  match s.queue.runningTask with
  | none => s
  | some .addDevice =>
    let s := (keys.map fun keys => s.deviceAdded keys.1 keys.2 now).getD s
    { s with queue := s.queue.taskCompleted }
  | some _ => { s with queue := s.queue.taskCompleted }

inductive Event where
  | vpnStateChanged (state : AppState) (now : ℤ)
  | controllerStateChanged (state : State) (now : ℤ)
  | supportedChanged (isSupported : Bool) (now : ℤ)
  | timeout (now : ℤ)
  | scheduleOther
  | requestEnded (keys : Option (String × String)) (now : ℤ)

def step (s : KeyRegenerator) : Event → KeyRegenerator
  | .vpnStateChanged state now => { s with state }.stateChanged inProduction now
  | .controllerStateChanged controllerState now => { s with controllerState }.stateChanged inProduction now
  | .supportedChanged isSupported now => { s with isSupported }.stateChanged inProduction now
  | .timeout now => s.stateChanged inProduction now
  | .scheduleOther => { s with queue := s.queue.scheduleTask .other }
  | .requestEnded keys now => s.requestEnded keys now

/-- What an event gives to `stateChanged`: the state, and the time. -/
def examined (s : KeyRegenerator) : Event → Option (KeyRegenerator × ℤ)
  | .vpnStateChanged state now => some ({ s with state }, now)
  | .controllerStateChanged controllerState now => some ({ s with controllerState }, now)
  | .supportedChanged isSupported now => some ({ s with isSupported }, now)
  | .timeout now => some (s, now)
  | .scheduleOther | .requestEnded _ _ => none

/-- A task that adds a device is queued or running. -/
def UnderWay (s : KeyRegenerator) : Prop := .addDevice ∈ s.queue.pending

instance (s : KeyRegenerator) : Decidable s.UnderWay := inferInstanceAs (Decidable (_ ∈ _))

/-- When the request of a running task succeeds. -/
def succeeds (s : KeyRegenerator) : Event → Option ℤ
  | .requestEnded (some _) now => if s.queue.runningTask = some .addDevice then some now else none
  | _ => none

/-- What is seen of the events: the time of the last success, and whether the controller has left its off state for
another one since the task was scheduled. -/
structure Seen where
  last : Option ℤ := none
  left : Bool := false

def leaves (left : Bool) : Event → Bool
  | .controllerStateChanged controllerState _ => controllerState ≠ .StateOff
  | _ => left

def observe (s : KeyRegenerator) (e : Event) (m : Seen) : Seen where
  last := (s.succeeds e).orElse fun _ => m.last
  left := s.UnderWay && leaves m.left e

/-- The key has expired, and nothing stands against its regeneration. -/
def Due (now : ℤ) (s : KeyRegenerator) : Prop :=
  s.isSupported = true ∧ s.state = .StateMain ∧ s.controllerState = .StateOff ∧
    ∃ time ∈ s.keyRegenerationTimeSec, keyRegeneratorTimeSec inProduction ≤ now - time

/-- What is asked of a step: one task at most adds a device, and does so while the controller is off; after its success
no other is left; a key that is due has one, and none is scheduled before the key of the last success has expired. -/
structure Sound (p : KeyRegenerator × Seen) (e : Event) : Prop where
  single : (p.1.step inProduction e).queue.pending.count .addDevice ≤ 1
  off : ∀ state ∈ (p.1.step inProduction e).deviceAddedIn, state = .StateOff
  renewed : (p.1.succeeds e).isSome = true → ¬(p.1.step inProduction e).UnderWay
  regenerated : ∀ c ∈ p.1.examined e, Due inProduction c.2 c.1 → (p.1.step inProduction e).UnderWay
  expired : p.1.queue.pending.count .addDevice < (p.1.step inProduction e).queue.pending.count .addDevice →
    ∃ c ∈ p.1.examined e, ∀ last ∈ p.2.last, keyRegeneratorTimeSec inProduction ≤ c.2 - last

/-- While a task is under way its key is not found to be due again, and its request does not succeed after the
controller has left its off state, unless it has returned there. -/
def Undisturbed (p : KeyRegenerator × Seen) (e : Event) : Prop :=
  p.1.UnderWay →
    (∀ c ∈ p.1.examined e, ¬Due inProduction c.2 c.1) ∧ ((p.1.succeeds e).isSome = true → p.2.left = false)

variable {inProduction} {s : KeyRegenerator} {now : ℤ} {e : Event}

variable (inProduction now s) in
lemma stateChanged_queue : (Due inProduction now s ∧
      (s.stateChanged inProduction now).queue = (s.queue.scheduleTask .addDevice).scheduleTask .account ∨
    ¬Due inProduction now s ∧ (s.stateChanged inProduction now).queue = s.queue) ∧
      (s.stateChanged inProduction now).deviceAddedIn = s.deviceAddedIn := by
  have hp : 0 < keyRegeneratorTimeSec inProduction := by cases inProduction <;> decide
  rw [stateChanged, Due]
  dsimp only
  split_ifs with hs hm hd
  · exact ⟨.inr ⟨fun h => by simp [h.1] at hs, rfl⟩, rfl⟩
  · refine ⟨.inr ⟨fun h => ?_, rfl⟩, rfl⟩
    rcases hm with hm | hm
    · exact hm h.2.1
    · exact hm h.2.2.1
  · refine ⟨.inr ⟨?_, rfl⟩, rfl⟩
    rintro ⟨-, -, -, time, ht, hn⟩
    rw [Option.mem_def.mp ht, Option.getD_some] at hd
    omega
  · refine ⟨.inl ⟨?_, rfl⟩, rfl⟩
    obtain ⟨hm, ho⟩ := not_or.mp hm
    refine ⟨by simpa using hs, not_not.mp hm, not_not.mp ho, ?_⟩
    cases ht : s.keyRegenerationTimeSec with
    | none =>
      rw [ht, Option.getD_none] at hd
      omega
    | some time =>
      rw [ht, Option.getD_some] at hd
      exact ⟨time, rfl, by omega⟩

lemma count_pending_scheduled : ((s.queue.scheduleTask .addDevice).scheduleTask .account).pending.count .addDevice =
    s.queue.pending.count .addDevice + 1 := by
  rw [TaskQueue.pending_scheduleTask, TaskQueue.pending_scheduleTask]
  simp

lemma keyRegenerationTimeSec_stateChanged {time : ℤ} (h : s.keyRegenerationTimeSec = some time) :
    (s.stateChanged inProduction now).keyRegenerationTimeSec = some time := by
  rw [stateChanged]
  dsimp only
  split_ifs
  · exact h
  · exact h
  · rw [h]
    rfl
  · rw [h]
    rfl

variable (inProduction now s) in
lemma controllerState_stateChanged : (s.stateChanged inProduction now).controllerState = s.controllerState := by
  rw [stateChanged]
  dsimp only
  split_ifs <;> rfl

/-- What holds between the steps of a run: there is one task at most, each device was added while the controller was
off, the key has the time of the last success, and of the controller it is seen whether it is off. -/
structure Inv (p : KeyRegenerator × Seen) : Prop where
  single : p.1.queue.pending.count .addDevice ≤ 1
  off : ∀ state ∈ p.1.deviceAddedIn, state = .StateOff
  last : ∀ last ∈ p.2.last, p.1.keyRegenerationTimeSec = some last
  left : p.1.UnderWay → (p.2.left = false ↔ p.1.controllerState = .StateOff)

variable (inProduction) in
/-- What is examined differs from the state in what has changed only, and the step is that of `stateChanged`. -/
lemma step_of_examined {c : KeyRegenerator × ℤ} (hc : c ∈ s.examined e) :
    s.step inProduction e = c.1.stateChanged inProduction c.2 ∧ s.succeeds e = none ∧ c.1.queue = s.queue ∧
      c.1.deviceAddedIn = s.deviceAddedIn ∧ c.1.keyRegenerationTimeSec = s.keyRegenerationTimeSec := by
  cases e with
  | vpnStateChanged | controllerStateChanged | supportedChanged | timeout =>
    obtain rfl := Option.some.inj hc
    exact ⟨rfl, rfl, rfl, rfl, rfl⟩
  | scheduleOther | requestEnded => cases hc

variable {p : KeyRegenerator × Seen}

/-- The controller of what is examined is the one that is seen. -/
lemma Inv.left_examined (h : Inv p) {c : KeyRegenerator × ℤ} (hc : c ∈ p.1.examined e) (hu : p.1.UnderWay) :
    (observe p.1 e p.2).left = false ↔ c.1.controllerState = .StateOff := by
  have hl := h.left hu
  cases e with
  | controllerStateChanged controllerState now =>
    obtain rfl := Option.some.inj hc
    simp [observe, leaves, hu]
  | vpnStateChanged | supportedChanged | timeout =>
    obtain rfl := Option.some.inj hc
    simpa [observe, leaves, hu] using hl
  | scheduleOther | requestEnded => cases hc

lemma underWay_iff_count : s.UnderWay ↔ 0 < s.queue.pending.count .addDevice := List.count_pos_iff.symm

lemma sound_examined_iff (h : Inv p) {c : KeyRegenerator × ℤ} (hc : c ∈ p.1.examined e) :
    Undisturbed inProduction p e ↔ Sound inProduction p e := by
  obtain ⟨hs, hn, hq, ha, ht⟩ := step_of_examined inProduction hc
  have hone {c' : KeyRegenerator × ℤ} (hc' : c' ∈ p.1.examined e) : c' = c := Option.mem_unique hc' hc
  obtain ⟨⟨hd, hqueue⟩ | ⟨hd, hqueue⟩, hadded⟩ := stateChanged_queue inProduction c.1 c.2
  · have hcount : (p.1.step inProduction e).queue.pending.count .addDevice =
        p.1.queue.pending.count .addDevice + 1 := by
      rw [hs, hqueue, count_pending_scheduled, hq]
    constructor
    · intro hu
      have hw : p.1.queue.pending.count .addDevice = 0 :=
        List.count_eq_zero.mpr fun hw => (hu hw).1 c hc hd
      refine ⟨by omega, ?_, fun he => ?_, fun _ _ _ => underWay_iff_count.mpr (by omega), fun _ => ⟨c, hc, ?_⟩⟩
      · rw [hs, hadded, ha]
        exact h.off
      · rw [hn] at he
        cases he
      · intro last hl
        obtain ⟨-, -, -, time, htime, he⟩ := hd
        rw [ht, h.last last hl] at htime
        obtain rfl := Option.some.inj htime
        exact he
    · intro hsound hu
      have := hsound.single
      have := underWay_iff_count.mp hu
      omega
  · have hqueue' : (p.1.step inProduction e).queue = p.1.queue := by rw [hs, hqueue, hq]
    refine iff_of_true (fun _ => ⟨fun c' hc' => hone hc' ▸ hd, fun he => ?_⟩)
      ⟨?_, ?_, fun he => ?_, fun c' hc' hd' => ?_, fun hlt => ?_⟩
    · rw [hn] at he
      cases he
    · rw [hqueue']
      exact h.single
    · rw [hs, hadded, ha]
      exact h.off
    · rw [hn] at he
      cases he
    · exact absurd hd' (hone hc' ▸ hd)
    · rw [hqueue'] at hlt
      exact absurd hlt (lt_irrefl _)

lemma Inv.examined (h : Inv p) {c : KeyRegenerator × ℤ} (hc : c ∈ p.1.examined e)
    (hu : Undisturbed inProduction p e) : Inv (watch (step inProduction) observe p e) := by
  obtain ⟨hs, hn, hq, ha, ht⟩ := step_of_examined inProduction hc
  have hsound := (sound_examined_iff h hc).mp hu
  refine ⟨hsound.single, hsound.off, fun last hl => ?_, fun hw => ?_⟩
  · have hl : last ∈ p.2.last := by
      rw [watch, observe, hn] at hl
      exact hl
    rw [watch, hs]
    exact keyRegenerationTimeSec_stateChanged (ht.trans (h.last last hl))
  · have hcs : (p.1.step inProduction e).controllerState = c.1.controllerState := by
      rw [hs, controllerState_stateChanged]
    rw [watch, hcs]
    by_cases hw' : p.1.UnderWay
    · exact h.left_examined hc hw'
    · obtain ⟨⟨hd, -⟩ | ⟨-, hqueue⟩, -⟩ := stateChanged_queue inProduction c.1 c.2
      · refine iff_of_true ?_ hd.2.2.1
        rw [observe, decide_eq_false hw']
        rfl
      · refine absurd hw ?_
        rw [watch, UnderWay, hs, hqueue, hq]
        exact hw'

variable (now) in
lemma requestEnded_of_other (hr : s.queue.runningTask ≠ some .addDevice) (keys : Option (String × String)) :
    (s.requestEnded keys now).queue.pending.count .addDevice = s.queue.pending.count .addDevice ∧
      (s.requestEnded keys now).deviceAddedIn = s.deviceAddedIn ∧
      (s.requestEnded keys now).keyRegenerationTimeSec = s.keyRegenerationTimeSec ∧
      (s.requestEnded keys now).controllerState = s.controllerState := by
  rw [requestEnded]
  cases ht : s.queue.runningTask with
  | none => exact ⟨rfl, rfl, rfl, rfl⟩
  | some task =>
    cases task with
    | addDevice => exact absurd ht hr
    | account | other =>
      rw [TaskQueue.pending_eq_cons ht, List.count_cons_of_ne (by decide)]
      exact ⟨rfl, rfl, rfl, rfl⟩

lemma Inv.requestEnded_of_other (h : Inv p) (hr : p.1.queue.runningTask ≠ some .addDevice)
    (keys : Option (String × String)) : Sound inProduction p (.requestEnded keys now) ∧
      Inv (watch (step inProduction) observe p (.requestEnded keys now)) := by
  obtain ⟨hq, ha, ht, hc⟩ := KeyRegenerator.requestEnded_of_other now hr keys
  have hn : p.1.succeeds (.requestEnded keys now) = none := by
    cases keys with
    | none => rfl
    | some keys => exact if_neg hr
  have hsingle : (p.1.step inProduction (.requestEnded keys now)).queue.pending.count .addDevice ≤ 1 :=
    hq.trans_le h.single
  have hoff : ∀ state ∈ (p.1.step inProduction (.requestEnded keys now)).deviceAddedIn, state = .StateOff := by
    rw [step, ha]
    exact h.off
  refine ⟨⟨hsingle, hoff, fun he => ?_, fun c hc => ?_, fun hlt => ?_⟩, hsingle, hoff, fun last hl => ?_,
    fun hw => ?_⟩
  · rw [hn] at he
    cases he
  · exact absurd hc (Option.not_mem_none c)
  · exact absurd (hq ▸ hlt) (lt_irrefl _)
  · rw [watch, observe, hn] at hl
    exact ht.trans (h.last last hl)
  · have hw' : p.1.UnderWay := underWay_iff_count.mpr (hq ▸ underWay_iff_count.mp hw)
    have hl := h.left hw'
    rw [watch, observe, decide_eq_true hw', step, hc]
    exact hl

/-- The request of a task for a device ends: no other such task is left, and a success counts in the state that the
controller has now. -/
lemma Inv.requestEnded (h : Inv p) (hr : p.1.queue.runningTask = some .addDevice) (keys : Option (String × String)) :
    (Undisturbed inProduction p (.requestEnded keys now) ↔ Sound inProduction p (.requestEnded keys now)) ∧
      (Undisturbed inProduction p (.requestEnded keys now) →
        Inv (watch (step inProduction) observe p (.requestEnded keys now))) := by
  have hu : p.1.UnderWay := by
    rw [UnderWay, TaskQueue.pending_eq_cons hr]
    exact List.mem_cons_self
  have hs := h.single
  rw [TaskQueue.pending_eq_cons hr, List.count_cons_self] at hs
  have hq : (p.1.step inProduction (.requestEnded keys now)).queue = p.1.queue.taskCompleted := by
    rw [step, KeyRegenerator.requestEnded, hr]
    cases keys <;> rfl
  have hcount : (p.1.step inProduction (.requestEnded keys now)).queue.pending.count .addDevice = 0 := by
    rw [hq]
    omega
  have hw : ¬(p.1.step inProduction (.requestEnded keys now)).UnderWay := by
    rw [underWay_iff_count, hcount]
    exact lt_irrefl 0
  have hlt : ¬p.1.queue.pending.count .addDevice <
      (p.1.step inProduction (.requestEnded keys now)).queue.pending.count .addDevice := by
    rw [hcount]
    exact Nat.not_lt_zero _
  have hsound (hoff : ∀ state ∈ (p.1.step inProduction (.requestEnded keys now)).deviceAddedIn, state = .StateOff) :
      Sound inProduction p (.requestEnded keys now) :=
    ⟨hcount.trans_le zero_le_one, hoff, fun _ => hw, fun c hc => absurd hc (Option.not_mem_none c),
      fun h => absurd h hlt⟩
  cases keys with
  | none =>
    have ha : (p.1.step inProduction (.requestEnded none now)).deviceAddedIn = p.1.deviceAddedIn := by
      rw [step, KeyRegenerator.requestEnded, hr]
      rfl
    have ht : (p.1.step inProduction (.requestEnded none now)).keyRegenerationTimeSec = p.1.keyRegenerationTimeSec := by
      rw [step, KeyRegenerator.requestEnded, hr]
      rfl
    refine ⟨iff_of_true (fun _ => ⟨fun c hc => absurd hc (Option.not_mem_none c),
      fun he => absurd he Bool.false_ne_true⟩) (hsound (ha ▸ h.off)), fun _ => ?_⟩
    exact ⟨hcount.trans_le zero_le_one, ha ▸ h.off, fun last hl => ht.trans (h.last last hl), fun hn => absurd hn hw⟩
  | some keys =>
    have hn : p.1.succeeds (.requestEnded (some keys) now) = some now := if_pos hr
    have ha : (p.1.step inProduction (.requestEnded (some keys) now)).deviceAddedIn =
        p.1.deviceAddedIn ++ [p.1.controllerState] := by
      rw [step, KeyRegenerator.requestEnded, hr]
      rfl
    have ht : (p.1.step inProduction (.requestEnded (some keys) now)).keyRegenerationTimeSec = some now := by
      rw [step, KeyRegenerator.requestEnded, hr]
      rfl
    have hoff : p.1.controllerState = .StateOff →
        ∀ state ∈ (p.1.step inProduction (.requestEnded (some keys) now)).deviceAddedIn, state = .StateOff := by
      intro ho state hm
      rw [ha, List.mem_append, List.mem_singleton] at hm
      obtain hm | rfl := hm
      · exact h.off state hm
      · exact ho
    have hiff : Undisturbed inProduction p (.requestEnded (some keys) now) ↔ p.1.controllerState = .StateOff := by
      rw [← h.left hu]
      exact ⟨fun hd => (hd hu).2 (by rw [hn]; rfl),
        fun hl _ => ⟨fun c hc => absurd hc (Option.not_mem_none c), fun _ => hl⟩⟩
    refine ⟨hiff.trans ⟨fun ho => hsound (hoff ho), fun hs => hs.off _ ?_⟩, fun hd => ?_⟩
    · rw [ha]
      exact List.mem_append_right _ (List.mem_singleton_self _)
    · refine ⟨hcount.trans_le zero_le_one, hoff (hiff.mp hd), fun last hl => ?_, fun hn => absurd hn hw⟩
      rw [watch, observe, hn] at hl
      exact ht.trans hl

lemma Inv.scheduleOther (h : Inv p) : Sound inProduction p .scheduleOther ∧
    Inv (watch (step inProduction) observe p .scheduleOther) := by
  have hq : (p.1.step inProduction .scheduleOther).queue.pending.count .addDevice =
      p.1.queue.pending.count .addDevice := by
    rw [step, TaskQueue.pending_scheduleTask, List.count_append]
    rfl
  have hsingle : (p.1.step inProduction .scheduleOther).queue.pending.count .addDevice ≤ 1 := hq.trans_le h.single
  have hnone : p.1.succeeds .scheduleOther = none := rfl
  refine ⟨⟨hsingle, h.off, fun he => ?_, fun c hc => absurd hc (Option.not_mem_none c),
    fun hlt => absurd (hq ▸ hlt) (lt_irrefl _)⟩, hsingle, h.off, h.last, fun hw => ?_⟩
  · rw [hnone] at he
    cases he
  · have hw' : p.1.UnderWay := underWay_iff_count.mpr (hq ▸ underWay_iff_count.mp hw)
    rw [watch, observe, decide_eq_true hw']
    exact h.left hw'

lemma sound_iff (h : Inv p) : Undisturbed inProduction p e ↔ Sound inProduction p e := by
  cases e with
  | vpnStateChanged | controllerStateChanged | supportedChanged | timeout => exact sound_examined_iff h rfl
  | scheduleOther =>
    exact iff_of_true (fun _ => ⟨fun c hc => absurd hc (Option.not_mem_none c), fun he => absurd he Bool.false_ne_true⟩)
      h.scheduleOther.1
  | requestEnded keys now =>
    by_cases hr : p.1.queue.runningTask = some .addDevice
    · exact (h.requestEnded hr keys).1
    · refine iff_of_true (fun _ => ⟨fun c hc => absurd hc (Option.not_mem_none c), fun hs => ?_⟩)
        (h.requestEnded_of_other hr keys).1
      cases keys with
      | none => cases hs
      | some keys => exact absurd hs (by simp [succeeds, hr])

lemma Inv.step (h : Inv p) (hu : Undisturbed inProduction p e) :
    Inv (watch (KeyRegenerator.step inProduction) observe p e) := by
  cases e with
  | vpnStateChanged | controllerStateChanged | supportedChanged | timeout => exact h.examined rfl hu
  | scheduleOther => exact h.scheduleOther.2
  | requestEnded keys now =>
    by_cases hr : p.1.queue.runningTask = some .addDevice
    · exact (h.requestEnded hr keys).2 hu
    · exact (h.requestEnded_of_other hr keys).2

/-- The regenerator as it is created. -/
def create (inProduction isSupported : Bool) (state : AppState) (controllerState : State)
    (keyRegenerationTimeSec : Option ℤ) (now : ℤ) : KeyRegenerator :=
  { isSupported, state, controllerState, keyRegenerationTimeSec : KeyRegenerator }.stateChanged inProduction now

variable (inProduction now) in
lemma inv_create (isSupported : Bool) (state : AppState) (controllerState : State)
    (keyRegenerationTimeSec : Option ℤ) :
    Inv (create inProduction isSupported state controllerState keyRegenerationTimeSec now, {}) := by
  let s : KeyRegenerator := { isSupported, state, controllerState, keyRegenerationTimeSec }
  have hw : ¬s.UnderWay := List.not_mem_nil
  have h : Inv (s, {}) := ⟨zero_le_one, fun _ hm => absurd hm List.not_mem_nil,
    fun last hl => absurd hl (Option.not_mem_none last), fun h => absurd h hw⟩
  exact h.examined (e := .timeout now) rfl fun h => absurd h hw

/-- One task at most adds a device, only while the controller is off, and one for each time that the key is due, exactly
in the runs in which the key is not found to be due while a task is under way, and no request succeeds after the
controller has left its off state meanwhile. -/
theorem single_iff_spaced (inProduction isSupported : Bool) (state : AppState) (controllerState : State)
    (keyRegenerationTimeSec : Option ℤ) (now : ℤ) (events : List Event) :
    let s := create inProduction isSupported state controllerState keyRegenerationTimeSec now
    s.queue.pending.count .addDevice ≤ 1 ∧
      (Meets (watch (step inProduction) observe) (Sound inProduction) (s, {}) events ↔
        Meets (watch (step inProduction) observe) (Undisturbed inProduction) (s, {}) events) := by
  have hi := inv_create inProduction now isSupported state controllerState keyRegenerationTimeSec
  refine ⟨hi.single, Iff.symm ?_⟩
  exact meets_congr (P := Inv) (fun _ _ h hu => h.step hu) (fun _ _ h => sound_iff h) hi

/-- A connection that is turned on and off while the request is pending has a second task scheduled, and one that is
turned on gets a new key. -/
theorem unsound_regeneration :
    ¬Meets (watch (step true) observe) (Sound true) (create true true .StateMain .StateOff (some 0) 604800, {})
      [.controllerStateChanged .StateConnecting 604801, .controllerStateChanged .StateOff 604802] ∧
    ¬Meets (watch (step true) observe) (Sound true) (create true true .StateMain .StateOff (some 0) 604800, {})
      [.controllerStateChanged .StateOn 604801, .requestEnded (some ("private", "public")) 604802] :=
  ⟨fun h => absurd h.2.1.single (by decide), fun h => absurd (h.2.1.off .StateOn (by decide)) (by decide)⟩

section Timer

/-- The seconds that are left until the key expires, where its time is the stored one, or now if there is none. -/
def remaining (inProduction : Bool) (now : ℤ) (s : KeyRegenerator) : ℤ :=
  keyRegeneratorTimeSec inProduction - (now - s.keyRegenerationTimeSec.getD now)

/-- The differences do not overflow as 64-bit integers. -/
def Fits (inProduction : Bool) (now : ℤ) (s : KeyRegenerator) : Prop :=
  now - s.keyRegenerationTimeSec.getD now ∈ Set.Ico (-2 ^ 63 : ℤ) (2 ^ 63) ∧
    remaining inProduction now s ∈ Set.Ico (-2 ^ 63 : ℤ) (2 ^ 63)

/-- What is asked of a call: the tasks are scheduled when the key has expired, and the timer runs for what is left. -/
structure Checked (inProduction : Bool) (now : ℤ) (s t : KeyRegenerator) : Prop where
  fits : Fits inProduction now s
  due : remaining inProduction now s ≤ 0 → t.queue = (s.queue.scheduleTask .addDevice).scheduleTask .account
  notDue : 0 < remaining inProduction now s → t.queue = s.queue
  timer : ∃ interval ∈ t.timer, 0 < interval ∧ interval ≤ 2 ^ 31 - 1 ∧
    (0 < remaining inProduction now s → interval = min (remaining inProduction now s * 1000) (2 ^ 31 - 1))

lemma toMSec_keyRegeneratorTimeSec : toMSec (keyRegeneratorTimeSec inProduction) =
    keyRegeneratorTimeSec inProduction * 1000 := by
  cases inProduction <;> decide

/-- The greatest int is taken for a number of seconds unless its lowest bits are those of a small number. -/
lemma toMSec_eq_min_iff {sec : ℤ} (hs : 0 < sec) :
    toMSec sec = min (sec * 1000) (2 ^ 31 - 1) ↔ sec ≤ 2147483 ∨ 2147483 < |sec.bmod (2 ^ 32)| := by
  rw [toMSec]
  rcases le_or_gt sec 2147483 with hle | hgt
  · rw [Int.bmod_eq_of_le (by norm_num; omega) (by norm_num; omega), if_pos (by omega), min_eq_left (by omega)]
    exact iff_of_true rfl (Or.inl hle)
  · rw [min_eq_right (by omega), or_iff_right (by omega), lt_abs]
    split_ifs with hv <;> omega

lemma stateChanged_of_due (hs : s.isSupported = true) (hm : s.state = .StateMain) (ho : s.controllerState = .StateOff)
    (hd : remaining inProduction now s ≤ 0) : (s.stateChanged inProduction now).queue =
        (s.queue.scheduleTask .addDevice).scheduleTask .account ∧
      (s.stateChanged inProduction now).timer = some (keyRegeneratorTimeSec inProduction * 1000) := by
  rw [remaining] at hd
  rw [stateChanged]
  dsimp only
  rw [if_neg (by simp [hs]), if_neg (by simp [hm, ho]), if_neg (by omega), toMSec_keyRegeneratorTimeSec]
  exact ⟨rfl, rfl⟩

lemma stateChanged_of_not_due (hs : s.isSupported = true) (hm : s.state = .StateMain)
    (ho : s.controllerState = .StateOff) (hd : 0 < remaining inProduction now s) :
    (s.stateChanged inProduction now).queue = s.queue ∧
      (s.stateChanged inProduction now).timer = some (toMSec (remaining inProduction now s)) := by
  rw [remaining] at hd ⊢
  rw [stateChanged]
  dsimp only
  rw [if_neg (by simp [hs]), if_neg (by simp [hm, ho]), if_pos hd]
  exact ⟨rfl, rfl⟩

end Timer

/-- The timer runs for what is left exactly where this is small, or is not taken for a small number when it is made an
int before the product is checked. -/
theorem checked_iff_narrows (inProduction : Bool) (now : ℤ) (s : KeyRegenerator) (hs : s.isSupported = true)
    (hm : s.state = .StateMain) (ho : s.controllerState = .StateOff) :
    Checked inProduction now s (s.stateChanged inProduction now) ↔ Fits inProduction now s ∧
      (remaining inProduction now s ≤ 2147483 ∨ 2147483 < |(remaining inProduction now s).bmod (2 ^ 32)|) := by
  have hk : 0 < keyRegeneratorTimeSec inProduction * 1000 ∧ keyRegeneratorTimeSec inProduction * 1000 ≤ 2 ^ 31 - 1 := by
    cases inProduction <;> decide
  rcases le_or_gt (remaining inProduction now s) 0 with hd | hd
  · obtain ⟨hq, ht⟩ := stateChanged_of_due hs hm ho hd
    constructor
    · exact fun h => ⟨h.fits, Or.inl (by omega)⟩
    · intro h
      exact ⟨h.1, fun _ => hq, fun h => absurd hd (not_le.mpr h), _, ht, hk.1, hk.2, fun h => absurd hd (not_le.mpr h)⟩
  · obtain ⟨hq, ht⟩ := stateChanged_of_not_due hs hm ho hd
    rw [← toMSec_eq_min_iff hd]
    constructor
    · intro h
      obtain ⟨interval, hi, -, -, he⟩ := h.timer
      rw [ht, Option.mem_some_iff] at hi
      exact ⟨h.fits, hi.trans (he hd)⟩
    · rintro ⟨hf, he⟩
      have hpos : 0 < min (remaining inProduction now s * 1000) (2 ^ 31 - 1) := lt_min (by omega) (by norm_num)
      exact ⟨hf, fun h => absurd hd (not_lt.mpr h), fun _ => hq, _, ht, he ▸ hpos, he ▸ min_le_right _ _, fun _ => he⟩

/-- A key in production whose time is one day before the end of its life, or 136 years later. -/
def keyOf (time : ℤ) : KeyRegenerator where
  isSupported := true
  state := .StateMain
  controllerState := .StateOff
  keyRegenerationTimeSec := some time

theorem checked_one_day : Checked true 604800 (keyOf 86400) ((keyOf 86400).stateChanged true 604800) ↔
    Fits true 604800 (keyOf 86400) ∧ (remaining true 604800 (keyOf 86400) ≤ 2147483 ∨
      2147483 < |(remaining true 604800 (keyOf 86400)).bmod (2 ^ 32)|) :=
  checked_iff_narrows true 604800 (keyOf 86400) rfl rfl rfl

/-- The timer is started with no time at all. -/
theorem not_checked_century : ¬ Checked true 604800 (keyOf (2 ^ 32)) ((keyOf (2 ^ 32)).stateChanged true 604800) := by
  intro h
  obtain ⟨interval, hi, hpos, -⟩ := h.timer
  have ht : ((keyOf (2 ^ 32)).stateChanged true 604800).timer = some 0 := by decide
  rw [ht, Option.mem_some_iff] at hi
  omega

end KeyRegenerator

end VpnClient.Client
