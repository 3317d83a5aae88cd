import VpnClient.Ios.PacketTunnelProvider

/-! The replies of the provider to the app, and the status that the app waits for. -/

namespace VpnClient.Ios

open Library.Runs

/-- The addresses of the interface in the config of a tunnel. -/
structure TunnelConfiguration where
  dns : List String
  addresses : List String

/-- What `checkStatus` finds in a tunnel. -/
structure FoundTunnel where
  protocolConfiguration : Bool
  tunnelConfiguration : Option TunnelConfiguration
  session : Bool
  sendThrows : Bool

/-- What becomes of the callback of a status check, which may wait for a reply. -/
inductive StatusCheck where
  | called
  | waits (serverIpv4Gateway deviceIpv4Address : String)
  | dropped
  | trapped
  deriving DecidableEq, Repr

/-- The implementation calls back with empty texts unless it can send a message. An empty list of addresses traps. -/
def checkFoundStatus (tunnel : FoundTunnel) : StatusCheck :=
  if !tunnel.protocolConfiguration then .called
  else
    match tunnel.tunnelConfiguration with
    | none => .called
    | some tunnelConfiguration =>
      match tunnelConfiguration.dns, tunnelConfiguration.addresses with
      | serverIpv4Gateway :: _, deviceIpv4Address :: _ =>
        if !tunnel.session then .called
        else if tunnel.sendThrows then .called
        else .waits serverIpv4Gateway deviceIpv4Address
      | _, _ => .trapped

def checkStatusWithCallback (tunnel : Option FoundTunnel) : StatusCheck :=
  (tunnel.map checkFoundStatus).getD .dropped

structure StatusUpdate where
  serverIpv4Gateway : String
  deviceIpv4Address : String
  txBytes : ℕ
  rxBytes : ℕ
  deriving DecidableEq, Repr

/-- The members of the controller, the closures that wait for a reply, and the signals that were emitted. -/
structure IOSController where
  impl : Bool := false
  m_checkingStatus : Bool := false
  waiting : List (String × String) := []
  statusUpdated : List StatusUpdate := []
  trapped : Bool := false
  deriving DecidableEq, Repr

namespace IOSController

variable (toULongLong : String → ℕ)

/-- The loop over the lines of the config, which ends when it has found both numbers. -/
def countBytes : List String → ℕ → ℕ → ℕ × ℕ
  | [], txBytes, rxBytes => (txBytes, rxBytes)
  | line :: lines, txBytes, rxBytes =>
    let value := toULongLong (((line.splitOn "=")[1]?).getD "")
    let txBytes' := if line.startsWith "tx_bytes=" then value else txBytes
    let rxBytes' := if !line.startsWith "tx_bytes=" && line.startsWith "rx_bytes=" then value else rxBytes
    if txBytes' ≠ 0 ∧ rxBytes' ≠ 0 then (txBytes', rxBytes') else countBytes lines txBytes' rxBytes'

def callback (serverIpv4Gateway deviceIpv4Address config : String) (c : IOSController) : IOSController :=
  let c := { c with m_checkingStatus := false }
  if config = "" then c
  else
    let (txBytes, rxBytes) := countBytes toULongLong (config.splitOn "\n") 0 0
    { c with statusUpdated := ⟨serverIpv4Gateway, deviceIpv4Address, txBytes, rxBytes⟩ :: c.statusUpdated }

def afterCheck (c : IOSController) : StatusCheck → IOSController
  | .called => c.callback toULongLong "" "" ""
  | .waits serverIpv4Gateway deviceIpv4Address =>
    { c with waiting := c.waiting ++ [(serverIpv4Gateway, deviceIpv4Address)] }
  | .dropped => c
  | .trapped => { c with trapped := true }

def checkStatus (tunnel : Option FoundTunnel) (c : IOSController) : IOSController :=
  if c.m_checkingStatus then c
  else if !c.impl then c
  else { c with m_checkingStatus := true }.afterCheck toULongLong (checkStatusWithCallback tunnel)

/-- The reply to the message that was sent first, with its data as text if they are one. -/
def reply (data : Option String) (c : IOSController) : IOSController :=
  match c.waiting with
  | [] => c
  | (serverIpv4Gateway, deviceIpv4Address) :: waiting =>
    let c := { c with waiting }
    match data with
    | none => c.callback toULongLong "" "" ""
    | some configString => c.callback toULongLong serverIpv4Gateway deviceIpv4Address configString

inductive Event where
  | setImpl (impl : Bool)
  | checkStatus (tunnel : Option FoundTunnel)
  | reply (data : Option String)

def handle (c : IOSController) : Event → IOSController
  | .setImpl impl => { c with impl }
  | .checkStatus tunnel => c.checkStatus toULongLong tunnel
  | .reply data => c.reply toULongLong data

/-- Nothing happens any more once the process has trapped. -/
def step (c : IOSController) (e : Event) : IOSController := if c.trapped then c else c.handle toULongLong e

/-- Where the status is being checked, a reply is waited for and clears this. -/
def Sound (c : IOSController) : Prop :=
  c.trapped = false → c.m_checkingStatus = true →
    c.waiting ≠ [] ∧ ∀ data, (c.reply toULongLong data).m_checkingStatus = false

/-- A status that is to be checked finds a tunnel. -/
def Available (c : IOSController) : Event → Prop
  | .checkStatus tunnel => c.trapped = false → c.m_checkingStatus = false → c.impl = true → tunnel.isSome = true
  | _ => True

variable {toULongLong} {c : IOSController} {e : Event}

lemma m_checkingStatus_callback (serverIpv4Gateway deviceIpv4Address config : String) :
    (c.callback toULongLong serverIpv4Gateway deviceIpv4Address config).m_checkingStatus = false := by
  rw [callback]
  dsimp only
  split <;> rfl

lemma m_checkingStatus_reply (data : Option String) (h : c.waiting ≠ []) :
    (c.reply toULongLong data).m_checkingStatus = false := by
  rw [reply]
  split
  · next hn => exact absurd hn h
  · cases data <;> exact m_checkingStatus_callback _ _ _

lemma sound_iff : c.Sound toULongLong ↔ (c.trapped = false → c.m_checkingStatus = true → c.waiting ≠ []) :=
  forall_congr' fun _ => forall_congr' fun _ => and_iff_left_of_imp fun hw data => m_checkingStatus_reply data hw

lemma checkFoundStatus_ne_dropped (tunnel : FoundTunnel) : checkFoundStatus tunnel ≠ .dropped := by
  rw [checkFoundStatus]
  split
  · simp
  · split
    · simp
    · split
      · split
        · simp
        · split <;> simp
      · simp

lemma checkStatusWithCallback_ne_dropped_iff (tunnel : Option FoundTunnel) :
    checkStatusWithCallback tunnel ≠ .dropped ↔ tunnel.isSome = true := by
  cases tunnel with
  | none => simp [checkStatusWithCallback]
  | some tunnel => exact iff_of_true (checkFoundStatus_ne_dropped tunnel) rfl

/-- One reply is waited for while the status is being checked, and none otherwise. -/
structure Inv (c : IOSController) : Prop where
  idle : c.m_checkingStatus = false → c.waiting = []
  single : c.waiting.length ≤ 1
  sound : c.trapped = false → c.m_checkingStatus = true → c.waiting ≠ []

variable (toULongLong) in
lemma waiting_callback (serverIpv4Gateway deviceIpv4Address config : String) :
    (c.callback toULongLong serverIpv4Gateway deviceIpv4Address config).waiting = c.waiting := by
  rw [callback]
  dsimp only
  split <;> rfl

lemma inv_callback (h : c.waiting = []) (serverIpv4Gateway deviceIpv4Address config : String) :
    Inv (c.callback toULongLong serverIpv4Gateway deviceIpv4Address config) := by
  have hw := (waiting_callback toULongLong serverIpv4Gateway deviceIpv4Address config).trans h
  refine ⟨fun _ => hw, by simp [hw], fun _ hm => ?_⟩
  exact absurd ((m_checkingStatus_callback _ _ _).symm.trans hm) (by decide)

lemma inv_checkStatus {tunnel : Option FoundTunnel} (h : Inv c) (ht : c.trapped = false)
    (ha : Available c (.checkStatus tunnel)) : Inv (c.checkStatus toULongLong tunnel) := by
  rw [checkStatus]
  split_ifs with hc hi
  · exact h
  · exact h
  · have hn := Bool.eq_false_of_not_eq_true hc
    have hw : c.waiting = [] := h.idle hn
    have hs := (checkStatusWithCallback_ne_dropped_iff tunnel).mpr (ha ht hn (by simpa using hi))
    cases hr : checkStatusWithCallback tunnel with
    | called =>
      rw [afterCheck]
      exact inv_callback (c := { c with m_checkingStatus := true }) hw _ _ _
    | waits serverIpv4Gateway deviceIpv4Address =>
      exact ⟨fun h => (by cases h), by simp [afterCheck, hw], fun _ _ => by simp [afterCheck]⟩
    | dropped => exact absurd hr hs
    | trapped => exact ⟨fun h => (by cases h), h.single, fun h => (by cases h)⟩

lemma inv_reply (h : Inv c) (data : Option String) : Inv (c.reply toULongLong data) := by
  have hl := h.single
  rw [reply]
  split
  · exact h
  · next serverIpv4Gateway deviceIpv4Address waiting hw =>
    have hn : waiting = [] := List.eq_nil_of_length_eq_zero (by simpa [hw] using hl)
    cases data <;> exact inv_callback (c := { c with waiting }) hn _ _ _

lemma inv_step (h : Inv c) (ha : Available c e) : Inv (c.step toULongLong e) := by
  rw [step]
  split_ifs with ht
  · exact h
  · cases e with
    | setImpl impl => exact { h with }
    | checkStatus tunnel => exact inv_checkStatus h (Bool.eq_false_of_not_eq_true ht) ha
    | reply data => exact inv_reply h data

lemma available_of_sound (h : Inv c) (hs : (c.step toULongLong e).Sound toULongLong) : Available c e := by
  cases e with
  | checkStatus tunnel =>
    intro ht hn hi
    by_contra hs'
    have he : c.step toULongLong (.checkStatus tunnel) = { c with m_checkingStatus := true } := by
      obtain rfl : tunnel = none := by simpa using hs'
      rw [step, if_neg (by simp [ht]), handle, checkStatus, if_neg (by simp [hn]), if_neg (by simp [hi])]
      rfl
    rw [he] at hs
    exact sound_iff.mp hs ht rfl (h.idle hn)
  | _ => trivial

/-- The completion handler of a message is called once unless the adapter has taken a config of the app, and the status
can be checked again throughout a run exactly if each check that begins finds a tunnel. -/
theorem replies_iff (toULongLong : String → ℕ) :
    (∀ p message settings update, (PacketTunnelProvider.handleAppMessage message settings update p).2.length = 1 ↔
      ¬((∃ config, message = some (.configurationSwitch config)) ∧ update = .updated)) ∧
    ∀ events, Meets (step toULongLong) Available {} events ↔
      ∀ before, before <+: events → Sound toULongLong (run (step toULongLong) {} before) := by
  constructor
  · intro p message settings update
    cases message with
    | none => simp [PacketTunnelProvider.handleAppMessage]
    | some message =>
      cases message with
      | configurationSwitch config =>
        cases update <;> simp [PacketTunnelProvider.handleAppMessage, PacketTunnelProvider.updateServerConfig]
      | _ => simp [PacketTunnelProvider.handleAppMessage]
  · intro events
    have hi : Inv {} := ⟨fun _ => rfl, by simp, fun _ h => (by cases h)⟩
    exact meets_iff_throughout (P := Inv) (fun _ _ h ha => inv_step h ha)
      (fun _ _ h => ⟨fun ha => sound_iff.mpr (inv_step h ha).sound, available_of_sound h⟩) hi (sound_iff.mpr hi.sound)

/-- A switch that succeeds is never answered, and a check before the tunnel is loaded blocks all that follow. -/
theorem unanswered : (PacketTunnelProvider.handleAppMessage (some (.configurationSwitch "config")) none .updated
      {}).2.length ≠ 1 ∧
    ¬Sound (fun _ => 0) (run (step fun _ => 0) {} [.setImpl true, .checkStatus none]) :=
  ⟨by decide, fun h => (h rfl rfl).1 rfl⟩

end IOSController

end VpnClient.Ios
