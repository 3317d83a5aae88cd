import VpnClient.Library.Nftables
import Mathlib.Data.List.AList
import VpnClient.Backend.BringUp

/-! The rules of `netfilter.go` that mark the traffic of control groups, and the paths by which they match it. -/

namespace VpnClient.Linux

open Library.Nftables

/-- A control group, given by its path below the mount point. -/
@[ext] structure Cgroup where
  path : Data
  nonzero : 0 ∉ path
  deriving DecidableEq

/-- "/" -/
def separator : UInt8 := 0x2f

/-- The directory that contains the control group. -/
def Cgroup.absolutePath (c : Cgroup) : Data := (c.path.reverse.dropWhile (· ≠ separator)).tail.reverse

/-- A struct `xt_cgroup_info_v2`: four flags, the path with its final zero in 512 bytes, and padding. -/
def nftXtCgroupMatch (cgroup : Data) : Data :=
  let cgroup := if cgroup.length ≥ 512 then cgroup.take 511 else cgroup
  [1, 0, 0, 0] ++ ((cgroup ++ [0]) ++ List.replicate (512 - (cgroup ++ [0]).length) 0) ++ List.replicate 12 0

/-- What the rules of the two chains match, in the order of the rules. -/
structure CgroupChains where
  cgroupMark : List Data := []
  cgroupNat : List Data := []

namespace CgroupChains

def nftMarkCgroup2xt (cgroup : Data) (ctx : CgroupChains) : CgroupChains where
  cgroupMark := ctx.cgroupMark ++ [nftXtCgroupMatch cgroup]
  cgroupNat := ctx.cgroupNat ++ [nftXtCgroupMatch cgroup]

def nftDelCgroup2xt (rules : List Data) (xtmatch : Data) : List Data := rules.filter (· ≠ xtmatch)

def markCgroupV2 (cgroup : Data) (ctx : CgroupChains) : CgroupChains := ctx.nftMarkCgroup2xt cgroup

def resetCgroupV2 (cgroup : Data) (ctx : CgroupChains) : CgroupChains where
  cgroupMark := nftDelCgroup2xt ctx.cgroupMark (nftXtCgroupMatch cgroup)
  cgroupNat := nftDelCgroup2xt ctx.cgroupNat (nftXtCgroupMatch cgroup)

def resetAllCgroupsV2 (_ : CgroupChains) : CgroupChains where
  cgroupMark := []
  cgroupNat := []

end CgroupChains

/-- The entry of a control group in the chains. -/
def Cgroup.xtmatch (c : Cgroup) : Data := nftXtCgroupMatch c.path

lemma nftXtCgroupMatch_eq (cgroup : Data) : nftXtCgroupMatch cgroup =
    1 :: 0 :: 0 :: 0 :: (cgroup.take 511 ++ 0 :: List.replicate (511 - (cgroup.take 511).length + 12) 0) := by
  have ht : (if cgroup.length ≥ 512 then cgroup.take 511 else cgroup) = cgroup.take 511 := by
    split
    · rfl
    · exact (List.take_of_length_le (by omega)).symm
  rw [nftXtCgroupMatch]
  rw [ht]
  simp [List.replicate_add]

lemma takeWhile_xtmatch (c : Cgroup) : (c.xtmatch.drop 4).takeWhile (· ≠ 0) = c.path.take 511 := by
  have h : ∀ b ∈ c.path.take 511, decide (b ≠ 0) = true := by
    intro b hb
    rw [decide_eq_true_eq]
    rintro rfl
    exact c.nonzero (List.mem_of_mem_take hb)
  rw [Cgroup.xtmatch, nftXtCgroupMatch_eq, List.drop_succ_cons, List.drop_succ_cons, List.drop_succ_cons,
    List.drop_succ_cons, List.drop_zero, List.takeWhile_append_of_pos h]
  simp

lemma xtmatch_eq_iff {c c' : Cgroup} : c.xtmatch = c'.xtmatch ↔ c.path.take 511 = c'.path.take 511 := by
  constructor
  · intro h
    rw [← takeWhile_xtmatch c, ← takeWhile_xtmatch c', h]
  · intro h
    rw [Cgroup.xtmatch, Cgroup.xtmatch, nftXtCgroupMatch_eq, nftXtCgroupMatch_eq, h]

end VpnClient.Linux

/-! The daemon on Linux: the methods that it offers on the bus, their authorization, and the split tunnel of the
control groups that the tracker of applications finds. -/

namespace VpnClient.Linux

open Backend Library.Attempts Library.Attempts.Attempt Library.Nftables

/-- The last index at which the text has the pattern. -/
def lastIndexOf (pattern text : List Char) : Option ℕ :=
  (List.range (text.length + 1)).reverse.find? fun i => pattern.isPrefixOf (text.drop i)

def desktopFileId (path : String) : String :=
  if '/' ∉ path.toList then path
  else
    let dirComponent := "/applications/".toList
    let index :=
      match lastIndexOf dirComponent path.toList with
      | some index => index + dirComponent.length
      | none => ((lastIndexOf ['/'] path.toList).getD 0) + 1
    String.ofList ((path.toList.drop index).map fun c => if c = '/' then '-' else c)

inductive AppState where
  | Active
  | Excluded
  deriving DecidableEq, Repr

/-- What the bus tells about a call: the method, the user of the sender, and whether its process has
`CAP_NET_ADMIN`. -/
structure Message where
  member : String
  serviceUid : Option ℕ
  netAdmin : Bool

/-- The application scopes in a directory, each with the desktop file that is found for it. -/
structure Listing where
  scopes : List (Cgroup × String)
  nodup : (scopes.map Prod.fst).Nodup

structure DBusService where
  daemon : Daemon := {}
  sessionUid : ℕ := 0
  runningCgroups : AList fun _ : Cgroup => String := ∅
  excludedApps : String → Option AppState := fun _ => none
  excludedCgroups : Cgroup → Option AppState := fun _ => none
  chains : CgroupChains := {}

namespace DBusService

def excludeCgroup (cgroup : Cgroup) (s : DBusService) : DBusService :=
  { s with chains := s.chains.markCgroupV2 cgroup.path }

def resetCgroup (cgroup : Cgroup) (s : DBusService) : DBusService :=
  { s with chains := s.chains.resetCgroupV2 cgroup.path }

def resetAllCgroups (s : DBusService) : DBusService := { s with chains := s.chains.resetAllCgroupsV2 }

/-- The last lines of `appLaunched` and of the loop of `setAppState`. -/
def applyState (cgroup : Cgroup) (state : AppState) (s : DBusService) : DBusService :=
  let s := { s with excludedCgroups := Function.update s.excludedCgroups cgroup (some state) }
  if state = .Excluded then s.excludeCgroup cgroup else s

def appLaunched (cgroup : Cgroup) (desktopFileId : String) (s : DBusService) : DBusService :=
  let state := (s.excludedApps desktopFileId).getD .Active
  if state = .Active then s else s.applyState cgroup state

def appTerminated (cgroup : Cgroup) (s : DBusService) : DBusService :=
  if (s.excludedCgroups cgroup).isSome then
    resetCgroup cgroup { s with excludedCgroups := Function.update s.excludedCgroups cgroup none }
  else s

def findByDesktopFileId (desktopFileId : String) (s : DBusService) : List Cgroup :=
  s.runningCgroups.keys.filter fun cgroup => s.runningCgroups.lookup cgroup = some desktopFileId

def setAppState (desktopFileId : String) (state : AppState) (s : DBusService) : DBusService :=
  if state = .Active then
    (s.findByDesktopFileId desktopFileId).foldl (fun s cgroup => s.resetCgroup cgroup)
      { s with excludedApps := Function.update s.excludedApps desktopFileId none }
  else
    (s.findByDesktopFileId desktopFileId).foldl
      (fun s cgroup =>
        (if (s.excludedCgroups cgroup).isSome then s.resetCgroup cgroup else s).applyState cgroup state)
      { s with excludedApps := Function.update s.excludedApps desktopFileId (some state) }

def clearAppStates (s : DBusService) : DBusService :=
  { s.resetAllCgroups with excludedCgroups := fun _ => none, excludedApps := fun _ => none }

/-- A scope that `cgroupsChanged` finds in the directory, with the old scopes that it has not found so far. -/
def scopeFound (p : List Cgroup × DBusService) (scope : Cgroup × String) : List Cgroup × DBusService :=
  if scope.1 ∈ p.1 then (p.1.filter (· ≠ scope.1), p.2)
  else
    (p.1, appLaunched scope.1 scope.2 { p.2 with runningCgroups := p.2.runningCgroups.insert scope.1 scope.2 })

/-- An old scope that `cgroupsChanged` has not found. -/
def scopeMissing (directory : Data) (s : DBusService) (scope : Cgroup) : DBusService :=
  if scope.absolutePath = directory then
    appTerminated scope { s with runningCgroups := s.runningCgroups.erase scope }
  else s

def cgroupsChanged (directory : Data) (newScopes : Listing) (s : DBusService) : DBusService :=
  let p := newScopes.scopes.foldl scopeFound (s.runningCgroups.keys, s)
  p.1.foldl (scopeMissing directory) p.2

/-- A call without a message comes from the daemon itself. -/
def isCallerAuthorized : Option Message → Attempt DBusService
  | none => succeed id
  | some message => fun s =>
    if s.sessionUid ≠ 0 then
      if message.serviceUid = some s.sessionUid then (true, s) else (message.netAdmin, s)
    else if message.member = "activate" then
      match message.serviceUid with
      | some uid => if uid ≠ 0 then (true, { s with sessionUid := uid }) else (message.netAdmin, s)
      | none => (message.netAdmin, s)
    else (message.netAdmin, s)

def onDaemon (a : Attempt Daemon) : Attempt DBusService := fun s =>
  ((a s.daemon).1, { s with daemon := (a s.daemon).2 })

def emitFailure (a : Attempt DBusService) : Attempt DBusService := fun s =>
  let r := a s
  (r.1, if r.1 then r.2 else { r.2 with daemon := r.2.daemon.emit .activationFailure })

variable (env : Env)

def deactivate (message : Option Message) (emitSignals : Bool) : Attempt DBusService :=
  (isCallerAuthorized message).andThen <|
  (succeed fun s => clearAppStates { s with sessionUid := 0 }).andThen <|
  onDaemon (Daemon.deactivate env emitSignals)

/-- The daemon's `activate` with at most `depth` nested calls of itself, whose `deactivate` is the one above. -/
def activateNested (message : Option Message) (config : InterfaceConfig) : ℕ → Attempt DBusService
  | 0 => fun s => (false, s)
  | depth + 1 => emitFailure fun s =>
    if (s.daemon.connections config.hopType).isSome then
      if s.daemon.connections.supportServerSwitching config then onDaemon (Daemon.switchHop env config) s
      else ((deactivate env message false).andThen (activateNested message config depth)) s
    else onDaemon (Daemon.activateHop env config) s

def excludeApps (config : InterfaceConfig) (s : DBusService) : DBusService :=
  config.vpnDisabledApps.foldl (fun s app => s.setAppState (desktopFileId app) .Excluded) s.clearAppStates

/-- The configuration is missing if the text is none. -/
def activate (message : Option Message) (config : Option InterfaceConfig) : Attempt DBusService :=
  (isCallerAuthorized message).andThen fun s =>
    match config with
    | none => (false, s)
    | some config => ((activateNested env message config 2).andThen (succeed (excludeApps config))) s

/-- The sender of a call. -/
structure Caller where
  uid : Option ℕ
  netAdmin : Bool

inductive Call where
  | activate (config : Option InterfaceConfig)
  | deactivate
  | getLogs

def Call.member : Call → String
  | .activate _ => "activate"
  | .deactivate => "deactivate"
  | .getLogs => "getLogs"

def Call.message (call : Call) (caller : Caller) : Message := ⟨call.member, caller.uid, caller.netAdmin⟩

/-- Of `getLogs` only whether it gives out the logs. -/
def serve (caller : Caller) (call : Call) : Attempt DBusService :=
  match call with
  | .activate config => activate env (call.message caller) config
  | .deactivate => deactivate env (call.message caller) true
  | .getLogs => isCallerAuthorized (call.message caller)

inductive Event where
  | call (caller : Caller) (call : Call)
  | quitRequested
  | handshakeTimeout (peers : List Daemon.PeerStatus)
  | cgroupsChanged (directory : Data) (newScopes : Listing)

def step (s : DBusService) : Event → DBusService
  | .call caller call => (serve env caller call s).2
  | .quitRequested => (deactivate env none true s).2
  | .handshakeTimeout peers => { s with daemon := s.daemon.step env (.handshakeTimeout peers) }
  | .cgroupsChanged directory newScopes => s.cgroupsChanged directory newScopes

end DBusService

end VpnClient.Linux
