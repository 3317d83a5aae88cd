import Mathlib.Tactic

/-! The features of the client, and how they follow the two lists of flipped features. -/

namespace VpnClient.Features

/-- The features in the order of their construction, and a rank below which their dependencies lie. -/
structure FeatureList where
  ids : List String
  flippableOn : String → Bool
  flippableOff : String → Bool
  dependencies : String → List String
  callback : String → Bool
  experimentalFeatureIds : List String
  rank : String → ℕ
  mem_of_dependency : ∀ id, ∀ d ∈ dependencies id, d ∈ ids
  rank_lt : ∀ id, ∀ d ∈ dependencies id, rank d < rank id
  experimental : ∀ id ∈ experimentalFeatureIds, id ∈ ids ∧ flippableOn id = true ∧ flippableOff id = true ∧
    dependencies id = [] ∧ callback id = false

inductive FlipState where
  | DefaultValue
  | FlippedOn
  | FlippedOff
  deriving DecidableEq

/-- The two settings, which may not be set, and the states of the features. -/
structure Flips where
  featuresFlippedOn : Option (List String) := none
  featuresFlippedOff : Option (List String) := none
  state : String → FlipState := fun _ => .DefaultValue

namespace Flips

def on (s : Flips) : List String := s.featuresFlippedOn.getD []

def off (s : Flips) : List String := s.featuresFlippedOff.getD []

def setState (s : Flips) (id : String) (state : FlipState) : Flips :=
  { s with state := Function.update s.state id state }

def withOn (s : Flips) (flips : List String) : Flips := { s with featuresFlippedOn := some flips }

def withOff (s : Flips) (flips : List String) : Flips := { s with featuresFlippedOff := some flips }

@[simp] lemma on_setState (s : Flips) (id : String) (state : FlipState) : (s.setState id state).on = s.on := rfl

@[simp] lemma off_setState (s : Flips) (id : String) (state : FlipState) : (s.setState id state).off = s.off := rfl

@[simp] lemma state_setState_self (s : Flips) (id : String) (state : FlipState) : (s.setState id state).state id = state :=
  Function.update_self ..

lemma state_setState_of_ne {id other : String} (h : other ≠ id) (s : Flips) (state : FlipState) :
    (s.setState id state).state other = s.state other := Function.update_of_ne h ..

@[simp] lemma on_withOn (s : Flips) (flips : List String) : (s.withOn flips).on = flips := rfl

@[simp] lemma off_withOn (s : Flips) (flips : List String) : (s.withOn flips).off = s.off := rfl

@[simp] lemma state_withOn (s : Flips) (flips : List String) : (s.withOn flips).state = s.state := rfl

@[simp] lemma on_withOff (s : Flips) (flips : List String) : (s.withOff flips).on = s.on := rfl

@[simp] lemma off_withOff (s : Flips) (flips : List String) : (s.withOff flips).off = flips := rfl

@[simp] lemma state_withOff (s : Flips) (flips : List String) : (s.withOff flips).state = s.state := rfl

/-- The state that the settings give a feature. -/
def listState (s : Flips) (id : String) : FlipState :=
  if id ∈ s.on then .FlippedOn else if id ∈ s.off then .FlippedOff else .DefaultValue

end Flips

namespace FeatureList

variable (F : FeatureList)

def isFlippedOn (ignoreCache : Bool) (s : Flips) (id : String) : Bool :=
  F.flippableOn id && if ignoreCache then decide (id ∈ s.on) else decide (s.state id = .FlippedOn)

def isFlippedOff (ignoreCache : Bool) (s : Flips) (id : String) : Bool :=
  F.flippableOff id && if ignoreCache then decide (id ∈ s.off) else decide (s.state id = .FlippedOff)

/-- `isSupported`, where at most `n` dependencies are followed one after another. -/
def isSupportedWithin : ℕ → Bool → Flips → String → Bool
  | 0, _, _, _ => false
  | n + 1, ignoreCache, s, id =>
    F.isFlippedOn ignoreCache s id || !F.isFlippedOff ignoreCache s id &&
      (F.callback id && (F.dependencies id).all (isSupportedWithin n false s))

def isSupported (ignoreCache : Bool) (s : Flips) (id : String) : Bool :=
  F.isSupportedWithin (F.rank id + 1) ignoreCache s id

def isSupportedIgnoringFlip (s : Flips) (id : String) : Bool :=
  F.callback id && (F.dependencies id).all (F.isSupported false s)

def isToggleable (s : Flips) (id : String) : Bool :=
  F.isSupportedIgnoringFlip s id && F.flippableOff id || !F.isSupportedIgnoringFlip s id && F.flippableOn id

/-- The ids that are not in a list yet are added to it. -/
def appendMissing (flips ids : List String) : List String :=
  ids.foldl (fun flips id => if id ∈ flips then flips else flips ++ [id]) flips

/-- The slot of a feature for a change of a list, where `setOn` is `setFeaturesFlippedOn`. -/
def maybeFlipOnOrOff (setOn : List String → Flips → Option Flips) (id : String) (s : Flips) : Option Flips :=
  if s.listState id = s.state id then
    if s.listState id = .FlippedOn ∧ ∃ d ∈ F.dependencies id, F.isSupported true s d = false then
      setOn (s.on.filter (· ≠ id)) s
    else some s
  else if s.listState id ≠ .FlippedOn then some (s.setState id (s.listState id))
  else
    let s := s.setState id .FlippedOn
    let featuresToFlipOnAndCheck := (F.dependencies id).filter fun d => F.isSupported true s d = false
    if ∃ d ∈ featuresToFlipOnAndCheck, F.flippableOn d = false then some (s.setState id .DefaultValue)
    else if featuresToFlipOnAndCheck = [] then some s
    else
      (setOn (appendMissing s.on featuresToFlipOnAndCheck) s).map fun s =>
        if ∃ d ∈ featuresToFlipOnAndCheck, F.isSupported false s d = false then s.setState id .DefaultValue else s

/-- The signal of a change reaches the slots one after another. -/
def emitChanged (slot : String → Flips → Option Flips) : List String → Flips → Option Flips
  | [], s => some s
  | id :: ids, s => (slot id s).bind (emitChanged slot ids)

/-- The features that follow the list of those that are flipped on. -/
def onSlots : List String := F.ids.filter (F.flippableOn ·)

def offSlots : List String := F.ids.filter (F.flippableOff ·)

/-- A slot, where signals are nested at most `n` deep. -/
def slot : ℕ → String → Flips → Option Flips
  | 0, _, _ => none
  | n + 1, id, s => F.maybeFlipOnOrOff
    (fun flips s => if s.featuresFlippedOn = some flips then some s
      else emitChanged (slot n) F.onSlots (s.withOn flips)) id s

def setFeaturesFlippedOn (n : ℕ) (flips : List String) (s : Flips) : Option Flips :=
  if s.featuresFlippedOn = some flips then some s
  else emitChanged (F.slot n) F.onSlots (s.withOn flips)

def setFeaturesFlippedOff (n : ℕ) (flips : List String) (s : Flips) : Option Flips :=
  if s.featuresFlippedOff = some flips then some s
  else emitChanged (F.slot n) F.offSlots (s.withOff flips)

end FeatureList

end VpnClient.Features
