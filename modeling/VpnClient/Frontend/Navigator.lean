import Mathlib.Data.List.Chain
import Mathlib.Logic.Function.Basic

/-! The navigator: which screens the app can show, the one it shows and the history that leads back from it. -/

namespace VpnClient.Frontend

inductive LoadPolicy
  | LoadPersistently
  | LoadTemporarily
  deriving DecidableEq, Repr

inductive LoadingFlags
  | NoFlags
  | ForceReload
  | ForceReloadAll
  deriving DecidableEq, Repr

/-- What the priority getters read: the state of the app and its features. -/
structure App (F : Type) where
  state : ℤ
  features : F

/-- A QML component, by its place in the order in which the engine has made them. -/
abbrev QQmlComponent := ℕ

structure ScreenData (F : Type) where
  screen : ℤ
  loadPolicy : LoadPolicy
  requiredState : List ℤ
  priorityGetter : App F → Option ℤ → ℤ

structure NavigatorReloader where
  id : ℕ
  deriving DecidableEq, Repr

/-- The navigator, with the components that the registered screens cache. -/
structure Navigator where
  currentScreen : ℤ := -1
  currentLoadPolicy : LoadPolicy := .LoadTemporarily
  currentLoadingFlags : LoadingFlags := .NoFlags
  currentComponent : Option QQmlComponent := none
  screenHistory : List ℤ := []
  reloaders : List NavigatorReloader := []
  qmlComponent : ℕ → Option QQmlComponent := fun _ => none
  engine : QQmlComponent := 0

variable {F : Type}

def computeScreen (app : App F) (screen : ScreenData F) (requestedScreen : Option ℤ) : Bool :=
  if screen.priorityGetter app requestedScreen < 0 then false
  else if screen.requiredState ≠ [] ∧ app.state ∉ screen.requiredState then false
  else true

/-- The screens that can be shown, each with the position it is registered at. -/
def computeScreens (screens : List (ScreenData F)) (app : App F) (requestedScreen : Option ℤ) :
    List (ScreenData F × ℕ) :=
  screens.zipIdx.filter fun p => computeScreen app p.1 requestedScreen

def higherPriority (app : App F) (top : Option (ScreenData F × ℕ)) (screen : ScreenData F × ℕ) :
    Option (ScreenData F × ℕ) :=
  match top with
  | none => some screen
  | some best => if best.1.priorityGetter app none < screen.1.priorityGetter app none then some screen else top

/-- The first of the screens of the highest priority. -/
def topPriorityScreen (app : App F) (screens : List (ScreenData F × ℕ)) : Option (ScreenData F × ℕ) :=
  screens.foldl (higherPriority app) none

namespace Navigator

def maybeGenerateComponent (index : ℕ) (m : Navigator) : Navigator :=
  if m.qmlComponent index = none then
    { m with qmlComponent := Function.update m.qmlComponent index (some m.engine), engine := m.engine + 1 }
  else m

def loadScreen (screen : ℤ) (loadPolicy : LoadPolicy) (component : Option QQmlComponent)
    (loadingFlags : LoadingFlags) (m : Navigator) : Navigator :=
  if screen = m.currentScreen then m
  else
    let loadingFlags :=
      if m.reloaders ≠ [] ∧ loadingFlags = .NoFlags then .ForceReload else loadingFlags
    let m :=
      if m.screenHistory = [] ∨ screen ≠ m.currentScreen then
        { m with screenHistory := m.screenHistory ++ [screen], currentScreen := screen }
      else m
    { m with
      currentLoadPolicy := loadPolicy
      currentComponent := component
      currentLoadingFlags := loadingFlags }

variable (screens : List (ScreenData F))

/-- Some screen is asserted to be available. -/
def computeComponent (app : App F) (m : Navigator) : Navigator :=
  match topPriorityScreen app (computeScreens screens app none) with
  | none => m
  | some (screen, index) =>
    let m := m.maybeGenerateComponent index
    m.loadScreen screen.screen screen.loadPolicy (m.qmlComponent index) .ForceReloadAll

def requestScreen (app : App F) (requestedScreen : ℤ) (loadingFlags : LoadingFlags) (m : Navigator) :
    Navigator :=
  let loadingFlags :=
    if m.reloaders ≠ [] ∧ loadingFlags = .NoFlags then .ForceReload else loadingFlags
  match (computeScreens screens app (some requestedScreen)).find? (·.1.screen = requestedScreen) with
  | none => m
  | some (screen, index) =>
    let m := m.maybeGenerateComponent index
    if m.qmlComponent index = m.currentComponent ∧ loadingFlags = .NoFlags then m
    else m.loadScreen screen.screen screen.loadPolicy (m.qmlComponent index) loadingFlags

def requestPreviousScreen (app : App F) (m : Navigator) : Navigator :=
  if m.screenHistory.length ≤ 1 then m
  else
    let m := { m with screenHistory := m.screenHistory.dropLast }
    let requestedScreen := m.screenHistory.getLastD (-1)
    let m := { m with screenHistory := m.screenHistory.dropLast }
    m.requestScreen screens app requestedScreen .NoFlags

def registerReloader (reloader : NavigatorReloader) (m : Navigator) : Navigator :=
  { m with reloaders := m.reloaders ++ [reloader] }

def unregisterReloader (reloader : NavigatorReloader) (m : Navigator) : Navigator :=
  { m with reloaders := m.reloaders.erase reloader }

def reloadCurrentScreen (app : App F) (m : Navigator) : Navigator :=
  m.requestScreen screens app m.currentScreen .ForceReloadAll

inductive Event (F : Type)
  | stateChanged (app : App F)
  | supportedChanged (app : App F)
  | requestScreen (app : App F) (requestedScreen : ℤ) (loadingFlags : LoadingFlags)
  | requestPreviousScreen (app : App F)
  | reloadCurrentScreen (app : App F)
  | registerReloader (reloader : NavigatorReloader)
  | unregisterReloader (reloader : NavigatorReloader)

def step (m : Navigator) : Event F → Navigator
  | .stateChanged app => m.computeComponent screens app
  | .supportedChanged app => m.computeComponent screens app
  | .requestScreen app requestedScreen loadingFlags => m.requestScreen screens app requestedScreen loadingFlags
  | .requestPreviousScreen app => m.requestPreviousScreen screens app
  | .reloadCurrentScreen app => m.reloadCurrentScreen screens app
  | .registerReloader reloader => m.registerReloader reloader
  | .unregisterReloader reloader => m.unregisterReloader reloader

end Navigator

end VpnClient.Frontend
