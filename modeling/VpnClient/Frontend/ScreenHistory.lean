import Mathlib.Tactic
import VpnClient.Frontend.Navigator
import VpnClient.Library.Runs

/-! The history of the navigator: it ends in the current screen, and the way back is one entry shorter. -/

namespace VpnClient.Frontend

open Library.Runs

variable {F : Type} {screens : List (ScreenData F)} {app : App F} {requestedScreen : Option ℤ}
  {p : ScreenData F × ℕ}

lemma higherPriority_cases (app : App F) (top : Option (ScreenData F × ℕ)) (screen : ScreenData F × ℕ) :
    higherPriority app top screen = some screen ∨ higherPriority app top screen = top := by
  cases top with
  | none => exact .inl rfl
  | some best =>
    dsimp only [higherPriority]
    split_ifs
    · exact .inl rfl
    · exact .inr rfl

lemma mem_of_foldl_higherPriority {l : List (ScreenData F × ℕ)} {top : Option (ScreenData F × ℕ)}
    (h : l.foldl (higherPriority app) top = some p) : p ∈ l ∨ top = some p := by
  induction l generalizing top with
  | nil => exact .inr h
  | cons screen l ih =>
    rcases ih h with hl | ht
    · exact .inl (.tail _ hl)
    · rcases higherPriority_cases app top screen with he | he <;> rw [he] at ht
      · cases ht
        exact .inl (.head _)
      · exact .inr ht

lemma mem_of_topPriorityScreen {l : List (ScreenData F × ℕ)} (h : topPriorityScreen app l = some p) : p ∈ l :=
  (mem_of_foldl_higherPriority h).resolve_right (by simp)

namespace Navigator

variable {m : Navigator} {index : ℕ} {screen : ℤ} {loadPolicy : LoadPolicy} {loadingFlags : LoadingFlags}
  {component : Option QQmlComponent}

/-- The screen can be requested in this state of the app. -/
def Available (screens : List (ScreenData F)) (app : App F) (screen : ℤ) : Prop :=
  ∃ p ∈ computeScreens screens app (some screen), p.1.screen = screen

instance (screens : List (ScreenData F)) (app : App F) (screen : ℤ) : Decidable (Available screens app screen) :=
  inferInstanceAs (Decidable (∃ p ∈ _, _))

/-- The component is the one of a screen that is registered under this number. -/
def Shows (screens : List (ScreenData F)) (m : Navigator) : Prop :=
  ∃ p ∈ screens.zipIdx, p.1.screen = m.currentScreen ∧ m.qmlComponent p.2 = m.currentComponent

instance (screens : List (ScreenData F)) (m : Navigator) : Decidable (m.Shows screens) :=
  inferInstanceAs (Decidable (∃ p ∈ _, _))

/-- What holds from the first load on. -/
def Consistent (screens : List (ScreenData F)) (m : Navigator) : Prop :=
  m.screenHistory.getLast? = some m.currentScreen ∧ m.screenHistory.IsChain (· ≠ ·) ∧ m.Shows screens

instance (screens : List (ScreenData F)) (m : Navigator) : Decidable (m.Consistent screens) :=
  inferInstanceAs (Decidable (_ ∧ _))

/-- The screen before the last of the history. -/
def previousScreen (m : Navigator) : ℤ := m.screenHistory.dropLast.getLastD (-1)

/-- The way back leads to the screen before the last, or nowhere if that is not available. -/
def GoesBack (screens : List (ScreenData F)) (app : App F) (m : Navigator) : Prop :=
  (Available screens app m.previousScreen →
      (m.requestPreviousScreen screens app).currentScreen = m.previousScreen ∧
        (m.requestPreviousScreen screens app).screenHistory = m.screenHistory.dropLast) ∧
    (¬Available screens app m.previousScreen →
      (m.requestPreviousScreen screens app).currentScreen = m.currentScreen ∧
        (m.requestPreviousScreen screens app).screenHistory = m.screenHistory)

instance (screens : List (ScreenData F)) (app : App F) (m : Navigator) : Decidable (m.GoesBack screens app) :=
  inferInstanceAs (Decidable ((_ → _) ∧ (_ → _)))

def Sound (screens : List (ScreenData F)) (m : Navigator) (e : Event F) : Prop :=
  ((m.step screens e).currentComponent ≠ none → (m.step screens e).Consistent screens) ∧
    match e with
    | .requestPreviousScreen app => 2 ≤ m.screenHistory.length → m.GoesBack screens app
    | _ => True

/-- The way back is not asked for while the screen that it leads to is not available. -/
def Reachable (screens : List (ScreenData F)) (m : Navigator) : Event F → Prop
  | .requestPreviousScreen app => 2 ≤ m.screenHistory.length → Available screens app m.previousScreen
  | _ => True

/-- The screens have components of their own, and nothing is loaded or the history is consistent. -/
structure Inv (screens : List (ScreenData F)) (m : Navigator) : Prop where
  made : ∀ index component, m.qmlComponent index = some component → component < m.engine
  own : ∀ i j component, m.qmlComponent i = some component → m.qmlComponent j = some component → i = j
  loaded : m.currentComponent = none ∧ m.screenHistory = [] ∨
    m.currentComponent ≠ none ∧ m.Consistent screens

variable (index) in
lemma Inv.generate (h : m.Inv screens) : (m.maybeGenerateComponent index).Inv screens := by
  rw [maybeGenerateComponent]
  split
  case isFalse => exact h
  case isTrue hn =>
    have hu : ∀ i component, Function.update m.qmlComponent index (some m.engine) i = some component →
        m.qmlComponent i = some component ∨ i = index ∧ component = m.engine := by
      intro i component hi
      rcases eq_or_ne i index with rfl | hne
      · rw [Function.update_self] at hi
        exact .inr ⟨rfl, (Option.some.inj hi).symm⟩
      · rw [Function.update_of_ne hne] at hi
        exact .inl hi
    refine ⟨fun i component hi => ?_, fun i j component hi hj => ?_, ?_⟩
    · rcases hu i component hi with hi | ⟨-, rfl⟩
      · exact (h.made i component hi).trans (Nat.lt_succ_self _)
      · exact Nat.lt_succ_self _
    · rcases hu i component hi with hi' | ⟨rfl, rfl⟩ <;> rcases hu j _ hj with hj' | ⟨rfl, he⟩
      · exact h.own i j component hi' hj'
      · exact absurd (h.made i component hi') (he ▸ lt_irrefl _)
      · exact absurd (h.made j _ hj') (lt_irrefl _)
      · rfl
    · refine h.loaded.imp id fun ⟨hc, hl, hd, p, hp, hs, hq⟩ => ⟨hc, hl, hd, p, hp, hs, ?_⟩
      exact (Function.update_of_ne (fun he => hc (hq.symm.trans ((congrArg m.qmlComponent he).trans hn))) _ _).trans hq

lemma maybeGenerateComponent_frame (index : ℕ) (m : Navigator) :
    (m.maybeGenerateComponent index).currentScreen = m.currentScreen ∧
      (m.maybeGenerateComponent index).screenHistory = m.screenHistory ∧
      (m.maybeGenerateComponent index).currentComponent = m.currentComponent := by
  rw [maybeGenerateComponent]
  split <;> exact ⟨rfl, rfl, rfl⟩

lemma qmlComponent_maybeGenerateComponent (index : ℕ) (m : Navigator) :
    (m.maybeGenerateComponent index).qmlComponent index ≠ none := by
  rw [maybeGenerateComponent]
  split
  · simp
  · next hn => exact hn

lemma loadScreen_self : m.loadScreen m.currentScreen loadPolicy component loadingFlags = m := if_pos rfl

variable (loadPolicy loadingFlags component) in
lemma loadScreen_of_ne (h : screen ≠ m.currentScreen) :
    ∃ flags, m.loadScreen screen loadPolicy component loadingFlags =
      { m with
        screenHistory := m.screenHistory ++ [screen], currentScreen := screen, currentLoadPolicy := loadPolicy,
        currentComponent := component, currentLoadingFlags := flags } := by
  refine ⟨if m.reloaders ≠ [] ∧ loadingFlags = .NoFlags then .ForceReload else loadingFlags, ?_⟩
  rw [loadScreen, if_neg h]
  dsimp only
  rw [if_pos (Or.inr h)]

lemma isChain_concat {l : List ℤ} {last : ℤ} (hc : l.IsChain (· ≠ ·)) (hl : l.getLast? = some last)
    (hn : screen ≠ last) : (l ++ [screen]).IsChain (· ≠ ·) := by
  refine hc.append (List.isChain_singleton _) fun x hx y hy => ?_
  rw [hl] at hx
  cases hx
  cases hy
  exact hn.symm

lemma Inv.loadScreen (h : m.Inv screens) (hp : p ∈ screens.zipIdx) (hc : m.qmlComponent p.2 ≠ none) :
    (m.loadScreen p.1.screen loadPolicy (m.qmlComponent p.2) loadingFlags).Inv screens := by
  rcases eq_or_ne p.1.screen m.currentScreen with he | hn
  · rw [he, loadScreen_self]
    exact h
  · obtain ⟨flags, he⟩ := loadScreen_of_ne loadPolicy loadingFlags (m.qmlComponent p.2) hn
    rw [he]
    refine ⟨h.made, h.own, .inr ⟨hc, by simp, ?_, p, hp, rfl, rfl⟩⟩
    rcases h.loaded with ⟨-, hh⟩ | ⟨-, hl, hd, -⟩
    · simp [hh]
    · exact isChain_concat hd hl hn

lemma Inv.load (h : m.Inv screens) (hp : p ∈ screens.zipIdx) :
    ((m.maybeGenerateComponent p.2).loadScreen p.1.screen loadPolicy ((m.maybeGenerateComponent p.2).qmlComponent p.2)
      loadingFlags).Inv screens :=
  (h.generate p.2).loadScreen hp (qmlComponent_maybeGenerateComponent _ _)

lemma requestScreen_of_not_available (h : ¬Available screens app screen) :
    m.requestScreen screens app screen loadingFlags = m := by
  have hf : (computeScreens screens app (some screen)).find? (·.1.screen = screen) = none :=
    List.find?_eq_none.mpr fun p hp he => h ⟨p, hp, of_decide_eq_true he⟩
  rw [requestScreen, hf]

variable (m) (loadingFlags) in
lemma requestScreen_of_available (h : Available screens app screen) :
    ∃ p ∈ screens.zipIdx, p.1.screen = screen ∧ ∃ flags,
      m.requestScreen screens app screen loadingFlags =
        if (m.maybeGenerateComponent p.2).qmlComponent p.2 = m.currentComponent ∧ flags = .NoFlags then
          m.maybeGenerateComponent p.2
        else (m.maybeGenerateComponent p.2).loadScreen p.1.screen p.1.loadPolicy
          ((m.maybeGenerateComponent p.2).qmlComponent p.2) flags := by
  obtain ⟨q, hq, hs⟩ := h
  cases hf : (computeScreens screens app (some screen)).find? (·.1.screen = screen) with
  | none => exact absurd (decide_eq_true hs) (List.find?_eq_none.mp hf q hq)
  | some p =>
    refine ⟨p, List.mem_of_mem_filter (List.mem_of_find?_eq_some hf), by simpa using List.find?_some hf,
      if m.reloaders ≠ [] ∧ loadingFlags = .NoFlags then .ForceReload else loadingFlags, ?_⟩
    rw [requestScreen, hf]
    dsimp only
    rw [(maybeGenerateComponent_frame p.2 m).2.2]

lemma inv_requestScreen (h : m.Inv screens) : (m.requestScreen screens app screen loadingFlags).Inv screens := by
  by_cases ha : Available screens app screen
  · obtain ⟨p, hp, -, flags, he⟩ := requestScreen_of_available m loadingFlags ha
    rw [he]
    split
    · exact h.generate p.2
    · exact h.load hp
  · rw [requestScreen_of_not_available ha]
    exact h

lemma inv_computeComponent (h : m.Inv screens) : (m.computeComponent screens app).Inv screens := by
  rw [computeComponent]
  split
  · exact h
  · next screen index ht => exact h.load (p := (screen, index)) (List.mem_of_mem_filter (mem_of_topPriorityScreen ht))

lemma requestPreviousScreen_eq (h : 2 ≤ m.screenHistory.length) : m.requestPreviousScreen screens app =
    { m with screenHistory := m.screenHistory.dropLast.dropLast }.requestScreen screens app m.previousScreen
      .NoFlags :=
  if_neg (by omega)

lemma Consistent.exists_previous (h : m.Consistent screens) (hl : 2 ≤ m.screenHistory.length) :
    ∃ l, m.screenHistory = l ++ [m.previousScreen, m.currentScreen] ∧ m.previousScreen ≠ m.currentScreen := by
  obtain ⟨hlast, hc, -⟩ := h
  obtain ⟨l, hm⟩ := List.getLast?_eq_some_iff.mp hlast
  rcases List.eq_nil_or_concat' l with rfl | ⟨l, previous, rfl⟩
  · simp [hm] at hl
  have hp : m.previousScreen = previous := by simp [previousScreen, hm]
  rw [hp]
  rw [hm, List.append_assoc] at hc
  exact ⟨l, by rw [hm, List.append_assoc]; rfl, by simpa using (List.isChain_append.mp hc).2.1⟩

variable (screens app m) in
lemma requestPreviousScreen_of_not_available (hl : 2 ≤ m.screenHistory.length)
    (ha : ¬Available screens app m.previousScreen) :
    (m.requestPreviousScreen screens app).screenHistory ≠ m.screenHistory := by
  rw [requestPreviousScreen_eq hl, requestScreen_of_not_available ha]
  intro he
  have hlen := congrArg List.length he
  simp only [List.length_dropLast] at hlen
  omega

lemma Inv.eq_of_qmlComponent {q : ScreenData F × ℕ} (h : m.Inv screens) (hp : p ∈ screens.zipIdx)
    (hq : q ∈ screens.zipIdx) (hc : m.qmlComponent p.2 = m.qmlComponent q.2) (hn : m.qmlComponent q.2 ≠ none) :
    p = q := by
  obtain ⟨component, hs⟩ := Option.ne_none_iff_exists'.mp hn
  have hi := h.own p.2 q.2 component (hc.trans hs) hs
  rw [List.mk_mem_zipIdx_iff_getElem?] at hp hq
  rw [hi, hq] at hp
  exact Prod.ext (Option.some.inj hp).symm hi

variable (screens app) in
lemma Inv.requestPreviousScreen (h : m.Inv screens) (hl : 2 ≤ m.screenHistory.length)
    (ha : Available screens app m.previousScreen) :
    (m.requestPreviousScreen screens app).Inv screens ∧
      (m.requestPreviousScreen screens app).currentScreen = m.previousScreen ∧
      (m.requestPreviousScreen screens app).screenHistory = m.screenHistory.dropLast := by
  rcases h.loaded with ⟨-, hh⟩ | ⟨hc, hkc⟩
  · simp [hh] at hl
  obtain ⟨l, hm, hne⟩ := hkc.exists_previous hl
  have hd : m.screenHistory.dropLast = l ++ [m.previousScreen] := by rw [hm]; simp
  rw [requestPreviousScreen_eq hl, hd, List.dropLast_concat]
  obtain ⟨p, hp, hs, flags, he⟩ := requestScreen_of_available { m with screenHistory := l } .NoFlags ha
  obtain ⟨hcur, -, hcomp⟩ := maybeGenerateComponent_frame p.2 m
  have hg : { m with screenHistory := l : Navigator }.maybeGenerateComponent p.2 =
      { m.maybeGenerateComponent p.2 with screenHistory := l } := by
    unfold maybeGenerateComponent
    split <;> rfl
  have hk := h.generate p.2
  have hn : (m.maybeGenerateComponent p.2).qmlComponent p.2 ≠ m.currentComponent := by
    intro hq
    rcases hk.loaded with ⟨hc', -⟩ | ⟨-, -, -, q, hq', hs', hc'⟩
    · exact hc (hcomp.symm.trans hc')
    · rw [hcomp] at hc'
      cases hk.eq_of_qmlComponent hp hq' (hq.trans hc'.symm) (hc'.trans_ne hc)
      exact hne (hs.symm.trans (hs'.trans hcur))
  obtain ⟨flags', hload⟩ := loadScreen_of_ne (m := { m.maybeGenerateComponent p.2 with screenHistory := l })
    p.1.loadPolicy flags ((m.maybeGenerateComponent p.2).qmlComponent p.2)
    (show p.1.screen ≠ _ from fun he => hne (hs.symm.trans (he.trans hcur)))
  rw [he, hg, if_neg (fun hq => hn hq.1), hload, hs]
  refine ⟨⟨hk.made, hk.own, .inr ⟨qmlComponent_maybeGenerateComponent _ _, by simp, ?_, p, hp, hs, rfl⟩⟩, rfl, rfl⟩
  exact hd ▸ hkc.2.1.dropLast

lemma inv_step_of_reachable {e : Event F} (h : m.Inv screens) (hr : m.Reachable screens e) :
    (m.step screens e).Inv screens := by
  cases e with
  | stateChanged app => exact inv_computeComponent h
  | supportedChanged app => exact inv_computeComponent h
  | requestScreen app screen flags => exact inv_requestScreen h
  | requestPreviousScreen app =>
    rcases Nat.lt_or_ge m.screenHistory.length 2 with hl | hl
    · exact (congrArg (Inv screens) (if_pos (Nat.le_of_lt_succ hl))).mpr h
    · exact (h.requestPreviousScreen screens app hl (hr hl)).1
  | reloadCurrentScreen app => exact inv_requestScreen h
  | registerReloader reloader => exact ⟨h.made, h.own, h.loaded⟩
  | unregisterReloader reloader => exact ⟨h.made, h.own, h.loaded⟩

lemma Inv.consistent (h : m.Inv screens) (hc : m.currentComponent ≠ none) : m.Consistent screens :=
  (h.loaded.resolve_left fun hn => hc hn.1).2

lemma Inv.sound_iff {e : Event F} (h : m.Inv screens) : m.Sound screens e ↔ m.Reachable screens e := by
  constructor
  · rintro ⟨-, hb⟩
    cases e with
    | requestPreviousScreen app =>
      intro hl
      by_contra ha
      exact requestPreviousScreen_of_not_available screens app m hl ha ((hb hl).2 ha).2
    | _ => trivial
  · intro hr
    refine ⟨(inv_step_of_reachable h hr).consistent, ?_⟩
    cases e with
    | requestPreviousScreen app =>
      intro hl
      have ha := hr hl
      exact ⟨fun _ => (h.requestPreviousScreen screens app hl ha).2, fun hn => absurd ha hn⟩
    | _ => trivial

lemma inv_new (screens : List (ScreenData F)) : ({} : Navigator).Inv screens :=
  ⟨by simp, by simp, .inl ⟨rfl, rfl⟩⟩

/-- The history stays consistent and leads back as it should exactly in the runs that never ask for the way back
while the screen before the last is not available. -/
theorem sound_iff_reachable (screens : List (ScreenData F)) (events : List (Event F)) :
    Meets (step screens) (Sound screens) {} events ↔ Meets (step screens) (Reachable screens) {} events :=
  meets_congr (fun _ _ h hs => inv_step_of_reachable h (h.sound_iff.mp hs)) (fun _ _ h => h.sound_iff)
    (inv_new screens)

/-- Home and SubscriptionNeeded, each in the one state of the app that requires it, and GetHelp on request. -/
def helpScreens : List (ScreenData Unit) :=
  [⟨1009, .LoadTemporarily, [], fun _ requested => if requested = some 1009 then 99 else -1⟩,
    ⟨1010, .LoadTemporarily, [3], fun _ _ => 99⟩, ⟨1021, .LoadTemporarily, [5], fun _ _ => 0⟩]

/-- The back button of GetHelp is pressed twice after the app has left the state that Home requires. -/
theorem back_to_unavailable :
    ¬Meets (step helpScreens) (Sound helpScreens) {}
      [.stateChanged ⟨3, ()⟩, .stateChanged ⟨5, ()⟩, .requestScreen ⟨5, ()⟩ 1009 .NoFlags,
        .requestPreviousScreen ⟨5, ()⟩, .requestPreviousScreen ⟨5, ()⟩] :=
  fun h => absurd (h.2.2.2.2.1.1 (by decide)) (by decide)

end Navigator

end VpnClient.Frontend
