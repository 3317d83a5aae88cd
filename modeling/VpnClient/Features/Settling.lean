import VpnClient.Features.Endings
import VpnClient.Features.Toggles

/-! The settings after a cascade: the states agree with the lists and what is flipped on has what it needs, unless a
slot gives up, or support is taken from a feature that is not told of it. -/

namespace VpnClient.Features.FeatureList

open Flips

variable {F : FeatureList} {s t u : Flips} {id d x : String} {c : Bool} {n : ℕ} {slots outer ids B : List String}

/-- The states that the features are constructed with. -/
def constructed (F : FeatureList) (on off : Option (List String)) : Flips where
  featuresFlippedOn := on
  featuresFlippedOff := off
  state id :=
    if F.flippableOn id = true ∧ id ∈ on.getD [] then .FlippedOn
    else if F.flippableOff id = true ∧ id ∈ off.getD [] then .FlippedOff
    else .DefaultValue

/-- A change of one of the two settings. -/
inductive Change where
  | featuresFlippedOn (flips : List String)
  | featuresFlippedOff (flips : List String)

def react (F : FeatureList) (n : ℕ) (s : Flips) : Change → Option Flips
  | .featuresFlippedOn flips => F.setFeaturesFlippedOn n flips s
  | .featuresFlippedOff flips => F.setFeaturesFlippedOff n flips s

/-- A change takes no support from a feature that is flipped on, unless its slot is still to be called. -/
def Spares (F : FeatureList) (slots : List String) (s t : Flips) : Prop :=
  ∀ id ∈ F.ids, t.state id = .FlippedOn → id ∉ slots → ¬ Misses F s id → ¬ Misses F t id

instance decidableSpares (F : FeatureList) (slots : List String) (s t : Flips) : Decidable (Spares F slots s t) :=
  inferInstanceAs (Decidable (∀ id ∈ F.ids, _ → _ → _ → _))

/-- What the slots rely on, one after another, where others are still to be called by the signals around this one. -/
def emitFits (slot : String → Flips → Option Flips) (fits : List String → String → Flips → Prop) (outer : List String) :
    List String → Flips → Prop
  | [], _ => True
  | id :: ids, s => fits (ids ++ outer) id s ∧ ∀ t ∈ slot id s, emitFits slot fits outer ids t

/-- A slot does not give up, a feature that it drops is told of that, and it spares the features that are not told. -/
def maybeFits (F : FeatureList) (emits : Flips → Prop) (setOn : List String → Flips → Option Flips)
    (slots : List String) (id : String) (s : Flips) : Prop :=
  if s.listState id = s.state id then
    s.listState id = .FlippedOn ∧ Misses F s id → F.flippableOn id = true ∧
      Spares F (F.onSlots ++ slots) s (s.withOn (s.on.filter (· ≠ id))) ∧ emits (s.withOn (s.on.filter (· ≠ id)))
  else if s.listState id ≠ .FlippedOn then Spares F slots s (s.setState id (s.listState id))
  else
    (∀ d ∈ missing F s id, F.flippableOn d = true) ∧
      (missing F s id ≠ [] →
        emits ((s.setState id .FlippedOn).withOn (appendMissing s.on (missing F s id))) ∧
        ∀ t ∈ setOn (appendMissing s.on (missing F s id)) (s.setState id .FlippedOn),
          ∀ d ∈ missing F s id, F.isSupported false t d = true)

def slotFits (F : FeatureList) : ℕ → List String → String → Flips → Prop
  | 0, _, _, _ => True
  | n + 1, slots, id, s =>
    maybeFits F (emitFits (F.slot n) (slotFits F n) slots F.onSlots) (F.setFeaturesFlippedOn n) slots id s

instance decidableEmitFits (slot : String → Flips → Option Flips) (fits : List String → String → Flips → Prop)
    [∀ slots id s, Decidable (fits slots id s)] (outer : List String) :
    (ids : List String) → (s : Flips) → Decidable (emitFits slot fits outer ids s)
  | [], _ => isTrue trivial
  | id :: ids, s =>
    have := decidableEmitFits slot fits outer ids
    inferInstanceAs (Decidable (_ ∧ ∀ t ∈ slot id s, emitFits slot fits outer ids t))

instance decidableMaybeFits (F : FeatureList) (emits : Flips → Prop) [DecidablePred emits]
    (setOn : List String → Flips → Option Flips) (slots : List String) (id : String) (s : Flips) :
    Decidable (maybeFits F emits setOn slots id s) := by
  delta maybeFits
  infer_instance

instance decidableSlotFits (F : FeatureList) :
    (n : ℕ) → (slots : List String) → (id : String) → (s : Flips) → Decidable (slotFits F n slots id s)
  | 0, _, _, _ => isTrue trivial
  | n + 1, _, _, _ =>
    have := decidableSlotFits F n
    decidableMaybeFits ..

def Fits (F : FeatureList) (n : ℕ) (s : Flips) : Change → Prop
  | .featuresFlippedOn flips => s.featuresFlippedOn ≠ some flips →
    Spares F F.onSlots s (s.withOn flips) ∧ emitFits (F.slot n) (slotFits F n) [] F.onSlots (s.withOn flips)
  | .featuresFlippedOff flips => s.featuresFlippedOff ≠ some flips →
    Spares F F.offSlots s (s.withOff flips) ∧ emitFits (F.slot n) (slotFits F n) [] F.offSlots (s.withOff flips)

instance decidableFits (F : FeatureList) (n : ℕ) (s : Flips) : (change : Change) → Decidable (Fits F n s change)
  | .featuresFlippedOn _ => inferInstanceAs (Decidable (_ → _ ∧ _))
  | .featuresFlippedOff _ => inferInstanceAs (Decidable (_ → _ ∧ _))

/-- The settings and states that are reached from a start in which what is flipped on has what it needs. -/
inductive Reached (F : FeatureList) : Flips → Prop
  | constructed (on off : Option (List String))
    (h : ∀ id ∈ F.ids, (constructed F on off).state id = .FlippedOn → ¬ Misses F (constructed F on off) id) :
    Reached F (constructed F on off)
  | change {s t : Flips} {n : ℕ} (change : Change) (h : Reached F s) (hf : Fits F n s change)
    (ht : F.react n s change = some t) : Reached F t

/-- The states agree with the lists, also after a restart, and a feature that is flipped on has what it needs. -/
structure Consistent (F : FeatureList) (s : Flips) : Prop where
  agrees : ∀ id ∈ F.ids, F.flippableOn id = true → F.flippableOff id = true →
    s.state id = s.listState id ∧ F.isSupported true s id = F.isSupported false s id ∧
      (constructed F s.featuresFlippedOn s.featuresFlippedOff).state id = s.state id
  supported : ∀ id ∈ F.ids, s.state id = .FlippedOn → ∀ d ∈ F.dependencies id,
    F.isSupported true s d = true ∧ F.isSupported false s d = true

section Served

/-- A feature that is flipped on has what it needs, unless its slot is still to be called. -/
def Served (F : FeatureList) (slots : List String) (s : Flips) : Prop :=
  ∀ id ∈ F.ids, s.state id = .FlippedOn → id ∉ slots → ¬ Misses F s id

/-- What the slot of a feature leaves behind. -/
structure Told (F : FeatureList) (s : Flips) (id : String) : Prop where
  agrees : F.flippableOn id = true → Agrees s id
  off : s.state id = .FlippedOff → id ∈ s.off

lemma listState_eq_on : s.listState id = .FlippedOn ↔ id ∈ s.on := by
  rw [listState]
  split_ifs with hon <;> simp [hon]

lemma mem_off_of_listState (h : s.listState id = .FlippedOff) : id ∈ s.off := by
  rw [listState] at h
  split_ifs at h with hon hoff
  exact hoff

lemma Agrees.told (h : Agrees s id) : Told F s id := ⟨fun _ => h, fun hs => mem_off_of_listState (h.symm.trans hs)⟩

lemma closed_ids : Closed F (· ∈ F.ids) := fun id hid => ⟨hid, F.mem_of_dependency id⟩

lemma Rises.not_misses (h : Rises (· ∈ F.ids) s t) (hm : ¬ Misses F s id) : ¬ Misses F t id := by
  rintro ⟨d, hd, ht⟩
  exact hm ⟨d, hd, h.notSupported closed_ids (F.mem_of_dependency id d hd) ht⟩

/-- What a signal leaves behind of the features `B` that it is for. -/
structure Signalled (F : FeatureList) (B outer : List String) (s t : Flips) : Prop where
  served : Served F outer t
  told : ∀ id ∈ B, Told F t id
  off : t.off = s.off
  state : ∀ id, id ∉ B → id ∉ F.onSlots → t.state id = s.state id
  on : ∀ id ∈ F.onSlots, id ∉ B → (s.state id = .FlippedOn ↔ id ∈ s.on) → (t.state id = .FlippedOn ↔ id ∈ t.on)

structure Called (F : FeatureList) (slots : List String) (id : String) (s t : Flips) : Prop where
  served : Served F slots t
  told : Told F t id
  off : t.off = s.off
  state : ∀ x, x ≠ id → x ∉ F.onSlots → t.state x = s.state x
  rest : (t.on = s.on ∧ ∀ x, x ≠ id → t.state x = s.state x) ∨ ∀ x ∈ F.onSlots, Agrees t x

end Served

section Slots

lemma rises_all_setState (s : Flips) (id : String) : Rises (· ∈ F.ids) s (s.setState id .FlippedOn) :=
  rises_setState s id

/-- The emission under which the slots of level `n` call further slots. -/
def Emits (F : FeatureList) (n : ℕ) : Prop :=
  ∀ outer s t, emitFits (F.slot n) (slotFits F n) outer F.onSlots s → Served F (F.onSlots ++ outer) s →
    emitChanged (F.slot n) F.onSlots s = some t → Signalled F F.onSlots outer s t

lemma flippableOn_eq_false (hid : id ∈ F.ids) (h : id ∉ F.onSlots) : F.flippableOn id = false := by
  cases hf : F.flippableOn id with
  | false => rfl
  | true => exact absurd (List.mem_filter.mpr ⟨hid, hf⟩) h

lemma Signalled.agrees (h : Signalled F F.onSlots outer s t) (hid : id ∈ F.onSlots) : Agrees t id :=
  (h.told id hid).agrees (List.mem_filter.mp hid).2

lemma Served.of_cons (h : Served F (id :: slots) s) (hx : x ∈ F.ids) (hst : s.state x = .FlippedOn) (hxid : x ≠ id)
    (hn : x ∉ slots) : ¬ Misses F s x := h x hx hst fun hm => (List.mem_cons.mp hm).elim hxid hn

lemma called_same (hs : Served F (id :: slots) s) (he : s.listState id = s.state id)
    (hm : s.listState id = .FlippedOn → ¬ Misses F s id) : Called F slots id s s where
  served x hx hst hn := by
    by_cases hxid : x = id
    · subst hxid
      exact hm (he.trans hst)
    · exact hs.of_cons hx hst hxid hn
  told := Agrees.told he.symm
  off := rfl
  state _ _ _ := rfl
  rest := .inl ⟨rfl, fun _ _ => rfl⟩

lemma called_sync (hs : Served F (id :: slots) s) (hl : s.listState id ≠ .FlippedOn)
    (hf : Spares F slots s (s.setState id (s.listState id))) :
    Called F slots id s (s.setState id (s.listState id)) where
  served x hx hst hn := by
    have hxid : x ≠ id := by
      rintro rfl
      exact hl ((state_setState_self ..).symm.trans hst)
    have hxs : s.state x = .FlippedOn := (state_setState_of_ne hxid ..).symm.trans hst
    exact hf x hx hst hn (hs.of_cons hx hxs hxid hn)
  told := Agrees.told (state_setState_self ..)
  off := rfl
  state x hx _ := state_setState_of_ne hx ..
  rest := .inl ⟨rfl, fun _ hx => state_setState_of_ne hx ..⟩

lemma called_drop (h : Emits F n) (hid : id ∈ F.onSlots) (hs : Served F (id :: slots) s)
    (hf : Spares F (F.onSlots ++ slots) s (s.withOn (s.on.filter (· ≠ id))))
    (he : emitFits (F.slot n) (slotFits F n) slots F.onSlots (s.withOn (s.on.filter (· ≠ id))))
    (ht : emitChanged (F.slot n) F.onSlots (s.withOn (s.on.filter (· ≠ id))) = some t) : Called F slots id s t := by
  have hserved : Served F (F.onSlots ++ slots) (s.withOn (s.on.filter (· ≠ id))) := by
    intro x hx hst hn
    have hxid : x ≠ id := fun he => hn (List.mem_append_left _ (he ▸ hid))
    exact hf x hx hst hn (hs.of_cons hx hst hxid fun hm => hn (List.mem_append_right _ hm))
  have ha := h slots _ t he hserved ht
  exact ⟨ha.served, ha.told id hid, ha.off, fun x _ hn => ha.state x hn hn, .inr fun x hx => ha.agrees hx⟩

lemma called_flip (hs : Served F (id :: slots) s) (hon : id ∈ s.on)
    (hm : ¬ Misses F (s.setState id .FlippedOn) id) : Called F slots id s (s.setState id .FlippedOn) where
  served x hx hst hn := by
    by_cases hxid : x = id
    · subst hxid
      exact hm
    · have hxs : s.state x = .FlippedOn := (state_setState_of_ne hxid ..).symm.trans hst
      exact (rises_all_setState s id).not_misses (hs.of_cons hx hxs hxid hn)
  told := Agrees.told ((state_setState_self ..).trans (listState_eq_on.mpr hon).symm)
  off := rfl
  state x hx _ := state_setState_of_ne hx ..
  rest := .inl ⟨rfl, fun _ hx => state_setState_of_ne hx ..⟩

lemma rises_add (s : Flips) (id : String) (ids : List String) :
    Rises (· ∈ F.ids) s ((s.setState id .FlippedOn).withOn (appendMissing s.on ids)) :=
  (rises_all_setState s id).trans (rises_appendMissing (s.setState id .FlippedOn) ids)

lemma called_add (h : Emits F n) (hid : id ∈ F.ids) (hs : Served F (id :: slots) s)
    (hids : ∀ d ∈ F.dependencies id, F.isSupported true s d = false → d ∈ ids ∧ F.flippableOn d = true)
    (he : emitFits (F.slot n) (slotFits F n) slots F.onSlots
      ((s.setState id .FlippedOn).withOn (appendMissing s.on ids)))
    (ht : emitChanged (F.slot n) F.onSlots ((s.setState id .FlippedOn).withOn (appendMissing s.on ids)) = some t) :
    Called F slots id s t := by
  have hst (x : String) (hx : x ≠ id) :
      ((s.setState id .FlippedOn).withOn (appendMissing s.on ids)).state x = s.state x := state_setState_of_ne hx ..
  have hserved : Served F (F.onSlots ++ slots) ((s.setState id .FlippedOn).withOn (appendMissing s.on ids)) := by
    intro x hx hxs hn
    by_cases hxid : x = id
    · subst hxid
      rintro ⟨d, hd, hm⟩
      have hsup := (rises_add s x ids).notSupported closed_ids (F.mem_of_dependency x d hd) hm
      obtain ⟨hdi, hdf⟩ := hids d hd hsup
      have hdon : d ∈ ((s.setState x .FlippedOn).withOn (appendMissing s.on ids)).on :=
        mem_appendMissing.mpr (.inr hdi)
      exact isSupported_ne_false hdf hdon hm
    · have hxn : x ∉ slots := fun hm => hn (List.mem_append_right _ hm)
      exact (rises_add s id ids).not_misses (hs.of_cons hx ((hst x hxid).symm.trans hxs) hxid hxn)
  have ha := h slots _ t he hserved ht
  refine ⟨ha.served, ?_, ha.off, fun x hx hn => (ha.state x hn hn).trans (hst x hx), .inr fun x hx => ha.agrees hx⟩
  by_cases hslot : id ∈ F.onSlots
  · exact ha.told id hslot
  · have hon : t.state id = .FlippedOn := (ha.state id hslot hslot).trans (state_setState_self ..)
    refine ⟨fun hf => ?_, fun hoff => ?_⟩
    · rw [flippableOn_eq_false hid hslot] at hf
      cases hf
    · rw [hon] at hoff
      cases hoff

lemma called (h : Emits F n) (hid : id ∈ F.ids) (hs : Served F (id :: slots) s)
    (hf : slotFits F (n + 1) slots id s) (ht : F.slot (n + 1) id s = some t) : Called F slots id s t := by
  rw [slotFits, maybeFits] at hf
  by_cases he : s.listState id = s.state id
  · rw [if_pos he] at hf
    by_cases hd : s.listState id = .FlippedOn ∧ Misses F s id
    · obtain ⟨hfo, hsp, hem⟩ := hf hd
      rw [slot_drop (listState_eq_on.mp hd.1) ⟨he ▸ hd.1, hd.2⟩] at ht
      exact called_drop h (List.mem_filter.mpr ⟨hid, hfo⟩) hs hsp hem ht
    · rw [slot_same he hd] at ht
      cases ht
      exact called_same hs he fun hl hm => hd ⟨hl, hm⟩
  by_cases hl : s.listState id = .FlippedOn
  case neg =>
    rw [slot_sync he hl] at ht
    rw [if_neg he, if_pos hl] at hf
    cases ht
    exact called_sync hs hl hf
  case pos =>
    rw [if_neg he, if_neg (not_not.mpr hl)] at hf
    have hon := listState_eq_on.mp hl
    have hst : s.state id ≠ .FlippedOn := fun hst => he (hl.trans hst.symm)
    obtain ⟨ids, hids⟩ : ∃ ids, missing F s id = ids := ⟨_, rfl⟩
    rw [slot_flip hon hst hids] at ht
    rw [hids] at hf
    have hmem (d : String) : d ∈ ids ↔ d ∈ F.dependencies id ∧ F.isSupported true s d = false := hids ▸ mem_missing
    rw [if_neg] at ht
    · by_cases hne : ids = []
      · rw [if_pos hne] at ht
        cases ht
        apply called_flip hs hon
        rw [misses_setState]
        rintro ⟨d, hd⟩
        simpa [hne] using (hmem d).mpr hd
      · obtain ⟨hem, hp⟩ := hf.2 hne
        rw [if_neg hne] at ht
        obtain ⟨u, hu, htu⟩ := Option.map_eq_some_iff.mp ht
        have hp := hp u hu
        rw [if_neg] at htu
        · subst htu
          obtain ⟨d, hd⟩ := List.exists_mem_of_ne_nil ids hne
          rw [setFeaturesFlippedOn_add hd fun hdon => isSupported_ne_false (hf.1 d hd) hdon ((hmem d).mp hd).2] at hu
          exact called_add h hid hs (fun d hd hsup => ⟨(hmem d).mpr ⟨hd, hsup⟩, hf.1 d ((hmem d).mpr ⟨hd, hsup⟩)⟩)
            hem hu
        · rintro ⟨d, hd, hsup⟩
          rw [hp d hd] at hsup
          cases hsup
    · rintro ⟨d, hd, hsup⟩
      rw [hf.1 d hd] at hsup
      cases hsup

end Slots

section Signals

/-- A feature that has been told stays so while the slot of another one is called. -/
lemma Called.told_of (h : Called F slots id s t) (hx : x ∈ F.ids) (hxid : x ≠ id) (hs : Told F s x) : Told F t x := by
  obtain ⟨hon, hst⟩ | hag := h.rest
  · have hl : t.listState x = s.listState x := listState_congr (by rw [hon]) (by rw [h.off])
    refine ⟨fun hfo => ?_, fun hoff => ?_⟩
    · rw [Agrees, hst x hxid, hl]
      exact hs.agrees hfo
    · rw [h.off]
      exact hs.off ((hst x hxid).symm.trans hoff)
  · by_cases hslot : x ∈ F.onSlots
    · exact (hag x hslot).told
    · refine ⟨fun hfo => ?_, fun hoff => ?_⟩
      · rw [flippableOn_eq_false hx hslot] at hfo
        cases hfo
      · rw [h.off]
        exact hs.off ((h.state x hxid hslot).symm.trans hoff)

/-- A signal that is for the features `B`, and has the slots of `ids` still to call. -/
lemma signalled (h : Emits F n) (hB : ∀ id ∈ B, id ∈ F.ids) (hsub : ∀ id ∈ ids, id ∈ B)
    (hf : emitFits (F.slot (n + 1)) (slotFits F (n + 1)) outer ids s) (hs : Served F (ids ++ outer) s)
    (htold : ∀ id ∈ B, id ∉ ids → Told F s id) (ht : emitChanged (F.slot (n + 1)) ids s = some t) :
    Signalled F B outer s t := by
  induction ids generalizing s with
  | nil =>
    cases ht
    exact ⟨hs, fun id hid => htold id hid List.not_mem_nil, rfl, fun _ _ _ => rfl, fun _ _ _ h => h⟩
  | cons id ids ih =>
    obtain ⟨u, hu, ht⟩ := Option.bind_eq_some_iff.mp ht
    have hidB := hsub id List.mem_cons_self
    have ha := called h (hB id hidB) hs hf.1 hu
    have htold' (x : String) (hx : x ∈ B) (hn : x ∉ ids) : Told F u x := by
      by_cases hxid : x = id
      · exact hxid ▸ ha.told
      exact ha.told_of (hB x hx) hxid (htold x hx fun hm => (List.mem_cons.mp hm).elim hxid hn)
    have hr := ih (fun x hx => hsub x (List.mem_cons_of_mem id hx)) (hf.2 u hu) ha.served htold' ht
    refine ⟨hr.served, hr.told, hr.off.trans ha.off, fun x hx hn => ?_, fun x hx hn hon => hr.on x hx hn ?_⟩
    · exact (hr.state x hx hn).trans (ha.state x (fun he => hx (he ▸ hidB)) hn)
    · obtain ⟨hon', hst⟩ | hag := ha.rest
      · rw [hst x fun he => hn (he ▸ hidB), hon']
        exact hon
      · rw [hag x hx, listState_eq_on]

lemma emits_signalled (F : FeatureList) (n : ℕ) : Emits F n := by
  induction n with
  | zero =>
    intro outer s t hf hs ht
    cases hids : F.onSlots with
    | nil =>
      rw [hids] at hs ht
      cases ht
      exact ⟨hs, nofun, rfl, fun _ _ _ => rfl, fun _ _ _ h => h⟩
    | cons id ids =>
      rw [hids] at ht
      cases ht
  | succ n ih =>
    intro outer s t hf hs ht
    exact signalled ih (fun _ => mem_ids_of_onSlots) (fun _ h => h) hf hs (fun _ hx hn => absurd hx hn) ht

lemma signalled_off (hf : emitFits (F.slot n) (slotFits F n) [] F.offSlots s) (hs : Served F F.offSlots s)
    (ht : emitChanged (F.slot n) F.offSlots s = some t) : Signalled F F.offSlots [] s t := by
  cases n with
  | zero =>
    cases hids : F.offSlots with
    | nil =>
      rw [hids] at hs ht
      cases ht
      exact ⟨hs, nofun, rfl, fun _ _ _ => rfl, fun _ _ _ h => h⟩
    | cons id ids =>
      rw [hids] at ht
      cases ht
  | succ n =>
    exact signalled (emits_signalled F n) (fun _ hx => (List.mem_filter.mp hx).1) (fun _ h => h) hf
      (by rwa [List.append_nil]) (fun _ hx hn => absurd hx hn) ht

end Signals

section Reached

/-- What holds between two changes. -/
structure Inv (F : FeatureList) (s : Flips) : Prop where
  on : ∀ id ∈ F.ids, F.flippableOn id = true → (s.state id = .FlippedOn ↔ id ∈ s.on)
  agrees : ∀ id ∈ F.ids, F.flippableOn id = true → F.flippableOff id = true → Agrees s id
  off : ∀ id ∈ F.ids, F.flippableOff id = true → s.state id = .FlippedOff → id ∈ s.off ∨ F.flippableOn id = true
  served : Served F [] s

lemma state_constructed (s : Flips) (hf : F.flippableOn id = true) (hff : F.flippableOff id = true) :
    (constructed F s.featuresFlippedOn s.featuresFlippedOff).state id = s.listState id := by
  rw [listState]
  by_cases hon : id ∈ s.on
  · rw [if_pos hon]
    exact if_pos ⟨hf, hon⟩
  · rw [if_neg hon]
    apply (if_neg fun h => hon h.2).trans
    by_cases hoff : id ∈ s.off
    · rw [if_pos hoff]
      exact if_pos ⟨hff, hoff⟩
    · rw [if_neg hoff]
      exact if_neg fun h => hoff h.2

lemma inv_constructed (on off : Option (List String))
    (h : ∀ id ∈ F.ids, (constructed F on off).state id = .FlippedOn → ¬ Misses F (constructed F on off) id) :
    Inv F (constructed F on off) where
  on id _ hf := by
    by_cases hon : id ∈ on.getD []
    · simp [constructed, Flips.on, hf, hon]
    · simp only [constructed, Flips.on, hon, and_false, if_false, iff_false]
      split_ifs <;> simp
  agrees _ _ hf hff := state_constructed (constructed F on off) hf hff
  off id _ _ hs := by
    simp only [constructed] at hs
    split_ifs at hs with hon hoff
    exact .inl hoff.2
  served id hid hs _ := h id hid hs

lemma Inv.setOn {flips : List String} (h : Inv F s) (hne : s.featuresFlippedOn ≠ some flips)
    (hf : Spares F F.onSlots s (s.withOn flips) ∧ emitFits (F.slot n) (slotFits F n) [] F.onSlots (s.withOn flips))
    (ht : F.setFeaturesFlippedOn n flips s = some t) : Inv F t := by
  have hserved : Served F (F.onSlots ++ []) (s.withOn flips) := by
    intro id hid hs hn
    rw [List.append_nil] at hn
    exact hf.1 id hid hs hn (h.served id hid hs List.not_mem_nil)
  have ha := emits_signalled F n [] _ t hf.2 hserved ((if_neg hne).symm.trans ht)
  constructor
  · intro id hid hfo
    rw [ha.agrees (List.mem_filter.mpr ⟨hid, hfo⟩), listState_eq_on]
  · exact fun id hid hfo _ => ha.agrees (List.mem_filter.mpr ⟨hid, hfo⟩)
  · intro id hid hfo hs
    by_cases hslot : id ∈ F.onSlots
    · exact .inr (List.mem_filter.mp hslot).2
    · rw [ha.off]
      exact h.off id hid hfo ((ha.state id hslot hslot).symm.trans hs)
  · exact ha.served

lemma Inv.setOff {flips : List String} (h : Inv F s) (hne : s.featuresFlippedOff ≠ some flips)
    (hf : Spares F F.offSlots s (s.withOff flips) ∧ emitFits (F.slot n) (slotFits F n) [] F.offSlots (s.withOff flips))
    (ht : F.setFeaturesFlippedOff n flips s = some t) : Inv F t := by
  have ha := signalled_off hf.2 (fun id hid hs hn => hf.1 id hid hs hn (h.served id hid hs List.not_mem_nil))
    ((if_neg hne).symm.trans ht)
  have hagrees (id : String) (hid : id ∈ F.ids) (hfo : F.flippableOn id = true) (hff : F.flippableOff id = true) :
      Agrees t id := (ha.told id (List.mem_filter.mpr ⟨hid, hff⟩)).agrees hfo
  constructor
  · intro id hid hfo
    by_cases hff : F.flippableOff id = true
    · rw [hagrees id hid hfo hff, listState_eq_on]
    · exact ha.on id (List.mem_filter.mpr ⟨hid, hfo⟩) (fun hs => hff (List.mem_filter.mp hs).2) (h.on id hid hfo)
  · exact hagrees
  · exact fun id hid hff hs => .inl ((ha.told id (List.mem_filter.mpr ⟨hid, hff⟩)).off hs)
  · exact ha.served

lemma Inv.change (h : Inv F s) {change : Change} (hf : Fits F n s change) (ht : F.react n s change = some t) :
    Inv F t := by
  cases change with
  | featuresFlippedOn flips =>
    by_cases he : s.featuresFlippedOn = some flips
    · cases (if_pos he).symm.trans ht
      exact h
    · exact h.setOn he (hf he) ht
  | featuresFlippedOff flips =>
    by_cases he : s.featuresFlippedOff = some flips
    · cases (if_pos he).symm.trans ht
      exact h
    · exact h.setOff he (hf he) ht

lemma Reached.inv (h : Reached F s) : Inv F s := by
  induction h with
  | constructed on off h => exact inv_constructed on off h
  | change change _ hf ht ih => exact ih.change hf ht

lemma Inv.isSupported (h : Inv F s) (hid : id ∈ F.ids) (hs : F.isSupported true s id = true) :
    F.isSupported false s id = true := by
  obtain hon | ⟨hoff, hi⟩ := isSupported_iff.mp hs
  · obtain ⟨hf, hon⟩ := isFlippedOn_true.mp hon
    exact isSupported_iff.mpr (.inl (isFlippedOn_false.mpr ⟨hf, (h.on id hid hf).mpr hon⟩))
  · refine isSupported_iff.mpr (.inr ⟨Bool.eq_false_of_not_eq_true fun hst => ?_, hi⟩)
    obtain ⟨hff, hst⟩ := isFlippedOff_false.mp hst
    have hm : id ∈ s.off := (h.off id hid hff hst).elim (fun hm => hm) fun hf =>
      mem_off_of_listState ((h.agrees id hid hf hff).symm.trans hst)
    rw [isFlippedOff_true.mpr ⟨hff, hm⟩] at hoff
    cases hoff

lemma isSupported_eq_of_agrees (h : Agrees s id) (hf : F.flippableOn id = true) :
    F.isSupported true s id = F.isSupported false s id := by
  have hon : s.state id = .FlippedOn ↔ id ∈ s.on := by rw [h, listState_eq_on]
  rw [Bool.eq_iff_iff, isSupported_iff, isSupported_iff, isFlippedOn_true, isFlippedOn_false, hon]
  apply or_congr_right'
  intro hn
  have hoff : s.state id = .FlippedOff ↔ id ∈ s.off := by
    rw [h, listState, if_neg fun hm => hn ⟨hf, hm⟩]
    split_ifs with hm <;> simp [hm]
  rw [← Bool.not_eq_true, ← Bool.not_eq_true, isFlippedOff_true, isFlippedOff_false, hoff]

lemma Inv.consistent (h : Inv F s) : Consistent F s where
  agrees id hid hf hff := by
    have ha := h.agrees id hid hf hff
    exact ⟨ha, isSupported_eq_of_agrees ha hf, (state_constructed s hf hff).trans ha.symm⟩
  supported id hid hs d hd := by
    have hm := h.served id hid hs List.not_mem_nil
    have hsup : F.isSupported true s d = true := by
      cases hsup : F.isSupported true s d with
      | true => rfl
      | false => exact absurd ⟨d, hd, hsup⟩ hm
    exact ⟨hsup, h.isSupported (F.mem_of_dependency id d hd) hsup⟩

end Reached

section Careful

variable {flips : List String} {edit : Change}

/-- A feature on a list, or one that a feature on the list needs. -/
def Upheld (F : FeatureList) (flips : List String) (id : String) : Prop :=
  id ∈ F.ids ∧ (id ∈ flips ∨ ∃ other ∈ F.ids, other ∈ flips ∧ Needs F other id)

/-- No cascade is under way, and what is flipped on has what it needs. -/
structure Steady (F : FeatureList) (s : Flips) : Prop where
  settled : Settled F s
  sound : Sound F (· ∈ F.ids) s

/-- A change that flips on what can be flipped on with all that it needs, and takes nothing from what stays. -/
def Careful (F : FeatureList) (s : Flips) : Change → Prop
  | .featuresFlippedOn flips => (∀ id ∈ flips, F.flippableOn id = true ∧ (id ∉ s.on → Enables F s id)) ∧
    ∀ id ∈ s.on, Upheld F flips id → id ∈ flips
  | .featuresFlippedOff flips => (∀ id ∈ flips, F.flippableOff id = true) ∧
    ∀ id ∈ flips, Upheld F s.on id → id ∈ s.off

/-- The settings and states that are reached by careful changes. -/
inductive Steered (F : FeatureList) : Flips → Prop
  | constructed (on off : Option (List String)) (h : Steady F (constructed F on off)) :
    Steered F (constructed F on off)
  | change {s t : Flips} {n : ℕ} (change : Change) (h : Steered F s) (hc : Careful F s change)
    (ht : F.react n s change = some t) : Steered F t

lemma closed_upheld : Closed F (Upheld F flips) := by
  intro id hid
  refine ⟨hid.1, fun d hd => ⟨F.mem_of_dependency id d hd, .inr ?_⟩⟩
  obtain hf | ⟨other, ho, hof, hn⟩ := hid.2
  · exact ⟨id, hid.1, hf, .single hd⟩
  · exact ⟨other, ho, hof, hn.tail hd⟩

/-- A cascade in which only the features of `D` are flipped on, and the others wait for their slots. -/
structure Guided (F : FeatureList) (D : String → Prop) (slots : List String) (s : Flips) : Prop where
  underway : Underway F D s
  on : ∀ id ∈ F.ids, id ∈ s.on → D id
  waits : ∀ id ∈ F.ids, ¬ D id → s.state id = .FlippedOn → id ∈ slots

variable {D : String → Prop}

lemma mem_on_of_agrees (ha : Agrees s id) (hs : s.state id = .FlippedOn) : id ∈ s.on :=
  listState_eq_on.mp (ha.symm.trans hs)

lemma Underway.not_misses (h : Underway F D s) (hd : D id) (hs : s.state id = .FlippedOn) : ¬ Misses F s id := by
  rintro ⟨d, hdep, hm⟩
  by_cases hon : id ∈ s.on
  · rw [h.flipped id hd hon hs d hdep] at hm
    cases hm
  · exact hon (mem_on_of_agrees (h.settled id hd hon) hs)

lemma Guided.served (h : Guided F D slots s) : Served F slots s := by
  intro id hid hs hn
  have hd : D id := by
    by_contra hd
    exact hn (h.waits id hid hd hs)
  exact h.underway.not_misses hd hs

lemma spares_of_rises (hc : Closed F D) (h : Rises D s t)
    (hd : ∀ id ∈ F.ids, t.state id = .FlippedOn → id ∉ slots → D id) : Spares F slots s t := by
  rintro id hid hs hn hm ⟨d, hdep, ht⟩
  exact hm ⟨d, hdep, h.notSupported hc ((hc id (hd id hid hs hn)).2 d hdep) ht⟩

open Classical in
lemma Underway.emitChanged (h : Underway F D s) (hc : Closed F D) (hids : ∀ id ∈ ids, id ∈ F.ids)
    (ht : emitChanged (F.slot n) ids s = some t) :
    Underway F D t ∧ (∀ id ∈ t.on, id ∈ s.on ∨ D id) ∧ (∀ id, D id → id ∈ s.on → id ∈ t.on) ∧
      ∀ id ∈ ids, Agrees t id := by
  obtain ⟨u, hu, hg, ha⟩ := emitChanged_goes (slotGoes hc (Nat.lt_succ_self _)) hids h le_rfl
  have htu : t = u := Option.some.inj <|
    (emitChanged_mono (fun _ _ _ => slot_mono (le_max_left n _)) ht).symm.trans
      (emitChanged_mono (fun _ _ _ => slot_mono (le_max_right n _)) hu)
  subst htu
  exact ⟨hg.underway, fun id hid => (hg.grows.added id hid).imp_right And.left, hg.grows.on, ha⟩

/-- The slot of a feature keeps the cascade on its way. -/
lemma Guided.slot (hc : Closed F D) (hid : id ∈ F.ids) (h : Guided F D (id :: slots) s)
    (hf : slotFits F n slots id s) (ht : F.slot n id s = some t) : Guided F D slots t := by
  cases n with
  | zero => cases ht
  | succ n =>
    have hone : emitChanged (F.slot (n + 1)) [id] s = some t := by rw [emitChanged, ht]; rfl
    obtain ⟨hu, hadd, -, ha⟩ := h.underway.emitChanged hc (by simpa using hid) hone
    have hcalled := called (emits_signalled F n) hid h.served hf ht
    have hon (x : String) (hx : x ∈ F.ids) (hxt : x ∈ t.on) : D x :=
      (hadd x hxt).elim (h.on x hx) fun hd => hd
    refine ⟨hu, hon, fun x hx hd hst => ?_⟩
    have hagrees (hxa : Agrees t x) : False := hd (hon x hx (mem_on_of_agrees hxa hst))
    by_cases hxid : x = id
    · subst hxid
      exact (hagrees (ha x List.mem_cons_self)).elim
    · have hsame : t.state x = s.state x := by
        obtain ⟨-, hsame⟩ | hag := hcalled.rest
        · exact hsame x hxid
        · exact hcalled.state x hxid fun hslot => hagrees (hag x hslot)
      exact (List.mem_cons.mp (h.waits x hx hd (hsame ▸ hst))).resolve_left hxid

/-- A state that is cleared takes no support from what is flipped on. -/
lemma Guided.spares_sync (hc : Closed F D) (h : Guided F D (id :: slots) s) (hd : ¬ D id)
    (hl : s.listState id ≠ .FlippedOn) : Spares F slots s (s.setState id (s.listState id)) := by
  have hst (x : String) (hx : D x) : (s.setState id (s.listState id)).state x = s.state x :=
    state_setState_of_ne (fun hxid : x = id => hd (hxid ▸ hx)) ..
  have hr : Rises D s (s.setState id (s.listState id)) :=
    ⟨fun _ _ h => h, fun _ _ h => h, fun x hx hs => (hst x hx).trans hs, fun x hx hs => (hst x hx).symm.trans hs⟩
  apply spares_of_rises hc hr
  intro x hx hs hn
  by_contra hxd
  by_cases hxid : x = id
  · subst hxid
    exact hl ((state_setState_self ..).symm.trans hs)
  · rw [state_setState_of_ne hxid] at hs
    exact (List.mem_cons.mp (h.waits x hx hxd hs)).elim hxid hn

/-- What a feature misses is put on the list of what is flipped on. -/
lemma Guided.flip (hc : Closed F D) (hid : id ∈ F.ids) (h : Guided F D (id :: slots) s) (hon : id ∈ s.on)
    (hst : s.state id ≠ .FlippedOn) {ids : List String}
    (hmem : ∀ d, d ∈ ids ↔ d ∈ F.dependencies id ∧ F.isSupported true s d = false) :
    Guided F D (F.onSlots ++ slots) ((s.setState id .FlippedOn).withOn (appendMissing s.on ids)) := by
  have hd := h.on id hid hon
  constructor
  case underway =>
    apply h.underway.flip hc hd hon hst
    intro d
    rw [hmem]
    exact and_congr_right fun hdep => by rw [isSupported_setState hdep]
  case on =>
    intro x hx hxon
    obtain hxon | hxm := mem_appendMissing.mp hxon
    · exact h.on x hx hxon
    · exact (hc id hd).2 x ((hmem x).mp hxm).1
  case waits =>
    intro x hx hxd hxs
    have hxid : x ≠ id := fun hxid => hxd (hxid ▸ hd)
    rw [state_withOn, state_setState_of_ne hxid] at hxs
    exact List.mem_append_right _ ((List.mem_cons.mp (h.waits x hx hxd hxs)).resolve_left hxid)

/-- The slot of a feature that waits for it, where the signal that it sends keeps to what the slots rely on. -/
lemma Guided.maybeFits (hc : Closed F D) (hid : id ∈ F.ids) (h : Guided F D (id :: slots) s)
    (hem : ∀ t, Guided F D (F.onSlots ++ slots) t → emitFits (F.slot n) (slotFits F n) slots F.onSlots t) :
    slotFits F (n + 1) slots id s := by
  rw [slotFits, FeatureList.maybeFits]
  by_cases he : s.listState id = s.state id
  · rw [if_pos he]
    rintro ⟨hl, hm⟩
    exact absurd hm (h.underway.not_misses (h.on id hid (listState_eq_on.mp hl)) (he.symm.trans hl))
  rw [if_neg he]
  by_cases hl : s.listState id = .FlippedOn
  case neg =>
    rw [if_pos hl]
    have hd : ¬ D id := fun hd => he (h.underway.settled id hd fun hon => hl (listState_eq_on.mpr hon)).symm
    exact h.spares_sync hc hd hl
  case pos =>
    rw [if_neg (not_not.mpr hl)]
    have hon := listState_eq_on.mp hl
    have hst : s.state id ≠ .FlippedOn := fun hst => he (hl.trans hst.symm)
    have hpending := h.underway.pending id (h.on id hid hon) hon hst
    obtain ⟨ids, hids⟩ : ∃ ids, missing F s id = ids := ⟨_, rfl⟩
    rw [hids]
    have hmem (d : String) : d ∈ ids ↔ d ∈ F.dependencies id ∧ F.isSupported true s d = false := hids ▸ mem_missing
    have hflip (d : String) (hm : d ∈ ids) : F.flippableOn d = true :=
      hpending.flippableOn ((hmem d).mp hm).1 ((hmem d).mp hm).2
    have hg := h.flip hc hid hon hst hmem
    refine ⟨hflip, fun _ => ⟨hem _ hg, fun t ht d hm => ?_⟩⟩
    rw [setFeaturesFlippedOn_add hm fun hdon => isSupported_ne_false (hflip d hm) hdon ((hmem d).mp hm).2] at ht
    obtain ⟨-, -, hkeep, ha⟩ := hg.underway.emitChanged hc (fun _ => mem_ids_of_onSlots) ht
    have hdep := ((hmem d).mp hm).1
    have hslot : d ∈ F.onSlots := List.mem_filter.mpr ⟨F.mem_of_dependency id d hdep, hflip d hm⟩
    have hdt : d ∈ t.on := hkeep d ((hc id (h.on id hid hon)).2 d hdep) (mem_appendMissing.mpr (.inr hm))
    exact isSupported_iff.mpr (.inl (isFlippedOn_false.mpr ⟨hflip d hm, (ha d hslot).trans (if_pos hdt)⟩))

/-- A guided signal keeps to what the slots rely on, by induction on the nesting and on the slots that are left. -/
lemma Guided.emitFits (hc : Closed F D) (hids : ∀ id ∈ ids, id ∈ F.ids) (h : Guided F D (ids ++ outer) s) :
    emitFits (F.slot n) (slotFits F n) outer ids s := by
  induction n generalizing ids outer s with
  | zero =>
    cases ids with
    | nil => exact trivial
    | cons id ids => exact ⟨trivial, nofun⟩
  | succ n ihn =>
    induction ids generalizing s with
    | nil => exact trivial
    | cons id ids ih =>
      have hid := hids id List.mem_cons_self
      have hf := h.maybeFits hc hid fun t ht => ihn (fun _ => mem_ids_of_onSlots) ht
      exact ⟨hf, fun t ht => ih (fun x hx => hids x (List.mem_cons_of_mem id hx)) (h.slot hc hid hf ht)⟩

lemma Steady.isSupported_of_needs (h : Steady F s) (ho : d ∈ F.ids) (hon : d ∈ s.on) (hn : Needs F d id) :
    F.isSupported false s id = true := by
  induction hn with
  | single hd => exact h.sound d ho hon _ hd
  | tail hn hd ih =>
    have hid := Needs.mem_ids hn
    obtain hon | ⟨-, hi⟩ := isSupported_iff.mp ih
    · have hst := (isFlippedOn_false.mp hon).2
      exact h.sound _ hid ((h.settled.state_eq_on hid).mp hst) _ hd
    · exact (isSupportedIgnoringFlip_iff.mp hi).2 _ hd

lemma Steady.not_mem_off (h : Steady F s) (hid : Upheld F s.on id) (hon : id ∉ s.on) : id ∉ s.off := by
  intro hoff
  obtain ⟨other, ho, hoon, hn⟩ := hid.2.resolve_left hon
  have hsup := h.isSupported_of_needs ho hoon hn
  rw [h.settled.isSupported_of_off hid.1 hon hoff] at hsup
  cases hsup

lemma Steady.underway_on (h : Steady F s) (hc : Careful F s (.featuresFlippedOn flips)) :
    Rises (Upheld F flips) s (s.withOn flips) ∧ Underway F (Upheld F flips) (s.withOn flips) := by
  have hs := h.settled
  have hr : Rises (Upheld F flips) s (s.withOn flips) :=
    ⟨fun id hd hon => hc.2 id hon hd, fun _ _ h => h, fun _ _ h => h, fun _ _ h => h⟩
  refine ⟨hr, ?_⟩
  constructor
  case flippableOn => exact fun id hid => (hc.1 id hid).1
  case outside => exact fun id hid hd hon => absurd ⟨hid, .inl hon⟩ hd
  case pending =>
    intro id hd hon hst
    have hn : id ∉ s.on := fun hon => hst ((hs.state_eq_on hd.1).mpr hon)
    exact ((hc.1 id hon).2 hn).rises hr closed_upheld hd
  case flipped =>
    intro id hd hon hst d hdep
    have hsup := h.sound id hd.1 ((hs.state_eq_on hd.1).mp hst) d hdep
    rw [← hs.isSupported_true (F.mem_of_dependency id d hdep)] at hsup
    exact hr.isSupported closed_upheld ((closed_upheld id hd).2 d hdep) hsup
  case settled =>
    intro id hd hon
    have hn : id ∉ s.on := fun hs => hon (hc.2 id hs hd)
    exact (hs.agrees id hd.1).trans (listState_congr (iff_of_false hn hon) Iff.rfl)

lemma Steady.underway_off (h : Steady F s) (hc : Careful F s (.featuresFlippedOff flips)) :
    Rises (Upheld F s.on) s (s.withOff flips) ∧ Underway F (Upheld F s.on) (s.withOff flips) := by
  refine ⟨⟨fun _ _ h => h, fun id hd hf => hc.2 id hf hd, fun _ _ h => h, fun _ _ h => h⟩, ?_⟩
  apply (h.settled.underway closed_upheld (h.sound.mono fun _ hd => hd.1)).withOff closed_upheld
  · exact fun id hd hf => hc.2 id hf hd
  · exact fun id hd hon hoff => absurd hoff (h.not_mem_off hd hon)

/-- A careful change fits, so its condition is one on the settings before it. -/
lemma Steady.fits (h : Steady F s) (hc : Careful F s edit) : Fits F n s edit := by
  have hs := h.settled
  cases edit with
  | featuresFlippedOn flips =>
    intro _
    obtain ⟨hr, hu⟩ := h.underway_on hc
    have hslot (id : String) (hid : id ∈ F.ids) (hst : s.state id = .FlippedOn) : id ∈ F.onSlots :=
      List.mem_filter.mpr ⟨hid, hs.flippableOn id ((hs.state_eq_on hid).mp hst)⟩
    constructor
    · exact spares_of_rises closed_upheld hr fun id hid hst hn => absurd (hslot id hid hst) hn
    · apply Guided.emitFits closed_upheld fun _ => mem_ids_of_onSlots
      exact ⟨hu, fun id hid hon => ⟨hid, .inl hon⟩, fun id hid _ hst => List.mem_append_left _ (hslot id hid hst)⟩
  | featuresFlippedOff flips =>
    intro _
    obtain ⟨hr, hu⟩ := h.underway_off hc
    have hup (id : String) (hid : id ∈ F.ids) (hst : s.state id = .FlippedOn) : Upheld F s.on id :=
      ⟨hid, .inl ((hs.state_eq_on hid).mp hst)⟩
    constructor
    · exact spares_of_rises closed_upheld hr fun id hid hst _ => hup id hid hst
    · apply Guided.emitFits closed_upheld fun id hid => (List.mem_filter.mp hid).1
      exact ⟨hu, fun id hid hon => ⟨hid, .inl hon⟩, fun id hid hd hst => absurd (hup id hid hst) hd⟩

lemma Settled.steady (hs : Settled F t) (hu : Underway F (Upheld F flips) t)
    (hadd : ∀ id ∈ t.on, id ∈ flips ∨ Upheld F flips id) : Steady F t where
  settled := hs
  sound id hid hon := by
    have hd : Upheld F flips id := (hadd id hon).elim (fun hf => ⟨hid, .inl hf⟩) fun hd => hd
    exact hu.sound hs closed_upheld id hd hon

lemma Steady.change (h : Steady F s) (hc : Careful F s edit) (ht : F.react n s edit = some t) : Steady F t := by
  cases edit with
  | featuresFlippedOn flips =>
    obtain ⟨m, u, hu, hsu, huu, -, -, hadd⟩ := h.settled.exists_setOn closed_upheld (h.underway_on hc).2
    cases (setFeaturesFlippedOn_mono (le_max_left n m) ht).symm.trans
      (setFeaturesFlippedOn_mono (le_max_right n m) hu)
    exact hsu.steady huu hadd
  | featuresFlippedOff flips =>
    obtain ⟨m, u, hu, hsu, huu, -, -, hadd⟩ := h.settled.exists_setOff closed_upheld (h.underway_off hc).2 hc.1
    cases (setFeaturesFlippedOff_mono (le_max_left n m) ht).symm.trans
      (setFeaturesFlippedOff_mono (le_max_right n m) hu)
    exact hsu.steady huu hadd

lemma Steady.served (h : Steady F s) (hid : id ∈ F.ids) (hs : s.state id = .FlippedOn) : ¬ Misses F s id := by
  rintro ⟨d, hd, hm⟩
  have hsup := h.sound id hid ((h.settled.state_eq_on hid).mp hs) d hd
  rw [← h.settled.isSupported_true (F.mem_of_dependency id d hd), hm] at hsup
  cases hsup

/-- In a run of careful changes each one fits. -/
theorem Steered.reached (h : Steered F s) : Reached F s ∧ Steady F s := by
  induction h with
  | constructed on off h => exact ⟨.constructed on off fun _ hid => h.served hid, h⟩
  | change change _ hc ht ih => exact ⟨.change change ih.1 (ih.2.fits hc) ht, ih.2.change hc ht⟩

end Careful

/-- Every change comes to its end, and in a run whose changes fit, the states agree with the lists after each. -/
theorem settles (F : FeatureList) : (∀ s change, ∃ n t, F.react n s change = some t) ∧
    ∀ s, Reached F s → Consistent F s := by
  refine ⟨fun s change => ?_, fun s h => h.inv.consistent⟩
  cases change with
  | featuresFlippedOn flips => exact exists_setFeaturesFlippedOn F flips s
  | featuresFlippedOff flips => exact exists_setFeaturesFlippedOff F flips s

/-- Features of which the first one needs the second one, and that one the third one. -/
def testFeatures (flippable : Bool) : FeatureList where
  ids := ["testFeatureC", "testFeatureB", "testFeatureA"]
  flippableOn id := flippable || decide (id = "testFeatureC")
  flippableOff _ := true
  dependencies id :=
    if id = "testFeatureC" then ["testFeatureB"] else if id = "testFeatureB" then ["testFeatureA"] else []
  callback id := flippable || decide (id ≠ "testFeatureB")
  experimentalFeatureIds := []
  rank id := if id = "testFeatureC" then 2 else if id = "testFeatureB" then 1 else 0
  mem_of_dependency id d hd := by
    split_ifs at hd <;> simp_all
  rank_lt id d hd := by
    split_ifs at hd <;> simp_all
  experimental := by simp

theorem settles_inAppFeatures : ∃ s t,
    inAppFeatures.react 9 (constructed inAppFeatures none none) (.featuresFlippedOn ["inAppAccountCreate"]) = some s ∧
    inAppFeatures.react 9 s (.featuresFlippedOff ["inAppAuthentication"]) = some t ∧
    t.state "inAppAccountCreate" = .DefaultValue ∧ Consistent inAppFeatures t := by
  have h : (inAppFeatures.react 9 (constructed inAppFeatures none none)
      (.featuresFlippedOn ["inAppAccountCreate"])).any (fun s =>
        (inAppFeatures.react 9 s (.featuresFlippedOff ["inAppAuthentication"])).any fun t =>
          decide (Fits inAppFeatures 9 s (.featuresFlippedOff ["inAppAuthentication"]) ∧
            t.state "inAppAccountCreate" = .DefaultValue)) = true := by decide +kernel
  obtain ⟨s, hs, h⟩ := (Option.any_eq_true _ _).mp h
  obtain ⟨t, ht, h⟩ := (Option.any_eq_true _ _).mp h
  obtain ⟨hf, hst⟩ := of_decide_eq_true h
  have h₀ : Reached inAppFeatures (constructed inAppFeatures none none) := .constructed none none (by decide +kernel)
  exact ⟨s, t, hs, ht, hst, (settles inAppFeatures).2 t (.change _ (.change _ h₀ (by decide +kernel) hs) hf ht)⟩

/-- The first feature stays on the list although it gives up, and it stays flipped on although the third one is flipped
off after it has looked. -/
theorem not_settles :
    (∃ s, (testFeatures false).react 9 (constructed (testFeatures false) none none)
      (.featuresFlippedOn ["testFeatureC"]) = some s ∧ ¬ Consistent (testFeatures false) s) ∧
    ∃ s t, (testFeatures true).react 9 (constructed (testFeatures true) none none)
        (.featuresFlippedOn ["testFeatureC"]) = some s ∧
      (testFeatures true).react 9 s (.featuresFlippedOff ["testFeatureA"]) = some t ∧
      ¬ Consistent (testFeatures true) t := by
  have h₁ : ((testFeatures false).react 9 (constructed (testFeatures false) none none)
      (.featuresFlippedOn ["testFeatureC"])).any (fun s =>
        decide (s.state "testFeatureC" = .DefaultValue ∧ s.listState "testFeatureC" = .FlippedOn)) = true := by
    decide +kernel
  have h₂ : ((testFeatures true).react 9 (constructed (testFeatures true) none none)
      (.featuresFlippedOn ["testFeatureC"])).any (fun s =>
        ((testFeatures true).react 9 s (.featuresFlippedOff ["testFeatureA"])).any fun t =>
          decide (t.state "testFeatureC" = .FlippedOn ∧
            (testFeatures true).isSupported true t "testFeatureB" = false)) = true := by decide +kernel
  constructor
  · obtain ⟨s, hs, h⟩ := (Option.any_eq_true _ _).mp h₁
    obtain ⟨hd, hl⟩ := of_decide_eq_true h
    refine ⟨s, hs, fun hc => ?_⟩
    have := (hc.agrees "testFeatureC" (by decide) (by decide) (by decide)).1
    rw [hd, hl] at this
    cases this
  · obtain ⟨s, hs, h⟩ := (Option.any_eq_true _ _).mp h₂
    obtain ⟨t, ht, h⟩ := (Option.any_eq_true _ _).mp h
    obtain ⟨hon, hm⟩ := of_decide_eq_true h
    refine ⟨s, t, hs, ht, fun hc => ?_⟩
    have := (hc.supported "testFeatureC" (by decide) hon "testFeatureB" (by decide)).1
    rw [hm] at this
    cases this

end VpnClient.Features.FeatureList
