import VpnClient.Features.FlipLists

/-! When a feature that is toggled changes, and changes back when it is toggled again. -/

namespace VpnClient.Features.FeatureList

open Flips Ipc

variable {F : FeatureList} {s t u : Flips} {id d f : String} {n m : ℕ} {D : String → Prop} {flips : List String}

/-- A feature needs another one, directly or through others. -/
def Needs (F : FeatureList) : String → String → Prop := Relation.TransGen fun id d => d ∈ F.dependencies id

lemma Needs.rank_lt (h : Needs F f id) : F.rank id < F.rank f := by
  induction h with
  | single h => exact F.rank_lt _ _ h
  | tail _ h ih => exact (F.rank_lt _ _ h).trans ih

lemma not_needs_self : ¬ Needs F f f := fun h => lt_irrefl _ h.rank_lt

lemma Needs.mem_ids (h : Needs F f id) : id ∈ F.ids := by
  induction h with
  | single h => exact F.mem_of_dependency _ _ h
  | tail _ h _ => exact F.mem_of_dependency _ _ h

lemma closed_needs : Closed F (Needs F f) := fun _ h => ⟨h.mem_ids, fun _ hd => h.tail hd⟩

lemma closed_self (hf : f ∈ F.ids) : Closed F (fun id => id = f ∨ Needs F f id) := by
  rintro id (rfl | h)
  · exact ⟨hf, fun d hd => Or.inr (.single hd)⟩
  · exact ⟨h.mem_ids, fun d hd => Or.inr (h.tail hd)⟩

section States

lemma Settled.state_eq_on (hs : Settled F s) (hid : id ∈ F.ids) : s.state id = .FlippedOn ↔ id ∈ s.on := by
  rw [hs.agrees id hid, listState]
  split_ifs <;> simp_all

lemma Settled.state_eq_off (hs : Settled F s) (hid : id ∈ F.ids) :
    s.state id = .FlippedOff ↔ id ∉ s.on ∧ id ∈ s.off := by
  rw [hs.agrees id hid, listState]
  split_ifs <;> simp_all

lemma Settled.isSupported_true (hs : Settled F s) (hid : id ∈ F.ids) :
    F.isSupported true s id = F.isSupported false s id := by
  rw [Bool.eq_iff_iff, isSupported_iff, isSupported_iff, isFlippedOn_true, isFlippedOn_false, hs.state_eq_on hid]
  by_cases hon : id ∈ s.on
  · simp [hon, hs.flippableOn id hon]
  · have hoff : F.isFlippedOff true s id = F.isFlippedOff false s id := by
      rw [Bool.eq_iff_iff, isFlippedOff_true, isFlippedOff_false, hs.state_eq_off hid]
      simp [hon]
    rw [hoff]

lemma Settled.isSupported_of_on (hs : Settled F s) (hid : id ∈ F.ids) (h : id ∈ s.on) :
    F.isSupported false s id = true := by
  rw [isSupported_iff, isFlippedOn_false, hs.state_eq_on hid]
  exact Or.inl ⟨hs.flippableOn id h, h⟩

lemma Settled.isSupported_of_off (hs : Settled F s) (hid : id ∈ F.ids) (hon : id ∉ s.on) (hoff : id ∈ s.off) :
    F.isSupported false s id = false := by
  have h : ¬ F.isSupported false s id = true := by
    rw [isSupported_iff, isFlippedOn_false, hs.state_eq_on hid]
    have hf : F.isFlippedOff false s id = true :=
      isFlippedOff_false.mpr ⟨hs.flippableOff id hoff, (hs.state_eq_off hid).mpr ⟨hon, hoff⟩⟩
    simp [hon, hf]
  simpa using h

lemma Settled.isSupported_of_neither (hs : Settled F s) (hid : id ∈ F.ids) (hon : id ∉ s.on) (hoff : id ∉ s.off) :
    F.isSupported false s id = F.isSupportedIgnoringFlip s id := by
  rw [Bool.eq_iff_iff, isSupported_iff, isFlippedOn_false, hs.state_eq_on hid]
  have hf : F.isFlippedOff false s id = false := by
    cases hf : F.isFlippedOff false s id with
    | false => rfl
    | true => exact absurd ((hs.state_eq_off hid).mp (isFlippedOff_false.mp hf).2).2 hoff
  simp [hon, hf]

lemma Settled.rises (hs : Settled F s) (ht : Settled F t) (hD : ∀ id, D id → id ∈ F.ids)
    (hon : ∀ id, D id → id ∈ s.on → id ∈ t.on) (hoff : ∀ id, D id → id ∈ t.off → id ∈ s.off) : Rises D s t where
  on := hon
  off := hoff
  flippedOn id hd h := (ht.state_eq_on (hD id hd)).mpr (hon id hd ((hs.state_eq_on (hD id hd)).mp h))
  flippedOff id hd h := by
    obtain ⟨hn, ho⟩ := (ht.state_eq_off (hD id hd)).mp h
    exact (hs.state_eq_off (hD id hd)).mpr ⟨fun h => hn (hon id hd h), hoff id hd ho⟩

/-- The features that are flipped on have their dependencies supported. -/
def Sound (F : FeatureList) (D : String → Prop) (s : Flips) : Prop :=
  ∀ id, D id → id ∈ s.on → ∀ d ∈ F.dependencies id, F.isSupported false s d = true

lemma Settled.underway (hs : Settled F s) (hc : Closed F D) (h : Sound F D s) : Underway F D s where
  flippableOn := hs.flippableOn
  outside _ hid _ hon := (hs.state_eq_on hid).mpr hon
  pending id hd hon hst := absurd ((hs.state_eq_on (hc id hd).1).mpr hon) hst
  flipped id hd hon _ d hdep := (hs.isSupported_true (hc d ((hc id hd).2 d hdep)).1).trans (h id hd hon d hdep)
  settled id hd _ := hs.agrees id (hc id hd).1

lemma Underway.sound (h : Underway F D s) (hs : Settled F s) (hc : Closed F D) : Sound F D s := by
  intro id hd hon d hdep
  rw [← hs.isSupported_true (hc d ((hc id hd).2 d hdep)).1]
  exact h.flipped id hd hon ((hs.state_eq_on (hc id hd).1).mpr hon) d hdep

/-- The other list changes for features only that are flipped on. -/
lemma Underway.withOff (h : Underway F D s) (hc : Closed F D) (hsub : ∀ id, D id → id ∈ flips → id ∈ s.off)
    (hsup : ∀ id, D id → id ∉ s.on → id ∈ s.off → id ∈ flips) : Underway F D (s.withOff flips) := by
  have hr : Rises D s (s.withOff flips) := ⟨fun _ _ h => h, hsub, fun _ _ h => h, fun _ _ h => h⟩
  constructor
  case flippableOn => exact h.flippableOn
  case outside => exact h.outside
  case pending => exact fun x hx hon hst => (h.pending x hx hon hst).rises hr hc hx
  case flipped => exact fun x hx hon hst d hdep => hr.isSupported hc ((hc x hx).2 d hdep) (h.flipped x hx hon hst d hdep)
  case settled =>
    intro x hx hon
    exact (h.settled x hx hon).trans (listState_congr Iff.rfl ⟨hsup x hx hon, hsub x hx⟩)

end States

section Steps

open Classical in
lemma Settled.exists_setOn (hs : Settled F s) (hc : Closed F D) (hu : Underway F D (s.withOn flips)) :
    ∃ n t, F.setFeaturesFlippedOn n flips s = some t ∧ Settled F t ∧ Underway F D t ∧ t.off = s.off ∧
      (∀ id, D id → id ∈ flips → id ∈ t.on) ∧ ∀ id ∈ t.on, id ∈ flips ∨ D id := by
  obtain ⟨n, t, ht, hst, hg, hut⟩ := hs.setFeaturesFlippedOn hc hu
  exact ⟨n, t, ht, hst, hut, hg.off, hg.on, fun id hid => (hg.added id hid).imp_right (·.1)⟩

open Classical in
lemma Settled.exists_setOff (hs : Settled F s) (hc : Closed F D) (hu : Underway F D (s.withOff flips))
    (hf : ∀ id ∈ flips, F.flippableOff id = true) :
    ∃ n t, F.setFeaturesFlippedOff n flips s = some t ∧ Settled F t ∧ Underway F D t ∧ t.off = flips ∧
      (∀ id, D id → id ∈ s.on → id ∈ t.on) ∧ ∀ id ∈ t.on, id ∈ s.on ∨ D id := by
  obtain ⟨n, t, ht, hst, hg, hut⟩ := hs.setFeaturesFlippedOff hc hu hf
  exact ⟨n, t, ht, hst, hut, hg.off, hg.on, fun id hid => (hg.added id hid).imp_right (·.1)⟩

/-- What is left of the flips below a feature after it was toggled. -/
structure After (F : FeatureList) (f : String) (s t : Flips) : Prop where
  settled : Settled F t
  sound : Sound F (Needs F f) t
  rises : Rises (Needs F f) s t

lemma not_mem_of_added (h : f ∉ flips) (ha : ∀ id ∈ t.on, id ∈ flips ∨ Needs F f id) : f ∉ t.on := fun hon =>
  (ha f hon).elim h not_needs_self

lemma exists_featureToggleOff (hs : Settled F s) (hb : Sound F (Needs F f) s) (hf : F.flippableOff f = true)
    (add : Bool) : ∃ n t, F.featureToggleOff n f add s = some (if add then decide (f ∉ s.off) else decide (f ∈ s.off), t) ∧
      After F f s t ∧ f ∉ t.on ∧ (f ∈ t.off ↔ add = true) := by
  have hflags : ∀ id, id ≠ f → (id ∈ (if add then s.off ++ [f] else s.off.filter (· ≠ f)) ↔ id ∈ s.off) := by
    intro id hne
    cases add <;> simp [hne]
  have hff : f ∈ (if add then s.off ++ [f] else s.off.filter (· ≠ f)) ↔ add = true := by
    cases add <;> simp
  generalize hfl : (if add then s.off ++ [f] else s.off.filter (· ≠ f)) = flags at hflags hff
  have hne (id : String) (hd : Needs F f id) : id ≠ f := by
    rintro rfl
    exact not_needs_self hd
  have hflip : ∀ id ∈ flags, F.flippableOff id = true := by
    intro id hid
    by_cases he : id = f
    · exact he ▸ hf
    · exact hs.flippableOff id ((hflags id he).mp hid)
  have hu : Underway F (Needs F f) (s.withOff flags) := (hs.underway closed_needs hb).withOff closed_needs
    (fun id hd => (hflags id (hne id hd)).mp) fun id hd _ => (hflags id (hne id hd)).mpr
  obtain ⟨n, t, ht, hst, hut, hoff, hon, hadd⟩ := hs.exists_setOff closed_needs hu hflip
  by_cases hft : f ∈ t.on
  case neg =>
    refine ⟨n, t, ?_, ⟨hst, hut.sound hst closed_needs, ?_⟩, hft, hoff ▸ hff⟩
    · rw [featureToggleOff, hfl, ht, Option.bind_some, if_neg hft, Option.map_some]
    · exact hs.rises hst (fun _ h => h.mem_ids) hon fun id hd h => (hflags id (hne id hd)).mp (hoff ▸ h)
  case pos =>
    obtain ⟨m, u, hu, hsu, huu, hoffu, honu, haddu⟩ :=
      hst.exists_setOn closed_needs (hut.remove closed_needs not_needs_self)
    refine ⟨max n m, u, ?_, ⟨hsu, huu.sound hsu closed_needs, ?_⟩, not_mem_of_added (by simp) haddu,
      (hoffu.trans hoff) ▸ hff⟩
    · rw [featureToggleOff, hfl, setFeaturesFlippedOff_mono (le_max_left n m) ht, Option.bind_some, if_pos hft,
        setFeaturesFlippedOn_mono (le_max_right n m) hu, Option.map_some]
    · exact hs.rises hsu (fun _ h => h.mem_ids) (fun id hd h => honu id hd (by simp [hon id hd h, hne id hd]))
        fun id hd h => (hflags id (hne id hd)).mp ((hoffu.trans hoff) ▸ h)

lemma exists_dropOn (hs : Settled F s) (hb : Sound F (Needs F f) s) (hon : f ∈ s.on) :
    ∃ n t, F.featureToggleOn n f false s = some (true, t) ∧ After F f s t ∧ f ∉ t.on ∧ f ∉ t.off := by
  have hne (id : String) (hd : Needs F f id) : id ≠ f := by
    rintro rfl
    exact not_needs_self hd
  obtain ⟨n, t, ht, hst, hut, hoff, hont, hadd⟩ :=
    hs.exists_setOn closed_needs ((hs.underway closed_needs hb).remove closed_needs not_needs_self)
  have hft : f ∉ t.on := not_mem_of_added (by simp) hadd
  have hasserted : (if false then decide (f ∉ s.on) else decide (f ∈ s.on)) = true := by simp [hon]
  by_cases hfo : f ∈ t.off
  case neg =>
    refine ⟨n, t, ?_, ⟨hst, hut.sound hst closed_needs, ?_⟩, hft, hfo⟩
    · rw [featureToggleOn, if_neg (by simp), ht, Option.bind_some, if_neg hfo, Option.map_some, hasserted]
    · exact hs.rises hst (fun _ h => h.mem_ids) (fun id hd h => hont id hd (by simp [h, hne id hd]))
        fun id _ h => hoff ▸ h
  case pos =>
    obtain ⟨m, u, hu, hsu, huu, hoffu, honu, haddu⟩ := hst.exists_setOff closed_needs
      (hut.withOff closed_needs (fun id _ h => (List.mem_filter.mp h).1)
        (fun id hd _ h => List.mem_filter.mpr ⟨h, decide_eq_true (hne id hd)⟩))
      fun id h => hst.flippableOff id (List.mem_filter.mp h).1
    refine ⟨max n m, u, ?_, ⟨hsu, huu.sound hsu closed_needs, ?_⟩, not_mem_of_added hft haddu, by simp [hoffu]⟩
    · rw [featureToggleOn, if_neg (by simp), setFeaturesFlippedOn_mono (le_max_left n m) ht, Option.bind_some,
        if_pos hfo, setFeaturesFlippedOff_mono (le_max_right n m) hu, Option.map_some, hasserted]
    · exact hs.rises hsu (fun _ h => h.mem_ids) (fun id hd h => honu id hd (hont id hd (by simp [h, hne id hd])))
        fun id _ h => hoff ▸ (List.mem_filter.mp (hoffu ▸ h)).1

/-- A feature is put on the list with all that it needs. -/
lemma Settled.underway_add (hs : Settled F s) (hf : f ∈ F.ids) (hb : Sound F (Needs F f) s)
    (hff : F.flippableOn f = true) (hon : f ∉ s.on) (he : Enables F s f) :
    Underway F (fun id => id = f ∨ Needs F f id) (s.withOn (s.on ++ [f])) := by
  have hr : Rises (fun id => id = f ∨ Needs F f id) s (s.withOn (s.on ++ [f])) :=
    ⟨fun _ _ h => List.mem_append_left _ h, fun _ _ h => h, fun _ _ h => h, fun _ _ h => h⟩
  have hc := closed_self hf
  have hold (id : String) (hid : id ∈ F.ids) (h : id ∈ s.on ++ [f]) (hne : id ≠ f) : s.state id = .FlippedOn :=
    (hs.state_eq_on hid).mpr (by simpa [hne] using h)
  constructor
  case flippableOn =>
    intro id h
    rcases List.mem_append.mp h with h | h
    · exact hs.flippableOn id h
    · exact List.mem_singleton.mp h ▸ hff
  case outside => exact fun id hid hd h => hold id hid h fun hne => hd (Or.inl hne)
  case pending =>
    intro id hd h hst
    have hid : id = f := by
      by_contra hne
      exact hst (hold id (hc id hd).1 h hne)
    exact (hid ▸ he).rises hr hc hd
  case flipped =>
    intro id hd h hst d hdep
    have hids := (hc id hd).1
    have hon' : id ∈ s.on := (hs.state_eq_on hids).mp hst
    have hneeds : Needs F f id := hd.resolve_left fun hne => hon (hne ▸ hon')
    have hdd := (hc id hd).2 d hdep
    exact hr.isSupported hc hdd ((hs.isSupported_true (hc d hdd).1).trans (hb id hneeds hon' d hdep))
  case settled =>
    intro id hd h
    have hn : id ∉ s.on := fun hs => h (List.mem_append_left _ hs)
    exact (hs.agrees id (hc id hd).1).trans (listState_congr (iff_of_false hn h) Iff.rfl)

lemma exists_flipOn (hs : Settled F s) (hf : f ∈ F.ids) (hb : Sound F (Needs F f) s) (hff : F.flippableOn f = true)
    (hon : f ∉ s.on) (he : Enables F s f) :
    ∃ n t, F.featureToggleOn n f true s = some (true, t) ∧ Settled F t ∧
      Sound F (fun id => id = f ∨ Needs F f id) t ∧ f ∈ t.on ∧ f ∉ t.off := by
  have hc := closed_self hf
  obtain ⟨n, t, ht, hst, hut, hoff, hont, hadd⟩ := hs.exists_setOn hc (hs.underway_add hf hb hff hon he)
  have hft : f ∈ t.on := hont f (Or.inl rfl) (by simp)
  have hasserted : (if true then decide (f ∉ s.on) else decide (f ∈ s.on)) = true := by simp [hon]
  by_cases hfo : f ∈ t.off
  case neg =>
    refine ⟨n, t, ?_, hst, hut.sound hst hc, hft, hfo⟩
    rw [featureToggleOn, if_pos rfl, ht, Option.bind_some, if_neg hfo, Option.map_some, hasserted]
  case pos =>
    obtain ⟨m, u, hu, hsu, huu, hoffu, honu, haddu⟩ := hst.exists_setOff hc
      (hut.withOff hc (fun id _ h => (List.mem_filter.mp h).1)
        (fun id hd hn h => List.mem_filter.mpr ⟨h, decide_eq_true (show id ≠ f from fun he => hn (he ▸ hft))⟩))
      fun id h => hst.flippableOff id (List.mem_filter.mp h).1
    refine ⟨max n m, u, ?_, hsu, huu.sound hsu hc, honu f (Or.inl rfl) hft, by simp [hoffu]⟩
    rw [featureToggleOn, if_pos rfl, setFeaturesFlippedOn_mono (le_max_left n m) ht, Option.bind_some,
      if_pos hfo, setFeaturesFlippedOff_mono (le_max_right n m) hu, Option.map_some, hasserted]

end Steps

section Toggle

/-- What the state before a call has to meet. -/
structure Fit (F : FeatureList) (s : Flips) (f : String) : Prop where
  sound : Sound F (fun id => id = f ∨ Needs F f id) s
  listed : F.isSupportedIgnoringFlip s f = true → f ∈ s.on → f ∉ s.off
  enables : F.isSupported false s f = false → F.isSupportedIgnoringFlip s f = false → F.flippableOn f = true →
    Enables F s f ∧ (F.callback f = true → F.flippableOff f = true)

/-- A call changes whether a feature is supported, its assertions hold, and the feature is not in both lists. -/
structure Negates (F : FeatureList) (n : ℕ) (f : String) (s t : Flips) : Prop where
  toggle : F.toggle n f s = some (true, t)
  isSupported : F.isSupported false t f = !F.isSupported false s f
  lists : ¬ (f ∈ t.on ∧ f ∈ t.off)

/-- What is asked of two calls one after another. -/
def Toggles (F : FeatureList) (s : Flips) (f : String) : Prop :=
  ∃ n t m u, Negates F n f s t ∧ Negates F m f t u

lemma toggle_off (hf : f ∈ F.ids) (hs : F.isSupported false s f = true) (hi : F.isSupportedIgnoringFlip s f = true)
    (hff : F.flippableOff f = true) : F.toggle n f s = F.featureToggleOff n f true s := by
  rw [toggle, if_neg (not_not.mpr hf), if_pos hs, if_pos hi, if_pos hff]

lemma toggle_unflipOff (hf : f ∈ F.ids) (hs : F.isSupported false s f = false)
    (hi : F.isSupportedIgnoringFlip s f = true) : F.toggle n f s = F.featureToggleOff n f false s := by
  rw [toggle, if_neg (not_not.mpr hf), if_neg (by simp [hs]), if_neg (not_not.mpr hi)]

lemma toggle_unflipOn (hf : f ∈ F.ids) (hs : F.isSupported false s f = true)
    (hi : F.isSupportedIgnoringFlip s f = false) : F.toggle n f s = F.featureToggleOn n f false s := by
  rw [toggle, if_neg (not_not.mpr hf), if_pos hs, if_neg (by simp [hi])]

lemma toggle_on (hf : f ∈ F.ids) (hs : F.isSupported false s f = false)
    (hi : F.isSupportedIgnoringFlip s f = false) (hff : F.flippableOn f = true) :
    F.toggle n f s = F.featureToggleOn n f true s := by
  rw [toggle, if_neg (not_not.mpr hf), if_neg (by simp [hs]), if_pos (by simp [hi]), if_pos hff]

lemma Sound.mono {E : String → Prop} (h : Sound F D s) (hED : ∀ id, E id → D id) : Sound F E s :=
  fun id he => h id (hED id he)

lemma After.ignoringFlip (h : After F f s t) (hi : F.isSupportedIgnoringFlip s f = true) :
    F.isSupportedIgnoringFlip t f = true :=
  h.rises.isSupportedIgnoringFlip closed_needs (fun _ hd => .single hd) hi

lemma ignoringFlip_of_not_callback (h : F.callback f = false) : F.isSupportedIgnoringFlip s f = false := by
  rw [isSupportedIgnoringFlip, h, Bool.false_and]

/-- A feature that is on by default is flipped off. -/
lemma exists_flipOff (hs : Settled F s) (hf : f ∈ F.ids) (hb : Sound F (Needs F f) s)
    (hsup : F.isSupported false s f = true) (hi : F.isSupportedIgnoringFlip s f = true)
    (hff : F.flippableOff f = true) (hoff : f ∉ s.off) :
    ∃ n t, Negates F n f s t ∧ After F f s t ∧ f ∉ t.on ∧ f ∈ t.off := by
  obtain ⟨n, t, ht, ha, hon, hto⟩ := exists_featureToggleOff hs hb hff true
  refine ⟨n, t, ⟨?_, ?_, fun h => hon h.1⟩, ha, hon, hto.mpr rfl⟩
  · rw [toggle_off hf hsup hi hff, ht]
    simp [hoff]
  · rw [ha.settled.isSupported_of_off hf hon (hto.mpr rfl), hsup]
    rfl

/-- A feature that is on by default is not flipped off any longer. -/
lemma exists_unflipOff (hs : Settled F s) (hf : f ∈ F.ids) (hb : Sound F (Needs F f) s)
    (hsup : F.isSupported false s f = false) (hi : F.isSupportedIgnoringFlip s f = true) (hoff : f ∈ s.off) :
    ∃ n t, Negates F n f s t ∧ After F f s t ∧ f ∉ t.on ∧ f ∉ t.off := by
  obtain ⟨n, t, ht, ha, hon, hto⟩ := exists_featureToggleOff hs hb (hs.flippableOff f hoff) false
  have hto' : f ∉ t.off := fun h => by simpa using hto.mp h
  refine ⟨n, t, ⟨?_, ?_, fun h => hon h.1⟩, ha, hon, hto'⟩
  · rw [toggle_unflipOff hf hsup hi, ht]
    simp [hoff]
  · rw [ha.settled.isSupported_of_neither hf hon hto', ha.ignoringFlip hi, hsup]
    rfl

/-- A feature that is off by default is not flipped on any longer. -/
lemma exists_unflipOn (hs : Settled F s) (hf : f ∈ F.ids) (hb : Sound F (Needs F f) s)
    (hsup : F.isSupported false s f = true) (hc : F.callback f = false) (hon : f ∈ s.on) :
    ∃ n t, Negates F n f s t ∧ After F f s t ∧ f ∉ t.on ∧ f ∉ t.off := by
  obtain ⟨n, t, ht, ha, hnon, hnoff⟩ := exists_dropOn hs hb hon
  refine ⟨n, t, ⟨?_, ?_, fun h => hnon h.1⟩, ha, hnon, hnoff⟩
  · rw [toggle_unflipOn hf hsup (ignoringFlip_of_not_callback hc), ht]
  · rw [ha.settled.isSupported_of_neither hf hnon hnoff, ignoringFlip_of_not_callback hc, hsup]
    rfl

/-- A feature that is off by default is flipped on. -/
lemma exists_flipOn' (hs : Settled F s) (hf : f ∈ F.ids) (hb : Sound F (Needs F f) s)
    (hsup : F.isSupported false s f = false) (hi : F.isSupportedIgnoringFlip s f = false)
    (hff : F.flippableOn f = true) (he : Enables F s f) :
    ∃ n t, Negates F n f s t ∧ Settled F t ∧ Sound F (fun id => id = f ∨ Needs F f id) t ∧ f ∈ t.on ∧ f ∉ t.off := by
  have hon : f ∉ s.on := fun hon => by simp [hs.isSupported_of_on hf hon] at hsup
  obtain ⟨n, t, ht, hst, hsd, hont, hofft⟩ := exists_flipOn hs hf hb hff hon he
  refine ⟨n, t, ⟨?_, ?_, fun h => hofft h.2⟩, hst, hsd, hont, hofft⟩
  · rw [toggle_on hf hsup hi hff, ht]
  · rw [hst.isSupported_of_on hf hont, hsup]
    rfl

lemma Settled.mem_off (hs : Settled F s) (hf : f ∈ F.ids) (hsup : F.isSupported false s f = false)
    (hi : F.isSupportedIgnoringFlip s f = true) : f ∈ s.off := by
  by_contra hoff
  have hon : f ∉ s.on := fun hon => by simp [hs.isSupported_of_on hf hon] at hsup
  simp [hs.isSupported_of_neither hf hon hoff, hi] at hsup

lemma Settled.mem_on (hs : Settled F s) (hf : f ∈ F.ids) (hsup : F.isSupported false s f = true)
    (hi : F.isSupportedIgnoringFlip s f = false) : f ∈ s.on := by
  by_contra hon
  by_cases hoff : f ∈ s.off
  · simp [hs.isSupported_of_off hf hon hoff] at hsup
  · simp [hs.isSupported_of_neither hf hon hoff, hi] at hsup

lemma Fit.not_mem_off (h : Fit F s f) (hs : Settled F s) (hf : f ∈ F.ids) (hsup : F.isSupported false s f = true)
    (hi : F.isSupportedIgnoringFlip s f = true) : f ∉ s.off := by
  intro hoff
  by_cases hon : f ∈ s.on
  · exact h.listed hi hon hoff
  · simp [hs.isSupported_of_off hf hon hoff] at hsup

lemma Sound.callback (h : Sound F D s) (hd : D f) (hon : f ∈ s.on) :
    F.isSupportedIgnoringFlip s f = F.callback f := by
  rw [isSupportedIgnoringFlip, List.all_eq_true.mpr (h f hd hon), Bool.and_true]

lemma enables_of_supported (hs : Settled F s) (h : ∀ d ∈ F.dependencies f, F.isSupported false s d = true) :
    Enables F s f := by
  have hn (d : String) (hd : d ∈ F.dependencies f) : F.isSupported true s d ≠ false := by
    rw [hs.isSupported_true (F.mem_of_dependency f d hd), h d hd]
    simp
  exact .intro f (fun d hd hf => absurd hf (hn d hd)) fun d hd hf => absurd hf (hn d hd)

lemma exists_toggles (hs : Settled F s) (hf : f ∈ F.ids) (ht : F.isToggleable s f = true) (h : Fit F s f) :
    ∃ n t m u, Negates F n f s t ∧ Settled F t ∧ Negates F m f t u := by
  have hb : Sound F (Needs F f) s := h.sound.mono fun _ hn => Or.inr hn
  cases hsup : F.isSupported false s f with
  | true =>
    cases hi : F.isSupportedIgnoringFlip s f with
    | true =>
      have hff : F.flippableOff f = true := by simpa [isToggleable, hi] using ht
      obtain ⟨n, t, hn, ha, hon, hoff⟩ := exists_flipOff hs hf hb hsup hi hff (h.not_mem_off hs hf hsup hi)
      have hsup' : F.isSupported false t f = false := by rw [hn.isSupported, hsup, Bool.not_true]
      obtain ⟨m, u, hm, -⟩ := exists_unflipOff ha.settled hf ha.sound hsup' (ha.ignoringFlip hi) hoff
      exact ⟨n, t, m, u, hn, ha.settled, hm⟩
    | false =>
      have hon := hs.mem_on hf hsup hi
      have hc : F.callback f = false := by rw [← h.sound.callback (Or.inl rfl) hon, hi]
      obtain ⟨n, t, hn, ha, -, -⟩ := exists_unflipOn hs hf hb hsup hc hon
      have hsup' : F.isSupported false t f = false := by rw [hn.isSupported, hsup, Bool.not_true]
      have he : Enables F t f := enables_of_supported ha.settled fun d hd =>
        ha.rises.isSupported closed_needs (.single hd) (h.sound f (Or.inl rfl) hon d hd)
      obtain ⟨m, u, hm, -⟩ := exists_flipOn' ha.settled hf ha.sound hsup' (ignoringFlip_of_not_callback hc)
        (hs.flippableOn f hon) he
      exact ⟨n, t, m, u, hn, ha.settled, hm⟩
  | false =>
    cases hi : F.isSupportedIgnoringFlip s f with
    | true =>
      have hoff := hs.mem_off hf hsup hi
      obtain ⟨n, t, hn, ha, -, hoff'⟩ := exists_unflipOff hs hf hb hsup hi hoff
      have hsup' : F.isSupported false t f = true := by rw [hn.isSupported, hsup, Bool.not_false]
      obtain ⟨m, u, hm, -⟩ := exists_flipOff ha.settled hf ha.sound hsup' (ha.ignoringFlip hi)
        (hs.flippableOff f hoff) hoff'
      exact ⟨n, t, m, u, hn, ha.settled, hm⟩
    | false =>
      have hff : F.flippableOn f = true := by simpa [isToggleable, hi] using ht
      obtain ⟨he, hfo⟩ := h.enables hsup hi hff
      obtain ⟨n, t, hn, hst, hsd, hon, hoff⟩ := exists_flipOn' hs hf hb hsup hi hff he
      have hsup' : F.isSupported false t f = true := by rw [hn.isSupported, hsup, Bool.not_false]
      have hb' : Sound F (Needs F f) t := hsd.mono fun _ hn => Or.inr hn
      cases hc : F.callback f with
      | true =>
        have hi' : F.isSupportedIgnoringFlip t f = true := (hsd.callback (Or.inl rfl) hon).trans hc
        obtain ⟨m, u, hm, -⟩ := exists_flipOff hst hf hb' hsup' hi' (hfo hc) hoff
        exact ⟨n, t, m, u, hn, hst, hm⟩
      | false =>
        obtain ⟨m, u, hm, -⟩ := exists_unflipOn hst hf hb' hsup' hc hon
        exact ⟨n, t, m, u, hn, hst, hm⟩

end Toggle

section Updates

/-- The flips where nothing is flipped on. -/
def defaults (off : List String) : Flips :=
  { featuresFlippedOff := some off, state := fun id => if id ∈ off then .FlippedOff else .DefaultValue }

/-- What the lists that a reply makes have to meet: all that the features on the new list need can be flipped on, and
what they need is not dropped. -/
structure UpdateFit (F : FeatureList) (s : Flips) (updated : Updated) : Prop where
  flippableOn : ∀ id ∈ updated.featuresToToggleOn, F.flippableOn id = true
  kept : ∀ id ∈ updated.featuresToToggleOn, ∀ d, Needs F id d → d ∈ s.on → d ∈ updated.featuresToToggleOn
  supported : ∀ id ∈ updated.featuresToToggleOn, id ∈ s.on → ∀ d ∈ F.dependencies id,
    d ∈ updated.featuresToToggleOn ∨ F.isSupported false (defaults updated.featuresToToggleOff) d = true
  enables : ∀ id ∈ updated.featuresToToggleOn, Enables F (defaults updated.featuresToToggleOff) id

lemma settled_defaults {off : List String} (h : ∀ id ∈ off, F.flippableOff id = true) : Settled F (defaults off) where
  agrees id _ := by
    rw [Agrees, listState, if_neg (by simp [defaults, Flips.on])]
    rfl
  flippableOn id hid := by simp [defaults, Flips.on] at hid
  flippableOff := h

lemma settled_empty : Settled F {} where
  agrees id _ := by
    rw [Agrees, listState, if_neg (by simp [Flips.on]), if_neg (by simp [Flips.off])]
  flippableOn id hid := by simp [Flips.on] at hid
  flippableOff id hid := by simp [Flips.off] at hid

lemma Settled.flippableOff_updated {json : JsonObject} {updated : Updated} (hs : Settled F s)
    (hu : F.updatedLists json s = some updated) : ∀ id ∈ updated.featuresToToggleOff, F.flippableOff id = true := by
  have ho : updated.featuresToToggleOff = (F.overwritten json s).2 := by
    rw [updatedLists] at hu
    cases hv : json.value "experimentalFeatures" with
    | none =>
      rw [hv] at hu
      exact congrArg Updated.featuresToToggleOff (Option.some.inj hu).symm
    | some value =>
      rw [hv] at hu
      obtain ⟨parsed, -, rfl⟩ := Option.map_eq_some_iff.mp hu
      rfl
  intro id hid
  rw [ho, mem_overwritten_off, AskedOff] at hid
  cases hv : json.value "featuresOverwrite" with
  | none =>
    rw [hv] at hid
    exact hs.flippableOff id hid
  | some features =>
    rw [hv] at hid
    exact hid.2.1

/-- The features on a list and what they need. -/
def Wanted (F : FeatureList) (flips : List String) (id : String) : Prop :=
  id ∈ F.ids ∧ ∃ other ∈ flips, id = other ∨ Needs F other id

lemma closed_wanted : Closed F (Wanted F flips) := by
  rintro id ⟨hid, other, ho, h⟩
  refine ⟨hid, fun d hd => ⟨F.mem_of_dependency id d hd, other, ho, Or.inr ?_⟩⟩
  rcases h with rfl | h
  · exact .single hd
  · exact h.tail hd

lemma UpdateFit.underway {updated : Updated} (h : UpdateFit F s updated) (ht : Settled F t)
    (hoff : t.off = updated.featuresToToggleOff) (hon : ∀ id ∈ t.on, id ∈ s.on) :
    Underway F (Wanted F updated.featuresToToggleOn) (t.withOn updated.featuresToToggleOn) := by
  have hd : Settled F (defaults updated.featuresToToggleOff) := settled_defaults (hoff ▸ ht.flippableOff)
  have hr : Rises (Wanted F updated.featuresToToggleOn) (defaults updated.featuresToToggleOff)
      (t.withOn updated.featuresToToggleOn) := by
    refine ⟨fun id _ h => by simp [defaults, Flips.on] at h, fun id _ h => hoff ▸ h, fun id hid h => ?_, fun id hid h => ?_⟩
    · exact absurd ((hd.state_eq_on hid.1).mp h) (by simp [defaults, Flips.on])
    · obtain ⟨-, ho⟩ := (ht.state_eq_off hid.1).mp h
      exact (hd.state_eq_off hid.1).mpr ⟨by simp [defaults, Flips.on], hoff ▸ ho⟩
  constructor
  case flippableOn => exact h.flippableOn
  case outside => exact fun id hid hn hon => absurd ⟨hid, id, hon, Or.inl rfl⟩ hn
  case pending => exact fun id hid hon _ => (h.enables id hon).rises hr closed_wanted hid
  case flipped =>
    intro id hid hid' hst d hdep
    have hs : id ∈ s.on := hon id ((ht.state_eq_on hid.1).mp hst)
    rcases h.supported id hid' hs d hdep with hd' | hd'
    · rw [isSupported_iff, isFlippedOn_true]
      exact Or.inl ⟨h.flippableOn d hd', hd'⟩
    · rw [← hd.isSupported_true (F.mem_of_dependency id d hdep)] at hd'
      exact hr.isSupported closed_wanted ((closed_wanted id hid).2 d hdep) hd'
  case settled =>
    rintro id ⟨hid, other, ho, hneed⟩ hn
    have ht' : id ∉ t.on := by
      intro htid
      rcases hneed with rfl | hneed
      · exact hn ho
      · exact hn (h.kept other ho id hneed (hon id htid))
    exact (ht.agrees id hid).trans (listState_congr (iff_of_false ht' hn) Iff.rfl)

lemma Settled.exists_update {updated : Updated} (hs : Settled F s)
    (hoff : ∀ id ∈ updated.featuresToToggleOff, F.flippableOff id = true) (h : UpdateFit F s updated) :
    ∃ n t u, F.setFeaturesFlippedOff n updated.featuresToToggleOff s = some t ∧
      F.setFeaturesFlippedOn n updated.featuresToToggleOn t = some u ∧ Settled F u := by
  have hc : Closed F (fun _ => False) := fun _ h => h.elim
  have hu : Underway F (fun _ => False) (s.withOff updated.featuresToToggleOff) :=
    (hs.underway hc fun _ h => h.elim).withOff hc (fun _ h => h.elim) fun _ h => h.elim
  obtain ⟨n, t, ht, hst, -, hto, -, hadd⟩ := hs.exists_setOff hc hu hoff
  obtain ⟨m, u, hu, hsu, -⟩ := hst.exists_setOn closed_wanted
    (h.underway hst hto fun id hid => (hadd id hid).resolve_right not_false)
  exact ⟨max n m, t, u, setFeaturesFlippedOff_mono (le_max_left n m) ht,
    setFeaturesFlippedOn_mono (le_max_right n m) hu, hsu⟩

end Updates

section Runs

variable {fromJson : Bytes → Option JsonObject} {b : Bool}

/-- Two changes of the lists, the second one if it is needed, are kept when both are. -/
lemma changes_mono {A : Type} {x x' : Option Flips} {c : Flips → Prop} [DecidablePred c] {g g' : Flips → Option Flips}
    {k : Flips → A} {r : A} (hx : ∀ v, x = some v → x' = some v) (hg : ∀ v w, g v = some w → g' v = some w)
    (h : (x.bind fun v => (if c v then g v else some v).map k) = some r) :
    (x'.bind fun v => (if c v then g' v else some v).map k) = some r := by
  obtain ⟨v, hv, h⟩ := Option.bind_eq_some_iff.mp h
  obtain ⟨w, hw, rfl⟩ := Option.map_eq_some_iff.mp h
  rw [hx v hv, Option.bind_some]
  by_cases hc : c v
  · rw [if_pos hc] at hw ⊢
    rw [hg v w hw, Option.map_some]
  · rw [if_neg hc] at hw ⊢
    rw [hw, Option.map_some]

lemma featureToggleOff_mono {add : Bool} {r : Bool × Flips} (hnm : n ≤ m)
    (h : F.featureToggleOff n f add s = some r) : F.featureToggleOff m f add s = some r :=
  changes_mono (fun _ hv => setFeaturesFlippedOff_mono hnm hv) (fun _ _ hw => setFeaturesFlippedOn_mono hnm hw) h

lemma featureToggleOn_mono {add : Bool} {r : Bool × Flips} (hnm : n ≤ m)
    (h : F.featureToggleOn n f add s = some r) : F.featureToggleOn m f add s = some r :=
  changes_mono (fun _ hv => setFeaturesFlippedOn_mono hnm hv) (fun _ _ hw => setFeaturesFlippedOff_mono hnm hw) h

lemma toggle_mono {r : Bool × Flips} (hnm : n ≤ m) (h : F.toggle n f s = some r) : F.toggle m f s = some r := by
  rw [toggle] at h ⊢
  split_ifs at h ⊢
  · exact featureToggleOff_mono hnm h
  · exact h
  · exact featureToggleOn_mono hnm h
  · exact featureToggleOff_mono hnm h
  · exact featureToggleOn_mono hnm h
  · exact h
  · exact h

lemma toggle_unique {r r' : Bool × Flips} (h : F.toggle n f s = some r) (h' : F.toggle m f s = some r') : r = r' :=
  Option.some.inj ((toggle_mono (le_max_left n m) h).symm.trans (toggle_mono (le_max_right n m) h'))

/-- A call that does not find a feature that may be toggled changes nothing. -/
lemma Settled.toggle_eq_self (hs : Settled F s) (hf : f ∈ F.ids) (ht : F.isToggleable s f = false) :
    F.toggle n f s = some (true, s) := by
  rw [toggle, if_neg (not_not.mpr hf)]
  cases hsup : F.isSupported false s f with
  | true =>
    cases hi : F.isSupportedIgnoringFlip s f with
    | true =>
      have hff : F.flippableOff f = false := by simpa [isToggleable, hi] using ht
      simp [hff]
    | false =>
      have hff := hs.flippableOn f (hs.mem_on hf hsup hi)
      simp [isToggleable, hi, hff] at ht
  | false =>
    cases hi : F.isSupportedIgnoringFlip s f with
    | true =>
      have hff := hs.flippableOff f (hs.mem_off hf hsup hi)
      simp [isToggleable, hi, hff] at ht
    | false =>
      have hff : F.flippableOn f = false := by simpa [isToggleable, hi] using ht
      simp [hff]

lemma Settled.toggle (hs : Settled F s) (h : f ∈ F.ids → Fit F s f) (ht : F.toggle n f s = some (b, t)) :
    Settled F t := by
  by_cases hf : f ∈ F.ids
  case neg =>
    rw [FeatureList.toggle, if_pos hf] at ht
    cases ht
    exact hs
  case pos =>
    cases htog : F.isToggleable s f with
    | true =>
      obtain ⟨m, v, -, -, hn, hsv, -⟩ := exists_toggles hs hf htog (h hf)
      cases toggle_unique ht hn.toggle
      exact hsv
    | false =>
      rw [hs.toggle_eq_self hf htog] at ht
      cases ht
      exact hs

lemma Settled.update {data : Bytes} {writes : List SettingWrite} (hs : Settled F s)
    (h : ∀ updated, F.updatedLists ((fromJson data).getD []) s = some updated → UpdateFit F s updated)
    (ht : F.updateFeatureList n fromJson data s = some (t, writes)) : Settled F t := by
  obtain ⟨updated, hu, ht⟩ := Option.bind_eq_some_iff.mp ht
  obtain ⟨v, hv, ht⟩ := Option.bind_eq_some_iff.mp ht
  obtain ⟨w, hw, he⟩ := Option.map_eq_some_iff.mp ht
  cases he
  obtain ⟨m, v', u, hv', hu', hsu⟩ := hs.exists_update (hs.flippableOff_updated hu) (h updated hu)
  have hvv : v = v' := Option.some.inj
    ((setFeaturesFlippedOff_mono (le_max_left n m) hv).symm.trans (setFeaturesFlippedOff_mono (le_max_right n m) hv'))
  subst hvv
  have hww : t = u := Option.some.inj
    ((setFeaturesFlippedOn_mono (le_max_left n m) hw).symm.trans (setFeaturesFlippedOn_mono (le_max_right n m) hu'))
  exact hww ▸ hsu

inductive Event where
  | toggle (feature : String)
  | update (data : Bytes)

/-- A call that returns, whatever its assertions say. -/
def Step (F : FeatureList) (fromJson : Bytes → Option JsonObject) (s : Flips) (t : Flips) : Event → Prop
  | .toggle feature => ∃ n asserted, F.toggle n feature s = some (asserted, t)
  | .update data => ∃ n writes, F.updateFeatureList n fromJson data s = some (t, writes)

/-- The flips that are reached from empty lists by calls that meet a condition on the flips before them. -/
inductive Run (F : FeatureList) (fromJson : Bytes → Option JsonObject) (C : Flips → Event → Prop) : Flips → Prop
  | empty : Run F fromJson C {}
  | step {s t : Flips} (event : Event) (h : Run F fromJson C s) (hc : C s event) (ht : Step F fromJson s t event) :
    Run F fromJson C t

def Meets (F : FeatureList) (fromJson : Bytes → Option JsonObject) (s : Flips) : Event → Prop
  | .toggle feature => feature ∈ F.ids → Fit F s feature
  | .update data => ∀ updated, F.updatedLists ((fromJson data).getD []) s = some updated → UpdateFit F s updated

lemma Settled.step (hs : Settled F s) (event : Event) (hm : Meets F fromJson s event)
    (ht : Step F fromJson s t event) : Settled F t := by
  cases event with
  | toggle feature =>
    obtain ⟨n, b, ht⟩ := ht
    exact hs.toggle hm ht
  | update data =>
    obtain ⟨n, writes, ht⟩ := ht
    exact hs.update hm ht

lemma Run.settled (h : Run F fromJson (Meets F fromJson) s) : Settled F s := by
  induction h with
  | empty => exact settled_empty
  | step event _ hm ht ih => exact ih.step event hm ht

end Runs

/-- In a run whose calls fit the flips before them, a feature that fits is toggled and toggled back. -/
theorem Run.toggles (F : FeatureList) (fromJson : Bytes → Option JsonObject) (s : Flips) (f : String)
    (h : Run F fromJson (Meets F fromJson) s) (hf : f ∈ F.ids) (ht : F.isToggleable s f = true) (hfit : Fit F s f) :
    Toggles F s f := by
  obtain ⟨n, t, m, u, hn, -, hm⟩ := exists_toggles h.settled hf ht hfit
  exact ⟨n, t, m, u, hn, hm⟩

/-- The two features of the production table that depend on each other. -/
def inAppFeatures : FeatureList where
  ids := ["inAppAccountCreate", "inAppAuthentication"]
  flippableOn _ := true
  flippableOff _ := true
  dependencies id := if id = "inAppAccountCreate" then ["inAppAuthentication"] else []
  callback _ := true
  experimentalFeatureIds := []
  rank id := if id = "inAppAccountCreate" then 1 else 0
  mem_of_dependency id d hd := by
    split_ifs at hd <;> simp_all
  rank_lt id d hd := by
    split_ifs at hd <;> simp_all
  experimental := by simp

theorem toggles_inAppAuthentication : Toggles inAppFeatures {} "inAppAuthentication" :=
  Run.toggles inAppFeatures (fun _ => none) {} "inAppAuthentication" .empty (by decide) (by decide +kernel)
    ⟨fun _ _ h => by simp [Flips.on] at h, fun _ h => by simp [Flips.on] at h,
      fun h => absurd h (by decide +kernel)⟩

lemma asserted_off {b : Bool} (h : F.featureToggleOff n f true s = some (b, t)) : b = decide (f ∉ s.off) := by
  rw [featureToggleOff] at h
  obtain ⟨u, -, h⟩ := Option.bind_eq_some_iff.mp h
  obtain ⟨v, -, h⟩ := Option.map_eq_some_iff.mp h
  exact (congrArg Prod.fst h).symm

/-- The first feature is flipped off, and the second one on, which needs the first. -/
def authenticationOff : Option (Bool × Flips) := inAppFeatures.toggle 9 "inAppAuthentication" {}

def accountCreateOn : Option (Bool × Flips) :=
  authenticationOff.bind fun r => inAppFeatures.toggle 9 "inAppAccountCreate" r.2

/-- What the two calls leave of the first feature. -/
def left (s : Flips) : Bool :=
  decide ("inAppAuthentication" ∈ s.off) && inAppFeatures.isSupported false s "inAppAuthentication" &&
    inAppFeatures.isSupportedIgnoringFlip s "inAppAuthentication" &&
    inAppFeatures.isToggleable s "inAppAuthentication"

lemma left_accountCreateOn : accountCreateOn.any (fun r => left r.2) = true := by decide +kernel

/-- A feature that is flipped on by another one stays on the list of those flipped off, and to toggle it fails an
assertion. -/
theorem not_toggles_inAppAuthentication : ∃ s, Run inAppFeatures (fun _ => none) (fun _ _ => True) s ∧
    "inAppAuthentication" ∈ inAppFeatures.ids ∧ inAppFeatures.isToggleable s "inAppAuthentication" = true ∧
    ¬ Toggles inAppFeatures s "inAppAuthentication" := by
  obtain ⟨⟨b, s⟩, hs, hl⟩ := (Option.any_eq_true _ _).mp left_accountCreateOn
  obtain ⟨⟨b', s'⟩, hs', hb⟩ := Option.bind_eq_some_iff.mp hs
  simp only [left, Bool.and_eq_true, decide_eq_true_eq] at hl
  obtain ⟨⟨⟨hoff, hsup⟩, hi⟩, ht⟩ := hl
  refine ⟨s, .step (.toggle "inAppAccountCreate") (.step (.toggle "inAppAuthentication") .empty trivial
    ⟨9, b', hs'⟩) trivial ⟨9, b, hb⟩, by decide, ht, ?_⟩
  rintro ⟨n, t, m, u, hn, -⟩
  have h := hn.toggle
  rw [toggle_off (by decide) hsup hi rfl] at h
  simpa [hoff] using asserted_off h

end VpnClient.Features.FeatureList
