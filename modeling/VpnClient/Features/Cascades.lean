import VpnClient.Features.Feature

/-! The cascade of slots after a change of a list: it ends, and the states agree with the lists after it. -/

namespace VpnClient.Features.FeatureList

open Flips

variable {F : FeatureList} {s t u : Flips} {id d : String} {c : Bool} {n m : ℕ} {D : String → Prop}

section Support

lemma isSupportedWithin_eq (hn : F.rank id < n) (hm : F.rank id < m) :
    F.isSupportedWithin n c s id = F.isSupportedWithin m c s id := by
  induction n generalizing m id c with
  | zero => exact absurd hn (Nat.not_lt_zero _)
  | succ n ih =>
    cases m with
    | zero => exact absurd hm (Nat.not_lt_zero _)
    | succ m =>
      have hall : (F.dependencies id).all (F.isSupportedWithin n false s) =
          (F.dependencies id).all (F.isSupportedWithin m false s) := by
        rw [Bool.eq_iff_iff, List.all_eq_true, List.all_eq_true]
        apply forall₂_congr
        intro d hd
        have hr := F.rank_lt id d hd
        rw [ih (m := m) (by omega) (by omega)]
      rw [isSupportedWithin, isSupportedWithin, hall]

lemma isSupportedIgnoringFlip_iff : F.isSupportedIgnoringFlip s id = true ↔
    F.callback id = true ∧ ∀ d ∈ F.dependencies id, F.isSupported false s d = true := by
  rw [isSupportedIgnoringFlip, Bool.and_eq_true, List.all_eq_true]

lemma isSupported_iff : F.isSupported c s id = true ↔
    F.isFlippedOn c s id = true ∨ F.isFlippedOff c s id = false ∧ F.isSupportedIgnoringFlip s id = true := by
  have hall : (F.dependencies id).all (F.isSupportedWithin (F.rank id) false s) =
      (F.dependencies id).all (F.isSupported false s) := by
    rw [Bool.eq_iff_iff, List.all_eq_true, List.all_eq_true]
    apply forall₂_congr
    intro d hd
    rw [isSupported, isSupportedWithin_eq (F.rank_lt id d hd) (Nat.lt_succ_self _)]
  rw [isSupported, isSupportedWithin, hall, Bool.or_eq_true, Bool.and_eq_true, Bool.not_eq_true',
    isSupportedIgnoringFlip]

lemma isFlippedOn_true : F.isFlippedOn true s id = true ↔ F.flippableOn id = true ∧ id ∈ s.on := by
  simp [isFlippedOn]

lemma isFlippedOn_false : F.isFlippedOn false s id = true ↔ F.flippableOn id = true ∧ s.state id = .FlippedOn := by
  simp [isFlippedOn]

lemma isFlippedOff_true : F.isFlippedOff true s id = true ↔ F.flippableOff id = true ∧ id ∈ s.off := by
  simp [isFlippedOff]

lemma isFlippedOff_false :
    F.isFlippedOff false s id = true ↔ F.flippableOff id = true ∧ s.state id = .FlippedOff := by
  simp [isFlippedOff]

/-- With each feature its dependencies are in a set. -/
def Closed (F : FeatureList) (D : String → Prop) : Prop := ∀ id, D id → id ∈ F.ids ∧ ∀ d ∈ F.dependencies id, D d

/-- A feature of the set is flipped on at least where it was before, and flipped off at most where it was. -/
structure Rises (D : String → Prop) (s t : Flips) : Prop where
  on : ∀ id, D id → id ∈ s.on → id ∈ t.on
  off : ∀ id, D id → id ∈ t.off → id ∈ s.off
  flippedOn : ∀ id, D id → s.state id = .FlippedOn → t.state id = .FlippedOn
  flippedOff : ∀ id, D id → t.state id = .FlippedOff → s.state id = .FlippedOff

lemma Rises.isFlippedOn (h : Rises D s t) (hd : D id) (hs : F.isFlippedOn c s id = true) :
    F.isFlippedOn c t id = true := by
  cases c with
  | true =>
    rw [isFlippedOn_true] at hs ⊢
    exact ⟨hs.1, h.on id hd hs.2⟩
  | false =>
    rw [isFlippedOn_false] at hs ⊢
    exact ⟨hs.1, h.flippedOn id hd hs.2⟩

lemma Rises.isFlippedOff (h : Rises D s t) (hd : D id) (ht : F.isFlippedOff c t id = true) :
    F.isFlippedOff c s id = true := by
  cases c with
  | true =>
    rw [isFlippedOff_true] at ht ⊢
    exact ⟨ht.1, h.off id hd ht.2⟩
  | false =>
    rw [isFlippedOff_false] at ht ⊢
    exact ⟨ht.1, h.flippedOff id hd ht.2⟩

/-- What is supported stays supported, by induction on the rank. -/
lemma Rises.isSupported (h : Rises D s t) (hc : Closed F D) (hd : D id) (hs : F.isSupported c s id = true) :
    F.isSupported c t id = true := by
  induction hr : F.rank id using Nat.strong_induction_on generalizing id c with
  | _ r ih =>
    rw [isSupported_iff] at hs ⊢
    rcases hs with hs | ⟨hoff, hs⟩
    · exact Or.inl (h.isFlippedOn hd hs)
    · right
      rw [isSupportedIgnoringFlip_iff] at hs ⊢
      refine ⟨?_, hs.1, fun d hdep => ?_⟩
      · cases ht : F.isFlippedOff c t id with
        | false => rfl
        | true => exact absurd (h.isFlippedOff hd ht) (by simp [hoff])
      · exact ih _ (hr ▸ F.rank_lt id d hdep) ((hc id hd).2 d hdep) (hs.2 d hdep) rfl

lemma Rises.isSupportedIgnoringFlip (h : Rises D s t) (hc : Closed F D) (hd : ∀ d ∈ F.dependencies id, D d)
    (hs : F.isSupportedIgnoringFlip s id = true) : F.isSupportedIgnoringFlip t id = true := by
  rw [isSupportedIgnoringFlip_iff] at hs ⊢
  exact ⟨hs.1, fun d hdep => h.isSupported hc (hd d hdep) (hs.2 d hdep)⟩

/-- All that a feature needs can be flipped on. -/
inductive Enables (F : FeatureList) (s : Flips) : String → Prop
  | intro (id : String) (hf : ∀ d ∈ F.dependencies id, F.isSupported true s d = false → F.flippableOn d = true)
    (he : ∀ d ∈ F.dependencies id, F.isSupported true s d = false → Enables F s d) : Enables F s id

lemma Enables.flippableOn (h : Enables F s id) (hd : d ∈ F.dependencies id) (hs : F.isSupported true s d = false) :
    F.flippableOn d = true := by
  cases h with
  | intro _ hf _ => exact hf d hd hs

lemma Enables.dependency (h : Enables F s id) (hd : d ∈ F.dependencies id) (hs : F.isSupported true s d = false) :
    Enables F s d := by
  cases h with
  | intro _ _ he => exact he d hd hs

lemma Enables.rises (h : Enables F s id) (hr : Rises D s t) (hc : Closed F D) (hd : D id) : Enables F t id := by
  induction h with
  | intro id hf _ ih =>
    have hs (d : String) (hdep : d ∈ F.dependencies id) (ht : F.isSupported true t d = false) :
        F.isSupported true s d = false := by
      cases hs : F.isSupported true s d with
      | false => rfl
      | true => exact absurd (hr.isSupported hc ((hc id hd).2 d hdep) hs) (by simp [ht])
    exact .intro id (fun d hdep ht => hf d hdep (hs d hdep ht))
      fun d hdep ht => ih d hdep (hs d hdep ht) ((hc id hd).2 d hdep)

end Support

section Cascade

lemma listState_congr (hon : id ∈ t.on ↔ id ∈ s.on) (hoff : id ∈ t.off ↔ id ∈ s.off) :
    t.listState id = s.listState id := by
  simp only [listState, hon, hoff]

def Agrees (s : Flips) (id : String) : Prop := s.state id = s.listState id

/-- A cascade under way: the features outside of `D` are all told that they are flipped on, and those of `D` wait for
it with all that they need, or keep it. -/
structure Underway (F : FeatureList) (D : String → Prop) (s : Flips) : Prop where
  flippableOn : ∀ id ∈ s.on, F.flippableOn id = true
  outside : ∀ id ∈ F.ids, ¬ D id → id ∈ s.on → s.state id = .FlippedOn
  pending : ∀ id, D id → id ∈ s.on → s.state id ≠ .FlippedOn → Enables F s id
  flipped : ∀ id, D id → id ∈ s.on → s.state id = .FlippedOn →
    ∀ d ∈ F.dependencies id, F.isSupported true s d = true
  settled : ∀ id, D id → id ∉ s.on → Agrees s id

lemma Underway.setState (h : Underway F D s) (hc : Closed F D) (hd : ¬ D id) (hon : id ∉ s.on) (state : FlipState) :
    Underway F D (s.setState id state) := by
  have hs (x : String) (hx : D x) : (s.setState id state).state x = s.state x :=
    state_setState_of_ne (fun he : x = id => hd (he ▸ hx)) s state
  have hr : Rises D s (s.setState id state) :=
    ⟨fun _ _ h => h, fun _ _ h => h, fun x hx h => (hs x hx).trans h, fun x hx h => (hs x hx).symm.trans h⟩
  constructor
  case flippableOn => exact h.flippableOn
  case outside =>
    intro x hx hnd hxon
    exact (state_setState_of_ne (fun he : x = id => hon (he ▸ hxon)) s state).trans (h.outside x hx hnd hxon)
  case pending =>
    intro x hx hxon hst
    rw [hs x hx] at hst
    exact (h.pending x hx hxon hst).rises hr hc hx
  case flipped =>
    intro x hx hxon hst d hdep
    rw [hs x hx] at hst
    exact hr.isSupported hc ((hc x hx).2 d hdep) (h.flipped x hx hxon hst d hdep)
  case settled =>
    intro x hx hxon
    exact (hs x hx).trans (h.settled x hx hxon)

lemma Underway.remove (h : Underway F D s) (hc : Closed F D) (hd : ¬ D id) :
    Underway F D (s.withOn (s.on.filter (· ≠ id))) := by
  have hm (x : String) : x ∈ s.on.filter (· ≠ id) ↔ x ∈ s.on ∧ x ≠ id := by simp
  have hr : Rises D s (s.withOn (s.on.filter (· ≠ id))) :=
    ⟨fun x hx h => (hm x).mpr ⟨h, fun he => hd (he ▸ hx)⟩, fun _ _ h => h, fun _ _ h => h, fun _ _ h => h⟩
  constructor
  case flippableOn => exact fun x hx => h.flippableOn x ((hm x).mp hx).1
  case outside => exact fun x hx hnd hxon => h.outside x hx hnd ((hm x).mp hxon).1
  case pending => exact fun x hx hxon hst => (h.pending x hx ((hm x).mp hxon).1 hst).rises hr hc hx
  case flipped =>
    intro x hx hxon hst d hdep
    exact hr.isSupported hc ((hc x hx).2 d hdep) (h.flipped x hx ((hm x).mp hxon).1 hst d hdep)
  case settled =>
    intro x hx hxon
    have hn : x ∉ s.on := fun hs => hxon ((hm x).mpr ⟨hs, fun he => hd (he ▸ hx)⟩)
    exact (h.settled x hx hn).trans (listState_congr (iff_of_false hn hxon) Iff.rfl)

section Append

variable {flips ids : List String}

lemma mem_appendMissing : id ∈ appendMissing flips ids ↔ id ∈ flips ∨ id ∈ ids := by
  induction ids generalizing flips with
  | nil => simp [appendMissing]
  | cons other ids ih =>
    change id ∈ appendMissing (if other ∈ flips then flips else flips ++ [other]) ids ↔ _
    rw [ih]
    split_ifs with h
    · by_cases he : id = other
      · simp [he, h]
      · simp [he]
    · simp [or_assoc]

lemma countP_appendMissing {p : String → Bool} (h : ∀ id ∈ ids, p id = false) :
    (appendMissing flips ids).countP p = flips.countP p := by
  induction ids generalizing flips with
  | nil => rfl
  | cons other ids ih =>
    change (appendMissing (if other ∈ flips then flips else flips ++ [other]) ids).countP p = _
    rw [ih fun id hid => h id (List.mem_cons_of_mem _ hid)]
    split_ifs
    · rfl
    · simp [h other List.mem_cons_self]

/-- One element more is counted. -/
lemma countP_lt_countP {p q : String → Bool} (h : ∀ x ∈ ids, p x = true → q x = true) (hid : id ∈ ids)
    (hp : p id = false) (hq : q id = true) : ids.countP p < ids.countP q := by
  obtain ⟨before, after, rfl⟩ := List.append_of_mem hid
  have hb : before.countP p ≤ before.countP q := List.countP_mono_left fun x hx => h x (by simp [hx])
  have ha : after.countP p ≤ after.countP q := List.countP_mono_left fun x hx => h x (by simp [hx])
  rw [List.countP_append, List.countP_append, List.countP_cons_of_pos hq, List.countP_cons_of_neg (by simp [hp])]
  omega

end Append

lemma listState_of_notMem_on (h : id ∉ s.on) : s.listState id ≠ .FlippedOn := by
  rw [listState, if_neg h]
  split_ifs <;> simp

lemma rises_setState (s : Flips) (id : String) : Rises D s (s.setState id .FlippedOn) where
  on _ _ h := h
  off _ _ h := h
  flippedOn x _ h := by
    by_cases he : x = id
    · rw [he, state_setState_self]
    · rwa [state_setState_of_ne he]
  flippedOff x _ h := by
    by_cases he : x = id
    · rw [he, state_setState_self] at h
      cases h
    · rwa [state_setState_of_ne he] at h

lemma rises_appendMissing (s : Flips) (ids : List String) : Rises D s (s.withOn (appendMissing s.on ids)) :=
  ⟨fun _ _ h => mem_appendMissing.mpr (Or.inl h), fun _ _ h => h, fun _ _ h => h, fun _ _ h => h⟩

lemma Rises.trans (h : Rises D s t) (h' : Rises D t u) : Rises D s u where
  on id hd hs := h'.on id hd (h.on id hd hs)
  off id hd hu := h.off id hd (h'.off id hd hu)
  flippedOn id hd hs := h'.flippedOn id hd (h.flippedOn id hd hs)
  flippedOff id hd hu := h.flippedOff id hd (h'.flippedOff id hd hu)

lemma Rises.notSupported (h : Rises D s t) (hc : Closed F D) (hd : D id) (ht : F.isSupported c t id = false) :
    F.isSupported c s id = false := by
  cases hs : F.isSupported c s id with
  | false => rfl
  | true => exact absurd (h.isSupported hc hd hs) (by simp [ht])

/-- A feature that waits is told that it is flipped on, and all that it needs is put on the list. -/
lemma Underway.flip (h : Underway F D s) (hc : Closed F D) (hd : D id) (hon : id ∈ s.on)
    (hst : s.state id ≠ .FlippedOn) {ids : List String}
    (hids : ∀ d, d ∈ ids ↔ d ∈ F.dependencies id ∧ F.isSupported true (s.setState id .FlippedOn) d = false) :
    Underway F D ((s.setState id .FlippedOn).withOn (appendMissing s.on ids)) := by
  have he := h.pending id hd hon hst
  have hrs : Rises D s (s.setState id .FlippedOn) := rises_setState s id
  have hra : Rises D (s.setState id .FlippedOn) ((s.setState id .FlippedOn).withOn (appendMissing s.on ids)) :=
    rises_appendMissing _ ids
  have hr := hrs.trans hra
  have hds (d : String) (hm : d ∈ ids) : d ∈ F.dependencies id ∧ F.isSupported true s d = false :=
    ⟨((hids d).mp hm).1, hrs.notSupported hc ((hc id hd).2 d ((hids d).mp hm).1) ((hids d).mp hm).2⟩
  constructor
  case flippableOn =>
    intro x hx
    rcases mem_appendMissing.mp hx with hx | hx
    · exact h.flippableOn x hx
    · exact he.flippableOn (hds x hx).1 (hds x hx).2
  case outside =>
    intro x hx hnd hxon
    have hne : x ≠ id := fun hxid => hnd (hxid ▸ hd)
    rcases mem_appendMissing.mp hxon with hxon | hxon
    · rw [state_withOn, state_setState_of_ne hne]
      exact h.outside x hx hnd hxon
    · exact absurd ((hc id hd).2 x (hds x hxon).1) hnd
  case pending =>
    intro x hx hxon hxst
    have hne : x ≠ id := by
      rintro rfl
      exact hxst (state_setState_self ..)
    rw [state_withOn, state_setState_of_ne hne] at hxst
    rcases mem_appendMissing.mp hxon with hxon | hxon
    · exact (h.pending x hx hxon hxst).rises hr hc hx
    · exact (he.dependency (hds x hxon).1 (hds x hxon).2).rises hr hc hx
  case flipped =>
    intro x hx hxon hxst d hdep
    by_cases hne : x = id
    · subst hne
      cases hsup : F.isSupported true (s.setState x .FlippedOn) d with
      | true => exact hra.isSupported hc ((hc x hx).2 d hdep) hsup
      | false =>
        have hm := (hids d).mpr ⟨hdep, hsup⟩
        rw [isSupported_iff, isFlippedOn_true]
        exact Or.inl ⟨he.flippableOn hdep (hds d hm).2, mem_appendMissing.mpr (Or.inr hm)⟩
    · rw [state_withOn, state_setState_of_ne hne] at hxst
      have hxs : x ∈ s.on := by
        by_contra hn
        exact listState_of_notMem_on hn ((h.settled x hx hn).symm.trans hxst)
      exact hr.isSupported hc ((hc x hx).2 d hdep) (h.flipped x hx hxs hxst d hdep)
  case settled =>
    intro x hx hxon
    have hxs : x ∉ s.on := fun hxs => hxon (mem_appendMissing.mpr (Or.inl hxs))
    have hne : x ≠ id := fun hxid => hxs (hxid ▸ hon)
    have hsame : ((s.setState id .FlippedOn).withOn (appendMissing s.on ids)).listState x = s.listState x :=
      listState_congr (iff_of_false hxon hxs) Iff.rfl
    rw [Agrees, hsame, state_withOn, state_setState_of_ne hne]
    exact h.settled x hx hxs

section Measure

variable [DecidablePred D]

/-- The features of `D` that may be flipped on still, and the others that may be dropped. -/
def remaining (F : FeatureList) (D : String → Prop) [DecidablePred D] (s : Flips) : ℕ :=
  F.ids.countP (fun id => D id ∧ s.state id ≠ .FlippedOn) + s.on.countP (fun id => ¬ D id)

/-- What a part of a cascade does to the lists and states. -/
structure Grows (F : FeatureList) (D : String → Prop) [DecidablePred D] (s t : Flips) : Prop where
  off : t.off = s.off
  on : ∀ id, D id → id ∈ s.on → id ∈ t.on
  flippedOn : ∀ id, D id → s.state id = .FlippedOn → t.state id = .FlippedOn
  added : ∀ id ∈ t.on, id ∈ s.on ∨ D id ∧ F.flippableOn id = true
  remaining : remaining F D t ≤ remaining F D s

lemma Grows.refl (s : Flips) : Grows F D s s := ⟨rfl, fun _ _ h => h, fun _ _ h => h, fun _ h => Or.inl h, le_rfl⟩

lemma Grows.trans (h : Grows F D s t) (h' : Grows F D t u) : Grows F D s u where
  off := h'.off.trans h.off
  on id hd hs := h'.on id hd (h.on id hd hs)
  flippedOn id hd hs := h'.flippedOn id hd (h.flippedOn id hd hs)
  added id hu := (h'.added id hu).elim (h.added id) Or.inr
  remaining := h'.remaining.trans h.remaining

/-- What is known after a part of a cascade. -/
structure Goes (F : FeatureList) (D : String → Prop) [DecidablePred D] (s t : Flips) : Prop where
  underway : Underway F D t
  grows : Grows F D s t
  agrees : ∀ id, Agrees s id → Agrees t id

lemma Goes.refl (h : Underway F D s) : Goes F D s s := ⟨h, Grows.refl s, fun _ h => h⟩

lemma Goes.trans (h : Goes F D s t) (h' : Goes F D t u) : Goes F D s u :=
  ⟨h'.underway, h.grows.trans h'.grows, fun id hs => h'.agrees id (h.agrees id hs)⟩

/-- A slot that goes on with the cascade and tells its own feature. -/
def SlotGoes (F : FeatureList) (D : String → Prop) [DecidablePred D] (k n : ℕ) : Prop :=
  ∀ s, Underway F D s → remaining F D s ≤ k → ∀ id ∈ F.ids, ∃ t, F.slot n id s = some t ∧ Goes F D s t ∧ Agrees t id

lemma emitChanged_goes {k : ℕ} (h : SlotGoes F D k n) {ids : List String} (hids : ∀ id ∈ ids, id ∈ F.ids)
    (hs : Underway F D s) (hk : remaining F D s ≤ k) :
    ∃ t, emitChanged (F.slot n) ids s = some t ∧ Goes F D s t ∧ ∀ id ∈ ids, Agrees t id := by
  induction ids generalizing s with
  | nil => exact ⟨s, rfl, Goes.refl hs, by simp⟩
  | cons id ids ih =>
    obtain ⟨t, ht, hg, ha⟩ := h s hs hk id (hids id List.mem_cons_self)
    obtain ⟨u, hu, hgu, hau⟩ := ih (fun other ho => hids other (List.mem_cons_of_mem _ ho)) hg.underway
      (hg.grows.remaining.trans hk)
    refine ⟨u, by rw [emitChanged, ht, Option.bind_some, hu], hg.trans hgu, ?_⟩
    exact List.forall_mem_cons.mpr ⟨hgu.agrees id ha, hau⟩

lemma slot_succ : F.slot (n + 1) id s = F.maybeFlipOnOrOff (F.setFeaturesFlippedOn n) id s := rfl

lemma setFeaturesFlippedOn_goes {k : ℕ} {flips : List String} (h : SlotGoes F D k n)
    (hne : s.featuresFlippedOn ≠ some flips) (hu : Underway F D (s.withOn flips))
    (hk : remaining F D (s.withOn flips) ≤ k) :
    ∃ t, F.setFeaturesFlippedOn n flips s = some t ∧ Goes F D (s.withOn flips) t ∧ ∀ id ∈ F.onSlots, Agrees t id := by
  rw [setFeaturesFlippedOn, if_neg hne]
  exact emitChanged_goes h (fun id hid => (List.mem_filter.mp hid).1) hu hk

lemma featuresFlippedOn_ne {flips : List String} (h : s.on ≠ flips) : s.featuresFlippedOn ≠ some flips :=
  fun he => h (by rw [on, he, Option.getD_some])

lemma countP_setState_le (state : FlipState) (hd : ¬ D id) :
    F.ids.countP (fun x => D x ∧ (s.setState id state).state x ≠ .FlippedOn) =
      F.ids.countP (fun x => D x ∧ s.state x ≠ .FlippedOn) := by
  apply List.countP_congr
  intro x _
  by_cases hx : x = id
  · simp [hx, hd]
  · simp [state_setState_of_ne hx]

lemma sync_goes (h : Underway F D s) (hc : Closed F D) (hd : ¬ D id) (hon : id ∉ s.on) :
    Goes F D s (s.setState id (s.listState id)) := by
  have hl (x : String) : (s.setState id (s.listState id)).listState x = s.listState x := rfl
  refine ⟨h.setState hc hd hon _, ⟨rfl, fun _ _ h => h, ?_, fun _ h => Or.inl h, ?_⟩, ?_⟩
  · intro x hx hst
    rwa [state_setState_of_ne fun he : x = id => hd (he ▸ hx)]
  · rw [remaining, remaining, countP_setState_le _ hd]
    exact le_rfl
  · intro x hx
    rw [Agrees, hl]
    by_cases he : x = id
    · rw [he, state_setState_self]
    · rw [state_setState_of_ne he, hx]

lemma remove_grows (hd : ¬ D id) : Grows F D s (s.withOn (s.on.filter (· ≠ id))) where
  off := rfl
  on _ hx hs := List.mem_filter.mpr ⟨hs, decide_eq_true fun he => hd (he ▸ hx)⟩
  flippedOn _ _ h := h
  added _ hx := Or.inl (List.mem_filter.mp hx).1
  remaining := Nat.add_le_add_left (List.Sublist.countP_le List.filter_sublist) _

lemma remaining_remove_lt (hd : ¬ D id) (hon : id ∈ s.on) :
    remaining F D (s.withOn (s.on.filter (· ≠ id))) < remaining F D s := by
  apply Nat.add_lt_add_left
  rw [on_withOn, List.countP_filter]
  exact countP_lt_countP (fun x _ hx => (Bool.and_eq_true_iff.mp hx).1) hon (by simp) (decide_eq_true hd)

lemma remaining_flip_lt (hc : Closed F D) (hd : D id) (hst : s.state id ≠ .FlippedOn) (ids : List String)
    (hids : ∀ d ∈ ids, d ∈ F.dependencies id) :
    remaining F D ((s.setState id .FlippedOn).withOn (appendMissing s.on ids)) < remaining F D s := by
  have hon : (appendMissing s.on ids).countP (fun x => ¬ D x) = s.on.countP (fun x => ¬ D x) :=
    countP_appendMissing fun d hm => by simpa using (hc id hd).2 d (hids d hm)
  rw [remaining, remaining, on_withOn, hon]
  apply Nat.add_lt_add_right
  apply countP_lt_countP _ (hc id hd).1 (by simp) (by simp [hd, hst])
  intro x _ hx
  by_cases he : x = id
  · simp [he] at hx
  · simpa [state_setState_of_ne he] using hx

lemma flip_grows (hc : Closed F D) (hd : D id) (hst : s.state id ≠ .FlippedOn) (ids : List String)
    (hids : ∀ d ∈ ids, d ∈ F.dependencies id) (hf : ∀ d ∈ ids, F.flippableOn d = true) :
    Grows F D s ((s.setState id .FlippedOn).withOn (appendMissing s.on ids)) where
  off := rfl
  on _ _ h := mem_appendMissing.mpr (Or.inl h)
  flippedOn x hx h := (rises_setState (D := D) s id).flippedOn x hx h
  added x hx := (mem_appendMissing.mp hx).imp_right fun hm => ⟨(hc id hd).2 x (hids x hm), hf x hm⟩
  remaining := (remaining_flip_lt hc hd hst ids hids).le

lemma drop_goes {k : ℕ} (h : SlotGoes F D k n) (hs : Underway F D s) (hc : Closed F D) (hid : id ∈ F.ids)
    (hd : ¬ D id) (hon : id ∈ s.on) (hk : remaining F D (s.withOn (s.on.filter (· ≠ id))) ≤ k) :
    ∃ t, F.setFeaturesFlippedOn n (s.on.filter (· ≠ id)) s = some t ∧ Goes F D s t ∧ Agrees t id := by
  have hne : s.on ≠ s.on.filter (· ≠ id) := by
    intro he
    rw [he] at hon
    simp at hon
  obtain ⟨t, ht, hg, ha⟩ := setFeaturesFlippedOn_goes h (featuresFlippedOn_ne hne) (hs.remove hc hd) hk
  have hagree : Agrees t id := ha id (List.mem_filter.mpr ⟨hid, hs.flippableOn id hon⟩)
  refine ⟨t, ht, ⟨hg.underway, (remove_grows hd).trans hg.grows, fun x hx => ?_⟩, hagree⟩
  by_cases he : x = id
  · exact he ▸ hagree
  · apply hg.agrees x
    rw [Agrees, state_withOn, hx]
    exact listState_congr (by simp [he]) Iff.rfl

lemma setState_goes (hs : Underway F D s) (hc : Closed F D) (hd : D id) (hon : id ∈ s.on)
    (hst : s.state id ≠ .FlippedOn)
    (hdep : ∀ d ∈ F.dependencies id, F.isSupported true (s.setState id .FlippedOn) d = true) :
    Goes F D s (s.setState id .FlippedOn) ∧ Agrees (s.setState id .FlippedOn) id := by
  have hsome : s.featuresFlippedOn = some s.on := by
    cases hf : s.featuresFlippedOn with
    | none => simp [on, hf] at hon
    | some flips => rw [on, hf, Option.getD_some]
  have he : (s.setState id .FlippedOn).withOn (appendMissing s.on []) = s.setState id .FlippedOn := by
    rw [withOn, appendMissing, List.foldl_nil, ← hsome]
    rfl
  have hnone (d : String) : d ∈ ([] : List String) ↔
      d ∈ F.dependencies id ∧ F.isSupported true (s.setState id .FlippedOn) d = false := by simpa using hdep d
  have hu := hs.flip hc hd hon hst hnone
  have hg := flip_grows hc hd hst (s := s) [] (by simp) (by simp)
  rw [he] at hu hg
  have hagree : Agrees (s.setState id .FlippedOn) id := by
    rw [Agrees, state_setState_self, listState, on_setState, if_pos hon]
  refine ⟨⟨hu, hg, fun x hx => ?_⟩, hagree⟩
  by_cases hxid : x = id
  · exact hxid ▸ hagree
  · exact (state_setState_of_ne hxid s _).trans hx

lemma flip_goes {k : ℕ} (h : SlotGoes F D k n) (hs : Underway F D s) (hc : Closed F D) (hid : id ∈ F.ids)
    (hd : D id) (hon : id ∈ s.on) (hst : s.state id ≠ .FlippedOn) {ids : List String} (hne : ids ≠ [])
    (hids : ∀ d, d ∈ ids ↔ d ∈ F.dependencies id ∧ F.isSupported true (s.setState id .FlippedOn) d = false)
    (hf : ∀ d ∈ ids, F.flippableOn d = true)
    (hk : remaining F D ((s.setState id .FlippedOn).withOn (appendMissing s.on ids)) ≤ k) :
    ∃ t, F.setFeaturesFlippedOn n (appendMissing s.on ids) (s.setState id .FlippedOn) = some t ∧
      Goes F D s t ∧ Agrees t id ∧ ∀ d ∈ ids, F.isSupported false t d = true := by
  have hdep (d : String) (hm : d ∈ ids) : d ∈ F.dependencies id := ((hids d).mp hm).1
  have hslot (d : String) (hm : d ∈ ids) : d ∈ F.onSlots :=
    List.mem_filter.mpr ⟨F.mem_of_dependency id d (hdep d hm), hf d hm⟩
  have hnew (d : String) (hm : d ∈ ids) : d ∉ s.on := by
    intro hdon
    have hsup := ((hids d).mp hm).2
    have : F.isSupported true (s.setState id .FlippedOn) d = true := by
      rw [isSupported_iff, isFlippedOn_true]
      exact Or.inl ⟨hf d hm, hdon⟩
    simp [hsup] at this
  have hon' : (s.setState id .FlippedOn).on ≠ appendMissing s.on ids := by
    obtain ⟨d, hm⟩ := List.exists_mem_of_ne_nil ids hne
    intro he
    exact hnew d hm (he ▸ mem_appendMissing.mpr (Or.inr hm) : d ∈ (s.setState id .FlippedOn).on)
  obtain ⟨t, ht, hg, ha⟩ := setFeaturesFlippedOn_goes h (featuresFlippedOn_ne hon')
    (hs.flip hc hd hon hst hids) hk
  have hagree : Agrees t id := ha id (List.mem_filter.mpr ⟨hid, hs.flippableOn id hon⟩)
  refine ⟨t, ht, ⟨hg.underway, (flip_grows hc hd hst ids hdep hf).trans hg.grows, fun x hx => ?_⟩, hagree, fun d hm => ?_⟩
  · by_cases hxid : x = id
    · exact hxid ▸ hagree
    by_cases hxm : x ∈ ids
    · exact ha x (hslot x hxm)
    · apply hg.agrees x
      rw [Agrees, state_withOn, state_setState_of_ne hxid, hx]
      exact listState_congr (by simp [mem_appendMissing, hxm]) Iff.rfl
  · have hdt : d ∈ t.on := hg.grows.on d ((hc id hd).2 d (hdep d hm)) (mem_appendMissing.mpr (Or.inr hm))
    rw [isSupported_iff, isFlippedOn_false]
    exact Or.inl ⟨hf d hm, (ha d (hslot d hm)).trans (if_pos hdt)⟩

/-- A slot ends, by induction on what remains. -/
lemma slotGoes (hc : Closed F D) {k : ℕ} (hn : k < n) : SlotGoes F D k n := by
  induction k using Nat.strong_induction_on generalizing n with
  | _ k ih =>
    obtain ⟨m, rfl⟩ : ∃ m, n = m + 1 := ⟨n - 1, by omega⟩
    intro s hs hk id hid
    rw [slot_succ, maybeFlipOnOrOff]
    by_cases hon : id ∈ s.on
    case neg =>
      have hl := listState_of_notMem_on hon
      by_cases he : s.listState id = s.state id
      · rw [if_pos he, if_neg (fun h => hl h.1)]
        exact ⟨s, rfl, Goes.refl hs, he.symm⟩
      · rw [if_neg he, if_pos hl]
        have hd : ¬ D id := fun hd => he (hs.settled id hd hon).symm
        exact ⟨_, rfl, sync_goes hs hc hd hon, state_setState_self ..⟩
    case pos =>
      have hl : s.listState id = .FlippedOn := if_pos hon
      by_cases hst : s.state id = .FlippedOn
      · rw [hl, if_pos hst.symm]
        by_cases hdrop : ∃ d ∈ F.dependencies id, F.isSupported true s d = false
        · rw [if_pos ⟨rfl, hdrop⟩]
          have hd : ¬ D id := by
            intro hd
            obtain ⟨d, hdep, hsup⟩ := hdrop
            simpa [hsup] using hs.flipped id hd hon hst d hdep
          have hlt := remaining_remove_lt (F := F) hd hon
          exact drop_goes (ih _ (by omega) (by omega)) hs hc hid hd hon le_rfl
        · rw [if_neg fun h => hdrop h.2]
          exact ⟨s, rfl, Goes.refl hs, by rw [Agrees, hst, hl]⟩
      · have hd : D id := by
          by_contra hd
          exact hst (hs.outside id hid hd hon)
        rw [hl, if_neg (Ne.symm hst), if_neg (by simp)]
        dsimp only
        have hids (d : String) : d ∈ (F.dependencies id).filter
            (fun d => F.isSupported true (s.setState id .FlippedOn) d = false) ↔
            d ∈ F.dependencies id ∧ F.isSupported true (s.setState id .FlippedOn) d = false := by
          rw [List.mem_filter, decide_eq_true_iff]
        generalize (F.dependencies id).filter
          (fun d => F.isSupported true (s.setState id .FlippedOn) d = false) = ids at hids
        have hf : ∀ d ∈ ids, F.flippableOn d = true := by
          intro d hm
          obtain ⟨hdep, hsup⟩ := (hids d).mp hm
          exact (hs.pending id hd hon hst).flippableOn hdep
            ((rises_setState s id).notSupported hc ((hc id hd).2 d hdep) hsup)
        rw [if_neg (by simpa using hf)]
        by_cases hne : ids = []
        · rw [if_pos hne]
          have hdep : ∀ d ∈ F.dependencies id, F.isSupported true (s.setState id .FlippedOn) d = true := by
            intro d hdep
            by_contra hsup
            have := (hids d).mpr ⟨hdep, by simpa using hsup⟩
            simp [hne] at this
          exact ⟨_, rfl, setState_goes hs hc hd hon hst hdep⟩
        · rw [if_neg hne]
          have hlt := remaining_flip_lt hc hd hst (s := s) ids fun d hm => ((hids d).mp hm).1
          obtain ⟨t, ht, hg, ha, hsup⟩ := flip_goes (ih _ (by omega) (by omega : _ < m)) hs hc hid hd hon hst hne hids hf
            le_rfl
          refine ⟨t, ?_, hg, ha⟩
          rw [on_setState, ht, Option.map_some, if_neg (by simpa using hsup)]

end Measure

end Cascade

section Fuel

lemma maybeFlipOnOrOff_mono {setOn setOn' : List String → Flips → Option Flips}
    (h : ∀ flips s t, setOn flips s = some t → setOn' flips s = some t)
    (ht : F.maybeFlipOnOrOff setOn id s = some t) : F.maybeFlipOnOrOff setOn' id s = some t := by
  rw [maybeFlipOnOrOff] at ht ⊢
  dsimp only at ht ⊢
  split_ifs at ht ⊢ <;> try exact ht
  · exact h _ _ _ ht
  · obtain ⟨u, hu, rfl⟩ := Option.map_eq_some_iff.mp ht
    rw [h _ _ _ hu, Option.map_some]

lemma emitChanged_mono {f g : String → Flips → Option Flips} (h : ∀ id s t, f id s = some t → g id s = some t)
    {ids : List String} (ht : emitChanged f ids s = some t) : emitChanged g ids s = some t := by
  induction ids generalizing s with
  | nil => exact ht
  | cons id ids ih =>
    obtain ⟨u, hu, ht⟩ := Option.bind_eq_some_iff.mp ht
    rw [emitChanged, h id s u hu, Option.bind_some, ih ht]

/-- More nested signals are never in the way. -/
lemma slot_mono (hnm : n ≤ m) (ht : F.slot n id s = some t) : F.slot m id s = some t := by
  induction n generalizing m id s t with
  | zero => cases ht
  | succ n ih =>
    obtain ⟨m, rfl⟩ : ∃ k, m = k + 1 := ⟨m - 1, by omega⟩
    rw [slot_succ] at ht ⊢
    refine maybeFlipOnOrOff_mono (fun flips s t hset => ?_) ht
    rw [setFeaturesFlippedOn] at hset ⊢
    split_ifs at hset ⊢ with he
    · exact hset
    · exact emitChanged_mono (fun id s t h => ih (by omega) h) hset

lemma setFeaturesFlippedOn_mono {flips : List String} (hnm : n ≤ m) (ht : F.setFeaturesFlippedOn n flips s = some t) :
    F.setFeaturesFlippedOn m flips s = some t := by
  rw [setFeaturesFlippedOn] at ht ⊢
  split_ifs at ht ⊢
  · exact ht
  · exact emitChanged_mono (fun _ _ _ h => slot_mono hnm h) ht

lemma setFeaturesFlippedOff_mono {flips : List String} (hnm : n ≤ m)
    (ht : F.setFeaturesFlippedOff n flips s = some t) : F.setFeaturesFlippedOff m flips s = some t := by
  rw [setFeaturesFlippedOff] at ht ⊢
  split_ifs at ht ⊢
  · exact ht
  · exact emitChanged_mono (fun _ _ _ h => slot_mono hnm h) ht

end Fuel

section Settled

variable [DecidablePred D] {flips : List String}

/-- No cascade is under way, and only features are flipped that may be. -/
structure Settled (F : FeatureList) (s : Flips) : Prop where
  agrees : ∀ id ∈ F.ids, Agrees s id
  flippableOn : ∀ id ∈ s.on, F.flippableOn id = true
  flippableOff : ∀ id ∈ s.off, F.flippableOff id = true

lemma Settled.setFeaturesFlippedOn (hs : Settled F s) (hc : Closed F D) (hu : Underway F D (s.withOn flips)) :
    ∃ n t, F.setFeaturesFlippedOn n flips s = some t ∧ Settled F t ∧ Grows F D (s.withOn flips) t ∧ Underway F D t := by
  by_cases he : s.featuresFlippedOn = some flips
  case pos =>
    have hw : s.withOn flips = s := by rw [withOn, ← he]
    rw [hw] at hu ⊢
    exact ⟨0, s, if_pos he, hs, Grows.refl s, hu⟩
  case neg =>
    obtain ⟨t, ht, hg, ha⟩ := setFeaturesFlippedOn_goes (slotGoes hc (Nat.lt_succ_self _)) he hu le_rfl
    refine ⟨_, t, ht, ⟨fun id hid => ?_, hg.underway.flippableOn, ?_⟩, hg.grows, hg.underway⟩
    · by_cases hf : F.flippableOn id = true
      · exact ha id (List.mem_filter.mpr ⟨hid, hf⟩)
      · apply hg.agrees id
        rw [Agrees, state_withOn, hs.agrees id hid]
        exact (listState_congr (iff_of_false (fun h => hf (hu.flippableOn id h)) fun h => hf (hs.flippableOn id h))
          Iff.rfl).symm
    · rw [hg.grows.off]
      exact hs.flippableOff

lemma Settled.setFeaturesFlippedOff (hs : Settled F s) (hc : Closed F D) (hu : Underway F D (s.withOff flips))
    (hf : ∀ id ∈ flips, F.flippableOff id = true) :
    ∃ n t, F.setFeaturesFlippedOff n flips s = some t ∧ Settled F t ∧ Grows F D (s.withOff flips) t ∧
      Underway F D t := by
  by_cases he : s.featuresFlippedOff = some flips
  case pos =>
    have hw : s.withOff flips = s := by rw [withOff, ← he]
    rw [hw] at hu ⊢
    exact ⟨0, s, if_pos he, hs, Grows.refl s, hu⟩
  case neg =>
    obtain ⟨t, ht, hg, ha⟩ := emitChanged_goes (slotGoes hc (Nat.lt_succ_self _))
      (fun id hid => (List.mem_filter.mp hid).1 : ∀ id ∈ F.offSlots, id ∈ F.ids) hu le_rfl
    refine ⟨_, t, (if_neg he).trans ht, ⟨fun id hid => ?_, hg.underway.flippableOn, ?_⟩, hg.grows, hg.underway⟩
    · by_cases hfo : F.flippableOff id = true
      · exact ha id (List.mem_filter.mpr ⟨hid, hfo⟩)
      · apply hg.agrees id
        rw [Agrees, state_withOff, hs.agrees id hid]
        exact listState_congr Iff.rfl (iff_of_false (fun h => hfo (hs.flippableOff id h)) fun h => hfo (hf id h))
    · rw [hg.grows.off]
      exact hf

end Settled

end VpnClient.Features.FeatureList
