import VpnClient.Features.Cascades
import Mathlib.Data.DFinsupp.WellFounded

/-! Every cascade of slots ends: by rank, from the lowest one on, what the features still may do gets less with each
signal, or else what the highest ones may do does. -/

namespace VpnClient.Features.FeatureList

open Flips

variable {F : FeatureList} {s t u : Flips} {id d e : String} {c : Bool} {k m n K : ℕ}

section Ranks

/-- A dependency is not supported by the lists. -/
def Misses (F : FeatureList) (s : Flips) (id : String) : Prop := ∃ d ∈ F.dependencies id, F.isSupported true s d = false

instance decidableMisses (F : FeatureList) (s : Flips) (id : String) : Decidable (Misses F s id) :=
  inferInstanceAs (Decidable (∃ d ∈ F.dependencies id, F.isSupported true s d = false))

/-- A feature that is flipped on, and that its slot drops from the list. -/
def Hot (F : FeatureList) (s : Flips) (id : String) : Prop := s.state id = .FlippedOn ∧ Misses F s id

instance decidableHot (F : FeatureList) (s : Flips) (id : String) : Decidable (Hot F s id) :=
  inferInstanceAs (Decidable (_ ∧ _))

def HotBelow (F : FeatureList) (s : Flips) (k : ℕ) : Prop := ∃ id ∈ F.onSlots, F.rank id < k ∧ Hot F s id

instance decidableHotBelow (F : FeatureList) (s : Flips) (k : ℕ) : Decidable (HotBelow F s k) :=
  inferInstanceAs (Decidable (∃ id ∈ F.onSlots, F.rank id < k ∧ Hot F s id))

/-- No lower feature is hot. -/
def Lowest (F : FeatureList) (s : Flips) (id : String) : Prop := Hot F s id ∧ ¬ HotBelow F s (F.rank id)

/-- How far a feature is from where it stays while nothing below it changes. -/
def distance (F : FeatureList) (s : Flips) (id : String) : ℕ :=
  if Hot F s id then 4
  else if id ∉ s.on then if s.state id = s.listState id then 2 else 3
  else if s.state id = if Misses F s id then .DefaultValue else .FlippedOn then 0 else 1

/-- What a feature on the list may still do: be flipped on, and be dropped. -/
def chances (s : Flips) (id : String) : ℕ := if id ∉ s.on then 0 else if s.state id = .FlippedOn then 1 else 2

def sumAt (F : FeatureList) (f : String → ℕ) (k : ℕ) : ℕ := ((F.onSlots.filter (F.rank · = k)).map f).sum

/-- The distances by rank, as far as nothing below is hot. -/
def distances (F : FeatureList) (K : ℕ) (s : Flips) : Lex (Fin K → ℕ) :=
  toLex fun k => if HotBelow F s k then 0 else sumAt F (distance F s) k

def chancesLeft (F : FeatureList) (K : ℕ) (s : Flips) : Colex (Fin K → ℕ) := toColex fun k => sumAt F (chances s) k

/-- Nothing differs below a rank. -/
structure SameBelow (F : FeatureList) (m : ℕ) (s t : Flips) : Prop where
  on : ∀ id ∈ F.ids, F.rank id < m → (id ∈ t.on ↔ id ∈ s.on)
  off : t.off = s.off
  state : ∀ id ∈ F.ids, F.rank id < m → t.state id = s.state id

lemma SameBelow.symm (h : SameBelow F m s t) : SameBelow F m t s :=
  ⟨fun id hid hr => (h.on id hid hr).symm, h.off.symm, fun id hid hr => (h.state id hid hr).symm⟩

lemma mem_ids_of_onSlots (h : id ∈ F.onSlots) : id ∈ F.ids := (List.mem_filter.mp h).1

lemma SameBelow.rises (h : SameBelow F m s t) : Rises (fun id => id ∈ F.ids ∧ F.rank id < m) s t where
  on id hid hs := (h.on id hid.1 hid.2).mpr hs
  off _ _ ht := h.off ▸ ht
  flippedOn id hid hs := (h.state id hid.1 hid.2).trans hs
  flippedOff id hid ht := (h.state id hid.1 hid.2).symm.trans ht

lemma closed_below : Closed F (fun id => id ∈ F.ids ∧ F.rank id < m) := fun _ hid =>
  ⟨hid.1, fun d hd => ⟨F.mem_of_dependency _ d hd, (F.rank_lt _ d hd).trans hid.2⟩⟩

lemma SameBelow.isSupported (h : SameBelow F m s t) (hid : id ∈ F.ids) (hr : F.rank id < m) :
    F.isSupported c t id = F.isSupported c s id := by
  rw [Bool.eq_iff_iff]
  exact ⟨h.symm.rises.isSupported closed_below ⟨hid, hr⟩, h.rises.isSupported closed_below ⟨hid, hr⟩⟩

lemma SameBelow.misses_iff (h : SameBelow F m s t) (hr : F.rank id ≤ m) : Misses F t id ↔ Misses F s id := by
  apply exists_congr
  intro d
  apply and_congr_right
  intro hd
  rw [h.isSupported (F.mem_of_dependency id d hd) ((F.rank_lt id d hd).trans_le hr)]

lemma SameBelow.hot_iff (h : SameBelow F m s t) (hr : F.rank id ≤ m) (hs : t.state id = s.state id) :
    Hot F t id ↔ Hot F s id := by
  rw [Hot, Hot, hs, h.misses_iff hr]

lemma SameBelow.hotBelow_iff (h : SameBelow F m s t) (hk : k ≤ m) : HotBelow F t k ↔ HotBelow F s k := by
  apply exists_congr
  intro id
  apply and_congr_right
  intro hid
  apply and_congr_right
  intro hr
  have hm := hr.trans_le hk
  exact h.hot_iff hm.le (h.state id (mem_ids_of_onSlots hid) hm)

lemma SameBelow.distance_eq (h : SameBelow F m s t) (hr : F.rank id ≤ m) (hon : id ∈ t.on ↔ id ∈ s.on)
    (hs : t.state id = s.state id) : distance F t id = distance F s id := by
  have hl : t.listState id = s.listState id := listState_congr hon (by rw [h.off])
  simp only [distance, h.hot_iff hr hs, h.misses_iff hr, hon, hs, hl]

lemma sumAt_congr {f g : String → ℕ} (h : ∀ id ∈ F.onSlots, F.rank id = k → f id = g id) :
    sumAt F f k = sumAt F g k := by
  rw [sumAt, sumAt]
  congr 1
  apply List.map_congr_left
  intro id hid
  obtain ⟨hid, hr⟩ := List.mem_filter.mp hid
  exact h id hid (of_decide_eq_true hr)

lemma sumAt_le {f g : String → ℕ} (h : ∀ id ∈ F.onSlots, F.rank id = k → f id ≤ g id) : sumAt F f k ≤ sumAt F g k := by
  apply List.sum_le_sum
  intro id hid
  obtain ⟨hid, hr⟩ := List.mem_filter.mp hid
  exact h id hid (of_decide_eq_true hr)

lemma sumAt_lt {f g : String → ℕ} (h : ∀ id ∈ F.onSlots, F.rank id = k → f id ≤ g id) (hid : id ∈ F.onSlots)
    (hr : F.rank id = k) (hl : f id < g id) : sumAt F f k < sumAt F g k := by
  apply List.sum_lt_sum
  · intro other ho
    obtain ⟨ho, hr⟩ := List.mem_filter.mp ho
    exact h other ho (of_decide_eq_true hr)
  · exact ⟨id, List.mem_filter.mpr ⟨hid, decide_eq_true hr⟩, hl⟩

lemma SameBelow.entry_eq (h : SameBelow F m s t) (hk : k < m) :
    (if HotBelow F t k then 0 else sumAt F (distance F t) k) =
      if HotBelow F s k then 0 else sumAt F (distance F s) k := by
  have hs : sumAt F (distance F t) k = sumAt F (distance F s) k := by
    apply sumAt_congr
    intro id hid hr
    have hm : F.rank id < m := hr ▸ hk
    have hi := mem_ids_of_onSlots hid
    exact h.distance_eq hm.le (h.on id hi hm) (h.state id hi hm)
  simp only [h.hotBelow_iff hk.le, hs]

lemma HotBelow.mono (h : HotBelow F s k) (hk : k ≤ m) : HotBelow F s m := by
  obtain ⟨id, hid, hr, hh⟩ := h
  exact ⟨id, hid, hr.trans_le hk, hh⟩

lemma SameBelow.distances_eq (h : SameBelow F m s t) : distances F m t = distances F m s := by
  apply congrArg toLex
  funext k
  exact h.entry_eq k.isLt

/-- Beyond a hot feature nothing counts. -/
lemma SameBelow.distances_eq_of_hot (h : SameBelow F m s t) (hs : HotBelow F s m) :
    distances F K t = distances F K s := by
  apply congrArg toLex
  funext k
  by_cases hk : k.val < m
  · exact h.entry_eq hk
  · have hm := not_lt.mp hk
    rw [if_pos (((h.hotBelow_iff le_rfl).mpr hs).mono hm), if_pos (hs.mono hm)]

lemma distances_le_of_le (hk : k ≤ K) (h : distances F K t ≤ distances F K s) : distances F k t ≤ distances F k s := by
  obtain h | h := h.eq_or_lt
  · apply le_of_eq
    apply congrArg toLex
    funext i
    exact congrFun (congrArg ofLex h) ⟨i, i.isLt.trans_le hk⟩
  · obtain ⟨i, he, hl⟩ := h
    by_cases hi : i.val < k
    · exact le_of_lt ⟨⟨i, hi⟩, fun j hj => he ⟨j, j.isLt.trans_le hk⟩ hj, hl⟩
    · apply le_of_eq
      apply congrArg toLex
      funext j
      exact he ⟨j, j.isLt.trans_le hk⟩ (j.isLt.trans_le (not_lt.mp hi))

lemma distances_lt_of_lt (hk : k ≤ K) (h : distances F k t < distances F k s) : distances F K t < distances F K s := by
  obtain ⟨i, he, hl⟩ := h
  exact ⟨⟨i, i.isLt.trans_le hk⟩, fun j hj => he ⟨j, lt_trans hj i.isLt⟩ hj, hl⟩

lemma Lowest.distances_lt (h : Lowest F s e) (he : e ∈ F.onSlots) (hl : distances F K t < distances F K s) :
    distances F (F.rank e + 1) t < distances F (F.rank e + 1) s := by
  obtain ⟨i, heq, hi⟩ := hl
  have hb : ¬ HotBelow F s i := by
    intro hb
    have hz : ofLex (distances F K s) i = 0 := if_pos hb
    exact Nat.not_lt_zero _ (lt_of_lt_of_eq hi hz)
  have hr : i.val < F.rank e + 1 := by
    by_contra hn
    exact hb ⟨e, he, not_lt.mp hn, h.1⟩
  exact ⟨⟨i, hr⟩, fun j hj => heq ⟨j, lt_trans hj i.isLt⟩ hj, hi⟩

lemma HotBelow.exists_lowest (h : HotBelow F s k) : ∃ e ∈ F.onSlots, F.rank e < k ∧ Lowest F s e := by
  induction k using Nat.strong_induction_on with
  | _ k ih =>
    obtain ⟨e, he, hr, hh⟩ := h
    by_cases hb : HotBelow F s (F.rank e)
    · obtain ⟨e', he', hr', hl⟩ := ih _ hr hb
      exact ⟨e', he', hr'.trans hr, hl⟩
    · exact ⟨e, he, hr, hh, hb⟩

/-- The lowest hot features stay. -/
def Keeps (F : FeatureList) (s t : Flips) : Prop := ∀ e ∈ F.onSlots, Lowest F s e → Lowest F t e

lemma SameBelow.keeps (h : SameBelow F m s t) (hb : HotBelow F s (m + 1))
    (hh : ¬ HotBelow F s m → ∀ id ∈ F.onSlots, F.rank id = m → Hot F s id → Hot F t id) : Keeps F s t := by
  intro e he hl
  obtain ⟨id, hid, hr, hid'⟩ := hb
  have hle : F.rank e ≤ m := by
    by_contra hn
    exact hl.2 ⟨id, hid, by omega, hid'⟩
  refine ⟨?_, fun hn => hl.2 ((h.hotBelow_iff hle).mp hn)⟩
  obtain hlt | heq := hle.lt_or_eq
  · exact (h.hot_iff hlt.le (h.state e (mem_ids_of_onSlots he) hlt)).mpr hl.1
  · exact hh (heq ▸ hl.2) e he heq hl.1

/-- A change at a rank and above it, where the distances at the rank do not grow. -/
lemma SameBelow.change (h : SameBelow F m s t) (hK : m < K)
    (hw : ∀ id ∈ F.onSlots, F.rank id = m → distance F t id ≤ distance F s id)
    (hh : ∀ id ∈ F.onSlots, F.rank id = m → Hot F s id → distance F t id = distance F s id → Hot F t id)
    (hc : ∃ id ∈ F.onSlots, F.rank id = m ∧ (distance F t id < distance F s id ∨ Hot F s id)) :
    distances F K t < distances F K s ∨
      distances F K t = distances F K s ∧ Keeps F s t ∧ HotBelow F t (m + 1) := by
  by_cases hb : HotBelow F s m
  · refine .inr ⟨h.distances_eq_of_hot hb, h.keeps (hb.mono (Nat.le_succ m)) fun hn => absurd hb hn, ?_⟩
    exact ((h.hotBelow_iff le_rfl).mpr hb).mono (Nat.le_succ m)
  by_cases hl : ∃ id ∈ F.onSlots, F.rank id = m ∧ distance F t id < distance F s id
  · obtain ⟨id, hid, hr, hl⟩ := hl
    refine .inl ⟨⟨m, hK⟩, fun j hj => h.entry_eq hj, ?_⟩
    change (if HotBelow F t m then 0 else sumAt F (distance F t) m) <
      if HotBelow F s m then 0 else sumAt F (distance F s) m
    rw [if_neg hb, if_neg fun ht => hb ((h.hotBelow_iff le_rfl).mp ht)]
    exact sumAt_lt hw hid hr hl
  · have heq (id : String) (hid : id ∈ F.onSlots) (hr : F.rank id = m) : distance F t id = distance F s id :=
      (hw id hid hr).eq_of_not_lt fun hn => hl ⟨id, hid, hr, hn⟩
    obtain ⟨id, hid, hr, hc⟩ := hc
    have hs : Hot F s id := hc.resolve_left fun hn => hl ⟨id, hid, hr, hn⟩
    have hsb : HotBelow F s (m + 1) := ⟨id, hid, by omega, hs⟩
    have htb : HotBelow F t (m + 1) := ⟨id, hid, by omega, hh id hid hr hs (heq id hid hr)⟩
    refine .inr ⟨?_, h.keeps hsb fun _ x hx hrx hhx => hh x hx hrx hhx (heq x hx hrx), htb⟩
    apply congrArg toLex
    funext k
    obtain hk | hk | hk := lt_trichotomy k.val m
    · exact h.entry_eq hk
    · rw [hk, if_neg hb, if_neg fun ht => hb ((h.hotBelow_iff le_rfl).mp ht)]
      exact sumAt_congr heq
    · rw [if_pos (htb.mono hk), if_pos (hsb.mono hk)]

end Ranks

section Ends

/-- What a part of a cascade does to the two measures. -/
def Falls (F : FeatureList) (K : ℕ) (s t : Flips) : Prop :=
  distances F K t < distances F K s ∨
    distances F K t = distances F K s ∧ chancesLeft F K t ≤ chancesLeft F K s ∧ Keeps F s t

lemma Falls.refl (s : Flips) : Falls F K s s := .inr ⟨rfl, le_rfl, fun _ _ h => h⟩

lemma Falls.distances_le (h : Falls F K s t) : distances F K t ≤ distances F K s := h.elim le_of_lt fun h => h.1.le

lemma Falls.trans (h : Falls F K s t) (h' : Falls F K t u) : Falls F K s u := by
  obtain h | ⟨he, hc, hk⟩ := h
  · exact .inl (h'.distances_le.trans_lt h)
  · obtain h' | ⟨he', hc', hk'⟩ := h'
    · exact .inl (h'.trans_eq he)
    · exact .inr ⟨he'.trans he, hc'.trans hc, fun e hm hl => hk' e hm (hk e hm hl)⟩

/-- The order by which every signal of a cascade is lower than the one before. -/
def Lower (F : FeatureList) (K : ℕ) (s t : Flips) : Prop :=
  distances F K s < distances F K t ∨ distances F K s = distances F K t ∧ chancesLeft F K s < chancesLeft F K t

lemma wellFounded_lower (F : FeatureList) (K : ℕ) : WellFounded (Lower F K) := by
  have hw : WellFounded (Prod.Lex (fun a b : Lex (Fin K → ℕ) => a < b) fun a b : Colex (Fin K → ℕ) => a < b) :=
    WellFounded.prod_lex wellFounded_lt wellFounded_lt
  apply Subrelation.wf _ (InvImage.wf (fun s => (distances F K s, chancesLeft F K s)) hw)
  intro s t h
  exact Prod.lex_def.mpr h

lemma Lower.trans_falls (h : Lower F K u t) (hf : Falls F K s t) : Lower F K u s := by
  obtain hf | ⟨he, hc, -⟩ := hf
  · exact .inl (h.elim (fun h => h.trans hf) fun h => h.1.trans_lt hf)
  · exact h.imp (fun h => h.trans_eq he) fun h => ⟨h.1.trans he, h.2.trans_le hc⟩

lemma chancesLeft_le (h : ∀ id ∈ F.onSlots, chances t id ≤ chances s id) : chancesLeft F K t ≤ chancesLeft F K s :=
  Pi.toColex_monotone fun _ => sumAt_le fun id hid _ => h id hid

lemma chancesLeft_lt (hid : id ∈ F.onSlots) (hK : F.rank id < K) (hl : chances t id < chances s id)
    (h : ∀ x ∈ F.onSlots, F.rank id ≤ F.rank x → x ≠ id → chances t x = chances s x) :
    chancesLeft F K t < chancesLeft F K s := by
  refine ⟨⟨F.rank id, hK⟩, fun k hk => sumAt_congr fun x hx hr => ?_, sumAt_lt (fun x hx hr => ?_) hid rfl hl⟩
  · have hlt : F.rank id < F.rank x := hr ▸ hk
    exact h x hx hlt.le fun he => lt_irrefl _ (he ▸ hlt)
  · by_cases he : x = id
    · exact he ▸ hl.le
    · exact (h x hx hr.ge he).le

end Ends

section Changes

lemma sameBelow_setState (s : Flips) (id : String) (state : FlipState) :
    SameBelow F (F.rank id) s (s.setState id state) where
  on _ _ _ := Iff.rfl
  off := rfl
  state _ _ hr := state_setState_of_ne (fun he => lt_irrefl _ (he ▸ hr)) s state

lemma chances_congr (hon : id ∈ t.on ↔ id ∈ s.on) (hs : t.state id = s.state id) : chances t id = chances s id := by
  simp only [chances, hon, hs]

lemma falls_setState {state : FlipState} (hid : id ∈ F.onSlots) (hK : F.rank id < K)
    (hd : distance F (s.setState id state) id < distance F s id)
    (hc : chances (s.setState id state) id ≤ chances s id) : Falls F K s (s.setState id state) := by
  have hb : SameBelow F (F.rank id) s (s.setState id state) := sameBelow_setState s id state
  have hs (x : String) (hx : x ≠ id) : (s.setState id state).state x = s.state x := state_setState_of_ne hx s state
  have h := hb.change hK
    (fun x _ hr => by
      by_cases hx : x = id
      · exact hx ▸ hd.le
      · exact (hb.distance_eq hr.le Iff.rfl (hs x hx)).le)
    (fun x _ hr hh he => (hb.hot_iff hr.le (hs x fun hx => hd.ne (hx ▸ he))).mpr hh) ⟨id, hid, rfl, .inl hd⟩
  refine h.imp_right fun h => ⟨h.1, chancesLeft_le fun x _ => ?_, h.2.1⟩
  by_cases hx : x = id
  · exact hx ▸ hc
  · rw [chances, chances, hs x hx, on_setState]

lemma falls_sync (hid : id ∈ F.onSlots) (hK : F.rank id < K) (hon : id ∉ s.on) (hne : s.listState id ≠ s.state id) :
    Falls F K s (s.setState id (s.listState id)) := by
  have hl := listState_of_notMem_on hon
  apply falls_setState hid hK
  · have ht : ¬ Hot F (s.setState id (s.listState id)) id := fun h => hl ((state_setState_self ..).symm.trans h.1)
    have he : (s.setState id (s.listState id)).listState id = s.listState id := rfl
    rw [distance, distance, if_neg ht, on_setState, if_pos hon, if_pos hon, state_setState_self, he, if_pos rfl,
      if_neg (Ne.symm hne)]
    split_ifs <;> omega
  · rw [chances, chances, on_setState, if_pos hon, if_pos hon]

lemma falls_abort (hid : id ∈ F.onSlots) (hK : F.rank id < K) (hon : id ∈ s.on) (hst : s.state id ≠ .FlippedOn)
    (hm : Misses F s id) : Falls F K s (s.setState id .DefaultValue) := by
  by_cases hd : s.state id = .DefaultValue
  · have he : s.setState id .DefaultValue = s := by
      rw [setState, ← hd, Function.update_eq_self]
    rw [he]
    exact Falls.refl s
  apply falls_setState hid hK
  · have ht : ¬ Hot F (s.setState id .DefaultValue) id := fun h => by
      rw [Hot, state_setState_self] at h
      cases h.1
    have hs : ¬ Hot F s id := fun h => hst h.1
    have hmt : Misses F (s.setState id .DefaultValue) id := ((sameBelow_setState s id _).misses_iff le_rfl).mpr hm
    rw [distance, distance, if_neg ht, if_neg hs, on_setState, if_neg (not_not.mpr hon), if_neg (not_not.mpr hon),
      if_pos hmt, if_pos hm, state_setState_self, if_pos rfl, if_neg hd]
    exact Nat.zero_lt_one
  · rw [chances, chances, on_setState, if_neg (not_not.mpr hon), if_neg (not_not.mpr hon), state_setState_self,
      if_neg hst]
    split_ifs <;> omega

lemma falls_flip (hid : id ∈ F.onSlots) (hK : F.rank id < K) (hon : id ∈ s.on) (hst : s.state id ≠ .FlippedOn)
    (hm : ¬ Misses F s id) : Falls F K s (s.setState id .FlippedOn) := by
  apply falls_setState hid hK
  · have hmt : ¬ Misses F (s.setState id .FlippedOn) id :=
      fun h => hm (((sameBelow_setState s id _).misses_iff le_rfl).mp h)
    have ht : ¬ Hot F (s.setState id .FlippedOn) id := fun h => hmt h.2
    have hs : ¬ Hot F s id := fun h => hm h.2
    rw [distance, distance, if_neg ht, if_neg hs, on_setState, if_neg (not_not.mpr hon), if_neg (not_not.mpr hon),
      if_neg hmt, if_neg hm, state_setState_self, if_pos rfl, if_neg hst]
    exact Nat.zero_lt_one
  · rw [chances, chances, on_setState, if_neg (not_not.mpr hon), if_neg (not_not.mpr hon), state_setState_self,
      if_pos rfl, if_neg hst]
    exact Nat.le_succ 1

lemma distance_of_hot (h : Hot F s id) : distance F s id = 4 := if_pos h

/-- A hot feature is dropped, and stays hot until its slot is called again. -/
lemma drop_change (hid : id ∈ F.onSlots) (hK : F.rank id < K) (hh : Hot F s id) :
    distances F K (s.withOn (s.on.filter (· ≠ id))) < distances F K s ∨
      distances F K (s.withOn (s.on.filter (· ≠ id))) = distances F K s ∧
        Keeps F s (s.withOn (s.on.filter (· ≠ id))) ∧
        HotBelow F (s.withOn (s.on.filter (· ≠ id))) (F.rank id + 1) := by
  have hm (x : String) (hx : x ≠ id) : x ∈ s.on.filter (· ≠ id) ↔ x ∈ s.on := by simp [hx]
  have hb : SameBelow F (F.rank id) s (s.withOn (s.on.filter (· ≠ id))) :=
    ⟨fun x _ hr => hm x fun he => lt_irrefl _ (he ▸ hr), rfl, fun _ _ _ => rfl⟩
  have hhot (x : String) (hr : F.rank x = F.rank id) (hx : Hot F s x) : Hot F (s.withOn (s.on.filter (· ≠ id))) x :=
    (hb.hot_iff hr.le rfl).mpr hx
  apply hb.change hK
  · intro x _ hr
    by_cases hx : x = id
    · subst hx
      rw [distance_of_hot hh, distance_of_hot (hhot x rfl hh)]
    · exact (hb.distance_eq hr.le (hm x hx) rfl).le
  · exact fun x _ hr hx _ => hhot x hr hx
  · exact ⟨id, hid, rfl, .inr hh⟩

lemma drop_lower (hid : id ∈ F.onSlots) (hK : F.rank id < K) (hon : id ∈ s.on) (hh : Hot F s id) :
    Lower F K (s.withOn (s.on.filter (· ≠ id))) s := by
  refine (drop_change hid hK hh).imp_right fun h => ⟨h.1, chancesLeft_lt hid hK ?_ fun x _ _ hx => ?_⟩
  · rw [chances, chances, if_pos (by simp), if_neg (not_not.mpr hon), if_pos hh.1]
    exact Nat.zero_lt_one
  · exact chances_congr (by simp [hx]) rfl

lemma distance_add_lt (hs : id ∉ s.on) (ht : id ∈ t.on) (hh : ¬ Hot F t id) (hh' : ¬ Hot F s id) :
    distance F t id < distance F s id := by
  rw [distance, distance, if_neg hh, if_neg hh', if_pos hs, if_neg (not_not.mpr ht)]
  split_ifs <;> omega

section Add

variable {ids : List String}

lemma sameBelow_add (hmin : ∀ x ∈ ids, F.rank d ≤ F.rank x) (hlt : F.rank d < F.rank id) :
    SameBelow F (F.rank d) s ((s.setState id .FlippedOn).withOn (appendMissing s.on ids)) where
  on x _ hr := by
    rw [on_withOn, mem_appendMissing]
    exact or_iff_left fun hx => absurd (hmin x hx) (not_le.mpr hr)
  off := rfl
  state x _ hr := state_setState_of_ne (fun he : x = id => lt_asymm hlt (he ▸ hr)) s _

/-- A feature is flipped on and its dependencies are put on the list, the lowest of which counts. -/
lemma add_change (hids : ∀ x ∈ ids, x ∈ F.onSlots ∧ x ∉ s.on ∧ F.rank x < F.rank id) (hd : d ∈ ids)
    (hmin : ∀ x ∈ ids, F.rank d ≤ F.rank x) (hK : F.rank d < K) :
    distances F K ((s.setState id .FlippedOn).withOn (appendMissing s.on ids)) < distances F K s ∨
      distances F K ((s.setState id .FlippedOn).withOn (appendMissing s.on ids)) = distances F K s ∧
        Keeps F s ((s.setState id .FlippedOn).withOn (appendMissing s.on ids)) ∧
        HotBelow F ((s.setState id .FlippedOn).withOn (appendMissing s.on ids)) (F.rank d + 1) := by
  have hlt := (hids d hd).2.2
  have hb := sameBelow_add (s := s) hmin hlt
  have hst (x : String) (hr : F.rank x = F.rank d) :
      ((s.setState id .FlippedOn).withOn (appendMissing s.on ids)).state x = s.state x :=
    state_setState_of_ne (fun he => hlt.ne (he ▸ hr).symm) s _
  have hhot (x : String) (hr : F.rank x = F.rank d) := hb.hot_iff hr.le (hst x hr)
  have hlow (x : String) (hx : x ∈ ids) (hr : F.rank x = F.rank d) (hh : ¬ Hot F s x) :
      distance F ((s.setState id .FlippedOn).withOn (appendMissing s.on ids)) x < distance F s x :=
    distance_add_lt (hids x hx).2.1 (mem_appendMissing.mpr (.inr hx)) (fun h => hh ((hhot x hr).mp h)) hh
  apply hb.change hK
  · intro x _ hr
    by_cases hx : x ∈ ids
    · by_cases hh : Hot F s x
      · rw [distance_of_hot hh, distance_of_hot ((hhot x hr).mpr hh)]
      · exact (hlow x hx hr hh).le
    · apply le_of_eq
      apply hb.distance_eq hr.le _ (hst x hr)
      rw [on_withOn, mem_appendMissing]
      exact or_iff_left hx
  · exact fun x _ hr hh _ => (hhot x hr).mpr hh
  · refine ⟨d, (hids d hd).1, rfl, ?_⟩
    by_cases hh : Hot F s d
    · exact .inr hh
    · exact .inl (hlow d hd rfl hh)

lemma add_chances (hid : id ∈ F.onSlots) (hK : F.rank id < K) (hon : id ∈ s.on) (hst : s.state id ≠ .FlippedOn)
    (hids : ∀ x ∈ ids, F.rank x < F.rank id) :
    chancesLeft F K ((s.setState id .FlippedOn).withOn (appendMissing s.on ids)) < chancesLeft F K s := by
  apply chancesLeft_lt hid hK
  · rw [chances, chances, on_withOn, if_neg (not_not.mpr (mem_appendMissing.mpr (.inl hon))), if_neg (not_not.mpr hon),
      if_neg hst, state_withOn, state_setState_self, if_pos rfl]
    exact Nat.one_lt_two
  · intro x _ hr hx
    apply chances_congr
    · rw [on_withOn, mem_appendMissing]
      exact or_iff_left fun hx => absurd (hids x hx) (not_lt.mpr hr)
    · exact state_setState_of_ne hx s _

end Add

end Changes

section Ends

/-- A signal reaches all the slots, and the lowest hot features are no more. -/
def Ends (F : FeatureList) (K : ℕ) (s : Flips) : Prop :=
  ∃ n t, emitChanged (F.slot n) F.onSlots s = some t ∧ Falls F K s t ∧
    ∀ e ∈ F.onSlots, Lowest F s e → distances F K t < distances F K s

/-- A slot ends, and a lowest hot feature is no more after its own slot. -/
def SlotEnds (F : FeatureList) (K : ℕ) (id : String) (s : Flips) : Prop :=
  ∃ n t, F.slot n id s = some t ∧ Falls F K s t ∧ (Lowest F s id → distances F K t < distances F K s)

lemma Ends.of_hot (h : Ends F K s) (hb : HotBelow F s m) :
    ∃ n t, emitChanged (F.slot n) F.onSlots s = some t ∧ distances F K t < distances F K s := by
  obtain ⟨n, t, ht, -, hl⟩ := h
  obtain ⟨e, he, -, hle⟩ := hb.exists_lowest
  exact ⟨n, t, ht, hl e he hle⟩

lemma slot_same (he : s.listState id = s.state id) (hn : ¬ (s.listState id = .FlippedOn ∧ Misses F s id)) :
    F.slot (n + 1) id s = some s := (if_pos he).trans (if_neg hn)

lemma slot_sync (he : s.listState id ≠ s.state id) (hl : s.listState id ≠ .FlippedOn) :
    F.slot (n + 1) id s = some (s.setState id (s.listState id)) := (if_neg he).trans (if_pos hl)

lemma slot_drop (hon : id ∈ s.on) (hh : Hot F s id) :
    F.slot (n + 1) id s = emitChanged (F.slot n) F.onSlots (s.withOn (s.on.filter (· ≠ id))) := by
  have hl : s.listState id = .FlippedOn := if_pos hon
  rw [slot_succ, maybeFlipOnOrOff, hl, hh.1, if_pos rfl, if_pos ⟨rfl, hh.2⟩, setFeaturesFlippedOn, if_neg]
  apply featuresFlippedOn_ne
  intro he
  rw [he] at hon
  simp at hon

lemma slotEnds_drop (hid : id ∈ F.onSlots) (hK : F.rank id < K) (hon : id ∈ s.on) (hh : Hot F s id)
    (ih : ∀ t, Lower F K t s → Ends F K t) : SlotEnds F K id s := by
  have he := ih _ (drop_lower hid hK hon hh)
  obtain hlt | ⟨heq, -, hb⟩ := drop_change hid hK hh
  · obtain ⟨n, t, ht, hf, -⟩ := he
    have hl := hf.distances_le.trans_lt hlt
    exact ⟨n + 1, t, (slot_drop hon hh).trans ht, .inl hl, fun _ => hl⟩
  · obtain ⟨n, t, ht, hl⟩ := he.of_hot hb
    have hl := hl.trans_eq heq
    exact ⟨n + 1, t, (slot_drop hon hh).trans ht, .inl hl, fun _ => hl⟩

lemma slotEnds_sync (hid : id ∈ F.onSlots) (hK : F.rank id < K) (hon : id ∉ s.on) : SlotEnds F K id s := by
  have hl := listState_of_notMem_on hon
  by_cases he : s.listState id = s.state id
  · exact ⟨1, s, slot_same he fun h => hl h.1, Falls.refl s, fun h => absurd (he.trans h.1.1) hl⟩
  · have hf := falls_sync hid hK hon he
    refine ⟨1, s.setState id (s.listState id), slot_sync he hl, hf, fun h => hf.resolve_right fun hr => ?_⟩
    exact hl ((state_setState_self ..).symm.trans (hr.2.2 id hid h).1.1)

lemma misses_setState : Misses F (s.setState id .FlippedOn) id ↔ Misses F s id :=
  (sameBelow_setState s id _).misses_iff le_rfl

lemma isSupported_setState (hd : d ∈ F.dependencies id) (state : FlipState) :
    F.isSupported c (s.setState id state) d = F.isSupported c s d :=
  (sameBelow_setState s id state).isSupported (F.mem_of_dependency id d hd) (F.rank_lt id d hd)

/-- The dependencies that a feature needs to be flipped on too. -/
def missing (F : FeatureList) (s : Flips) (id : String) : List String :=
  (F.dependencies id).filter fun d => F.isSupported true (s.setState id .FlippedOn) d = false

lemma mem_missing : d ∈ missing F s id ↔ d ∈ F.dependencies id ∧ F.isSupported true s d = false := by
  rw [missing, List.mem_filter, decide_eq_true_iff]
  exact and_congr_right fun hd => by rw [isSupported_setState hd]

/-- The slot of a feature that is on the list and not yet flipped on. -/
lemma slot_flip (hon : id ∈ s.on) (hst : s.state id ≠ .FlippedOn) {ids : List String} (hids : missing F s id = ids) :
    F.slot (n + 1) id s =
      if ∃ d ∈ ids, F.flippableOn d = false then some (s.setState id .DefaultValue)
      else if ids = [] then some (s.setState id .FlippedOn)
      else (F.setFeaturesFlippedOn n (appendMissing s.on ids) (s.setState id .FlippedOn)).map fun t =>
        if ∃ d ∈ ids, F.isSupported false t d = false then t.setState id .DefaultValue else t := by
  have hl : s.listState id = .FlippedOn := if_pos hon
  have hd : (s.setState id .FlippedOn).setState id .DefaultValue = s.setState id .DefaultValue := by
    rw [setState, setState, setState, Function.update_idem]
  rw [slot_succ, maybeFlipOnOrOff, hl, if_neg (Ne.symm hst), if_neg (not_not.mpr rfl)]
  dsimp only
  rw [← hids, hd]
  rfl

lemma isSupported_ne_false (hf : F.flippableOn id = true) (hon : id ∈ s.on) : F.isSupported true s id ≠ false := by
  rw [isSupported_iff.mpr (.inl (isFlippedOn_true.mpr ⟨hf, hon⟩))]
  exact nofun

lemma setFeaturesFlippedOn_add {ids : List String} (hd : d ∈ ids) (hn : d ∉ s.on) :
    F.setFeaturesFlippedOn n (appendMissing s.on ids) (s.setState id .FlippedOn) =
      emitChanged (F.slot n) F.onSlots ((s.setState id .FlippedOn).withOn (appendMissing s.on ids)) := by
  rw [setFeaturesFlippedOn, if_neg]
  apply featuresFlippedOn_ne
  intro he
  exact hn (he ▸ mem_appendMissing.mpr (.inr hd) : d ∈ (s.setState id .FlippedOn).on)

/-- If a feature is flipped on in vain, something below it has come nearer to its end. -/
lemma distances_flip_lt {ids : List String} (hK : F.rank id ≤ K)
    (hids : ∀ x ∈ ids, x ∈ F.onSlots ∧ x ∉ s.on ∧ F.rank x < F.rank id) (hd : d ∈ ids)
    (hmin : ∀ x ∈ ids, F.rank d ≤ F.rank x)
    (hf : Falls F K ((s.setState id .FlippedOn).withOn (appendMissing s.on ids)) t)
    (hl : ∀ e ∈ F.onSlots, Lowest F ((s.setState id .FlippedOn).withOn (appendMissing s.on ids)) e →
      distances F K t < distances F K ((s.setState id .FlippedOn).withOn (appendMissing s.on ids)))
    (state : FlipState) :
    distances F K (t.setState id state) < distances F K s := by
  have hlt := (hids d hd).2.2
  apply distances_lt_of_lt hK
  rw [(sameBelow_setState t id state).distances_eq]
  obtain h | ⟨heq, -, hb⟩ := add_change hids hd hmin hlt
  · exact (distances_le_of_le hK hf.distances_le).trans_lt h
  · obtain ⟨e, he, hr, hle⟩ := hb.exists_lowest
    have hk : F.rank e + 1 ≤ F.rank id := hr.trans_le hlt
    exact (distances_lt_of_lt hk (hle.distances_lt he (hl e he hle))).trans_eq heq

lemma slotEnds_flip (hid : id ∈ F.onSlots) (hK : F.rank id < K) (hon : id ∈ s.on) (hst : s.state id ≠ .FlippedOn)
    (ih : ∀ t, Lower F K t s → Ends F K t) : SlotEnds F K id s := by
  have hn : ¬ Lowest F s id := fun h => hst h.1.1
  obtain ⟨ids, hids⟩ : ∃ ids, missing F s id = ids := ⟨_, rfl⟩
  have hslot (n : ℕ) := slot_flip (n := n) hon hst hids
  have hmem (d : String) : d ∈ ids ↔ d ∈ F.dependencies id ∧ F.isSupported true s d = false := hids ▸ mem_missing
  by_cases hf : ∃ d ∈ ids, F.flippableOn d = false
  · have ⟨d, hd, _⟩ := hf
    refine ⟨1, _, (hslot 0).trans (if_pos hf), ?_, fun h => absurd h hn⟩
    exact falls_abort hid hK hon hst ⟨d, (hmem d).mp hd⟩
  by_cases he : ids = []
  · refine ⟨1, _, (hslot 0).trans ((if_neg hf).trans (if_pos he)), ?_, fun h => absurd h hn⟩
    apply falls_flip hid hK hon hst
    rintro ⟨d, hd⟩
    simpa [he] using (hmem d).mpr hd
  have hadd : ∀ x ∈ ids, x ∈ F.onSlots ∧ x ∉ s.on ∧ F.rank x < F.rank id := by
    intro x hx
    obtain ⟨hd, hs⟩ := (hmem x).mp hx
    have hfx : F.flippableOn x = true := by
      by_contra h
      exact hf ⟨x, hx, Bool.eq_false_of_not_eq_true h⟩
    refine ⟨List.mem_filter.mpr ⟨F.mem_of_dependency id x hd, hfx⟩, fun hxon => ?_, F.rank_lt id x hd⟩
    exact isSupported_ne_false hfx hxon hs
  obtain ⟨d, hd, hmin⟩ := Set.exists_min_image {x | x ∈ ids} F.rank (List.finite_toSet ids)
    (List.exists_mem_of_ne_nil ids he)
  have hdK : F.rank d < K := (hadd d hd).2.2.trans hK
  have hchances := add_chances hid hK hon hst fun x hx => (hadd x hx).2.2
  have hchange := add_change hadd hd hmin hdK
  obtain ⟨n, t, ht, hft, hl⟩ := ih _ (hchange.imp_right fun h => ⟨h.1, hchances⟩)
  have hset := (setFeaturesFlippedOn_add hd (hadd d hd).2.1).trans ht
  have hres := (hslot n).trans ((if_neg hf).trans (if_neg he))
  rw [hset, Option.map_some] at hres
  by_cases hp : ∃ d ∈ ids, F.isSupported false t d = false
  · rw [if_pos hp] at hres
    exact ⟨n + 1, _, hres, .inl (distances_flip_lt hK.le hadd hd hmin hft hl _), fun h => absurd h hn⟩
  · rw [if_neg hp] at hres
    refine ⟨n + 1, _, hres, ?_, fun h => absurd h hn⟩
    obtain h | ⟨heq, hk, -⟩ := hchange
    · exact .inl (hft.distances_le.trans_lt h)
    · exact Falls.trans (.inr ⟨heq, hchances.le, hk⟩) hft

lemma slotEnds (hid : id ∈ F.onSlots) (hK : F.rank id < K) (ih : ∀ t, Lower F K t s → Ends F K t) :
    SlotEnds F K id s := by
  by_cases hon : id ∈ s.on
  · by_cases hst : s.state id = .FlippedOn
    · by_cases hm : Misses F s id
      · exact slotEnds_drop hid hK hon ⟨hst, hm⟩ ih
      · have hl : s.listState id = .FlippedOn := if_pos hon
        exact ⟨1, s, slot_same (hl.trans hst.symm) fun h => hm h.2, Falls.refl s, fun h => absurd h.1.2 hm⟩
    · exact slotEnds_flip hid hK hon hst ih
  · exact slotEnds_sync hid hK hon

lemma emitChanged_ends {ids : List String} (hids : ∀ id ∈ ids, id ∈ F.onSlots) (hK : ∀ id ∈ F.onSlots, F.rank id < K)
    (ih : ∀ t, Lower F K t s → Ends F K t) (hs : Falls F K s u) :
    ∃ n t, emitChanged (F.slot n) ids u = some t ∧ Falls F K u t ∧
      ∀ e ∈ ids, Lowest F u e → distances F K t < distances F K u := by
  induction ids generalizing u with
  | nil => exact ⟨0, u, rfl, Falls.refl u, nofun⟩
  | cons id ids IH =>
    have hid := hids id List.mem_cons_self
    obtain ⟨n, v, hv, hf, hl⟩ := slotEnds hid (hK id hid) fun t ht => ih t (ht.trans_falls hs)
    obtain ⟨m, t, ht, hft, hlt⟩ := IH (fun x hx => hids x (List.mem_cons_of_mem id hx)) (hs.trans hf)
    refine ⟨max n m, t, ?_, hf.trans hft, ?_⟩
    · rw [emitChanged, slot_mono (le_max_left n m) hv, Option.bind_some]
      exact emitChanged_mono (fun _ _ _ h => slot_mono (le_max_right n m) h) ht
    · intro e he hle
      cases he with
      | head => exact hft.distances_le.trans_lt (hl hle)
      | tail _ he =>
        obtain hf | ⟨heq, -, hk⟩ := hf
        · exact hft.distances_le.trans_lt hf
        · exact (hlt e he (hk e (hids e (List.mem_cons_of_mem id he)) hle)).trans_eq heq

lemma ends (hK : ∀ id ∈ F.onSlots, F.rank id < K) (s : Flips) : Ends F K s := by
  induction s using (wellFounded_lower F K).induction with
  | _ s ih => exact emitChanged_ends (fun _ h => h) hK ih (Falls.refl s)

lemma exists_rank_lt (F : FeatureList) : ∃ K, ∀ id ∈ F.onSlots, F.rank id < K := by
  induction F.onSlots with
  | nil => exact ⟨0, nofun⟩
  | cons id ids ih =>
    obtain ⟨K, hK⟩ := ih
    refine ⟨max K (F.rank id + 1), fun x hx => ?_⟩
    cases hx with
    | head => exact lt_max_of_lt_right (Nat.lt_succ_self _)
    | tail _ hx => exact lt_max_of_lt_left (hK x hx)

/-- Every change of the list of the features that are flipped on comes to its end. -/
lemma exists_setFeaturesFlippedOn (F : FeatureList) (flips : List String) (s : Flips) :
    ∃ n t, F.setFeaturesFlippedOn n flips s = some t := by
  by_cases he : s.featuresFlippedOn = some flips
  · exact ⟨0, s, if_pos he⟩
  · obtain ⟨K, hK⟩ := exists_rank_lt F
    obtain ⟨n, t, ht, -⟩ := ends hK (s.withOn flips)
    exact ⟨n, t, (if_neg he).trans ht⟩

lemma exists_slot (F : FeatureList) (id : String) (s : Flips) : ∃ n t, F.slot n id s = some t := by
  obtain ⟨n, t, ht⟩ := exists_setFeaturesFlippedOn F (s.on.filter (· ≠ id)) s
  obtain ⟨m, u, hu⟩ := exists_setFeaturesFlippedOn F (appendMissing (s.setState id .FlippedOn).on
    ((F.dependencies id).filter fun d => F.isSupported true (s.setState id .FlippedOn) d = false))
    (s.setState id .FlippedOn)
  refine ⟨max n m + 1, ?_⟩
  rw [slot_succ, maybeFlipOnOrOff, setFeaturesFlippedOn_mono (le_max_left n m) ht]
  dsimp only
  rw [setFeaturesFlippedOn_mono (le_max_right n m) hu]
  split_ifs <;> exact ⟨_, rfl⟩

lemma exists_emitChanged (F : FeatureList) (ids : List String) (s : Flips) :
    ∃ n t, emitChanged (F.slot n) ids s = some t := by
  induction ids generalizing s with
  | nil => exact ⟨0, s, rfl⟩
  | cons id ids ih =>
    obtain ⟨n, u, hu⟩ := exists_slot F id s
    obtain ⟨m, t, ht⟩ := ih u
    refine ⟨max n m, t, ?_⟩
    rw [emitChanged, slot_mono (le_max_left n m) hu, Option.bind_some]
    exact emitChanged_mono (fun _ _ _ h => slot_mono (le_max_right n m) h) ht

lemma exists_setFeaturesFlippedOff (F : FeatureList) (flips : List String) (s : Flips) :
    ∃ n t, F.setFeaturesFlippedOff n flips s = some t := by
  by_cases he : s.featuresFlippedOff = some flips
  · exact ⟨0, s, if_pos he⟩
  · obtain ⟨n, t, ht⟩ := exists_emitChanged F F.offSlots (s.withOff flips)
    exact ⟨n, t, (if_neg he).trans ht⟩

end Ends

end VpnClient.Features.FeatureList
