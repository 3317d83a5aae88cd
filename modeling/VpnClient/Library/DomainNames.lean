import Mathlib.Tactic

/-! Names of domains, compared label by label: regardless of case, and with a star in place of the first label. -/

namespace VpnClient.Library.DomainNames

def fold (name : List Char) : List Char := name.map Char.toLower

def labels (name : List Char) : List (List Char) := name.splitOn '.'

def IsLabel (label : List Char) : Prop := label ≠ [] ∧ '.' ∉ label

def SameLabel (p l : List Char) : Prop := '*' ∉ p ∧ fold p = fold l

def FirstLabel (p l : List Char) : Prop := p = ['*'] ∧ l ≠ [] ∨ SameLabel p l

/-- The pattern names the host. -/
def Names (pattern host : List Char) : Prop :=
  FirstLabel ((labels pattern).headD []) ((labels host).headD []) ∧
    List.Forall₂ SameLabel (labels pattern).tail (labels host).tail

instance (label : List Char) : Decidable (IsLabel label) := inferInstanceAs (Decidable (_ ∧ _))

instance : DecidableRel SameLabel := fun _ _ => inferInstanceAs (Decidable (_ ∧ _))

instance (p l : List Char) : Decidable (FirstLabel p l) := inferInstanceAs (Decidable (_ ∨ _))

instance (pattern host : List Char) : Decidable (Names pattern host) := inferInstanceAs (Decidable (_ ∧ _))

variable {a c : Char} {name host pattern label rest suffix : List Char} {ps ls : List (List Char)}

lemma toLower_eq_dot : c.toLower = '.' ↔ c = '.' := by
  delta Char.toLower
  split_ifs with hu
  · have ha : 65 ≤ c.val.toNat := UInt32.le_iff_toNat_le.mp hu.1
    have hz : c.val.toNat ≤ 90 := UInt32.le_iff_toNat_le.mp hu.2
    constructor
    · intro h
      have hv : (c.val + 32).toNat = 46 := congrArg (fun d : Char => d.val.toNat) h
      have h₃₂ : (32 : UInt32).toNat = 32 := rfl
      rw [UInt32.toNat_add, h₃₂] at hv
      omega
    · rintro rfl
      simp at ha
  · rfl

lemma labels_fold (name : List Char) : labels (fold name) = (labels name).map fold := by
  induction name with
  | nil => rfl
  | cons c name ih =>
    obtain ⟨label, rest, hl⟩ := List.exists_cons_of_ne_nil (List.splitOn_ne_nil '.' name)
    rw [labels, labels, hl] at ih
    rw [labels, labels, List.splitOn_cons_eq_if_modifyHead, hl, fold, List.map_cons,
      List.splitOn_cons_eq_if_modifyHead, ← fold, ih]
    by_cases hc : c = '.'
    · simp [hc, fold]
    · simp [hc, toLower_eq_dot, fold]

lemma labels_inj : labels name = labels host ↔ name = host := by
  constructor
  · intro h
    have hn : ['.'].intercalate (labels name) = name := List.intercalate_splitOn '.'
    have hh : ['.'].intercalate (labels host) = host := List.intercalate_splitOn '.'
    rw [← hn, ← hh, h]
  · rintro rfl
    rfl

lemma not_mem_labels (ha : a ≠ '.') (name : List Char) : (∀ label ∈ labels name, a ∉ label) ↔ a ∉ name := by
  induction name with
  | nil => simp [labels]
  | cons c name ih =>
    obtain ⟨label, rest, hl⟩ := List.exists_cons_of_ne_nil (List.splitOn_ne_nil '.' name)
    rw [labels, hl] at ih
    rw [labels, List.splitOn_cons_eq_if_modifyHead, hl, List.mem_cons, not_or, ← ih]
    by_cases hc : c = '.'
    · simp [hc, ha]
    · simp [hc]
      tauto

lemma labels_append_dot (h : '.' ∉ label) : labels (label ++ '.' :: rest) = label :: labels rest :=
  List.splitOn_append_cons_self_of_not_mem h rest

lemma forall₂_sameLabel : List.Forall₂ SameLabel ps ls ↔ (∀ p ∈ ps, '*' ∉ p) ∧ ps.map fold = ls.map fold := by
  induction ps generalizing ls with
  | nil => simp [eq_comm]
  | cons p ps ih =>
    cases ls with
    | nil => simp
    | cons l ls =>
      rw [List.forall₂_cons, ih, SameLabel]
      simp
      tauto

variable (name host) in
lemma forall₂_labels : List.Forall₂ SameLabel (labels name) (labels host) ↔ '*' ∉ name ∧ fold name = fold host := by
  rw [forall₂_sameLabel, not_mem_labels (by decide), ← labels_fold, ← labels_fold, labels_inj]

lemma names_of_no_star (h : '*' ∉ pattern) : Names pattern host ↔ fold pattern = fold host := by
  obtain ⟨p, ps, hp⟩ := List.exists_cons_of_ne_nil (List.splitOn_ne_nil '.' pattern)
  obtain ⟨l, ls, hl⟩ := List.exists_cons_of_ne_nil (List.splitOn_ne_nil '.' host)
  have hs : '*' ∉ p := (not_mem_labels (by decide) pattern).mpr h p (by rw [labels, hp]; exact List.mem_cons_self ..)
  have hf : FirstLabel p l ↔ SameLabel p l := by
    apply or_iff_right
    rintro ⟨rfl, -⟩
    simp at hs
  have hn := forall₂_labels pattern host
  rw [labels, labels, hp, hl, List.forall₂_cons, and_iff_right h] at hn
  rw [Names, labels, labels, hp, hl, ← hn]
  exact and_congr_left fun _ => hf

lemma names_star : Names ('*' :: '.' :: suffix) host ↔ '*' ∉ suffix ∧
    ∃ label rest, host = label ++ '.' :: rest ∧ IsLabel label ∧ fold suffix = fold rest := by
  have hp : labels ('*' :: '.' :: suffix) = ['*'] :: labels suffix :=
    labels_append_dot (by decide : '.' ∉ ['*'])
  rw [Names, hp]
  by_cases hd : '.' ∈ host
  · obtain ⟨l, ls, rfl, hl⟩ := List.eq_append_cons_of_mem hd
    rw [labels_append_dot hl]
    dsimp only [List.headD_cons, List.tail_cons]
    rw [forall₂_labels]
    have hf : FirstLabel ['*'] l ↔ l ≠ [] := by simp [FirstLabel, SameLabel]
    rw [hf]
    constructor
    · rintro ⟨hn, hs, he⟩
      exact ⟨hs, l, ls, rfl, ⟨hn, hl⟩, he⟩
    · rintro ⟨hs, label, rest, he, hlabel, hrest⟩
      have hll := congrArg labels he
      rw [labels_append_dot hl, labels_append_dot hlabel.2] at hll
      obtain ⟨rfl, hls⟩ := List.cons.inj hll
      rw [labels_inj.mp hls]
      exact ⟨hlabel.1, hs, hrest⟩
  · have hl : labels host = [host] := List.splitOn_eq_singleton hd
    rw [hl]
    apply iff_of_false
    · rintro ⟨-, hf⟩
      exact List.splitOn_ne_nil '.' suffix (List.forall₂_nil_right_iff.mp hf)
    · rintro ⟨-, label, rest, rfl, -, -⟩
      simp at hd

end VpnClient.Library.DomainNames
