import VpnClient.Library.DomainNames
import Mathlib.Data.List.TakeWhile
import Mathlib.Data.Prod.Lex
import Mathlib.Order.WithBot

/-! The comparison of versions, and how their last part is stripped. -/

namespace VpnClient.Update.VersionUtils

section Comparisons

variable {α β : Type} [LinearOrder β] {x y z : β}

/-- What is asked of a function that compares by the sign of a number. -/
structure IsComparison (compare : α → α → ℤ) : Prop where
  negated : ∀ a b, compare a b = -compare b a
  total : ∀ a b, compare a b ≤ 0 ∨ compare b a ≤ 0
  trans : ∀ a b c, compare a b ≤ 0 → compare b c ≤ 0 → compare a c ≤ 0
  congr : ∀ a b c, compare a b = 0 → compare a c = compare b c

def compareKeys (x y : β) : ℤ := if x < y then -1 else if y < x then 1 else 0

lemma compareKeys_nonpos : compareKeys x y ≤ 0 ↔ x ≤ y := by
  rcases lt_trichotomy x y with h | rfl | h
  · simp [compareKeys, h, h.le]
  · simp [compareKeys]
  · simp [compareKeys, h, h.not_gt, h.not_ge]

lemma compareKeys_eq_zero : compareKeys x y = 0 ↔ x = y := by
  rcases lt_trichotomy x y with h | rfl | h
  · simp [compareKeys, h, h.ne]
  · simp [compareKeys]
  · simp [compareKeys, h, h.not_gt, h.ne']

lemma compareKeys_neg (x y : β) : compareKeys x y = -compareKeys y x := by
  rcases lt_trichotomy x y with h | rfl | h
  · simp [compareKeys, h, h.not_gt]
  · simp [compareKeys]
  · simp [compareKeys, h, h.not_gt]

lemma isComparison_of_key {compare : α → α → ℤ} (key : α → β) (h : ∀ a b, compare a b = compareKeys (key a) (key b)) :
    IsComparison compare := by
  constructor
  case negated =>
    intro a b
    rw [h, h, compareKeys_neg]
  case total =>
    intro a b
    rw [h, h, compareKeys_nonpos, compareKeys_nonpos]
    exact le_total _ _
  case trans =>
    intro a b c hab hbc
    rw [h, compareKeys_nonpos] at hab hbc ⊢
    exact hab.trans hbc
  case congr =>
    intro a b c hab
    rw [h, compareKeys_eq_zero] at hab
    rw [h, h, hab]

end Comparisons

/-- The characters of the expression `[^0-9a-z.]`. -/
def foreign (c : Char) : Bool := !(c.isDigit || c.isLower || c == '.')

/-- The parts up to the first foreign character. -/
def parts (a : List Char) : List (List Char) :=
  match a.findIdx? foreign with
  | none => a.splitOn '.'
  | some matchLength => (a.take matchLength).splitOn '.'

/-- `toInt` of a part, which has neither a sign nor spaces. -/
def toInt (part : List Char) : ℤ :=
  let value := part.foldl (fun value c => 10 * value + (c.toNat - '0'.toNat)) 0
  if part ≠ [] ∧ part.all Char.isDigit ∧ value ≤ 2 ^ 31 - 1 then value else 0

def normalize (parts : List (List Char)) : List (List Char) := parts ++ List.replicate (3 - parts.length) ['0']

/-- The loop over the parts of two versions. -/
def compareParts : List (List Char × List Char) → ℤ
  | [] => 0
  | p :: rest => if toInt p.1 ≠ toInt p.2 then if toInt p.1 < toInt p.2 then -1 else 1 else compareParts rest

def compareVersions (a b : List Char) : ℤ :=
  if a = b then 0
  else if a = [] then 1
  else if b = [] then -1
  else compareParts (((normalize (parts a)).zip (normalize (parts b))).take 3)

def stripMinor (a : List Char) : List Char :=
  let aParts := if a ≠ [] then parts a else []
  ['.'].intercalate ((normalize aParts).take 2 ++ [['0']])

section Parts

variable {a b part x y z : List Char} {ps : List (List Char)} {c : Char}

lemma toInt_nonneg (part : List Char) : 0 ≤ toInt part := by
  rw [toInt]
  split_ifs
  · exact Int.natCast_nonneg _
  · exact le_rfl

/-- The text of a version that is read. -/
def versionText (a : List Char) : List Char := a.takeWhile fun c => !foreign c

lemma parts_eq (a : List Char) : parts a = (versionText a).splitOn '.' := by
  rw [parts, versionText, List.takeWhile_eq_take_findIdx_not]
  simp only [Bool.not_not]
  cases h : a.findIdx? foreign with
  | none =>
    rw [List.findIdx?_eq_none_iff_findIdx_eq] at h
    rw [h, List.take_length]
  | some n =>
    rw [List.findIdx?_eq_some_iff_findIdx_eq] at h
    rw [h.2]

lemma versionText_eq_self (h : ∀ c ∈ a, foreign c = false) : versionText a = a := by
  induction a with
  | nil => rfl
  | cons c a ih =>
    rw [versionText, List.takeWhile_cons_of_pos (by simp [h c]), ← versionText, ih fun d hd => h d (by simp [hd])]

lemma dot_notMem_of_mem_splitOn (h : part ∈ a.splitOn '.') : '.' ∉ part := by
  induction a generalizing part with
  | nil =>
    rw [List.splitOn_nil, List.mem_singleton] at h
    simp [h]
  | cons c a ih =>
    obtain ⟨q, qs, hq⟩ := List.exists_cons_of_ne_nil (List.splitOn_ne_nil '.' a)
    rw [List.splitOn_cons_eq_if_modifyHead, hq] at h
    rw [hq] at ih
    by_cases hc : c = '.'
    · simp only [hc, beq_self_eq_true, if_true, List.mem_cons] at h
      rcases h with rfl | h
      · simp
      · exact ih (List.mem_cons.mpr h)
    · simp only [beq_iff_eq, hc, if_false, List.modifyHead_cons, List.mem_cons] at h
      rcases h with rfl | h
      · simpa [Ne.symm hc] using ih List.mem_cons_self
      · exact ih (List.mem_cons_of_mem _ h)

lemma not_foreign_of_mem_parts (hp : part ∈ parts a) (hc : c ∈ part) : foreign c = false := by
  have hd : c ≠ '.' := by
    rintro rfl
    exact dot_notMem_of_mem_splitOn (parts_eq a ▸ hp) hc
  rw [parts_eq] at hp
  have hm : c ∈ versionText a := by
    by_contra hn
    exact (Library.DomainNames.not_mem_labels hd _).mpr hn part hp hc
  simpa using List.mem_takeWhile_imp hm

/-- A part without a foreign character or a point. -/
def Plain (part : List Char) : Prop := '.' ∉ part ∧ ∀ c ∈ part, foreign c = false

lemma plain_zero : Plain ['0'] := ⟨by simp, by simp [foreign]⟩

lemma plain_of_mem_parts (hp : part ∈ parts a) : Plain part :=
  ⟨dot_notMem_of_mem_splitOn (parts_eq a ▸ hp), fun _ hc => not_foreign_of_mem_parts hp hc⟩

lemma plain_of_mem_normalize (h : ∀ part ∈ ps, Plain part) (hp : part ∈ normalize ps) : Plain part := by
  rw [normalize, List.mem_append] at hp
  rcases hp with hp | hp
  · exact h part hp
  · exact List.eq_of_mem_replicate hp ▸ plain_zero

lemma exists_normalize (ps : List (List Char)) : ∃ x y z rest, normalize ps = x :: y :: z :: rest := by
  rw [normalize]
  match ps with
  | [] => exact ⟨_, _, _, [], rfl⟩
  | [x] => exact ⟨x, _, _, [], rfl⟩
  | [x, y] => exact ⟨x, y, _, [], rfl⟩
  | x :: y :: z :: rest => exact ⟨x, y, z, rest ++ List.replicate (3 - (x :: y :: z :: rest).length) ['0'], rfl⟩

lemma parts_intercalate (h : ∀ part ∈ ps, Plain part) (hne : ps ≠ []) : parts (['.'].intercalate ps) = ps := by
  have hf : ∀ c ∈ ['.'].intercalate ps, foreign c = false := by
    intro c hc
    by_cases hd : c = '.'
    · simp [hd, foreign]
    · by_contra hn
      have hnot : ∀ part ∈ ps, c ∉ part := fun part hp hc => hn ((h part hp).2 c hc)
      rw [← List.splitOn_intercalate '.' (fun part hp => (h part hp).1) hne] at hnot
      exact (Library.DomainNames.not_mem_labels hd _).mp hnot hc
  rw [parts_eq, versionText_eq_self hf, List.splitOn_intercalate '.' (fun part hp => (h part hp).1) hne]

end Parts

section Keys

variable {a b : List Char} {x y z x' y' z' : List Char}

/-- The first three parts as numbers, in the order in which they are compared. -/
def digits (x y z : List Char) : ℤ ×ₗ ℤ ×ₗ ℤ := toLex (toInt x, toLex (toInt y, toInt z))

/-- What versions are compared by, where the empty one is above all others. -/
def key (a : List Char) : WithTop (ℤ ×ₗ ℤ ×ₗ ℤ) :=
  if a = [] then ⊤
  else digits ((normalize (parts a)).getD 0 []) ((normalize (parts a)).getD 1 []) ((normalize (parts a)).getD 2 [])

lemma digits_lt_iff : digits x y z < digits x' y' z' ↔ toInt x < toInt x' ∨
    toInt x = toInt x' ∧ (toInt y < toInt y' ∨ toInt y = toInt y' ∧ toInt z < toInt z') := by
  rw [digits, digits, Prod.Lex.toLex_lt_toLex, Prod.Lex.toLex_lt_toLex]

lemma digits_le_iff : digits x y z ≤ digits x' y' z' ↔ toInt x < toInt x' ∨
    toInt x = toInt x' ∧ (toInt y < toInt y' ∨ toInt y = toInt y' ∧ toInt z ≤ toInt z') := by
  rw [digits, digits, Prod.Lex.toLex_le_toLex, Prod.Lex.toLex_le_toLex]

lemma compareParts_eq : compareParts [(x, x'), (y, y'), (z, z')] = compareKeys (digits x y z) (digits x' y' z') := by
  simp only [compareKeys, digits_lt_iff, compareParts]
  split_ifs <;> omega

lemma key_of_parts {ps : List (List Char)} (ha : a ≠ []) (h : normalize (parts a) = x :: y :: z :: ps) :
    key a = digits x y z := by
  rw [key, if_neg ha, h]
  rfl

lemma compareVersions_eq (a b : List Char) : compareVersions a b = compareKeys (key a) (key b) := by
  rw [compareVersions]
  by_cases hab : a = b
  case pos => rw [if_pos hab, hab, compareKeys_eq_zero.mpr rfl]
  case neg =>
    rw [if_neg hab]
    obtain ⟨x, y, z, ps, hx⟩ := exists_normalize (parts a)
    obtain ⟨x', y', z', ps', hx'⟩ := exists_normalize (parts b)
    by_cases ha : a = []
    · have hb : b ≠ [] := fun hb => hab (ha.trans hb.symm)
      rw [if_pos ha, key, if_pos ha, key_of_parts hb hx']
      simp [compareKeys]
    · rw [if_neg ha]
      by_cases hb : b = []
      · rw [if_pos hb, key_of_parts ha hx, key, if_pos hb]
        simp [compareKeys]
      · rw [if_neg hb, hx, hx', key_of_parts ha hx, key_of_parts hb hx']
        have hc : compareKeys (digits x y z : WithTop (ℤ ×ₗ ℤ ×ₗ ℤ)) (digits x' y' z') =
            compareKeys (digits x y z) (digits x' y' z') := by
          simp only [compareKeys, WithTop.coe_lt_coe]
        rw [hc]
        exact compareParts_eq

lemma compareVersions_nonpos : compareVersions a b ≤ 0 ↔ key a ≤ key b := by
  rw [compareVersions_eq, compareKeys_nonpos]

end Keys

section Strip

variable {a b : List Char}

lemma exists_stripMinor (a : List Char) : ∃ x y, Plain x ∧ Plain y ∧ stripMinor a = ['.'].intercalate [x, y, ['0']] ∧
    (a ≠ [] → ∃ z ps, normalize (parts a) = x :: y :: z :: ps) := by
  by_cases ha : a = []
  case pos =>
    refine ⟨['0'], ['0'], plain_zero, plain_zero, ?_, fun h => absurd ha h⟩
    rw [ha]
    rfl
  case neg =>
    obtain ⟨x, y, z, ps, hx⟩ := exists_normalize (parts a)
    have hp (part : List Char) (h : part ∈ [x, y]) : Plain part := by
      have hmem : part ∈ normalize (parts a) := by
        rw [hx]
        simp only [List.mem_cons, List.not_mem_nil, or_false] at h ⊢
        tauto
      exact plain_of_mem_normalize (fun part hp => plain_of_mem_parts hp) hmem
    refine ⟨x, y, hp x (by simp), hp y (by simp), ?_, fun _ => ⟨z, ps, hx⟩⟩
    rw [stripMinor, if_pos ha, hx]
    rfl

lemma normalize_parts_stripped {x y : List Char} (hx : Plain x) (hy : Plain y) :
    normalize (parts (['.'].intercalate [x, y, ['0']])) = [x, y, ['0']] := by
  have hp : ∀ part ∈ [x, y, ['0']], Plain part := by
    simp only [List.mem_cons, List.not_mem_nil, or_false]
    rintro part (rfl | rfl | rfl)
    · exact hx
    · exact hy
    · exact plain_zero
  rw [parts_intercalate hp (by simp)]
  rfl

lemma stripped_ne_nil (x y : List Char) : ['.'].intercalate [x, y, ['0']] ≠ [] := by
  simp [List.intercalate]

lemma stripMinor_stripMinor (a : List Char) : stripMinor (stripMinor a) = stripMinor a := by
  obtain ⟨x, y, hx, hy, hs, -⟩ := exists_stripMinor a
  rw [hs, stripMinor, if_pos (stripped_ne_nil x y), normalize_parts_stripped hx hy]
  rfl

lemma key_stripped {x y : List Char} (hx : Plain x) (hy : Plain y) :
    key (['.'].intercalate [x, y, ['0']]) = digits x y ['0'] :=
  key_of_parts (stripped_ne_nil x y) (normalize_parts_stripped hx hy)

lemma toInt_zero : toInt ['0'] = 0 := by decide

lemma compareVersions_stripMinor_self (a : List Char) : compareVersions (stripMinor a) a ≤ 0 := by
  obtain ⟨x, y, hx, hy, hs, hk⟩ := exists_stripMinor a
  rw [compareVersions_nonpos, hs, key_stripped hx hy]
  by_cases ha : a = []
  case pos =>
    rw [key, if_pos ha]
    exact le_top
  case neg =>
    obtain ⟨z, ps, hz⟩ := hk ha
    rw [key_of_parts ha hz, WithTop.coe_le_coe, digits_le_iff, toInt_zero]
    exact Or.inr ⟨rfl, Or.inr ⟨rfl, toInt_nonneg z⟩⟩

lemma compareVersions_stripMinor_mono (hb : b ≠ []) (h : compareVersions a b ≤ 0) :
    compareVersions (stripMinor a) (stripMinor b) ≤ 0 := by
  obtain ⟨x, y, hx, hy, hs, hk⟩ := exists_stripMinor a
  obtain ⟨x', y', hx', hy', hs', hk'⟩ := exists_stripMinor b
  obtain ⟨z', ps', hz'⟩ := hk' hb
  rw [compareVersions_nonpos, key_of_parts hb hz'] at h
  have ha : a ≠ [] := by
    rintro rfl
    rw [key, if_pos rfl] at h
    exact absurd (top_le_iff.mp h) (WithTop.coe_ne_top)
  obtain ⟨z, ps, hz⟩ := hk ha
  rw [key_of_parts ha hz, WithTop.coe_le_coe, digits_le_iff] at h
  rw [compareVersions_nonpos, hs, hs', key_stripped hx hy, key_stripped hx' hy', WithTop.coe_le_coe, digits_le_iff]
  refine h.imp_right fun h => ⟨h.1, h.2.imp_right fun h => ⟨h.1, le_rfl⟩⟩

end Strip

/-- What is asked of the two functions, where the last law is asked for versions that are not empty. -/
structure Laws : Prop where
  comparison : IsComparison compareVersions
  empty : ∀ a, a ≠ [] → compareVersions a [] = -1
  idempotent : ∀ a, stripMinor (stripMinor a) = stripMinor a
  le_self : ∀ a, compareVersions (stripMinor a) a ≤ 0
  monotone : ∀ a b, b ≠ [] → compareVersions a b ≤ 0 → compareVersions (stripMinor a) (stripMinor b) ≤ 0

/-- Versions are compared by their first three numbers, and so are the stripped ones. -/
theorem versionLaws : Laws where
  comparison := isComparison_of_key key compareVersions_eq
  empty a ha := by rw [compareVersions, if_neg ha, if_neg ha, if_pos rfl]
  idempotent := stripMinor_stripMinor
  le_self := compareVersions_stripMinor_self
  monotone _ _ := compareVersions_stripMinor_mono

/-- The empty version is above all others, and the stripped one is not. -/
theorem not_monotone_empty : compareVersions ['1'] [] ≤ 0 ∧
    ¬ compareVersions (stripMinor ['1']) (stripMinor []) ≤ 0 := by
  decide +kernel

end VpnClient.Update.VersionUtils
