import Mathlib.Tactic

/-! File globs: a star stands for any characters but separators, a question mark for one of them, and brackets for
one of their members. -/

namespace VpnClient.Library.Globs

inductive Token where
  | star
  | one
  | bracket (negated : Bool) (members : List Char)
  | char (c : Char)

/-- A bracket that is not closed yet. -/
structure Bracket where
  negated : Bool := false
  members : List Char := []

/-- The tokens of a glob, or none if a bracket is not closed or holds a separator. -/
def parse (separator : Char → Bool) : Option Bracket → List Char → Option (List Token)
  | none, [] => some []
  | some _, [] => none
  | none, c :: pattern =>
    if c = '*' then (parse separator none pattern).map (.star :: ·)
    else if c = '?' then (parse separator none pattern).map (.one :: ·)
    else if c = '[' then parse separator (some {}) pattern
    else (parse separator none pattern).map (.char c :: ·)
  | some b, c :: pattern =>
    if separator c then none
    else if c = '!' ∧ b.negated = false ∧ b.members = [] then parse separator (some { b with negated := true }) pattern
    else if c = ']' ∧ b.members ≠ [] then (parse separator none pattern).map (.bracket b.negated b.members :: ·)
    else parse separator (some { b with members := b.members ++ [c] }) pattern

/-- Whether a character is among the members of a bracket or in one of their ranges. -/
def isMember (c : Char) : List Char → Bool
  | a :: '-' :: b :: members => (decide (a ≤ c) && decide (c ≤ b)) || isMember c members
  | a :: members => c == a || isMember c members
  | [] => false

/-- Whether some characters that are no separators, and then a text that `rest` takes, make up the text. -/
def starMatches (separator : Char → Bool) (rest : List Char → Bool) : List Char → Bool
  | [] => rest []
  | c :: text => rest (c :: text) || (!separator c && starMatches separator rest text)

def tokensMatch (separator : Char → Bool) : List Token → List Char → Bool
  | [], text => text.isEmpty
  | .star :: tokens, text => starMatches separator (tokensMatch separator tokens) text
  | .one :: tokens, c :: text => !separator c && tokensMatch separator tokens text
  | .bracket negated members :: tokens, c :: text =>
    (isMember c members != negated) && tokensMatch separator tokens text
  | .char d :: tokens, c :: text => d == c && tokensMatch separator tokens text
  | _ :: _, [] => false

/-- Whether the glob matches the whole text. -/
def globMatches (separator : Char → Bool) (pattern text : List Char) : Bool :=
  (parse separator none pattern).any fun tokens => tokensMatch separator tokens text

/-- All characters of the pattern stand for themselves. -/
def Plain (pattern : List Char) : Prop := ∀ c ∈ pattern, c ≠ '*' ∧ c ≠ '?' ∧ c ≠ '['

variable {separator : Char → Bool} {pattern text suffix : List Char}

lemma starMatches_iff {rest : List Char → Bool} : starMatches separator rest text = true ↔
    ∃ x y, text = x ++ y ∧ (∀ c ∈ x, separator c = false) ∧ rest y = true := by
  induction text with
  | nil => simp [starMatches]
  | cons c text ih =>
    rw [starMatches, Bool.or_eq_true, Bool.and_eq_true, Bool.not_eq_true', ih]
    constructor
    · rintro (h | ⟨hc, x, y, rfl, hx, hy⟩)
      · exact ⟨[], c :: text, rfl, by simp, h⟩
      · exact ⟨c :: x, y, rfl, by simpa [hc] using hx, hy⟩
    · rintro ⟨x, y, h, hx, hy⟩
      cases x with
      | nil =>
        left
        rw [h]
        exact hy
      | cons d x =>
        obtain ⟨rfl, rfl⟩ := List.cons.inj h
        obtain ⟨hc, hx⟩ := List.forall_mem_cons.mp hx
        exact Or.inr ⟨hc, x, y, rfl, hx, hy⟩

lemma parse_plain (h : Plain pattern) : parse separator none pattern = some (pattern.map .char) := by
  induction pattern with
  | nil => rfl
  | cons c pattern ih =>
    obtain ⟨⟨h₁, h₂, h₃⟩, h⟩ := List.forall_mem_cons.mp h
    rw [parse, if_neg h₁, if_neg h₂, if_neg h₃, ih h]
    rfl

lemma tokensMatch_chars : tokensMatch separator (pattern.map .char) text = true ↔ pattern = text := by
  induction pattern generalizing text with
  | nil => rw [List.map_nil, tokensMatch, List.isEmpty_iff, eq_comm]
  | cons c pattern ih =>
    cases text with
    | nil => simp [tokensMatch]
    | cons d text => simp [tokensMatch, ih]

lemma globMatches_plain (h : Plain pattern) : globMatches separator pattern text = true ↔ pattern = text := by
  rw [globMatches, parse_plain h, Option.any_some, tokensMatch_chars]

lemma globMatches_star (h : Plain suffix) : globMatches separator ('*' :: suffix) text = true ↔
    ∃ x, text = x ++ suffix ∧ ∀ c ∈ x, separator c = false := by
  have hp : parse separator none ('*' :: suffix) = some (.star :: suffix.map .char) := by
    rw [parse, if_pos rfl, parse_plain h]
    rfl
  rw [globMatches, hp, Option.any_some, tokensMatch, starMatches_iff]
  constructor
  · rintro ⟨x, y, rfl, hx, hy⟩
    rw [← tokensMatch_chars.mp hy]
    exact ⟨x, rfl, hx⟩
  · rintro ⟨x, rfl, hx⟩
    exact ⟨x, suffix, rfl, hx, tokensMatch_chars.mpr rfl⟩

end VpnClient.Library.Globs
