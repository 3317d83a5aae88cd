import Mathlib.Tactic

/-! Lists of words in which each word is written as a number of letters that it shares with the word before it, and the
rest of its letters. -/

namespace VpnClient.Library.FrontCoding

variable {α : Type}

section Shared

variable [DecidableEq α]

def sharedLength : List α → List α → ℕ
  | a :: xs, b :: ys => if a = b then sharedLength xs ys + 1 else 0
  | _, _ => 0

variable {xs ys : List α} {n : ℕ}

lemma take_of_le_sharedLength (h : n ≤ sharedLength xs ys) : xs.take n = ys.take n := by
  induction xs generalizing ys n with
  | nil =>
    obtain rfl : n = 0 := Nat.le_zero.mp h
    rfl
  | cons a xs ih =>
    cases ys with
    | nil =>
      obtain rfl : n = 0 := Nat.le_zero.mp h
      rfl
    | cons b ys =>
      rw [sharedLength] at h
      split_ifs at h with hab
      · cases n with
        | zero => rfl
        | succ n => rw [List.take_succ_cons, List.take_succ_cons, hab, ih (Nat.le_of_succ_le_succ h)]
      · obtain rfl : n = 0 := Nat.le_zero.mp h
        rfl

/-- What the words are written as, with at most `limit` shared letters each, after the word `prev`. -/
def encode (limit : ℕ) (prev : List α) : List (List α) → List (ℕ × List α)
  | [] => []
  | word :: words =>
    (min limit (sharedLength prev word), word.drop (min limit (sharedLength prev word))) :: encode limit word words

end Shared

def word (prev : List α) (code : ℕ × List α) : List α := prev.take code.1 ++ code.2

def decode (prev : List α) : List (ℕ × List α) → List (List α)
  | [] => []
  | code :: codes => word prev code :: decode (word prev code) codes

variable {prev : List α} {code : ℕ × List α} {codes : List (ℕ × List α)}

@[simp] lemma length_decode : (decode prev codes).length = codes.length := by
  induction codes generalizing prev with
  | nil => rfl
  | cons code codes ih => rw [decode, List.length_cons, List.length_cons, ih]

lemma word_of_shared [DecidableEq α] {limit : ℕ} {w : List α} :
    word prev (min limit (sharedLength prev w), w.drop (min limit (sharedLength prev w))) = w := by
  rw [word, take_of_le_sharedLength (min_le_right _ _)]
  exact List.take_append_drop _ w

lemma decode_encode [DecidableEq α] (limit : ℕ) (prev : List α) (words : List (List α)) :
    decode prev (encode limit prev words) = words := by
  induction words generalizing prev with
  | nil => rfl
  | cons w words ih => rw [encode, decode, word_of_shared, ih]

/-- A condition on the positions of a list, from `i` on, at which an entry may only be unless the word is met before. -/
def Passes (bad : ℕ → ℕ × List α → Prop) (target : List α) (i : ℕ) (prev : List α) (codes : List (ℕ × List α)) :
    Prop :=
  ∀ k code, codes[k]? = some code → bad (i + k) code → target ∈ (decode prev codes).take k

lemma passes_nil {bad : ℕ → ℕ × List α → Prop} {target : List α} {i : ℕ} : Passes bad target i prev [] := by
  intro k code hk
  simp at hk

lemma passes_cons {bad : ℕ → ℕ × List α → Prop} {target : List α} {i : ℕ} :
    Passes bad target i prev (code :: codes) ↔
      ¬ bad i code ∧ (target = word prev code ∨ Passes bad target (i + 1) (word prev code) codes) := by
  constructor
  case mp =>
    intro h
    constructor
    · intro hb
      simpa using h 0 code rfl hb
    · by_contra hn
      obtain ⟨ht, hp⟩ := not_or.mp hn
      apply hp
      intro k c hk hb
      have hm := h (k + 1) c hk (by rwa [← Nat.add_assoc, Nat.add_right_comm])
      rw [decode, List.take_succ_cons] at hm
      exact (List.mem_cons.mp hm).resolve_left ht
  case mpr =>
    rintro ⟨hc, h⟩ k c hk hb
    cases k with
    | zero =>
      obtain rfl : code = c := by simpa using hk
      exact absurd hb hc
    | succ k =>
      rw [decode, List.take_succ_cons, List.mem_cons]
      apply h.imp_right
      intro hp
      exact hp k c (by simpa using hk) (by rwa [Nat.add_assoc, Nat.add_comm 1])

end VpnClient.Library.FrontCoding
