import Mathlib.Tactic

/-! Fallible operations on a state: sequencing that stops at the first failure, and rules for
what a sequence of them ensures, and for what it keeps even if it fails. -/

namespace VpnClient.Library.Attempts

variable {S A : Type}

abbrev Attempt (S : Type) := S → Bool × S

namespace Attempt

def succeed (f : S → S) : Attempt S := fun s => (true, f s)

/-- Runs `a` and, unless it fails, `b`. -/
def andThen (a b : Attempt S) : Attempt S := fun s =>
  if (a s).1 then b (a s).2 else (false, (a s).2)

/-- Runs `a` without looking at its result. -/
def ignoring (a : Attempt S) : Attempt S := fun s => (true, (a s).2)

def when (c : S → Bool) (a : Attempt S) : Attempt S := fun s => if c s then a s else (true, s)

def forEach (f : A → Attempt S) : List A → Attempt S
  | [] => succeed id
  | x :: xs => (f x).andThen (forEach f xs)

/-- From a state in `P`, `a` succeeds and ends in a state in `Q`. -/
def Ensures (P : S → Prop) (a : Attempt S) (Q : S → Prop) : Prop :=
  ∀ s, P s → (a s).1 = true ∧ Q (a s).2

/-- From a state in `P`, `a` ends in a state in `P`, whether or not it succeeds. -/
def Keeps (P : S → Prop) (a : Attempt S) : Prop := ∀ s, P s → P (a s).2

/-- From a state in `P`, `a` ends in a state in `Q` if it succeeds. -/
def Yields (P : S → Prop) (a : Attempt S) (Q : S → Prop) : Prop := ∀ s, P s → (a s).1 = true → Q (a s).2

/-- From a state in `P`, `a` ends in a state in `P` if it fails. -/
def Spares (P : S → Prop) (a : Attempt S) : Prop := ∀ s, P s → (a s).1 = false → P (a s).2

variable {P Q R : S → Prop} {a b : Attempt S}

lemma andThen_of_success {s : S} (h : (a s).1 = true) : a.andThen b s = b (a s).2 := if_pos h

lemma andThen_of_failure {s : S} (h : (a s).1 = false) : a.andThen b s = (false, (a s).2) := if_neg (by simp [h])

lemma andThen_assoc (a b c : Attempt S) : (a.andThen b).andThen c = a.andThen (b.andThen c) := by
  funext s
  rw [andThen, andThen, andThen]
  cases (a s).1 with
  | false => rfl
  | true => rfl

lemma ensures_succeed {f : S → S} (h : ∀ s, P s → Q (f s)) : Ensures P (succeed f) Q :=
  fun s hs => ⟨rfl, h s hs⟩

lemma Ensures.andThen (ha : Ensures P a Q) (hb : Ensures Q b R) : Ensures P (a.andThen b) R := by
  intro s hs
  obtain ⟨h₁, hq⟩ := ha s hs
  simpa [Attempt.andThen, h₁] using hb _ hq

lemma Ensures.ignoring (ha : Ensures P a Q) : Ensures P a.ignoring Q := fun s hs => ⟨rfl, (ha s hs).2⟩

lemma Ensures.when {c : S → Bool} (ha : Ensures (fun s => P s ∧ c s = true) a Q)
    (hq : ∀ s, P s → c s = false → Q s) : Ensures P (a.when c) Q := by
  intro s hs
  rw [Attempt.when]
  split
  · next hc => exact ha s ⟨hs, hc⟩
  · next hc => exact ⟨rfl, hq s hs (by simpa using hc)⟩

lemma Ensures.consequence (ha : Ensures Q a R) {P' R' : S → Prop} (hp : ∀ s, P' s → Q s)
    (hr : ∀ s, R s → R' s) : Ensures P' a R' :=
  fun s hs => ⟨(ha s (hp s hs)).1, hr _ (ha s (hp s hs)).2⟩

lemma ensures_forEach {T : Type} {f : A → Attempt S} {I : T → S → Prop} {g : T → A → T}
    (h : ∀ t x, Ensures (I t) (f x) (I (g t x))) (t : T) (xs : List A) :
    Ensures (I t) (forEach f xs) (I (xs.foldl g t)) := by
  induction xs generalizing t with
  | nil => exact ensures_succeed fun _ hs => hs
  | cons x xs ih => exact (h t x).andThen (ih (g t x))

lemma ensures_forEach_of {f : A → Attempt S} (h : ∀ x, Ensures P (f x) P) (xs : List A) : Ensures P (forEach f xs) P :=
  ensures_forEach (I := fun _ => P) (g := fun t _ => t) (fun _ x => h x) () xs

lemma keeps_succeed {f : S → S} (h : ∀ s, P s → P (f s)) : Keeps P (succeed f) := h

lemma Keeps.andThen (ha : Keeps P a) (hb : Keeps P b) : Keeps P (a.andThen b) := by
  intro s hs
  rw [Attempt.andThen]
  split
  · exact hb _ (ha s hs)
  · exact ha s hs

lemma Keeps.ignoring (ha : Keeps P a) : Keeps P a.ignoring := ha

lemma Keeps.when {c : S → Bool} (ha : Keeps P a) : Keeps P (a.when c) := by
  intro s hs
  rw [Attempt.when]
  split
  · exact ha s hs
  · exact hs

lemma keeps_forEach_of_mem {f : A → Attempt S} {xs : List A} (h : ∀ x ∈ xs, Keeps P (f x)) :
    Keeps P (forEach f xs) := by
  induction xs with
  | nil => exact keeps_succeed fun _ hs => hs
  | cons x xs ih =>
    rw [List.forall_mem_cons] at h
    exact h.1.andThen (ih h.2)

lemma keeps_forEach {f : A → Attempt S} (h : ∀ x, Keeps P (f x)) (xs : List A) : Keeps P (forEach f xs) :=
  keeps_forEach_of_mem fun x _ => h x

lemma Keeps.yields (ha : Keeps P a) : Yields P a P := fun s hs _ => ha s hs

lemma yields_succeed {f : S → S} (h : ∀ s, P s → Q (f s)) : Yields P (succeed f) Q := fun s hs _ => h s hs

lemma Yields.andThen (ha : Yields P a Q) (hb : Yields Q b R) : Yields P (a.andThen b) R := by
  intro s hs
  rw [Attempt.andThen]
  split
  · next h => exact hb _ (ha s hs h)
  · intro h
    cases h

lemma Yields.when {c : S → Bool} (ha : Yields (fun s => P s ∧ c s = true) a Q)
    (hq : ∀ s, P s → c s = false → Q s) : Yields P (a.when c) Q := by
  intro s hs
  rw [Attempt.when]
  split
  · next hc => exact ha s ⟨hs, hc⟩
  · next hc => exact fun _ => hq s hs (by simpa using hc)

/-- What each element gains is kept while the others are attempted. -/
lemma yields_forEach {f : A → Attempt S} {G : A → S → Prop} (hy : ∀ x, Yields (fun _ => True) (f x) (G x))
    (hk : ∀ x y, Keeps (G x) (f y)) (xs : List A) :
    Yields (fun _ => True) (forEach f xs) (fun s => ∀ x ∈ xs, G x s) := by
  induction xs with
  | nil => exact fun _ _ _ => List.forall_mem_nil _
  | cons x xs ih =>
    intro s hs h
    rw [forEach, Attempt.andThen] at h ⊢
    split at h
    · next ha =>
      rw [if_pos ha]
      rw [List.forall_mem_cons]
      constructor
      · exact keeps_forEach (hk x) xs _ (hy x s hs ha)
      · exact ih _ trivial h
    · cases h

lemma spares_succeed {f : S → S} : Spares P (succeed f) := fun _ _ h => by cases h

lemma Keeps.andThen_spares (ha : Keeps P a) (hb : Spares P b) : Spares P (a.andThen b) := by
  intro s hs
  rw [Attempt.andThen]
  split
  · exact hb _ (ha s hs)
  · exact fun _ => ha s hs

end Attempt

end VpnClient.Library.Attempts
