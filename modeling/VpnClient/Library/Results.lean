import Mathlib.Tactic

/-! Computations that stop at the first error: when a sequence of them returns a value. -/

namespace VpnClient.Library.Results

variable {E A B : Type}

@[simp] lemma bind_ok_iff {x : Except E A} {f : A → Except E B} {b : B} :
    x >>= f = .ok b ↔ ∃ a, x = .ok a ∧ f a = .ok b := by
  cases x <;> simp [bind, Except.bind]

lemma bind_error_iff {x : Except E A} {f : A → Except E B} {e : E} :
    x >>= f = .error e ↔ x = .error e ∨ ∃ a, x = .ok a ∧ f a = .error e := by
  cases x <;> simp [bind, Except.bind]

@[simp] lemma pure_ok_iff {a b : A} : (pure a : Except E A) = .ok b ↔ a = b := by
  simp [pure, Except.pure]

@[simp] lemma mapError_ok_iff {F : Type} {f : E → F} {x : Except E A} {a : A} : x.mapError f = .ok a ↔ x = .ok a := by
  cases x <;> simp [Except.mapError]

lemma mapM_ok_iff {f : A → Except E B} {xs : List A} {ys : List B} :
    xs.mapM f = .ok ys ↔ List.Forall₂ (fun x y => f x = .ok y) xs ys := by
  induction xs generalizing ys with
  | nil => rw [List.mapM_nil, pure_ok_iff, List.forall₂_nil_left_iff, eq_comm]
  | cons x xs ih =>
    rw [List.mapM_cons, List.forall₂_cons_left_iff]
    simp only [bind_ok_iff, pure_ok_iff, ih]
    constructor
    · rintro ⟨y, hy, ys, hys, rfl⟩
      exact ⟨y, ys, hy, hys, rfl⟩
    · rintro ⟨y, ys, hy, hys, rfl⟩
      exact ⟨y, hy, ys, hys, rfl⟩

lemma mapM_some_iff {f : A → Option B} {xs : List A} {ys : List B} :
    xs.mapM f = some ys ↔ List.Forall₂ (fun x y => f x = some y) xs ys := by
  induction xs generalizing ys with
  | nil => rw [List.mapM_nil, List.forall₂_nil_left_iff, Option.pure_def, Option.some.injEq, eq_comm]
  | cons x xs ih =>
    rw [List.mapM_cons, List.forall₂_cons_left_iff]
    simp only [Option.bind_eq_bind, Option.bind_eq_some_iff, Option.pure_def, Option.some.injEq, ih]
    constructor
    · rintro ⟨y, hy, ys, hys, rfl⟩
      exact ⟨y, ys, hy, hys, rfl⟩
    · rintro ⟨y, ys, hy, hys, rfl⟩
      exact ⟨y, hy, ys, hys, rfl⟩

lemma mem_of_mapM {f : A → Option B} {xs : List A} {ys : List B} (h : xs.mapM f = some ys) {y : B} :
    y ∈ ys ↔ ∃ x ∈ xs, f x = some y := by
  induction mapM_some_iff.mp h with
  | nil => simp
  | cons hx ht ih => simp [ih (mapM_some_iff.mpr ht), hx, eq_comm]

lemma exists_of_mapM {f : A → Option B} {xs : List A} {ys : List B} (h : xs.mapM f = some ys) {x : A} (hx : x ∈ xs) :
    ∃ y ∈ ys, f x = some y := by
  induction mapM_some_iff.mp h with
  | nil => cases hx
  | cons hy ht ih =>
    obtain rfl | hx := List.mem_cons.mp hx
    · exact ⟨_, List.mem_cons_self, hy⟩
    · obtain ⟨y, hm, hy⟩ := ih (mapM_some_iff.mpr ht) hx
      exact ⟨y, List.mem_cons_of_mem _ hm, hy⟩

end VpnClient.Library.Results
