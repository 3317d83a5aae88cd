import Mathlib.Tactic

/-! Views of a list that are only told of the rows that come and go, `none` once they are told of a row that cannot. -/

namespace VpnClient.Library.RowViews

variable {R : Type}

def insertRow (pos : ℕ) (row : R) (view : Option (List R)) : Option (List R) :=
  view.bind fun rows => if pos ≤ rows.length then some (rows.insertIdx pos row) else none

def removeRow (pos : ℕ) (view : Option (List R)) : Option (List R) :=
  view.bind fun rows => if pos < rows.length then some (rows.eraseIdx pos) else none

variable {row : R} {before after rows : List R} {pos : ℕ}

lemma insertRow_append : insertRow before.length row (some (before ++ after)) = some (before ++ row :: after) := by
  rw [insertRow, Option.bind_some, if_pos (by simp)]
  congr 1
  induction before with
  | nil => rfl
  | cons first before ih => exact congrArg (first :: ·) ih

lemma removeRow_append : removeRow before.length (some (before ++ row :: after)) = some (before ++ after) := by
  rw [removeRow, Option.bind_some, if_pos (by simp), List.eraseIdx_append_of_length_le le_rfl]
  simp

lemma removeRow_ne : removeRow pos (some rows) ≠ some rows := by
  rw [removeRow, Option.bind_some]
  split
  · next hp =>
    intro he
    have := congrArg List.length (Option.some.inj he)
    rw [List.length_eraseIdx_of_lt hp] at this
    omega
  · simp

end VpnClient.Library.RowViews
