import VpnClient.Library.Attempts

/-! Attempts that play a list of entries up to the first one that is missing. -/

namespace VpnClient.Library.Scripts

open Attempts Attempt

variable {S E A : Type} (apply : S → E → S)

def play : List (Option E) → Attempt S
  | [] => succeed id
  | none :: _ => fun s => (false, s)
  | some e :: script => fun s => play script (apply s e)

def complete (script : List (Option E)) : Bool := script.all Option.isSome

/-- The entries before the first one that is missing. -/
def readable : List (Option E) → List E
  | [] => []
  | none :: _ => []
  | some e :: script => e :: readable script

variable {apply} {script es fs : List (Option E)} {e : E} {s : S} {l : List A} {f : A → List (Option E)}

lemma play_append : play apply (es ++ fs) = (play apply es).andThen (play apply fs) := by
  induction es with
  | nil => rfl
  | cons e es ih =>
    cases e with
    | none => rfl
    | some e =>
      rw [List.cons_append]
      funext s
      rw [play, ih]
      rfl

lemma play_flatMap : play apply (l.flatMap f) = forEach (fun x => play apply (f x)) l := by
  induction l with
  | nil => rfl
  | cons x l ih => rw [List.flatMap_cons, play_append, ih, forEach]

lemma play_map {g : A → Option E} : play apply (l.map g) = forEach (fun x => play apply [g x]) l := by
  rw [List.map_eq_flatMap, play_flatMap]

lemma play_cons : play apply (some e :: script) = (succeed fun s => apply s e).andThen (play apply script) := rfl

lemma complete_flatMap : complete (l.flatMap f) = true ↔ ∀ x ∈ l, complete (f x) = true := by
  simp [complete, List.all_flatMap]

/-- What a script makes of a state, whether or not it is complete. -/
lemma play_eq (script : List (Option E)) (s : S) :
    play apply script s = (complete script, (readable script).foldl apply s) := by
  induction script generalizing s with
  | nil => rfl
  | cons e script ih =>
    cases e with
    | none => rfl
    | some e => exact ih _

lemma mem_readable (h : complete script = true) : e ∈ readable script ↔ some e ∈ script := by
  induction script with
  | nil => simp [readable]
  | cons e' script ih =>
    rw [complete, List.all_cons, Bool.and_eq_true] at h
    cases e' with
    | none => simp at h
    | some e' => rw [readable, List.mem_cons, List.mem_cons, ih h.2, Option.some.injEq]

end VpnClient.Library.Scripts
