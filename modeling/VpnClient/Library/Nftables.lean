import Mathlib.Tactic

/-! Packet filters: rules that load parts of a packet into a register and compare it, and chains of rules in which
the first verdict counts. -/

namespace VpnClient.Library.Nftables

abbrev Data := List UInt8

/-- What can be loaded of a packet: metadata by its key, as far as there is any, and headers. -/
structure Packet (K B : Type) where
  metadata : K → Option Data
  header : B → Data

inductive Verdict where
  | accept
  | drop
  | reject
  deriving DecidableEq

inductive Expr (K B N : Type) where
  | metadata (key : K)
  | payload (base : B) (offset len : ℕ)
  | bitwise (mask xor : Data)
  | cmp (data : Data)
  | lookup (set : N)
  | verdict (kind : Verdict)

abbrev Rule (K B N : Type) := List (Expr K B N)

variable {K B N : Type} (sets : N → List Data) (p : Packet K B)

/-- The verdict of a rule on a packet, if all its expressions match. -/
def evalRule : Rule K B N → Data → Option Verdict
  | [], _ => none
  | .metadata key :: rule, _ =>
    match p.metadata key with
    | none => none
    | some data => evalRule rule data
  | .payload base offset len :: rule, _ =>
    if offset + len ≤ (p.header base).length then evalRule rule (((p.header base).drop offset).take len) else none
  | .bitwise mask xor :: rule, register =>
    evalRule rule (List.zipWith (· ^^^ ·) (List.zipWith (· &&& ·) register mask) xor)
  | .cmp data :: rule, register => if register.take data.length = data then evalRule rule register else none
  | .lookup set :: rule, register => if register ∈ sets set then evalRule rule register else none
  | .verdict kind :: _, _ => some kind

def evalChain (policy : Verdict) (rules : List (Rule K B N)) : Verdict :=
  (rules.findSome? (evalRule sets p · [])).getD policy

section

variable {sets p} {rule : Rule K B N} {register : Data} {kind : Verdict}

lemma evalRule_metadata {key : K} :
    evalRule sets p (.metadata key :: rule) register = some kind ↔
      ∃ data, p.metadata key = some data ∧ evalRule sets p rule data = some kind := by
  rw [evalRule]
  cases p.metadata key <;> simp

lemma evalRule_payload {base : B} {offset len : ℕ} :
    evalRule sets p (.payload base offset len :: rule) register = some kind ↔
      offset + len ≤ (p.header base).length ∧
        evalRule sets p rule (((p.header base).drop offset).take len) = some kind := by
  rw [evalRule]
  split_ifs with h <;> simp [h]

lemma evalRule_cmp {data : Data} :
    evalRule sets p (.cmp data :: rule) register = some kind ↔
      register.take data.length = data ∧ evalRule sets p rule register = some kind := by
  rw [evalRule]
  split_ifs with h <;> simp [h]

lemma evalRule_lookup {set : N} :
    evalRule sets p (.lookup set :: rule) register = some kind ↔
      register ∈ sets set ∧ evalRule sets p rule register = some kind := by
  rw [evalRule]
  split_ifs with h <;> simp [h]

lemma evalRule_verdict {verdict : Verdict} :
    evalRule sets p (.verdict verdict :: rule) register = some kind ↔ verdict = kind := by
  rw [evalRule, Option.some.injEq]

lemma verdict_mem (h : evalRule sets p rule register = some kind) : .verdict kind ∈ rule := by
  induction rule generalizing register with
  | nil => cases h
  | cons e rule ih =>
    cases e with
    | metadata key =>
      obtain ⟨data, -, h⟩ := evalRule_metadata.mp h
      exact List.mem_cons_of_mem _ (ih h)
    | payload base offset len => exact List.mem_cons_of_mem _ (ih (evalRule_payload.mp h).2)
    | bitwise mask xor => exact List.mem_cons_of_mem _ (ih h)
    | cmp data => exact List.mem_cons_of_mem _ (ih (evalRule_cmp.mp h).2)
    | lookup set => exact List.mem_cons_of_mem _ (ih (evalRule_lookup.mp h).2)
    | verdict verdict =>
      rw [evalRule_verdict.mp h]
      exact List.mem_cons_self

lemma evalChain_append_iff {policy : Verdict} {accepting rejecting : List (Rule K B N)} (hp : policy ≠ .accept)
    (ha : ∀ rule ∈ accepting, ∀ kind, .verdict kind ∈ rule → kind = .accept)
    (hr : ∀ rule ∈ rejecting, .verdict .accept ∉ rule) :
    evalChain sets p policy (accepting ++ rejecting) = .accept ↔
      ∃ rule ∈ accepting, evalRule sets p rule [] = some .accept := by
  rw [evalChain, List.findSome?_append]
  cases h : accepting.findSome? (evalRule sets p · []) with
  | some kind =>
    obtain ⟨rule, hm, he⟩ := List.exists_of_findSome?_eq_some h
    obtain rfl := ha rule hm kind (verdict_mem he)
    exact iff_of_true rfl ⟨rule, hm, he⟩
  | none =>
    rw [Option.none_or]
    have hn := List.findSome?_eq_none_iff.mp h
    refine iff_of_false (fun hc => ?_) fun ⟨rule, hm, he⟩ => by simp [hn rule hm] at he
    cases h' : rejecting.findSome? (evalRule sets p · []) with
    | none => exact hp (by simpa [h'] using hc)
    | some kind =>
      obtain ⟨rule, hm, he⟩ := List.exists_of_findSome?_eq_some h'
      obtain rfl : kind = .accept := by simpa [h'] using hc
      exact hr rule hm (verdict_mem he)

end

end VpnClient.Library.Nftables
