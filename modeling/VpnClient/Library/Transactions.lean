import Mathlib.Tactic

/-! A value that changes in transactions: what is committed, and what an open transaction makes of it. -/

namespace VpnClient.Library.Transactions

variable {A : Type}

structure Store (A : Type) where
  committed : A
  pending : Option A := none

namespace Store

def start (t : Store A) : Store A := { t with pending := some t.committed }

/-- Outside a transaction a change is committed at once. -/
def modify (f : A → A) (t : Store A) : Store A :=
  match t.pending with
  | some a => { t with pending := some (f a) }
  | none => { t with committed := f t.committed }

def commit (t : Store A) : Store A := { committed := t.pending.getD t.committed }

def abort (t : Store A) : Store A := { committed := t.committed }

/-- What is committed satisfies `P`, and so does what an open transaction would commit. -/
def Always (P : A → Prop) (t : Store A) : Prop := P t.committed ∧ ∀ a ∈ t.pending, P a

variable {P Q : A → Prop} {f : A → A} {t : Store A}

@[simp] lemma pending_start : t.start.pending = some t.committed := rfl

@[simp] lemma committed_start : t.start.committed = t.committed := rfl

@[simp] lemma pending_commit : t.commit.pending = none := rfl

@[simp] lemma pending_abort : t.abort.pending = none := rfl

@[simp] lemma committed_abort : t.abort.committed = t.committed := rfl

lemma abort_of_pending_eq_none (h : t.pending = none) : t.abort = t := by
  obtain ⟨committed, pending⟩ := t
  cases h
  rfl

lemma committed_commit {a : A} (h : t.pending = some a) : t.commit.committed = a := by
  simp [commit, h]

lemma pending_modify {a : A} (h : t.pending = some a) : (t.modify f).pending = some (f a) := by
  simp [modify, h]

lemma committed_modify {a : A} (h : t.pending = some a) : (t.modify f).committed = t.committed := by
  simp [modify, h]

lemma Always.mono (h : t.Always P) (hpq : ∀ a, P a → Q a) : t.Always Q :=
  ⟨hpq _ h.1, fun a ha => hpq a (h.2 a ha)⟩

lemma Always.start (h : t.Always P) : t.start.Always P := ⟨h.1, by simpa using h.1⟩

lemma Always.abort (h : t.Always P) : t.abort.Always P := ⟨h.1, by simp⟩

lemma Always.commit (h : t.Always P) : t.commit.Always P := by
  refine ⟨?_, by simp⟩
  cases hp : t.pending with
  | none => simpa [Store.commit, hp] using h.1
  | some a => simpa [Store.commit, hp] using h.2 a hp

lemma Always.modify (h : t.Always P) (hf : ∀ a, P a → P (f a)) : (t.modify f).Always P := by
  rw [Store.modify]
  split
  · next a ha => exact ⟨h.1, by simpa using hf a (h.2 a ha)⟩
  · next hn => exact ⟨hf _ h.1, by simp [hn]⟩

end Store

end VpnClient.Library.Transactions
