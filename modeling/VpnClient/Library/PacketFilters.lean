import Mathlib.Tactic

/-! The packet filters that a socket runs on each packet: an accumulator, an index register and forward jumps. -/

namespace VpnClient.Library.PacketFilters

/-- Jumps skip a number of instructions; `ret` keeps that many bytes of the packet, and none rejects it. -/
inductive Instruction where
  | ldInd (size k : ℕ)
  | ldxMsh (k : ℕ)
  | jeq (k jt jf : ℕ)
  | ret (k : ℕ)
  deriving DecidableEq

structure Registers where
  a : ℕ := 0
  x : ℕ := 0
  deriving DecidableEq

/-- The bytes of a packet are loaded as a number, the first one highest. -/
def load (size offset : ℕ) (packet : List UInt8) : Option ℕ :=
  if offset + size ≤ packet.length then
    some (((packet.drop offset).take size).foldl (fun value byte => value * 256 + byte.toNat) 0)
  else none

/-- A load from behind the end of the packet rejects it. -/
def run (packet : List UInt8) : List Instruction → ℕ → Registers → ℕ
  | [], _, _ => 0
  | _ :: program, skip + 1, r => run packet program skip r
  | .ldInd size k :: program, 0, r =>
    match load size (r.x + k) packet with
    | some value => run packet program 0 { r with a := value }
    | none => 0
  | .ldxMsh k :: program, 0, r =>
    match load 1 k packet with
    | some value => run packet program 0 { r with x := 4 * (value % 16) }
    | none => 0
  | .jeq k jt jf :: program, 0, r => run packet program (if r.a = k then jt else jf) r
  | .ret k :: _, 0, _ => k

def Passes (program : List Instruction) (packet : List UInt8) : Prop := run packet program 0 {} ≠ 0

instance (program : List Instruction) (packet : List UInt8) : Decidable (Passes program packet) :=
  inferInstanceAs (Decidable (_ ≠ _))

section Steps

variable {packet : List UInt8} {program : List Instruction} {r : Registers} {size k jt jf skip : ℕ} {i : Instruction}

@[simp] lemma run_skip : run packet (i :: program) (skip + 1) r = run packet program skip r := rfl

@[simp] lemma run_ret : run packet (.ret k :: program) 0 r = k := rfl

lemma run_jeq : run packet (.jeq k jt jf :: program) 0 r = run packet program (if r.a = k then jt else jf) r := rfl

lemma run_ldInd_ne_zero : run packet (.ldInd size k :: program) 0 r ≠ 0 ↔
    ∃ value, load size (r.x + k) packet = some value ∧ run packet program 0 { r with a := value } ≠ 0 := by
  rw [run]
  cases load size (r.x + k) packet with
  | none => simp
  | some value => simp

lemma run_ldxMsh_ne_zero : run packet (.ldxMsh k :: program) 0 r ≠ 0 ↔
    ∃ value, load 1 k packet = some value ∧ run packet program 0 { r with x := 4 * (value % 16) } ≠ 0 := by
  rw [run]
  cases load 1 k packet with
  | none => simp
  | some value => simp

lemma load_one (offset : ℕ) (packet : List UInt8) : load 1 offset packet = packet[offset]?.map UInt8.toNat := by
  rw [load]
  rcases Nat.lt_or_ge offset packet.length with hl | hl
  · rw [if_pos (by omega), List.drop_eq_getElem_cons hl, List.getElem?_eq_getElem hl]
    simp only [List.take_succ_cons, List.take_zero, List.foldl_cons, List.foldl_nil, Nat.zero_mul, Nat.zero_add,
      Option.map_some]
  · rw [if_neg (by omega), List.getElem?_eq_none hl, Option.map_none]

lemma load_two_eq_some {offset value : ℕ} : load 2 offset packet = some value ↔
    ∃ hi lo rest, packet.drop offset = hi :: lo :: rest ∧ hi.toNat * 256 + lo.toNat = value := by
  rw [load]
  constructor
  · intro h
    split at h
    case isTrue hl =>
      have h₀ : offset < packet.length := by omega
      have h₁ : offset + 1 < packet.length := by omega
      refine ⟨packet[offset], packet[offset + 1], packet.drop (offset + 1 + 1), ?_, ?_⟩
      · rw [List.drop_eq_getElem_cons h₀, List.drop_eq_getElem_cons h₁]
      · rw [List.drop_eq_getElem_cons h₀, List.drop_eq_getElem_cons h₁] at h
        simpa only [List.take_succ_cons, List.take_zero, List.foldl_cons, List.foldl_nil, Nat.zero_mul, Nat.zero_add,
          Option.some.injEq] using h
    case isFalse => cases h
  · rintro ⟨hi, lo, rest, hd, rfl⟩
    have hl := congrArg List.length hd
    simp only [List.length_drop, List.length_cons] at hl
    rw [if_pos (by omega), hd]
    simp only [List.take_succ_cons, List.take_zero, List.foldl_cons, List.foldl_nil, Nat.zero_mul, Nat.zero_add]

/-- A comparison in front of a rejection passes on the packets that are equal. -/
lemma run_guard_ne_zero : run packet (.jeq k 1 0 :: .ret 0 :: program) 0 r ≠ 0 ↔
    r.a = k ∧ run packet program 0 r ≠ 0 := by
  rw [run_jeq]
  split
  case isTrue h => simp [h]
  case isFalse h => simp [h]

end Steps

end VpnClient.Library.PacketFilters
