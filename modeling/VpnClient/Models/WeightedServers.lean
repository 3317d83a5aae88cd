import VpnClient.Models.ServerCountryModel

/-! Servers are chosen by their weights, unless the number of tickets is a multiple of `2 ^ 32`. -/

namespace VpnClient.Models.WeightedServers

open Client.Server (weightLoop weightChooser)

variable (r : UInt32) (offset i : ℕ) (servers : List Client.Server)

def totalWeight : ℕ := (servers.map (·.weight.toNat)).sum

/-- The sum that `weightChooser` computes. -/
def weightSum : UInt32 := servers.foldl (fun sum server => sum + server.weight) 0

/-- The position where the loop stops. -/
def position : UInt32 → List Client.Server → ℕ
  | _, [] => 0
  | r, server :: servers => if server.weight ≥ r then 0 else position (r - server.weight) servers + 1

def shares (i : ℕ) : ℕ :=
  (List.range (totalWeight servers + 1)).countP fun r => position (.ofNat r) servers = i

/-- The servers are chosen by their weights, without a division by zero. -/
structure Chooses : Prop where
  divides : weightSum servers + 1 ≠ 0
  chosen (generate : UInt32) :
    servers[position (generate % (weightSum servers + 1)) servers]? = some (weightChooser generate servers)
  shares_eq : totalWeight servers < 2 ^ 32 - 1 → ∀ (i : ℕ) (server : Client.Server),
    servers[i]? = some server → shares servers i = server.weight.toNat + if i = 0 then 1 else 0

/-- The positions of the residues from one on. -/
def tickets : ℕ → List Client.Server → List ℕ
  | _, [] => []
  | offset, server :: servers => List.replicate server.weight.toNat offset ++ tickets (offset + 1) servers

lemma toNat_foldl (sum : UInt32) :
    (servers.foldl (fun sum server => sum + server.weight) sum).toNat =
      (sum.toNat + totalWeight servers) % 2 ^ 32 := by
  induction servers generalizing sum with
  | nil => simp [totalWeight, Nat.mod_eq_of_lt sum.toNat_lt]
  | cons server servers ih =>
    rw [List.foldl_cons, ih, UInt32.toNat_add, Nat.mod_add_mod, Nat.add_assoc]
    rfl

lemma toNat_weightSum : (weightSum servers).toNat = totalWeight servers % 2 ^ 32 := by
  simp [weightSum, toNat_foldl]

lemma divisor_eq_zero_iff : weightSum servers + 1 = 0 ↔ totalWeight servers % 2 ^ 32 = 2 ^ 32 - 1 := by
  rw [← UInt32.toNat_inj, UInt32.toNat_add, toNat_weightSum]
  simp only [UInt32.toNat_one, UInt32.toNat_zero]
  omega

lemma toNat_residue (h : weightSum servers + 1 ≠ 0) (generate : UInt32) :
    (generate % (weightSum servers + 1)).toNat ≤ totalWeight servers := by
  have hd := (divisor_eq_zero_iff servers).not.mp h
  have hr := Nat.mod_lt generate.toNat (Nat.pos_of_ne_zero (UInt32.toNat_inj.not.mpr h))
  rw [UInt32.toNat_mod]
  rw [UInt32.toNat_add, toNat_weightSum] at hr ⊢
  simp only [UInt32.toNat_one] at hr ⊢
  omega

lemma weightLoop_eq : weightLoop r servers = (servers[position r servers]?).getD {} := by
  induction servers generalizing r with
  | nil => rfl
  | cons server servers ih =>
    rw [weightLoop, position]
    split
    case isTrue => rfl
    case isFalse => rw [ih, List.getElem?_cons_succ]

lemma length_tickets : (tickets offset servers).length = totalWeight servers := by
  induction servers generalizing offset with
  | nil => rfl
  | cons server servers ih => simp [tickets, ih, totalWeight]

lemma count_tickets :
    (tickets offset servers).count i =
      if offset ≤ i then ((servers[i - offset]?).map (·.weight.toNat)).getD 0 else 0 := by
  induction servers generalizing offset with
  | nil => simp [tickets]
  | cons server servers ih =>
    rw [tickets, List.count_append, List.count_replicate, ih]
    obtain hi | rfl | hi := lt_trichotomy i offset
    · rw [if_neg (by simpa using hi.ne'), if_neg (by omega), if_neg (by omega)]
    · simp
    · obtain ⟨k, rfl⟩ : ∃ k, i = offset + 1 + k := ⟨i - (offset + 1), by omega⟩
      rw [if_neg (by simp; omega), if_pos (by omega), if_pos (by omega), Nat.zero_add, Nat.add_sub_cancel_left,
        show offset + 1 + k - offset = k + 1 by omega, List.getElem?_cons_succ]

/-- A residue that the weights can pay is a ticket of the server where the loop stops. -/
lemma tickets_position (h₀ : r ≠ 0) (hr : r.toNat ≤ totalWeight servers) :
    (tickets offset servers)[r.toNat - 1]? = some (offset + position r servers) := by
  have hp : r.toNat ≠ 0 := UInt32.toNat_inj.not.mpr h₀
  induction servers generalizing r offset with
  | nil => exact absurd (Nat.le_zero.mp hr) hp
  | cons server servers ih =>
    have hs : totalWeight (server :: servers) = server.weight.toNat + totalWeight servers := rfl
    rw [tickets, position, List.getElem?_append, List.length_replicate]
    split
    case isTrue hw => rw [if_pos (UInt32.le_iff_toNat_le.mpr (by omega)), List.getElem?_replicate, if_pos hw]; rfl
    case isFalse hw =>
      have hle : server.weight ≤ r := UInt32.le_iff_toNat_le.mpr (by omega)
      have hn : ¬server.weight ≥ r := fun hg => hw (by have := UInt32.le_iff_toNat_le.mp hg; omega)
      have hd : (r - server.weight).toNat = r.toNat - server.weight.toNat := UInt32.toNat_sub_of_le _ _ hle
      have hlt : ¬r.toNat ≤ server.weight.toNat := fun hg => hn (UInt32.le_iff_toNat_le.mpr hg)
      have hz : (r - server.weight).toNat ≠ 0 := by omega
      have := ih (r - server.weight) (offset + 1) (by rintro h; rw [h] at hz; exact hz rfl) (by omega) hz
      rw [hd] at this
      rw [if_neg hn, Nat.sub_right_comm, this, Nat.add_right_comm, Nat.add_assoc]

lemma position_lt (h : servers ≠ []) (hr : r.toNat ≤ totalWeight servers) :
    position r servers < servers.length := by
  induction servers generalizing r with
  | nil => exact absurd rfl h
  | cons server servers ih =>
    rw [position]
    split
    case isTrue => exact Nat.succ_pos _
    case isFalse hw =>
      have hlt : server.weight.toNat < r.toNat := Nat.lt_of_not_le fun hg => hw (UInt32.le_iff_toNat_le.mpr hg)
      have hs : totalWeight (server :: servers) = server.weight.toNat + totalWeight servers := rfl
      have hd := UInt32.toNat_sub_of_le _ _ (UInt32.le_iff_toNat_le.mpr hlt.le)
      have hne : servers ≠ [] := by
        rintro rfl
        exact absurd (hr.trans_eq hs) (by simpa [totalWeight] using hlt)
      exact Nat.succ_lt_succ (ih _ hne (by omega))

lemma map_position (hs : servers ≠ []) (h : totalWeight servers < 2 ^ 32 - 1) :
    (List.range (totalWeight servers + 1)).map (fun r => position (.ofNat r) servers) = 0 :: tickets 0 servers := by
  obtain ⟨server, servers, rfl⟩ := List.exists_cons_of_ne_nil hs
  apply List.ext_getElem?
  intro r
  rw [List.getElem?_map]
  cases r with
  | zero => simp [position]
  | succ r =>
    rw [List.getElem?_cons_succ]
    by_cases hr : r < totalWeight (server :: servers)
    case neg =>
      rw [List.getElem?_eq_none (by simpa using hr), List.getElem?_eq_none (by simpa [length_tickets] using hr)]
      rfl
    case pos =>
      have hn : (UInt32.ofNat (r + 1)).toNat = r + 1 := UInt32.toNat_ofNat_of_lt' (by simp only [UInt32.size]; omega)
      have := tickets_position (.ofNat (r + 1)) 0 (server :: servers)
        (by rw [← UInt32.toNat_inj.ne, hn]; simp) (by omega)
      rw [hn, Nat.add_sub_cancel, Nat.zero_add] at this
      rw [List.getElem?_range (by omega), this]
      rfl

lemma shares_tickets (hs : servers ≠ []) (h : totalWeight servers < 2 ^ 32 - 1) :
    shares servers i = (0 :: tickets 0 servers).count i := by
  rw [← map_position servers hs h, List.count, List.countP_map, shares]
  congr 1

lemma chooses_of_divides (hs : servers ≠ []) (h : weightSum servers + 1 ≠ 0) : Chooses servers where
  divides := h
  chosen generate := by
    have hlt := position_lt _ servers hs (toNat_residue servers h generate)
    rw [weightChooser, if_neg hs, ← weightSum, weightLoop_eq, List.getElem?_eq_getElem hlt]
    rfl
  shares_eq hw i server hi := by
    rw [shares_tickets i servers hs hw, List.count_cons, count_tickets, if_pos (Nat.zero_le i), Nat.sub_zero, hi]
    simp only [Option.map_some, Option.getD_some, beq_iff_eq, @eq_comm _ 0 i]

theorem chooses_iff_sum (servers : List Client.Server) (hs : servers ≠ []) :
    Chooses servers ↔ (servers.map (·.weight.toNat)).sum % 2 ^ 32 ≠ 2 ^ 32 - 1 := by
  rw [← totalWeight, ne_eq, ← divisor_eq_zero_iff]
  constructor
  case mp => exact Chooses.divides
  case mpr => exact chooses_of_divides servers hs

theorem chooses_three_servers : Chooses [{ weight := 5 }, { weight := 0 }, { weight := 7 }] :=
  (chooses_iff_sum [{ weight := 5 }, { weight := 0 }, { weight := 7 }] (by decide)).mpr (by decide +kernel)

/-- A server with the weight minus one, as a document can list it. -/
def negativeWeight : Ipc.JsonObject :=
  [("hostname", .string "host"), ("ipv4_addr_in", .string "a"), ("ipv4_gateway", .string "b"),
    ("public_key", .string "key"), ("weight", .double (-1)), ("port_ranges", .array [])]

theorem not_chooses_negative_weight :
    ∃ server ∈ Server.fromJson "cc" "City" negativeWeight, ¬Chooses [server.toServer] := by
  refine ⟨_, rfl, fun h => h.divides ?_⟩
  decide +kernel

end VpnClient.Models.WeightedServers
