import VpnClient.Linux.AppTracker

/-! An escaped name of a desktop file is found again if and only if it is ASCII, since each escaped byte is taken for a
character. -/

namespace VpnClient.Linux.AppTracker

open Library

def hexChar (n : ℕ) : UInt16 := UInt16.ofNat (if n < 10 then 48 + n else 87 + n)

def escapeByte (b : UInt8) : QString := [92, 120, hexChar (b.toNat / 16), hexChar (b.toNat % 16)]

/-- ASCII letters and digits, the colon, the underscore and the dot. -/
def plain (b : UInt8) : Bool :=
  let n := b.toNat
  (48 ≤ n && n ≤ 58) || (65 ≤ n && n ≤ 90) || n == 95 || (97 ≤ n && n ≤ 122) || n == 46

def piece (b : UInt8) : QString := if plain b then [b.toUInt16] else escapeByte b

/-- The escaping of systemd for the names of units, where a leading dot is escaped, too. -/
def escapeName : List UInt8 → QString
  | [] => []
  | b :: bs => (if b = 46 then escapeByte b else piece b) ++ bs.flatMap piece

def unitNameEscape (s : String) : QString := escapeName (Utf16.bytes s.toList)

def scopeName (launcher s : String) (pid : ℕ) : QString :=
  text ("app-" ++ launcher ++ "-") ++ unitNameEscape s ++ text ("-" ++ toString pid ++ ".scope")

variable {result done rest : QString} {offset : ℕ} {code : UInt16} {b : UInt8} {bs : List UInt8}

lemma decodeFrom_of_none (hf : firstEscape (result.drop offset) = none) : decodeFrom result offset = result := by
  rw [decodeFrom]
  split_ifs
  · split
    · rfl
    · next found h => cases hf.symm.trans h
  · rfl

lemma decodeFrom_of_some {found : ℕ × UInt16} (hf : firstEscape (result.drop offset) = some found) :
    decodeFrom result offset =
      if found.2 ≠ 0 then
        decodeFrom (result.take (offset + found.1) ++ found.2 :: result.drop (offset + found.1 + 4))
          (offset + found.1 + 1)
      else decodeFrom result (offset + found.1 + 4) := by
  have ho : offset < result.length := by
    have hl := add_four_le_of_firstEscape hf
    rw [List.length_drop] at hl
    omega
  rw [decodeFrom, if_pos ho]
  split
  · next h => cases hf.symm.trans h
  · next other h =>
    obtain rfl := Option.some.inj (hf.symm.trans h)
    rfl

/-- The loop goes on behind a code unit that does not start an escape sequence. -/
lemma decodeFrom_skip (ho : offset < result.length) (he : escapeAt (result.drop offset) = none) :
    decodeFrom result offset = decodeFrom result (offset + 1) := by
  have hf : firstEscape (result.drop offset) =
      (firstEscape (result.drop (offset + 1))).map fun found => (found.1 + 1, found.2) := by
    rw [List.drop_eq_getElem_cons ho] at he ⊢
    rw [firstEscape, he]
  cases hr : firstEscape (result.drop (offset + 1)) with
  | none =>
    rw [hr] at hf
    rw [decodeFrom_of_none hf, decodeFrom_of_none hr]
  | some found =>
    rw [hr] at hf
    rw [decodeFrom_of_some hf, decodeFrom_of_some hr]
    simp only [show offset + (found.1 + 1) = offset + 1 + found.1 by omega]

/-- The loop replaces an escape sequence and goes on behind it. -/
lemma decodeFrom_hit (he : escapeAt (result.drop offset) = some code) (hc : code ≠ 0) :
    decodeFrom result offset = decodeFrom (result.take offset ++ code :: result.drop (offset + 4)) (offset + 1) := by
  have hf : firstEscape (result.drop offset) = some (0, code) := by
    cases hd : result.drop offset with
    | nil =>
      rw [hd] at he
      cases he
    | cons c rest =>
      rw [hd] at he
      rw [firstEscape, he]
  rw [decodeFrom_of_some hf, if_pos hc]
  rfl

lemma hexValue_hexChar {n : ℕ} (hn : n < 16) : hexValue (hexChar n) = some n := by
  interval_cases n <;> rfl

lemma escapeAt_escapeByte (b : UInt8) (rest : QString) : escapeAt (escapeByte b ++ rest) = some b.toUInt16 := by
  have hb := b.toNat_lt
  change ((hexValue (hexChar (b.toNat / 16))).bind fun high =>
    (hexValue (hexChar (b.toNat % 16))).map fun low => UInt16.ofNat (16 * high + low)) = some b.toUInt16
  rw [hexValue_hexChar (by omega), hexValue_hexChar (by omega), Option.bind_some, Option.map_some]
  apply congrArg some
  rw [Nat.div_add_mod, ← UInt16.toNat_inj, UInt16.toNat_ofNat', UInt8.toNat_toUInt16]
  omega

lemma escapeAt_plain (hb : plain b) (rest : QString) : escapeAt (b.toUInt16 :: rest) = none := by
  have hn : b.toUInt16 ≠ 92 := by
    intro he
    have ht := congrArg UInt16.toNat he
    rw [UInt8.toNat_toUInt16] at ht
    simp [plain, ht] at hb
  rw [escapeAt.eq_def]
  split
  · next h => exact absurd (List.cons.inj h).1 hn
  · rfl

lemma toUInt16_ne_zero (hb : b ≠ 0) : b.toUInt16 ≠ 0 := by
  intro he
  apply hb
  have ht := congrArg UInt16.toNat he
  rw [UInt8.toNat_toUInt16] at ht
  exact UInt8.toNat_inj.mp ht

lemma decodeFrom_escapeByte (hb : b ≠ 0) (done rest : QString) :
    decodeFrom (done ++ (escapeByte b ++ rest)) done.length =
      decodeFrom (done ++ b.toUInt16 :: rest) (done.length + 1) := by
  have he : escapeAt ((done ++ (escapeByte b ++ rest)).drop done.length) = some b.toUInt16 := by
    rw [List.drop_left]
    exact escapeAt_escapeByte b rest
  rw [decodeFrom_hit he (toUInt16_ne_zero hb), List.take_left, ← List.drop_drop, List.drop_left]
  rfl

lemma decodeFrom_piece (hb : b ≠ 0) (done rest : QString) :
    decodeFrom (done ++ (piece b ++ rest)) done.length = decodeFrom (done ++ b.toUInt16 :: rest) (done.length + 1) := by
  rw [piece]
  split_ifs with hp
  · apply decodeFrom_skip
    · simp
    · rw [List.drop_left]
      exact escapeAt_plain hp rest
  · exact decodeFrom_escapeByte hb done rest

lemma decodeFrom_pieces (hb : 0 ∉ bs) (done : QString) :
    decodeFrom (done ++ bs.flatMap piece) done.length = done ++ Utf16.widen bs := by
  induction bs generalizing done with
  | nil =>
    apply decodeFrom_of_none
    simp [firstEscape]
  | cons b bs ih =>
    obtain ⟨h0, hbs⟩ := not_or.mp (mt List.mem_cons.mpr hb)
    have hi := ih hbs (done ++ [b.toUInt16])
    rw [List.append_assoc, List.length_append, List.length_singleton] at hi
    rw [List.flatMap_cons, decodeFrom_piece (Ne.symm h0)]
    refine hi.trans ?_
    rw [List.append_assoc]
    rfl

/-- What is decoded are the bytes, each as a code unit. -/
lemma decode_escapeName (hb : 0 ∉ bs) : decodeUnicodeEscape (escapeName bs) = Utf16.widen bs := by
  cases bs with
  | nil => exact decodeFrom_of_none rfl
  | cons b bs =>
    obtain ⟨h0, hbs⟩ := not_or.mp (mt List.mem_cons.mpr hb)
    have hp := decodeFrom_pieces hbs [b.toUInt16]
    have hf : decodeFrom ((if b = 46 then escapeByte b else piece b) ++ bs.flatMap piece) 0 =
        decodeFrom (b.toUInt16 :: bs.flatMap piece) 1 := by
      split_ifs
      · exact decodeFrom_escapeByte (Ne.symm h0) [] _
      · exact decodeFrom_piece (Ne.symm h0) [] _
    exact hf.trans hp

section Scopes

lemma notMem_hexChar {n : ℕ} (hn : n < 16) : hexChar n ≠ 45 := by
  interval_cases n <;> decide

lemma notMem_escapeByte (b : UInt8) : 45 ∉ escapeByte b := by
  have hb := b.toNat_lt
  simp only [escapeByte, List.mem_cons, List.not_mem_nil, or_false, not_or]
  exact ⟨by decide, by decide, (notMem_hexChar (by omega)).symm, (notMem_hexChar (by omega)).symm⟩

lemma notMem_piece (b : UInt8) : 45 ∉ piece b := by
  rw [piece]
  split_ifs with hp
  · intro hm
    have ht := congrArg UInt16.toNat (List.mem_singleton.mp hm)
    rw [UInt8.toNat_toUInt16] at ht
    simp [plain, ← ht] at hp
  · exact notMem_escapeByte b

lemma notMem_escapeName (bs : List UInt8) : 45 ∉ escapeName bs := by
  cases bs with
  | nil => exact List.not_mem_nil
  | cons b bs =>
    rw [escapeName, List.mem_append, List.mem_flatMap]
    rintro (hm | ⟨c, -, hm⟩)
    · split_ifs at hm
      · exact notMem_escapeByte b hm
      · exact notMem_piece b hm
    · exact notMem_piece c hm

lemma escapeName_ne_nil (hb : bs ≠ []) : escapeName bs ≠ [] := by
  cases bs with
  | nil => exact absurd rfl hb
  | cons b bs =>
    apply List.append_ne_nil_of_left_ne_nil
    split_ifs
    · exact List.cons_ne_nil _ _
    · rw [piece]
      split_ifs <;> exact List.cons_ne_nil _ _

lemma unitNameEscape_ne_nil {s : String} (hs : s ≠ "") : unitNameEscape s ≠ [] := by
  apply escapeName_ne_nil
  intro hb
  apply hs
  have hl : s.toList = [] := by
    cases hc : s.toList with
    | nil => rfl
    | cons c cs =>
      rw [hc, Utf16.bytes, List.flatMap_cons] at hb
      exact absurd (List.append_eq_nil_iff.mp hb).1 String.utf8EncodeChar_ne_nil
  exact String.toList_eq_nil_iff.mp hl

lemma text_append (s t : String) : text (s ++ t) = text s ++ text t := by
  simp [text, Utf16.units]

/-- The third field of the name of a scope is the escaped name. -/
lemma split_scopeName {launcher : QString} (hl : 45 ∉ launcher) (e more : QString) (he : 45 ∉ e) :
    (split 45 (text "app-" ++ launcher ++ text "-" ++ e ++ 45 :: more))[2]? = some e := by
  have hs : text "app-" ++ launcher ++ text "-" ++ e ++ 45 :: more =
      text "app" ++ 45 :: (launcher ++ 45 :: (e ++ 45 :: more)) := by
    rw [show text "app-" = text "app" ++ [45] by decide +kernel, show text "-" = [45] by decide +kernel]
    simp
  rw [split, hs, Lines.frame_line (by decide +kernel), Lines.frame_line hl, Lines.frame_line he]
  rfl

lemma findDesktopFileId_of_isPrefixOf {launcher s : String} {cgroup : QString} {pid : ℕ}
    (sourcePath : QString → QString) (hl : launcher = "gnome" ∨ launcher = "flatpak") (hs : s ≠ "")
    (hc : fileName cgroup = scopeName launcher s pid) :
    findDesktopFileId sourcePath cgroup = decodeUnicodeEscape (unitNameEscape s) ++ text ".desktop" := by
  have hn : scopeName launcher s pid = text "app-" ++ text launcher ++ text "-" ++ unitNameEscape s ++
      45 :: (text (toString pid) ++ text ".scope") := by
    rw [scopeName]
    simp only [text_append]
    rw [show text "-" = [45] by decide +kernel]
    simp
  have hr : (split 45 (scopeName launcher s pid))[2]?.getD [] = unitNameEscape s := by
    have hm : 45 ∉ unitNameEscape s := notMem_escapeName _
    have hd : 45 ∉ text launcher := by rcases hl with rfl | rfl <;> decide +kernel
    rw [hn, split_scopeName hd _ _ hm]
    rfl
  have hp : (text "app-gnome-").isPrefixOf (scopeName launcher s pid) ∨
      (text "app-flatpak-").isPrefixOf (scopeName launcher s pid) := by
    simp only [List.isPrefixOf_iff_prefix, scopeName, text_append, List.append_assoc]
    rcases hl with rfl | rfl
    · left
      rw [show text "app-gnome-" = text "app-" ++ (text "gnome" ++ text "-") by decide +kernel]
      simp
    · right
      rw [show text "app-flatpak-" = text "app-" ++ (text "flatpak" ++ text "-") by decide +kernel]
      simp
  have he : ¬ (unitNameEscape s).isEmpty := by
    rw [List.isEmpty_iff]
    exact unitNameEscape_ne_nil hs
  rw [findDesktopFileId]
  simp only [hc, hr]
  exact if_pos ⟨hp, he⟩

end Scopes

/-- An escaped name is decoded, and its desktop file found from a scope that is named by it, if and only if all its
characters are ASCII. -/
theorem decode_iff_ascii (sourcePath : QString → QString) (s : String) (hs : s ≠ "")
    (h0 : ∀ c ∈ s.toList, c.toNat ≠ 0) :
    (decodeUnicodeEscape (unitNameEscape s) = text s ∧
      ∀ launcher cgroup pid, launcher = "gnome" ∨ launcher = "flatpak" → fileName cgroup = scopeName launcher s pid →
        findDesktopFileId sourcePath cgroup = text (s ++ ".desktop")) ↔ ∀ c ∈ s.toList, c.toNat < 128 := by
  have hd : decodeUnicodeEscape (unitNameEscape s) = Utf16.widen (Utf16.bytes s.toList) :=
    decode_escapeName (Utf16.zero_notMem_bytes h0)
  rw [hd]
  constructor
  · rintro ⟨he, -⟩
    exact Utf16.widen_bytes_iff.mp he
  · intro ha
    have he : Utf16.widen (Utf16.bytes s.toList) = text s := Utf16.widen_bytes_iff.mpr ha
    refine ⟨he, ?_⟩
    intro launcher cgroup pid hl hc
    rw [findDesktopFileId_of_isPrefixOf sourcePath hl hs hc, hd, he, text_append]

theorem decode_escaped_backslash :
    (decodeUnicodeEscape (unitNameEscape "\\x41") = text "\\x41" ∧
      ∀ launcher cgroup pid, launcher = "gnome" ∨ launcher = "flatpak" →
        fileName cgroup = scopeName launcher "\\x41" pid →
          findDesktopFileId (fun _ => []) cgroup = text ("\\x41" ++ ".desktop")) ↔
      ∀ c ∈ "\\x41".toList, c.toNat < 128 := by
  have h0 : ("\\x41".toList.all fun c => c.toNat ≠ 0) = true := by decide +kernel
  exact decode_iff_ascii (fun _ => []) "\\x41" (by decide +kernel)
    fun c hc => of_decide_eq_true (List.all_eq_true.mp h0 c hc)

theorem not_decode_accent : ¬ decodeUnicodeEscape (unitNameEscape "é") = text "é" := by
  have h0 : 0 ∉ Utf16.bytes "é".toList := by decide +kernel
  rw [unitNameEscape, decode_escapeName h0]
  decide +kernel

end VpnClient.Linux.AppTracker
