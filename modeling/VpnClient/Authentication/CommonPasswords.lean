import VpnClient.Library.Lines
import VpnClient.Library.FrontCoding

/-! The decoder of the list of common passwords, and the check that uses it. -/

namespace VpnClient.Authentication

open Library

/-- A UTF-16 code unit. -/
abbrev QChar := UInt16

abbrev QString := List QChar

def lineFeed : QChar := 10

def carriageReturn : QChar := 13

namespace QTextStream

/-- A line ends with a line feed, or a carriage return and a line feed. -/
def chomp (line : QString) : QString := if line.getLast? = some carriageReturn then line.dropLast else line

/-- What `readLine` returns until the stream is at its end. -/
def readLines (stream : QString) : List QString :=
  let frame := Lines.frame lineFeed [] stream
  (frame.1 ++ if frame.2 = [] then [] else [frame.2]).map chomp

end QTextStream

namespace IncrementalDecoder

def RADIX : ℕ := 36

/-- The value of a letter of either case as a digit. -/
def toInt (ch : QChar) (radix : ℕ) : Option ℕ :=
  let n := ch.toNat
  let digit := if 48 ≤ n ∧ n ≤ 57 then some (n - 48)
    else if 97 ≤ n ∧ n ≤ 122 then some (n - 87)
    else if 65 ≤ n ∧ n ≤ 90 then some (n - 55)
    else none
  digit.filter (· < radix)

inductive Result where
  | DecodeFailure
  | MatchFound
  | MatchNotFound
  deriving DecidableEq

/-- The loop over the lines, from the `index`-th one on. -/
def matchLines (input : QString) (index : UInt32) (prev : QString) : List QString → Result
  | [] => .MatchNotFound
  | [] :: _ => .DecodeFailure
  | (ch :: rest) :: lines =>
    match toInt ch RADIX with
    | none => .DecodeFailure
    | some numShared =>
      if index = 0 ∧ numShared ≠ 0 then .DecodeFailure
      else
        let decoded := if numShared ≠ 0 then prev.take numShared ++ rest else rest
        if decoded = input then .MatchFound else matchLines input (index + 1) decoded lines

def matchStream (stream : QString) (input : QString) : Result :=
  matchLines input 0 [] (QTextStream.readLines stream)

end IncrementalDecoder

namespace AuthenticationInApp

def PASSWORD_MIN_LENGTH : ℕ := 8

def validatePasswordLength (password : QString) : Bool := password.length ≥ PASSWORD_MIN_LENGTH

/-- Whether the password is fine, and the list of encoded passwords that is kept; `file` is what can be read of the
resource. -/
def validatePasswordCommons (file : Option QString) (encodedPassword password : QString) : Bool × QString :=
  if ¬ validatePasswordLength password then (true, encodedPassword)
  else
    match if encodedPassword.isEmpty then file else some encodedPassword with
    | none => (true, encodedPassword)
    | some encodedPassword =>
      match IncrementalDecoder.matchStream encodedPassword password with
      | .MatchNotFound => (true, encodedPassword)
      | .MatchFound => (false, encodedPassword)
      | .DecodeFailure => (true, encodedPassword)

end AuthenticationInApp

end VpnClient.Authentication

/-! A password is found in the list of common passwords if it is one of them, as long as the decoder does not take a
later line for the first one. -/

namespace VpnClient.Authentication.IncrementalDecoder

open Library Library.FrontCoding QTextStream

/-- A line is written with one digit for the number of shared letters. -/
def Code (code : ℕ × QString) (line : QString) : Prop := ∃ ch, line = ch :: code.2 ∧ toInt ch RADIX = some code.1

def NoLineBreak (word : QString) : Prop := lineFeed ∉ word ∧ word.getLast? ≠ some carriageReturn

/-- The lines end with line feeds, or are separated by them. -/
def Written (lines : List QString) (stream : QString) : Prop :=
  stream = lines.flatMap (· ++ [lineFeed]) ∨
    stream = (lines.dropLast.flatMap (· ++ [lineFeed])) ++ lines.getLast?.getD []

def First (codes : List (ℕ × QString)) : Prop := ∀ code, codes.head? = some code → code.1 = 0

def Malformed (good : List QString) (bad : QString) : Prop :=
  bad = [] ∨ ∃ ch rest, bad = ch :: rest ∧ (toInt ch RADIX = none ∨ good = [] ∧ toInt ch RADIX ≠ some 0)

/-- The counter of lines is zero again at a line that shares letters. -/
def Wraps (i : ℕ) (code : ℕ × QString) : Prop := 2 ^ 32 ∣ i ∧ code.1 ≠ 0

instance (i : ℕ) (code : ℕ × QString) : Decidable (Wraps i code) := inferInstanceAs (Decidable (_ ∧ _))

/-- Where the counter of lines wraps around, the line shares no letters or the input has been found. -/
def Unwrapped (input : QString) (codes : List (ℕ × QString)) : Prop :=
  ∀ k code, codes[k + 1]? = some code → 2 ^ 32 ∣ k + 1 → code.1 ≠ 0 → input ∈ (decode [] codes).take (k + 1)

variable {input prev line stream word : QString} {code : ℕ × QString} {codes : List (ℕ × QString)}
  {good more lines words : List QString} {i : ℕ}

lemma ofNat_eq_zero_iff : UInt32.ofNat i = 0 ↔ 2 ^ 32 ∣ i := by
  rw [← UInt32.toNat_inj, UInt32.toNat_ofNat', UInt32.toNat_zero, Nat.dvd_iff_mod_eq_zero]

lemma matchLines_code (hc : Code code line) : matchLines input (UInt32.ofNat i) prev (line :: lines) =
    if Wraps i code then .DecodeFailure
    else if FrontCoding.word prev code = input then .MatchFound
    else matchLines input (UInt32.ofNat (i + 1)) (FrontCoding.word prev code) lines := by
  obtain ⟨ch, rfl, hd⟩ := hc
  have hw : (if code.1 ≠ 0 then prev.take code.1 ++ code.2 else code.2) = FrontCoding.word prev code := by
    split_ifs with hn
    · rfl
    · rw [FrontCoding.word, not_not.mp hn]
      rfl
  rw [matchLines, hd]
  simp only [ofNat_eq_zero_iff, hw, UInt32.ofNat_add]
  rfl

variable (more) in
lemma matchLines_of_passes (hc : List.Forall₂ Code codes good) (hp : Passes Wraps input i prev codes) :
    matchLines input (UInt32.ofNat i) prev (good ++ more) =
      if input ∈ decode prev codes then .MatchFound
      else matchLines input (UInt32.ofNat (i + codes.length)) ((decode prev codes).getLastD prev) more := by
  induction hc generalizing i prev with
  | nil => rfl
  | @cons code line codes good hc _ ih =>
    obtain ⟨hw, hp⟩ := passes_cons.mp hp
    rw [List.cons_append, matchLines_code hc, if_neg hw, decode, List.getLastD_cons, List.length_cons]
    by_cases he : FrontCoding.word prev code = input
    · rw [if_pos he, if_pos (he ▸ List.mem_cons_self)]
    · rw [if_neg he, ih (hp.resolve_left (Ne.symm he)), Nat.add_assoc, Nat.add_comm 1]
      simp [Ne.symm he]

variable (more) in
lemma matchLines_of_not_passes (hc : List.Forall₂ Code codes good) (hp : ¬ Passes Wraps input i prev codes) :
    matchLines input (UInt32.ofNat i) prev (good ++ more) = .DecodeFailure := by
  induction hc generalizing i prev with
  | nil => exact absurd passes_nil hp
  | @cons code line codes good hc _ ih =>
    rw [List.cons_append, matchLines_code hc]
    split_ifs with hw he
    · rfl
    · exact absurd (passes_cons.mpr ⟨hw, Or.inl he.symm⟩) hp
    · exact ih fun h => hp (passes_cons.mpr ⟨hw, Or.inr h⟩)

lemma passes_iff (hf : First codes) : Passes Wraps input 0 [] codes ↔ Unwrapped input codes := by
  constructor
  case mp =>
    intro h k code hk hd hn
    exact h (k + 1) code hk ⟨by rwa [Nat.zero_add], hn⟩
  case mpr =>
    intro h k code hk hb
    rw [Nat.zero_add] at hb
    cases k with
    | zero => exact absurd (hf code (by rw [List.head?_eq_getElem?, hk])) hb.2
    | succ k => exact h k code hk hb.1 hb.2

lemma first_encode : First (encode 35 [] words) := by
  intro code hc
  cases words with
  | nil => simp [encode] at hc
  | cons w words =>
    obtain rfl := Option.some.inj hc
    rfl

lemma matchLines_malformed {bad : QString} (hl : codes.length = good.length) (hm : Malformed good bad) :
    matchLines input (UInt32.ofNat (0 + codes.length)) prev (bad :: more) = .DecodeFailure := by
  rcases hm with rfl | ⟨ch, rest, rfl, hd | ⟨rfl, hd⟩⟩
  · rfl
  · rw [matchLines, hd]
  · rw [hl, matchLines]
    cases hn : toInt ch RADIX with
    | none => rfl
    | some n =>
      have hz : n ≠ 0 := fun hz => hd (hz ▸ hn)
      exact if_pos ⟨rfl, hz⟩

lemma ne_of_toInt {ch : QChar} {n : ℕ} (h : toInt ch RADIX = some n) : ch ≠ lineFeed ∧ ch ≠ carriageReturn := by
  constructor <;> rintro rfl <;> revert h <;> decide +revert

/-- A line that is read as it is written. -/
def Line (line : QString) : Prop := lineFeed ∉ line ∧ chomp line = line ∧ line ≠ []

lemma line_of_code (hc : Code code line) (hr : NoLineBreak code.2) : Line line := by
  obtain ⟨ch, rfl, hd⟩ := hc
  obtain ⟨hl, hn⟩ := ne_of_toInt hd
  refine ⟨by simp [hl.symm, hr.1], if_neg ?_, List.cons_ne_nil _ _⟩
  cases hs : code.2 with
  | nil => simpa using hn
  | cons a rest =>
    rw [List.getLast?_cons_cons, ← hs]
    exact hr.2

lemma noLineBreak_drop {n : ℕ} (h : NoLineBreak word) : NoLineBreak (word.drop n) := by
  constructor
  · exact fun hm => h.1 (List.mem_of_mem_drop hm)
  · intro hl
    rw [List.getLast?_drop] at hl
    split_ifs at hl
    exact h.2 hl

lemma noLineBreak_encode (hw : ∀ word ∈ words, NoLineBreak word) :
    ∀ code ∈ encode 35 prev words, NoLineBreak code.2 := by
  induction words generalizing prev with
  | nil => simp [encode]
  | cons w words ih =>
    obtain ⟨hw, hws⟩ := List.forall_mem_cons.mp hw
    exact List.forall_mem_cons.mpr ⟨noLineBreak_drop hw, ih hws⟩

lemma lines_of_codes (hc : List.Forall₂ Code codes lines) (hr : ∀ code ∈ codes, NoLineBreak code.2) :
    ∀ line ∈ lines, Line line := by
  induction hc with
  | nil => simp
  | cons hc _ ih =>
    obtain ⟨hr, hrs⟩ := List.forall_mem_cons.mp hr
    exact List.forall_mem_cons.mpr ⟨line_of_code hc hr, ih hrs⟩

lemma map_chomp (hl : ∀ line ∈ lines, Line line) : lines.map chomp = lines :=
  (List.map_congr_left fun line hm => (hl line hm).2.1).trans (List.map_id lines)

lemma readLines_written (hl : ∀ line ∈ lines, Line line) (hw : Written lines stream) : readLines stream = lines := by
  have hf : ∀ line ∈ lines, lineFeed ∉ line := fun line hm => (hl line hm).1
  rcases hw with rfl | rfl
  · have hj := Lines.frame_join hf (List.not_mem_nil (a := lineFeed))
    rw [List.append_nil] at hj
    simpa [readLines, hj] using map_chomp hl
  · rcases List.eq_nil_or_concat' lines with rfl | ⟨lines, line, rfl⟩
    · rfl
    · obtain ⟨hfs, hfl⟩ := List.forall_mem_append.mp hf
      have hn : line ≠ [] := (hl line (by simp)).2.2
      have hj := Lines.frame_join hfs (hfl line (by simp))
      simpa [readLines, hj, hn] using map_chomp hl

lemma matchStream_of_unwrapped (hw : ∀ word ∈ words, NoLineBreak word)
    (hc : List.Forall₂ Code (encode 35 [] words) lines) (hs : Written lines stream)
    (hu : Unwrapped input (encode 35 [] words)) :
    matchStream stream input = if input ∈ words then .MatchFound else .MatchNotFound := by
  have hl := readLines_written (lines_of_codes hc (noLineBreak_encode hw)) hs
  have hm := matchLines_of_passes [] hc ((passes_iff first_encode).mpr hu)
  rw [decode_encode] at hm
  rw [matchStream, hl, ← List.append_nil lines]
  exact hm

/-- A stream of encoded words is searched rightly, and a malformed line is refused unless the input is among the words
before it, if and only if the counter of lines does not wrap around at a line that counts and shares letters. -/
theorem matchStream_iff_unwrapped (input stream : QString) :
    (∀ words lines, (∀ word ∈ words, NoLineBreak word) → List.Forall₂ Code (encode 35 [] words) lines →
      Written lines stream →
        (matchStream stream input = (if input ∈ words then .MatchFound else .MatchNotFound) ↔
          Unwrapped input (encode 35 [] words))) ∧
    (∀ codes good bad more, readLines stream = good ++ bad :: more → List.Forall₂ Code codes good → First codes →
      Malformed good bad →
        (matchStream stream input = (if input ∈ decode [] codes then .MatchFound else .DecodeFailure) ↔
          Unwrapped input codes ∨ input ∉ decode [] codes)) := by
  constructor
  · intro words lines hw hc hs
    apply Iff.intro _ (matchStream_of_unwrapped hw hc hs)
    intro hm
    by_contra hu
    have hl := readLines_written (lines_of_codes hc (noLineBreak_encode hw)) hs
    have hf := matchLines_of_not_passes [] hc fun hp => hu ((passes_iff first_encode).mp hp)
    rw [matchStream, hl, ← List.append_nil lines] at hm
    have he := hf.symm.trans hm
    split_ifs at he
  · intro codes good bad more hl hc hf hb
    rw [← passes_iff hf, matchStream, hl]
    by_cases hp : Passes Wraps input 0 [] codes
    · have hm := matchLines_of_passes (bad :: more) hc hp
      rw [matchLines_malformed hc.length_eq hb] at hm
      exact iff_of_true hm (Or.inl hp)
    · have hm := matchLines_of_not_passes (bad :: more) hc hp
      rw [show (0 : UInt32) = UInt32.ofNat 0 from rfl, hm]
      simp [hp]

theorem matchStream_ac : matchStream [48, 97, 98, 10, 49, 99, 10] [97, 99] = .MatchFound :=
  ((matchStream_iff_unwrapped [97, 99] [48, 97, 98, 10, 49, 99, 10]).1 [[97, 98], [97, 99]] [[48, 97, 98], [49, 99]]
    (List.forall_mem_cons.mpr ⟨⟨by decide, by decide⟩, List.forall_mem_singleton.mpr ⟨by decide, by decide⟩⟩)
    (.cons ⟨48, rfl, rfl⟩ (.cons ⟨49, rfl, rfl⟩ .nil)) (Or.inl rfl)).mpr (by
      intro k code hk hd
      have hlt := (List.getElem?_eq_some_iff.mp hk).1
      change k + 1 < 2 at hlt
      omega)

lemma encode_replicate (n : ℕ) : encode 35 [97] (List.replicate n ([97] : QString)) = List.replicate n (1, []) := by
  induction n with
  | zero => rfl
  | succ n ih =>
    rw [List.replicate_succ, encode, ih, List.replicate_succ]
    rfl

lemma codes_replicate (n : ℕ) : encode 35 [] (List.replicate (n + 1) ([97] : QString)) =
    (0, [97]) :: List.replicate n (1, []) := by
  rw [List.replicate_succ, encode, encode_replicate]
  rfl

/-- The lines for many words of one letter. -/
def repeatedLines (n : ℕ) : List QString := [48, 97] :: List.replicate n [49]

lemma code_repeatedLines (n : ℕ) :
    List.Forall₂ Code (encode 35 [] (List.replicate (n + 1) [97])) (repeatedLines n) := by
  rw [codes_replicate, repeatedLines]
  refine List.Forall₂.cons ⟨48, rfl, rfl⟩ ?_
  induction n with
  | zero => exact List.Forall₂.nil
  | succ n ih => exact List.Forall₂.cons ⟨49, rfl, rfl⟩ ih

lemma notMem_repeated (n : ℕ) : [98] ∉ List.replicate n ([97] : QString) := by
  intro h
  cases List.eq_of_mem_replicate h

lemma not_passes_repeated {n : ℕ} (hn : 2 ^ 32 ∣ n) (h0 : n ≠ 0) :
    ¬ Passes Wraps [98] 0 [] (encode 35 [] (List.replicate (n + 1) [97])) := by
  obtain ⟨n, rfl⟩ := Nat.exists_eq_succ_of_ne_zero h0
  rw [passes_iff first_encode]
  intro h
  have hk : (encode 35 [] (List.replicate (n + 1 + 1) ([97] : QString)))[n + 1]? = some (1, []) := by
    rw [codes_replicate, List.getElem?_cons_succ, List.getElem?_replicate_of_lt (Nat.lt_succ_self n)]
  have hm := h n _ hk hn one_ne_zero
  rw [decode_encode] at hm
  exact notMem_repeated _ (List.mem_of_mem_take hm)

lemma not_matchStream_repeated {n : ℕ} (hn : 2 ^ 32 ∣ n) (h0 : n ≠ 0) :
    ¬ ((∀ word ∈ List.replicate (n + 1) ([97] : QString), NoLineBreak word) →
      List.Forall₂ Code (encode 35 [] (List.replicate (n + 1) [97])) (repeatedLines n) →
      Written (repeatedLines n) ((repeatedLines n).flatMap (· ++ [lineFeed])) →
        matchStream ((repeatedLines n).flatMap (· ++ [lineFeed])) [98] =
          if [98] ∈ List.replicate (n + 1) ([97] : QString) then .MatchFound else .MatchNotFound) := by
  intro h
  have hw : ∀ word ∈ List.replicate (n + 1) ([97] : QString), NoLineBreak word := by
    intro word hm
    rw [List.eq_of_mem_replicate hm]
    exact ⟨by decide, by decide⟩
  have hc := code_repeatedLines n
  have hl := readLines_written (lines_of_codes hc (noLineBreak_encode hw)) (Or.inl rfl)
  have hf := matchLines_of_not_passes [] hc (not_passes_repeated hn h0)
  have hm := h hw hc (Or.inl rfl)
  rw [matchStream, hl, ← List.append_nil (repeatedLines _)] at hm
  cases hf.symm.trans (hm.trans (if_neg (notMem_repeated _)))

theorem not_matchStream_wrapped :
    ¬ ((∀ word ∈ List.replicate (2 ^ 32 + 1) ([97] : QString), NoLineBreak word) →
      List.Forall₂ Code (encode 35 [] (List.replicate (2 ^ 32 + 1) [97])) (repeatedLines (2 ^ 32)) →
      Written (repeatedLines (2 ^ 32)) ((repeatedLines (2 ^ 32)).flatMap (· ++ [lineFeed])) →
        matchStream ((repeatedLines (2 ^ 32)).flatMap (· ++ [lineFeed])) [98] =
          if [98] ∈ List.replicate (2 ^ 32 + 1) ([97] : QString) then .MatchFound else .MatchNotFound) :=
  not_matchStream_repeated (dvd_refl _) (by norm_num)

end VpnClient.Authentication.IncrementalDecoder

namespace VpnClient.Authentication.AuthenticationInApp

open Library.FrontCoding IncrementalDecoder

/-- A password is fine if it is too short to be checked or not a common one. -/
lemma validatePasswordCommons_iff {words lines : List QString} {stream password : QString}
    (hw : ∀ word ∈ words, NoLineBreak word) (hc : List.Forall₂ Code (encode 35 [] words) lines)
    (hs : Written lines stream) (hu : Unwrapped password (encode 35 [] words)) :
    (validatePasswordCommons (some stream) [] password).1 = true ↔
      password.length < PASSWORD_MIN_LENGTH ∨ password ∉ words := by
  have hm := matchStream_of_unwrapped hw hc hs hu
  by_cases hl : password.length < PASSWORD_MIN_LENGTH
  · simp [validatePasswordCommons, validatePasswordLength, hl]
  · by_cases hp : password ∈ words
    · rw [if_pos hp] at hm
      simp [validatePasswordCommons, validatePasswordLength, Nat.le_of_not_lt hl, hl, hm, hp]
    · rw [if_neg hp] at hm
      simp [validatePasswordCommons, validatePasswordLength, Nat.le_of_not_lt hl, hl, hm, hp]

end VpnClient.Authentication.AuthenticationInApp
