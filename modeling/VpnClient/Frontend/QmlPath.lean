import Mathlib.Data.List.DropRight
import Mathlib.Data.List.TakeWhile
import Mathlib.Tactic

/-! The paths by which items of the user interface are found: what the scanner of them accepts. -/

namespace VpnClient.Frontend.QmlPath

/-- `QChar::isSpace`. -/
def isSpace (c : Char) : Bool :=
  let n := c.toNat
  n == 0x20 || (0x09 ≤ n && n ≤ 0x0d) || n == 0x85 || n == 0xa0 || n == 0x1680 || (0x2000 ≤ n && n ≤ 0x200a) ||
    n == 0x2028 || n == 0x2029 || n == 0x202f || n == 0x205f || n == 0x3000

def trimmed (s : List Char) : List Char := (s.dropWhile isSpace).rdropWhile isSpace

def digits? (s : List Char) : Option ℕ :=
  if s ≠ [] ∧ s.all Char.isDigit then some (Nat.ofDigitChars 10 s 0) else none

/-- `QString::toInt`. -/
def toInt (number : List Char) : Option ℤ :=
  let s := trimmed number
  let value : Option ℤ :=
    if s.head? = some '-' then (digits? s.tail).map fun n => -(n : ℤ)
    else if s.head? = some '+' then (digits? s.tail).map (↑)
    else (digits? s).map (↑)
  value.filter fun value => -2 ^ 31 ≤ value ∧ value ≤ 2 ^ 31 - 1

/-- `QString::toLocal8Bit`, where the local encoding is UTF-8. -/
def toLocal8Bit (s : List Char) : ByteArray := (String.ofList s).toUTF8

def fromLocal8Bit (bytes : ByteArray) : List Char := ((String.fromUTF8? bytes).map String.toList).getD []

/-- A property has a value or none. -/
inductive Filter where
  | index (index : ℤ)
  | property (property : ByteArray) (value : Option (List Char))

structure Data where
  nested : Bool := false
  key : List Char := []
  filters : List Filter := []

def readIndex (number : List Char) : Option Filter :=
  (toInt number).bind fun index => if index < 0 then none else some (.index index)

def readProperty (propertyValue : List Char) : Option Filter :=
  let parts := propertyValue.splitOn '='
  if parts.length > 2 then none
  else if (toLocal8Bit (parts.headD [])).isEmpty then none
  else some (.property (toLocal8Bit (parts.headD [])) parts[1]?)

/-- The text up to a closing bracket is read. -/
def parseEnclosed (close : Char) (read : List Char → Option Filter) (input : List Char) :
    Option (List Char × Filter) :=
  match input.dropWhile (· ≠ close) with
  | [] => none
  | _ :: rest => (read (input.takeWhile (· ≠ close))).map fun filter => (rest, filter)

/-- One round of the loop over the filters: the rest of the input, and the filter. -/
def parseFilter : List Char → Option (List Char × Filter)
  | [] => none
  | c :: input =>
    if c = '[' then parseEnclosed ']' readIndex input
    else if c = '\x7b' then parseEnclosed '\x7d' readProperty input
    else none

section Enclosed

variable {input rest text : List Char} {filter : Filter} {close : Char} {read : List Char → Option Filter}

lemma parseEnclosed_iff : parseEnclosed close read input = some (rest, filter) ↔
    ∃ text, close ∉ text ∧ input = text ++ close :: rest ∧ read text = some filter := by
  rw [parseEnclosed]
  constructor
  · intro h
    cases hd : input.dropWhile (· ≠ close) with
    | nil =>
      rw [hd] at h
      cases h
    | cons c r =>
      rw [hd] at h
      obtain ⟨f, hf, he⟩ := Option.map_eq_some_iff.mp h
      obtain ⟨rfl, rfl⟩ := Prod.ext_iff.mp he
      have hc : c = close := by
        have := List.head?_dropWhile_not (· ≠ close) input
        rw [hd] at this
        simpa using this
      refine ⟨input.takeWhile (· ≠ close), fun hm => by simpa using List.mem_takeWhile_imp hm, ?_, hf⟩
      rw [hc] at hd
      rw [← hd, List.takeWhile_append_dropWhile]
  · rintro ⟨text, hc, rfl, hf⟩
    have ht : ∀ c ∈ text, decide (c ≠ close) = true := by
      intro c hm
      exact decide_eq_true fun he => hc (he ▸ hm)
    rw [List.dropWhile_append_of_pos ht, List.takeWhile_append_of_pos ht]
    simp [hf]

lemma length_of_parseFilter (h : parseFilter input = some (rest, filter)) : rest.length < input.length := by
  cases input with
  | nil => cases h
  | cons c input =>
    have hl (close : Char) (read : List Char → Option Filter) (h : parseEnclosed close read input = some (rest, filter)) :
        rest.length < (c :: input).length := by
      obtain ⟨text, -, rfl, -⟩ := parseEnclosed_iff.mp h
      simp only [List.length_cons, List.length_append]
      omega
    rw [parseFilter] at h
    split_ifs at h
    · exact hl _ _ h
    · exact hl _ _ h

end Enclosed

/-- The loop over the filters of a block. -/
def parseFilters (input : List Char) (filters : List Filter) : Option (List Char × List Filter) :=
  if input = [] ∨ input.head? = some '/' then some (input, filters)
  else
    match _h : parseFilter input with
    | none => none
    | some (rest, filter) => parseFilters rest (filters ++ [filter])
termination_by input.length
decreasing_by exact length_of_parseFilter ‹_›

def isKeyChar (c : Char) : Bool := c ≠ '/' && c ≠ '[' && c ≠ '\x7b'

/-- What `parsePath` does behind the slashes. -/
def parseBlock (nested : Bool) (input : List Char) : Option (List Char × Data) :=
  (parseFilters (input.dropWhile isKeyChar) []).map fun r =>
    (r.1, { nested, key := input.takeWhile isKeyChar, filters := r.2 })

/-- The rest of the input, and the block. The input is asserted not to be empty. -/
def parsePath : List Char → Option (List Char × Data)
  | [] => none
  | c :: input =>
    if c ≠ '/' then parseBlock false (c :: input)
    else
      match input with
      | [] => some ([], {})
      | d :: input =>
        if d ≠ '/' then parseBlock false (d :: input)
        else if input = [] then none
        else parseBlock true input

section Texts

variable {input rest text texts body : List Char} {filter : Filter} {filters found : List Filter} {data : Data}
  {nested : Bool}

/-- The text of a filter. -/
inductive FilterText : List Char → Filter → Prop
  | index (number : List Char) (n : ℤ) (hb : ']' ∉ number) (hn : toInt number = some n) (h : 0 ≤ n) :
    FilterText ('[' :: (number ++ [']'])) (.index n)
  | name (name : List Char) (hb : '\x7d' ∉ name) (he : '=' ∉ name) (hn : name ≠ []) :
    FilterText ('\x7b' :: (name ++ ['\x7d'])) (.property (toLocal8Bit name) none)
  | value (name value : List Char) (hb : '\x7d' ∉ name ++ value) (he : '=' ∉ name ++ value) (hn : name ≠ []) :
    FilterText ('\x7b' :: (name ++ '=' :: value ++ ['\x7d'])) (.property (toLocal8Bit name) (some value))

inductive FiltersText : List Char → List Filter → Prop
  | nil : FiltersText [] []
  | cons {text texts : List Char} {filter : Filter} {filters : List Filter} (h : FilterText text filter)
    (hs : FiltersText texts filters) : FiltersText (text ++ texts) (filter :: filters)

/-- The text of a block behind its slashes. -/
structure BodyText (body : List Char) (data : Data) : Prop where
  text : ∃ texts, body = data.key ++ texts ∧ FiltersText texts data.filters
  key : ∀ c ∈ data.key, isKeyChar c = true

/-- The input ends, or the next block begins. -/
def Ends (rest : List Char) : Prop := rest = [] ∨ rest.head? = some '/'

lemma isEmpty_toLocal8Bit (s : List Char) : (toLocal8Bit s).isEmpty = s.isEmpty := by
  cases s with
  | nil => rfl
  | cons c s => simp [toLocal8Bit, ByteArray.isEmpty]

lemma fromLocal8Bit_toLocal8Bit (s : List Char) : fromLocal8Bit (toLocal8Bit s) = s := by
  have h : String.fromUTF8? (String.ofList s).toUTF8 = some (String.ofList s) := by
    rw [String.fromUTF8?, String.toUTF8_eq_toByteArray, dif_pos (String.ofList s).isValidUTF8]
    rfl
  rw [fromLocal8Bit, toLocal8Bit, h, Option.map_some, Option.getD_some, String.toList_ofList]

lemma readIndex_iff : readIndex text = some filter ↔ ∃ n, toInt text = some n ∧ 0 ≤ n ∧ filter = .index n := by
  rw [readIndex, Option.bind_eq_some_iff]
  apply exists_congr
  intro n
  split_ifs with hn
  · simp [hn]
  · simp [not_lt.mp hn, eq_comm]

lemma readProperty_of_notMem (h : '=' ∉ text) :
    readProperty text = if text = [] then none else some (.property (toLocal8Bit text) none) := by
  rw [readProperty, List.splitOn_eq_singleton h]
  simp [isEmpty_toLocal8Bit]

lemma readProperty_append {name value : List Char} (hn : '=' ∉ name) (hv : '=' ∉ value) :
    readProperty (name ++ '=' :: value) =
      if name = [] then none else some (.property (toLocal8Bit name) (some value)) := by
  rw [readProperty, List.splitOn_append_cons_self_of_not_mem hn, List.splitOn_eq_singleton hv]
  simp [isEmpty_toLocal8Bit]

lemma readProperty_append_append {name value more : List Char} (hn : '=' ∉ name) (hv : '=' ∉ value) :
    readProperty (name ++ '=' :: (value ++ '=' :: more)) = none := by
  rw [readProperty, List.splitOn_append_cons_self_of_not_mem hn, List.splitOn_append_cons_self_of_not_mem hv]
  obtain ⟨part, parts, hp⟩ := List.exists_cons_of_ne_nil (List.splitOn_ne_nil '=' more)
  simp [hp]

lemma readProperty_iff : readProperty text = some filter ↔
    (text ≠ [] ∧ '=' ∉ text ∧ filter = .property (toLocal8Bit text) none) ∨
      ∃ name value, text = name ++ '=' :: value ∧ '=' ∉ name ++ value ∧ name ≠ [] ∧
        filter = .property (toLocal8Bit name) (some value) := by
  constructor
  · intro h
    by_cases he : '=' ∈ text
    case neg =>
      rw [readProperty_of_notMem he] at h
      split_ifs at h with hn
      exact Or.inl ⟨hn, he, (Option.some.inj h).symm⟩
    case pos =>
      obtain ⟨name, value, rfl, hn⟩ := List.eq_append_cons_of_mem he
      by_cases hv : '=' ∈ value
      · obtain ⟨value, more, rfl, hnv⟩ := List.eq_append_cons_of_mem hv
        rw [readProperty_append_append hn hnv] at h
        cases h
      · rw [readProperty_append hn hv] at h
        split_ifs at h with hne
        exact Or.inr ⟨name, value, rfl, by simp [hn, hv], hne, (Option.some.inj h).symm⟩
  · rintro (⟨hne, he, rfl⟩ | ⟨name, value, rfl, he, hne, rfl⟩)
    · rw [readProperty_of_notMem he, if_neg hne]
    · rw [List.mem_append, not_or] at he
      rw [readProperty_append he.1 he.2, if_neg hne]

lemma parseFilter_iff :
    parseFilter input = some (rest, filter) ↔ ∃ text, FilterText text filter ∧ input = text ++ rest := by
  constructor
  · intro h
    cases input with
    | nil => cases h
    | cons c input =>
      rw [parseFilter] at h
      split_ifs at h with hi hp
      · obtain ⟨number, hb, rfl, hr⟩ := parseEnclosed_iff.mp h
        obtain ⟨n, hn, h0, rfl⟩ := readIndex_iff.mp hr
        exact ⟨_, .index number n hb hn h0, by simp [hi]⟩
      · obtain ⟨text, hb, rfl, hr⟩ := parseEnclosed_iff.mp h
        rcases readProperty_iff.mp hr with ⟨hn, he, rfl⟩ | ⟨name, value, rfl, he, hn, rfl⟩
        · exact ⟨_, .name text hb he hn, by simp [hp]⟩
        · exact ⟨_, .value name value (by simpa using hb) he hn, by simp [hp]⟩
  · rintro ⟨text, hf, rfl⟩
    cases hf with
    | index number n hb hn h0 =>
      rw [List.cons_append, parseFilter, if_pos rfl, parseEnclosed_iff]
      exact ⟨number, hb, by simp, readIndex_iff.mpr ⟨n, hn, h0, rfl⟩⟩
    | name name hb he hn =>
      rw [List.cons_append, parseFilter, if_neg (by decide), if_pos rfl, parseEnclosed_iff]
      exact ⟨name, hb, by simp, readProperty_iff.mpr (Or.inl ⟨hn, he, rfl⟩)⟩
    | value name value hb he hn =>
      rw [List.cons_append, parseFilter, if_neg (by decide), if_pos rfl, parseEnclosed_iff]
      exact ⟨name ++ '=' :: value, by simpa using hb, by simp,
        readProperty_iff.mpr (Or.inr ⟨name, value, rfl, he, hn, rfl⟩)⟩

lemma FilterText.head (h : FilterText text filter) : text.head? = some '[' ∨ text.head? = some '\x7b' := by
  cases h with
  | index => exact Or.inl rfl
  | name => exact Or.inr rfl
  | value => exact Or.inr rfl

lemma FilterText.not_ends (h : FilterText text filter) : ¬ (text ++ rest = [] ∨ (text ++ rest).head? = some '/') := by
  cases h with
  | index => simp
  | name => simp
  | value => simp

lemma parseFilters_iff : parseFilters input filters = some (rest, found) ↔
    Ends rest ∧ ∃ text new, FiltersText text new ∧ input = text ++ rest ∧ found = filters ++ new := by
  constructor
  · intro h
    induction hl : input.length using Nat.strong_induction_on generalizing input filters with
    | _ n ih =>
      rw [parseFilters] at h
      split_ifs at h with he
      · cases h
        exact ⟨he, [], [], .nil, rfl, by simp⟩
      · split at h
        · cases h
        · rename_i r f hf
          obtain ⟨hr, text, new, hn, rfl, rfl⟩ := ih _ (hl ▸ length_of_parseFilter hf) h rfl
          obtain ⟨t, ht, rfl⟩ := parseFilter_iff.mp hf
          exact ⟨hr, t ++ text, f :: new, .cons ht hn, by simp, by simp⟩
  · rintro ⟨hr, text, new, hn, rfl, rfl⟩
    induction hn generalizing filters with
    | nil =>
      rw [Ends] at hr
      rw [parseFilters, List.nil_append, if_pos hr, List.append_nil]
    | @cons t ts f fs ht _ ih =>
      rw [List.append_assoc, parseFilters, if_neg ht.not_ends]
      have hp : parseFilter (t ++ (ts ++ rest)) = some (ts ++ rest, f) := parseFilter_iff.mpr ⟨t, ht, rfl⟩
      split
      · rename_i h
        rw [hp] at h
        cases h
      · rename_i r g h
        rw [hp] at h
        cases h
        rw [ih]
        simp

lemma FiltersText.head (h : FiltersText texts filters) :
    texts = [] ∨ texts.head? = some '[' ∨ texts.head? = some '\x7b' := by
  cases h with
  | nil => exact Or.inl rfl
  | cons ht _ =>
    right
    rcases ht.head with hh | hh
    · simp [List.head?_append, hh]
    · simp [List.head?_append, hh]

lemma FiltersText.dropWhile (h : FiltersText texts filters) (hr : Ends rest) :
    (texts ++ rest).dropWhile isKeyChar = texts ++ rest ∧ (texts ++ rest).takeWhile isKeyChar = [] := by
  have hd (c : Char) (hc : (texts ++ rest).head? = some c) (hk : isKeyChar c = false) :
      (texts ++ rest).dropWhile isKeyChar = texts ++ rest ∧ (texts ++ rest).takeWhile isKeyChar = [] := by
    obtain ⟨t, ht⟩ := List.head?_eq_some_iff.mp hc
    rw [ht, List.dropWhile_cons_of_neg (by simp [hk]), List.takeWhile_cons_of_neg (by simp [hk])]
    exact ⟨rfl, rfl⟩
  rcases h.head with rfl | hh | hh
  · rcases hr with rfl | hr
    · exact ⟨rfl, rfl⟩
    · exact hd _ hr (by decide)
  · exact hd '[' (by simp [List.head?_append, hh]) (by decide)
  · exact hd '\x7b' (by simp [List.head?_append, hh]) (by decide)

lemma parseBlock_iff : parseBlock nested input = some (rest, data) ↔
    Ends rest ∧ data.nested = nested ∧ ∃ body, BodyText body data ∧ input = body ++ rest := by
  rw [parseBlock]
  constructor
  · intro h
    obtain ⟨⟨r, found⟩, hf, he⟩ := Option.map_eq_some_iff.mp h
    obtain ⟨rfl, rfl⟩ := Prod.ext_iff.mp he
    obtain ⟨hr, texts, new, hn, hd, hfound⟩ := parseFilters_iff.mp hf
    obtain rfl : found = new := hfound
    refine ⟨hr, rfl, input.takeWhile isKeyChar ++ texts, ⟨⟨texts, rfl, hn⟩, fun c hc => ?_⟩, ?_⟩
    · exact List.mem_takeWhile_imp hc
    · rw [List.append_assoc, ← hd, List.takeWhile_append_dropWhile]
  · rintro ⟨hr, rfl, body, ⟨⟨texts, rfl, hn⟩, hk⟩, rfl⟩
    obtain ⟨hd, ht⟩ := hn.dropWhile hr
    rw [List.append_assoc, List.dropWhile_append_of_pos hk, List.takeWhile_append_of_pos hk, hd, ht,
      parseFilters_iff.mpr ⟨hr, texts, data.filters, hn, rfl, rfl⟩]
    simp

end Texts

section Segments

variable {input rest text body : List Char} {data : Data}

/-- The text of a block with its slashes. -/
inductive SegmentText : List Char → Data → Prop
  | bare {body : List Char} {data : Data} (hb : BodyText body data) (hn : data.nested = false) (hne : body ≠ []) :
    SegmentText body data
  | child {body : List Char} {data : Data} (hb : BodyText body data) (hn : data.nested = false) (hne : body ≠ []) :
    SegmentText ('/' :: body) data
  | nested {body : List Char} {data : Data} (hb : BodyText body data) (hn : data.nested = true) :
    SegmentText ('/' :: '/' :: body) data

lemma BodyText.head_ne (h : BodyText body data) : body.head? ≠ some '/' := by
  obtain ⟨⟨texts, rfl, hf⟩, hk⟩ := h
  intro hs
  cases hkey : data.key with
  | cons c key =>
    rw [hkey] at hs hk
    obtain rfl : c = '/' := by simpa using hs
    exact absurd (hk '/' List.mem_cons_self) (by decide)
  | nil =>
    rw [hkey, List.nil_append] at hs
    rcases hf.head with rfl | hh | hh
    · cases hs
    · rw [hh] at hs
      cases hs
    · rw [hh] at hs
      cases hs

lemma BodyText.exists_cons (h : BodyText body data) (hne : body ≠ []) : ∃ c b, body = c :: b ∧ c ≠ '/' := by
  obtain ⟨c, b, rfl⟩ := List.exists_cons_of_ne_nil hne
  refine ⟨c, b, rfl, ?_⟩
  rintro rfl
  exact h.head_ne rfl

lemma body_ne_nil {c : Char} (hr : Ends rest) (hc : c ≠ '/') (h : c :: input = body ++ rest) : body ≠ [] := by
  rintro rfl
  rw [List.nil_append] at h
  rcases hr with rfl | hr
  · cases h
  · rw [← h] at hr
    exact hc (Option.some.inj hr)

lemma parsePath_iff : parsePath input = some (rest, data) ↔
    (input = ['/'] ∧ rest = [] ∧ data = {}) ∨
      Ends rest ∧ input ≠ ['/', '/'] ∧ ∃ text, SegmentText text data ∧ input = text ++ rest := by
  constructor
  · intro h
    cases input with
    | nil => cases h
    | cons c input =>
      rw [parsePath.eq_def] at h
      dsimp only at h
      split_ifs at h with hc
      · obtain ⟨hr, hn, body, hb, he⟩ := parseBlock_iff.mp h
        refine Or.inr ⟨hr, fun h => hc (List.cons.inj h).1, body, .bare hb hn (body_ne_nil hr hc he), he⟩
      · obtain rfl : c = '/' := not_not.mp hc
        cases input with
        | nil =>
          cases h
          exact Or.inl ⟨rfl, rfl, rfl⟩
        | cons d input =>
          dsimp only at h
          split_ifs at h with hd hi
          · obtain ⟨hr, hn, body, hb, he⟩ := parseBlock_iff.mp h
            refine Or.inr ⟨hr, fun h => hd (List.cons.inj (List.cons.inj h).2).1, '/' :: body,
              .child hb hn (body_ne_nil hr hd he), by rw [he, List.cons_append]⟩
          · obtain rfl : d = '/' := not_not.mp hd
            obtain ⟨hr, hn, body, hb, he⟩ := parseBlock_iff.mp h
            exact Or.inr ⟨hr, by simp [hi], '/' :: '/' :: body, .nested hb hn, by simp [he]⟩
  · rintro (⟨rfl, rfl, rfl⟩ | ⟨hr, hne, text, ht, rfl⟩)
    · rfl
    · cases ht with
      | bare hb hn hnil =>
        obtain ⟨c, b, rfl, hc⟩ := hb.exists_cons hnil
        rw [List.cons_append, parsePath.eq_def]
        dsimp only
        rw [if_pos hc]
        exact parseBlock_iff.mpr ⟨hr, hn, c :: b, hb, rfl⟩
      | child hb hn hnil =>
        obtain ⟨c, b, rfl, hc⟩ := hb.exists_cons hnil
        rw [List.cons_append, List.cons_append, parsePath.eq_def]
        dsimp only
        rw [if_neg (not_not.mpr rfl), if_pos hc]
        exact parseBlock_iff.mpr ⟨hr, hn, c :: b, hb, rfl⟩
      | @nested body _ hb hn =>
        have hi : body ++ rest ≠ [] := fun h => hne (by simp [h])
        rw [List.cons_append, List.cons_append, parsePath.eq_def]
        dsimp only
        rw [if_neg (not_not.mpr rfl), if_neg (not_not.mpr rfl), if_neg hi]
        exact parseBlock_iff.mpr ⟨hr, hn, body, hb, rfl⟩

lemma SegmentText.length_pos (h : SegmentText text data) : 0 < text.length := by
  cases h with
  | bare _ _ hne => exact List.length_pos_iff.mpr hne
  | child => simp
  | nested => simp

lemma SegmentText.ne_slash (h : SegmentText text data) : text ≠ ['/'] := by
  cases h with
  | bare hb _ _ =>
    rintro rfl
    exact hb.head_ne rfl
  | child _ _ hne =>
    intro he
    exact hne (List.cons.inj he).2
  | nested => simp

lemma length_of_parsePath (h : parsePath input = some (rest, data)) : rest.length < input.length := by
  rcases parsePath_iff.mp h with ⟨rfl, rfl, -⟩ | ⟨-, -, text, ht, rfl⟩
  · simp
  · have hl := ht.length_pos
    rw [List.length_append]
    omega

end Segments

/-- The loop over the blocks. -/
def parseBlocks (input : List Char) (blocks : List Data) : Option (List Data) :=
  match _h : parsePath input with
  | none => none
  | some (rest, data) =>
    if rest = [] then some (blocks ++ [data])
    else if rest.head? ≠ some '/' then none
    else parseBlocks rest (blocks ++ [data])
termination_by input.length
decreasing_by exact length_of_parsePath ‹_›

/-- The blocks that the constructor keeps. -/
def create (path : List Char) : List Data :=
  if path = [] then [] else (parseBlocks path []).getD []

section Paths

variable {input rest text body path : List Char} {data : Data} {blocks found : List Data}

/-- The text of a path: two slashes with nothing behind them are not its end. -/
inductive PathText : List Char → List Data → Prop
  | trailing : PathText ['/'] [{}]
  | single {text : List Char} {data : Data} (h : SegmentText text data) (hn : text ≠ ['/', '/']) : PathText text [data]
  | cons {text rest : List Char} {data : Data} {blocks : List Data} (h : SegmentText text data)
    (hr : PathText rest blocks) (hs : rest.head? = some '/') : PathText (text ++ rest) (data :: blocks)

lemma parseBlocks_eq (input : List Char) (blocks : List Data) : parseBlocks input blocks =
    (parsePath input).bind fun r => if r.1 = [] then some (blocks ++ [r.2])
      else if r.1.head? ≠ some '/' then none else parseBlocks r.1 (blocks ++ [r.2]) := by
  rw [parseBlocks]
  split
  · rename_i h
    rw [h]
    rfl
  · rename_i h
    rw [h]
    rfl

lemma parseBlocks_iff : parseBlocks input blocks = some found ↔ ∃ new, PathText input new ∧ found = blocks ++ new := by
  constructor
  · intro h
    induction hl : input.length using Nat.strong_induction_on generalizing input blocks with
    | _ n ih =>
      rw [parseBlocks_eq] at h
      obtain ⟨⟨rest, data⟩, hp, h⟩ := Option.bind_eq_some_iff.mp h
      have hlt := length_of_parsePath hp
      dsimp only at h
      split_ifs at h with hr hs
      · cases h
        refine ⟨[data], ?_, rfl⟩
        rcases parsePath_iff.mp hp with ⟨rfl, -, rfl⟩ | ⟨-, hne, text, ht, rfl⟩
        · exact .trailing
        · rw [hr, List.append_nil] at hne ⊢
          exact .single ht hne
      · obtain ⟨new, hn, rfl⟩ := ih _ (hl ▸ hlt) h rfl
        refine ⟨data :: new, ?_, by simp⟩
        rcases parsePath_iff.mp hp with ⟨-, rfl, -⟩ | ⟨-, -, text, ht, rfl⟩
        · exact absurd rfl hr
        · exact .cons ht hn (not_not.mp hs)
  · rintro ⟨new, hn, rfl⟩
    induction hn generalizing blocks with
    | trailing => rw [parseBlocks_eq, parsePath_iff.mpr (Or.inl ⟨rfl, rfl, rfl⟩)]; simp
    | @single text data ht hne =>
      rw [parseBlocks_eq, parsePath_iff.mpr (Or.inr ⟨Or.inl rfl, hne, text, ht, (List.append_nil text).symm⟩)]
      simp
    | @cons text rest data new ht _ hs ih =>
      have hrest : rest ≠ [] := by
        rintro rfl
        cases hs
      have hne : text ++ rest ≠ ['/', '/'] := by
        obtain ⟨r, rfl⟩ := List.head?_eq_some_iff.mp hs
        rw [← List.singleton_append, ← List.singleton_append, ← List.append_assoc]
        intro he
        cases r with
        | nil =>
          rw [List.append_nil] at he
          exact ht.ne_slash (List.append_inj_left' he rfl)
        | cons c r =>
          have hl := congrArg List.length he
          have := ht.length_pos
          simp only [List.length_append, List.length_cons, List.length_nil] at hl
          omega
      rw [parseBlocks_eq, parsePath_iff.mpr (Or.inr ⟨Or.inr hs, hne, text, ht, rfl⟩), Option.bind_some]
      dsimp only
      rw [if_neg hrest, if_neg (not_not.mpr hs), ih, List.append_assoc, List.singleton_append]

end Paths

section Printing

variable {text texts body path : List Char} {filter : Filter} {filters : List Filter} {data : Data} {blocks : List Data}

def printFilter : Filter → List Char
  | .index index => '[' :: (Nat.toDigits 10 index.toNat ++ [']'])
  | .property property none => '\x7b' :: (fromLocal8Bit property ++ ['\x7d'])
  | .property property (some value) => '\x7b' :: (fromLocal8Bit property ++ '=' :: value ++ ['\x7d'])

def printBody (data : Data) : List Char := data.key ++ data.filters.flatMap printFilter

def printData (data : Data) : List Char := (if data.nested then ['/', '/'] else ['/']) ++ printBody data

def print (blocks : List Data) : List Char := blocks.flatMap printData

lemma isSpace_of_isDigit {c : Char} (h : c.isDigit = true) : isSpace c = false := by
  have hc : 48 ≤ c.toNat ∧ c.toNat ≤ 57 := by
    rw [Char.isDigit, Bool.and_eq_true, decide_eq_true_eq, decide_eq_true_eq] at h
    exact ⟨UInt32.le_iff_toNat_le.mp h.1, UInt32.le_iff_toNat_le.mp h.2⟩
  rw [isSpace]
  simp
  omega

lemma trimmed_eq_self {s : List Char} (h : ∀ c ∈ s, isSpace c = false) : trimmed s = s := by
  have hd : s.dropWhile isSpace = s := by
    rw [List.dropWhile_eq_self_iff]
    intro hl
    simp [h _ (List.getElem_mem hl)]
  rw [trimmed, hd, List.rdropWhile_eq_self_iff]
  intro hl
  simp [h _ (List.getLast_mem hl)]

lemma toInt_toDigits {n : ℕ} (h : n ≤ 2 ^ 31 - 1) : toInt (Nat.toDigits 10 n) = some (n : ℤ) := by
  have hd : ∀ c ∈ Nat.toDigits 10 n, c.isDigit = true := fun c hc =>
    Nat.isDigit_of_mem_toDigits (by decide) (by decide) hc
  have hs (c : Char) (hc : c.isDigit = false) : ¬ (Nat.toDigits 10 n).head? = some c := by
    intro hh
    simp [hd c (List.mem_of_mem_head? hh)] at hc
  have hv : digits? (Nat.toDigits 10 n) = some n := by
    rw [digits?, if_pos ⟨Nat.toDigits_ne_nil, List.all_eq_true.mpr hd⟩, Nat.ofDigitChars_ten_toDigits]
  rw [toInt, trimmed_eq_self fun c hc => isSpace_of_isDigit (hd c hc)]
  rw [if_neg (hs '-' (by decide)), if_neg (hs '+' (by decide)), hv, Option.map_some, Option.filter_some]
  rw [if_pos (by simp; omega)]

lemma toInt_le {number : List Char} {n : ℤ} (h : toInt number = some n) : n ≤ 2 ^ 31 - 1 := by
  rw [toInt] at h
  have := (Option.filter_eq_some_iff.mp h).2
  simp only [decide_eq_true_eq] at this
  exact this.2

lemma FilterText.print (h : FilterText text filter) : FilterText (printFilter filter) filter := by
  cases h with
  | index number n hb hn h0 =>
    obtain ⟨k, rfl⟩ := Int.eq_ofNat_of_zero_le h0
    have hk := toInt_le hn
    refine .index _ k (fun hm => ?_) (toInt_toDigits (by omega)) h0
    exact absurd (Nat.isDigit_of_mem_toDigits (by decide) (by decide) hm) (by decide)
  | name name hb he hn =>
    rw [printFilter, fromLocal8Bit_toLocal8Bit]
    exact .name name hb he hn
  | value name value hb he hn =>
    rw [printFilter, fromLocal8Bit_toLocal8Bit]
    exact .value name value hb he hn

lemma FiltersText.print (h : FiltersText texts filters) : FiltersText (filters.flatMap printFilter) filters := by
  induction h with
  | nil => exact .nil
  | cons ht _ ih => exact .cons ht.print ih

lemma BodyText.print (h : BodyText body data) : BodyText (printBody data) data := by
  obtain ⟨⟨texts, -, hf⟩, hk⟩ := h
  exact ⟨⟨_, rfl, hf.print⟩, hk⟩

lemma printBody_ne_nil (h : BodyText body data) (hne : body ≠ []) : printBody data ≠ [] := by
  obtain ⟨⟨texts, rfl, hf⟩, -⟩ := h
  intro hp
  obtain ⟨hk, hfl⟩ := List.append_eq_nil_iff.mp hp
  cases hd : data.filters with
  | nil =>
    rw [hd] at hf
    cases hf
    exact hne (by rw [hk, List.append_nil])
  | cons filter filters =>
    rw [hd, List.flatMap_cons] at hfl
    have hfilter := (List.append_eq_nil_iff.mp hfl).1
    cases filter with
    | index n => cases hfilter
    | property property value => cases value <;> cases hfilter

lemma SegmentText.print (h : SegmentText text data) : SegmentText (printData data) data := by
  cases h with
  | bare hb hn hne =>
    rw [printData, hn]
    exact .child hb.print hn (printBody_ne_nil hb hne)
  | child hb hn hne =>
    rw [printData, hn]
    exact .child hb.print hn (printBody_ne_nil hb hne)
  | nested hb hn =>
    rw [printData, hn]
    exact .nested hb.print hn

lemma SegmentText.print_ne (h : SegmentText text data) (hne : text ≠ ['/', '/']) : printData data ≠ ['/', '/'] := by
  have hsingle {body : List Char} (hb : BodyText body data) (hn : data.nested = false) :
      printData data ≠ ['/', '/'] := by
    rw [printData, hn]
    intro he
    exact hb.print.head_ne (by rw [show printBody data = ['/'] from (List.cons.inj he).2]; rfl)
  cases h with
  | bare hb hn _ => exact hsingle hb hn
  | child hb hn _ => exact hsingle hb hn
  | nested hb hn =>
    rw [printData, hn]
    intro he
    refine printBody_ne_nil hb (fun hbody => hne (by rw [hbody])) ?_
    exact (List.cons.inj (List.cons.inj he).2).2

lemma head?_printData (data : Data) (rest : List Char) : (printData data ++ rest).head? = some '/' := by
  rw [printData]
  split_ifs <;> rfl

lemma PathText.print (h : PathText text blocks) : PathText (print blocks) blocks := by
  induction h with
  | trailing => exact .trailing
  | @single text data ht hne =>
    rw [QmlPath.print, List.flatMap_cons, List.flatMap_nil, List.append_nil]
    exact .single ht.print (ht.print_ne hne)
  | @cons text rest data blocks ht hr hs ih =>
    refine .cons ht.print ih ?_
    cases hr with
    | trailing => exact head?_printData _ _
    | single => exact head?_printData _ _
    | cons => exact head?_printData _ _

lemma PathText.ne_nil (h : PathText text blocks) : text ≠ [] ∧ blocks ≠ [] := by
  cases h with
  | trailing => simp
  | single ht => exact ⟨List.length_pos_iff.mp ht.length_pos, by simp⟩
  | cons ht => exact ⟨List.append_ne_nil_of_left_ne_nil (List.length_pos_iff.mp ht.length_pos) _, by simp⟩

lemma create_eq (h : PathText path blocks) : create path = blocks := by
  rw [create, if_neg h.ne_nil.1, parseBlocks_iff.mpr ⟨blocks, h, rfl⟩, Option.getD_some]
  rfl

lemma create_eq_nil (h : ∀ blocks, ¬ PathText path blocks) : create path = [] := by
  rw [create]
  split_ifs with hp
  · rfl
  · cases hb : parseBlocks path [] with
    | none => rfl
    | some found =>
      obtain ⟨new, hn, -⟩ := parseBlocks_iff.mp hb
      exact absurd hn (h new)

end Printing

/-- What is asked of the blocks of a path. -/
structure Correct (path : List Char) : Prop where
  accepted : create path ≠ [] ↔ ∃ blocks, PathText path blocks
  reprinted : create (print (create path)) = create path

/-- The constructor keeps blocks exactly for the paths of the grammar, and they are those of their printed text. -/
theorem create_correct (path : List Char) : Correct path := by
  by_cases h : ∃ blocks, PathText path blocks
  case pos =>
    obtain ⟨blocks, h⟩ := h
    constructor
    case accepted =>
      rw [create_eq h]
      exact iff_of_true h.ne_nil.2 ⟨blocks, h⟩
    case reprinted => rw [create_eq h, create_eq h.print]
  case neg =>
    have hn := create_eq_nil (not_exists.mp h)
    constructor
    case accepted => exact iff_of_false (fun hne => hne hn) h
    case reprinted =>
      rw [hn]
      rfl

/-- A path is made of blocks with no, one or two slashes before each, and with at least one from the second on. -/
inductive Stated : List Char → Prop
  | single {slashes body : List Char} {data : Data} (hs : slashes ∈ [[], ['/'], ['/', '/']]) (hb : BodyText body data) :
    Stated (slashes ++ body)
  | cons {slashes body rest : List Char} {data : Data} (hs : slashes ∈ [[], ['/'], ['/', '/']])
    (hb : BodyText body data) (hr : Stated rest) (hr' : rest.head? = some '/') : Stated (slashes ++ body ++ rest)

/-- Two slashes with nothing behind them are not accepted. -/
theorem not_stated_search : ¬ (create ['/', '/'] ≠ [] ↔ Stated ['/', '/']) := by
  have hb : BodyText [] {} := ⟨⟨[], rfl, .nil⟩, by simp⟩
  have hs : Stated (['/', '/'] ++ []) := .single (by simp) hb
  have hn : create ['/', '/'] = [] := by
    have hp : parsePath ['/', '/'] = none := rfl
    rw [create, if_neg (by simp), parseBlocks_eq, hp]
    rfl
  intro h
  exact h.mpr hs hn

end VpnClient.Frontend.QmlPath
