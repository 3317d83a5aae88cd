import VpnClient.Library.Frames

/-! The bridge's reader: how it takes messages from a stream that comes in pieces and may block at any byte. -/

namespace VpnClient.WebExtension

open Library Library.Frames Library.LittleEndian

/-- What the reads of a stream find, one after the other: some bytes, or that they would block. After that they
would block forever, or find the end of the stream. -/
structure Input where
  chunks : List (Option (List UInt8))
  ended : Bool

namespace Input

def bytes (i : Input) : List UInt8 := i.chunks.flatMap (·.getD [])

def remaining (i : Input) : ℕ := (i.chunks.map fun chunk => 1 + (chunk.getD []).length).sum

/-- A read of at most `n` bytes. -/
def read (n : ℕ) (i : Input) : Option (List UInt8) × Input :=
  match i.chunks with
  | [] => (if i.ended then some [] else none, i)
  | none :: chunks => (none, { i with chunks })
  | some chunk :: chunks =>
    (some (chunk.take n), { i with chunks := if chunk.length ≤ n then chunks else some (chunk.drop n) :: chunks })

/-- What a read leaves. -/
structure Reads (n : ℕ) (i : Input) (data : List UInt8) (i' : Input) : Prop where
  length : data.length ≤ n
  bytes : data ++ i'.bytes = i.bytes
  ended : i'.ended = i.ended

variable {n : ℕ} {i i' : Input} {data : List UInt8}

lemma reads_some (hn : 0 < n) (h : i.read n = (some data, i')) :
    Reads n i data i' ∧ (i'.remaining < i.remaining ∨ data = [] ∧ i.ended = true ∧ i' = i) := by
  obtain ⟨chunks, ended⟩ := i
  cases chunks with
  | nil =>
    cases ended with
    | false => simp [read] at h
    | true =>
      obtain ⟨rfl, rfl⟩ : [] = data ∧ _ = i' := by simpa [read] using h
      exact ⟨⟨by simp, rfl, rfl⟩, .inr ⟨rfl, rfl, rfl⟩⟩
  | cons chunk chunks =>
    cases chunk with
    | none => simp [read] at h
    | some chunk =>
      obtain ⟨rfl, rfl⟩ : chunk.take n = data ∧ _ = i' := by simpa [read] using h
      refine ⟨⟨by simp, ?_, rfl⟩, .inl ?_⟩
      · simp only [Input.bytes]
        split
        · next hl => simp [List.take_of_length_le hl]
        · simp [← List.append_assoc]
      · simp only [remaining]
        split
        · simp
        · next hl =>
          simp only [List.map_cons, List.sum_cons, Option.getD_some, List.length_drop]
          omega

lemma reads_none (h : i.read n = (none, i')) :
    Reads n i [] i' ∧ (i'.remaining < i.remaining ∨ i.chunks = [] ∧ i.ended = false ∧ i' = i) := by
  obtain ⟨chunks, ended⟩ := i
  cases chunks with
  | nil =>
    cases ended with
    | false =>
      obtain rfl : _ = i' := by simpa [read] using h
      exact ⟨⟨by simp, rfl, rfl⟩, .inr ⟨rfl, rfl, rfl⟩⟩
    | true => simp [read] at h
  | cons chunk chunks =>
    cases chunk with
    | none =>
      obtain rfl : _ = i' := by simpa [read] using h
      exact ⟨⟨by simp, by simp [Input.bytes], rfl⟩, .inl (by simp [remaining])⟩
    | some chunk => simp [read] at h

end Input

inductive ReaderState where
  | ReadingLength
  | ReadingBuffer
  deriving DecidableEq

structure Reader where
  state : ReaderState := .ReadingLength
  buffer : List UInt8 := []
  length : ℕ := 0

/-- How an iteration of the loop ends. -/
inductive Iteration (V : Type) where
  | again (r : Reader) (input : Input)
  | returned (value : Option V) (r : Reader) (input : Input)
  | panicked

namespace Reader

variable {V : Type} (fromSlice : List UInt8 → Option V)

/-- The second part of the loop. -/
def readBuffer (r : Reader) (input : Input) : Iteration V :=
  if r.length = 0 ∨ r.length ≤ r.buffer.length then .panicked
  else
    match input.read (r.length - r.buffer.length) with
    | (none, input) => .returned none r input
    | (some data, input) =>
      let buffer := r.buffer ++ data
      if buffer.length < r.length then .again { r with buffer } input
      else
        match fromSlice buffer with
        | some value => .returned (some value) { r with buffer := [], state := .ReadingLength } input
        | none => .again { r with buffer := [], state := .ReadingLength } input

def iterate (r : Reader) (input : Input) : Iteration V :=
  match r.state with
  | .ReadingBuffer => readBuffer fromSlice r input
  | .ReadingLength =>
    if 4 ≤ r.buffer.length then .panicked
    else
      match input.read (4 - r.buffer.length) with
      | (none, input) => .returned none r input
      | (some data, input) =>
        let buffer := r.buffer ++ data
        if buffer.length < 4 then .again { r with buffer } input
        else
          let length := value buffer
          if length = 0 then .again { r with buffer, length } input
          else readBuffer fromSlice { state := .ReadingBuffer, buffer := [], length } input

/-- `read_input` with at most `fuel` iterations of its loop. -/
def readInput : ℕ → Reader → Input → Iteration V
  | 0, r, input => .again r input
  | fuel + 1, r, input =>
    match iterate fromSlice r input with
    | .again r input => readInput fuel r input
    | .returned value r input => .returned value r input
    | .panicked => .panicked

/-- A number of calls, and the values that they return. -/
def calls (fuel : ℕ) : ℕ → Reader → Input → Option (List V × Reader × Input)
  | 0, r, input => some ([], r, input)
  | n + 1, r, input =>
    match readInput fromSlice fuel r input with
    | .returned value r input => (calls fuel n r input).map fun (values, r) => (value.toList ++ values, r)
    | _ => none

/-- The values of the messages of a stream. -/
def values (stream : List UInt8) : List V :=
  ((cut (fun _ => true) stream).bodies.filter (· ≠ [])).filterMap fromSlice

/-- Calls always return, and enough of them return the values of the stream. -/
def Recovers (input : Input) : Prop := ∃ n fuel₀, ∀ k ≥ n, ∀ fuel ≥ fuel₀, ∃ r input',
  calls fromSlice fuel k {} input = some (values fromSlice input.bytes, r, input')

/-- The lengths that the reader gets past. -/
def accepts (length : ℕ) : Bool := length != 0

/-- What was read of an unfinished message. -/
def pending (r : Reader) : List UInt8 :=
  match r.state with
  | .ReadingLength => r.buffer
  | .ReadingBuffer => bytes 4 r.length ++ r.buffer

def Valid (r : Reader) : Prop :=
  match r.state with
  | .ReadingLength => r.buffer.length < 4
  | .ReadingBuffer => r.length ≠ 0 ∧ r.length < 2 ^ 32 ∧ r.buffer.length < r.length

/-- The reader takes the bodies from the stream and can go on. -/
structure Advances (r : Reader) (i : Input) (bodies : List (List UInt8)) (r' : Reader) (i' : Input) : Prop where
  valid : r'.Valid
  ended : i'.ended = i.ended
  cut : cut accepts (r.pending ++ i.bytes) = (cut accepts (r'.pending ++ i'.bytes)).after bodies

variable {fromSlice} {r r' r'' : Reader} {i i' i'' : Input} {bodies others : List (List UInt8)} {data : List UInt8}
  {value : Option V} {fuel n : ℕ}

lemma Advances.trans (h : Advances r i bodies r' i') (h' : Advances r' i' others r'' i'') :
    Advances r i (bodies ++ others) r'' i'' where
  valid := h'.valid
  ended := h'.ended.trans h.ended
  cut := by rw [h.cut, h'.cut, after_after]

lemma advances_of_reads (hr : i.Reads n data i') (hv : r'.Valid)
    (hc : cut accepts (r.pending ++ data) = { bodies, rest := r'.pending }) : Advances r i bodies r' i' where
  valid := hv
  ended := hr.ended
  cut := by
    rw [← hr.bytes, ← List.append_assoc, cut_append, hc]
    rfl

lemma cut_pending (hv : r.Valid) : cut accepts r.pending = { rest := r.pending } := by
  rw [Valid, pending] at *
  cases hs : r.state with
  | ReadingLength =>
    simp only [hs] at hv ⊢
    exact cut_short hv
  | ReadingBuffer =>
    simp only [hs] at hv ⊢
    exact cut_unfinished hv.2.1 (by simpa [accepts] using hv.1) hv.2.2

/-- What an iteration does, where the second case of the first kind is the one that a length of zero leads to. -/
inductive Iterates (fromSlice : List UInt8 → Option V) (r : Reader) (i : Input) : Iteration V → Prop
  | again {r' : Reader} {i' : Input} {b : List (List UInt8)} (advances : Advances r i b r' i')
    (values : b.filterMap fromSlice = [])
    (remaining : i'.remaining < i.remaining ∨ i.ended = true ∧ i' = i) :
    Iterates fromSlice r i (.again r' i')
  | zero {r' : Reader} {i' : Input} (stopped : (cut accepts (r.pending ++ i.bytes)).stopped = true)
    (state : r'.state = .ReadingLength) (full : r'.buffer.length = 4) : Iterates fromSlice r i (.again r' i')
  | returned {r' : Reader} {i' : Input} {b : List (List UInt8)} {value : Option V}
    (advances : Advances r i b r' i') (values : b.filterMap fromSlice = value.toList)
    (remaining : i'.remaining < i.remaining ∨ i.ended = false ∧ i.chunks = [] ∧ i' = i) :
    Iterates fromSlice r i (.returned value r' i')

lemma iterates_readBuffer (hs : r.state = .ReadingBuffer) (hv : r.Valid) :
    Iterates fromSlice r i (readBuffer fromSlice r i) := by
  obtain ⟨state, buffer, length⟩ := r
  obtain rfl : state = .ReadingBuffer := hs
  obtain ⟨h₀, hn, hb⟩ : length ≠ 0 ∧ length < 2 ^ 32 ∧ buffer.length < length := hv
  rw [readBuffer]
  rw [if_neg (by simpa [h₀] using hb)]
  rcases hr : i.read (length - buffer.length) with ⟨data, i'⟩
  cases data with
  | none =>
    obtain ⟨hr', hm⟩ := Input.reads_none hr
    refine .returned (b := []) (advances_of_reads hr' ⟨h₀, hn, hb⟩ ?_) rfl ?_
    · rw [List.append_nil]
      exact cut_pending ⟨h₀, hn, hb⟩
    · exact hm.imp_right fun ⟨hc, he, hi⟩ => ⟨he, hc, hi⟩
  | some data =>
    obtain ⟨hr', hm⟩ := Input.reads_some (by omega) hr
    have hl := hr'.length
    have ha : accepts length = true := by simpa [accepts] using h₀
    dsimp only
    split
    · next hd =>
      refine .again (b := []) (advances_of_reads hr' ⟨h₀, hn, hd⟩ ?_) rfl (hm.imp_right (·.2))
      simp only [pending, List.append_assoc]
      exact cut_unfinished hn ha (by simpa using hd)
    · next hd =>
      have hf : (buffer ++ data).length = length := by
        rw [List.length_append] at hd ⊢
        omega
      have hc : cut accepts (pending ⟨.ReadingBuffer, buffer, length⟩ ++ data) = { bodies := [buffer ++ data] } := by
        have h : cut accepts (frame (buffer ++ data) ++ []) = _ := cut_frame (by rwa [hf]) (by rwa [hf]) []
        rw [frame, hf, List.append_nil] at h
        simp only [pending, List.append_assoc]
        rw [← List.append_assoc (bytes 4 length), List.append_assoc, h, cut_short (by simp)]
        rfl
      have hadv : Advances ⟨.ReadingBuffer, buffer, length⟩ i [buffer ++ data] ⟨.ReadingLength, [], length⟩ i' :=
        advances_of_reads hr' (by simp [Valid]) hc
      have hrem : i'.remaining < i.remaining := by
        obtain hm | ⟨rfl, -⟩ := hm
        · exact hm
        · rw [List.append_nil] at hf
          omega
      cases hj : fromSlice (buffer ++ data) with
      | none => exact .again hadv (by simp [hj]) (.inl hrem)
      | some value => exact .returned hadv (by simp [hj]) (.inl hrem)

lemma Iterates.after {result : Iteration V} (h : Advances r i [] r' i') (hm : i'.remaining < i.remaining)
    (hi : Iterates fromSlice r' i' result) : Iterates fromSlice r i result := by
  cases hi with
  | again advances values remaining =>
    refine .again (h.trans advances) values (.inl ?_)
    obtain h' | ⟨-, rfl⟩ := remaining
    · exact h'.trans hm
    · exact hm
  | zero stopped state full =>
    refine .zero ?_ state full
    rw [h.cut]
    exact stopped
  | returned advances values remaining =>
    refine .returned (h.trans advances) values (.inl ?_)
    obtain h' | ⟨-, -, rfl⟩ := remaining
    · exact h'.trans hm
    · exact hm

variable (fromSlice) in
lemma iterates_iterate (hv : r.Valid) : Iterates fromSlice r i (iterate fromSlice r i) := by
  rw [iterate]
  cases hs : r.state with
  | ReadingBuffer => exact iterates_readBuffer hs hv
  | ReadingLength =>
    obtain ⟨state, buffer, length⟩ := r
    obtain rfl : state = .ReadingLength := hs
    have hb : buffer.length < 4 := hv
    dsimp only
    rw [if_neg (by omega)]
    rcases hr : i.read (4 - buffer.length) with ⟨data, i'⟩
    cases data with
    | none =>
      obtain ⟨hr', hm⟩ := Input.reads_none hr
      refine .returned (b := []) (advances_of_reads hr' hb ?_) rfl (hm.imp_right fun ⟨hc, he, hi⟩ => ⟨he, hc, hi⟩)
      rw [List.append_nil]
      exact cut_short hb
    | some data =>
      obtain ⟨hr', hm⟩ := Input.reads_some (by omega) hr
      have hl := hr'.length
      dsimp only
      split
      · next hd => exact .again (b := []) (advances_of_reads hr' hd (cut_short hd)) rfl (hm.imp_right (·.2))
      · next hd =>
        have hf : (buffer ++ data).length = 4 := by
          rw [List.length_append] at hd ⊢
          omega
        have hrem : i'.remaining < i.remaining := by
          obtain hm | ⟨rfl, -⟩ := hm
          · exact hm
          · rw [List.append_nil] at hf
            omega
        obtain ⟨n, more, hn, he⟩ := exists_header hf.ge
        obtain rfl : more = [] := List.length_eq_zero_iff.mp (by simpa [he] using hf)
        have hval : LittleEndian.value (buffer ++ data) = n := by
          have ht := take_header hn []
          rwa [← he, List.take_of_length_le hf.le] at ht
        rw [hval]
        split
        · next h₀ =>
          refine .zero ?_ rfl hf
          rw [pending, ← hr'.bytes, ← List.append_assoc, he, List.append_assoc, cut_stopped hn (by simp [accepts, h₀])]
        · next h₀ =>
          have hv' : Valid ⟨.ReadingBuffer, [], n⟩ := ⟨h₀, hn, by simpa using Nat.pos_of_ne_zero h₀⟩
          refine (iterates_readBuffer rfl hv').after (advances_of_reads hr' hv' ?_) hrem
          rw [pending, he]
          exact cut_pending hv'

/-- What a call does, within so many iterations that it returns unless the stream ends. -/
inductive Reads (fromSlice : List UInt8 → Option V) (fuel : ℕ) (r : Reader) (i : Input) : Iteration V → Prop
  | again {r' : Reader} {i' : Input} (spent : fuel ≤ i.remaining + 1 ∨ i.ended = true) :
    Reads fromSlice fuel r i (.again r' i')
  | panicked (stopped : (cut accepts (r.pending ++ i.bytes)).stopped = true) : Reads fromSlice fuel r i .panicked
  | returned {r' : Reader} {i' : Input} {bodies : List (List UInt8)} {value : Option V}
    (advances : Advances r i bodies r' i') (values : bodies.filterMap fromSlice = value.toList)
    (remaining : i'.remaining < i.remaining ∨ i.ended = false ∧ i'.chunks = []) :
    Reads fromSlice fuel r i (.returned value r' i')

lemma Reads.after {result : Iteration V} (h : Advances r i bodies r' i') (hb : bodies.filterMap fromSlice = [])
    (hm : i'.remaining < i.remaining ∨ i.ended = true ∧ i' = i) (hi : Reads fromSlice fuel r' i' result) :
    Reads fromSlice (fuel + 1) r i result := by
  cases hi with
  | again hf =>
    refine .again ?_
    obtain hm | ⟨he, -⟩ := hm
    · exact hf.imp (fun hf => by omega) (h.ended ▸ ·)
    · exact .inr he
  | panicked stopped =>
    refine .panicked ?_
    rw [h.cut]
    exact stopped
  | returned advances values remaining =>
    refine .returned (h.trans advances) (by rw [List.filterMap_append, hb, values]; rfl) ?_
    rw [h.ended] at remaining
    obtain hm | ⟨-, rfl⟩ := hm
    · exact remaining.imp_left (·.trans hm)
    · exact remaining

variable (fromSlice) in
lemma reads_readInput (fuel : ℕ) (hv : r.Valid) : Reads fromSlice fuel r i (readInput fromSlice fuel r i) := by
  induction fuel generalizing r i with
  | zero => exact .again (.inl (Nat.zero_le _))
  | succ fuel ih =>
    have hi := iterates_iterate fromSlice (i := i) hv
    rw [readInput]
    generalize iterate fromSlice r i = result at hi ⊢
    cases hi with
    | again advances values remaining => exact (ih advances.valid).after advances values remaining
    | returned advances values remaining =>
      exact .returned advances values (remaining.imp_right fun ⟨he, hc, hi⟩ => ⟨he, hi ▸ hc⟩)
    | zero stopped state full =>
      dsimp only
      cases fuel with
      | zero => exact .again (.inl (by omega))
      | succ fuel =>
        rw [readInput, iterate, state]
        dsimp only
        rw [if_pos full.ge]
        exact .panicked stopped

lemma remaining_eq_zero_iff : i.remaining = 0 ↔ i.chunks = [] := by
  rw [Input.remaining]
  cases i.chunks <;> simp

lemma Advances.refl (hv : r.Valid) : Advances r i [] r i := ⟨hv, rfl, rfl⟩

lemma advances_of_calls {values : List V} (hv : r.Valid) (h : calls fromSlice fuel n r i = some (values, r', i')) :
    (∃ bodies, Advances r i bodies r' i' ∧ bodies.filterMap fromSlice = values) ∧
      (i'.remaining + n ≤ i.remaining ∨ i.ended = false ∧ i'.chunks = []) := by
  induction n generalizing r i values with
  | zero =>
    obtain ⟨rfl, rfl, rfl⟩ : [] = values ∧ r = r' ∧ i = i' := by simpa [calls] using h
    exact ⟨⟨[], .refl hv, rfl⟩, .inl le_rfl⟩
  | succ n ih =>
    have hi := reads_readInput fromSlice (i := i) fuel hv
    rw [calls] at h
    generalize readInput fromSlice fuel r i = result at hi h
    cases hi with
    | again spent => cases h
    | panicked stopped => cases h
    | returned advances hvs remaining =>
      obtain ⟨⟨others, r₁, i₁⟩, hc, he⟩ := Option.map_eq_some_iff.mp h
      obtain ⟨rfl, rfl, rfl⟩ : _ = values ∧ r₁ = r' ∧ i₁ = i' := by simpa using he
      obtain ⟨⟨bodies, ha, hb⟩, hr⟩ := ih advances.valid hc
      refine ⟨⟨_, advances.trans ha, by rw [List.filterMap_append, hvs, hb]⟩, ?_⟩
      rw [advances.ended] at hr
      obtain hr | hr := hr
      · obtain hm | ⟨he, hm⟩ := remaining
        · exact .inl (by omega)
        · rw [remaining_eq_zero_iff.mpr hm] at hr
          exact .inr ⟨he, remaining_eq_zero_iff.mp (by omega)⟩
      · exact .inr hr

variable (fromSlice) in
lemma isSome_calls (hv : r.Valid) (he : i.ended = false) (hs : (cut accepts (r.pending ++ i.bytes)).stopped = false)
    (hf : i.remaining + 1 < fuel) (n : ℕ) : (calls fromSlice fuel n r i).isSome := by
  induction n generalizing r i with
  | zero => rfl
  | succ n ih =>
    have hi := reads_readInput fromSlice (i := i) fuel hv
    rw [calls]
    generalize readInput fromSlice fuel r i = result at hi ⊢
    cases hi with
    | again spent =>
      obtain h | h := spent
      · omega
      · simp [he] at h
    | panicked stopped => simp [hs] at stopped
    | returned advances values remaining =>
      rw [Option.isSome_map]
      refine ih advances.valid (advances.ended.trans he) ?_ ?_
      · rwa [advances.cut] at hs
      · obtain hm | ⟨-, hm⟩ := remaining
        · omega
        · rw [remaining_eq_zero_iff.mpr hm]
          omega

lemma Advances.cut_of_chunks (h : Advances {} i bodies r' i') (hc : i'.chunks = []) :
    Frames.cut accepts i.bytes = { bodies, rest := r'.pending } := by
  have hb : i'.bytes = [] := by simp [Input.bytes, hc]
  have h' : Frames.cut accepts i.bytes = _ := h.cut
  rw [h', hb, List.append_nil, cut_pending h.valid]
  simp [Cut.after]

lemma values_eq {stream : List UInt8} (h : (cut accepts stream).stopped = false) :
    values fromSlice stream = (cut accepts stream).bodies.filterMap fromSlice := by
  have hm : cut (fun _ => true) stream = cut accepts stream := cut_mono (fun _ _ => rfl) h
  rw [values, hm, List.filter_eq_self.mpr]
  intro body hb
  have ha := accepted_of_mem_bodies hb
  simpa [accepts] using ha

lemma recovers_iff (i : Input) : Recovers fromSlice i ↔
    i.ended = false ∧ (cut accepts i.bytes).stopped = false := by
  have hv : Valid {} := by simp [Valid]
  constructor
  · rintro ⟨n, fuel₀, h⟩
    obtain ⟨r', i', hc⟩ := h (max n (i.remaining + 1)) (le_max_left _ _) fuel₀ le_rfl
    obtain ⟨⟨bodies, ha, -⟩, hr⟩ := advances_of_calls hv hc
    obtain ⟨he, hc⟩ : i.ended = false ∧ i'.chunks = [] := hr.resolve_left (by omega)
    exact ⟨he, by rw [ha.cut_of_chunks hc]⟩
  · rintro ⟨he, hs⟩
    refine ⟨i.remaining + 1, i.remaining + 2, fun k hk fuel hf => ?_⟩
    obtain ⟨⟨vs, r', i'⟩, hc⟩ := Option.isSome_iff_exists.mp (isSome_calls fromSlice hv he hs hf k)
    obtain ⟨⟨bodies, ha, hb⟩, hr⟩ := advances_of_calls hv hc
    obtain ⟨-, hc'⟩ := hr.resolve_left (by omega)
    refine ⟨r', i', ?_⟩
    rw [hc, values_eq hs, ha.cut_of_chunks hc', hb]

end Reader

end VpnClient.WebExtension
