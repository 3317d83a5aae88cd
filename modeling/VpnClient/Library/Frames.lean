import VpnClient.Library.LittleEndian

/-! Streams of frames, each of which is the length of its body in four bytes and the body. -/

namespace VpnClient.Library.Frames

open LittleEndian

def frame (body : List UInt8) : List UInt8 := bytes 4 body.length ++ body

/-- The bodies of the frames that a stream ends and what it leaves of an unfinished one, unless it was stopped at
a length that is not accepted. -/
structure Cut where
  bodies : List (List UInt8) := []
  rest : List UInt8 := []
  stopped : Bool := false

def Cut.after (bodies : List (List UInt8)) (c : Cut) : Cut := { c with bodies := bodies ++ c.bodies }

def cut (ok : ℕ → Bool) (stream : List UInt8) : Cut :=
  if stream.length < 4 then { rest := stream }
  else if !ok (value (stream.take 4)) then { stopped := true }
  else if stream.length < 4 + value (stream.take 4) then { rest := stream }
  else (cut ok (stream.drop (4 + value (stream.take 4)))).after [(stream.drop 4).take (value (stream.take 4))]
termination_by stream.length

variable {ok ok' : ℕ → Bool} {stream more body : List UInt8} {bodies others : List (List UInt8)} {c : Cut} {n : ℕ}

@[simp] lemma after_nil : c.after [] = c := rfl

@[simp] lemma after_after : (c.after others).after bodies = c.after (bodies ++ others) := by
  simp [Cut.after]

lemma cut_short (h : stream.length < 4) : cut ok stream = { rest := stream } := by
  rw [cut, if_pos h]

lemma take_header (h : n < 2 ^ 32) (more : List UInt8) : value ((bytes 4 n ++ more).take 4) = n := by
  rw [List.take_left' (length_bytes 4 n), value_bytes, Nat.mod_eq_of_lt (by simpa using h)]

lemma drop_header (n : ℕ) (more : List UInt8) : (bytes 4 n ++ more).drop 4 = more :=
  List.drop_left' (length_bytes 4 n)

lemma cut_stopped (hn : n < 2 ^ 32) (ho : ok n = false) : cut ok (bytes 4 n ++ more) = { stopped := true } := by
  rw [cut, if_neg (by simp), take_header hn]
  simp [ho]

lemma cut_unfinished (hn : n < 2 ^ 32) (ho : ok n = true) (hm : more.length < n) :
    cut ok (bytes 4 n ++ more) = { rest := bytes 4 n ++ more } := by
  rw [cut, if_neg (by simp), take_header hn]
  simp [ho, hm]

lemma cut_frame (hn : body.length < 2 ^ 32) (ho : ok body.length = true) (more : List UInt8) :
    cut ok (frame body ++ more) = (cut ok more).after [body] := by
  rw [frame]
  rw [List.append_assoc, cut, if_neg (by simp), take_header hn, drop_header, ← List.drop_drop, drop_header,
    List.drop_left, List.take_left]
  simp [ho]

lemma exists_header (h : 4 ≤ stream.length) : ∃ n more, n < 2 ^ 32 ∧ stream = bytes 4 n ++ more := by
  have hl : (stream.take 4).length = 4 := by simp [h]
  have hb := bytes_value (stream.take 4)
  rw [hl] at hb
  have hv := value_bytes 4 (value (stream.take 4))
  rw [hb] at hv
  refine ⟨value (stream.take 4), stream.drop 4, ?_, ?_⟩
  · rw [hv]
    exact Nat.mod_lt _ (by norm_num)
  · rw [hb, List.take_append_drop]

@[elab_as_elim]
lemma stream_induction (ok : ℕ → Bool) {motive : List UInt8 → Prop}
    (short : ∀ stream, stream.length < 4 → motive stream)
    (stopped : ∀ n more, n < 2 ^ 32 → ok n = false → motive (bytes 4 n ++ more))
    (unfinished : ∀ n more, n < 2 ^ 32 → ok n = true → more.length < n → motive (bytes 4 n ++ more))
    (frame : ∀ body more, body.length < 2 ^ 32 → ok body.length = true → motive more → motive (frame body ++ more))
    (stream : List UInt8) : motive stream := by
  induction hl : stream.length using Nat.strong_induction_on generalizing stream with
  | _ l ih =>
    subst hl
    by_cases h : stream.length < 4
    · exact short stream h
    · obtain ⟨n, more, hn, rfl⟩ := exists_header (by omega : 4 ≤ stream.length)
      cases ho : ok n with
      | false => exact stopped n more hn ho
      | true =>
        by_cases hm : more.length < n
        · exact unfinished n more hn ho hm
        · have ht : (more.take n).length = n := by simp; omega
          have hf := frame (more.take n) (more.drop n) (by rwa [ht]) (by rwa [ht])
            (ih (more.drop n).length (by simp; omega) _ rfl)
          rwa [Frames.frame, ht, List.append_assoc, List.take_append_drop] at hf

lemma cut_append (ok : ℕ → Bool) (stream more : List UInt8) : cut ok (stream ++ more) =
    if (cut ok stream).stopped then cut ok stream
    else (cut ok ((cut ok stream).rest ++ more)).after (cut ok stream).bodies := by
  induction stream using stream_induction ok with
  | short stream h => simp [cut_short h]
  | stopped n tail hn ho => simp [cut_stopped hn ho]
  | unfinished n tail hn ho hm => simp [cut_unfinished hn ho hm]
  | frame body tail hn ho ih =>
    rw [List.append_assoc, cut_frame hn ho, cut_frame hn ho, ih]
    by_cases hs : (cut ok tail).stopped = true <;> simp [Cut.after, hs]

lemma cut_rest (h : (cut ok stream).stopped = false) : cut ok (cut ok stream).rest = { rest := (cut ok stream).rest } := by
  induction stream using stream_induction ok with
  | short stream hs => simp [cut_short hs]
  | stopped n tail hn ho => simp [cut_stopped hn ho] at h
  | unfinished n tail hn ho hm => simp [cut_unfinished hn ho hm]
  | frame body tail hn ho ih =>
    rw [cut_frame hn ho] at h ⊢
    exact ih h

lemma cut_mono (ho : ∀ n, ok n = true → ok' n = true) (h : (cut ok stream).stopped = false) :
    cut ok' stream = cut ok stream := by
  induction stream using stream_induction ok with
  | short stream hs => rw [cut_short hs, cut_short hs]
  | stopped n tail hn hf => simp [cut_stopped hn hf] at h
  | unfinished n tail hn ht hm => rw [cut_unfinished hn ht hm, cut_unfinished hn (ho _ ht) hm]
  | frame body tail hn ht ih =>
    rw [cut_frame hn ht] at h ⊢
    rw [cut_frame hn (ho _ ht), ih h]

lemma accepted_of_mem_bodies (h : body ∈ (cut ok stream).bodies) : ok body.length = true := by
  induction stream using stream_induction ok with
  | short stream hs => simp [cut_short hs] at h
  | stopped n tail hn hf => simp [cut_stopped hn hf] at h
  | unfinished n tail hn ht hm => simp [cut_unfinished hn ht hm] at h
  | frame other tail hn ht ih =>
    rw [cut_frame hn ht] at h
    obtain rfl | h := List.mem_cons.mp h
    · exact ht
    · exact ih h

lemma cut_frames (hb : ∀ body ∈ bodies, body.length < 2 ^ 32 ∧ ok body.length = true) :
    cut ok (bodies.flatMap frame) = { bodies } := by
  induction bodies with
  | nil => exact cut_short (by simp)
  | cons body bodies ih =>
    obtain ⟨h, hb⟩ := List.forall_mem_cons.mp hb
    rw [List.flatMap_cons, cut_frame h.1 h.2, ih hb]
    rfl

end VpnClient.Library.Frames
