import VpnClient.WebExtension.Connection
import VpnClient.WebExtension.Reader

/-! The messages between the bridge and the client: what one side writes, the other side reads. -/

namespace VpnClient.WebExtension

open Library Library.Frames Library.Runs

/-- How JSON is written and read by the bridge, and by the client, which reads only objects. -/
structure Json (J : Type) where
  toString : J → Bytes
  fromSlice : Bytes → Option J
  toJson : J → Bytes
  fromJson : Bytes → Option J

variable {J : Type} (json : Json J)

/-- What the bridge writes for a value. -/
def writeOutput (value : J) : Bytes :=
  let msg := json.toString value
  LittleEndian.bytes 4 msg.length ++ msg

def Connection.writeMessage (c : Connection J) (data : J) : Connection J := c.writeData (json.toJson data)

variable {json} {c : Connection J} {values : List J}

lemma written_writeMessage (ho : c.isOpen = true) (values : List J) :
    (run (Connection.writeMessage json) c values).written = c.written ++ (values.map json.toJson).flatMap frame := by
  induction values generalizing c with
  | nil => simp
  | cons value values ih =>
    have hc : c.writeMessage json value = { c with written := c.written ++ frame (json.toJson value) } := if_pos ho
    rw [run_cons, hc, ih (c := { c with written := c.written ++ frame (json.toJson value) }) ho]
    simp

variable (json) in
lemma run_messages (inputs : List Bytes) :
    let c := run (Connection.step json.fromJson) {} inputs
    let s := cut Connection.accepts inputs.flatten
    c.messages = s.bodies ∧ c.received = s.bodies.filterMap json.fromJson ∧ c.isOpen = !s.stopped := by
  obtain ⟨hm, hr, hc, -⟩ := Connection.run_processed json.fromJson (c := {})
    (fun h => by cases h) rfl (cut_short (by simp [Connection.pending])) inputs
  exact ⟨hm, hr, hc⟩

lemma accepts_of_le {n : ℕ} (h₁ : 1 ≤ n) (h₂ : n ≤ 1024 * 1024) :
    n < 2 ^ 32 ∧ Connection.accepts n = true ∧ Reader.accepts n = true := by
  have h₀ : (n != 0) = true := by simpa using (by omega : n ≠ 0)
  refine ⟨by omega, ?_, h₀⟩
  rw [Connection.accepts, h₀, Bool.true_and]
  exact decide_eq_true h₂

lemma filterMap_map {f : J → Bytes} {g : Bytes → Option J} (h : ∀ value ∈ values, g (f value) = some value) :
    (values.map f).filterMap g = values := by
  rw [List.filterMap_map]
  exact (List.filterMap_congr h).trans List.filterMap_some

variable (json) in
/-- The client reads the messages of a stream however it is split, and closes at a length that it does not accept;
the bridge does, however its reads are split, exactly if the stream has no length of zero and does not end. So what one
side writes is read by the other. -/
theorem messages_recovered :
    (∀ input : Input, Reader.Recovers json.fromSlice input ↔
      input.ended = false ∧ (cut Reader.accepts input.bytes).stopped = false) ∧
    (∀ inputs : List Bytes,
      let c := run (Connection.step json.fromJson) {} inputs
      let s := cut Connection.accepts inputs.flatten
      c.messages = s.bodies ∧ c.received = s.bodies.filterMap json.fromJson ∧ c.isOpen = !s.stopped) ∧
    (∀ (values : List J) (inputs : List Bytes),
      (∀ value ∈ values, 1 ≤ (json.toString value).length ∧ (json.toString value).length ≤ 1024 * 1024) →
      inputs.flatten = values.flatMap (writeOutput json) →
      let c := run (Connection.step json.fromJson) {} inputs
      c.isOpen = true ∧ c.messages = values.map json.toString ∧
        ((∀ value ∈ values, json.fromJson (json.toString value) = some value) → c.received = values)) ∧
    (∀ (values : List J) (input : Input),
      (∀ value ∈ values, 1 ≤ (json.toJson value).length ∧ (json.toJson value).length ≤ 1024 * 1024) →
      (∀ value ∈ values, json.fromSlice (json.toJson value) = some value) → input.ended = false →
      input.bytes = (run (Connection.writeMessage json) {} values).written →
      Reader.Recovers json.fromSlice input ∧ Reader.values json.fromSlice input.bytes = values) := by
  refine ⟨Reader.recovers_iff, run_messages json, ?_, ?_⟩
  · intro values inputs hl hi
    have hb : cut Connection.accepts inputs.flatten = { bodies := values.map json.toString } := by
      have hf : values.flatMap (writeOutput json) = (values.map json.toString).flatMap frame := by
        rw [List.flatMap_map]
        rfl
      rw [hi, hf]
      refine cut_frames fun body hm => ?_
      obtain ⟨value, hv, rfl⟩ := List.mem_map.mp hm
      obtain ⟨h, ha, -⟩ := accepts_of_le (hl value hv).1 (hl value hv).2
      exact ⟨h, ha⟩
    obtain ⟨hm, hr, hc⟩ := run_messages json inputs
    rw [hb] at hm hr hc
    exact ⟨hc, hm, fun hj => hr.trans (filterMap_map hj)⟩
  · intro values input hl hj he hi
    have hb : cut Reader.accepts input.bytes = { bodies := values.map json.toJson } := by
      rw [hi, written_writeMessage rfl]
      refine cut_frames fun body hm => ?_
      obtain ⟨value, hv, rfl⟩ := List.mem_map.mp hm
      obtain ⟨h, -, ha⟩ := accepts_of_le (hl value hv).1 (hl value hv).2
      exact ⟨h, ha⟩
    have hs : (cut Reader.accepts input.bytes).stopped = false := by rw [hb]
    refine ⟨(Reader.recovers_iff input).mpr ⟨he, hs⟩, ?_⟩
    rw [Reader.values_eq hs, hb]
    exact filterMap_map hj

/-- Two empty objects, split and blocked within a length and within a body. -/
theorem messages_recovered_empty_objects :
    let text : Bytes := [0x7b, 0x7d]
    let parse : Bytes → Option Unit := fun body => if body = text then some () else none
    let json : Json Unit := ⟨fun _ => text, parse, fun _ => text, parse⟩
    let inputs : List Bytes := [[2, 0], [0, 0, 0x7b], [0x7d, 2, 0, 0, 0, 0x7b, 0x7d]]
    let input : Input := ⟨[some [2], none, some [0, 0, 0, 0x7b], none, some [0x7d, 2, 0, 0, 0, 0x7b, 0x7d]], false⟩
    (run (Connection.step json.fromJson) {} inputs).received = [(), ()] ∧
      Reader.Recovers json.fromSlice input ∧ Reader.values json.fromSlice input.bytes = [(), ()] := by
  intro text parse json inputs input
  obtain ⟨-, -, hc, hr⟩ := messages_recovered json
  have hl : ∀ value ∈ [(), ()], 1 ≤ (json.toString value).length ∧ (json.toString value).length ≤ 1024 * 1024 :=
    fun _ _ => ⟨Nat.le_of_ble_eq_true rfl, Nat.le_of_ble_eq_true rfl⟩
  have hb : input.bytes = (run (Connection.writeMessage json) {} [(), ()]).written := by decide
  exact ⟨(hc [(), ()] inputs hl (by decide)).2.2 fun _ _ => rfl, hr [(), ()] input hl (fun _ _ => rfl) rfl hb⟩

/-- A length of zero leaves the buffer full, which the next iteration asserts against, and at the end of the stream
the loop goes on forever. -/
theorem messages_lost :
    let parse : Bytes → Option Unit := fun body => if body = [0x7b, 0x7d] then some () else none
    let zero : Input := ⟨[some [0, 0, 0, 0, 2, 0, 0, 0, 0x7b, 0x7d]], false⟩
    let ended : Input := ⟨[some [2, 0, 0, 0, 0x7b, 0x7d]], true⟩
    Reader.readInput parse 2 {} zero = .panicked ∧ Reader.values parse zero.bytes = [()] ∧
      ¬Reader.Recovers parse zero ∧ ¬Reader.Recovers parse ended := by
  intro parse zero ended
  have hz : zero.bytes = LittleEndian.bytes 4 0 ++ frame [0x7b, 0x7d] := by decide
  have hs : (cut Reader.accepts zero.bytes).stopped = true := by
    rw [hz, cut_stopped (by norm_num) rfl]
  have hv : Reader.values parse zero.bytes = [()] := by
    have hf : LittleEndian.bytes 4 0 ++ frame [0x7b, 0x7d] = [[], [0x7b, 0x7d]].flatMap frame := by decide
    rw [Reader.values, hz, hf, cut_frames (by decide)]
    decide
  refine ⟨rfl, hv, fun h => ?_, fun h => ?_⟩
  · have hn := ((Reader.recovers_iff zero).mp h).2
    simp [hs] at hn
  · exact absurd ((Reader.recovers_iff ended).mp h).1 (by decide)

end VpnClient.WebExtension
