import VpnClient.Library.Slots

/-! A group of tasks: each subtask is run once and in order as long as those that complete at once do not shift the
others in the list, and the group is completed once unless all of them do. -/

namespace VpnClient.Tasks

open Library

/-- The subtasks are numbered. `ran` are those that were run, `emitted` tells how often `completed` was emitted. -/
structure TaskGroup where
  tasks : Slots ℕ
  connected : List ℕ := []
  ran : List ℕ := []
  emitted : ℕ := 0

namespace TaskGroup

def maybeComplete (g : TaskGroup) : TaskGroup := if g.tasks.size = 0 then { g with emitted := g.emitted + 1 } else g

/-- What is connected to the completion of a subtask. -/
def subtaskCompleted (task : ℕ) (g : TaskGroup) : TaskGroup := { g with tasks := g.tasks.removeOne task }.maybeComplete

/-- A subtask emits `completed`, to which each run of it has connected the group. -/
def complete (g : TaskGroup) (task : ℕ) : TaskGroup :=
  (g.connected.filter (· = task)).foldl (fun g task => g.subtaskCompleted task) g

variable (synchronous : ℕ → Bool)

/-- The iterator of the loop keeps its place in the buffer. -/
def runSubtask (g : TaskGroup) (slot : ℕ) : TaskGroup :=
  match g.tasks.buffer[slot]? with
  | none => g
  | some task =>
    let g := { g with connected := g.connected ++ [task], ran := g.ran ++ [task] }
    if synchronous task then g.complete task else g

def run (g : TaskGroup) : TaskGroup :=
  ((List.range' g.tasks.start g.tasks.size).foldl (runSubtask synchronous) g).maybeComplete

end TaskGroup

/-- Whether each subtask emits `completed` while it is run. -/
abbrev Subtasks := List Bool

namespace Subtasks

def synchronous (subtasks : Subtasks) (task : ℕ) : Bool := subtasks.getD task false

/-- The subtasks that are to complete later. -/
def asynchronous (subtasks : Subtasks) : List ℕ := (List.range subtasks.length).filter fun task => !subtasks.synchronous task

def group (subtasks : Subtasks) : TaskGroup := { tasks := .ofList (List.range subtasks.length) }

def started (subtasks : Subtasks) : TaskGroup := subtasks.group.run subtasks.synchronous

/-- Every subtask is run once, in order, and as the others complete in the given order the group is completed, once,
with the last of them. -/
def Sound (subtasks : Subtasks) (order : List ℕ) : Prop :=
  subtasks.started.ran = List.range subtasks.length ∧ ∀ before, before <+: order →
    (before.foldl TaskGroup.complete subtasks.started).emitted = if subtasks.asynchronous ⊆ before then 1 else 0

/-- A subtask that completes at once is one of the last two, or all those before it do too. -/
def Unshifted (subtasks : Subtasks) : Prop :=
  ∀ i j, i < j → j + 2 < subtasks.length → subtasks.synchronous j = true → subtasks.synchronous i = true

/-- There is a subtask that completes later, if there is any. -/
def Awaited (subtasks : Subtasks) : Prop := subtasks = [] ∨ false ∈ subtasks

instance (subtasks : Subtasks) : Decidable subtasks.Awaited := inferInstanceAs (Decidable (_ ∨ _))

/-- The subtasks that are left in the list once the first `p` were run. -/
def remaining (subtasks : Subtasks) (p : ℕ) : List ℕ :=
  (List.range subtasks.length).filter fun task => !(task < p && subtasks.synchronous task)

/-- The loop has come to the slot `p`, having run the subtasks before it in order. -/
structure Reached (subtasks : Subtasks) (p : ℕ) (g : TaskGroup) : Prop where
  slots : ∀ q, p ≤ q → q < subtasks.length → g.tasks.buffer[q]? = some q
  window : p + 1 < subtasks.length →
    g.tasks.buffer = List.range subtasks.length ∧ g.tasks.start + g.tasks.size = subtasks.length
  contents : g.tasks.contents = subtasks.remaining p
  connected : g.connected = List.range p
  ran : g.ran = List.range p
  emitted : g.emitted = if subtasks.remaining p = [] ∧ 0 < p then 1 else 0

variable {subtasks : Subtasks} {p : ℕ} {g : TaskGroup} {order : List ℕ}

lemma mem_remaining {task : ℕ} : task ∈ subtasks.remaining p ↔
    task < subtasks.length ∧ (task < p → subtasks.synchronous task = false) := by
  rw [remaining, List.mem_filter, List.mem_range]
  cases subtasks.synchronous task <;> simp

lemma remaining_zero : subtasks.remaining 0 = List.range subtasks.length := by
  simp [remaining]

lemma remaining_length : subtasks.remaining subtasks.length = subtasks.asynchronous := by
  apply List.filter_congr
  intro task ht
  simp [List.mem_range.mp ht]

lemma nodup_remaining : (subtasks.remaining p).Nodup := List.nodup_range.filter _

lemma remaining_succ_of_asynchronous (h : subtasks.synchronous p = false) :
    subtasks.remaining (p + 1) = subtasks.remaining p := by
  apply List.filter_congr
  intro task _
  by_cases ht : task = p
  · simp [ht, h]
  · have : task < p + 1 ↔ task < p := by omega
    simp [this]

lemma erase_remaining (h : subtasks.synchronous p = true) :
    (subtasks.remaining p).erase p = subtasks.remaining (p + 1) := by
  rw [nodup_remaining.erase_eq_filter, remaining, List.filter_filter]
  apply List.filter_congr
  intro task _
  by_cases ht : task = p
  · simp [ht, h]
  · have : task < p + 1 ↔ task < p := by omega
    simp [this, ht]

lemma remaining_eq_range' (hs : ∀ i < p, subtasks.synchronous i = true) (hp : p ≤ subtasks.length) :
    subtasks.remaining p = List.range' p (subtasks.length - p) := by
  rw [remaining, List.range_eq_range', show subtasks.length = p + (subtasks.length - p) by omega,
    ← List.range'_append_1, List.filter_append, List.filter_eq_nil_iff.mpr, List.filter_eq_self.mpr]
  · simp
  · intro task ht
    simp at ht
    simp; omega
  · intro task ht
    simp at ht
    simp [ht, hs task ht]

lemma reached_group : Reached subtasks 0 subtasks.group where
  slots q _ hq := by simp [group, Slots.ofList, hq]
  window _ := ⟨rfl, by simp [group, Slots.ofList]⟩
  contents := by rw [group, Slots.contents_ofList, remaining_zero]
  connected := rfl
  ran := rfl
  emitted := by simp [group]

lemma filter_range {n task : ℕ} (ht : task < n) : (List.range n).filter (· = task) = [task] := by
  rw [List.filter_eq, List.count_eq_one_of_mem List.nodup_range (List.mem_range.mpr ht), List.replicate_one]

lemma complete_of_connected {n task : ℕ} (hc : g.connected = List.range n) (ht : task < n) :
    g.complete task = g.subtaskCompleted task := by
  rw [TaskGroup.complete, hc, filter_range ht, List.foldl_cons, List.foldl_nil]

lemma size_eq_zero (l : List ℕ) (h : g.tasks.contents = l) : g.tasks.size = 0 ↔ l = [] := by
  rw [← h, ← g.tasks.length_contents, List.length_eq_zero_iff]

lemma emitted_subtaskCompleted {task : ℕ} : (g.subtaskCompleted task).emitted =
    if g.tasks.contents.erase task = [] then g.emitted + 1 else g.emitted := by
  rw [TaskGroup.subtaskCompleted, TaskGroup.maybeComplete]
  simp only [size_eq_zero (g := { g with tasks := g.tasks.removeOne task }) _ (g.tasks.contents_removeOne task)]
  split_ifs <;> rfl

lemma subtaskCompleted_of_emitted {task : ℕ} : g.subtaskCompleted task =
    { g with tasks := g.tasks.removeOne task, emitted := (g.subtaskCompleted task).emitted } := by
  rw [TaskGroup.subtaskCompleted, TaskGroup.maybeComplete]
  split_ifs <;> rfl

lemma Reached.idxOf_lt (h : Reached subtasks p g) (hp : p < subtasks.length) :
    g.tasks.contents.idxOf p < g.tasks.size := by
  rw [← g.tasks.length_contents, h.contents]
  apply List.idxOf_lt_length_of_mem
  exact mem_remaining.mpr ⟨hp, fun h => absurd h (lt_irrefl p)⟩

lemma Reached.removeOne (h : Reached subtasks p g) (hp : p < subtasks.length) :
    g.tasks.removeOne p = g.tasks.eraseAt (g.tasks.contents.idxOf p) (h.idxOf_lt hp) := by
  rw [Slots.removeOne, dif_pos]
  rw [h.contents]
  exact mem_remaining.mpr ⟨hp, fun h => absurd h (lt_irrefl p)⟩

/-- The first of the subtasks that are left is erased by moving the window. -/
lemma Reached.removeOne_of_first (h : Reached subtasks p g) (hp : p + 1 < subtasks.length)
    (hs : ∀ i < p, subtasks.synchronous i = true) : (g.tasks.removeOne p).buffer = g.tasks.buffer ∧
      (g.tasks.removeOne p).start + (g.tasks.removeOne p).size = g.tasks.start + g.tasks.size := by
  have hc : g.tasks.contents = p :: List.range' (p + 1) (subtasks.length - p - 1) := by
    rw [h.contents, remaining_eq_range' hs (by omega), ← List.range'_succ]
    congr 1; omega
  have hz : 1 < g.tasks.size := by
    rw [← g.tasks.length_contents, hc, List.length_cons, List.length_range']; omega
  have hi : g.tasks.contents.idxOf p = 0 := by rw [hc, List.idxOf_cons_self]
  rw [h.removeOne (by omega), Slots.eraseAt, if_pos ⟨hi, hz⟩]
  exact ⟨rfl, by dsimp only; omega⟩

/-- Only the last slot is left to the loop, and it keeps what it held. -/
lemma Reached.slots_removeOne_of_last (h : Reached subtasks p g) (hp : subtasks.length ≤ p + 2) {q : ℕ} (hq : p < q)
    (hn : q < subtasks.length) : (g.tasks.removeOne p).buffer[q]? = some q := by
  have hw := (h.window (by omega)).2
  rw [h.removeOne (by omega), Slots.eraseAt]
  split
  · exact h.slots q hq.le hn
  · dsimp only
    rw [g.tasks.getElem?_shifted (h.idxOf_lt (by omega)), if_neg (by omega)]
    exact h.slots q hq.le hn

/-- What makes the loop go on to the next subtask. -/
def Steady (subtasks : Subtasks) (p : ℕ) : Prop :=
  p + 2 < subtasks.length → subtasks.synchronous p = true → ∀ i < p, subtasks.synchronous i = true

lemma Reached.emitted_eq_zero (h : Reached subtasks p g) (hp : p < subtasks.length) : g.emitted = 0 := by
  have hm : p ∈ subtasks.remaining p := mem_remaining.mpr ⟨hp, fun h => absurd h (lt_irrefl p)⟩
  rw [h.emitted, if_neg]
  rintro ⟨he, -⟩
  rw [he] at hm
  exact List.not_mem_nil hm

lemma Reached.runSubtask_of_asynchronous (h : Reached subtasks p g) (hp : p < subtasks.length)
    (hs : subtasks.synchronous p = false) :
    g.runSubtask subtasks.synchronous p = { g with connected := g.connected ++ [p], ran := g.ran ++ [p] } := by
  rw [TaskGroup.runSubtask, h.slots p le_rfl hp]
  simp [hs]

lemma Reached.runSubtask_of_synchronous (h : Reached subtasks p g) (hp : p < subtasks.length)
    (hs : subtasks.synchronous p = true) : g.runSubtask subtasks.synchronous p =
      { g with connected := g.connected ++ [p], ran := g.ran ++ [p] }.subtaskCompleted p := by
  rw [TaskGroup.runSubtask, h.slots p le_rfl hp]
  simp only [hs, if_true]
  apply complete_of_connected (n := p + 1)
  · rw [h.connected, List.range_succ]
  · omega

lemma Reached.step_of_asynchronous (h : Reached subtasks p g) (hp : p < subtasks.length)
    (hs : subtasks.synchronous p = false) : Reached subtasks (p + 1) (g.runSubtask subtasks.synchronous p) := by
  have hr := remaining_succ_of_asynchronous hs
  rw [h.runSubtask_of_asynchronous hp hs]
  constructor
  case slots => intro q hq hn; exact h.slots q (by omega) hn
  case window => intro hn; exact h.window (by omega)
  case contents => exact h.contents.trans hr.symm
  case connected => rw [h.connected, List.range_succ]
  case ran => rw [h.ran, List.range_succ]
  case emitted =>
    have hm : p ∈ subtasks.remaining (p + 1) := mem_remaining.mpr ⟨hp, fun _ => hs⟩
    rw [if_neg (by rintro ⟨he, -⟩; rw [he] at hm; exact List.not_mem_nil hm)]
    exact h.emitted_eq_zero hp

lemma Reached.step_of_synchronous (h : Reached subtasks p g) (hp : p < subtasks.length)
    (hs : subtasks.synchronous p = true) (hc : subtasks.Steady p) :
    Reached subtasks (p + 1) (g.runSubtask subtasks.synchronous p) := by
  rw [h.runSubtask_of_synchronous hp hs, subtaskCompleted_of_emitted]
  constructor
  case slots =>
    intro q hq hn
    by_cases hl : p + 2 < subtasks.length
    · dsimp only
      rw [(h.removeOne_of_first (by omega) (hc hl hs)).1]
      exact h.slots q (by omega) hn
    · exact h.slots_removeOne_of_last (by omega) (by omega) hn
  case window =>
    intro hn
    have hf := h.removeOne_of_first (by omega) (hc (by omega) hs)
    exact ⟨hf.1.trans (h.window (by omega)).1, hf.2.trans (h.window (by omega)).2⟩
  case contents => dsimp only; rw [g.tasks.contents_removeOne, h.contents, erase_remaining hs]
  case connected =>
    dsimp only
    rw [h.connected, List.range_succ]
  case ran => dsimp only; rw [h.ran, List.range_succ]
  case emitted =>
    dsimp only
    rw [emitted_subtaskCompleted]
    dsimp only
    rw [h.contents, erase_remaining hs, h.emitted_eq_zero hp]
    simp

lemma Reached.step (h : Reached subtasks p g) (hp : p < subtasks.length) (hc : subtasks.Steady p) :
    Reached subtasks (p + 1) (g.runSubtask subtasks.synchronous p) := by
  cases hs : subtasks.synchronous p with
  | false => exact h.step_of_asynchronous hp hs
  | true => exact h.step_of_synchronous hp hs hc

/-- The group when the loop has passed the slots before `p`. -/
def loop (subtasks : Subtasks) (p : ℕ) : TaskGroup :=
  (List.range p).foldl (TaskGroup.runSubtask subtasks.synchronous) subtasks.group

lemma loop_succ : subtasks.loop (p + 1) = (subtasks.loop p).runSubtask subtasks.synchronous p := by
  rw [loop, List.range_succ, List.foldl_append]
  rfl

lemma started_eq : subtasks.started = (subtasks.loop subtasks.length).maybeComplete := by
  rw [started, TaskGroup.run, loop, List.range_eq_range']
  simp [group, Slots.ofList]

lemma reached_loop (hs : ∀ i < p, subtasks.Steady i) (hp : p ≤ subtasks.length) :
    Reached subtasks p (subtasks.loop p) := by
  induction p with
  | zero => exact reached_group
  | succ p ih =>
    rw [loop_succ]
    apply Reached.step
    · exact ih (fun i hi => hs i (by omega)) (by omega)
    · omega
    · exact hs p (by omega)

lemma unshifted_iff : subtasks.Unshifted ↔ ∀ p, subtasks.Steady p := by
  constructor
  · intro h p hp hs i hi
    exact h i p hi hp hs
  · intro h i j hi hj hs
    exact h j hj hs i hi

lemma Reached.place (h : Reached subtasks p g) (hp : p + 1 < subtasks.length) {k task : ℕ}
    (hk : g.tasks.contents[k]? = some task) : g.tasks.start + k = task := by
  rw [Slots.getElem?_contents, (h.window hp).1] at hk
  split at hk
  · exact (List.getElem?_eq_some_iff.mp hk).2 ▸ (List.getElem_range _).symm
  · simp at hk

/-- If another one is still before it, the subtask that completes makes the loop pass over the next one. -/
lemma Reached.passed (h : Reached subtasks p g) (hp : p + 2 < subtasks.length) (hs : subtasks.synchronous p = true)
    {i : ℕ} (hi : i < p) (hl : subtasks.synchronous i = false) :
    (g.runSubtask subtasks.synchronous p).tasks.buffer[p + 1]? = some (p + 2) := by
  have hw := (h.window (by omega)).2
  have hk : g.tasks.start + g.tasks.contents.idxOf p = p := by
    apply h.place (by omega)
    rw [List.getElem?_eq_getElem, List.getElem_idxOf]
    rw [g.tasks.length_contents]
    exact h.idxOf_lt (by omega)
  have hm : i ∈ g.tasks.contents := by
    rw [h.contents]
    exact mem_remaining.mpr ⟨by omega, fun _ => hl⟩
  obtain ⟨k, hki⟩ := List.getElem?_of_mem hm
  have hki := h.place (by omega) hki
  rw [h.runSubtask_of_synchronous (by omega) hs, subtaskCompleted_of_emitted]
  dsimp only
  rw [h.removeOne (by omega), Slots.eraseAt, if_neg (by omega)]
  dsimp only
  rw [g.tasks.getElem?_shifted (h.idxOf_lt (by omega)), if_pos (by omega)]
  exact h.slots (p + 2) (by omega) hp

lemma ran_complete {task : ℕ} : (g.complete task).ran = g.ran := by
  rw [TaskGroup.complete]
  induction g.connected.filter (· = task) generalizing g with
  | nil => rfl
  | cons t l ih => rw [List.foldl_cons, ih, subtaskCompleted_of_emitted]

lemma ran_runSubtask {synchronous : ℕ → Bool} {slot : ℕ} :
    (g.runSubtask synchronous slot).ran = g.ran ++ g.tasks.buffer[slot]?.toList := by
  rw [TaskGroup.runSubtask]
  split
  · next h => simp [h]
  · next h =>
    dsimp only
    split
    · rw [ran_complete, h]; rfl
    · rw [h]; rfl

variable (subtasks) in
lemma ran_prefix_loop {q : ℕ} (hq : p ≤ q) : (subtasks.loop p).ran <+: (subtasks.loop q).ran := by
  induction q, hq using Nat.le_induction with
  | base => exact List.prefix_rfl
  | succ q _ ih =>
    rw [loop_succ, ran_runSubtask]
    exact ih.trans (List.prefix_append ..)

lemma ran_maybeComplete : g.maybeComplete.ran = g.ran := by
  rw [TaskGroup.maybeComplete]
  split_ifs <;> rfl

lemma unshifted_of_ran (h : subtasks.started.ran = List.range subtasks.length) : subtasks.Unshifted := by
  rw [unshifted_iff]
  intro p
  induction p using Nat.strong_induction_on with
  | _ p ih =>
    intro hp hs i hi
    by_contra hl
    have hr := reached_loop ih (by omega)
    have hb := hr.passed hp hs hi (by simpa using hl)
    rw [started_eq, ran_maybeComplete] at h
    have hg : (subtasks.loop (p + 2)).ran = List.range p ++ [p] ++ [p + 2] := by
      rw [loop_succ, ran_runSubtask, loop_succ, hb, ran_runSubtask, hr.slots p le_rfl (by omega), hr.ran]
      rfl
    have hx := ran_prefix_loop subtasks (show p + 2 ≤ subtasks.length by omega)
    rw [hg, h] at hx
    have he := hx.getElem (i := p + 1) (by simp)
    simp at he

lemma mem_asynchronous {task : ℕ} : task ∈ subtasks.asynchronous ↔
    task < subtasks.length ∧ subtasks.synchronous task = false := by
  simp [asynchronous]

lemma asynchronous_ne_nil (h : false ∈ subtasks) : subtasks.asynchronous ≠ [] := by
  obtain ⟨task, ht⟩ := List.getElem?_of_mem h
  apply List.ne_nil_of_mem (a := task)
  rw [mem_asynchronous, synchronous, List.getD_eq_getElem?_getD, ht]
  exact ⟨(List.getElem?_eq_some_iff.mp ht).1, rfl⟩

lemma asynchronous_eq_nil (h : false ∉ subtasks) : subtasks.asynchronous = [] := by
  rw [List.eq_nil_iff_forall_not_mem]
  intro task ht
  obtain ⟨ht, hs⟩ := mem_asynchronous.mp ht
  rw [synchronous, List.getD_eq_getElem?_getD, List.getElem?_eq_getElem ht, Option.getD_some] at hs
  exact h (hs ▸ List.getElem_mem ht)

/-- What is left of a group whose subtasks were all run once `before` have completed. -/
structure Waiting (subtasks : Subtasks) (before : List ℕ) (g : TaskGroup) : Prop where
  contents : g.tasks.contents = subtasks.asynchronous.filter (· ∉ before)
  connected : g.connected = List.range subtasks.length
  emitted : g.emitted = if subtasks.asynchronous ⊆ before then 1 else 0

lemma Waiting.complete {before : List ℕ} {task : ℕ} (h : Waiting subtasks before g)
    (hm : task ∈ subtasks.asynchronous) (ht : task ∉ before) :
    Waiting subtasks (before ++ [task]) (g.complete task) := by
  have hc : g.tasks.contents.erase task = subtasks.asynchronous.filter (· ∉ before ++ [task]) := by
    have hn : subtasks.asynchronous.Nodup := List.nodup_range.filter _
    rw [h.contents, (hn.filter _).erase_eq_filter, List.filter_filter]
    apply List.filter_congr
    intro other _
    by_cases ho : other = task <;> simp [ho]
  have he : g.tasks.contents.erase task = [] ↔ subtasks.asynchronous ⊆ before ++ [task] := by
    rw [hc, List.filter_eq_nil_iff, List.subset_def]
    simp [or_iff_not_imp_left]
  have hz : g.emitted = 0 := by
    rw [h.emitted, if_neg]
    intro hs
    exact ht (hs hm)
  rw [complete_of_connected h.connected (mem_asynchronous.mp hm).1, subtaskCompleted_of_emitted]
  constructor
  case contents => exact (g.tasks.contents_removeOne task).trans hc
  case connected => exact h.connected
  case emitted =>
    dsimp only
    rw [emitted_subtaskCompleted, hz]
    simp only [he]

lemma Waiting.completes {before : List ℕ} (h : Waiting subtasks [] g) (hn : before.Nodup)
    (ho : before ⊆ subtasks.asynchronous) : Waiting subtasks before (before.foldl TaskGroup.complete g) := by
  induction before using List.reverseRecOn with
  | nil => exact h
  | append_singleton before task ih =>
    rw [List.foldl_append, List.foldl_cons, List.foldl_nil]
    rw [List.nodup_append] at hn
    rw [List.append_subset] at ho
    apply Waiting.complete
    · exact ih hn.1 ho.1
    · exact ho.2 (List.mem_singleton_self task)
    · intro ht
      exact hn.2.2 task ht task (List.mem_singleton_self task) rfl

lemma Unshifted.reached (h : subtasks.Unshifted) : Reached subtasks subtasks.length (subtasks.loop subtasks.length) :=
  reached_loop (fun p _ => unshifted_iff.mp h p) le_rfl

lemma emitted_started (h : subtasks.Unshifted) : subtasks.started.emitted =
    if subtasks.asynchronous = [] then (if 0 < subtasks.length then 2 else 1) else 0 := by
  have hr := h.reached
  have he := hr.emitted
  rw [remaining_length] at he
  rw [started_eq, TaskGroup.maybeComplete]
  simp only [size_eq_zero _ (hr.contents.trans remaining_length)]
  split_ifs <;> simp_all

lemma waiting_started (h : subtasks.Unshifted) (hw : subtasks.Awaited) : Waiting subtasks [] subtasks.started := by
  have hr := h.reached
  constructor
  case contents =>
    rw [started_eq, TaskGroup.maybeComplete]
    split_ifs <;> simpa using hr.contents.trans remaining_length
  case connected =>
    rw [started_eq, TaskGroup.maybeComplete]
    split_ifs <;> exact hr.connected
  case emitted =>
    rw [emitted_started h]
    simp only [List.subset_nil]
    obtain rfl | hf := hw
    · rfl
    · rw [if_neg (asynchronous_ne_nil hf), if_neg (asynchronous_ne_nil hf)]

/-- Whichever of the others complete later. -/
theorem sound_iff_unshifted (subtasks : Subtasks) (order : List ℕ) (hn : order.Nodup)
    (ho : order ⊆ subtasks.asynchronous) : subtasks.Sound order ↔ subtasks.Unshifted ∧ subtasks.Awaited := by
  constructor
  · rintro ⟨hr, he⟩
    have hu := unshifted_of_ran hr
    refine ⟨hu, ?_⟩
    by_contra hw
    rw [Awaited, not_or] at hw
    have ha := asynchronous_eq_nil hw.2
    have h := he [] (List.nil_prefix)
    rw [List.foldl_nil, emitted_started hu, if_pos ha, ha, if_pos (List.length_pos_iff.mpr hw.1)] at h
    simp at h
  · rintro ⟨hu, hw⟩
    have hs := waiting_started hu hw
    constructor
    · rw [started_eq, ran_maybeComplete, hu.reached.ran]
    · rintro before ⟨after, rfl⟩
      apply Waiting.emitted
      apply hs.completes
      · exact (List.nodup_append.mp hn).1
      · exact (List.append_subset.mp ho).1

/-- The last but one of them completes at once. -/
theorem sound_last_but_one : Sound [false, false, true, false] [3, 0, 1] :=
  (sound_iff_unshifted [false, false, true, false] [3, 0, 1] (by decide) (by decide)).mpr
    ⟨by
      intro i j hi hj
      obtain rfl : j = 1 := by simp at hj; omega
      obtain rfl : i = 0 := by omega
      decide, by decide⟩

/-- The third is passed over, and the group is completed twice if each one completes at once. -/
theorem unsound_subtasks : ¬ Sound [false, true, false, false] [0, 2, 3] ∧ ¬ Sound [true] [] := by
  constructor
  · rintro ⟨hr, -⟩
    exact absurd hr (by decide)
  · rintro ⟨-, he⟩
    exact absurd (he [] List.prefix_rfl) (by decide)

end Subtasks

end VpnClient.Tasks
