import VpnClient.Library.Runs

/-! The scheduler of tasks: one task runs at a time, in the order of the queue, and the tasks that a
deletion has to reschedule wait in timers. -/

namespace VpnClient.Tasks

open Library.Runs

inductive DeletePolicy where
  | Deletable
  | NonDeletable
  | Reschedulable
  deriving DecidableEq, Repr

/-- What happens to a task: it enters the queue, is taken out of it to be rescheduled or deleted, or it
runs, completes or is cancelled and deleted. -/
inductive Effect where
  | enter (task : ℕ)
  | reschedule (task : ℕ)
  | delete (task : ℕ)
  | run (task : ℕ)
  | completed (task : ℕ)
  | cancel (task : ℕ)
  deriving DecidableEq

/-- Tasks are numbered as they are scheduled. A timer is given by the task that it holds, and `log` is
all that has happened. -/
structure TaskScheduler where
  runningTask : Option ℕ := none
  tasks : List ℕ := []
  timers : List ℕ := []
  scheduled : ℕ := 0
  log : List Effect := []
  deriving DecidableEq

namespace TaskScheduler

def emit (effect : Effect) (s : TaskScheduler) : TaskScheduler := { s with log := s.log ++ [effect] }

/-- `run` is the last thing that is called, here and in what calls this, so that what happens in it, even
the completion of the task, follows as events of its own. -/
def maybeRunTask (s : TaskScheduler) : TaskScheduler :=
  match s.runningTask, s.tasks with
  | none, task :: tasks => emit (.run task) { s with runningTask := some task, tasks }
  | _, _ => s

def scheduleTaskInternal (task : ℕ) (s : TaskScheduler) : TaskScheduler :=
  (emit (.enter task) { s with tasks := s.tasks ++ [task] }).maybeRunTask

def taskCompleted (s : TaskScheduler) : TaskScheduler :=
  match s.runningTask with
  | none => s -- excluded by an assertion
  | some task => (emit (.completed task) { s with runningTask := none }).maybeRunTask

/-- A round of the loop of `deleteTasksInternal`, which keeps a task by putting it back. -/
def deleteTask (forced : Bool) (deletePolicy : ℕ → DeletePolicy) (s : TaskScheduler) (task : ℕ) : TaskScheduler :=
  if forced then s.emit (.delete task)
  else
    match deletePolicy task with
    | .Deletable => s.emit (.delete task)
    | .NonDeletable => { s with tasks := s.tasks ++ [task] }
    | .Reschedulable => emit (.reschedule task) { s with timers := s.timers ++ [task] }

def cancelTask (forced : Bool) (deletePolicy : ℕ → DeletePolicy) (s : TaskScheduler) : TaskScheduler :=
  match s.runningTask with
  | none => s
  | some task =>
    if forced || deletePolicy task = .Deletable then emit (.cancel task) { s with runningTask := none }
    else s

def deleteTasksInternal (forced : Bool) (deletePolicy : ℕ → DeletePolicy) (s : TaskScheduler) : TaskScheduler :=
  ((s.tasks.foldl (deleteTask forced deletePolicy) { s with tasks := [] }).cancelTask forced deletePolicy).maybeRunTask

/-- Calls of the scheduler, the completion of the running task and the timeout of the `i`-th timer. The
policies of the tasks are those at the time of the call. -/
inductive Event where
  | scheduleTask
  | deleteTasks (deletePolicy : ℕ → DeletePolicy)
  | forceDeleteTasks
  | completed
  | timeout (i : ℕ)

def step (s : TaskScheduler) : Event → TaskScheduler
  | .scheduleTask => { s with scheduled := s.scheduled + 1 }.scheduleTaskInternal s.scheduled
  | .deleteTasks deletePolicy => s.deleteTasksInternal false deletePolicy
  | .forceDeleteTasks => s.deleteTasksInternal true fun _ => .Deletable
  | .completed => s.taskCompleted
  | .timeout i =>
    match s.timers[i]? with
    | none => s
    | some task => { s with timers := s.timers.eraseIdx i }.scheduleTaskInternal task

/-- The tasks that have run, in order. -/
def started (log : List Effect) : List ℕ :=
  log.filterMap fun
    | .run task => some task
    | _ => none

/-- The tasks that have entered the queue and were not taken out of it but to run, in order. -/
def entered (log : List Effect) : List ℕ :=
  log.foldl (fun entered effect =>
    match effect with
    | .enter task => entered ++ [task]
    | .reschedule task | .delete task => entered.erase task
    | _ => entered) []

/-- The tasks that run and have neither completed nor been cancelled. -/
def active (log : List Effect) : List ℕ :=
  log.foldl (fun active effect =>
    match effect with
    | .run task => task :: active
    | .completed task | .cancel task => active.erase task
    | _ => active) []

/-- The tasks that run or still have to. -/
def pending (s : TaskScheduler) : List ℕ := s.runningTask.toList ++ s.tasks ++ s.timers

variable {s : TaskScheduler} {rest : List ℕ} {task : ℕ}

@[simp] lemma started_concat (log : List Effect) (effect : Effect) :
    started (log ++ [effect]) = started log ++ started [effect] := by
  simp [started]

@[simp] lemma started_singleton (effect : Effect) :
    started [effect] =
      match effect with
      | .run task => [task]
      | _ => [] := by
  cases effect <;> rfl

lemma entered_concat (log : List Effect) (effect : Effect) :
    entered (log ++ [effect]) =
      match effect with
      | .enter task => entered log ++ [task]
      | .reschedule task | .delete task => (entered log).erase task
      | _ => entered log := by
  simp [entered]

lemma active_concat (log : List Effect) (effect : Effect) :
    active (log ++ [effect]) =
      match effect with
      | .run task => task :: active log
      | .completed task | .cancel task => (active log).erase task
      | _ => active log := by
  simp [active]

/-- The tasks that have run or still have to, where `rest` is the part of the queue that a deletion has not
looked at yet. -/
def seen (rest : List ℕ) (s : TaskScheduler) : List ℕ := started s.log ++ (s.tasks ++ rest) ++ s.timers

structure Accounted (rest : List ℕ) (s : TaskScheduler) : Prop where
  nodup : (s.seen rest).Nodup
  known : ∀ task ∈ s.seen rest, task < s.scheduled
  kept : ∀ task < s.scheduled, task ∈ s.seen rest ∨ .delete task ∈ s.log

structure Logged (rest : List ℕ) (s : TaskScheduler) : Prop where
  inOrder : entered s.log = started s.log ++ (s.tasks ++ rest)
  running : active s.log = s.runningTask.toList
  oneRuns : ∀ log, log <+: s.log → (active log).length ≤ 1

structure Valid (rest : List ℕ) (s : TaskScheduler) : Prop extends Accounted rest s, Logged rest s

lemma Accounted.of_perm {s' : TaskScheduler} {rest' : List ℕ} (h : s.Accounted rest)
    (hp : (s'.seen rest').Perm (s.seen rest)) (hn : s'.scheduled = s.scheduled)
    (hd : ∀ task, .delete task ∈ s.log → .delete task ∈ s'.log) : s'.Accounted rest' where
  nodup := hp.nodup_iff.mpr h.nodup
  known task ht := hn ▸ h.known task (hp.mem_iff.mp ht)
  kept task ht := (h.kept task (hn ▸ ht)).imp hp.mem_iff.mpr (hd task)

lemma Logged.oneRuns_concat (h : s.Logged rest) {effect : Effect}
    (ha : (active (s.log ++ [effect])).length ≤ 1) :
    ∀ log, log <+: s.log ++ [effect] → (active log).length ≤ 1 := by
  intro log hl
  rcases List.prefix_concat_iff.mp hl with rfl | hl
  · exact ha
  · exact h.oneRuns log hl

lemma Logged.length_active (h : s.Logged rest) : (active s.log).length ≤ 1 := h.oneRuns _ (List.prefix_refl _)

lemma Accounted.schedule (h : s.Accounted []) :
    Accounted [] { s with scheduled := s.scheduled + 1, timers := s.timers ++ [s.scheduled] } where
  nodup := by
    have hn : s.scheduled ∉ s.seen [] := fun hs => (h.known _ hs).ne rfl
    simpa [seen] using List.nodup_append.mpr ⟨h.nodup, List.nodup_singleton _, by grind⟩
  known task ht := by
    have := h.known task
    grind [seen]
  kept task ht := by
    have := h.kept task
    grind [seen]

lemma Valid.enter {i : ℕ} (h : s.Valid []) (ht : s.timers[i]? = some task) :
    Valid [] (emit (.enter task) { s with timers := s.timers.eraseIdx i, tasks := s.tasks ++ [task] }) := by
  obtain ⟨hi, rfl⟩ := List.getElem?_eq_some_iff.mp ht
  refine ⟨h.toAccounted.of_perm ?_ rfl (by simp +contextual [emit]), ?_, ?_, ?_⟩
  · have hp := List.getElem_cons_eraseIdx_perm hi
    simpa [seen, emit] using (hp.append_left s.tasks).append_left (started s.log)
  · simp [emit, entered_concat, h.inOrder]
  · simpa [emit, active_concat] using h.running
  · refine h.oneRuns_concat ?_
    simpa [active_concat] using h.length_active

lemma Valid.maybeRunTask (h : s.Valid []) : s.maybeRunTask.Valid [] := by
  unfold TaskScheduler.maybeRunTask
  split
  next hr ht =>
    have ha : active s.log = [] := by simpa [hr] using h.running
    refine ⟨h.toAccounted.of_perm ?_ rfl (by simp +contextual [emit]), ?_, ?_, ?_⟩
    · simp [seen, emit, ht]
    · simp [emit, entered_concat, h.inOrder, ht]
    · simp [emit, active_concat, ha]
    · exact h.oneRuns_concat (by simp [active_concat, ha])
  next => exact h

lemma Valid.stop (h : s.Valid rest) (hr : s.runningTask = some task) {effect : Effect}
    (he : effect = .completed task ∨ effect = .cancel task) :
    Valid rest (emit effect { s with runningTask := none }) := by
  have ha : active s.log = [task] := by simpa [hr] using h.running
  have hs : started [effect] = [] := by rcases he with rfl | rfl <;> rfl
  have ha' : active (s.log ++ [effect]) = [] := by rcases he with rfl | rfl <;> simp [active_concat, ha]
  have he' : entered (s.log ++ [effect]) = entered s.log := by
    rcases he with rfl | rfl <;> exact entered_concat ..
  refine ⟨h.toAccounted.of_perm ?_ rfl (by simp +contextual [emit]), ?_, ?_, ?_⟩
  · simp [seen, emit, hs]
  · simp [emit, he', hs, h.inOrder]
  · simp [emit, ha']
  · exact h.oneRuns_concat (by simp [ha'])

lemma Valid.takeOut (h : s.Valid (task :: rest)) :
    Logged rest (s.emit (.delete task)) ∧
      Logged rest (emit (.reschedule task) { s with timers := s.timers ++ [task] }) := by
  have hn := h.nodup
  have he : (entered s.log).erase task = started s.log ++ (s.tasks ++ rest) := by
    have hs : task ∉ started s.log ++ s.tasks := by grind [seen]
    rw [h.inOrder, ← List.append_assoc, List.erase_append_right _ hs, List.erase_cons_head, List.append_assoc]
  refine ⟨⟨?_, ?_, ?_⟩, ⟨?_, ?_, ?_⟩⟩
  · simp [emit, entered_concat, he]
  · simpa [emit, active_concat] using h.running
  · exact h.oneRuns_concat (by simpa [active_concat] using h.length_active)
  · simp [emit, entered_concat, he]
  · simpa [emit, active_concat] using h.running
  · exact h.oneRuns_concat (by simpa [active_concat] using h.length_active)

lemma Valid.delete (h : s.Valid (task :: rest)) : Valid rest (s.emit (.delete task)) := by
  refine ⟨⟨?_, ?_, ?_⟩, h.takeOut.1⟩
  · have := h.nodup
    grind [seen, emit, started_concat, started_singleton]
  · have := h.known
    grind [seen, emit, started_concat, started_singleton]
  · have := h.kept
    grind [seen, emit, started_concat, started_singleton]

lemma Valid.deleteTask (forced : Bool) (deletePolicy : ℕ → DeletePolicy) (h : s.Valid (task :: rest)) :
    Valid rest (s.deleteTask forced deletePolicy task) := by
  cases forced with
  | true => exact h.delete
  | false =>
    simp only [TaskScheduler.deleteTask, Bool.false_eq_true, if_false]
    cases deletePolicy task with
    | Deletable => exact h.delete
    | NonDeletable =>
      refine ⟨h.toAccounted.of_perm ?_ rfl fun _ => id, ?_, h.running, h.oneRuns⟩
      · simp [seen]
      · simpa using h.inOrder
    | Reschedulable =>
      refine ⟨h.toAccounted.of_perm ?_ rfl (by simp +contextual [emit]), h.takeOut.2⟩
      have hp := List.perm_append_singleton task (rest ++ s.timers)
      simpa [seen, emit] using (hp.append_left s.tasks).append_left (started s.log)

lemma Valid.foldl_deleteTask (forced : Bool) (deletePolicy : ℕ → DeletePolicy) (h : s.Valid rest) :
    Valid [] (rest.foldl (TaskScheduler.deleteTask forced deletePolicy) s) := by
  induction rest generalizing s with
  | nil => exact h
  | cons task rest ih => exact ih (h.deleteTask forced deletePolicy)

lemma Valid.cancelTask (forced : Bool) (deletePolicy : ℕ → DeletePolicy) (h : s.Valid []) :
    Valid [] (s.cancelTask forced deletePolicy) := by
  unfold TaskScheduler.cancelTask
  split
  next => exact h
  next task hr =>
    split
    · exact h.stop hr (.inr rfl)
    · exact h

lemma Valid.deleteTasksInternal (forced : Bool) (deletePolicy : ℕ → DeletePolicy) (h : s.Valid []) :
    Valid [] (s.deleteTasksInternal forced deletePolicy) := by
  have h₀ : Valid s.tasks { s with tasks := [] } :=
    ⟨h.toAccounted.of_perm (by simp [seen]) rfl fun _ => id, by simpa using h.inOrder, h.running, h.oneRuns⟩
  exact ((h₀.foldl_deleteTask forced deletePolicy).cancelTask forced deletePolicy).maybeRunTask

lemma Valid.scheduleTaskInternal {i : ℕ} (h : s.Valid []) (ht : s.timers[i]? = some task) :
    Valid [] ({ s with timers := s.timers.eraseIdx i }.scheduleTaskInternal task) :=
  (h.enter ht).maybeRunTask

lemma Valid.step (h : s.Valid []) (event : Event) : Valid [] (s.step event) := by
  cases event with
  | scheduleTask =>
    have h' : Valid [] { s with scheduled := s.scheduled + 1, timers := s.timers ++ [s.scheduled] } :=
      ⟨h.toAccounted.schedule, h.inOrder, h.running, h.oneRuns⟩
    have ht : (s.timers ++ [s.scheduled])[s.timers.length]? = some s.scheduled := by simp
    simpa [TaskScheduler.step, List.eraseIdx_append_of_length_le] using h'.scheduleTaskInternal ht
  | deleteTasks deletePolicy => exact h.deleteTasksInternal false deletePolicy
  | forceDeleteTasks => exact h.deleteTasksInternal true _
  | completed =>
    simp only [TaskScheduler.step, taskCompleted]
    split
    next => exact h
    next task hr => exact (h.stop hr (.inl rfl)).maybeRunTask
  | timeout i =>
    simp only [TaskScheduler.step]
    split
    next => exact h
    next task ht => exact h.scheduleTaskInternal ht

lemma valid_nil : Valid [] ({} : TaskScheduler) where
  nodup := List.nodup_nil
  known := by simp [seen, started]
  kept := by simp
  inOrder := rfl
  running := rfl
  oneRuns log h := by
    obtain rfl := List.prefix_nil.mp h
    simp [active]

lemma valid_run (events : List Event) : Valid [] (run step {} events) :=
  run_invariant (fun _ event h => h.step event) valid_nil

/-- While no task runs, none waits in the queue. -/
def Idle (s : TaskScheduler) : Prop := s.runningTask = none → s.tasks = []

lemma idle_maybeRunTask : s.maybeRunTask.Idle := by
  unfold maybeRunTask
  split
  next => simp [Idle, emit]
  next h =>
    intro hr
    cases ht : s.tasks with
    | nil => rfl
    | cons task tasks => exact (h task tasks hr ht).elim

lemma Idle.step (h : s.Idle) (event : Event) : (s.step event).Idle := by
  cases event with
  | scheduleTask => exact idle_maybeRunTask
  | deleteTasks deletePolicy => exact idle_maybeRunTask
  | forceDeleteTasks => exact idle_maybeRunTask
  | completed =>
    simp only [TaskScheduler.step, taskCompleted]
    split
    next => exact h
    next => exact idle_maybeRunTask
  | timeout i =>
    simp only [TaskScheduler.step]
    split
    next => exact h
    next => exact idle_maybeRunTask

lemma idle_run (events : List Event) : (run step {} events).Idle :=
  run_invariant (fun _ event h => h.step event) fun _ => rfl

/-- The timeouts and the completions after which every task has run. -/
def drain (s : TaskScheduler) : List Event :=
  List.replicate s.timers.length (.timeout 0) ++ List.replicate (s.tasks.length + s.timers.length) .completed

@[simp] lemma seen_maybeRunTask : s.maybeRunTask.seen [] = s.seen [] := by
  unfold maybeRunTask
  split
  next hr ht => simp [seen, emit, ht]
  next => rfl

@[simp] lemma timers_maybeRunTask : s.maybeRunTask.timers = s.timers := by
  unfold maybeRunTask
  split <;> rfl

lemma length_tasks_maybeRunTask_le : s.maybeRunTask.tasks.length ≤ s.tasks.length := by
  unfold maybeRunTask
  split
  next hr ht => simp [emit, ht]
  next => rfl

lemma length_tasks_maybeRunTask (h : s.runningTask = none) : s.maybeRunTask.tasks.length = s.tasks.length - 1 := by
  unfold maybeRunTask
  cases ht : s.tasks with
  | nil => simp [h, ht]
  | cons task tasks => simp [h, emit]

lemma timeout_zero {timers : List ℕ} (h : s.timers = task :: timers) :
    (s.step (.timeout 0)).seen [] = s.seen [] ∧ (s.step (.timeout 0)).timers = timers ∧
      (s.step (.timeout 0)).tasks.length ≤ s.tasks.length + 1 := by
  simp only [step, h, scheduleTaskInternal, List.getElem?_cons_zero, List.eraseIdx_zero, List.tail_cons,
    seen_maybeRunTask, timers_maybeRunTask]
  refine ⟨by simp [seen, emit, h], rfl, length_tasks_maybeRunTask_le.trans ?_⟩
  simp [emit]

lemma step_completed (h : s.Idle) :
    (s.step .completed).seen [] = s.seen [] ∧ (s.step .completed).timers = s.timers ∧
      (s.step .completed).tasks.length = s.tasks.length - 1 := by
  cases hr : s.runningTask with
  | none => simp [step, taskCompleted, hr, h hr]
  | some task =>
    simp only [step, taskCompleted, hr, seen_maybeRunTask, timers_maybeRunTask]
    refine ⟨?_, rfl, length_tasks_maybeRunTask rfl⟩
    simp [seen, emit]

lemma run_timeouts (n : ℕ) (hn : s.timers.length = n) :
    (run step s (List.replicate n (.timeout 0))).seen [] = s.seen [] ∧
      (run step s (List.replicate n (.timeout 0))).timers = [] ∧
      (run step s (List.replicate n (.timeout 0))).tasks.length ≤ s.tasks.length + n := by
  induction n generalizing s with
  | zero => exact ⟨rfl, List.length_eq_zero_iff.mp hn, le_rfl⟩
  | succ n ih =>
    obtain ⟨task, timers, ht⟩ := List.exists_cons_of_length_eq_add_one hn
    obtain ⟨hs, ht', hl⟩ := timeout_zero ht
    obtain ⟨ihs, iht, ihl⟩ := ih (s := s.step (.timeout 0)) (by simpa [ht, ht'] using hn)
    rw [List.replicate_succ, run_cons]
    exact ⟨ihs.trans hs, iht, by omega⟩

lemma run_completions (n : ℕ) (h : s.Idle) (hn : s.tasks.length ≤ n) :
    (run step s (List.replicate n .completed)).seen [] = s.seen [] ∧
      (run step s (List.replicate n .completed)).timers = s.timers ∧
      (run step s (List.replicate n .completed)).tasks = [] := by
  induction n generalizing s with
  | zero => exact ⟨rfl, rfl, List.length_eq_zero_iff.mp (Nat.le_zero.mp hn)⟩
  | succ n ih =>
    obtain ⟨hs, ht, hl⟩ := step_completed h
    rw [List.replicate_succ, run_cons, ← hs, ← ht]
    exact ih (h.step _) (by omega)

lemma started_drain (h : s.Idle) :
    started (run step s s.drain).log = started s.log ++ s.tasks ++ s.timers := by
  rw [drain, run_append]
  obtain ⟨hs, ht, hl⟩ := run_timeouts s.timers.length rfl
  have hi : (run step s (List.replicate s.timers.length (.timeout 0))).Idle :=
    run_invariant (fun _ event h => h.step event) h
  obtain ⟨hs', ht', hq⟩ := run_completions _ hi hl
  simpa [seen, ht', ht, hq] using hs'.trans hs

lemma pending_maybeRunTask : s.maybeRunTask.pending = s.pending := by
  unfold maybeRunTask
  split
  next hr ht => simp [pending, emit, hr, ht]
  next => rfl

@[simp] lemma runningTask_deleteTask (forced : Bool) (deletePolicy : ℕ → DeletePolicy) :
    (s.deleteTask forced deletePolicy task).runningTask = s.runningTask := by
  unfold deleteTask
  split
  · rfl
  · split <;> rfl

lemma runningTask_foldl (forced : Bool) (deletePolicy : ℕ → DeletePolicy) :
    (rest.foldl (deleteTask forced deletePolicy) s).runningTask = s.runningTask := by
  induction rest generalizing s with
  | nil => rfl
  | cons task rest ih => rw [List.foldl_cons, ih, runningTask_deleteTask]

lemma mem_deleteTask {deletePolicy : ℕ → DeletePolicy} {task' : ℕ} (hp : deletePolicy task ≠ .Deletable)
    (ht : task = task' ∨ task ∈ s.tasks ++ s.timers) :
    task ∈ (s.deleteTask false deletePolicy task').tasks ++ (s.deleteTask false deletePolicy task').timers := by
  simp only [deleteTask, Bool.false_eq_true, if_false]
  cases hp' : deletePolicy task' with
  | Deletable =>
    rcases ht with rfl | ht
    · exact (hp hp').elim
    · exact ht
  | NonDeletable => grind
  | Reschedulable => grind [emit]

lemma mem_foldl_deleteTask {deletePolicy : ℕ → DeletePolicy} (hp : deletePolicy task ≠ .Deletable)
    (ht : task ∈ rest ∨ task ∈ s.tasks ++ s.timers) :
    task ∈ (rest.foldl (deleteTask false deletePolicy) s).tasks ++
      (rest.foldl (deleteTask false deletePolicy) s).timers := by
  induction rest generalizing s with
  | nil => simpa using ht
  | cons task' rest ih =>
    refine ih ?_
    rcases ht with ht | ht
    · rcases List.mem_cons.mp ht with ht | ht
      · exact .inr (mem_deleteTask hp (.inl ht))
      · exact .inl ht
    · exact .inr (mem_deleteTask hp (.inr ht))

lemma mem_pending_deleteTasks {deletePolicy : ℕ → DeletePolicy} (hp : deletePolicy task ≠ .Deletable)
    (ht : task ∈ s.pending) : task ∈ (s.step (.deleteTasks deletePolicy)).pending := by
  simp only [step, deleteTasksInternal, pending_maybeRunTask]
  have hr := @runningTask_foldl { s with tasks := [] } s.tasks false deletePolicy
  have hm := @mem_foldl_deleteTask { s with tasks := [] } s.tasks task deletePolicy hp
  generalize s.tasks.foldl _ _ = s' at hr hm
  have hc : (s'.cancelTask false deletePolicy).tasks = s'.tasks ∧
      (s'.cancelTask false deletePolicy).timers = s'.timers := by
    unfold cancelTask
    split
    · exact ⟨rfl, rfl⟩
    · split <;> exact ⟨rfl, rfl⟩
  by_cases hq : s.runningTask = some task
  · simp only [hq] at hr
    simp [cancelTask, hr, hp, pending]
  · have : task ∈ s'.tasks ++ s'.timers := hm (by grind [pending])
    grind [pending]

lemma forceDeleteTasks_cases :
    (s.step .forceDeleteTasks).runningTask = none ∧ (s.step .forceDeleteTasks).tasks = [] ∧
      (s.step .forceDeleteTasks).timers = s.timers ∧ (s.step .forceDeleteTasks).scheduled = s.scheduled ∧
      started (s.step .forceDeleteTasks).log = started s.log := by
  have hf : ∀ (rest : List ℕ) (s : TaskScheduler), s.tasks = [] →
      (rest.foldl (deleteTask true fun _ => .Deletable) s).tasks = [] ∧
        (rest.foldl (deleteTask true fun _ => .Deletable) s).timers = s.timers ∧
        (rest.foldl (deleteTask true fun _ => .Deletable) s).scheduled = s.scheduled ∧
        started (rest.foldl (deleteTask true fun _ => .Deletable) s).log = started s.log := by
    intro rest
    induction rest with
    | nil => exact fun s hs => ⟨hs, rfl, rfl, rfl⟩
    | cons task rest ih =>
      intro s hs
      simpa [deleteTask, emit] using ih (s.emit (.delete task)) hs
  obtain ⟨ht, hm, hn, hl⟩ := hf s.tasks { s with tasks := [] } rfl
  simp only [step, deleteTasksInternal]
  generalize s.tasks.foldl _ _ = s' at ht hm hn hl
  cases hr : s'.runningTask with
  | none => simp [cancelTask, maybeRunTask, hr, ht, hm, hn, hl]
  | some task => simp [cancelTask, maybeRunTask, emit, hr, ht, hm, hn, hl]

/-- No task below `n` still has to run, and `ran` are those that have. -/
structure Fresh (n : ℕ) (ran rest : List ℕ) (s : TaskScheduler) : Prop where
  tasks : ∀ task ∈ s.tasks ++ rest, n ≤ task
  timers : ∀ task ∈ s.timers, n ≤ task
  scheduled : n ≤ s.scheduled
  started : (started s.log).filter (· < n) = ran

variable {n : ℕ} {ran : List ℕ}

lemma Fresh.maybeRunTask (h : s.Fresh n ran []) : s.maybeRunTask.Fresh n ran [] := by
  unfold TaskScheduler.maybeRunTask
  split
  next task tasks hr ht =>
    have hw := h.tasks
    simp only [ht, List.append_nil, List.forall_mem_cons] at hw
    refine ⟨by simpa [emit] using hw.2, h.timers, h.scheduled, ?_⟩
    simpa [emit, h.started] using hw.1
  next => exact h

lemma Fresh.scheduleTaskInternal (h : s.Fresh n ran []) (ht : n ≤ task) :
    (s.scheduleTaskInternal task).Fresh n ran [] := by
  refine Fresh.maybeRunTask ⟨?_, h.timers, h.scheduled, by simp [emit, h.started]⟩
  have := h.tasks
  simp only [emit, List.append_nil, List.forall_mem_append, List.forall_mem_singleton] at this ⊢
  exact ⟨this, ht⟩

lemma Fresh.deleteTask (forced : Bool) (deletePolicy : ℕ → DeletePolicy) (h : s.Fresh n ran (task :: rest)) :
    (s.deleteTask forced deletePolicy task).Fresh n ran rest := by
  have ht := h.tasks
  simp only [List.forall_mem_append, List.forall_mem_cons] at ht
  have hd : (s.emit (.delete task)).Fresh n ran rest :=
    ⟨List.forall_mem_append.mpr ⟨ht.1, ht.2.2⟩, h.timers, h.scheduled, by simp [emit, h.started]⟩
  cases forced with
  | true => exact hd
  | false =>
    simp only [TaskScheduler.deleteTask, Bool.false_eq_true, if_false]
    cases deletePolicy task with
    | Deletable => exact hd
    | NonDeletable => exact ⟨by simpa using h.tasks, h.timers, h.scheduled, h.started⟩
    | Reschedulable =>
      refine ⟨hd.tasks, ?_, h.scheduled, by simp [emit, h.started]⟩
      exact List.forall_mem_append.mpr ⟨h.timers, List.forall_mem_singleton.mpr ht.2.1⟩

lemma Fresh.foldl_deleteTask (forced : Bool) (deletePolicy : ℕ → DeletePolicy) (h : s.Fresh n ran rest) :
    (rest.foldl (TaskScheduler.deleteTask forced deletePolicy) s).Fresh n ran [] := by
  induction rest generalizing s with
  | nil => exact h
  | cons task rest ih => exact ih (h.deleteTask forced deletePolicy)

lemma Fresh.deleteTasksInternal (forced : Bool) (deletePolicy : ℕ → DeletePolicy) (h : s.Fresh n ran []) :
    (s.deleteTasksInternal forced deletePolicy).Fresh n ran [] := by
  have h₀ : Fresh n ran s.tasks { s with tasks := [] } :=
    ⟨by simpa using h.tasks, h.timers, h.scheduled, h.started⟩
  have h' := h₀.foldl_deleteTask forced deletePolicy
  refine Fresh.maybeRunTask ?_
  unfold cancelTask
  split
  · exact h'
  · split
    · exact ⟨h'.tasks, h'.timers, h'.scheduled, by simp [emit, h'.started]⟩
    · exact h'

lemma Fresh.step (h : s.Fresh n ran []) (event : Event) : (s.step event).Fresh n ran [] := by
  cases event with
  | scheduleTask =>
    exact Fresh.scheduleTaskInternal ⟨h.tasks, h.timers, h.scheduled.trans (Nat.le_succ _), h.started⟩ h.scheduled
  | deleteTasks deletePolicy => exact h.deleteTasksInternal false deletePolicy
  | forceDeleteTasks => exact h.deleteTasksInternal true _
  | completed =>
    simp only [TaskScheduler.step, taskCompleted]
    split
    next => exact h
    next => exact Fresh.maybeRunTask ⟨h.tasks, h.timers, h.scheduled, by simp [emit, h.started]⟩
  | timeout i =>
    simp only [TaskScheduler.step]
    split
    next => exact h
    next task ht =>
      refine Fresh.scheduleTaskInternal ⟨h.tasks, ?_, h.scheduled, h.started⟩
        (h.timers task (List.mem_of_getElem? ht))
      exact fun task hm => h.timers task (List.mem_of_mem_eraseIdx hm)

/-- No task scheduled so far runs after a forced deletion. -/
def ForcedForGood (s : TaskScheduler) : Prop :=
  ∀ later, (started (run step s (.forceDeleteTasks :: later)).log).filter (· < s.scheduled) = started s.log

lemma started_timeout_zero {timers : List ℕ} (hr : s.runningTask = none) (hq : s.tasks = [])
    (ht : s.timers = task :: timers) : started (s.step (.timeout 0)).log = started s.log ++ [task] := by
  simp only [step, ht, List.getElem?_cons_zero, List.eraseIdx_zero, List.tail_cons, scheduleTaskInternal,
    maybeRunTask, emit, hr, hq, List.nil_append, started_concat, started_singleton, List.append_nil]

lemma forcedForGood_iff (h : s.Valid []) : s.ForcedForGood ↔ s.timers = [] := by
  obtain ⟨hr, hq, ht, hn, hl⟩ := s.forceDeleteTasks_cases
  have hs : (started s.log).filter (· < s.scheduled) = started s.log := by
    refine List.filter_eq_self.mpr fun task hm => ?_
    have := h.known task (by simp [seen, hm])
    simpa using this
  constructor
  · intro hg
    by_contra hne
    obtain ⟨task, timers, ht'⟩ := List.exists_cons_of_ne_nil hne
    have hk : task < s.scheduled := h.known task (by simp [seen, ht'])
    have hf := hg [.timeout 0]
    rw [run_cons, run_cons, run_nil, started_timeout_zero hr hq (ht.trans ht'), hl, List.filter_append, hs] at hf
    simp [hk] at hf
  · intro ht' later
    have h₀ : (s.step .forceDeleteTasks).Fresh s.scheduled (started s.log) [] :=
      ⟨by simp [hq], by simp [ht, ht'], hn.ge, by rw [hl, hs]⟩
    have h' : Fresh s.scheduled (started s.log) [] (run step (s.step .forceDeleteTasks) later) :=
      run_invariant (fun _ event h => h.step event) h₀
    exact h'.started

/-- Tasks run at most once, in the order in which they entered the queue. None is lost, and all of them run
once the timers have fired and enough tasks have completed. -/
structure RunsInOrder (s : TaskScheduler) : Prop where
  inOrder : entered s.log = started s.log ++ s.tasks
  once : (started s.log).Nodup
  kept : ∀ task < s.scheduled, task ∈ started s.log ∨ task ∈ s.pending ∨ .delete task ∈ s.log
  drained : started (run step s s.drain).log = started s.log ++ s.tasks ++ s.timers

theorem tasks_run_in_order (events : List Event) :
    let s := run step {} events
    (∀ log, log <+: s.log → (active log).length ≤ 1) ∧ s.RunsInOrder ∧
      (∀ (deletePolicy : ℕ → DeletePolicy), ∀ task ∈ s.pending, deletePolicy task ≠ .Deletable →
        task ∈ (s.step (.deleteTasks deletePolicy)).pending) ∧
      (s.ForcedForGood ↔ s.timers = []) := by
  intro s
  have hv : s.Valid [] := valid_run events
  refine ⟨hv.oneRuns, ⟨?_, ?_, ?_, started_drain (idle_run events)⟩, ?_, forcedForGood_iff hv⟩
  · simpa using hv.inOrder
  · have := hv.nodup
    grind [seen]
  · intro task ht
    have := hv.kept task ht
    grind [seen, pending]
  · exact fun deletePolicy task ht hp => mem_pending_deleteTasks hp ht

/-- The second of two tasks is taken out of the queue by `deleteTasks`, and runs after `forceDeleteTasks`. -/
theorem timer_survives_forceDeleteTasks :
    ¬(run step {} [.scheduleTask, .scheduleTask, .deleteTasks fun _ => .Reschedulable]).ForcedForGood :=
  fun h => absurd (h [.timeout 0]) (by decide)

end TaskScheduler

end VpnClient.Tasks
