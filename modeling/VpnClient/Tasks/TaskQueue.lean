import VpnClient.Tasks.TaskScheduler

/-! The queue of the scheduler as a part of the app sees it: tasks of its own kinds, one after the other. -/

namespace VpnClient.Tasks

structure TaskQueue (T : Type) where
  runningTask : Option T := none
  tasks : List T := []
  deriving DecidableEq, Repr

namespace TaskQueue

variable {T : Type} {q : TaskQueue T} {t : T}

def maybeRunTask (q : TaskQueue T) : TaskQueue T :=
  match q.runningTask, q.tasks with
  | none, task :: tasks => { runningTask := some task, tasks }
  | _, _ => q

def scheduleTask (task : T) (q : TaskQueue T) : TaskQueue T := { q with tasks := q.tasks ++ [task] }.maybeRunTask

def taskCompleted (q : TaskQueue T) : TaskQueue T := { q with runningTask := none }.maybeRunTask

/-- The tasks that run or still have to, in order. -/
def pending (q : TaskQueue T) : List T := q.runningTask.toList ++ q.tasks

lemma pending_maybeRunTask (q : TaskQueue T) : q.maybeRunTask.pending = q.pending := by
  unfold maybeRunTask
  split
  · next hr ht => simp [pending, hr, ht]
  · rfl

lemma pending_scheduleTask (task : T) (q : TaskQueue T) : (q.scheduleTask task).pending = q.pending ++ [task] := by
  rw [scheduleTask, pending_maybeRunTask, pending, pending, List.append_assoc]

lemma pending_eq_cons (h : q.runningTask = some t) : q.pending = t :: q.taskCompleted.pending := by
  rw [taskCompleted, pending_maybeRunTask]
  simp [pending, h]

lemma runningTask_scheduleTask (h : q.runningTask = some t) (task : T) : (q.scheduleTask task).runningTask = some t := by
  rw [scheduleTask, maybeRunTask]
  split
  · next hr _ => simp [h] at hr
  · exact h

/-- The scheduler whose tasks are numbered, where each number stands for a task of its kind. -/
def ofScheduler (kind : ℕ → T) (s : TaskScheduler) : TaskQueue T := ⟨s.runningTask.map kind, s.tasks.map kind⟩

lemma ofScheduler_maybeRunTask (kind : ℕ → T) (s : TaskScheduler) :
    ofScheduler kind s.maybeRunTask = (ofScheduler kind s).maybeRunTask := by
  obtain ⟨runningTask, tasks, timers, scheduled, log⟩ := s
  cases runningTask <;> cases tasks <;> rfl

lemma ofScheduler_step (kind : ℕ → T) (s : TaskScheduler) :
    ofScheduler kind (s.step .scheduleTask) = (ofScheduler kind s).scheduleTask (kind s.scheduled) ∧
      ((∃ task, s.runningTask = some task) →
        ofScheduler kind (s.step .completed) = (ofScheduler kind s).taskCompleted) := by
  constructor
  · rw [TaskScheduler.step, TaskScheduler.scheduleTaskInternal, ofScheduler_maybeRunTask, scheduleTask]
    simp [ofScheduler, TaskScheduler.emit]
  · rintro ⟨task, ht⟩
    rw [TaskScheduler.step, TaskScheduler.taskCompleted, ht]
    exact ofScheduler_maybeRunTask kind _

end TaskQueue

end VpnClient.Tasks
