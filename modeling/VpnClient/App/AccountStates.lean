import VpnClient.App.MozillaVPN
import VpnClient.Models.DeviceLists
import VpnClient.Models.ServerSelection

/-! What the app shows needs an account only while there is a token, and what a logout forgets. -/

namespace VpnClient.Tasks.TaskScheduler

open Library.Runs

variable {s : TaskScheduler} {n : ℕ}

lemma mem_started_of_active (log : List Effect) (h : n ∈ active log) : n ∈ started log := by
  induction log using List.reverseRecOn with
  | nil => exact h
  | append_singleton log effect ih =>
    rw [active_concat] at h
    rw [started_concat, List.mem_append]
    cases effect with
    | run task =>
      rcases List.mem_cons.mp h with rfl | h
      · exact .inr (by simp)
      · exact .inl (ih h)
    | completed task => exact .inl (ih (List.mem_of_mem_erase h))
    | cancel task => exact .inl (ih (List.mem_of_mem_erase h))
    | enter task => exact .inl (ih h)
    | reschedule task => exact .inl (ih h)
    | delete task => exact .inl (ih h)

lemma Valid.running_notMem (h : s.Valid []) (hr : s.runningTask = some n) : n ∉ s.tasks ++ s.timers := by
  have ha : n ∈ active s.log := by
    rw [h.running, hr]
    exact List.mem_singleton_self n
  have hs := mem_started_of_active s.log ha
  have hn := h.nodup
  rw [seen, List.append_nil, List.append_assoc] at hn
  exact (List.nodup_append.mp hn).2.2 n hs |> fun hd hm => hd n hm rfl

lemma mem_pending_scheduleTask : n ∈ (s.step .scheduleTask).pending ↔ n ∈ s.pending ∨ n = s.scheduled := by
  rw [step, scheduleTaskInternal, pending_maybeRunTask]
  simp only [pending, emit, List.mem_append, List.mem_singleton]
  tauto

lemma mem_pending_completed (h : s.Valid []) {m : ℕ} (hr : s.runningTask = some m)
    (hn : n ∈ (s.step .completed).pending) : n ∈ s.pending ∧ n ≠ m := by
  rw [step, taskCompleted, hr] at hn
  dsimp only at hn
  rw [pending_maybeRunTask, pending, emit, Option.toList_none, List.nil_append] at hn
  refine ⟨?_, ?_⟩
  · rw [pending, List.append_assoc]
    exact List.mem_append_right _ hn
  · rintro rfl
    exact h.running_notMem hr hn

lemma mem_pending_timeout {i : ℕ} (hn : n ∈ (s.step (.timeout i)).pending) : n ∈ s.pending := by
  simp only [step] at hn
  split at hn
  · exact hn
  next task ht =>
    rw [scheduleTaskInternal, pending_maybeRunTask] at hn
    simp only [pending, emit, List.mem_append, List.mem_singleton] at hn ⊢
    rcases hn with (hn | hn | rfl) | hn
    · exact .inl (.inl hn)
    · exact .inl (.inr hn)
    · exact .inr (List.mem_of_getElem? ht)
    · exact .inr (List.mem_of_mem_eraseIdx hn)

lemma mem_timers_timeout {i : ℕ} (hn : n ∈ (s.step (.timeout i)).timers) : n ∈ s.timers := by
  rw [step] at hn
  split at hn
  · exact hn
  · rw [scheduleTaskInternal, timers_maybeRunTask] at hn
    exact List.mem_of_mem_eraseIdx hn

lemma mem_foldl_deleteTask_cases {deletePolicy : ℕ → DeletePolicy} {rest : List ℕ} :
    (∀ n ∈ (rest.foldl (deleteTask false deletePolicy) s).tasks,
        n ∈ s.tasks ∨ n ∈ rest ∧ deletePolicy n = .NonDeletable) ∧
      ∀ n ∈ (rest.foldl (deleteTask false deletePolicy) s).timers,
        n ∈ s.timers ∨ n ∈ rest ∧ deletePolicy n = .Reschedulable := by
  induction rest generalizing s with
  | nil => exact ⟨fun _ hn => .inl hn, fun _ hn => .inl hn⟩
  | cons task rest ih =>
    obtain ⟨htasks, htimers⟩ := ih (s := s.deleteTask false deletePolicy task)
    constructor
    · intro n hn
      rcases htasks n hn with hn | ⟨hn, hp⟩
      · rw [deleteTask, if_neg Bool.false_ne_true] at hn
        cases hp : deletePolicy task with
        | NonDeletable =>
          simp only [hp, List.mem_append, List.mem_singleton] at hn
          rcases hn with hn | rfl
          · exact .inl hn
          · exact .inr ⟨List.mem_cons_self, hp⟩
        | Deletable =>
          rw [hp] at hn
          exact .inl hn
        | Reschedulable =>
          rw [hp] at hn
          exact .inl hn
      · exact .inr ⟨List.mem_cons_of_mem _ hn, hp⟩
    · intro n hn
      rcases htimers n hn with hn | ⟨hn, hp⟩
      · rw [deleteTask, if_neg Bool.false_ne_true] at hn
        cases hp : deletePolicy task with
        | Reschedulable =>
          simp only [hp, emit, List.mem_append, List.mem_singleton] at hn
          rcases hn with hn | rfl
          · exact .inl hn
          · exact .inr ⟨List.mem_cons_self, hp⟩
        | Deletable =>
          rw [hp] at hn
          exact .inl hn
        | NonDeletable =>
          rw [hp] at hn
          exact .inl hn
      · exact .inr ⟨List.mem_cons_of_mem _ hn, hp⟩

/-- A deletion leaves what it has to keep, and what it has put in a timer. -/
lemma deleteTasks_cases {deletePolicy : ℕ → DeletePolicy} :
    (∀ n ∈ (s.step (.deleteTasks deletePolicy)).pending, n ∈ s.pending ∧ (deletePolicy n ≠ .Deletable ∨ n ∈ s.timers)) ∧
      ∀ n ∈ (s.step (.deleteTasks deletePolicy)).timers, n ∈ s.timers ∨ deletePolicy n = .Reschedulable := by
  rw [step, deleteTasksInternal, pending_maybeRunTask, timers_maybeRunTask]
  obtain ⟨htasks, htimers⟩ := @mem_foldl_deleteTask_cases { s with tasks := [] } deletePolicy s.tasks
  have hr := @runningTask_foldl { s with tasks := [] } s.tasks false deletePolicy
  generalize s.tasks.foldl _ _ = s' at hr htasks htimers
  have hc : (s'.cancelTask false deletePolicy).tasks = s'.tasks ∧
      (s'.cancelTask false deletePolicy).timers = s'.timers ∧
      ∀ n, (s'.cancelTask false deletePolicy).runningTask = some n →
        s.runningTask = some n ∧ deletePolicy n ≠ .Deletable := by
    rw [cancelTask]
    split
    next hn => exact ⟨rfl, rfl, fun n h => absurd (h.symm.trans hn) (Option.some_ne_none n)⟩
    next task hn =>
      split
      next hp => exact ⟨rfl, rfl, fun n h => absurd h.symm (Option.some_ne_none n)⟩
      next hp =>
        refine ⟨rfl, rfl, fun n h => ⟨hr ▸ h, ?_⟩⟩
        obtain rfl : task = n := Option.some.inj (hn.symm.trans h)
        simpa using hp
  constructor
  · intro n hn
    rw [pending, hc.1, hc.2.1, List.mem_append, List.mem_append, Option.mem_toList] at hn
    rcases hn with (hn | hn) | hn
    · obtain ⟨hs, hp⟩ := hc.2.2 n hn
      exact ⟨by simp [pending, hs], .inl hp⟩
    · rcases htasks n hn with hn | ⟨hn, hp⟩
      · exact absurd hn List.not_mem_nil
      · exact ⟨by simp [pending, hn], .inl (by simp [hp])⟩
    · rcases htimers n hn with hn | ⟨hn, hp⟩
      · exact ⟨List.mem_append_right _ hn, .inr hn⟩
      · exact ⟨by simp [pending, hn], .inl (by simp [hp])⟩
  · intro n hn
    rw [hc.2.1] at hn
    exact (htimers n hn).imp id And.right

lemma timers_completed : (s.step .completed).timers = s.timers := by
  rw [step, taskCompleted]
  split
  · rfl
  · rw [timers_maybeRunTask]
    rfl

lemma timers_scheduleTask : (s.step .scheduleTask).timers = s.timers := by
  rw [step, scheduleTaskInternal, timers_maybeRunTask]
  rfl

lemma scheduled_maybeRunTask : s.maybeRunTask.scheduled = s.scheduled := by
  rw [maybeRunTask]
  split <;> rfl

lemma scheduled_scheduleTask : (s.step .scheduleTask).scheduled = s.scheduled + 1 := by
  rw [step, scheduleTaskInternal, scheduled_maybeRunTask]
  rfl

lemma scheduled_completed : (s.step .completed).scheduled = s.scheduled := by
  rw [step, taskCompleted]
  split
  · rfl
  · rw [scheduled_maybeRunTask]
    rfl

lemma scheduled_timeout (i : ℕ) : (s.step (.timeout i)).scheduled = s.scheduled := by
  rw [step]
  split
  · rfl
  · rw [scheduleTaskInternal, scheduled_maybeRunTask]
    rfl

lemma scheduled_deleteTasks (deletePolicy : ℕ → DeletePolicy) :
    (s.step (.deleteTasks deletePolicy)).scheduled = s.scheduled := by
  have hd (s : TaskScheduler) (n : ℕ) : (s.deleteTask false deletePolicy n).scheduled = s.scheduled := by
    rw [deleteTask, if_neg Bool.false_ne_true]
    split <;> rfl
  have hf (rest : List ℕ) (s : TaskScheduler) :
      (rest.foldl (deleteTask false deletePolicy) s).scheduled = s.scheduled := by
    induction rest generalizing s with
    | nil => rfl
    | cons n rest ih => exact (ih _).trans (hd s n)
  rw [step, deleteTasksInternal, scheduled_maybeRunTask, cancelTask]
  split
  · exact hf s.tasks _
  · split
    · exact hf s.tasks _
    · exact hf s.tasks _

lemma Valid.lt_scheduled (h : s.Valid []) (hn : n ∈ s.pending) : n < s.scheduled := by
  apply h.known
  rw [seen, List.append_nil, List.append_assoc]
  rw [pending, List.append_assoc, List.mem_append, Option.mem_toList] at hn
  rcases hn with hn | hn
  · refine List.mem_append_left _ (mem_started_of_active _ ?_)
    rw [h.running, hn]
    exact List.mem_singleton_self n
  · exact List.mem_append_right _ hn

end VpnClient.Tasks.TaskScheduler

namespace VpnClient.App.MozillaVPN

open Ipc Models Tasks Library.Runs

variable {V : Type} {env : Env V} {s t u : MozillaVPN V} {n : ℕ} {task : Task}

/-- The tasks have the numbers of the scheduler, and those in the timers are rescheduled. -/
structure Queue (s : MozillaVPN V) : Prop where
  valid : s.scheduler.Valid []
  numbered : s.tasks.length = s.scheduler.scheduled
  timers : ∀ n ∈ s.scheduler.timers, s.deletePolicy n = .Reschedulable

/-- The tasks that run or still have to and are given by `P`. -/
def Pending (P : Task → Prop) (s : MozillaVPN V) (n : ℕ) : Prop :=
  n ∈ s.scheduler.pending ∧ ∃ task, s.tasks[n]? = some task ∧ P task

/-- What the scheduler still has to do for `P` is no more than it was. -/
structure Calm (P : Task → Prop) (s t : MozillaVPN V) : Prop where
  queue : Queue t
  pending : ∀ n, Pending P t n → Pending P s n

variable {P : Task → Prop}

lemma Calm.refl (h : Queue s) : Calm P s s := ⟨h, fun _ hn => hn⟩

lemma Calm.trans (h : Calm P s t) (h' : Calm P t u) : Calm P s u :=
  ⟨h'.queue, fun n hn => h.pending n (h'.pending n hn)⟩

lemma Queue.of_eq (h : Queue s) (hs : t.scheduler = s.scheduler) (ht : t.tasks = s.tasks) : Queue t where
  valid := hs ▸ h.valid
  numbered := by
    rw [hs, ht]
    exact h.numbered
  timers n hn := by
    rw [deletePolicy, ht]
    exact h.timers n (hs ▸ hn)

lemma Calm.of_eq (h : Queue s) (hs : t.scheduler = s.scheduler) (ht : t.tasks = s.tasks) : Calm P s t where
  queue := h.of_eq hs ht
  pending n hn := by
    rw [Pending, hs, ht] at hn
    exact hn

lemma Queue.lt (h : Queue s) (hn : n ∈ s.scheduler.pending) : n < s.tasks.length :=
  h.numbered ▸ h.valid.lt_scheduled hn

lemma Queue.scheduleTask (h : Queue s) (task : Task) : Queue (s.scheduleTask task) where
  valid := h.valid.step .scheduleTask
  numbered := by
    rw [MozillaVPN.scheduleTask, List.length_append, TaskScheduler.scheduled_scheduleTask, h.numbered]
    rfl
  timers n hn := by
    rw [MozillaVPN.scheduleTask, TaskScheduler.timers_scheduleTask] at hn
    have hl : n < s.tasks.length := h.lt (by simp [TaskScheduler.pending, hn])
    rw [deletePolicy, MozillaVPN.scheduleTask, List.getElem?_append_left hl]
    exact h.timers n hn

lemma pending_scheduleTask (h : Queue s) (hn : Pending P (s.scheduleTask task) n) :
    Pending P s n ∨ n = s.tasks.length ∧ P task := by
  obtain ⟨hn, task', ht, hp⟩ := hn
  rw [scheduleTask] at hn ht
  rcases TaskScheduler.mem_pending_scheduleTask.mp hn with hn | hn
  · rw [List.getElem?_append_left (h.lt hn)] at ht
    exact .inl ⟨hn, task', ht, hp⟩
  · rw [← h.numbered] at hn
    subst hn
    rw [List.getElem?_concat_length, Option.some.injEq] at ht
    exact .inr ⟨rfl, ht ▸ hp⟩

lemma calm_scheduleTask (h : Queue s) (hp : ¬ P task) : Calm P s (s.scheduleTask task) :=
  ⟨h.scheduleTask task, fun _ hn => (pending_scheduleTask h hn).resolve_right fun hh => hp hh.2⟩

lemma Queue.deleteTasks (h : Queue s) : Queue s.deleteTasks where
  valid := h.valid.step (.deleteTasks s.deletePolicy)
  numbered := by
    rw [MozillaVPN.deleteTasks, TaskScheduler.scheduled_deleteTasks]
    exact h.numbered
  timers n hn := (TaskScheduler.deleteTasks_cases.2 n hn).elim (h.timers n) id

lemma pending_deleteTasks (h : Queue s) (hn : Pending P s.deleteTasks n) :
    Pending (fun task => P task ∧ task.deletePolicy ≠ .Deletable) s n := by
  obtain ⟨hn, task, ht, hp⟩ := hn
  obtain ⟨hm, hd⟩ := TaskScheduler.deleteTasks_cases.1 n hn
  have ht' : s.tasks[n]? = some task := ht
  have hpolicy : s.deletePolicy n = task.deletePolicy := by
    rw [deletePolicy, ht']
    rfl
  refine ⟨hm, task, ht', hp, ?_⟩
  rw [← hpolicy]
  rcases hd with hd | hd
  · exact hd
  · rw [h.timers n hd]
    decide

lemma calm_deleteTasks (h : Queue s) : Calm P s s.deleteTasks := by
  refine ⟨h.deleteTasks, fun n hn => ?_⟩
  obtain ⟨hm, task, ht, hp, -⟩ := pending_deleteTasks h hn
  exact ⟨hm, task, ht, hp⟩

lemma calm_taskCompleted (h : Queue s) (n : ℕ) : Calm P s (s.taskCompleted n) := by
  rw [taskCompleted]
  split_ifs with hr
  · refine ⟨⟨h.valid.step .completed, ?_, fun m hm => ?_⟩, fun m hm => ?_⟩
    · rw [TaskScheduler.scheduled_completed]
      exact h.numbered
    · rw [TaskScheduler.timers_completed] at hm
      exact h.timers m hm
    · exact ⟨(TaskScheduler.mem_pending_completed h.valid hr hm.1).1, hm.2⟩
  · exact Calm.refl h

lemma not_pending_taskCompleted (h : Queue s) (hr : s.scheduler.runningTask = some n) :
    ¬ Pending P (s.taskCompleted n) n := by
  rw [taskCompleted, if_pos hr]
  exact fun hn => (TaskScheduler.mem_pending_completed h.valid hr hn.1).2 rfl

lemma runningTask_scheduleTask (hr : s.scheduler.runningTask = some n) (task : Task) :
    (s.scheduleTask task).scheduler.runningTask = some n := by
  rw [scheduleTask]
  dsimp only
  rw [TaskScheduler.step, TaskScheduler.scheduleTaskInternal, TaskScheduler.maybeRunTask]
  simp [TaskScheduler.emit, hr]

lemma calm_timeout (h : Queue s) (i : ℕ) : Calm P s { s with scheduler := s.scheduler.step (.timeout i) } where
  queue := ⟨h.valid.step (.timeout i), h.numbered.trans (TaskScheduler.scheduled_timeout i).symm,
    fun m hm => h.timers m (TaskScheduler.mem_timers_timeout hm)⟩
  pending _ hn := ⟨TaskScheduler.mem_pending_timeout hn.1, hn.2⟩

lemma calm_setGroup (h : Queue s) (hr : s.scheduler.runningTask = some n) {requests : List Request}
    (hp : ¬ P (.group requests)) : Calm P s { s with tasks := s.tasks.set n (.group requests) } := by
  refine ⟨⟨h.valid, (List.length_set ..).trans h.numbered, fun m hm => ?_⟩, fun m hm => ?_⟩
  · have hne : n ≠ m := by
      rintro rfl
      exact h.valid.running_notMem hr (List.mem_append_right _ hm)
    rw [deletePolicy]
    dsimp only
    rw [List.getElem?_set_ne hne]
    exact h.timers m hm
  · obtain ⟨hm, task, ht, ha⟩ := hm
    refine ⟨hm, task, ?_, ha⟩
    by_cases hne : n = m
    · subst hne
      rw [List.getElem?_set_self (h.lt hm), Option.some.injEq] at ht
      subst ht
      exact absurd ha hp
    · rwa [List.getElem?_set_ne hne] at ht

section Fields

variable (s)

@[simp] lemma state_scheduleTask (task : Task) : (s.scheduleTask task).state = s.state := rfl

@[simp] lemma settings_scheduleTask (task : Task) : (s.scheduleTask task).settings = s.settings := rfl

@[simp] lemma state_deleteTasks : s.deleteTasks.state = s.state := rfl

@[simp] lemma settings_deleteTasks : s.deleteTasks.settings = s.settings := rfl

@[simp] lemma state_taskCompleted (n : ℕ) : (s.taskCompleted n).state = s.state := by
  rw [taskCompleted]
  split_ifs <;> rfl

@[simp] lemma settings_taskCompleted (n : ℕ) : (s.taskCompleted n).settings = s.settings := by
  rw [taskCompleted]
  split_ifs <;> rfl

@[simp] lemma state_setState (state : State) : (s.setState state).state = state := by
  rw [setState]
  split_ifs <;> rfl

@[simp] lemma settings_setState (state : State) : (s.setState state).settings = s.settings := by
  rw [setState]
  split_ifs <;> rfl

@[simp] lemma state_scheduleRefreshDataTasks : s.scheduleRefreshDataTasks.state = s.state := by
  rw [scheduleRefreshDataTasks]
  split_ifs <;> rfl

@[simp] lemma settings_scheduleRefreshDataTasks : s.scheduleRefreshDataTasks.settings = s.settings := by
  rw [scheduleRefreshDataTasks]
  split_ifs <;> rfl

@[simp] lemma state_addCurrentDeviceAndRefreshData : s.addCurrentDeviceAndRefreshData.state = s.state := by
  rw [addCurrentDeviceAndRefreshData, state_scheduleRefreshDataTasks, state_scheduleTask]

@[simp] lemma settings_addCurrentDeviceAndRefreshData :
    s.addCurrentDeviceAndRefreshData.settings = s.settings := by
  rw [addCurrentDeviceAndRefreshData, settings_scheduleRefreshDataTasks, settings_scheduleTask]

@[simp] lemma state_maybeRegenerateDeviceKey : s.maybeRegenerateDeviceKey.state = s.state := by
  rw [maybeRegenerateDeviceKey]
  split_ifs <;> simp

@[simp] lemma settings_maybeRegenerateDeviceKey : s.maybeRegenerateDeviceKey.settings = s.settings := by
  rw [maybeRegenerateDeviceKey]
  split_ifs <;> simp

lemma errorHandle_cases (alert : AlertType) : s.errorHandle alert = s ∨ s.errorHandle alert = s.reset true := by
  rw [errorHandle, errorHandled]
  split_ifs
  · exact .inl rfl
  · exact .inr rfl
  · exact .inr rfl
  · exact .inl rfl

lemma reset_true : s.reset true = (s.reset false).setState .StateInitialize := rfl

lemma state_reset (forceInitialState : Bool) :
    (s.reset forceInitialState).state = if forceInitialState then .StateInitialize else s.state := by
  cases forceInitialState with
  | true => rw [reset_true, state_setState, if_pos rfl]
  | false => rfl

lemma settings_reset (forceInitialState : Bool) : (s.reset forceInitialState).settings = s.settings.reset := by
  cases forceInitialState with
  | true =>
    rw [reset_true, settings_setState]
    rfl
  | false => rfl

end Fields

lemma calm_setState (h : Queue s) (hp : ¬ P .controllerAction) (state : State) : Calm P s (s.setState state) := by
  rw [setState]
  split_ifs
  · exact Calm.of_eq h rfl rfl
  · have hq : Calm P s { s with state, periodicOperations := false } := Calm.of_eq h rfl rfl
    exact hq.trans (calm_scheduleTask hq.queue hp)

lemma calm_deactivate (h : Queue s) (hp : ¬ P .controllerAction) : Calm P s s.deactivate :=
  (calm_deleteTasks h).trans (calm_scheduleTask h.deleteTasks hp)

lemma calm_deleteTasks_reset (h : Queue s) (hp : ¬ P .controllerAction) (forceInitialState : Bool) :
    Calm P s.deleteTasks (s.reset forceInitialState) := by
  have hc : Calm P s.deleteTasks s.deactivate := calm_scheduleTask h.deleteTasks hp
  have hq : Calm P s.deactivate (s.reset false) := Calm.of_eq hc.queue rfl rfl
  cases forceInitialState with
  | true =>
    rw [reset_true]
    exact hc.trans (hq.trans (calm_setState hq.queue hp _))
  | false => exact hc.trans hq

lemma pending_reset (h : Queue s) (hp : ¬ P .controllerAction) (forceInitialState : Bool)
    (hn : Pending P (s.reset forceInitialState) n) :
    Pending (fun task => P task ∧ task.deletePolicy ≠ .Deletable) s n :=
  pending_deleteTasks h ((calm_deleteTasks_reset h hp forceInitialState).pending n hn)

lemma calm_reset (h : Queue s) (hp : ¬ P .controllerAction) (forceInitialState : Bool) :
    Calm P s (s.reset forceInitialState) :=
  (calm_deleteTasks h).trans (calm_deleteTasks_reset h hp forceInitialState)

lemma calm_errorHandle (h : Queue s) (hp : ¬ P .controllerAction) (alert : AlertType) :
    Calm P s (s.errorHandle alert) := by
  rcases s.errorHandle_cases alert with he | he
  · rw [he]
    exact Calm.refl h
  · rw [he]
    exact calm_reset h hp true

lemma initialized_of_parse {documents : Documents} {json : Bytes} {user : User}
    (h : User.parse documents json = some user) : user.initialized = true := by
  simp only [User.parse, Option.bind_eq_bind, Option.bind_eq_some_iff, Option.pure_def] at h
  obtain ⟨_, -, _, -, _, -, _, -, _, -, _, -, subscriptions, -, h⟩ := h
  by_cases hc : subscriptions.contains "vpn" = true
  · simp only [hc, if_true, Option.bind_eq_some_iff] at h
    obtain ⟨_, -, _, -, _, -, h⟩ := h
    rw [← Option.some.inj h]
  · simp only [hc, Option.bind_some] at h
    rw [← Option.some.inj h]

/-- The reading of the account touches neither the tasks nor the token, and ends with a user who is known. -/
lemma readAccount_frame (env : Env V) (json : Bytes) (s : MozillaVPN V) :
    (s.readAccount env json).2.scheduler = s.scheduler ∧ (s.readAccount env json).2.tasks = s.tasks ∧
      (s.readAccount env json).2.state = s.state ∧ (s.readAccount env json).2.keys = s.keys ∧
      (s.readAccount env json).2.settings.token = s.settings.token ∧
      (s.readAccount env json).2.settings.privateKey = s.settings.privateKey ∧
      ((s.readAccount env json).1 = true → (s.readAccount env json).2.user.initialized = true) := by
  rw [readAccount, User.fromJson]
  dsimp only
  cases hu : User.parse env.documents json with
  | none => exact ⟨rfl, rfl, rfl, rfl, rfl, rfl, fun h => absurd h Bool.false_ne_true⟩
  | some user =>
    have hi := initialized_of_parse hu
    dsimp only
    rw [if_neg (by simp)]
    by_cases hd : (!(s.deviceModel.fromJson env.documents env.sorting s.keys.toKeys json).1) = true
    · rw [if_pos hd]
      exact ⟨rfl, rfl, rfl, rfl, rfl, rfl, fun h => absurd h Bool.false_ne_true⟩
    · rw [if_neg hd]
      exact ⟨rfl, rfl, rfl, rfl, rfl, rfl, fun _ => hi⟩

section Account

/-- The states in which the app shows what belongs to an account. -/
def NeedsAccount : State → Bool
  | .StateInitialize | .StateAuthenticating | .StateHeartbeatFailure | .StateUpdateRequired => false
  | _ => true

/-- The task by which an activation ends. -/
def Activation (task : Task) : Prop := task = .function .maybeStateMain

/-- A call of the function activates the app. -/
def Activates (s : MozillaVPN V) : Function → Prop
  | .maybeStateMain => True
  | .leaveDeviceLimit => s.state = .StateDeviceLimit
  | .recoverSubscription => s.user.subscriptionNeeded = false ∧ s.state = .StateSubscriptionNeeded
  | .checkKeyRegeneration => False

/-- An activation does not begin while another one waits, purchases are signalled of a user who is logged in, and the
app is not reset hard, after which it quits. -/
def Fits (s : MozillaVPN V) : Event → Prop
  | .completeAuthentication _ _ => s.runningTask = some .authenticate → ∀ n, ¬ Pending Activation s n
  | .onboardingCompleted =>
    s.state ≠ .StateUpdateRequired → s.userAuthenticated = true → ∀ n, ¬ Pending Activation s n
  | .purchase p => s.settings.token.isSome = true ∧ (p = .subscriptionCompleted → ∀ n, ¬ Pending Activation s n)
  | .called => ∀ f, s.runningTask = some (.function f) → s.Activates f →
    ∀ n, Pending Activation s n → s.scheduler.runningTask = some n
  | .hardReset => False
  | _ => True

/-- There is a token while the app shows what belongs to an account, or is about to. -/
structure Inv (s : MozillaVPN V) : Prop where
  queue : Queue s
  account : NeedsAccount s.state = true ∨ (∃ n, Pending Activation s n) → s.settings.token.isSome = true

lemma not_activation_controllerAction : ¬ Activation .controllerAction := by
  rw [Activation]
  simp

lemma inv_of_token (h : Queue s) (ht : s.settings.token.isSome = true) : Inv s := ⟨h, fun _ => ht⟩

lemma inv_of_idle (h : Queue s) (hn : ∀ n, ¬ Pending Activation s n) (hs : NeedsAccount s.state = false) : Inv s where
  queue := h
  account ha := by
    rcases ha with ha | ⟨n, ha⟩
    · rw [hs] at ha
      cases ha
    · exact absurd ha (hn n)

lemma Inv.of_calm (h : Inv s) (hc : Calm Activation s t) (ht : t.settings.token = s.settings.token)
    (hs : NeedsAccount t.state = true → NeedsAccount s.state = true) : Inv t where
  queue := hc.queue
  account ha := by
    rw [ht]
    rcases ha with ha | ⟨n, ha⟩
    · exact h.account (.inl (hs ha))
    · exact h.account (.inr ⟨n, hc.pending n ha⟩)

lemma calm_scheduleRefreshDataTasks (h : Queue s) : Calm Activation s s.scheduleRefreshDataTasks := by
  rw [scheduleRefreshDataTasks]
  split_ifs
  · have hc : Calm Activation s (s.scheduleTask (.request .getLocation)) := calm_scheduleTask h (by simp [Activation])
    exact hc.trans (calm_scheduleTask hc.queue (by simp [Activation]))
  · exact calm_scheduleTask h (by simp [Activation])

lemma calm_addCurrentDeviceAndRefreshData (h : Queue s) : Calm Activation s s.addCurrentDeviceAndRefreshData := by
  have hc : Calm Activation s (s.scheduleTask (.request .addDevice)) := calm_scheduleTask h (by simp [Activation])
  exact hc.trans (calm_scheduleRefreshDataTasks hc.queue)

lemma calm_maybeRegenerateDeviceKey (h : Queue s) : Calm Activation s s.maybeRegenerateDeviceKey := by
  rw [maybeRegenerateDeviceKey]
  split_ifs
  · exact Calm.refl h
  · exact Calm.refl h
  · have hc := calm_addCurrentDeviceAndRefreshData h
    exact hc.trans (calm_scheduleTask hc.queue (by simp [Activation]))

lemma not_pending_reset (h : Queue s) (forceInitialState : Bool) (n : ℕ) :
    ¬ Pending Activation (s.reset forceInitialState) n := by
  intro hn
  obtain ⟨-, task, -, ha, hp⟩ := pending_reset h not_activation_controllerAction forceInitialState hn
  rw [ha] at hp
  exact hp rfl

lemma inv_reset (h : Queue s) : Inv (s.reset true) :=
  inv_of_idle (calm_reset (P := Activation) h not_activation_controllerAction true).queue (not_pending_reset h true)
    (by rw [state_reset, if_pos rfl]; rfl)

lemma Inv.errorHandle (h : Inv s) (alert : AlertType) : Inv (s.errorHandle alert) := by
  rcases s.errorHandle_cases alert with he | he
  · rwa [he]
  · rw [he]
    exact inv_reset h.queue

lemma Inv.setState (h : Inv s) (state : State) (hs : NeedsAccount state = true → s.settings.token.isSome = true) :
    Inv (s.setState state) := by
  have hc : Calm Activation s (s.setState state) := calm_setState h.queue not_activation_controllerAction state
  refine ⟨hc.queue, fun ha => ?_⟩
  rw [settings_setState]
  rcases ha with ha | ⟨n, ha⟩
  · rw [state_setState] at ha
    exact hs ha
  · exact h.account (.inr ⟨n, hc.pending n ha⟩)

lemma Inv.scheduleTask (h : Inv s) (hp : ¬ Activation task) : Inv (s.scheduleTask task) :=
  h.of_calm (calm_scheduleTask h.queue hp) rfl id

lemma Inv.deleteTasks (h : Inv s) : Inv s.deleteTasks := h.of_calm (calm_deleteTasks h.queue) rfl id

lemma Inv.taskCompleted (h : Inv s) (n : ℕ) : Inv (s.taskCompleted n) :=
  h.of_calm (calm_taskCompleted h.queue n) (by rw [settings_taskCompleted]) (by rw [state_taskCompleted]; exact id)

lemma runningTask_setState (hr : s.scheduler.runningTask = some n) (state : State) :
    (s.setState state).scheduler.runningTask = some n := by
  rw [MozillaVPN.setState]
  split_ifs
  · exact hr
  · exact runningTask_scheduleTask (s := { s with state, periodicOperations := false }) hr _

/-- The activation keeps the token, unless the models are not complete. Then the app starts again, and either nothing
is left of it or the running task goes on. -/
lemma maybeStateMain_cases (h : Queue s) :
    Calm Activation s s.maybeStateMain ∧ (s.maybeStateMain.settings.token = s.settings.token ∨
      s.modelsInitialized = false ∧ s.maybeStateMain.state = .StateInitialize ∧
        ((∀ n, ¬ Pending Activation s.maybeStateMain n) ∨
          ∀ n, s.scheduler.runningTask = some n → s.maybeStateMain.scheduler.runningTask = some n)) := by
  have hp := not_activation_controllerAction
  rw [maybeStateMain]
  dsimp only
  split_ifs with h₁ h₂ h₃ h₄ h₅ h₆
  · exact ⟨calm_setState h hp _, .inl (by rw [settings_setState])⟩
  · exact ⟨Calm.refl h, .inl rfl⟩
  · exact ⟨calm_setState h hp _, .inl (by rw [settings_setState])⟩
  · have hc : Calm Activation s (s.setState .StateOnboarding) := calm_setState h hp _
    exact ⟨hc.trans (Calm.of_eq hc.queue rfl rfl), .inl (by rw [settings_setState])⟩
  · have hr : Calm Activation s s.resetSettings := Calm.of_eq h rfl rfl
    have he : Calm Activation _ (s.resetSettings.errorHandle .RemoteServiceErrorAlert) := calm_errorHandle hr.queue hp _
    refine ⟨hr.trans (he.trans (calm_setState he.queue hp _)), .inr ⟨by simpa using h₅, state_setState .., ?_⟩⟩
    rcases s.resetSettings.errorHandle_cases .RemoteServiceErrorAlert with hs | hs
    · rw [hs]
      exact .inr fun n hn => runningTask_setState (s := s.resetSettings) hn _
    · rw [hs]
      have hq : Queue (s.resetSettings.reset true) := (inv_reset hr.queue).queue
      exact .inl fun n hn => not_pending_reset hr.queue true n ((calm_setState hq hp _).pending n hn)
  · have hc := calm_maybeRegenerateDeviceKey h
    have hm : Calm Activation s { s.maybeRegenerateDeviceKey with
        settings := { s.maybeRegenerateDeviceKey.settings with onboardingCompleted := true } } :=
      hc.trans (Calm.of_eq hc.queue rfl rfl)
    have hs := hm.trans (calm_setState hm.queue hp .StateMain)
    refine ⟨hs.trans (Calm.of_eq hs.queue rfl rfl), .inl ?_⟩
    rw [settings_setState, settings_maybeRegenerateDeviceKey]
  · exact ⟨calm_maybeRegenerateDeviceKey h, .inl (by rw [settings_maybeRegenerateDeviceKey])⟩

lemma inv_maybeStateMain (h : Queue s) (ht : s.settings.token.isSome = true)
    (hn : s.modelsInitialized = true ∨ ∀ n, ¬ Pending Activation s n) : Inv s.maybeStateMain := by
  obtain ⟨hc, htoken | ⟨hm, hs, -⟩⟩ := maybeStateMain_cases h
  · exact inv_of_token hc.queue (by rw [htoken, ht])
  · rcases hn with hn | hn
    · rw [hm] at hn
      cases hn
    · exact inv_of_idle hc.queue (fun n hp => hn n (hc.pending n hp)) (by rw [hs]; rfl)

lemma inv_completeActivation (h : Queue s) (ht : s.settings.token.isSome = true)
    (hn : ∀ n, ¬ Pending Activation s n) : Inv (s.completeActivation env) := by
  have hr : Queue (s.maybeRemoveCurrentDevice env).2 ∧
      (s.maybeRemoveCurrentDevice env).2.settings = s.settings ∧
      ((s.maybeRemoveCurrentDevice env).1 = .DeviceNotFound → (s.maybeRemoveCurrentDevice env).2 = s) := by
    rw [maybeRemoveCurrentDevice]
    split
    · exact ⟨h, rfl, fun _ => rfl⟩
    · split_ifs
      · exact ⟨h, rfl, fun _ => rfl⟩
      · exact ⟨h.scheduleTask _, rfl, fun hd => by cases hd⟩
  obtain ⟨hq, hs, hd⟩ := hr
  rw [completeActivation]
  dsimp only
  by_cases hc : (if (s.maybeRemoveCurrentDevice env).1 = .DeviceRemoved then (s.deviceModel.devices.length : ℤ) - 1
      else s.deviceModel.devices.length) ≥ (s.maybeRemoveCurrentDevice env).2.user.maxDevices ∧
      (s.maybeRemoveCurrentDevice env).1 = .DeviceNotFound
  · rw [if_pos hc, hd hc.2]
    exact inv_maybeStateMain h ht (.inr hn)
  rw [if_neg hc]
  split_ifs
  · refine inv_of_token ((calm_addCurrentDeviceAndRefreshData hq).queue.scheduleTask _) ?_
    rw [settings_scheduleTask, settings_addCurrentDeviceAndRefreshData, hs, ht]
  · refine inv_of_token ((calm_scheduleRefreshDataTasks hq).queue.scheduleTask _) ?_
    rw [settings_scheduleTask, settings_scheduleRefreshDataTasks, hs, ht]

lemma calm_readAccount (h : Queue s) (json : Bytes) : Calm Activation s (s.readAccount env json).2 :=
  Calm.of_eq h (readAccount_frame env json s).1 (readAccount_frame env json s).2.1

lemma Inv.readAccount (h : Inv s) (json : Bytes) : Inv (s.readAccount env json).2 := by
  obtain ⟨-, -, hs, -, ht, -⟩ := readAccount_frame env json s
  exact h.of_calm (calm_readAccount h.queue json) ht (by rw [hs]; exact id)

lemma Inv.completeAuthentication (h : Inv s) (json : Bytes) (token : String)
    (hn : ∀ n, ¬ Pending Activation s n) : Inv (s.completeAuthentication env json token) := by
  have hr : Inv (s.readAccount env json).2 := h.readAccount json
  have hc : Calm Activation s (s.readAccount env json).2 := calm_readAccount h.queue json
  rw [MozillaVPN.completeAuthentication]
  dsimp only
  split_ifs
  · exact hr.errorHandle _
  · have hq : Queue { (s.readAccount env json).2 with
        settings := { (s.readAccount env json).2.settings with token := some token } } :=
      hr.queue.of_eq rfl rfl
    exact inv_maybeStateMain hq rfl (.inr fun n hp => hn n (hc.pending n hp))
  · have hq : Queue { (s.readAccount env json).2 with
        settings := { (s.readAccount env json).2.settings with token := some token } } :=
      hr.queue.of_eq rfl rfl
    exact inv_completeActivation hq rfl fun n hp => hn n (hc.pending n hp)

lemma Inv.accountChecked (h : Inv s) (json : Bytes) : Inv (s.accountChecked env json) := by
  have hr : Inv (s.readAccount env json).2 := h.readAccount json
  obtain ⟨-, -, -, -, -, -, hu⟩ := readAccount_frame env json s
  have hk : Inv (s.readAccount env json).2.checkCurrentDevice.2 := by
    rw [checkCurrentDevice]
    split_ifs
    · exact hr
    · exact hr
    · exact hr.of_calm (Calm.of_eq hr.queue rfl rfl) rfl id
  have hi : (s.readAccount env json).2.checkCurrentDevice.2.user = (s.readAccount env json).2.user := by
    rw [checkCurrentDevice]
    split_ifs <;> rfl
  rw [MozillaVPN.accountChecked]
  dsimp only
  split_ifs with ha _ hs
  · exact hr
  · exact hk
  · have hn : (s.readAccount env json).2.checkCurrentDevice.2.maybeStateMain =
        (s.readAccount env json).2.checkCurrentDevice.2.setState .StateSubscriptionNeeded := by
      rw [maybeStateMain, if_pos ⟨by rw [hi]; exact hu (by simpa using ha), by rw [hs.2]; decide, hs.1⟩]
    rw [hn]
    exact hk.setState _ fun _ => hk.account (.inl (by rw [hs.2]; rfl))
  · exact hk

lemma token_of_userAuthenticated (h : s.userAuthenticated = true) : s.settings.token.isSome = true := by
  rw [userAuthenticated, Bool.and_eq_true] at h
  exact h.2

lemma Inv.heartbeatCompleted (h : Inv s) (success : Bool) : Inv (s.heartbeatCompleted success) := by
  rw [MozillaVPN.heartbeatCompleted]
  split_ifs with _ _ hm
  · exact h.deleteTasks.setState _ fun hs => by cases hs
  · exact h
  · exact h.setState _ fun hs => by cases hs
  · rw [not_or] at hm
    exact inv_maybeStateMain h.queue (token_of_userAuthenticated (by simpa using hm.2)) (.inl (by simpa using hm.1))

lemma Inv.authenticate (h : Inv s) : Inv s.authenticate :=
  ((h.setState .StateAuthenticating fun hs => by cases hs).scheduleTask (by simp [Activation])).scheduleTask
    (by simp [Activation])

lemma Inv.removeDevice (h : Inv s) (publicKey : String) : Inv (s.removeDevice publicKey) := by
  have hd : Inv { s with deviceModel := s.deviceModel.removeDeviceFromPublicKey publicKey } :=
    h.of_calm (Calm.of_eq h.queue rfl rfl) rfl id
  rw [MozillaVPN.removeDevice]
  dsimp only
  split_ifs
  · exact hd
  · refine Inv.scheduleTask ?_ (by simp [Activation])
    refine hd.of_calm (calm_addCurrentDeviceAndRefreshData hd.queue) ?_ ?_
    · rw [settings_addCurrentDeviceAndRefreshData]
    · rw [state_addCurrentDeviceAndRefreshData]
      exact id

lemma Inv.logout (h : Inv s) : Inv s.logout := by
  have hd : Queue s.deactivate.deleteTasks :=
    (calm_deactivate (P := Activation) h.queue not_activation_controllerAction).queue.deleteTasks
  have hq : ∀ t : MozillaVPN V, Queue t → Inv (t.reset (t.state ≠ .StateUpdateRequired)) := by
    intro t ht
    refine inv_of_idle (calm_reset (P := Activation) ht not_activation_controllerAction _).queue
      (not_pending_reset ht _) ?_
    rw [state_reset]
    split_ifs with hs
    · rfl
    · rw [decide_eq_true_eq, not_not] at hs
      rw [hs]
      rfl
  rw [MozillaVPN.logout]
  split_ifs
  · exact hq _ (hd.scheduleTask _)
  · exact hq _ hd

lemma Inv.activate (h : Inv s) : Inv s.activate := by
  refine Inv.scheduleTask ?_ not_activation_controllerAction
  refine h.deleteTasks.of_calm (calm_maybeRegenerateDeviceKey h.deleteTasks.queue) ?_ ?_
  · rw [settings_maybeRegenerateDeviceKey]
  · rw [state_maybeRegenerateDeviceKey]
    exact id

lemma Inv.purchase (h : Inv s) {p : Purchase} (ht : s.settings.token.isSome = true)
    (hn : p = .subscriptionCompleted → ∀ n, ¬ Pending Activation s n) : Inv (s.purchase env p) := by
  have hf (canceledByUser : Bool) : Inv (s.subscriptionFailedInternal env canceledByUser) := by
    rw [subscriptionFailedInternal]
    split_ifs
    · exact h
    · exact ((h.setState _ fun _ => ht).errorHandle _).scheduleTask (by simp [Activation])
    · exact (h.setState _ fun _ => ht).scheduleTask (by simp [Activation])
  cases p with
  | subscriptionStarted => exact h.setState _ fun _ => ht
  | restoreSubscriptionStarted => exact h.setState _ fun _ => ht
  | subscriptionCompleted =>
    rw [MozillaVPN.purchase]
    split_ifs
    · exact h
    · exact inv_completeActivation h.queue ht (hn rfl)
  | subscriptionFailed => exact hf false
  | subscriptionCanceled => exact hf true
  | alreadySubscribed =>
    rw [MozillaVPN.purchase]
    split_ifs
    · exact h
    · exact h.setState _ fun _ => ht
  | billingNotAvailable =>
    rw [MozillaVPN.purchase]
    split_ifs
    · exact h.setState _ fun _ => ht
    · exact h
  | subscriptionNotValidated => exact h.setState _ fun _ => ht

/-- The function of a running task is called. If it activates the app, no activation waits but that which may run. -/
lemma Inv.called (h : Inv s) {f : Function} (hr : s.scheduler.runningTask = some n)
    (hf : s.tasks[n]? = some (.function f))
    (hn : s.Activates f → ∀ m, Pending Activation s m → s.scheduler.runningTask = some m) :
    Inv ((s.call f).taskCompleted n) := by
  have hidle (hne : f ≠ .maybeStateMain) (ha : s.Activates f) (m : ℕ) : ¬ Pending Activation s m := by
    intro hm
    obtain rfl : n = m := Option.some.inj (hr.symm.trans (hn ha m hm))
    obtain ⟨-, task, ht, ha⟩ := hm
    rw [hf, Option.some.injEq] at ht
    rw [← ht, Activation, Task.function.injEq] at ha
    exact hne ha
  cases f with
  | maybeStateMain =>
    have hp : n ∈ s.scheduler.pending := by simp [TaskScheduler.pending, hr]
    have ht := h.account (.inr ⟨n, hp, _, hf, rfl⟩)
    obtain ⟨hc, htoken | ⟨-, hs, hrun⟩⟩ := maybeStateMain_cases h.queue
    · exact (inv_of_token hc.queue (by rw [htoken, ht])).taskCompleted n
    · have hcc : Calm Activation s.maybeStateMain (s.maybeStateMain.taskCompleted n) := calm_taskCompleted hc.queue n
      refine inv_of_idle hcc.queue (fun m hm => ?_) (by rw [state_taskCompleted, call, hs]; rfl)
      rcases hrun with hrun | hrun
      · exact hrun m (hcc.pending m hm)
      · obtain rfl : n = m := Option.some.inj (hr.symm.trans (hn trivial m (hc.pending m (hcc.pending m hm))))
        exact not_pending_taskCompleted hc.queue (hrun n hr) hm
  | leaveDeviceLimit =>
    refine Inv.taskCompleted ?_ n
    rw [call]
    split_ifs with hs
    · exact h
    · rw [not_not] at hs
      exact inv_maybeStateMain h.queue (h.account (.inl (by rw [hs]; rfl))) (.inr (hidle (by simp) hs))
  | recoverSubscription =>
    refine Inv.taskCompleted ?_ n
    rw [call]
    split_ifs with hs
    · exact inv_maybeStateMain h.queue (h.account (.inl (by rw [hs.2]; rfl)))
        (.inr (hidle (by simp) ⟨by simpa using hs.1, hs.2⟩))
    · exact h
  | checkKeyRegeneration =>
    refine Inv.taskCompleted ?_ n
    rw [call]
    split_ifs
    · exact (h.errorHandle _).setState _ fun hs => by cases hs
    · exact h

lemma Inv.setGroup (h : Inv s) (hr : s.scheduler.runningTask = some n) (requests : List Request) :
    Inv { s with tasks := s.tasks.set n (.group requests) } :=
  h.of_calm (calm_setGroup h.queue hr (by simp [Activation])) rfl id

variable [DecidableEq V]

lemma Inv.answer (h : Inv s) (r : Request) (a : Answer) : Inv (s.answer env r a) := by
  have hf (alert : AlertType) : Inv (s.errorHandle alert) := h.errorHandle alert
  have hs (reply : Bytes) : Inv (s.serversFetched env reply) := h.of_calm (Calm.of_eq h.queue rfl rfl) rfl id
  have hd (publicKey privateKey : String) (time : ℤ) : Inv (s.deviceAdded env publicKey privateKey time) :=
    h.of_calm (Calm.of_eq h.queue rfl rfl) rfl id
  have hl : Inv { s with location := true } := h.of_calm (Calm.of_eq h.queue rfl rfl) rfl id
  cases r <;> cases a <;> rw [MozillaVPN.answer] <;>
    first
    | exact h
    | exact hf _
    | exact hs _
    | exact hd _ _ _
    | exact hl
    | exact h.accountChecked _
    | exact h.heartbeatCompleted _
    | exact h.removeDevice _
    | simp

lemma Inv.answered (h : Inv s) (i : ℕ) (a : Answer) : Inv (s.answered env i a) := by
  have hd (t : MozillaVPN V) (ht : Inv t) (publicKey : String) : Inv (t.deviceRemovalCompleted env publicKey) :=
    ht.of_calm (Calm.of_eq ht.queue rfl rfl) rfl id
  rw [MozillaVPN.answered]
  split
  · exact h
  next n hr =>
    split
    next r hn =>
      have ha : Inv ((s.answer env r a).taskCompleted n) := (h.answer r a).taskCompleted n
      dsimp only
      split
      · exact hd _ ha _
      · exact ha
    next requests hn =>
      split
      · exact h
      next r hi =>
        have ha : Inv (s.answer env r a) := h.answer r a
        dsimp only
        split_ifs with hrun
        · exact (ha.setGroup hrun _).taskCompleted n
        · exact ha.setGroup hrun _
        · exact ha
    next => exact h

lemma Inv.step (h : Inv s) (e : Event) (hf : Fits s e) : Inv (s.step env e) := by
  have hp := not_activation_controllerAction
  have hr : ∀ r, ¬ Activation (.request r) := fun r => by simp [Activation]
  have hg : ∀ requests, ¬ Activation (.group requests) := fun requests => by simp [Activation]
  cases e with
  | authenticate => exact h.authenticate
  | cancelAuthentication =>
    rw [MozillaVPN.step, MozillaVPN.cancelAuthentication]
    split_ifs
    · exact h
    · exact inv_reset h.queue
  | completeAuthentication json token =>
    rw [MozillaVPN.step]
    split_ifs with ht
    · exact h.completeAuthentication json token (hf ht)
    · exact h
  | abortAuthentication =>
    rw [MozillaVPN.step]
    split_ifs
    · exact h.setState _ fun hs => by cases hs
    · exact h
  | errorHandle alert => exact h.errorHandle alert
  | finished =>
    rw [MozillaVPN.step]
    split
    · exact h
    next n hn =>
      split_ifs
      · exact h.taskCompleted n
      · exact h
  | answered i a => exact h.answered i a
  | called =>
    rw [MozillaVPN.step]
    split
    · exact h
    next n hn =>
      split
      next f ht => exact h.called hn ht (hf f (by rw [runningTask, hn]; exact ht))
      next => exact h
  | timeout i => exact h.of_calm (calm_timeout h.queue i) rfl id
  | periodicOperations =>
    rw [MozillaVPN.step]
    split_ifs
    · exact h.scheduleTask (hg _)
    · exact h
  | removeDeviceFromPublicKey publicKey =>
    have hq : Inv (s.scheduleTask (.request (.removeDevice publicKey))) := h.scheduleTask (hr _)
    rw [MozillaVPN.step, removeDeviceFromPublicKey]
    split_ifs
    · exact hq.of_calm (Calm.of_eq hq.queue rfl rfl) rfl id
    · exact hq
  | onboardingCompleted =>
    have hs : Inv { s with
        settings :=
          { s.settings with
            onboardingCompleted := true
            gleanEnabled := s.settings.onboardingDataCollectionEnabled } } :=
      h.of_calm (Calm.of_eq h.queue rfl rfl) rfl id
    rw [MozillaVPN.step, MozillaVPN.onboardingCompleted]
    split_ifs with hu ha
    · exact hs
    · exact hs.authenticate
    · rw [Bool.not_eq_true', Bool.not_eq_false] at ha
      exact inv_maybeStateMain hs.queue (token_of_userAuthenticated ha) (.inr (hf hu ha))
  | activate => exact h.activate
  | deactivate => exact h.deleteTasks.scheduleTask hp
  | silentSwitch => exact h.deleteTasks.scheduleTask hp
  | refreshDevices =>
    rw [MozillaVPN.step, MozillaVPN.refreshDevices]
    split_ifs
    · exact h.scheduleTask (hr _)
    · exact h
  | triggerHeartbeat => exact h.scheduleTask (hr _)
  | logout => exact h.logout
  | reset => exact inv_reset h.queue
  | hardReset => exact hf.elim
  | readyToUpdate => exact h.setState _ fun hs => by cases hs
  | controllerStateChanged off =>
    have hc : Inv { s with controllerOff := off } := h.of_calm (Calm.of_eq h.queue rfl rfl) rfl id
    have hi : Inv { s with controllerOff := off, controllerInitialized := true } :=
      h.of_calm (Calm.of_eq h.queue rfl rfl) rfl id
    rw [MozillaVPN.step]
    dsimp only
    split_ifs
    · exact hc
    · exact hi.activate
    · exact hi
  | purchase p => exact h.purchase hf.1 hf.2
  | setDNSProviderFlags flags => exact h.of_calm (Calm.of_eq h.queue rfl rfl) rfl id

/-- The app before it has set a state. -/
structure Initial (s : MozillaVPN V) : Prop where
  queue : Queue s
  idle : ∀ n, ¬ Pending Activation s n
  state : s.state = .StateInitialize

omit [DecidableEq V] in
lemma Initial.of_eq (h : Initial s) (hs : t.scheduler = s.scheduler) (ht : t.tasks = s.tasks)
    (hst : t.state = s.state) : Initial t where
  queue := h.queue.of_eq hs ht
  idle n hn := h.idle n ((Calm.of_eq (P := Activation) h.queue hs ht).pending n hn)
  state := hst.trans h.state

omit [DecidableEq V] in
lemma Initial.inv (h : Initial s) : Inv s := inv_of_idle h.queue h.idle (by rw [h.state]; rfl)

omit [DecidableEq V] in
lemma keysFromSettings_frame (h : s.keysFromSettings env = some t) :
    t.scheduler = s.scheduler ∧ t.tasks = s.tasks ∧ t.state = s.state ∧ t.settings.token = s.settings.token := by
  rw [keysFromSettings] at h
  simp only [Option.bind_eq_bind, Option.pure_def] at h
  split_ifs at h with _ hp
  all_goals
    obtain ⟨publicKey, -, h⟩ := Option.bind_eq_some_iff.mp h
    obtain rfl := Option.some.inj h
    exact ⟨rfl, rfl, rfl, by split_ifs <;> rfl⟩

omit [DecidableEq V] in
lemma userFromSettings_frame (h : s.userFromSettings = some t) :
    t.scheduler = s.scheduler ∧ t.tasks = s.tasks ∧ t.state = s.state ∧ t.settings = s.settings := by
  simp only [userFromSettings, Option.bind_eq_bind, Option.bind_eq_some_iff, Option.pure_def] at h
  obtain ⟨_, -, _, -, _, -, _, -, _, -, h⟩ := h
  obtain rfl := Option.some.inj h
  exact ⟨rfl, rfl, rfl, rfl⟩

lemma inv_initializeApp (h : Initial s) : Inv (s.initializeApp env) := by
  have h₁ : Initial (s.scheduleTask (.group [.addonIndex])) :=
    ⟨h.queue.scheduleTask _, fun n hn => h.idle n ((calm_scheduleTask h.queue (by simp [Activation])).pending n hn),
      h.state⟩
  rw [initializeApp]
  dsimp only
  split_ifs with ht
  · exact h₁.inv
  have ht₁ : (s.scheduleTask (.group [.addonIndex])).settings.token.isSome = true := Option.isSome_iff_ne_none.mpr ht
  split
  · exact h₁.inv
  next s₂ hs₂ =>
    obtain ⟨hq, hts, hst, hset⟩ := userFromSettings_frame hs₂
    have h₂ := h₁.of_eq hq hts hst
    have ht₂ : s₂.settings.token.isSome = true := by rw [hset, ht₁]
    split_ifs
    · refine inv_of_token (Queue.scheduleTask ?_ _) ?_
      · exact (calm_setState (P := Activation) h₂.queue not_activation_controllerAction _).queue
      · rw [settings_scheduleTask, settings_setState, ht₂]
    split
    · exact (h₂.of_eq rfl rfl rfl : Initial s₂.resetSettings).inv
    next s₃ hs₃ =>
      obtain ⟨hq, hts, hst, htok⟩ := keysFromSettings_frame hs₃
      have h₃ := h₂.of_eq hq hts hst
      have h₄ : Initial (s₃.locationsFromSettings env).2 := h₃.of_eq rfl rfl rfl
      have h₅ : Initial ((s₃.locationsFromSettings env).2.devicesFromSettings env).2 := by
        rw [devicesFromSettings]
        dsimp only
        split_ifs
        · exact h₄
        · exact h₄.of_eq rfl rfl rfl
        · exact h₄.of_eq rfl rfl rfl
      have ht₅ : ((s₃.locationsFromSettings env).2.devicesFromSettings env).2.settings.token.isSome = true := by
        have he : ((s₃.locationsFromSettings env).2.devicesFromSettings env).2.settings = s₃.settings := by
          rw [devicesFromSettings]
          dsimp only
          split_ifs <;> rfl
        rw [he, htok, ht₂]
      generalize (s₃.locationsFromSettings env).2.devicesFromSettings env = devices at h₅ ht₅
      have h₆ : Initial devices.2.checkCurrentDevice.2 ∧
          devices.2.checkCurrentDevice.2.settings.token.isSome = true := by
        rw [checkCurrentDevice]
        split_ifs
        · exact ⟨h₅, ht₅⟩
        · exact ⟨h₅, ht₅⟩
        · exact ⟨h₅.of_eq rfl rfl rfl, ht₅⟩
      split_ifs
      · exact (h₄.of_eq rfl rfl rfl : Initial (s₃.locationsFromSettings env).2.resetSettings).inv
      · exact (h₅.of_eq rfl rfl rfl : Initial devices.2.resetSettings).inv
      · exact h₆.1.inv
      · exact (h₆.1.of_eq rfl rfl rfl : Initial devices.2.checkCurrentDevice.2.resetSettings).inv
      have h₇ : Initial (devices.2.checkCurrentDevice.2.selectionFromSettings env) ∧
          (devices.2.checkCurrentDevice.2.selectionFromSettings env).settings =
            devices.2.checkCurrentDevice.2.settings := by
        rw [selectionFromSettings]
        split_ifs
        · exact ⟨h₆.1.of_eq rfl rfl rfl, rfl⟩
        · split
          · exact ⟨h₆.1.of_eq rfl rfl rfl, rfl⟩
          · exact ⟨h₆.1, rfl⟩
      have hc := calm_scheduleRefreshDataTasks h₇.1.queue
      refine inv_maybeStateMain hc.queue ?_ (.inr fun n hn => h₇.1.idle n (hc.pending n hn))
      rw [settings_scheduleRefreshDataTasks, h₇.2, h₆.2]

omit [DecidableEq V] in
lemma initial_construct (settings : Settings) (servers : Option Bytes) (serverData : Option V) :
    Initial (construct settings servers serverData) where
  queue := ⟨TaskScheduler.valid_nil, rfl, fun _ hn => absurd hn List.not_mem_nil⟩
  idle _ hn := absurd hn.1 List.not_mem_nil
  state := rfl

/-- Whatever the settings of an earlier run are: what belongs to an account is only shown while there is a token, if
purchases are signalled of a user who is logged in, and activations do not overlap. -/
theorem account_of_meets (settings : Settings) (servers : Option Bytes) (serverData : Option V) (es : List Event)
    (hm : Meets (step env) Fits ((construct settings servers serverData).initializeApp env) es)
    (hs : NeedsAccount (run (step env) ((construct settings servers serverData).initializeApp env) es).state = true) :
    (run (step env) ((construct settings servers serverData).initializeApp env) es).settings.token.isSome = true := by
  have hi : Inv (run (step env) ((construct settings servers serverData).initializeApp env) es) :=
    hm.invariant (fun s e h hf => h.step e hf) (inv_initializeApp (initial_construct settings servers serverData))
  exact hi.account (.inl hs)

def plainEnv : Env (List (String × String)) where
  documents := DeviceModel.oneDocument
  sorting := Library.insertion Device
  settingDocuments := Models.MozillaVPN.plainDocuments
  formats := ServerCountryModel.oneServerFormats
  language := ServerCountryModel.plain
  ranking := Models.MozillaVPN.inOrder
  uniqueDeviceId := "id"
  currentDeviceName := "laptop"
  versionString := "2.21.0"
  android := false
  ios := false

/-- The settings of a user who has not subscribed. -/
def unsubscribed : Settings where
  token := some "token"
  userAvatar := some ""
  userDisplayName := some ""
  userEmail := some ""
  userMaxDevices := some 5
  userSubscriptionNeeded := some true

theorem account_of_unsubscribed :
    (run (step plainEnv) ((construct unsubscribed none none).initializeApp plainEnv)
      [.answered 0 .other, .finished, .called]).settings.token.isSome = true := by
  refine account_of_meets unsubscribed none none [.answered 0 .other, .finished, .called]
    ⟨trivial, trivial, ?_, trivial⟩ rfl
  rintro - - - n ⟨hn, -⟩
  have hp : n ∈ [2] := hn
  rw [List.mem_singleton.mp hp]
  rfl

end Account

end VpnClient.App.MozillaVPN
