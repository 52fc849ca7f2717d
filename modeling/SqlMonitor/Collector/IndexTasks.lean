import SqlMonitor.Services.IndexCatalog
import SqlMonitor.Shared.TransitionSystem

set_option autoImplicit false

namespace SqlMonitor.IndexTasks

open Services TransitionSystem

abbrev TaskId := Nat

-- Cancelling raises what `except Exception` does not catch.
inductive TaskOutcome where
  | ended (result : Raises Unit)
  | cancelled

structure IndexTask where
  instanceId : Uuid
  outcome : Option TaskOutcome
  calledBack : Bool

def IndexTask.done (task : IndexTask) : Bool := task.outcome.isSome

structure State where
  tasks : List IndexTask
  -- `_index_collection_tasks`.
  entries : Uuid → Option TaskId
  -- The failures that were printed.
  printed : List (Uuid × PyException)

/-- Between two of these the event loop may run anything else. -/
inductive Action where
  | schedule (instanceId : Uuid)
  | complete (id : TaskId) (outcome : TaskOutcome)
  | callback (id : TaskId)

def initial : State := ⟨[], fun _ => none, []⟩

section Steps

variable (state : State)

def createTask (instanceId : Uuid) : State :=
  { state with
    tasks := state.tasks ++ [⟨instanceId, none, false⟩]
    entries := Function.update state.entries instanceId (some state.tasks.length) }

def scheduleIndexCollectionForInstance (instanceId : Uuid) : Bool × State :=
  if ((state.entries instanceId).bind (state.tasks[·]?)).any (!·.done) then (false, state)
  else (true, createTask state instanceId)

def popEntry (instanceId : Uuid) (id : TaskId) : State :=
  if state.entries instanceId = some id then
    { state with entries := Function.update state.entries instanceId none }
  else state

def finishIndexCollectionTask (instanceId : Uuid) (id : TaskId) (outcome : TaskOutcome) : State :=
  let state := popEntry state instanceId id
  match outcome with
  | .ended (.error exc) => { state with printed := state.printed ++ [(instanceId, exc)] }
  | .ended (.ok ()) => state
  | .cancelled => state

def setTask (id : TaskId) (task : IndexTask) : State :=
  { state with tasks := state.tasks.set id task }

def complete (id : TaskId) (outcome : TaskOutcome) : Option State := do
  let task ← state.tasks[id]?
  if task.done then none else some (setTask state id { task with outcome := some outcome })

-- The loop calls the callback of a task once, at some time after the task is done.
def callback (id : TaskId) : Option State := do
  let task ← state.tasks[id]?
  let outcome ← task.outcome
  if task.calledBack then none
  else
    some (finishIndexCollectionTask (setTask state id { task with calledBack := true })
      task.instanceId id outcome)

def step : Action → Option State
  | .schedule instanceId => some (scheduleIndexCollectionForInstance state instanceId).2
  | .complete id outcome => complete state id outcome
  | .callback id => callback state id

end Steps

section Invariant

variable {state next : State} {instanceId : Uuid} {id : TaskId}

def Live (state : State) (instanceId : Uuid) (id : TaskId) : Prop :=
  ∃ task, state.tasks[id]? = some task ∧ task.instanceId = instanceId ∧ task.done = false

structure Registered (state : State) : Prop where
  live : ∀ instanceId id, Live state instanceId id → state.entries instanceId = some id
  entries : ∀ instanceId id, state.entries instanceId = some id →
    ∃ task, state.tasks[id]? = some task ∧ task.instanceId = instanceId

theorem registered_initial : Registered initial := by
  refine ⟨?_, ?_⟩
  · rintro _ _ ⟨_, found, -⟩
    simp [initial] at found
  · simp [initial]

theorem schedules_iff (registered : Registered state) :
    (scheduleIndexCollectionForInstance state instanceId).1 = true ↔
      ∀ id, ¬ Live state instanceId id := by
  unfold scheduleIndexCollectionForInstance
  split
  next running =>
    obtain ⟨task, found, unfinished⟩ := Option.any_eq_true _ _ |>.mp running
    obtain ⟨id, entry, held⟩ := Option.bind_eq_some_iff.mp found
    obtain ⟨same, heldSame, own⟩ := registered.entries instanceId id entry
    obtain rfl := Option.some.inj (held.symm.trans heldSame)
    have live : Live state instanceId id := ⟨task, held, own, by simpa using unfinished⟩
    exact iff_of_false Bool.false_ne_true fun none => none id live
  next idle =>
    refine iff_of_true rfl fun id live => idle ?_
    have entry := registered.live instanceId id live
    obtain ⟨task, found, -, unfinished⟩ := live
    simp [entry, found, unfinished]

theorem tasks_finishIndexCollectionTask (outcome : TaskOutcome) :
    (finishIndexCollectionTask state instanceId id outcome).tasks = state.tasks := by
  unfold finishIndexCollectionTask popEntry
  split <;> split <;> rfl

theorem entries_finishIndexCollectionTask (outcome : TaskOutcome) :
    (finishIndexCollectionTask state instanceId id outcome).entries =
      if state.entries instanceId = some id then Function.update state.entries instanceId none
      else state.entries := by
  unfold finishIndexCollectionTask popEntry
  split <;> split <;> rfl

theorem getElem?_setTask {task : IndexTask} {other : TaskId} {found : IndexTask}
    (held : (setTask state id task).tasks[other]? = some found) :
    (other = id ∧ found = task) ∨ (other ≠ id ∧ state.tasks[other]? = some found) := by
  simp only [setTask, List.getElem?_set] at held
  split at held
  next same =>
    obtain ⟨-, written⟩ := Option.ite_none_right_eq_some.mp held
    exact Or.inl ⟨same.symm, (Option.some.inj written).symm⟩
  next apart => exact Or.inr ⟨Ne.symm apart, held⟩

theorem step_cases {action : Action} (stepped : step state action = some next) :
    (∃ instanceId, action = .schedule instanceId ∧
      (next = state ∨ next = createTask state instanceId ∧ ∀ id,
        state.entries instanceId = some id → ∀ task, state.tasks[id]? = some task → task.done)) ∨
    (∃ id task outcome, action = .complete id outcome ∧ state.tasks[id]? = some task ∧
      next = setTask state id { task with outcome := some outcome }) ∨
    (∃ id task outcome, action = .callback id ∧ state.tasks[id]? = some task ∧
      task.outcome = some outcome ∧
      next = finishIndexCollectionTask (setTask state id { task with calledBack := true })
        task.instanceId id outcome) := by
  cases action with
  | schedule instanceId =>
      refine Or.inl ⟨instanceId, rfl, ?_⟩
      simp only [step, scheduleIndexCollectionForInstance, Option.some.injEq] at stepped
      split at stepped
      next => exact Or.inl stepped.symm
      next idle =>
        refine Or.inr ⟨stepped.symm, fun id entry task found => ?_⟩
        simpa [entry, found] using idle
  | complete id outcome =>
      simp only [step, complete, Option.bind_eq_bind, Option.bind_eq_some_iff,
        Option.ite_none_left_eq_some, Option.some.injEq] at stepped
      obtain ⟨task, found, -, rfl⟩ := stepped
      exact Or.inr (Or.inl ⟨id, task, outcome, rfl, found, rfl⟩)
  | callback id =>
      simp only [step, callback, Option.bind_eq_bind, Option.bind_eq_some_iff,
        Option.ite_none_left_eq_some, Option.some.injEq] at stepped
      obtain ⟨task, found, outcome, ended, -, rfl⟩ := stepped
      exact Or.inr (Or.inr ⟨id, task, outcome, rfl, found, ended, rfl⟩)

theorem registered_createTask (registered : Registered state)
    (idle : ∀ id, state.entries instanceId = some id →
      ∀ task, state.tasks[id]? = some task → task.done) :
    Registered (createTask state instanceId) := by
  refine ⟨?_, ?_⟩
  · rintro other id ⟨task, found, own, unfinished⟩
    simp only [createTask, List.getElem?_append, List.getElem?_singleton] at found
    split at found
    next =>
      -- An older task that is not done belongs to another instance.
      have entry := registered.live other id ⟨task, found, own, unfinished⟩
      have apart : other ≠ instanceId := by
        rintro rfl
        have finished := idle id entry task found
        simp [unfinished] at finished
      simpa [createTask, apart] using entry
    next late =>
      obtain ⟨first, written⟩ := Option.ite_none_right_eq_some.mp found
      obtain rfl := Option.some.inj written
      obtain rfl : id = state.tasks.length :=
        Nat.le_antisymm (Nat.sub_eq_zero_iff_le.mp first) (Nat.not_lt.mp late)
      simp [createTask, ← own]
  · intro other id entry
    by_cases same : other = instanceId
    · subst same
      obtain rfl : state.tasks.length = id := by simpa [createTask] using entry
      exact ⟨⟨other, none, false⟩, by simp [createTask], rfl⟩
    · obtain ⟨task, found, own⟩ := registered.entries other id (by
        simpa [createTask, same] using entry)
      refine ⟨task, ?_, own⟩
      obtain ⟨inside, -⟩ := List.getElem?_eq_some_iff.mp found
      rw [createTask, List.getElem?_append_left inside]
      exact found

theorem registered_setTask (registered : Registered state) {old : IndexTask} (task : IndexTask)
    (found : state.tasks[id]? = some old) (own : task.instanceId = old.instanceId)
    (ended : task.done = true) : Registered (setTask state id task) ∧
      ∀ instanceId, ¬ Live (setTask state id task) instanceId id := by
  obtain ⟨inside, -⟩ := List.getElem?_eq_some_iff.mp found
  refine ⟨⟨?_, ?_⟩, ?_⟩
  · rintro instanceId other ⟨current, held, owner, unfinished⟩
    rcases getElem?_setTask held with ⟨-, rfl⟩ | ⟨-, before⟩
    · simp [ended] at unfinished
    · exact registered.live instanceId other ⟨current, before, owner, unfinished⟩
  · intro instanceId other entry
    obtain ⟨current, held, owner⟩ := registered.entries instanceId other entry
    by_cases same : id = other
    · subst same
      obtain rfl := Option.some.inj (found.symm.trans held)
      exact ⟨task, by simp [setTask, inside], own.trans owner⟩
    · exact ⟨current, by simpa [setTask, same] using held, owner⟩
  · rintro instanceId ⟨current, held, -, unfinished⟩
    rcases getElem?_setTask held with ⟨-, rfl⟩ | ⟨apart, -⟩
    · simp [ended] at unfinished
    · exact apart rfl

theorem registered_finishIndexCollectionTask (registered : Registered state)
    (ended : ∀ instanceId, ¬ Live state instanceId id) (outcome : TaskOutcome) :
    Registered (finishIndexCollectionTask state instanceId id outcome) := by
  have kept : ∀ other task,
      (finishIndexCollectionTask state instanceId id outcome).entries other = some task →
        state.entries other = some task := by
    intro other task entry
    rw [entries_finishIndexCollectionTask] at entry
    split at entry
    next =>
      by_cases same : other = instanceId
      · simp [same] at entry
      · simpa [same] using entry
    next => exact entry
  refine ⟨?_, ?_⟩
  · intro other task live
    have before : Live state other task := by
      simpa only [Live, tasks_finishIndexCollectionTask] using live
    have entry := registered.live other task before
    rw [entries_finishIndexCollectionTask]
    split
    next popped =>
      have apart : other ≠ instanceId := by
        rintro rfl
        obtain rfl := Option.some.inj (popped.symm.trans entry)
        exact ended other before
      simpa [apart] using entry
    next => exact entry
  · intro other task entry
    rw [tasks_finishIndexCollectionTask]
    exact registered.entries other task (kept other task entry)

theorem registered_step {action : Action} (registered : Registered state)
    (stepped : step state action = some next) : Registered next := by
  rcases step_cases stepped with ⟨instanceId, rfl, rfl | ⟨rfl, idle⟩⟩ |
    ⟨id, task, outcome, rfl, found, rfl⟩ | ⟨id, task, outcome, rfl, found, ended, rfl⟩
  · exact registered
  · exact registered_createTask registered idle
  · exact (registered_setTask registered { task with outcome := some outcome } found rfl rfl).1
  · have done : task.done = true := by simp [IndexTask.done, ended]
    obtain ⟨written, finished⟩ :=
      registered_setTask registered { task with calledBack := true } found rfl done
    exact registered_finishIndexCollectionTask written finished outcome

end Invariant

/-- What a call of `schedule_index_collection_for_instance` returns and starts. -/
structure Scheduling (state : State) (instanceId : Uuid) : Prop where
  returns : (scheduleIndexCollectionForInstance state instanceId).1 = true ↔
    ∀ id, ¬ Live state instanceId id
  starts : (scheduleIndexCollectionForInstance state instanceId).1 = true →
    (scheduleIndexCollectionForInstance state instanceId).2.tasks =
      state.tasks ++ [⟨instanceId, none, false⟩]
  keeps : (scheduleIndexCollectionForInstance state instanceId).1 = false →
    (scheduleIndexCollectionForInstance state instanceId).2 = state

structure OneLiveTask (state : State) : Prop where
  unique : ∀ instanceId id other, Live state instanceId id →
    Live state instanceId other → id = other
  entry : ∀ instanceId id, Live state instanceId id → state.entries instanceId = some id
  scheduling : ∀ instanceId, Scheduling state instanceId
  callback : ∀ id next, step state (.callback id) = some next →
    ∀ instanceId other, other ≠ id → state.entries instanceId = some other →
      next.entries instanceId = some other

theorem Registered.oneLiveTask {state : State} (registered : Registered state) :
    OneLiveTask state := by
  refine ⟨?_, registered.live, ?_, ?_⟩
  · intro instanceId id other live lives
    exact Option.some.inj
      ((registered.live instanceId id live).symm.trans (registered.live instanceId other lives))
  · intro instanceId
    refine ⟨schedules_iff registered, ?_, ?_⟩
    · unfold scheduleIndexCollectionForInstance
      split <;> simp [createTask]
    · unfold scheduleIndexCollectionForInstance
      split <;> simp
  · intro id next stepped instanceId other apart entry
    rcases step_cases stepped with ⟨_, same, -⟩ | ⟨_, _, _, same, -⟩ |
      ⟨called, task, outcome, same, -, -, rfl⟩
    · cases same
    · cases same
    · obtain rfl : id = called := by simpa using same
      rw [entries_finishIndexCollectionTask]
      split
      next popped =>
        have elsewhere : instanceId ≠ task.instanceId := by
          rintro rfl
          exact apart (Option.some.inj (entry.symm.trans popped))
        simpa [elsewhere, setTask] using entry
      next => exact entry

theorem one_live_task (actions : List Action) (state : State)
    (ran : run step initial actions = some state) : OneLiveTask state :=
  (run_invariant (fun _ _ _ registered stepped => registered_step registered stepped)
    registered_initial ran).oneLiveTask

theorem one_live_task_late :
    ∃ state, run step initial [.schedule 7, .complete 0 (.ended (.ok ())), .schedule 7,
        .callback 0] = some state ∧ state.entries 7 = some 1 ∧ OneLiveTask state := by
  refine ⟨_, rfl, by decide, one_live_task [.schedule 7, .complete 0 (.ended (.ok ())), .schedule 7,
    .callback 0] _ rfl⟩

end SqlMonitor.IndexTasks
