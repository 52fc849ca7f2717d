import SqlMonitor.Services.InstanceLifecycle

set_option autoImplicit false

namespace SqlMonitor.InstanceLifecycle

open TransitionSystem WriteBack

section Properties

variable (state : State)

structure StaysDisabled : Prop where
  stored : ∀ id, state.rows.pinned id = true → state.rows.stored id = .disabled
  collectable : ∀ id, state.rows.pinned id = true → id ∉ listCollectableInstances state
  listed : ∀ id, state.rows.pinned id = true → id ∉ listInstances state

-- The session still knows the status it would write as the one it had loaded.
def Unchanged (session : SessionId) (id : Uuid) (status : InstanceStatus) : Prop :=
  state.rows.loaded? session id = some status

/--
The status an action writes over a deleted instance is left out of the flush, is
`disabled`, or is that of a request begun after the delete.
-/
def LeavesDeleted : Action → Prop
  | .collectSucceeds session => ∀ inTransaction id rest,
      state.tasks session = some (.cycle inTransaction (id :: rest)) →
        state.rows.pinned id = true → Unchanged state session id .online
  | .collectFails session statements => ∀ inTransaction id rest,
      state.tasks session = some (.cycle inTransaction (id :: rest)) →
        state.rows.pinned id = true →
          inTransaction = false ∧ statements = false ∧ Unchanged state session id .collectError
  | .finishTest session success => ∀ id, state.tasks session = some (.test id) →
      state.rows.pinned id = true → state.rows.loadedSincePinned session id = true ∨
        Unchanged state session id (testedStatus success)
  | .finishUpdate session status => ∀ id, state.tasks session = some (.update id) →
      state.rows.pinned id = true → state.rows.loadedSincePinned session id = true ∨
        ∀ value ∈ status, value = .disabled ∨ Unchanged state session id value
  | _ => True

end Properties

section Lists

variable {state : State}

theorem not_mem_of_disabled {id : Uuid} (disabled : state.rows.stored id = .disabled)
    {rows : List InstanceKey} (sorted : rows.Perm (enabledInstances state)) :
    id ∉ rows.map (·.id) := by
  intro member
  obtain ⟨row, inside, rfl⟩ := List.mem_map.mp member
  have enabled := List.of_mem_filter (sorted.mem_iff.mp inside)
  simp [disabled] at enabled

theorem staysDisabled_iff : StaysDisabled state ↔ state.rows.Holds .disabled := by
  constructor
  · exact fun stays => stays.stored
  · intro holds
    refine ⟨holds, ?_, ?_⟩
    · intro id pinned
      exact not_mem_of_disabled (holds id pinned) (List.perm_insertionSort _ _)
    · intro id pinned
      exact not_mem_of_disabled (holds id pinned) (List.perm_insertionSort _ _)

end Lists

section Sessions

/-- A session holds an object for every instance it still has to write. -/
def Held (state : State) : Prop :=
  ∀ session task, state.tasks session = some task → ∀ id ∈ task.instances, state.rows.Knows session id

variable {state next : State} {action : Action}

theorem knows_rollback {session other : SessionId} {inTransaction : Bool} {id : Uuid} :
    (rollback state session inTransaction).Knows other id ↔ state.rows.Knows other id := by
  unfold rollback
  split
  next => exact Store.knows_expire
  next => rfl

theorem knows_writeStatus {session other : SessionId} {id written : Uuid}
    {status : Option InstanceStatus} :
    (writeStatus state session written status).Knows other id ↔ state.rows.Knows other id := by
  cases status with
  | none => rfl
  | some status => exact Store.knows_write

theorem knows_release {session other : SessionId} {id released : Uuid}
    {rows : Store SessionId Uuid InstanceStatus} :
    (release state session released rows).Knows other id ↔ rows.Knows other id := by
  unfold release
  split
  next => exact Store.knows_unpin
  next => rfl

theorem knows_pinDisabled {other : SessionId} {id deleted : Uuid}
    {rows : Store SessionId Uuid InstanceStatus} :
    (pinDisabled deleted rows).Knows other id ↔ rows.Knows other id := by
  unfold pinDisabled
  split
  next => exact Store.knows_pin
  next => rfl

theorem Held.beginTask (held : Held state) {session : SessionId} {keys : Uuid → Bool} {task : Task}
    (loads : ∀ id ∈ task.instances, keys id = true) : Held (beginTask state session keys task) := by
  intro other found active id member
  by_cases same : other = session
  · subst same
    obtain rfl : task = found := by simpa [InstanceLifecycle.beginTask] using active
    exact Store.knows_load.mpr (loads id member)
  · simp only [InstanceLifecycle.beginTask, Function.update_of_ne same] at active
    exact (Store.knows_load_of_ne same).mpr (held other found active id member)

theorem Held.endTask (held : Held state) (session : SessionId)
    {rows : Store SessionId Uuid InstanceStatus}
    (knows : ∀ other id, rows.Knows other id ↔ state.rows.Knows other id) :
    Held (endTask state session rows) := by
  intro other found active id member
  by_cases same : other = session
  · simp [InstanceLifecycle.endTask, same] at active
  · simp only [InstanceLifecycle.endTask, Function.update_of_ne same] at active
    exact (Store.knows_drop_of_ne same).mpr ((knows other id).mpr (held other found active id member))

theorem Held.afterCollect (held : Held state) {session : SessionId} {inTransaction : Bool} {id : Uuid}
    {rest : List Uuid} {status : InstanceStatus} {rows : Store SessionId Uuid InstanceStatus}
    (task : state.tasks session = some (.cycle inTransaction (id :: rest)))
    (knows : ∀ other id, rows.Knows other id ↔ state.rows.Knows other id) :
    Held (afterCollect state session rows id status rest) := by
  intro other found active waiting member
  refine Store.knows_write.mpr ((knows other waiting).mpr ?_)
  by_cases same : other = session
  · subst same
    obtain rfl : Task.cycle false rest = found := by
      simpa [InstanceLifecycle.afterCollect] using active
    exact held other _ task waiting (List.mem_cons_of_mem id member)
  · simp only [InstanceLifecycle.afterCollect, Function.update_of_ne same] at active
    exact held other found active waiting member

theorem held_step (state : State) (action : Action) (next : State) (held : Held state)
    (stepped : step state action = some next) : Held next := by
  cases transition_of_step stepped with
  | began _ _ loads => exact held.beginTask loads
  | succeeded task => exact held.afterCollect task fun _ _ => Iff.rfl
  | failed _ task => exact held.afterCollect task fun _ _ => knows_rollback
  | tested => exact held.endTask _ fun _ _ => knows_release.trans knows_writeStatus
  | updated => exact held.endTask _ fun _ _ => knows_release.trans knows_writeStatus
  | deleted => exact held.endTask _ fun _ _ => knows_pinDisabled.trans knows_writeStatus
  | closed session => exact held.endTask session fun _ _ => Iff.rfl

theorem held_initial (initial : Initial state) : Held state := by
  intro session task active
  simp [initial.idle session] at active

end Sessions

section Steps

variable {state next : State} {action : Action} {session : SessionId} {id : Uuid}

theorem leaves_of_begins (begins : action.Begins) : LeavesDeleted state action := by
  cases action with
  | beginCycle | beginTest | beginUpdate | beginDelete => exact trivial
  | collectSucceeds | collectFails | finishTest | finishUpdate | finishDelete | close =>
      exact begins.elim

theorem holds_rollback {inTransaction : Bool} :
    (rollback state session inTransaction).Holds .disabled ↔ state.rows.Holds .disabled := by
  unfold rollback
  split <;> rfl

theorem loaded?_rollback {inTransaction : Bool} {status : InstanceStatus} :
    (rollback state session inTransaction).loaded? session id = some status ↔
      inTransaction = false ∧ Unchanged state session id status := by
  unfold rollback
  cases inTransaction with
  | true => simp [Store.loaded?_expire]
  | false => simp [Unchanged]

theorem pinned_rollback {inTransaction : Bool} :
    (rollback state session inTransaction).pinned = state.rows.pinned := by
  unfold rollback
  split <;> rfl

theorem succeeded_iff (held : Held state) (holds : state.rows.Holds .disabled) {inTransaction : Bool}
    {rest : List Uuid} (task : state.tasks session = some (.cycle inTransaction (id :: rest))) :
    (afterCollect state session state.rows id .online rest).rows.Holds .disabled ↔
      LeavesDeleted state (.collectSucceeds session) := by
  have known := held session _ task id (List.mem_cons_self ..)
  refine (Store.holds_write_iff holds known).trans ?_
  simp only [LeavesDeleted, task, Option.some.injEq, Task.cycle.injEq, List.cons.injEq]
  constructor
  · rintro leaves _ _ _ ⟨-, rfl, -⟩ pinned
    simpa [Unchanged] using leaves pinned
  · intro leaves pinned
    exact Or.inl (leaves _ _ _ ⟨rfl, rfl, rfl⟩ pinned)

theorem failed_iff (held : Held state) (holds : state.rows.Holds .disabled) {statements : Bool}
    {inTransaction : Bool} {rest : List Uuid}
    (task : state.tasks session = some (.cycle inTransaction (id :: rest))) :
    (afterCollect state session (rollback state session (inTransaction || statements)) id
        .collectError rest).rows.Holds .disabled ↔
      LeavesDeleted state (.collectFails session statements) := by
  have known : (rollback state session (inTransaction || statements)).Knows session id :=
    knows_rollback.mpr (held session _ task id (List.mem_cons_self ..))
  refine (Store.holds_write_iff (holds_rollback.mpr holds) known).trans ?_
  simp only [LeavesDeleted, task, Option.some.injEq, Task.cycle.injEq, List.cons.injEq,
    pinned_rollback, loaded?_rollback, Bool.or_eq_false_iff, and_assoc]
  constructor
  · rintro leaves _ _ _ ⟨rfl, rfl, -⟩ pinned
    simpa using leaves pinned
  · intro leaves pinned
    exact Or.inl (leaves _ _ _ ⟨rfl, rfl, rfl⟩ pinned)

theorem released_iff (held : Held state) (holds : state.rows.Holds .disabled) {task : Task}
    (active : state.tasks session = some task) (only : task.instances = [id])
    (status : Option InstanceStatus) :
    (release state session id (writeStatus state session id status)).Holds .disabled ↔
      (state.rows.pinned id = true → state.rows.loadedSincePinned session id = true ∨
        ∀ value ∈ status, value = .disabled ∨ Unchanged state session id value) := by
  have known := held session task active id (by simp [only])
  unfold release
  split
  next since =>
    refine iff_of_true ?_ fun _ => Or.inl since
    cases status with
    | none => exact holds.unpin
    | some value => exact Store.holds_unpin_write holds
  next before =>
    cases status with
    | none => exact iff_of_true holds fun _ => Or.inr (by simp)
    | some value =>
        refine (Store.holds_write_iff holds known).trans ?_
        simp [before, Unchanged, or_comm]

theorem holds_pinDisabled {rows : Store SessionId Uuid InstanceStatus} (holds : rows.Holds .disabled) :
    (pinDisabled id rows).Holds .disabled := by
  unfold pinDisabled
  split
  next disabled => exact holds.pin disabled
  next => exact holds

theorem holds_step_iff (held : Held state) (holds : state.rows.Holds .disabled)
    (stepped : step state action = some next) :
    next.rows.Holds .disabled ↔ LeavesDeleted state action := by
  cases transition_of_step stepped with
  | began begins => exact iff_of_true holds (leaves_of_begins begins)
  | succeeded task => exact succeeded_iff held holds task
  | failed statements task => exact failed_iff held holds task
  | tested success task =>
      refine (released_iff held holds task rfl (some (testedStatus success))).trans ?_
      have written : testedStatus success ≠ .disabled := by cases success <;> decide
      simp [LeavesDeleted, task, written]
  | updated status task =>
      refine (released_iff held holds task rfl status).trans ?_
      simp [LeavesDeleted, task]
  | deleted task =>
      have known := held _ _ task _ (List.mem_cons_self ..)
      have written := (Store.holds_write_iff holds known).mpr fun _ => Or.inr rfl
      exact iff_of_true (holds_pinDisabled written) trivial
  | closed session => exact iff_of_true holds trivial

end Steps

theorem disabled_instances_stay_iff (start final : State) (actions : List Action)
    (initial : Initial start) (ran : run step start actions = some final) :
    Throughout step StaysDisabled start actions ↔ Along step LeavesDeleted start actions := by
  refine throughout_iff_along held_step ?_ (held_initial initial) ?_ ran
  · intro state action next held stays stepped
    rw [staysDisabled_iff] at stays ⊢
    exact holds_step_iff held stays stepped
  · rw [staysDisabled_iff]
    intro id pinned
    simp [initial.unpinned id] at pinned

def monitored : State where
  instances := [⟨1, 0⟩, ⟨2, 1⟩]
  rows :=
    { stored := fun id => if id = 2 then .collectError else .online
      cached := fun _ _ => none
      pinned := fun _ => false }
  tasks := fun _ => none

theorem initial_monitored : Initial monitored := ⟨fun _ => rfl, fun _ => rfl⟩

def deletedDuringCycle : List Action :=
  [.beginCycle 0 none, .beginDelete 1 2, .finishDelete 1, .collectSucceeds 0, .collectSucceeds 0]

theorem deleted_instance_online_again :
    Initial monitored ∧ (run step monitored deletedDuringCycle).isSome ∧
      ¬ Throughout step StaysDisabled monitored deletedDuringCycle := by
  have reached : ((run step monitored deletedDuringCycle).map fun state =>
      (state.rows.pinned 2, state.rows.stored 2)) = some (true, .online) := by decide +kernel
  obtain ⟨state, ran, same⟩ := Option.map_eq_some_iff.mp reached
  obtain ⟨pinned, online⟩ := Prod.mk.inj same
  refine ⟨initial_monitored, by rw [ran]; rfl, ?_⟩
  intro throughout
  have stays : StaysDisabled state :=
    throughout deletedDuringCycle [] state (List.append_nil _).symm ran
  simp [stays.stored 2 pinned] at online

-- The cycle that is under way then only writes what it had loaded.
def deletedUnnoticed : List Action :=
  [.beginCycle 0 none, .beginDelete 1 1, .finishDelete 1, .collectSucceeds 0]

theorem leavesDeleted_unnoticed : Along step LeavesDeleted monitored deletedUnnoticed := by
  rw [deletedUnnoticed, along_cons rfl, along_cons rfl, along_cons rfl, along_cons rfl]
  refine ⟨trivial, trivial, trivial, ?_, along_nil⟩
  rintro inTransaction id rest loaded -
  have cycle : some (Task.cycle true [1, 2]) = some (.cycle inTransaction (id :: rest)) := loaded
  cases cycle
  rfl

theorem disabled_instances_stay_iff_monitored :
    ∃ final, run step monitored deletedUnnoticed = some final ∧
      final.rows.pinned 1 = true ∧
      Throughout step StaysDisabled monitored deletedUnnoticed := by
  have reached : ((run step monitored deletedUnnoticed).map fun state => state.rows.pinned 1) =
      some true := by decide +kernel
  obtain ⟨final, ran, pinned⟩ := Option.map_eq_some_iff.mp reached
  exact ⟨final, ran, pinned,
    (disabled_instances_stay_iff monitored final deletedUnnoticed initial_monitored ran).mpr
      leavesDeleted_unnoticed⟩

end SqlMonitor.InstanceLifecycle
