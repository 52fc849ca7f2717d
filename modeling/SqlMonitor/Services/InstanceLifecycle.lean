import Mathlib.Data.List.Sort
import SqlMonitor.Db.Models
import SqlMonitor.Shared.TransitionSystem
import SqlMonitor.Shared.WriteBack

set_option autoImplicit false

namespace SqlMonitor.InstanceLifecycle

open TransitionSystem WriteBack

abbrev SessionId := Nat

inductive Task where
  -- Whether a transaction is open, and the instances that are still to be collected.
  | cycle (inTransaction : Bool) (remaining : List Uuid)
  | test (instanceId : Uuid)
  | update (instanceId : Uuid)
  | delete (instanceId : Uuid)
deriving DecidableEq

structure InstanceKey where
  id : Uuid
  createdAt : Timestamp
deriving DecidableEq

/-- The instances and their statuses; an instance is pinned once a delete has disabled it. -/
structure State where
  instances : List InstanceKey
  rows : Store SessionId Uuid InstanceStatus
  tasks : SessionId → Option Task

inductive Action where
  | beginCycle (session : SessionId) (instanceId : Option Uuid)
  | collectSucceeds (session : SessionId)
  -- Whether the attempt had carried out a statement on the session.
  | collectFails (session : SessionId) (statements : Bool)
  | beginTest (session : SessionId) (instanceId : Uuid)
  | finishTest (session : SessionId) (success : Bool)
  | beginUpdate (session : SessionId) (instanceId : Uuid)
  | finishUpdate (session : SessionId) (status : Option InstanceStatus)
  | beginDelete (session : SessionId) (instanceId : Uuid)
  | finishDelete (session : SessionId)
  | close (session : SessionId)
deriving DecidableEq

section Lists

variable (state : State)

def enabledInstances : List InstanceKey :=
  state.instances.filter fun row => state.rows.stored row.id ≠ .disabled

def listCollectableInstances : List Uuid :=
  ((enabledInstances state).insertionSort fun row later => row.createdAt ≤ later.createdAt).map (·.id)

def listInstances : List Uuid :=
  ((enabledInstances state).insertionSort fun row later => later.createdAt ≤ row.createdAt).map (·.id)

end Lists

section Steps

variable (state : State)

def beginTask (session : SessionId) (keys : Uuid → Bool) (task : Task) : State :=
  { state with
    rows := state.rows.load session keys
    tasks := Function.update state.tasks session (some task) }

def beginRequest (session : SessionId) (instanceId : Uuid) (task : Task) : Option State :=
  if state.tasks session = none ∧ instanceId ∈ state.instances.map (·.id) then
    some (beginTask state session (fun id => id = instanceId) task)
  else none

def afterCollect (session : SessionId) (rows : Store SessionId Uuid InstanceStatus) (id : Uuid)
    (status : InstanceStatus) (rest : List Uuid) : State :=
  { state with
    rows := rows.write session id status
    tasks := Function.update state.tasks session (some (.cycle false rest)) }

-- Rolling back an open transaction expires what was loaded.
def rollback (session : SessionId) (inTransaction : Bool) : Store SessionId Uuid InstanceStatus :=
  if inTransaction then state.rows.expire session else state.rows

def endTask (session : SessionId) (rows : Store SessionId Uuid InstanceStatus) : State :=
  { state with
    rows := rows.drop session
    tasks := Function.update state.tasks session none }

-- A request that loaded the instance after its delete takes it up again.
def release (session : SessionId) (instanceId : Uuid) (rows : Store SessionId Uuid InstanceStatus) :
    Store SessionId Uuid InstanceStatus :=
  if state.rows.loadedSincePinned session instanceId then rows.unpin instanceId else rows

def pinDisabled (instanceId : Uuid) (rows : Store SessionId Uuid InstanceStatus) :
    Store SessionId Uuid InstanceStatus :=
  if rows.stored instanceId = .disabled then rows.pin instanceId else rows

def testedStatus (success : Bool) : InstanceStatus := if success then .online else .offline

-- An update that leaves the status out writes none.
def writeStatus (session : SessionId) (instanceId : Uuid) :
    Option InstanceStatus → Store SessionId Uuid InstanceStatus
  | none => state.rows
  | some status => state.rows.write session instanceId status

def step : Action → Option State
  | .beginCycle session instanceId =>
    let listed := listCollectableInstances state
    if state.tasks session = none then
      some (beginTask state session (fun id => id ∈ listed)
        (.cycle true (listed.filter fun id => instanceId.all (· = id))))
    else none
  | .collectSucceeds session =>
    match state.tasks session with
    | some (.cycle _ (id :: rest)) =>
      -- Reading an expired object raises.
      if state.rows.loaded? session id = none then none
      else some (afterCollect state session state.rows id .online rest)
    | _ => none
  | .collectFails session statements =>
    match state.tasks session with
    | some (.cycle inTransaction (id :: rest)) =>
      if state.rows.loaded? session id = none then none
      else some (afterCollect state session (rollback state session (inTransaction || statements)) id
        .collectError rest)
    | _ => none
  | .beginTest session instanceId => beginRequest state session instanceId (.test instanceId)
  | .finishTest session success =>
    match state.tasks session with
    | some (.test instanceId) =>
      some (endTask state session (release state session instanceId
        (writeStatus state session instanceId (some (testedStatus success)))))
    | _ => none
  | .beginUpdate session instanceId => beginRequest state session instanceId (.update instanceId)
  | .finishUpdate session status =>
    match state.tasks session with
    | some (.update instanceId) =>
      some (endTask state session (release state session instanceId
        (writeStatus state session instanceId status)))
    | _ => none
  | .beginDelete session instanceId => beginRequest state session instanceId (.delete instanceId)
  | .finishDelete session =>
    match state.tasks session with
    | some (.delete instanceId) =>
      some (endTask state session
        (pinDisabled instanceId (writeStatus state session instanceId (some .disabled))))
    | _ => none
  | .close session => some (endTask state session state.rows)

structure Initial : Prop where
  idle : ∀ session, state.tasks session = none
  unpinned : ∀ instanceId, state.rows.pinned instanceId = false

end Steps

section Transitions

def Action.Begins : Action → Prop
  | .beginCycle _ _ | .beginTest _ _ | .beginUpdate _ _ | .beginDelete _ _ => True
  | _ => False

def Task.instances : Task → List Uuid
  | .cycle _ remaining => remaining
  | .test instanceId | .update instanceId | .delete instanceId => [instanceId]

variable (state : State)

inductive Transition : Action → State → Prop
  | began {action : Action} (begins : action.Begins) (session : SessionId) {keys : Uuid → Bool}
      {task : Task} (loads : ∀ id ∈ task.instances, keys id = true) :
      Transition action (beginTask state session keys task)
  | succeeded {session : SessionId} {inTransaction : Bool} {id : Uuid} {rest : List Uuid}
      (task : state.tasks session = some (.cycle inTransaction (id :: rest))) :
      Transition (.collectSucceeds session) (afterCollect state session state.rows id .online rest)
  | failed {session : SessionId} (statements : Bool) {inTransaction : Bool} {id : Uuid}
      {rest : List Uuid} (task : state.tasks session = some (.cycle inTransaction (id :: rest))) :
      Transition (.collectFails session statements)
        (afterCollect state session (rollback state session (inTransaction || statements)) id
          .collectError rest)
  | tested {session : SessionId} (success : Bool) {id : Uuid}
      (task : state.tasks session = some (.test id)) :
      Transition (.finishTest session success)
        (endTask state session (release state session id
          (writeStatus state session id (some (testedStatus success)))))
  | updated {session : SessionId} (status : Option InstanceStatus) {id : Uuid}
      (task : state.tasks session = some (.update id)) :
      Transition (.finishUpdate session status)
        (endTask state session (release state session id (writeStatus state session id status)))
  | deleted {session : SessionId} {id : Uuid} (task : state.tasks session = some (.delete id)) :
      Transition (.finishDelete session)
        (endTask state session (pinDisabled id (writeStatus state session id (some .disabled))))
  | closed (session : SessionId) :
      Transition (.close session) (endTask state session state.rows)

variable {state} {next : State} {action : Action}

theorem began_of_request {session : SessionId} {instanceId : Uuid} {task : Task}
    (begins : action.Begins) (only : task.instances = [instanceId])
    (stepped : beginRequest state session instanceId task = some next) :
    Transition state action next := by
  obtain ⟨-, rfl⟩ := of_guarded stepped
  refine .began begins session ?_
  intro id member
  simpa [only] using member

theorem transition_of_step (stepped : step state action = some next) :
    Transition state action next := by
  cases action with
  | beginCycle session instanceId =>
      obtain ⟨-, rfl⟩ := of_guarded stepped
      have begins : (Action.beginCycle session instanceId).Begins := trivial
      refine .began begins session ?_
      intro id member
      simpa using List.mem_of_mem_filter member
  | collectSucceeds session =>
      simp only [step] at stepped
      split at stepped
      next task =>
        obtain ⟨-, same⟩ := Option.ite_none_left_eq_some.mp stepped
        obtain rfl := Option.some.inj same
        exact .succeeded task
      next => simp at stepped
  | collectFails session statements =>
      simp only [step] at stepped
      split at stepped
      next task =>
        obtain ⟨-, same⟩ := Option.ite_none_left_eq_some.mp stepped
        obtain rfl := Option.some.inj same
        exact .failed statements task
      next => simp at stepped
  | beginTest session instanceId => exact began_of_request trivial rfl stepped
  | finishTest session success =>
      simp only [step] at stepped
      split at stepped
      next task =>
        obtain rfl := Option.some.inj stepped
        exact .tested success task
      next => simp at stepped
  | beginUpdate session instanceId => exact began_of_request trivial rfl stepped
  | finishUpdate session status =>
      simp only [step] at stepped
      split at stepped
      next task =>
        obtain rfl := Option.some.inj stepped
        exact .updated status task
      next => simp at stepped
  | beginDelete session instanceId => exact began_of_request trivial rfl stepped
  | finishDelete session =>
      simp only [step] at stepped
      split at stepped
      next task =>
        obtain rfl := Option.some.inj stepped
        exact .deleted task
      next => simp at stepped
  | close session =>
      obtain rfl := Option.some.inj stepped
      exact .closed session

end Transitions

end SqlMonitor.InstanceLifecycle
