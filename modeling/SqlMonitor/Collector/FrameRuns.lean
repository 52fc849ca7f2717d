import SqlMonitor.Db.SnapshotTables
import SqlMonitor.Collector.CollectIsolation
import SqlMonitor.Shared.TransitionSystem

set_option autoImplicit false

namespace SqlMonitor.Collector

open Dmv UnitOfWork TransitionSystem

section Store

def storeFrame (tables : SnapshotTables) (frame : CollectedFrame) : SnapshotTables :=
  { tables with
    frames := tables.frames ++ [frame.snapshotFrame]
    sessions := tables.sessions ++ frame.sessions
    requests := tables.requests ++ frame.requests
    waits := tables.waits ++ frame.waits
    blocking := tables.blocking ++ frame.blocking }

def applyStoreAction (tables : SnapshotTables) : StoreAction → SnapshotTables
  | .createPartition _ _ => tables
  | .upsertSqlTexts sqlTexts =>
    { tables with sqlTexts := sqlTexts.foldl SnapshotTables.upsertSqlText tables.sqlTexts }
  | .insertFrame frame => storeFrame tables frame

def storeCollected (tables : SnapshotTables) (collected : Collected) : SnapshotTables :=
  storeFrame
    { tables with sqlTexts := collected.sqlTexts.foldl SnapshotTables.upsertSqlText tables.sqlTexts }
    collected.frame

def holdsKey (tables : SnapshotTables) (frameId : Uuid) (snapshotTime : Timestamp) : Bool :=
  (frameId, snapshotTime) ∈ tables.frames.map SnapshotTables.primaryKey

-- A frame with the primary key of a stored one makes the commit fail.
def enforceKeys (tables : SnapshotTables) (attempt : Attempt) : Attempt :=
  { attempt with
    commitSucceeds :=
      attempt.commitSucceeds && !holdsKey tables attempt.frameId attempt.snapshotTime }

end Store

section Runs

structure Call where
  instanceId : Uuid
  inTransaction : Bool
  attempt : Attempt

structure CallRecord where
  call : Call
  row : Instance
  result : Option CollectInstanceResult

structure CollectorState where
  instances : Uuid → Option Instance
  statuses : Uuid → Option InstanceCollectStatus
  tables : SnapshotTables
  history : List CallRecord

def freshSession (state : CollectorState) (call : Call) (row : Instance)
    (status : InstanceCollectStatus) : CollectSession where
  rows := fun entity =>
    match entity with
    | .instance id =>
      if id = call.instanceId then .inSync row else .untracked (state.instances id)
    | .collectStatus id =>
      if id = call.instanceId then .inSync status else .untracked (state.statuses id)
  inTransaction := call.inTransaction
  pending := []
  executed := []

variable (env : Environment)

def collectCall (state : CollectorState) (call : Call) : Option CollectorState :=
  match state.instances call.instanceId, state.statuses call.instanceId with
  | some row, some status =>
    let (result, session) := collectInstanceSnapshot env call.instanceId
      (enforceKeys state.tables call.attempt) (freshSession state call row status)
    some
      { instances :=
          Function.update state.instances call.instanceId (storedInstance session call.instanceId)
        statuses :=
          Function.update state.statuses call.instanceId (storedStatus session call.instanceId)
        tables := session.executed.foldl applyStoreAction state.tables
        history := state.history ++ [⟨call, row, result⟩] }
  | _, _ => none

end Runs

section Calls

variable {env : Environment} {id : Uuid} {attempt : Attempt} {session : CollectSession}
  {row : Instance} {status : InstanceCollectStatus}

variable (env id attempt session) in
theorem executed_persistFrame (collected : Collected) :
    let outcome := persistFrame env id attempt collected session
    (outcome.1 = true → outcome.2.executed = session.executed ++ (session.pending ++
      statements attempt collected.sqlTexts ++ [.insertFrame collected.frame])) ∧
      (outcome.1 = false → outcome.2.executed = session.executed) := by
  obtain ⟨-, executed, -, pending, -⟩ :=
    session.execute_spec attempt.succeeds (statements attempt collected.sqlTexts)
  cases ran : session.execute attempt.succeeds (statements attempt collected.sqlTexts) with
  | mk all next =>
      rw [ran] at executed pending
      cases all with
      | false => simpa [persistFrame, ran] using executed
      | true =>
          have added : next.pending = session.pending ++ statements attempt collected.sqlTexts :=
            pending rfl
          have before : next.executed = session.executed := executed
          cases commits : attempt.commitSucceeds with
          | true => simp [persistFrame, ran, commits, Session.commit, setRows, added, before,
              Session.add, Session.write]
          | false => simp [persistFrame, ran, commits, Session.commit, setRows, before, Session.add,
              Session.write]

theorem collect_succeeded (onInstance : session.rows (.instance id) = .inSync row)
    (onStatus : session.rows (.collectStatus id) = .inSync status)
    (succeeds : attemptSucceeds env id attempt row = true) :
    ∃ collected next, collectFrame env id attempt row = some collected ∧
      collectInstanceSnapshot env id attempt session =
        (some (successResult id attempt collected), next) ∧
      storedInstance next id = some { row with status := .online } ∧
      storedStatus next id = some (markSuccess env attempt collected status) ∧
      next.executed = session.executed ++ (session.pending ++
        statements attempt collected.sqlTexts ++ [.insertFrame collected.frame]) := by
  rw [collectInstanceSnapshot_waiting ⟨onInstance, Or.inl onStatus⟩, collectLoadedInstance]
  cases gathered : collectFrame env id attempt row with
  | none => simp [attemptSucceeds, gathered] at succeeds
  | some collected =>
      simp only [attemptSucceeds, gathered] at succeeds
      obtain ⟨done, committed, -⟩ := persistFrame_cases env id attempt session collected
      rw [succeeds] at done
      obtain ⟨-, -, rows⟩ := committed done.symm
      have executed := (executed_persistFrame env id attempt session collected).1 done.symm
      cases outcome : persistFrame env id attempt collected session with
      | mk finished next =>
          rw [outcome] at done rows executed
          obtain rfl : true = finished := done
          refine ⟨collected, next, rfl, by simp only [outcome], ?_, ?_, executed⟩
          · rw [storedInstance, rows, setRows_instance, onInstance]
            rfl
          · rw [storedStatus, rows, setRows_status, onStatus]
            rfl

theorem failInstance_marks {broken : CollectSession} (consecutiveFailures : Int)
    (kept : attempt.failureCommitSucceeds = true) (clean : broken.rollback.pending = [])
    (onInstance : broken.rollback.rows (.instance id) = .inSync row ∨
      broken.rollback.rows (.instance id) = .expired row)
    (onStatus : broken.rollback.rows (.collectStatus id) = .inSync status ∨
      broken.rollback.rows (.collectStatus id) = .expired status) :
    ∃ result next, failInstance env id attempt consecutiveFailures broken = (some result, next) ∧
      result.success = false ∧
      storedInstance next id = some { row with status := .collectError } ∧
      storedStatus next id = some (markFailed env attempt consecutiveFailures status) ∧
      next.executed = broken.rollback.executed := by
  let marked := markCollectFailed env id attempt consecutiveFailures broken.rollback
  have done : marked.1 = true := by simp [marked, markCollectFailed, Session.commit, kept]
  have rows : ∀ entity, marked.2.rows entity =
      ((setRows id (fun row => { row with status := .collectError })
        (markFailed env attempt consecutiveFailures) broken.rollback).rows entity).commit := by
    simp [marked, markCollectFailed, Session.commit, kept]
  refine ⟨{ success := false, instanceId := id, errorMessage := some "采集失败" }, marked.2, ?_, rfl,
    ?_, ?_, ?_⟩
  · have same : markCollectFailed env id attempt consecutiveFailures broken.rollback =
        (true, marked.2) := Prod.ext done rfl
    rw [failInstance, same]
  · rw [storedInstance, rows, setRows_instance]
    rcases onInstance with loaded | expired
    · rw [loaded]
      rfl
    · rw [expired]
      rfl
  · rw [storedStatus, rows, setRows_status]
    rcases onStatus with loaded | expired
    · rw [loaded]
      rfl
    · rw [expired]
      rfl
  · simp [marked, markCollectFailed, Session.commit, kept, setRows, Session.write, clean]

/-- What a failing `try` block leaves: an open transaction, or nothing done at all. -/
structure LeftBy (session broken : CollectSession) : Prop where
  executed : broken.executed = session.executed
  isOpen : broken.inTransaction = true ∨ broken = session
  rows : ∀ entity, broken.rows entity = session.rows entity ∨
    ∃ change, broken.rows entity = (session.rows entity).write change

theorem LeftBy.executed_rollback {broken : CollectSession} (left : LeftBy session broken) :
    broken.rollback.executed = session.executed := by
  unfold Session.rollback
  split <;> exact left.executed

theorem LeftBy.pending_rollback {broken : CollectSession} (left : LeftBy session broken)
    (clean : session.pending = []) : broken.rollback.pending = [] := by
  unfold Session.rollback
  split
  next => rfl
  next closed =>
    rcases left.isOpen with isOpen | same
    · exact absurd isOpen closed
    · rw [same]
      exact clean

theorem LeftBy.rows_rollback {broken : CollectSession} (left : LeftBy session broken)
    {entity : Entity} {value : entity.Row} (loaded : session.rows entity = .inSync value) :
    broken.rollback.rows entity = .inSync value ∨ broken.rollback.rows entity = .expired value := by
  unfold Session.rollback
  split
  next =>
    refine Or.inr ?_
    rcases left.rows entity with same | ⟨change, same⟩
    · simp only [same, loaded, Tracked.rollback_inSync]
    · simp only [same, loaded, Tracked.rollback_write_inSync]
  next closed =>
    rcases left.isOpen with isOpen | same
    · exact absurd isOpen closed
    · exact Or.inl (by rw [same]; exact loaded)

variable (session status) in
theorem left_collectLoadedInstance (fails : attemptSucceeds env id attempt row = false) :
    ∃ broken, LeftBy session broken ∧ collectLoadedInstance env id attempt row status session =
      failInstance env id attempt status.consecutiveFailures broken := by
  cases gathered : collectFrame env id attempt row with
  | none =>
      refine ⟨session, ⟨rfl, Or.inr rfl, fun _ => Or.inl rfl⟩, ?_⟩
      rw [collectLoadedInstance, gathered]
  | some collected =>
      simp only [attemptSucceeds, gathered] at fails
      obtain ⟨done, -, aborted⟩ := persistFrame_cases env id attempt session collected
      rw [fails] at done
      obtain ⟨isOpen, rows⟩ := aborted done.symm
      have executed := (executed_persistFrame env id attempt session collected).2 done.symm
      cases outcome : persistFrame env id attempt collected session with
      | mk finished next =>
          rw [outcome] at done isOpen rows executed
          obtain rfl : false = finished := done
          refine ⟨next, ⟨executed, Or.inl isOpen, rows⟩, ?_⟩
          rw [collectLoadedInstance, gathered]
          simp only [outcome]

theorem collect_failed (onInstance : session.rows (.instance id) = .inSync row)
    (onStatus : session.rows (.collectStatus id) = .inSync status) (clean : session.pending = [])
    (fails : attemptSucceeds env id attempt row = false)
    (kept : attempt.failureCommitSucceeds = true) :
    ∃ result next, collectInstanceSnapshot env id attempt session = (some result, next) ∧
      result.success = false ∧
      storedInstance next id = some { row with status := .collectError } ∧
      storedStatus next id = some (markFailed env attempt status.consecutiveFailures status) ∧
      next.executed = session.executed := by
  rw [collectInstanceSnapshot_waiting ⟨onInstance, Or.inl onStatus⟩]
  obtain ⟨broken, left, same⟩ := left_collectLoadedInstance session status fails
  rw [same, ← left.executed_rollback]
  exact failInstance_marks status.consecutiveFailures kept (left.pending_rollback clean)
    (left.rows_rollback onInstance) (left.rows_rollback onStatus)

end Calls

end SqlMonitor.Collector
