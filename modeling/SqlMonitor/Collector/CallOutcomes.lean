import SqlMonitor.Collector.FrameConsistency

set_option autoImplicit false

namespace SqlMonitor.Collector

open Dmv UnitOfWork TransitionSystem

section Sessions

variable {env : Environment} {id : Uuid} {attempt : Attempt} {session broken : CollectSession}
  {row : Instance} {status : InstanceCollectStatus}

theorem tracked_write_stored {V : Type} (row : Tracked V) (change : V → V) :
    (row.write change).stored = row.stored := by
  rcases row with ⟨stored, object⟩
  cases object with
  | none => rfl
  | some mapped => cases mapped <;> rfl

theorem failInstance_unnoted (consecutiveFailures : Int)
    (lost : attempt.failureCommitSucceeds = false) :
    ∃ next, failInstance env id attempt consecutiveFailures broken = (none, next) ∧
      storedStatus next id = storedStatus broken.rollback id ∧
      next.executed = broken.rollback.executed := by
  let marked := markCollectFailed env id attempt consecutiveFailures broken.rollback
  have aborted : marked.1 = false := by simp [marked, markCollectFailed, Session.commit, lost]
  refine ⟨marked.2, ?_, ?_, ?_⟩
  · have same : markCollectFailed env id attempt consecutiveFailures broken.rollback =
        (false, marked.2) := Prod.ext aborted rfl
    rw [failInstance, same]
  · have rows : marked.2.rows (.collectStatus id) =
        (setRows id (fun row => { row with status := .collectError })
          (markFailed env attempt consecutiveFailures) broken.rollback).rows
            (.collectStatus id) := by
      simp [marked, markCollectFailed, Session.commit, lost]
    rw [storedStatus, rows, setRows_status, tracked_write_stored]
    rfl
  · simp [marked, markCollectFailed, Session.commit, lost, setRows, Session.write]

theorem LeftBy.stored_rollback (left : LeftBy session broken)
    (onStatus : session.rows (.collectStatus id) = .inSync status) :
    storedStatus broken.rollback id = some status := by
  rw [storedStatus]
  rcases left.rows_rollback onStatus with kept | expired
  · rw [kept]
    rfl
  · rw [expired]
    rfl

end Sessions

section Calls

variable {env : Environment} {state next : CollectorState} {call : Call} {row : Instance}
  {status : InstanceCollectStatus}

variable (state call row status) in
structure CallStoredNothing (next : CollectorState) : Prop where
  tables : next.tables = state.tables
  statuses : ∃ after, after.lastSuccessAt = status.lastSuccessAt ∧
    next.statuses = Function.update state.statuses call.instanceId (some after)
  history : ∃ result : Option CollectInstanceResult, result.any (·.success) = false ∧
    next.history = state.history ++ [⟨call, row, result⟩]

theorem call_outcome (stepped : collectCall env state call = some next) :
    ∃ row status, state.statuses call.instanceId = some status ∧
      ((∃ collected, CallSucceeded env state call row status next collected) ∨
        CallStoredNothing state call row status next) := by
  have made := stepped
  unfold collectCall at stepped
  split at stepped
  next row status loadedInstance loadedStatus =>
    refine ⟨row, status, loadedStatus, ?_⟩
    have onStatus := freshSession_status state call row status
    cases succeeds : attemptSucceeds env call.instanceId (enforceKeys state.tables call.attempt) row with
    | true => exact Or.inl (callSucceeded_of_attempt loadedInstance loadedStatus succeeds made)
    | false =>
        cases kept : call.attempt.failureCommitSucceeds with
        | true =>
            obtain ⟨result, session, outcome, unsuccessful, -, stored, executed⟩ :=
              collect_failed (freshSession_instance state call row status) onStatus rfl succeeds kept
            rw [outcome] at stepped
            obtain rfl := Option.some.inj stepped
            refine Or.inr ⟨?_, ⟨markFailed env call.attempt status.consecutiveFailures status, rfl, ?_⟩,
              ⟨some result, ?_, rfl⟩⟩
            · simp only [executed, freshSession, List.foldl_nil]
            · simp only [stored]
              rfl
            · simpa using unsuccessful
        | false =>
            obtain ⟨broken, left, same⟩ :=
              left_collectLoadedInstance (freshSession state call row status) status succeeds
            rw [collectInstanceSnapshot_waiting
              ⟨freshSession_instance state call row status, Or.inl onStatus⟩, same] at stepped
            obtain ⟨session, outcome, stored, executed⟩ := @failInstance_unnoted env call.instanceId
              (enforceKeys state.tables call.attempt) broken status.consecutiveFailures kept
            rw [outcome] at stepped
            obtain rfl := Option.some.inj stepped
            have nothing : session.executed = [] := executed.trans left.executed_rollback
            refine Or.inr ⟨?_, ⟨status, rfl, ?_⟩, ⟨none, rfl, rfl⟩⟩
            · rw [nothing]
              rfl
            · simp only [stored, left.stored_rollback onStatus]
  next => simp at stepped

end Calls

section Runs

variable (env : Environment)

def successesOf (instanceId : Uuid) (history : List CallRecord) : List CallRecord :=
  (callsTo instanceId history).filter (·.succeeded)

/-- What the database holds after a run from the empty store, told by the calls that were made. -/
structure StoresSuccesses (start state : CollectorState) : Prop where
  wellFormed : state.tables.WellFormed
  tables : state.tables = (successfulFrames env state.history).foldl storeCollected .empty
  collected : ∀ record ∈ state.history, record.succeeded = true →
    (record.collected env).isSome = true
  lastSuccess : ∀ id first, start.statuses id = some first → ∃ status,
    state.statuses id = some status ∧ status.lastSuccessAt =
      ((successesOf id state.history).getLast?.map (·.snapshotTime)).or first.lastSuccessAt

variable {env} {start state next : CollectorState} {call : Call}

theorem successesOf_append (id : Uuid) (history : List CallRecord) (record : CallRecord) :
    successesOf id (history ++ [record]) = successesOf id history ++
      if record.call.instanceId = id ∧ record.succeeded = true then [record] else [] := by
  rw [successesOf, callsTo_append, List.filter_append, successesOf]
  by_cases own : record.call.instanceId = id <;> simp [own, List.filter_cons]

theorem lastSuccess_step {status after : InstanceCollectStatus} {record : CallRecord}
    (stores : StoresSuccesses env start state)
    (loaded : state.statuses call.instanceId = some status) (own : record.call = call)
    (statuses : next.statuses = Function.update state.statuses call.instanceId (some after))
    (history : next.history = state.history ++ [record])
    (told : after.lastSuccessAt =
      if record.succeeded = true then some record.snapshotTime else status.lastSuccessAt) :
    ∀ id first, start.statuses id = some first → ∃ status,
      next.statuses id = some status ∧ status.lastSuccessAt =
        ((successesOf id next.history).getLast?.map (·.snapshotTime)).or first.lastSuccessAt := by
  intro id first began
  obtain ⟨before, stored, tells⟩ := stores.lastSuccess id first began
  rw [statuses, history, successesOf_append, own]
  by_cases same : call.instanceId = id
  · subst same
    obtain rfl := Option.some.inj (loaded.symm.trans stored)
    refine ⟨after, Function.update_self .., ?_⟩
    rw [told]
    by_cases succeeded : record.succeeded = true
    · simp [succeeded]
    · simp [succeeded, tells]
  · refine ⟨before, by rw [Function.update_of_ne (Ne.symm same)]; exact stored, ?_⟩
    simpa [same] using tells

theorem storesSuccesses_step (stores : StoresSuccesses env start state)
    (stepped : collectCall env state call = some next) : StoresSuccesses env start next := by
  obtain ⟨row, status, loaded, outcome⟩ := call_outcome stepped
  rcases outcome with ⟨collected, succeeded⟩ | nothing
  · have made := succeeded.history
    have own : (⟨call, row, some (successResult call.instanceId call.attempt collected)⟩ :
        CallRecord).succeeded = true := rfl
    refine ⟨?_, ?_, ?_, ?_⟩
    · rw [succeeded.tables]
      exact wellFormed_storeCollected stores.wellFormed succeeded.fresh
        (sharesKey_collectFrame succeeded.gathered)
    · have listed : successfulFrames env next.history =
          successfulFrames env state.history ++ [collected] := by
        simp [successfulFrames, made, List.filter_append, CallRecord.succeeded, successResult,
          CallRecord.collected, succeeded.gathered]
      rw [succeeded.tables, listed, List.foldl_append, ← stores.tables]
      rfl
    · intro record member done
      rw [made] at member
      rcases List.mem_append.mp member with old | new
      · exact stores.collected record old done
      · rw [List.mem_singleton.mp new, CallRecord.collected, succeeded.gathered]
        rfl
    · exact lastSuccess_step stores loaded rfl succeeded.statuses made (by rw [if_pos own]; rfl)
  · obtain ⟨result, unsuccessful, made⟩ := nothing.history
    obtain ⟨after, kept, statuses⟩ := nothing.statuses
    have failed : (⟨call, row, result⟩ : CallRecord).succeeded = false := unsuccessful
    refine ⟨?_, ?_, ?_, ?_⟩
    · rw [nothing.tables]
      exact stores.wellFormed
    · have listed : successfulFrames env next.history = successfulFrames env state.history := by
        simp [successfulFrames, made, List.filter_append, failed]
      rw [nothing.tables, listed]
      exact stores.tables
    · intro record member done
      rw [made] at member
      rcases List.mem_append.mp member with old | new
      · exact stores.collected record old done
      · rw [List.mem_singleton.mp new, failed] at done
        simp at done
    · exact lastSuccess_step stores loaded rfl statuses made (by simp [failed, kept])

theorem storesSuccesses_run {final : CollectorState} {calls : List Call}
    (empty : start.tables = .empty) (begins : start.history = [])
    (ran : run (collectCall env) start calls = some final) : StoresSuccesses env start final := by
  refine run_invariant (I := StoresSuccesses env start)
    (fun state call next stores stepped => storesSuccesses_step stores stepped) ?_ ran
  refine ⟨?_, ?_, ?_, ?_⟩
  · rw [empty]
    exact SnapshotTables.wellFormed_empty
  · simp [empty, begins, successfulFrames]
  · simp [begins]
  · intro id first began
    exact ⟨first, began, by simp [begins, successesOf, callsTo]⟩

theorem exists_history_append {final : CollectorState} {calls : List Call}
    (ran : run (collectCall env) start calls = some final) :
    ∃ added, final.history = start.history ++ added ∧ added.map CallRecord.call = calls := by
  induction calls generalizing start with
  | nil =>
      obtain rfl := Option.some.inj ran
      exact ⟨[], by simp, rfl⟩
  | cons call rest ih =>
      obtain ⟨next, stepped, runRest⟩ := run_cons_eq_some ran
      obtain ⟨added, later, made⟩ := ih runRest
      obtain ⟨record, recorded, own⟩ : ∃ record : CallRecord,
          next.history = start.history ++ [record] ∧ record.call = call := by
        obtain ⟨row, status, -, ⟨collected, succeeded⟩ | nothing⟩ := call_outcome stepped
        · exact ⟨_, succeeded.history, rfl⟩
        · obtain ⟨result, -, recorded⟩ := nothing.history
          exact ⟨_, recorded, rfl⟩
      exact ⟨record :: added, by simp [later, recorded], by simp [own, made]⟩

theorem calls_recorded {final : CollectorState} {calls : List Call} (begins : start.history = [])
    (ran : run (collectCall env) start calls = some final) :
    final.history.map CallRecord.call = calls := by
  obtain ⟨added, history, made⟩ := exists_history_append ran
  rw [history, begins, List.nil_append, made]

end Runs

end SqlMonitor.Collector
