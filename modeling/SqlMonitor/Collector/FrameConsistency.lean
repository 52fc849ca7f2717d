import SqlMonitor.Collector.FrameRuns

set_option autoImplicit false

namespace SqlMonitor.Collector

open Dmv UnitOfWork TransitionSystem

section Frames

variable {env : Environment} {id : Uuid} {attempt : Attempt} {row : Instance}
  {collected : Collected}

structure SharesKey (frame : CollectedFrame) : Prop where
  sessions : ∀ row ∈ frame.sessions, row.frame = frame.snapshotFrame.frame
  requests : ∀ row ∈ frame.requests, row.frame = frame.snapshotFrame.frame
  waits : ∀ row ∈ frame.waits, row.frame = frame.snapshotFrame.frame
  blocking : ∀ row ∈ frame.blocking, row.frame = frame.snapshotFrame.frame

theorem sharesKey_collectFrame (gathered : collectFrame env id attempt row = some collected) :
    SharesKey collected.frame := by
  simp only [collectFrame, Option.bind_eq_bind, Option.bind_eq_some_iff,
    Option.some.injEq] at gathered
  obtain ⟨_, -, _, -, rows, -, waitRows, -, blocking, built, rfl⟩ := gathered
  refine ⟨?_, ?_, ?_, ?_⟩
  · intro session member
    simp only [sessions_eq] at member
    obtain ⟨_, -, rfl⟩ := List.mem_map.mp member
    rfl
  · intro request member
    simp only [requests_eq] at member
    obtain ⟨_, -, rfl⟩ := List.mem_map.mp member
    rfl
  · intro wait member
    obtain ⟨_, -, rfl⟩ := List.mem_map.mp member
    rfl
  · intro edge member
    obtain ⟨edges, -, rfl⟩ := Option.map_eq_some_iff.mp built
    obtain ⟨_, -, rfl⟩ := List.mem_map.mp member
    rfl

variable {tables : SnapshotTables}

theorem belongs_insert {A : Type} {frames : List SnapshotFrame} {frame : SnapshotFrame}
    {keyOf : A → FrameKey} {stored added : List A}
    (fresh : SnapshotTables.primaryKey frame ∉ frames.map SnapshotTables.primaryKey)
    (before : ∀ row ∈ stored, SnapshotTables.BelongsToOne frames (keyOf row))
    (shares : ∀ row ∈ added, keyOf row = frame.frame) :
    ∀ row ∈ stored ++ added, SnapshotTables.BelongsToOne (frames ++ [frame]) (keyOf row) := by
  intro row member
  rcases List.mem_append.mp member with old | new
  · exact SnapshotTables.belongsToOne_append (before row old) fresh
  · rw [shares row new]
    exact SnapshotTables.belongsToOne_append_self fresh

theorem wellFormed_storeCollected (wellFormed : tables.WellFormed)
    (fresh : SnapshotTables.primaryKey collected.frame.snapshotFrame ∉
      tables.frames.map SnapshotTables.primaryKey)
    (shares : SharesKey collected.frame) : (storeCollected tables collected).WellFormed := by
  refine ⟨?_, ?_, ?_, ?_, ?_⟩
  · simp only [storeCollected, storeFrame, List.map_append]
    refine List.nodup_append.mpr ⟨wellFormed.distinct, by simp, ?_⟩
    intro key old other new same
    obtain rfl : other = SnapshotTables.primaryKey collected.frame.snapshotFrame := by
      simpa using new
    exact fresh (same ▸ old)
  · exact belongs_insert fresh wellFormed.sessions shares.sessions
  · exact belongs_insert fresh wellFormed.requests shares.requests
  · exact belongs_insert fresh wellFormed.waits shares.waits
  · exact belongs_insert fresh wellFormed.blocking shares.blocking

variable (tables attempt collected) in
theorem foldl_statements :
    (statements attempt collected.sqlTexts ++ [StoreAction.insertFrame collected.frame]).foldl
      applyStoreAction tables = storeCollected tables collected := by
  have texts : (if collected.sqlTexts = [] then [] else
      [StoreAction.upsertSqlTexts collected.sqlTexts]).foldl applyStoreAction tables =
        { tables with
          sqlTexts := collected.sqlTexts.foldl SnapshotTables.upsertSqlText tables.sqlTexts } := by
    split
    next empty => simp [empty]
    next => rfl
  simp only [statements, partitionedTables, List.map_cons, List.map_nil, List.cons_append,
    List.nil_append, List.foldl_cons, List.foldl_append, applyStoreAction, texts, List.foldl_nil]
  rfl

end Frames

section Steps

variable {env : Environment} {state next : CollectorState} {call : Call} {row : Instance}
  {status : InstanceCollectStatus}

variable (env state call row status) in
structure CallSucceeded (next : CollectorState) (collected : Collected) : Prop where
  gathered : collectFrame env call.instanceId call.attempt row = some collected
  fresh : SnapshotTables.primaryKey collected.frame.snapshotFrame ∉
    state.tables.frames.map SnapshotTables.primaryKey
  statuses : next.statuses = Function.update state.statuses call.instanceId
    (some (markSuccess env call.attempt collected status))
  tables : next.tables = storeCollected state.tables collected
  history : next.history =
    state.history ++ [⟨call, row, some (successResult call.instanceId call.attempt collected)⟩]

variable (env state call row status) in
structure CallFailed (next : CollectorState) : Prop where
  statuses : next.statuses = Function.update state.statuses call.instanceId
    (some (markFailed env call.attempt status.consecutiveFailures status))
  tables : next.tables = state.tables
  history : ∃ result, result.success = false ∧
    next.history = state.history ++ [⟨call, row, some result⟩]

variable (state call row status) in
theorem freshSession_instance :
    (freshSession state call row status).rows (.instance call.instanceId) = .inSync row :=
  if_pos rfl

variable (state call row status) in
theorem freshSession_status :
    (freshSession state call row status).rows (.collectStatus call.instanceId) = .inSync status :=
  if_pos rfl

theorem callSucceeded_of_attempt (loadedInstance : state.instances call.instanceId = some row)
    (loadedStatus : state.statuses call.instanceId = some status)
    (succeeds : attemptSucceeds env call.instanceId (enforceKeys state.tables call.attempt) row = true)
    (stepped : collectCall env state call = some next) :
    ∃ collected, CallSucceeded env state call row status next collected := by
  obtain ⟨collected, session, gathered, outcome, -, stored, executed⟩ :=
    collect_succeeded (freshSession_instance state call row status)
      (freshSession_status state call row status) succeeds
  simp only [collectCall, loadedInstance, loadedStatus, outcome, Option.some.injEq] at stepped
  obtain rfl := stepped
  have unkeyed : collectFrame env call.instanceId call.attempt row = some collected := gathered
  refine ⟨collected, unkeyed, ?_, by simp only [stored]; rfl, ?_, rfl⟩
  · simp only [attemptSucceeds, gathered, Bool.and_eq_true] at succeeds
    rw [SnapshotTables.primaryKey, key_collectFrame unkeyed]
    have free : ¬ holdsKey state.tables call.attempt.frameId call.attempt.snapshotTime = true := by
      simpa using ((Bool.and_eq_true _ _).mp succeeds.2).2
    simpa [holdsKey] using free
  · simp only [executed, freshSession, List.nil_append]
    exact foldl_statements _ _ _

theorem call_cases (kept : call.attempt.failureCommitSucceeds = true)
    (stepped : collectCall env state call = some next) :
    ∃ row status, state.instances call.instanceId = some row ∧
      state.statuses call.instanceId = some status ∧
        ((∃ collected, CallSucceeded env state call row status next collected) ∨
          CallFailed env state call row status next) := by
  have made := stepped
  unfold collectCall at stepped
  split at stepped
  next row status loadedInstance loadedStatus =>
    refine ⟨row, status, loadedInstance, loadedStatus, ?_⟩
    cases succeeds : attemptSucceeds env call.instanceId (enforceKeys state.tables call.attempt) row with
    | true => exact Or.inl (callSucceeded_of_attempt loadedInstance loadedStatus succeeds made)
    | false =>
        obtain ⟨result, session, outcome, unsuccessful, -, stored, executed⟩ :=
          collect_failed (freshSession_instance state call row status)
            (freshSession_status state call row status) rfl succeeds kept
        rw [outcome] at stepped
        obtain rfl := Option.some.inj stepped
        refine Or.inr ⟨by simp only [stored]; rfl, ?_, result, unsuccessful, rfl⟩
        simp only [executed, freshSession, List.foldl_nil]
  next => simp at stepped

theorem executed_failInstance {id : Uuid} {attempt : Attempt} {session : CollectSession}
    (consecutiveFailures : Int) (clean : session.rollback.pending = []) :
    (failInstance env id attempt consecutiveFailures session).2.executed =
      session.rollback.executed := by
  cases kept : attempt.failureCommitSucceeds with
  | true => simp [failInstance, markCollectFailed, Session.commit, kept, setRows, Session.write,
      clean]
  | false => simp [failInstance, markCollectFailed, Session.commit, kept, setRows, Session.write]

theorem call_tables (stepped : collectCall env state call = some next) :
    next.tables = state.tables ∨ ∃ row collected,
      collectFrame env call.instanceId call.attempt row = some collected ∧
        SnapshotTables.primaryKey collected.frame.snapshotFrame ∉
          state.tables.frames.map SnapshotTables.primaryKey ∧
        next.tables = storeCollected state.tables collected := by
  have made := stepped
  unfold collectCall at stepped
  split at stepped
  next row status loadedInstance loadedStatus =>
    cases succeeds : attemptSucceeds env call.instanceId (enforceKeys state.tables call.attempt) row with
    | true =>
        obtain ⟨collected, succeeded⟩ :=
          callSucceeded_of_attempt loadedInstance loadedStatus succeeds made
        exact Or.inr ⟨row, collected, succeeded.gathered, succeeded.fresh, succeeded.tables⟩
    | false =>
        obtain ⟨broken, left, same⟩ :=
          left_collectLoadedInstance (freshSession state call row status) status succeeds
        rw [collectInstanceSnapshot_waiting ⟨freshSession_instance state call row status,
          Or.inl (freshSession_status state call row status)⟩, same] at stepped
        have clean : broken.rollback.pending = [] := left.pending_rollback rfl
        have executed : (failInstance env call.instanceId (enforceKeys state.tables call.attempt)
            status.consecutiveFailures broken).2.executed = [] :=
          (executed_failInstance _ clean).trans left.executed_rollback
        cases outcome : failInstance env call.instanceId (enforceKeys state.tables call.attempt)
          status.consecutiveFailures broken with
        | mk result session =>
            rw [outcome] at stepped executed
            obtain rfl := Option.some.inj stepped
            have nothing : session.executed = [] := executed
            exact Or.inl (by rw [nothing]; rfl)
  next => simp at stepped

end Steps

section Histories

def CallRecord.succeeded (record : CallRecord) : Bool := record.result.any (·.success)

def CallRecord.snapshotTime (record : CallRecord) : Timestamp := record.call.attempt.snapshotTime

variable (env : Environment)

def CallRecord.collected (record : CallRecord) : Option Collected :=
  collectFrame env record.call.instanceId record.call.attempt record.row

def callsTo (id : Uuid) (history : List CallRecord) : List CallRecord :=
  history.filter fun record => record.call.instanceId = id

def trailingFailures (calls : List CallRecord) : Nat :=
  (calls.reverse.takeWhile fun record => !record.succeeded).length

def capabilitiesWith (resourceAvailable : Bool) : List (String × Bool) :=
  [("sessions", true), ("requests", true), ("waits", true), ("blocking", true),
    ("resources", resourceAvailable)]

/-- The status row of an instance after the calls for it, which began with `first`. -/
structure StatusTells (first : InstanceCollectStatus) (calls : List CallRecord)
    (status : InstanceCollectStatus) : Prop where
  failures : status.consecutiveFailures =
    (if calls.any (·.succeeded) then 0 else first.consecutiveFailures) + trailingFailures calls
  lastCall : ∀ record ∈ calls.getLast?,
    (record.succeeded = true →
      status.status = .success ∧ status.errorCode = none ∧ status.errorMessage = none) ∧
    (record.succeeded = false →
      status.status = .failed ∧ status.errorCode.isSome ∧ status.errorMessage.isSome)
  lastSuccess : ∀ record ∈ (calls.filter (·.succeeded)).getLast?,
    status.lastSuccessAt = some record.snapshotTime ∧
      ∃ collected, record.collected env = some collected ∧
        status.capabilities = capabilitiesWith collected.resourceAvailable
  lastFailure : ∀ record ∈ (calls.filter (!·.succeeded)).getLast?,
    status.lastFailureAt = some record.snapshotTime
  noSuccess : calls.any (·.succeeded) = false →
    status.lastSuccessAt = first.lastSuccessAt ∧ status.capabilities = first.capabilities
  noFailure : calls.all (·.succeeded) = true → status.lastFailureAt = first.lastFailureAt

variable {env} {first status : InstanceCollectStatus} {calls : List CallRecord}
    {record : CallRecord}
  {collected : Collected}

theorem trailingFailures_append :
    trailingFailures (calls ++ [record]) =
      if record.succeeded then 0 else trailingFailures calls + 1 := by
  unfold trailingFailures
  rw [List.reverse_append, List.reverse_singleton, List.singleton_append, List.takeWhile_cons]
  cases record.succeeded <;> simp

theorem statusTells_nil (first : InstanceCollectStatus) : StatusTells env first [] first := by
  refine ⟨?_, ?_, ?_, ?_, fun _ => ⟨rfl, rfl⟩, fun _ => rfl⟩ <;> simp [trailingFailures]

theorem StatusTells.succeeds (tells : StatusTells env first calls status)
    (succeeded : record.succeeded = true) (gathered : record.collected env = some collected) :
    StatusTells env first (calls ++ [record]) (markSuccess env record.call.attempt collected status) := by
  refine ⟨?_, ?_, ?_, ?_, ?_, ?_⟩
  · rw [trailingFailures_append]
    simp [succeeded, markSuccess]
  · simp [succeeded, markSuccess]
  · simp only [List.filter_append, List.filter_cons, succeeded, if_true, List.filter_nil,
      List.getLast?_concat, Option.mem_def, Option.some.injEq]
    rintro _ rfl
    exact ⟨rfl, collected, gathered, rfl⟩
  · simpa [List.filter_append, succeeded, markSuccess] using tells.lastFailure
  · simp [succeeded]
  · intro all
    have before : calls.all (·.succeeded) = true := by simp_all
    exact tells.noFailure before

theorem StatusTells.fails (tells : StatusTells env first calls status)
    (failed : record.succeeded = false) :
    StatusTells env first (calls ++ [record])
      (markFailed env record.call.attempt status.consecutiveFailures status) := by
  refine ⟨?_, ?_, ?_, ?_, ?_, ?_⟩
  · have counted := tells.failures
    rw [trailingFailures_append]
    simp only [markFailed, counted, failed, List.any_append, List.any_cons, List.any_nil,
      Bool.or_false, Bool.false_eq_true, if_false, Nat.cast_add, Nat.cast_one]
    omega
  · simp [failed, markFailed]
  · simpa [List.filter_append, failed, markFailed] using tells.lastSuccess
  · simp [List.filter_append, failed, markFailed, CallRecord.snapshotTime]
  · simpa [failed, markFailed] using tells.noSuccess
  · simp [failed]

end Histories

section Runs

variable (env : Environment) (start : CollectorState)

def successfulFrames (history : List CallRecord) : List Collected :=
  (history.filter (·.succeeded)).filterMap (·.collected env)

structure RunTells (state : CollectorState) : Prop where
  wellFormed : state.tables.WellFormed
  stored : state.tables = (successfulFrames env state.history).foldl storeCollected start.tables
  statuses : ∀ id first, start.statuses id = some first → ∃ status,
    state.statuses id = some status ∧ StatusTells env first (callsTo id state.history) status

variable {env start} {state next : CollectorState} {call : Call}

theorem callsTo_append (id : Uuid) (history : List CallRecord) (record : CallRecord) :
    callsTo id (history ++ [record]) =
      callsTo id history ++ if record.call.instanceId = id then [record] else [] := by
  simp [callsTo, List.filter_append, List.filter_cons]

theorem statuses_step {status after : InstanceCollectStatus} {record : CallRecord}
    (tells : RunTells env start state) (loaded : state.statuses call.instanceId = some status)
    (own : record.call = call)
    (statuses : next.statuses = Function.update state.statuses call.instanceId (some after))
    (history : next.history = state.history ++ [record])
    (told : ∀ first calls, StatusTells env first calls status →
      StatusTells env first (calls ++ [record]) after) :
    ∀ id first, start.statuses id = some first → ∃ status,
      next.statuses id = some status ∧ StatusTells env first (callsTo id next.history) status := by
  intro id first began
  obtain ⟨before, stored, tellsBefore⟩ := tells.statuses id first began
  rw [statuses, history, callsTo_append, own]
  by_cases same : call.instanceId = id
  · subst same
    obtain rfl := Option.some.inj (loaded.symm.trans stored)
    rw [if_pos rfl, Function.update_self]
    exact ⟨after, rfl, told first _ tellsBefore⟩
  · rw [if_neg same, List.append_nil, Function.update_of_ne (Ne.symm same)]
    exact ⟨before, stored, tellsBefore⟩

theorem runTells_step (tells : RunTells env start state)
    (kept : call.attempt.failureCommitSucceeds = true)
    (stepped : collectCall env state call = some next) : RunTells env start next := by
  obtain ⟨row, status, -, loaded, outcome⟩ := call_cases kept stepped
  rcases outcome with ⟨collected, succeeded⟩ | failed
  · have made := succeeded.history
    refine ⟨?_, ?_, ?_⟩
    · rw [succeeded.tables]
      exact wellFormed_storeCollected tells.wellFormed succeeded.fresh
        (sharesKey_collectFrame succeeded.gathered)
    · have listed : successfulFrames env next.history =
          successfulFrames env state.history ++ [collected] := by
        simp [successfulFrames, made, List.filter_append, CallRecord.succeeded, successResult,
          CallRecord.collected, succeeded.gathered]
      rw [succeeded.tables, listed, List.foldl_append, ← tells.stored]
      rfl
    · exact statuses_step tells loaded rfl succeeded.statuses made fun first calls told =>
        told.succeeds rfl succeeded.gathered
  · obtain ⟨result, unsuccessful, made⟩ := failed.history
    have failedRecord : (⟨call, row, some result⟩ : CallRecord).succeeded = false := by
      simpa [CallRecord.succeeded] using unsuccessful
    refine ⟨?_, ?_, ?_⟩
    · rw [failed.tables]
      exact tells.wellFormed
    · have listed : successfulFrames env next.history = successfulFrames env state.history := by
        simp [successfulFrames, made, List.filter_append, failedRecord]
      rw [failed.tables, listed]
      exact tells.stored
    · exact statuses_step tells loaded rfl failed.statuses made fun first calls told =>
        told.fails failedRecord

end Runs

theorem collect_calls_tell (env : Environment) (start final : CollectorState) (calls : List Call)
    (wellFormed : start.tables.WellFormed) (begins : start.history = [])
    (marked : ∀ call ∈ calls, call.attempt.failureCommitSucceeds = true)
    (ran : run (collectCall env) start calls = some final) : RunTells env start final := by
  refine run_invariant_along (P := fun _ call => call.attempt.failureCommitSucceeds = true)
    (fun state call next tells kept stepped => runTells_step tells kept stepped) ?_ ?_ ran
  · refine ⟨wellFormed, by simp [begins, successfulFrames], ?_⟩
    intro id first began
    exact ⟨first, began, by simpa [begins, callsTo] using statusTells_nil first⟩
  · intro before call after _ split _
    exact marked call (by simp [split])

def newInstance : CollectorState where
  instances := fun id => if id = 1 then some ⟨1, "dsn", .offline, 0⟩ else none
  statuses := fun id => if id = 1 then some (newCollectStatus 1) else none
  tables := .empty
  history := []

def callAt (time : Timestamp) (reached : Bool) : Call where
  instanceId := 1
  inTransaction := true
  attempt :=
    { snapshotTime := time
      finishedAt := time
      failedAt := time
      frameId := time.toNat
      decryptConnectionString := some
      clientFactory := fun _ => if reached then some ⟨some [], some [], some []⟩ else none
      succeeds := fun _ => true
      commitSucceeds := true
      failureCommitSucceeds := true }

theorem collect_calls_tell_newInstance :
    ∃ final, run (collectCall plainEnvironment) newInstance [callAt 5 false, callAt 10 true] =
        some final ∧ RunTells plainEnvironment newInstance final := by
  have ends : (run (collectCall plainEnvironment) newInstance
      [callAt 5 false, callAt 10 true]).isSome = true := by decide +kernel
  obtain ⟨final, ran⟩ := Option.isSome_iff_exists.mp ends
  exact ⟨final, ran, collect_calls_tell plainEnvironment newInstance final _
    SnapshotTables.wellFormed_empty rfl (by simp [callAt]) ran⟩

end SqlMonitor.Collector
