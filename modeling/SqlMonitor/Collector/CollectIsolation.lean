import SqlMonitor.Collector.CollectCycle

set_option autoImplicit false

namespace SqlMonitor.Collector

open Dmv UnitOfWork

section Step

variable (env : Environment) (id : Uuid) (attempt : Attempt)

def attemptSucceeds (row : Instance) : Bool :=
  match collectFrame env id attempt row with
  | none => false
  | some collected =>
    (statements attempt collected.sqlTexts).all attempt.succeeds && attempt.commitSucceeds

-- Decryption, connection or a query failed, so the session was not used.
def failsEarly (row : Instance) : Bool := (collectFrame env id attempt row).isNone

structure Waiting (session : CollectSession) (id : Uuid) (row : Instance)
    (status : InstanceCollectStatus) :
    Prop where
  onInstance : session.rows (.instance id) = Tracked.inSync row
  onStatus : session.rows (.collectStatus id) = Tracked.inSync status ∨
    session.inTransaction = true ∧ session.rows (.collectStatus id) = Tracked.added status

def storedInstance (session : CollectSession) (id : Uuid) : Option Instance :=
  (session.rows (.instance id)).stored

def storedStatus (session : CollectSession) (id : Uuid) : Option InstanceCollectStatus :=
  (session.rows (.collectStatus id)).stored

structure SuccessCommitted (session : CollectSession) (id : Uuid) (attempt : Attempt) : Prop where
  onInstance : ∃ row, storedInstance session id = some row ∧ row.status = .online
  onStatus : ∃ status, storedStatus session id = some status ∧ status.status = .success ∧
    status.lastSuccessAt = some attempt.snapshotTime ∧ status.consecutiveFailures = 0
  onFrame : ∃ frame, StoreAction.insertFrame frame ∈ session.executed ∧
    frame.snapshotFrame.frame = ⟨attempt.frameId, id, attempt.snapshotTime⟩

structure FailureCommitted (session : CollectSession) (id : Uuid) (attempt : Attempt)
    (previousFailures : Int) : Prop where
  onInstance : ∃ row, storedInstance session id = some row ∧ row.status = .collectError
  onStatus : ∃ status, storedStatus session id = some status ∧ status.status = .failed ∧
    status.lastFailureAt = some attempt.snapshotTime ∧
      status.consecutiveFailures = previousFailures + 1

variable {env id attempt} {session : CollectSession} {row : Instance}
    {status : InstanceCollectStatus}

theorem read_waiting (waiting : Waiting session id row status) :
    session.read (.instance id) = some row ∧ session.read (.collectStatus id) = some status := by
  constructor
  · rw [Session.read, waiting.onInstance]
    rfl
  · rw [Session.read]
    rcases waiting.onStatus with kept | ⟨-, fresh⟩
    · rw [kept]
      rfl
    · rw [fresh]
      rfl

theorem collectInstanceSnapshot_waiting (waiting : Waiting session id row status) :
    collectInstanceSnapshot env id attempt session =
      collectLoadedInstance env id attempt row status session := by
  obtain ⟨onInstance, onStatus⟩ := read_waiting waiting
  rw [collectInstanceSnapshot, onInstance, onStatus]

section Rows

variable (onInstance : Instance → Instance)
    (onStatus : InstanceCollectStatus → InstanceCollectStatus)

theorem setRows_instance : (setRows id onInstance onStatus session).rows (.instance id) =
    (session.rows (.instance id)).write onInstance := by
  rw [setRows, Session.rows_write_of_ne _ _ _ (by simp), Session.rows_write_self]

theorem setRows_status : (setRows id onInstance onStatus session).rows (.collectStatus id) =
    (session.rows (.collectStatus id)).write onStatus := by
  rw [setRows, Session.rows_write_self, Session.rows_write_of_ne _ _ _ (by simp)]

theorem setRows_other {entity : Entity} (apart : entity ≠ .instance id)
    (apart' : entity ≠ .collectStatus id) :
    (setRows id onInstance onStatus session).rows entity = session.rows entity := by
  rw [setRows, Session.rows_write_of_ne _ _ _ apart', Session.rows_write_of_ne _ _ _ apart]

theorem setRows_cases (entity : Entity) :
    (setRows id onInstance onStatus session).rows entity = session.rows entity ∨
      ∃ change, (setRows id onInstance onStatus session).rows entity =
        (session.rows entity).write change := by
  by_cases own : entity = .instance id
  · subst own
    exact Or.inr ⟨onInstance, setRows_instance onInstance onStatus⟩
  · by_cases own' : entity = .collectStatus id
    · subst own'
      exact Or.inr ⟨onStatus, setRows_status onInstance onStatus⟩
    · exact Or.inl (setRows_other onInstance onStatus own own')

theorem setRows_add (additions : List StoreAction) :
    (setRows id onInstance onStatus (session.add additions)).rows =
      (setRows id onInstance onStatus session).rows := rfl

theorem setRows_congr {other : CollectSession} (same : other.rows = session.rows) :
    (setRows id onInstance onStatus other).rows = (setRows id onInstance onStatus session).rows := by
  simp only [setRows, Session.write, same]

end Rows

variable (env id attempt session) in
theorem persistFrame_cases (collected : Collected) :
    let outcome := persistFrame env id attempt collected session
    ((statements attempt collected.sqlTexts).all attempt.succeeds && attempt.commitSucceeds) = outcome.1 ∧
      (outcome.1 = true → outcome.2.inTransaction = false ∧
        StoreAction.insertFrame collected.frame ∈ outcome.2.executed ∧
        ∀ entity, outcome.2.rows entity = ((setRows id (fun row => { row with status := .online })
          (markSuccess env attempt collected) session).rows entity).commit) ∧
      (outcome.1 = false → outcome.2.inTransaction = true ∧
        ∀ entity, outcome.2.rows entity = session.rows entity ∨
          ∃ change, outcome.2.rows entity = (session.rows entity).write change) := by
  obtain ⟨rows, -, done, -, opened⟩ :=
    session.execute_spec attempt.succeeds (statements attempt collected.sqlTexts)
  cases executed : session.execute attempt.succeeds (statements attempt collected.sqlTexts) with
  | mk all next =>
      rw [executed] at rows done opened
      have same : next.rows = session.rows := rows
      have isOpen : next.inTransaction = true := opened (by simp [statements, partitionedTables])
      cases all with
      | false =>
          have failing : (statements attempt collected.sqlTexts).all attempt.succeeds = false := by
            simpa using done
          simp [persistFrame, executed, failing, isOpen, same]
      | true =>
          have passing : (statements attempt collected.sqlTexts).all attempt.succeeds = true := by
            simpa using done
          cases commits : attempt.commitSucceeds with
          | true =>
              simp only [persistFrame, executed, passing, commits, Session.commit, if_true]
              refine ⟨rfl, fun _ => ⟨trivial, by simp [setRows], ?_⟩, by simp⟩
              intro entity
              rw [setRows_add, setRows_congr _ _ same]
          | false =>
              simp only [persistFrame, executed, passing, commits, Session.commit]
              refine ⟨rfl, by simp, fun _ => ⟨by simp, ?_⟩⟩
              intro entity
              rw [setRows_add, setRows_congr _ _ same]
              exact setRows_cases _ _ entity

theorem key_collectFrame {collected : Collected}
    (gathered : collectFrame env id attempt row = some collected) :
    collected.frame.snapshotFrame.frame = ⟨attempt.frameId, id, attempt.snapshotTime⟩ := by
  simp only [collectFrame, Option.bind_eq_bind, Option.bind_eq_some_iff,
    Option.some.injEq] at gathered
  obtain ⟨_, _, _, _, _, _, _, _, _, _, rfl⟩ := gathered
  rfl

theorem failInstance_lost (consecutiveFailures : Int)
    (lost : attempt.failureCommitSucceeds = false) :
    (failInstance env id attempt consecutiveFailures session).1 = none := by
  simp [failInstance, markCollectFailed, Session.commit, lost]

variable (env id session) in
theorem failInstance_committed (consecutiveFailures : Int)
    (kept : attempt.failureCommitSucceeds = true) :
    ∃ result next, failInstance env id attempt consecutiveFailures session = (some result, next) ∧
      result.instanceId = id ∧ next.inTransaction = false ∧
      ∀ entity, next.rows entity = ((setRows id (fun row => { row with status := .collectError })
        (markFailed env attempt consecutiveFailures) session.rollback).rows entity).commit := by
  let marked := markCollectFailed env id attempt consecutiveFailures session.rollback
  have done : marked.1 = true := by simp [marked, markCollectFailed, Session.commit, kept]
  refine ⟨{ success := false, instanceId := id, errorMessage := some "采集失败" }, marked.2,
    ?_, rfl, ?_, ?_⟩
  · have same : markCollectFailed env id attempt consecutiveFailures session.rollback = (true, marked.2) :=
      Prod.ext done rfl
    rw [failInstance, same]
  · simp [marked, markCollectFailed, Session.commit, kept]
  · simp [marked, markCollectFailed, Session.commit, kept]

/-- A commit after which every other row is as committed as it was and no transaction is open. -/
structure Advanced (session next : CollectSession) (id : Uuid) : Prop where
  closed : next.inTransaction = false
  others : ∀ entity, entity ≠ .instance id → entity ≠ .collectStatus id →
    next.rows entity = (session.rows entity).commit
  settled : ∀ entity, (next.rows entity).Settled

theorem Advanced.waiting {next : CollectSession} {other : Uuid}
    (advanced : Advanced session next id)
    (apart : other ≠ id) (waiting : Waiting session other row status) :
    Waiting next other row status := by
  have onInstance := advanced.others (.instance other) (by simpa using apart) (by simp)
  have onStatus := advanced.others (.collectStatus other) (by simp) (by simpa using apart)
  rw [waiting.onInstance, Tracked.commit_inSync] at onInstance
  refine ⟨onInstance, Or.inl ?_⟩
  rcases waiting.onStatus with kept | ⟨-, fresh⟩
  · rw [onStatus, kept, Tracked.commit_inSync]
  · rw [onStatus, fresh, Tracked.commit_added]

theorem step_success (waiting : Waiting session id row status)
    (succeeds : attemptSucceeds env id attempt row = true) :
    ∃ result next, collectInstanceSnapshot env id attempt session = (some result, next) ∧
      result.instanceId = id ∧ SuccessCommitted next id attempt ∧ Advanced session next id := by
  rw [collectInstanceSnapshot_waiting waiting, collectLoadedInstance]
  cases gathered : collectFrame env id attempt row with
  | none => simp [attemptSucceeds, gathered] at succeeds
  | some collected =>
      simp only [attemptSucceeds, gathered] at succeeds
      obtain ⟨done, committed, -⟩ := persistFrame_cases env id attempt session collected
      rw [succeeds] at done
      obtain ⟨closed, inserted, rows⟩ := committed done.symm
      cases outcome : persistFrame env id attempt collected session with
      | mk finished next =>
          rw [outcome] at done closed inserted rows
          obtain rfl : true = finished := done
          refine ⟨successResult id attempt collected, next, by simp only [outcome], rfl,
            ⟨?_, ?_, ?_⟩, closed, ?_, ?_⟩
          · refine ⟨{ row with status := .online }, ?_, rfl⟩
            rw [storedInstance, rows, setRows_instance, waiting.onInstance]
            rfl
          · refine ⟨markSuccess env attempt collected status, ?_, rfl, rfl, rfl⟩
            rw [storedStatus, rows, setRows_status]
            rcases waiting.onStatus with kept | ⟨-, fresh⟩
            · rw [kept]
              rfl
            · rw [fresh]
              rfl
          · exact ⟨collected.frame, inserted, key_collectFrame gathered⟩
          · intro entity apart apart'
            rw [rows, setRows_other _ _ apart apart']
          · intro entity
            rw [rows]
            exact Tracked.settled_commit _

variable (session status) in
theorem collectLoadedInstance_failed (fails : attemptSucceeds env id attempt row = false) :
    ∃ broken, collectLoadedInstance env id attempt row status session =
        failInstance env id attempt status.consecutiveFailures broken ∧
      (failsEarly env id attempt row = true → broken = session) ∧
      (failsEarly env id attempt row = false → broken.inTransaction = true) ∧
      ∀ entity, broken.rows entity = session.rows entity ∨
        ∃ change, broken.rows entity = (session.rows entity).write change := by
  cases gathered : collectFrame env id attempt row with
  | none =>
      refine ⟨session, ?_, fun _ => rfl, ?_, fun entity => Or.inl rfl⟩
      · rw [collectLoadedInstance, gathered]
      · simp [failsEarly, gathered]
  | some collected =>
      simp only [attemptSucceeds, gathered] at fails
      obtain ⟨done, -, aborted⟩ := persistFrame_cases env id attempt session collected
      rw [fails] at done
      obtain ⟨isOpen, rows⟩ := aborted done.symm
      cases outcome : persistFrame env id attempt collected session with
      | mk finished next =>
          rw [outcome] at done isOpen rows
          obtain rfl : false = finished := done
          refine ⟨next, ?_, by simp [failsEarly, gathered], fun _ => isOpen, rows⟩
          rw [collectLoadedInstance, gathered]
          simp only [outcome]

theorem step_lost (waiting : Waiting session id row status)
    (fails : attemptSucceeds env id attempt row = false)
    (lost : attempt.failureCommitSucceeds = false) :
    (collectInstanceSnapshot env id attempt session).1 = none := by
  obtain ⟨broken, same, -⟩ := collectLoadedInstance_failed session status fails
  rw [collectInstanceSnapshot_waiting waiting, same]
  exact failInstance_lost _ lost

theorem step_early_failure (waiting : Waiting session id row status)
    (early : failsEarly env id attempt row = true) (closed : session.inTransaction = false)
    (kept : attempt.failureCommitSucceeds = true) :
    ∃ result next, collectInstanceSnapshot env id attempt session = (some result, next) ∧
      result.instanceId = id ∧ FailureCommitted next id attempt status.consecutiveFailures ∧
      Advanced session next id := by
  have gathered : collectFrame env id attempt row = none := by simpa [failsEarly] using early
  obtain ⟨result, next, outcome, sameId, closed', rows⟩ :=
    failInstance_committed env id session status.consecutiveFailures kept
  rw [Session.rollback_closed session closed] at rows
  have onStatus : session.rows (.collectStatus id) = Tracked.inSync status := by
    rcases waiting.onStatus with same | ⟨isOpen, -⟩
    · exact same
    · simp [closed] at isOpen
  refine ⟨result, next, ?_, sameId, ⟨?_, ?_⟩, closed', ?_, ?_⟩
  · rw [collectInstanceSnapshot_waiting waiting, collectLoadedInstance, gathered]
    exact outcome
  · refine ⟨{ row with status := .collectError }, ?_, rfl⟩
    rw [storedInstance, rows, setRows_instance, waiting.onInstance]
    rfl
  · refine ⟨markFailed env attempt status.consecutiveFailures status, ?_, rfl, rfl, rfl⟩
    rw [storedStatus, rows, setRows_status, onStatus]
    rfl
  · intro entity apart apart'
    rw [rows, setRows_other _ _ apart apart']
  · intro entity
    rw [rows]
    exact Tracked.settled_commit _

theorem step_rolled_back (waiting : Waiting session id row status)
    (fails : attemptSucceeds env id attempt row = false)
    (disturbs : session.inTransaction = true ∨ failsEarly env id attempt row = false)
    (kept : attempt.failureCommitSucceeds = true) :
    ∃ result next, collectInstanceSnapshot env id attempt session = (some result, next) ∧
      result.instanceId = id ∧
      (∀ other row', other ≠ id → session.rows (.instance other) = Tracked.inSync row' →
        next.rows (.instance other) = Tracked.expired row') ∧
      (session.rows (.collectStatus id) = Tracked.inSync status →
        FailureCommitted next id attempt status.consecutiveFailures) ∧
      (session.rows (.collectStatus id) = Tracked.added status → storedStatus next id = none) := by
  obtain ⟨broken, same, unused, used, related⟩ := collectLoadedInstance_failed session status fails
  have isOpen : broken.inTransaction = true := by
    cases early : failsEarly env id attempt row with
    | false => exact used early
    | true =>
        rw [unused early]
        simpa [early] using disturbs
  obtain ⟨result, next, outcome, sameId, -, rows⟩ :=
    failInstance_committed env id broken status.consecutiveFailures kept
  rw [Session.rollback_open broken isOpen] at rows
  have expires {entity : Entity} {value : entity.Row}
      (loaded : session.rows entity = Tracked.inSync value) :
      (broken.rows entity).rollback = Tracked.expired value := by
    rcases related entity with unchanged | ⟨change, written⟩
    · rw [unchanged, loaded, Tracked.rollback_inSync]
    · rw [written, loaded, Tracked.rollback_write_inSync]
  refine ⟨result, next, ?_, sameId, ?_, ?_, ?_⟩
  · rw [collectInstanceSnapshot_waiting waiting, same]
    exact outcome
  · intro other row' apart loaded
    rw [rows, setRows_other _ _ (by simpa using apart) (by simp)]
    simp only [expires loaded, Tracked.commit_expired]
  · intro loaded
    refine ⟨⟨{ row with status := .collectError }, ?_, rfl⟩,
      ⟨markFailed env attempt status.consecutiveFailures status, ?_, rfl, rfl, rfl⟩⟩
    · rw [storedInstance, rows, setRows_instance]
      simp only [expires waiting.onInstance]
      rfl
    · rw [storedStatus, rows, setRows_status]
      simp only [expires loaded]
      rfl
  · intro fresh
    rw [storedStatus, rows, setRows_status]
    -- The status row was only added, so the rollback dropped it from the session.
    rcases related (.collectStatus id) with unchanged | ⟨change, written⟩
    · simp only [unchanged, fresh]
      rfl
    · simp only [written, fresh]
      rfl

theorem step_preserves {entity : Entity} (apart : entity ≠ .instance id)
    (apart' : entity ≠ .collectStatus id) :
    Session.Preserves entity session (collectInstanceSnapshot env id attempt session).2 := by
  have marks (onInstance : Instance → Instance)
      (onStatus : InstanceCollectStatus → InstanceCollectStatus)
      (session : CollectSession) :
      Session.Preserves entity session (setRows id onInstance onStatus session) :=
    (Session.Preserves.write apart _).trans (Session.Preserves.write apart' _)
  have failure (consecutiveFailures : Int) (session : CollectSession) :
      Session.Preserves entity session (failInstance env id attempt consecutiveFailures session).2 := by
    have marked : Session.Preserves entity session
        (markCollectFailed env id attempt consecutiveFailures session.rollback).2 :=
      (Session.Preserves.rollback.trans (marks _ _ _)).trans (Session.Preserves.commit _)
    rw [failInstance]
    split <;> simpa [*] using marked
  unfold collectInstanceSnapshot
  split
  next row status _ _ =>
    unfold collectLoadedInstance
    split
    next => exact failure _ _
    next collected _ =>
      have persisted :
          Session.Preserves entity session (persistFrame env id attempt collected session).2 := by
        have executed : Session.Preserves entity session
            (session.execute attempt.succeeds (statements attempt collected.sqlTexts)).2 :=
          Session.Preserves.execute _ _
        rw [persistFrame]
        split
        next => simpa [*] using executed
        next next' run =>
          rw [run] at executed
          exact ((executed.trans (Session.Preserves.add _)).trans (marks _ _ _)).trans
            (Session.Preserves.commit _)
      split
      next => simpa [*] using persisted
      next broken run =>
        rw [run] at persisted
        exact persisted.trans (failure _ _)
  next => exact Session.Preserves.refl _

end Step

section Run

variable (env : Environment) (attempts : Uuid → Attempt)

theorem run_preserves {entity : Entity} (ids : List Uuid) (session : CollectSession)
    (apart : ∀ id ∈ ids, entity ≠ .instance id ∧ entity ≠ .collectStatus id) :
    Session.Preserves entity session (collectPairs env attempts ids session).2 := by
  induction ids generalizing session with
  | nil => exact Session.Preserves.refl session
  | cons id rest ih =>
      have own := apart id (by simp)
      have step :
          Session.Preserves entity session (collectInstanceSnapshot env id (attempts id) session).2 :=
        step_preserves own.1 own.2
      rw [collectPairs]
      split
      next run =>
        rw [run] at step
        exact step
      next result next run =>
        rw [run] at step
        exact step.trans (ih next (fun other member => apart other (List.mem_cons_of_mem _ member)))

theorem successCommitted_of_preserves {session next : CollectSession} {id : Uuid}
    {attempt : Attempt}
    (settled : ∀ entity, (session.rows entity).Settled)
    (preserves : ∀ entity, entity = .instance id ∨ entity = .collectStatus id →
      Session.Preserves entity session next) (committed : SuccessCommitted session id attempt) :
    SuccessCommitted next id attempt where
  onInstance := by
    have same := ((preserves (.instance id) (Or.inl rfl)).stored (settled _)).2
    simpa only [storedInstance, same] using committed.onInstance
  onStatus := by
    have same := ((preserves (.collectStatus id) (Or.inr rfl)).stored (settled _)).2
    simpa only [storedStatus, same] using committed.onStatus
  onFrame := by
    obtain ⟨frame, inserted, key⟩ := committed.onFrame
    exact ⟨frame, (preserves (.instance id) (Or.inl rfl)).executed _ inserted, key⟩

theorem failureCommitted_of_preserves {session next : CollectSession} {id : Uuid}
    {attempt : Attempt}
    {previousFailures : Int} (settled : ∀ entity, (session.rows entity).Settled)
    (preserves : ∀ entity, entity = .instance id ∨ entity = .collectStatus id →
      Session.Preserves entity session next)
    (committed : FailureCommitted session id attempt previousFailures) :
    FailureCommitted next id attempt previousFailures where
  onInstance := by
    have same := ((preserves (.instance id) (Or.inl rfl)).stored (settled _)).2
    simpa only [storedInstance, same] using committed.onInstance
  onStatus := by
    have same := ((preserves (.collectStatus id) (Or.inr rfl)).stored (settled _)).2
    simpa only [storedStatus, same] using committed.onStatus

variable (rowOf : Uuid → Instance) (statusOf : Uuid → InstanceCollectStatus)

def Succeeds (id : Uuid) : Prop := attemptSucceeds env id (attempts id) (rowOf id) = true

def FailsEarly (id : Uuid) : Prop := failsEarly env id (attempts id) (rowOf id) = true

def OutcomeCommitted (session : CollectSession) (id : Uuid) : Prop :=
  (Succeeds env attempts rowOf id → SuccessCommitted session id (attempts id)) ∧
    (¬ Succeeds env attempts rowOf id →
      FailureCommitted session id (attempts id) (statusOf id).consecutiveFailures)

def Isolated (ids : List Uuid) (run : List CollectInstanceResult × CollectSession) : Prop :=
  run.1.map CollectInstanceResult.instanceId = ids ∧
    ∀ id ∈ ids, OutcomeCommitted env attempts rowOf statusOf run.2 id

def Contained (ids : List Uuid) : Prop :=
  (∀ id ∈ ids, ¬ Succeeds env attempts rowOf id → (attempts id).failureCommitSucceeds = true) ∧
    ∀ before id after, ids = before ++ id :: after → after ≠ [] →
      ¬ Succeeds env attempts rowOf id → FailsEarly env attempts rowOf id

variable {env attempts rowOf statusOf}

theorem contained_cons (id : Uuid) (rest : List Uuid) :
    Contained env attempts rowOf (id :: rest) ↔
      (¬ Succeeds env attempts rowOf id → (attempts id).failureCommitSucceeds = true ∧
        (rest ≠ [] → FailsEarly env attempts rowOf id)) ∧ Contained env attempts rowOf rest := by
  constructor
  · intro contained
    obtain ⟨committed, early⟩ := contained
    refine ⟨fun fails =>
      ⟨committed id (by simp) fails, fun more => early [] id rest rfl more fails⟩, ?_, ?_⟩
    · intro other member
      exact committed other (List.mem_cons_of_mem _ member)
    · intro before other after same
      exact early (id :: before) other after (by rw [same]; rfl)
  · intro contained
    obtain ⟨head, committed, early⟩ := contained
    refine ⟨?_, ?_⟩
    · intro other member fails
      rcases List.mem_cons.mp member with same | later
      · subst same
        exact (head fails).1
      · exact committed other later fails
    · intro before other after same more fails
      cases before with
      | nil =>
          simp only [List.nil_append, List.cons.injEq] at same
          obtain ⟨rfl, rfl⟩ := same
          exact (head fails).2 more
      | cons first before =>
          simp only [List.cons_append, List.cons.injEq] at same
          exact early before other after same.2 more fails

theorem isolated_cons {id : Uuid} {rest : List Uuid} {session next : CollectSession}
    {result : CollectInstanceResult} (distinct : (id :: rest).Nodup)
    (step : collectInstanceSnapshot env id (attempts id) session = (some result, next))
    (sameId : result.instanceId = id) (advanced : Advanced session next id)
    (outcome : OutcomeCommitted env attempts rowOf statusOf next id) :
    Isolated env attempts rowOf statusOf (id :: rest) (collectPairs env attempts (id :: rest) session) ↔
      Isolated env attempts rowOf statusOf rest (collectPairs env attempts rest next) := by
  have fresh := (List.nodup_cons.mp distinct).1
  have kept : OutcomeCommitted env attempts rowOf statusOf (collectPairs env attempts rest next).2 id := by
    have preserves : ∀ entity, entity = .instance id ∨ entity = .collectStatus id →
        Session.Preserves entity next (collectPairs env attempts rest next).2 := by
      intro entity own
      apply run_preserves
      intro other member
      have apart : other ≠ id := fun same => fresh (same ▸ member)
      rcases own with same | same <;> subst same <;> simp [Ne.symm apart]
    exact ⟨fun succeeds => successCommitted_of_preserves advanced.settled preserves (outcome.1 succeeds),
      fun fails => failureCommitted_of_preserves advanced.settled preserves (outcome.2 fails)⟩
  have run : collectPairs env attempts (id :: rest) session =
      (result :: (collectPairs env attempts rest next).1, (collectPairs env attempts rest next).2) := by
    rw [collectPairs, step]
  rw [run]
  simp [Isolated, sameId, kept]

variable (rowOf statusOf) in
theorem not_isolated_of_lost {id : Uuid} (rest : List Uuid) {session : CollectSession}
    (lost : (collectInstanceSnapshot env id (attempts id) session).1 = none) :
    ¬ Isolated env attempts rowOf statusOf (id :: rest)
      (collectPairs env attempts (id :: rest) session) := by
  intro isolated
  have results := isolated.1
  cases step : collectInstanceSnapshot env id (attempts id) session with
  | mk outcome next =>
      rw [step] at lost
      obtain rfl : outcome = none := lost
      simp [collectPairs, step] at results

variable (rowOf statusOf) in
theorem not_isolated_of_expired {id other : Uuid} (rest : List Uuid) {session next : CollectSession}
    {result : CollectInstanceResult}
    (step : collectInstanceSnapshot env id (attempts id) session = (some result, next))
    {row : Instance} (expired : next.rows (.instance other) = Tracked.expired row) :
    ¬ Isolated env attempts rowOf statusOf (id :: other :: rest)
      (collectPairs env attempts (id :: other :: rest) session) := by
  have unread : next.read (.instance other) = none := by
    rw [Session.read, expired]
    rfl
  have lost : collectInstanceSnapshot env other (attempts other) next = (none, next) := by
    rw [collectInstanceSnapshot, unread]
  intro isolated
  have results := isolated.1
  simp [collectPairs, step, lost] at results

theorem isolated_single {id : Uuid} {session next : CollectSession} {result : CollectInstanceResult}
    (step : collectInstanceSnapshot env id (attempts id) session = (some result, next))
    (sameId : result.instanceId = id) :
    Isolated env attempts rowOf statusOf [id] (collectPairs env attempts [id] session) ↔
      OutcomeCommitted env attempts rowOf statusOf next id := by
  simp [Isolated, collectPairs, step, sameId]

theorem failed_of_not_succeeds {id : Uuid} (fails : ¬ Succeeds env attempts rowOf id) :
    attemptSucceeds env id (attempts id) (rowOf id) = false := by
  simpa [Succeeds] using fails

theorem step_of_succeeds {id : Uuid} {session : CollectSession}
    (waiting : Waiting session id (rowOf id) (statusOf id))
    (succeeds : Succeeds env attempts rowOf id) :
    ∃ result next, collectInstanceSnapshot env id (attempts id) session = (some result, next) ∧
      result.instanceId = id ∧ Advanced session next id ∧
      OutcomeCommitted env attempts rowOf statusOf next id := by
  obtain ⟨result, next, step, sameId, committed, advanced⟩ := step_success waiting succeeds
  exact ⟨result, next, step, sameId, advanced, fun _ => committed,
    fun fails => absurd succeeds fails⟩

theorem Advanced.waiting_rest {id : Uuid} {rest : List Uuid} {session next : CollectSession}
    (advanced : Advanced session next id) (distinct : (id :: rest).Nodup)
    (waiting : ∀ other ∈ id :: rest, Waiting session other (rowOf other) (statusOf other)) :
    ∀ other ∈ rest, Waiting next other (rowOf other) (statusOf other) := by
  intro other member
  have apart : other ≠ id := fun same => (List.nodup_cons.mp distinct).1 (same ▸ member)
  exact advanced.waiting apart (waiting other (List.mem_cons_of_mem _ member))

theorem not_isolated_of_rolled_back {id other : Uuid} {rest : List Uuid}
    {session next : CollectSession} {result : CollectInstanceResult}
    (step : collectInstanceSnapshot env id (attempts id) session = (some result, next))
    (expired : ∀ other row, other ≠ id → session.rows (.instance other) = Tracked.inSync row →
      next.rows (.instance other) = Tracked.expired row)
    (distinct : (id :: other :: rest).Nodup)
    (waiting : Waiting session other (rowOf other) (statusOf other)) :
    ¬ Isolated env attempts rowOf statusOf (id :: other :: rest)
      (collectPairs env attempts (id :: other :: rest) session) := by
  have apart : other ≠ id := fun same => (List.nodup_cons.mp distinct).1 (by simp [same])
  exact not_isolated_of_expired rowOf statusOf rest step
    (expired other (rowOf other) apart waiting.onInstance)

theorem isolated_closed_iff (ids : List Uuid) (distinct : ids.Nodup) (session : CollectSession)
    (closed : session.inTransaction = false)
    (waiting : ∀ id ∈ ids, Waiting session id (rowOf id) (statusOf id)) :
    Isolated env attempts rowOf statusOf ids (collectPairs env attempts ids session) ↔
      Contained env attempts rowOf ids := by
  induction ids generalizing session with
  | nil => simp [Isolated, collectPairs, Contained]
  | cons id rest ih =>
      have first := waiting id (by simp)
      rw [contained_cons]
      -- After a commit the induction hypothesis covers the rest of the list.
      have later {result : CollectInstanceResult} {next : CollectSession}
          (step : collectInstanceSnapshot env id (attempts id) session = (some result, next))
          (sameId : result.instanceId = id) (advanced : Advanced session next id)
          (outcome : OutcomeCommitted env attempts rowOf statusOf next id) :
          Isolated env attempts rowOf statusOf (id :: rest)
              (collectPairs env attempts (id :: rest) session) ↔
            Contained env attempts rowOf rest := by
        rw [isolated_cons distinct step sameId advanced outcome]
        exact ih (List.nodup_cons.mp distinct).2 next advanced.closed
          (advanced.waiting_rest distinct waiting)
      by_cases succeeds : Succeeds env attempts rowOf id
      · obtain ⟨result, next, step, sameId, advanced, outcome⟩ := step_of_succeeds first succeeds
        simp [later step sameId advanced outcome, succeeds]
      · have fails := failed_of_not_succeeds succeeds
        cases kept : (attempts id).failureCommitSucceeds with
        | false =>
            have lost := not_isolated_of_lost rowOf statusOf rest (step_lost first fails kept)
            simp [lost, succeeds]
        | true =>
            by_cases early : FailsEarly env attempts rowOf id
            · obtain ⟨result, next, step, sameId, committed, advanced⟩ :=
                step_early_failure first early closed kept
              rw [later step sameId advanced ⟨fun done => absurd done succeeds, fun _ => committed⟩]
              simp [early]
            · have used : failsEarly env id (attempts id) (rowOf id) = false := by
                simpa [FailsEarly] using early
              obtain ⟨result, next, step, sameId, expired, committed, -⟩ :=
                step_rolled_back first fails (Or.inr used) kept
              have loaded : session.rows (.collectStatus id) = Tracked.inSync (statusOf id) := by
                rcases first.onStatus with same | ⟨isOpen, -⟩
                · exact same
                · simp [closed] at isOpen
              cases rest with
              | nil =>
                  rw [isolated_single step sameId]
                  simp [OutcomeCommitted, succeeds, committed loaded, Contained]
              | cons other more =>
                  have aborted := not_isolated_of_rolled_back step expired distinct
                    (waiting other (by simp))
                  simp [aborted, succeeds, early]

theorem isolated_open_iff {id : Uuid} {rest : List Uuid} (distinct : (id :: rest).Nodup)
    {session : CollectSession} (isOpen : session.inTransaction = true)
    (waiting : ∀ other ∈ id :: rest, Waiting session other (rowOf other) (statusOf other)) :
    Isolated env attempts rowOf statusOf (id :: rest) (collectPairs env attempts (id :: rest) session) ↔
      (¬ Succeeds env attempts rowOf id → (attempts id).failureCommitSucceeds = true ∧ rest = [] ∧
        session.rows (.collectStatus id) = Tracked.inSync (statusOf id)) ∧
          Contained env attempts rowOf rest := by
  have first := waiting id (by simp)
  by_cases succeeds : Succeeds env attempts rowOf id
  · obtain ⟨result, next, step, sameId, advanced, outcome⟩ := step_of_succeeds first succeeds
    rw [isolated_cons distinct step sameId advanced outcome]
    have rest_iff : Isolated env attempts rowOf statusOf rest (collectPairs env attempts rest next) ↔
        Contained env attempts rowOf rest :=
      isolated_closed_iff rest (List.nodup_cons.mp distinct).2 next advanced.closed
        (advanced.waiting_rest distinct waiting)
    simp [rest_iff, succeeds]
  · have fails := failed_of_not_succeeds succeeds
    cases kept : (attempts id).failureCommitSucceeds with
    | false =>
        have lost := not_isolated_of_lost rowOf statusOf rest (step_lost first fails kept)
        simp [lost, succeeds]
    | true =>
        obtain ⟨result, next, step, sameId, expired, committed, dropped⟩ :=
          step_rolled_back first fails (Or.inl isOpen) kept
        cases rest with
        | nil =>
            rw [isolated_single step sameId]
            rcases first.onStatus with loaded | ⟨-, fresh⟩
            · simp [OutcomeCommitted, succeeds, committed loaded, Contained, loaded]
            · have unstored : ¬ OutcomeCommitted env attempts rowOf statusOf next id := by
                intro outcome
                obtain ⟨status, stored, -⟩ := (outcome.2 succeeds).onStatus
                simp [dropped fresh] at stored
              simp [unstored, succeeds, fresh, Tracked.added, Tracked.inSync]
        | cons other more =>
            have aborted := not_isolated_of_rolled_back step expired distinct
              (waiting other (by simp))
            simp [aborted, succeeds]

end Run

section Cycle

def databaseRow (database : Database) (id : Uuid) : Instance := (database.instance? id).getD default

def databaseStatus (database : Database) (id : Uuid) : InstanceCollectStatus :=
  (database.collectStatuses id).getD (newCollectStatus id)

theorem listedInstances_perm (database : Database) : (listedInstances database).Perm
    (database.instances.filter (fun row => row.status ≠ .disabled)) :=
  List.perm_insertionSort _ _

theorem selectedIds_nodup (database : Database) (instanceId : Option Uuid) :
    (selectedIds database instanceId).Nodup := by
  apply List.Nodup.filter
  apply (((listedInstances_perm database).map Instance.id).nodup_iff).mpr
  exact database.distinct.sublist (List.filter_sublist.map _)

theorem waiting_of_selected (database : Database) (instanceId : Option Uuid) {id : Uuid}
    (member : id ∈ selectedIds database instanceId) :
    Waiting (listCollectableInstances database).2 id (databaseRow database id)
      (databaseStatus database id) := by
  have listed : id ∈ (listedInstances database).map Instance.id := (List.mem_filter.mp member).1
  obtain ⟨row, present, same⟩ := List.mem_map.mp listed
  have stored := (List.mem_filter.mp ((listedInstances_perm database).mem_iff.mp present)).1
  have found : ∃ first, database.instance? id = some first := by
    apply Option.isSome_iff_exists.mp
    rw [Database.instance?, List.find?_isSome]
    exact ⟨row, stored, by simpa using same⟩
  obtain ⟨first, found⟩ := found
  refine ⟨?_, ?_⟩
  · simp only [listCollectableInstances, found, listed, if_true, databaseRow, Option.getD_some]
  · simp only [listCollectableInstances, listed, if_true, getOrCreateCollectStatus, databaseStatus]
    cases database.collectStatuses id with
    | none => exact Or.inr ⟨trivial, rfl⟩
    | some status => exact Or.inl rfl

theorem status_loaded_iff (database : Database) (instanceId : Option Uuid) {id : Uuid}
    (member : id ∈ selectedIds database instanceId) :
    (listCollectableInstances database).2.rows (.collectStatus id) =
      Tracked.inSync (databaseStatus database id) ↔
        ∃ status, database.collectStatuses id = some status := by
  have listed : id ∈ (listedInstances database).map Instance.id := (List.mem_filter.mp member).1
  simp only [listCollectableInstances, listed, if_true, getOrCreateCollectStatus, databaseStatus]
  cases database.collectStatuses id with
  | none => simp [Tracked.added, Tracked.inSync]
  | some status => simp

variable (env : Environment) (attempts : Uuid → Attempt)

/-- The failures of a cycle that do not reach beyond their own instance. -/
structure HarmlessFailures (database : Database) (instanceId : Option Uuid) : Prop where
  committed : ∀ id ∈ selectedIds database instanceId,
    ¬ Succeeds env attempts (databaseRow database) id →
    (attempts id).failureCommitSucceeds = true
  early : ∀ before id after, selectedIds database instanceId = before ++ id :: after → after ≠ [] →
    ¬ Succeeds env attempts (databaseRow database) id →
      before ≠ [] ∧ FailsEarly env attempts (databaseRow database) id
  alone : ∀ id, selectedIds database instanceId = [id] →
    ¬ Succeeds env attempts (databaseRow database) id →
      ∃ status, database.collectStatuses id = some status

theorem harmlessFailures_cons {database : Database} {instanceId : Option Uuid} {id : Uuid}
    {rest : List Uuid}
    (selected : selectedIds database instanceId = id :: rest) :
    HarmlessFailures env attempts database instanceId ↔
      (¬ Succeeds env attempts (databaseRow database) id →
        (attempts id).failureCommitSucceeds = true ∧
        rest = [] ∧ ∃ status, database.collectStatuses id = some status) ∧
          Contained env attempts (databaseRow database) rest := by
  constructor
  · intro harmless
    obtain ⟨committed, early, alone⟩ := harmless
    rw [selected] at committed early alone
    refine ⟨?_, ?_, ?_⟩
    · intro fails
      have last : rest = [] := by
        by_contra more
        exact (early [] id rest rfl more fails).1 rfl
      exact ⟨committed id (by simp) fails, last, alone id (by rw [last]) fails⟩
    · intro other member
      exact committed other (List.mem_cons_of_mem _ member)
    · intro before other after same more fails
      exact (early (id :: before) other after (by rw [same]; rfl) more fails).2
  · intro split
    obtain ⟨first, committed, early⟩ := split
    refine ⟨?_, ?_, ?_⟩
    · rw [selected]
      intro other member fails
      rcases List.mem_cons.mp member with same | later
      · subst same
        exact (first fails).1
      · exact committed other later fails
    · rw [selected]
      intro before other after same more fails
      cases before with
      | nil =>
          simp only [List.nil_append, List.cons.injEq] at same
          obtain ⟨rfl, rfl⟩ := same
          exact absurd (first fails).2.1 more
      | cons head before =>
          simp only [List.cons_append, List.cons.injEq] at same
          exact ⟨by simp, early before other after same.2 more fails⟩
    · rw [selected]
      intro other same fails
      simp only [List.cons.injEq] at same
      obtain ⟨rfl, -⟩ := same
      exact (first fails).2.2

theorem collectInstancesOnce_isolated_iff (database : Database) (instanceId : Option Uuid) :
    Isolated env attempts (databaseRow database) (databaseStatus database) (selectedIds database instanceId)
      (collectInstancesOnce env attempts database instanceId) ↔
        HarmlessFailures env attempts database instanceId := by
  have distinct := selectedIds_nodup database instanceId
  have waiting := fun id (member : id ∈ selectedIds database instanceId) =>
    waiting_of_selected database instanceId member
  have loaded := fun id (member : id ∈ selectedIds database instanceId) =>
    status_loaded_iff database instanceId member
  rw [collectInstancesOnce]
  cases selected : selectedIds database instanceId with
  | nil =>
      have none_listed : HarmlessFailures env attempts database instanceId :=
        ⟨by simp [selected], by simp [selected], by simp [selected]⟩
      simp [Isolated, collectPairs, none_listed]
  | cons id rest =>
      rw [selected] at distinct waiting loaded
      rw [isolated_open_iff distinct rfl waiting, harmlessFailures_cons env attempts selected,
        loaded id (by simp)]

def twoInstances : Database where
  instances := [⟨1, "first", .online, 1⟩, ⟨2, "second", .online, 2⟩]
  collectStatuses := fun id => some (newCollectStatus id)
  distinct := by decide

def unreachableFirst (id : Uuid) : Attempt where
  snapshotTime := 10
  finishedAt := 11
  failedAt := 11
  frameId := 100 + id
  decryptConnectionString := some
  clientFactory := fun connection =>
    if connection = "first" then none else some ⟨some [], some [], none⟩
  succeeds := fun _ => true
  commitSucceeds := true
  failureCommitSucceeds := true

def plainEnvironment : Environment := ⟨⟨id, id, fun text _ => text⟩, fun span => span.tdiv 1000⟩

theorem second_instance_not_attempted :
    ¬ Isolated plainEnvironment unreachableFirst (databaseRow twoInstances) (databaseStatus twoInstances)
      (selectedIds twoInstances none)
      (collectInstancesOnce plainEnvironment unreachableFirst twoInstances none) := by
  intro isolated
  have results : (collectInstancesOnce plainEnvironment unreachableFirst twoInstances none).1.map
      CollectInstanceResult.instanceId = [1] := by decide
  have selected : selectedIds twoInstances none = [1, 2] := by decide
  have attempted := isolated.1
  rw [results, selected] at attempted
  simp at attempted

end Cycle

end SqlMonitor.Collector
