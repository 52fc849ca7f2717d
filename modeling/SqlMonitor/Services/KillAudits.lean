import SqlMonitor.Services.Kill

set_option autoImplicit false

namespace SqlMonitor.Services

open SnapshotRepository

section Store

/-- The committed audits, which further ones the database takes, and which it reads back. -/
structure KillAuditStore where
  rows : List KillAudit
  commits : KillAudit → Bool
  refreshes : KillAudit → Bool

-- What is committed stays so when the refresh that follows raises.
def KillAuditStore.writeKillAudit (store : KillAuditStore) (audit : KillAudit) :
    KillAuditStore × Option KillAudit :=
  if store.commits audit then
    ({ store with rows := store.rows ++ [audit] },
      if store.refreshes audit then some audit else none)
  else (store, none)

structure KillEffects where
  executorCalls : List (Uuid × Int)
  audits : KillAuditStore
  reply : KillReply

variable (surroundings : KillSurroundings) (store : KillAuditStore)

def answerAudited (executorCalls : List (Uuid × Int)) (audit : KillAudit)
    (answer : KillResponse → KillReply) : KillEffects :=
  match store.writeKillAudit audit with
  | (audits, some row) => ⟨executorCalls, audits, answer (killResponse row)⟩
  | (audits, none) => ⟨executorCalls, audits, .raised⟩

/-- The row that `kill_session` writes when the attempt is over. -/
def sessionAudit (target : KillTarget) (reason : String) (operator : User) : KillAudit :=
  killAudit surroundings target reason operator
    (killResult (attemptKill surroundings target reason).2)

def killSessionIn (target : KillTarget) (reason : String) (operator : User) : KillEffects :=
  answerAudited store (attemptKill surroundings target reason).1
    (sessionAudit surroundings target reason operator) .response

def auditRejectedKillRequestIn (request : KillRequest) (operator : User) (errorMessage : String)
    (answer : KillResponse → KillReply) : KillEffects :=
  answerAudited store []
    (killAudit surroundings
      { instanceId := request.instanceId, sessionId := request.sessionId, loginName := none,
        status := none, openTransactionCount := 0 }
      request.reason operator (.rejected, some errorMessage)) answer

def killTargetOrRejectIn (request : KillRequest) (user : User) : Option KillTarget → KillEffects
  | none =>
    auditRejectedKillRequestIn surroundings store request user "SESSION_NOT_FOUND" fun response =>
      .httpError 404 response.errorMessage
  | some target => killSessionIn surroundings store target request.reason user

def postKillIn (hasInstance : Uuid → Bool) (tables : SnapshotTables) (request : KillRequest)
    (user : User) : KillEffects :=
  if user.role ∉ killRoles then ⟨[], store, .httpError 403 (some "当前用户无权执行该操作")⟩
  else if ! hasInstance request.instanceId then
    ⟨[], store, .httpError 404 (some "INSTANCE_NOT_FOUND")⟩
  else
    killTargetOrRejectIn surroundings store request user
      (buildKillTarget tables request.instanceId request.sessionId)

end Store

section Written

variable {surroundings : KillSurroundings} {store : KillAuditStore} {audit : KillAudit}
  {executorCalls : List (Uuid × Int)} {answer : KillResponse → KillReply}

def KillAuditStore.Succeeds (store : KillAuditStore) : Prop :=
  ∀ audit, store.commits audit = true ∧ store.refreshes audit = true

/-- The row tells of a request of the operator. -/
structure KillAudit.Records (audit : KillAudit) (operator : User) (instanceId : Uuid)
    (sessionId : Int) (reason : String) : Prop where
  operatorUserId : audit.operatorUserId = some operator.id
  instanceId : audit.instanceId = instanceId
  sessionId : audit.sessionId = sessionId
  reason : audit.reason = reason

def KillAuditStore.Tells (store : KillAuditStore) (operator : User) (instanceId : Uuid)
    (sessionId : Int) (reason : String) : Prop :=
  ∃ audit ∈ store.rows, audit.Records operator instanceId sessionId reason

theorem records_killAudit {target : KillTarget} {reason : String} {operator : User}
    {result : KillResult × Option String} :
    (killAudit surroundings target reason operator result).Records operator target.instanceId
      target.sessionId reason :=
  ⟨rfl, rfl, rfl, rfl⟩

@[simp] theorem executorCalls_answerAudited :
    (answerAudited store executorCalls audit answer).executorCalls = executorCalls := by
  unfold answerAudited
  split <;> rfl

theorem rows_answerAudited :
    (answerAudited store executorCalls audit answer).audits.rows =
      if store.commits audit then store.rows ++ [audit] else store.rows := by
  unfold answerAudited KillAuditStore.writeKillAudit
  by_cases commits : store.commits audit = true
  · cases store.refreshes audit <;> simp [commits]
  · simp [commits]

theorem answerAudited_of_succeeds (succeeds : store.Succeeds) :
    answerAudited store executorCalls audit answer =
      ⟨executorCalls, { store with rows := store.rows ++ [audit] }, answer (killResponse audit)⟩ := by
  obtain ⟨commits, refreshes⟩ := succeeds audit
  simp [answerAudited, KillAuditStore.writeKillAudit, commits, refreshes]

/-- What the store makes of an outcome that was computed without one. -/
def KillAuditStore.take (store : KillAuditStore) (outcome : KillOutcome) : KillEffects :=
  ⟨outcome.executorCalls, { store with rows := store.rows ++ outcome.audit.toList }, outcome.reply⟩

theorem killTargetOrRejectIn_of_succeeds (succeeds : store.Succeeds)
    (writes : surroundings.auditWrites = true) (request : KillRequest) (user : User)
    (target : Option KillTarget) :
    killTargetOrRejectIn surroundings store request user target =
      store.take (killTargetOrReject surroundings request user target) := by
  cases target with
  | none =>
      simp [killTargetOrRejectIn, auditRejectedKillRequestIn, answerAudited_of_succeeds succeeds,
        killTargetOrReject, auditRejectedKillRequest, writeKillAudit, writes, KillAuditStore.take]
  | some target =>
      simp [killTargetOrRejectIn, killSessionIn, answerAudited_of_succeeds succeeds, sessionAudit,
        killTargetOrReject, killSession, writeKillAudit, writes, KillAuditStore.take]

theorem postKillIn_of_succeeds (succeeds : store.Succeeds)
    (writes : surroundings.auditWrites = true) (hasInstance : Uuid → Bool)
    (tables : SnapshotTables) (request : KillRequest) (user : User) :
    postKillIn surroundings store hasInstance tables request user =
      store.take (postKill surroundings hasInstance tables request user) := by
  unfold postKillIn postKill
  split_ifs with role known
  · simp [KillAuditStore.take]
  · exact killTargetOrRejectIn_of_succeeds succeeds writes request user _
  · simp [KillAuditStore.take]

end Written

section Executed

variable (surroundings : KillSurroundings) (store : KillAuditStore) (target : KillTarget)
  (operator : User)

theorem executorCalls_killSessionIn (reason : String) :
    (killSessionIn surroundings store target reason operator).executorCalls =
      if validateKillTarget surroundings.mapping target reason surroundings.minKillableSessionId =
        .ok () then [(target.instanceId, target.sessionId)] else [] := by
  rw [killSessionIn, executorCalls_answerAudited, attemptKill]
  cases validateKillTarget surroundings.mapping target reason surroundings.minKillableSessionId with
  | ok => simp
  | error exc => simp

theorem tells_killSessionIn (reason : String) :
    (killSessionIn surroundings store target reason operator).audits.Tells operator
        target.instanceId target.sessionId reason ↔
      store.commits (sessionAudit surroundings target reason operator) = true ∨
        store.Tells operator target.instanceId target.sessionId reason := by
  unfold KillAuditStore.Tells
  rw [killSessionIn, rows_answerAudited]
  by_cases commits : store.commits (sessionAudit surroundings target reason operator) = true
  · have recorded : (sessionAudit surroundings target reason operator).Records operator
        target.instanceId target.sessionId reason := records_killAudit
    simp only [commits, if_true, true_or, iff_true]
    exact ⟨_, List.mem_append_right _ (List.mem_singleton.mpr rfl), recorded⟩
  · simp only [commits, Bool.false_eq_true, if_false, false_or]

end Executed

section Table

-- PostgreSQL stores no null character, neither in a text nor in a document.
def storable (text : String) : Bool := Char.ofNat 0 ∉ text.toList

def isPostgresInteger (value : Int) : Bool := -2 ^ 31 ≤ value ∧ value < 2 ^ 31

def BeforeSnapshot.texts (snapshot : BeforeSnapshot) : List String :=
  [snapshot.loginName, snapshot.status, snapshot.hostName, snapshot.programName,
    snapshot.databaseName, snapshot.currentSqlHash, snapshot.currentSqlPreview,
    snapshot.waitType].reduceOption

def KillAudit.texts (audit : KillAudit) : List String :=
  audit.operatorName :: audit.reason :: audit.errorMessage.toList ++ audit.beforeSnapshot.texts

/-- `kill_audits`, the instances its foreign key looks up, and the server at the commit. -/
structure KillAuditTable where
  rows : List KillAudit
  instances : Uuid → Bool
  serverCommits : Bool
  refreshes : KillAudit → Bool

-- The primary key, the foreign key, and the types of the columns.
def KillAuditTable.takes (table : KillAuditTable) (audit : KillAudit) : Bool :=
  table.serverCommits && table.rows.all (·.id ≠ audit.id) && table.instances audit.instanceId &&
    audit.operatorName.length ≤ 128 && isPostgresInteger audit.sessionId &&
    audit.texts.all storable

def KillAuditTable.store (table : KillAuditTable) : KillAuditStore :=
  ⟨table.rows, table.takes, table.refreshes⟩

structure StorableKill (surroundings : KillSurroundings) (table : KillAuditTable)
    (target : KillTarget) (reason : String) (operator : User) : Prop where
  serverCommits : table.serverCommits = true
  newId : ∀ row ∈ table.rows, row.id ≠ surroundings.auditId
  knownInstance : table.instances target.instanceId = true
  sessionId : -2 ^ 31 ≤ target.sessionId ∧ target.sessionId < 2 ^ 31
  operatorName : (operatorName surroundings operator).length ≤ 128 ∧
    Char.ofNat 0 ∉ (operatorName surroundings operator).toList
  reason : Char.ofNat 0 ∉ reason.toList
  targetTexts : ∀ text ∈ target.beforeSnapshot.texts, Char.ofNat 0 ∉ text.toList
  -- An executor may raise the exception of the guards, with a code of its own.
  raisedCode : ∀ code, surroundings.executor target.instanceId target.sessionId =
    .error (.rejected code) → Char.ofNat 0 ∉ code.toList

variable (surroundings : KillSurroundings) (table : KillAuditTable) (target : KillTarget)
  (request : KillRequest) (operator : User)

theorem storable_iff {text : String} : storable text = true ↔ Char.ofNat 0 ∉ text.toList := by
  simp [storable]

theorem texts_storable_iff (audit : KillAudit) :
    (∀ text ∈ audit.texts, Char.ofNat 0 ∉ text.toList) ↔
      Char.ofNat 0 ∉ audit.operatorName.toList ∧ Char.ofNat 0 ∉ audit.reason.toList ∧
        (∀ text ∈ audit.errorMessage, Char.ofNat 0 ∉ text.toList) ∧
          ∀ text ∈ audit.beforeSnapshot.texts, Char.ofNat 0 ∉ text.toList := by
  simp [KillAudit.texts, or_imp, forall_and]

theorem takes_iff (audit : KillAudit) :
    table.takes audit = true ↔
      table.serverCommits = true ∧ (∀ row ∈ table.rows, row.id ≠ audit.id) ∧
        table.instances audit.instanceId = true ∧ audit.operatorName.length ≤ 128 ∧
          (-2 ^ 31 ≤ audit.sessionId ∧ audit.sessionId < 2 ^ 31) ∧
            ∀ text ∈ audit.texts, Char.ofNat 0 ∉ text.toList := by
  simp [KillAuditTable.takes, isPostgresInteger, storable_iff, and_assoc]

variable {surroundings target} in
theorem errorMessage_storable_iff {reason : String}
    (passes : validateKillTarget surroundings.mapping target reason
      surroundings.minKillableSessionId = .ok ()) :
    (∀ text ∈ (killResult (attemptKill surroundings target reason).2).2,
        Char.ofNat 0 ∉ text.toList) ↔
      ∀ code, surroundings.executor target.instanceId target.sessionId =
        .error (.rejected code) → Char.ofNat 0 ∉ code.toList := by
  simp only [attemptKill, passes]
  cases surroundings.executor target.instanceId target.sessionId with
  | ok => simp [killResult]
  | error exc =>
      cases exc with
      | rejected code => simp [killResult]
      | other exc =>
          have fixed : Char.ofNat 0 ∉ safeExecutionErrorMessage.toList := by decide
          simpa [killResult] using fixed

theorem takes_sessionAudit_iff {reason : String}
    (passes : validateKillTarget surroundings.mapping target reason
      surroundings.minKillableSessionId = .ok ()) :
    table.takes (sessionAudit surroundings target reason operator) = true ↔
      StorableKill surroundings table target reason operator := by
  have message := @errorMessage_storable_iff surroundings target reason passes
  constructor
  · intro takes
    obtain ⟨serverCommits, newId, knownInstance, short, sessionId, texts⟩ :=
      (takes_iff table _).mp takes
    obtain ⟨named, reasoned, raised, targetTexts⟩ := (texts_storable_iff _).mp texts
    exact ⟨serverCommits, newId, knownInstance, sessionId, ⟨short, named⟩, reasoned, targetTexts,
      message.mp raised⟩
  · intro fits
    refine (takes_iff table _).mpr ⟨fits.serverCommits, fits.newId, fits.knownInstance,
      fits.operatorName.1, fits.sessionId, (texts_storable_iff _).mpr ?_⟩
    exact ⟨fits.operatorName.2, fits.reason, message.mpr fits.raisedCode, fits.targetTexts⟩

theorem executed_kill_audited_iff :
    ((killSessionIn surroundings table.store target request.reason operator).executorCalls ≠ [] →
        (killSessionIn surroundings table.store target request.reason operator).audits.Tells
          operator target.instanceId target.sessionId request.reason) ↔
      (validateKillTarget surroundings.mapping target request.reason
          surroundings.minKillableSessionId = .ok () →
        StorableKill surroundings table target request.reason operator ∨
          ∃ audit ∈ table.rows, audit.Records operator target.instanceId target.sessionId
            request.reason) := by
  have executed : (killSessionIn surroundings table.store target request.reason
      operator).executorCalls ≠ [] ↔ validateKillTarget surroundings.mapping target request.reason
        surroundings.minKillableSessionId = .ok () := by
    rw [executorCalls_killSessionIn]
    split <;> simp_all
  rw [executed, tells_killSessionIn]
  refine imp_congr_right fun passes => or_congr ?_ Iff.rfl
  exact takes_sessionAudit_iff surroundings table target operator passes

def emptyAudits : KillAuditTable := ⟨[], fun _ => true, true, fun _ => true⟩

def ordersTarget : KillTarget where
  instanceId := 7
  sessionId := 60
  loginName := some "orders"
  status := some "running"
  openTransactionCount := 1

theorem nulReason_nonempty :
    String.ofList ("blocks the nightly load".toList ++ [Char.ofNat 0]) ≠ "" := by decide

def nulRequest : KillRequest :=
  { killRequest with
    reason := String.ofList ("blocks the nightly load".toList ++ [Char.ofNat 0])
    nonempty := nulReason_nonempty }

theorem executed_kill_unaudited :
    let effects :=
      killSessionIn killSurroundings emptyAudits.store ordersTarget nulRequest.reason dbaUser
    effects.executorCalls = [(7, 60)] ∧ effects.reply = .raised ∧
      ¬ effects.audits.Tells dbaUser 7 60 nulRequest.reason := by
  refine ⟨by decide, by decide, ?_⟩
  intro told
  obtain ⟨audit, member, -⟩ := told
  have rows : (killSessionIn killSurroundings emptyAudits.store ordersTarget nulRequest.reason
      dbaUser).audits.rows = [] := by decide
  simp [rows] at member

end Table

section Gating

variable (surroundings : KillSurroundings) (target : KillTarget) (reason : String)

-- The guards in the order in which they are asked, each with the code of its refusal.
def guards : List (Bool × String) :=
  [(isReason reason, "REASON_TOO_SHORT"),
    (decide (surroundings.minKillableSessionId < target.sessionId), "SYSTEM_SESSION"),
    (! isPlatformAccount surroundings.mapping target.loginName, "PLATFORM_ACCOUNT"),
    (! isTerminal surroundings.mapping target.status, "SESSION_TERMINATING")]

def firstFailing : Option String :=
  ((guards surroundings target reason).find? fun guard => ! guard.1).map Prod.snd

theorem validateKillTarget_eq :
    validateKillTarget surroundings.mapping target reason surroundings.minKillableSessionId =
      match firstFailing surroundings target reason with
      | none => .ok ()
      | some code => .error (.rejected code) := by
  unfold validateKillTarget firstFailing guards
  split_ifs with short system platform terminating <;> simp_all

/-- What the request is told and what its audit tells, once the first failing guard is known. -/
def gatedResult : KillResult × Option String :=
  match firstFailing surroundings target reason with
  | some code => (.rejected, some code)
  | none =>
    match surroundings.executor target.instanceId target.sessionId with
    | .ok () => (.success, none)
    | .error _ => (.failed, some "KILL_EXECUTION_FAILED")

def ForeignRaise (outcome : Except KillException Unit) : Prop :=
  ∃ exc, outcome = .error (.other exc)

variable {surroundings target reason}

theorem killResult_attemptKill
    (foreign : ∀ code, surroundings.executor target.instanceId target.sessionId ≠
      .error (.rejected code)) :
    killResult (attemptKill surroundings target reason).2 =
      gatedResult surroundings target reason := by
  unfold gatedResult
  rw [attemptKill, validateKillTarget_eq]
  cases failing : firstFailing surroundings target reason with
  | some code => rfl
  | none =>
      cases executed : surroundings.executor target.instanceId target.sessionId with
      | ok => simp [killResult]
      | error exc =>
          cases exc with
          | rejected code => exact absurd executed (foreign code)
          | other exc => simp [killResult, safeExecutionErrorMessage]

variable (reason) in
theorem attemptKill_silent {executor : KillExecutor}
    (raises : ForeignRaise (surroundings.executor target.instanceId target.sessionId))
    (other : ForeignRaise (executor target.instanceId target.sessionId)) :
    (attemptKill { surroundings with executor } target reason).1 =
        (attemptKill surroundings target reason).1 ∧
      killResult (attemptKill { surroundings with executor } target reason).2 =
        killResult (attemptKill surroundings target reason).2 := by
  obtain ⟨exc, raised⟩ := raises
  obtain ⟨exc', raised'⟩ := other
  unfold attemptKill
  cases validateKillTarget surroundings.mapping target reason
    surroundings.minKillableSessionId with
  | ok => exact ⟨rfl, by simp only [raised, raised', killResult]⟩
  | error guard => exact ⟨rfl, rfl⟩

end Gating

section Agreement

variable (surroundings : KillSurroundings) (store : KillAuditStore)

structure GatedKill (target : KillTarget) (reason : String) (operator : User)
    (effects : KillEffects) : Prop where
  called : effects.executorCalls =
    if 10 ≤ (strip reason.toList).length ∧
        surroundings.minKillableSessionId < target.sessionId ∧
        surroundings.mapping.lower (strip (target.loginName.getD "").toList) ∉
          ["sqlmon_collect".toList, "sqlmon_kill".toList] ∧
        ¬ "KILLED".toList <:+: surroundings.mapping.upper (target.status.getD "").toList ∧
        ¬ "ROLLBACK".toList <:+: surroundings.mapping.upper (target.status.getD "").toList
      then [(target.instanceId, target.sessionId)] else []
  audited : ∃ audit body, effects.audits.rows = store.rows ++ [audit] ∧
    audit.Records operator target.instanceId target.sessionId reason ∧
    (audit.result, audit.errorMessage) = gatedResult surroundings target reason ∧
    effects.reply = .response body ∧ body.result = audit.result ∧
    body.errorMessage = audit.errorMessage
  -- Whatever else an executor raises leaves the same audits and the same answer.
  silent : ∀ executor : KillExecutor,
    ForeignRaise (surroundings.executor target.instanceId target.sessionId) →
    ForeignRaise (executor target.instanceId target.sessionId) →
    killSessionIn { surroundings with executor } store target reason operator = effects

structure RouteAudited (tables : SnapshotTables) (request : KillRequest) (user : User)
    (effects : KillEffects) : Prop where
  once : ∃ audit, effects.audits.rows = store.rows ++ [audit] ∧
    audit.Records user request.instanceId request.sessionId request.reason
  missing : buildKillTarget tables request.instanceId request.sessionId = none →
    effects.executorCalls = [] ∧ effects.reply = .httpError 404 (some "SESSION_NOT_FOUND") ∧
      ∃ audit, effects.audits.rows = store.rows ++ [audit] ∧ audit.result = .rejected ∧
        audit.errorMessage = some "SESSION_NOT_FOUND"

variable {surroundings store}

theorem isPlatformAccount_eq_false {mapping : CaseMapping} {loginName : Option String} :
    isPlatformAccount mapping loginName = false ↔
      mapping.lower (strip (loginName.getD "").toList) ∉
        ["sqlmon_collect".toList, "sqlmon_kill".toList] :=
  decide_eq_false_iff_not

theorem isTerminal_eq_false {mapping : CaseMapping} {status : Option String} :
    isTerminal mapping status = false ↔
      ¬ "KILLED".toList <:+: mapping.upper (status.getD "").toList ∧
        ¬ "ROLLBACK".toList <:+: mapping.upper (status.getD "").toList := by
  simp only [isTerminal, terminalStatusParts, List.any_cons, List.any_nil, Bool.or_false,
    Bool.or_eq_false_iff, decide_eq_false_iff_not]

theorem gatedKill (succeeds : store.Succeeds) (target : KillTarget) (reason : String)
    (operator : User)
    (foreign : ∀ code, surroundings.executor target.instanceId target.sessionId ≠
      .error (.rejected code)) :
    GatedKill surroundings store target reason operator
      (killSessionIn surroundings store target reason operator) := by
  refine ⟨?_, ?_, ?_⟩
  · rw [executorCalls_killSessionIn]
    refine if_congr ?_ rfl rfl
    rw [validateKillTarget_eq_ok, isReason, decide_eq_true_iff, isPlatformAccount_eq_false,
      isTerminal_eq_false]
    rfl
  · refine ⟨sessionAudit surroundings target reason operator,
      killResponse (sessionAudit surroundings target reason operator), ?_, records_killAudit, ?_, ?_,
      rfl, rfl⟩
    · rw [killSessionIn, answerAudited_of_succeeds succeeds]
    · exact killResult_attemptKill foreign
    · rw [killSessionIn, answerAudited_of_succeeds succeeds]
  · intro executor raises other
    obtain ⟨calls, results⟩ := attemptKill_silent reason raises other
    have audits : sessionAudit { surroundings with executor } target reason operator =
        sessionAudit surroundings target reason operator := by
      simp only [sessionAudit, results, killAudit, operatorName]
    rw [killSessionIn, killSessionIn, audits, calls]

theorem routeAudited (succeeds : store.Succeeds) {hasInstance : Uuid → Bool}
    {tables : SnapshotTables} {request : KillRequest} {user : User}
    (allowed : user.role ∈ killRoles)
    (known : hasInstance request.instanceId = true) :
    RouteAudited store tables request user
      (postKillIn surroundings store hasInstance tables request user) := by
  have handled : postKillIn surroundings store hasInstance tables request user =
      killTargetOrRejectIn surroundings store request user
        (buildKillTarget tables request.instanceId request.sessionId) := by
    simp [postKillIn, allowed, known]
  rw [handled]
  cases built : buildKillTarget tables request.instanceId request.sessionId with
  | none =>
      simp only [killTargetOrRejectIn, auditRejectedKillRequestIn,
        answerAudited_of_succeeds succeeds]
      exact ⟨⟨_, rfl, records_killAudit⟩, fun _ => ⟨rfl, rfl, _, rfl, rfl, rfl⟩⟩
  | some target =>
      obtain ⟨row, -, reads⟩ := checked_of_buildKillTarget built
      simp only [killTargetOrRejectIn, killSessionIn, answerAudited_of_succeeds succeeds]
      refine ⟨⟨_, rfl, ?_⟩, fun absent => ?_⟩
      · rw [← reads.instanceId, ← reads.sessionId]
        exact records_killAudit
      · simp [built] at absent

theorem kill_gating_agrees (surroundings : KillSurroundings) (store : KillAuditStore)
    (succeeds : store.Succeeds)
    (foreign : ∀ instanceId sessionId code,
      surroundings.executor instanceId sessionId ≠ .error (.rejected code)) :
    (∀ target reason operator, GatedKill surroundings store target reason operator
      (killSessionIn surroundings store target reason operator)) ∧
    ∀ hasInstance tables request user, user.role ∈ killRoles →
      hasInstance request.instanceId = true →
        RouteAudited store tables request user
          (postKillIn surroundings store hasInstance tables request user) := by
  constructor
  · intro target reason operator
    exact gatedKill succeeds target reason operator (foreign target.instanceId target.sessionId)
  · intro hasInstance tables request user allowed known
    exact routeAudited succeeds allowed known

end Agreement

section Unreachable

def openAudits : KillAuditStore := ⟨[], fun _ => true, fun _ => true⟩

theorem loginFailure_named : "OperationalError" ≠ "" := by decide

def unreachable : KillSurroundings :=
  { killSurroundings with
    executor :=
      fun _ _ => .error (.other ⟨"OperationalError", "login failed", loginFailure_named⟩) }

theorem kill_gating_agrees_unreachable :
    let effects := killSessionIn unreachable openAudits ordersTarget killRequest.reason dbaUser
    GatedKill unreachable openAudits ordersTarget killRequest.reason dbaUser effects ∧
      effects.executorCalls = [(7, 60)] ∧
      effects.reply = .response ⟨9, 7, 60, .failed, some "KILL_EXECUTION_FAILED"⟩ := by
  refine ⟨?_, by decide, by decide⟩
  have agrees := kill_gating_agrees unreachable openAudits (fun _ => ⟨rfl, rfl⟩)
    (by simp [unreachable])
  exact agrees.1 ordersTarget killRequest.reason dbaUser

end Unreachable

end SqlMonitor.Services
