import SqlMonitor.Services.IndexOperations
import SqlMonitor.Services.Sessions
import SqlMonitor.Services.Users

set_option autoImplicit false

namespace SqlMonitor.Services

open SnapshotRepository

-- `str.lower` and `str.upper`
structure CaseMapping where
  lower : List Char → List Char
  upper : List Char → List Char

def asciiCase : CaseMapping := ⟨List.map Char.toLower, List.map Char.toUpper⟩

def minReasonLength : Nat := 10

def platformLoginNames : List String := ["sqlmon_collect", "sqlmon_kill"]

def terminalStatusParts : List String := ["KILLED", "ROLLBACK"]

def safeExecutionErrorMessage : String := "KILL_EXECUTION_FAILED"

structure BeforeSnapshot where
  sessionId : Int
  loginName : Option String
  status : Option String
  openTransactionCount : Int
  blockingImpactCount : Nat := 0
  hostName : Option String := none
  programName : Option String := none
  databaseName : Option String := none
  currentSqlHash : Option String := none
  currentSqlPreview : Option String := none
  waitType : Option String := none
  waitTimeMs : Option Int := none
  cpuTime : Option Int := none
  reads : Option Int := none
  writes : Option Int := none
  logicalReads : Option Int := none
deriving DecidableEq

structure KillTarget extends BeforeSnapshot where
  instanceId : Uuid
deriving DecidableEq

def KillTarget.beforeSnapshot (target : KillTarget) : BeforeSnapshot := target.toBeforeSnapshot

inductive KillException where
  -- `KillRejectedError`
  | rejected (code : String)
  | other (exc : PyException)
deriving DecidableEq

-- `KillExecutor.kill`
abbrev KillExecutor := Uuid → Int → Except KillException Unit

def noopKillExecutor : KillExecutor := fun _ _ => .ok ()

section Guards

variable (mapping : CaseMapping)

def normalizeLogin (loginName : Option String) : List Char :=
  mapping.lower (strip (loginName.getD "").toList)

def isPlatformAccount (loginName : Option String) : Bool :=
  normalizeLogin mapping loginName ∈ platformLoginNames.map String.toList

def isTerminal (status : Option String) : Bool :=
  terminalStatusParts.any fun part => part.toList <:+: mapping.upper (status.getD "").toList

def isReason (reason : String) : Bool := minReasonLength ≤ (strip reason.toList).length

def validateKillTarget (target : KillTarget) (reason : String) (minKillableSessionId : Int) :
    Except KillException Unit :=
  if ! isReason reason then .error (.rejected "REASON_TOO_SHORT")
  else if target.sessionId ≤ minKillableSessionId then .error (.rejected "SYSTEM_SESSION")
  else if isPlatformAccount mapping target.loginName then .error (.rejected "PLATFORM_ACCOUNT")
  else if isTerminal mapping target.status then .error (.rejected "SESSION_TERMINATING")
  else .ok ()

end Guards

section Target

variable (tables : SnapshotTables) (instanceId : Uuid) (sessionId : Int)

def blockingImpactCount (frame : FrameKey) : Nat :=
  ((listBlockingRows tables frame).filter (·.blockingSessionId = some sessionId)).length

def killTarget (frame : SnapshotFrame) (detail : SessionListItem) : KillTarget where
  instanceId := instanceId
  -- A session that was found by its id has one.
  sessionId := detail.sessionId.getD sessionId
  loginName := detail.loginName
  status := detail.status
  openTransactionCount := detail.openTransactionCount
  blockingImpactCount := blockingImpactCount tables sessionId frame.frame
  hostName := detail.hostName
  programName := detail.programName
  databaseName := detail.databaseName
  currentSqlHash := detail.currentSqlHash
  currentSqlPreview := detail.currentSqlPreview
  waitType := detail.waitType
  waitTimeMs := detail.waitTimeMs
  cpuTime := detail.cpuTime
  reads := detail.reads
  writes := detail.writes
  logicalReads := detail.logicalReads

def buildKillTarget : Option KillTarget := do
  let frame ← getLatestFrame tables instanceId
  let detail ← Sessions.getSessionDetail tables instanceId sessionId (some frame)
  return killTarget tables instanceId sessionId frame detail

def checkedSession : Option SessionSnapshot :=
  (getLatestFrame tables instanceId).bind fun frame => getSession tables frame.frame sessionId

end Target

section Requests

-- The body of a request, as far as its fields pass their own checks.
structure KillRequest where
  instanceId : Uuid
  sessionId : Int
  reason : String
  positive : 1 ≤ sessionId
  nonempty : reason ≠ ""

inductive KillResult where
  | success
  | failed
  | rejected
deriving DecidableEq

structure KillAudit where
  id : Uuid
  operatorUserId : Option Uuid
  operatorName : String
  instanceId : Uuid
  sessionId : Int
  reason : String
  beforeSnapshot : BeforeSnapshot
  result : KillResult
  errorMessage : Option String
deriving DecidableEq

structure KillResponse where
  auditId : Uuid
  instanceId : Uuid
  sessionId : Int
  result : KillResult
  errorMessage : Option String
deriving DecidableEq

inductive KillReply where
  | response (body : KillResponse)
  | httpError (statusCode : Nat) (detail : Option String)
  -- Writing the audit has raised.
  | raised
deriving DecidableEq

structure KillOutcome where
  executorCalls : List (Uuid × Int)
  audit : Option KillAudit
  reply : KillReply
deriving DecidableEq

structure KillSurroundings where
  mapping : CaseMapping
  executor : KillExecutor
  auditId : Uuid
  auditWrites : Bool
  uuidText : Uuid → String
  minKillableSessionId : Int

variable (surroundings : KillSurroundings)

def operatorName (operator : User) : String :=
  orText (some operator.username) (orText operator.displayName (surroundings.uuidText operator.id))

def killAudit (target : KillTarget) (reason : String) (operator : User)
    (result : KillResult × Option String) : KillAudit where
  id := surroundings.auditId
  operatorUserId := some operator.id
  operatorName := operatorName surroundings operator
  instanceId := target.instanceId
  sessionId := target.sessionId
  reason := reason
  beforeSnapshot := target.beforeSnapshot
  result := result.1
  errorMessage := result.2

def killResponse (audit : KillAudit) : KillResponse :=
  ⟨audit.id, audit.instanceId, audit.sessionId, audit.result, audit.errorMessage⟩

-- `write_kill_audit`, and the answer that is made of what it returned.
def writeKillAudit (executorCalls : List (Uuid × Int)) (audit : KillAudit)
    (answer : KillResponse → KillReply) : KillOutcome :=
  if surroundings.auditWrites then ⟨executorCalls, some audit, answer (killResponse audit)⟩
  else ⟨executorCalls, none, .raised⟩

def killResult : Except KillException Unit → KillResult × Option String
  | .ok () => (.success, none)
  | .error (.rejected code) => (.rejected, some code)
  | .error (.other _) => (.failed, some safeExecutionErrorMessage)

-- The `try` block of `kill_session`.
def attemptKill (target : KillTarget) (reason : String) :
    List (Uuid × Int) × Except KillException Unit :=
  match validateKillTarget surroundings.mapping target reason surroundings.minKillableSessionId with
  | .error exc => ([], .error exc)
  | .ok () =>
    ([(target.instanceId, target.sessionId)],
      surroundings.executor target.instanceId target.sessionId)

def killSession (target : KillTarget) (reason : String) (operator : User) : KillOutcome :=
  let attempted := attemptKill surroundings target reason
  writeKillAudit surroundings attempted.1
    (killAudit surroundings target reason operator (killResult attempted.2)) .response

def auditRejectedKillRequest (request : KillRequest) (operator : User) (errorMessage : String)
    (answer : KillResponse → KillReply) : KillOutcome :=
  writeKillAudit surroundings []
    (killAudit surroundings
      { instanceId := request.instanceId, sessionId := request.sessionId, loginName := none,
        status := none, openTransactionCount := 0 }
      request.reason operator (.rejected, some errorMessage)) answer

def killRoles : List Role := [.dba, .admin]

def killTargetOrReject (request : KillRequest) (user : User) : Option KillTarget → KillOutcome
  | none =>
    auditRejectedKillRequest surroundings request user "SESSION_NOT_FOUND" fun response =>
      .httpError 404 response.errorMessage
  | some target => killSession surroundings target request.reason user

-- The route passes `NoopKillExecutor` as the executor.
def postKill (hasInstance : Uuid → Bool) (tables : SnapshotTables) (request : KillRequest)
    (user : User) : KillOutcome :=
  if user.role ∉ killRoles then ⟨[], none, .httpError 403 (some "当前用户无权执行该操作")⟩
  else if ! hasInstance request.instanceId then
    ⟨[], none, .httpError 404 (some "INSTANCE_NOT_FOUND")⟩
  else
    killTargetOrReject surroundings request user
      (buildKillTarget tables request.instanceId request.sessionId)

structure KillOutcome.RejectedWith (outcome : KillOutcome) (code : String) : Prop where
  uncalled : outcome.executorCalls = []
  answered : ∃ body, outcome.reply = .response body ∧ body.result = .rejected ∧
    body.errorMessage = some code

end Requests

section Validation

variable {mapping : CaseMapping} {target : KillTarget} {reason : String}
  {minKillableSessionId : Int}

theorem validateKillTarget_eq_ok :
    validateKillTarget mapping target reason minKillableSessionId = .ok () ↔
      isReason reason = true ∧ minKillableSessionId < target.sessionId ∧
        isPlatformAccount mapping target.loginName = false ∧
        isTerminal mapping target.status = false := by
  unfold validateKillTarget
  split_ifs <;> simp_all

theorem validateKillTarget_platform :
    validateKillTarget mapping target reason minKillableSessionId =
        .error (.rejected "PLATFORM_ACCOUNT") ↔
      isReason reason = true ∧ minKillableSessionId < target.sessionId ∧
        isPlatformAccount mapping target.loginName = true := by
  unfold validateKillTarget
  split_ifs <;> simp_all

theorem validateKillTarget_terminating :
    validateKillTarget mapping target reason minKillableSessionId =
        .error (.rejected "SESSION_TERMINATING") ↔
      isReason reason = true ∧ minKillableSessionId < target.sessionId ∧
        isPlatformAccount mapping target.loginName = false ∧
        isTerminal mapping target.status = true := by
  unfold validateKillTarget
  split_ifs <;> simp_all

theorem validateKillTarget_error {exc : KillException}
    (raised : validateKillTarget mapping target reason minKillableSessionId = .error exc) :
    ∃ code, exc = .rejected code := by
  unfold validateKillTarget at raised
  split_ifs at raised with short system platform terminating
  · exact ⟨_, (Except.error.inj raised).symm⟩
  · exact ⟨_, (Except.error.inj raised).symm⟩
  · exact ⟨_, (Except.error.inj raised).symm⟩
  · exact ⟨_, (Except.error.inj raised).symm⟩

end Validation

section Sessions

variable {tables : SnapshotTables} {instanceId : Uuid} {sessionId : Int} {frame : SnapshotFrame}
  {row : SessionSnapshot} {target : KillTarget}

theorem getSession_spec {key : FrameKey} (found : getSession tables key sessionId = some row) :
    row ∈ tables.sessions ∧ row.frame = key ∧ row.sessionId = some sessionId := by
  unfold getSession at found
  have matched := List.find?_some found
  exact ⟨List.mem_of_find?_eq_some found, of_decide_eq_true matched⟩

structure KillTarget.ReadFrom (target : KillTarget) (instanceId : Uuid) (sessionId : Int)
    (row : SessionSnapshot) : Prop where
  instanceId : target.instanceId = instanceId
  sessionId : target.sessionId = sessionId
  loginName : target.loginName = row.loginName
  status : target.status = row.status
  openTransactionCount : target.openTransactionCount = row.openTransactionCount
  hostName : target.hostName = row.hostName
  programName : target.programName = row.programName
  databaseName : target.databaseName = row.databaseName
  cpuTime : target.cpuTime = row.cpuTime
  reads : target.reads = row.reads
  writes : target.writes = row.writes
  logicalReads : target.logicalReads = row.logicalReads

theorem buildKillTarget_of_checked
    (checked : checkedSession tables instanceId sessionId = some row) :
    ∃ target, buildKillTarget tables instanceId sessionId = some target ∧
      target.ReadFrom instanceId sessionId row := by
  obtain ⟨frame, latest, found⟩ := Option.bind_eq_some_iff.mp checked
  obtain ⟨-, -, named⟩ := getSession_spec found
  refine ⟨_, by simp [buildKillTarget, Sessions.getSessionDetail, latest, found]; rfl, ?_⟩
  refine ⟨rfl, ?_, rfl, rfl, rfl, rfl, rfl, rfl, rfl, rfl, rfl, rfl⟩
  simp [killTarget, Sessions.toItem, named]

theorem checked_of_buildKillTarget
    (built : buildKillTarget tables instanceId sessionId = some target) :
    ∃ row, checkedSession tables instanceId sessionId = some row ∧
      target.ReadFrom instanceId sessionId row := by
  cases checked : checkedSession tables instanceId sessionId with
  | none =>
      unfold checkedSession at checked
      cases latest : getLatestFrame tables instanceId with
      | none => simp [buildKillTarget, latest] at built
      | some frame =>
          have absent : getSession tables frame.frame sessionId = none := by
            simpa [latest] using checked
          simp [buildKillTarget, Sessions.getSessionDetail, latest, absent] at built
  | some row =>
      obtain ⟨same, builds, reads⟩ := buildKillTarget_of_checked checked
      obtain rfl := Option.some.inj (built.symm.trans builds)
      exact ⟨row, rfl, reads⟩

end Sessions

section Outcomes

variable {surroundings : KillSurroundings} {target : KillTarget} {reason code : String}
  {operator : User}

@[simp] theorem executorCalls_writeKillAudit (executorCalls : List (Uuid × Int)) (audit : KillAudit)
    (answer : KillResponse → KillReply) :
    (writeKillAudit surroundings executorCalls audit answer).executorCalls = executorCalls := by
  unfold writeKillAudit
  split <;> rfl

theorem writeKillAudit_rejectedWith {executorCalls : List (Uuid × Int)} {audit : KillAudit} :
    (writeKillAudit surroundings executorCalls audit .response).RejectedWith code ↔
      executorCalls = [] ∧ audit.result = .rejected ∧ audit.errorMessage = some code ∧
        surroundings.auditWrites = true := by
  constructor
  · intro refused
    have uncalled := refused.uncalled
    obtain ⟨body, answered, rejected, named⟩ := refused.answered
    rw [executorCalls_writeKillAudit] at uncalled
    unfold writeKillAudit at answered
    split at answered
    next writes =>
      obtain rfl := KillReply.response.inj answered
      exact ⟨uncalled, rejected, named, writes⟩
    next => simp at answered
  · intro written
    obtain ⟨uncalled, rejected, named, writes⟩ := written
    refine ⟨?_, killResponse audit, ?_, rejected, named⟩
    · rw [executorCalls_writeKillAudit, uncalled]
    · rw [writeKillAudit, if_pos writes]

theorem killSession_rejectedWith :
    (killSession surroundings target reason operator).RejectedWith code ↔
      validateKillTarget surroundings.mapping target reason surroundings.minKillableSessionId =
        .error (.rejected code) ∧ surroundings.auditWrites = true := by
  simp only [killSession, writeKillAudit_rejectedWith, killAudit, attemptKill]
  cases validateKillTarget surroundings.mapping target reason surroundings.minKillableSessionId with
  | ok => simp
  | error exc =>
      cases exc with
      | rejected other => simp [killResult]
      | other exc => simp [killResult]

theorem executorCalls_killSession :
    (killSession surroundings target reason operator).executorCalls =
      if validateKillTarget surroundings.mapping target reason surroundings.minKillableSessionId =
        .ok () then [(target.instanceId, target.sessionId)] else [] := by
  simp only [killSession, executorCalls_writeKillAudit, attemptKill]
  cases validateKillTarget surroundings.mapping target reason surroundings.minKillableSessionId with
  | ok => simp
  | error exc => simp

variable {hasInstance : Uuid → Bool} {tables : SnapshotTables} {request : KillRequest}

theorem postKill_of_allowed (allowed : operator.role ∈ killRoles)
    (known : hasInstance request.instanceId = true) :
    postKill surroundings hasInstance tables request operator =
      killTargetOrReject surroundings request operator
        (buildKillTarget tables request.instanceId request.sessionId) := by
  simp [postKill, allowed, known]

end Outcomes

section Requesting

def killRequest : KillRequest := ⟨7, 60, "blocks the nightly load", by decide, by decide⟩

def dbaUser : User := ⟨1, "alice", none, .dba⟩

def killSurroundings : KillSurroundings where
  mapping := asciiCase
  executor := noopKillExecutor
  auditId := 9
  auditWrites := true
  uuidText := fun _ => ""
  minKillableSessionId := 50

end Requesting

end SqlMonitor.Services
