import SqlMonitor.Collector.Dmv
import SqlMonitor.Collector.BlockingForest
import SqlMonitor.Shared.Maximum

set_option autoImplicit false

namespace SqlMonitor.Collector

open Dmv BlockingGraph

structure SqlTextFunctions where
  sqlHash : String → String
  normalizedSqlHash : String → String
  previewSql : String → Nat → String

def normalizeBlocker (blockerSessionId : Option Int) : Option Int :=
  match blockerSessionId with
  | none => none
  | some blocker => if blocker = 0 then none else some blocker

section SessionsAndRequests

variable (texts : SqlTextFunctions) (frame : FrameKey)

-- The statement of a row, where an empty text counts as none.
def rowSqlText (row : SessionRequestRow) : Option String := row.sqlText.filter (· ≠ "")

def sqlTextOf (text : String) : SqlText where
  sqlHash := texts.sqlHash text
  normalizedSqlHash := some (texts.normalizedSqlHash text)
  sqlText := text
  sqlPreview := some (texts.previewSql text 512)
  firstSeenAt := frame.snapshotTime
  lastSeenAt := frame.snapshotTime

-- The two hashes of a row; the second needs the first to be non-empty.
def rowHashes (row : SessionRequestRow) : Option String × Option String :=
  match rowSqlText row with
  | none => (none, none)
  | some text =>
    (some (texts.sqlHash text),
      if texts.sqlHash text = "" then none else some (texts.normalizedSqlHash text))

def sessionSnapshot (row : SessionRequestRow) : SessionSnapshot where
  frame := frame
  sessionId := row.sessionId
  loginName := row.loginName
  hostName := row.hostName
  programName := row.programName
  databaseName := row.databaseName
  status := row.sessionStatus
  openTransactionCount := row.openTransactionCount.getD 0
  loginTime := row.loginTime
  lastRequestStartTime := row.lastRequestStartTime
  lastRequestEndTime := row.lastRequestEndTime
  cpuTime := row.sessionCpuTime
  reads := row.sessionReads
  writes := row.sessionWrites
  logicalReads := row.sessionLogicalReads
  currentSqlHash := (rowHashes texts row).1

def requestSnapshot (row : SessionRequestRow) : RequestSnapshot where
  frame := frame
  sessionId := row.sessionId
  requestId := row.requestId
  databaseName := row.databaseName
  status := row.requestStatus
  command := row.command
  startTime := row.startTime
  durationMs := row.totalElapsedTimeMs
  cpuTimeMs := row.requestCpuTimeMs
  totalElapsedTimeMs := row.totalElapsedTimeMs
  reads := row.requestReads
  writes := row.requestWrites
  logicalReads := row.requestLogicalReads
  rowCount := row.rowCount
  waitType := row.waitType
  waitTimeMs := row.waitTimeMs
  blockingSessionId := normalizeBlocker row.blockingSessionId
  percentComplete := row.percentComplete
  sqlHash := (rowHashes texts row).1
  normalizedSqlHash := (rowHashes texts row).2
  planHandle := row.planHandle
  statementStartOffset := row.statementStartOffset
  statementEndOffset := row.statementEndOffset

structure SnapshotLists where
  sessions : List SessionSnapshot
  requests : List RequestSnapshot
  sqlTexts : InsertionDict String SqlText

-- The loop body: a session snapshot for every row, a request snapshot unless the row has no request.
def addRow (lists : SnapshotLists) (row : SessionRequestRow) : SnapshotLists where
  sessions := lists.sessions ++ [sessionSnapshot texts frame row]
  requests :=
    match row.requestId with
    | none => lists.requests
    | some _ => lists.requests ++ [requestSnapshot texts frame row]
  sqlTexts :=
    match rowSqlText row with
    | none => lists.sqlTexts
    | some text =>
      if texts.sqlHash text = "" then lists.sqlTexts
      else lists.sqlTexts.set (texts.sqlHash text) (sqlTextOf texts frame text)

def buildSessionAndRequestSnapshots (rows : List SessionRequestRow) :
    List SessionSnapshot × List RequestSnapshot × List SqlText :=
  let lists := rows.foldl (addRow texts frame) ⟨[], [], .empty⟩
  (lists.sessions, lists.requests, lists.sqlTexts.values)

variable {texts frame}

theorem foldl_addRow (rows : List SessionRequestRow) (lists : SnapshotLists) :
    (rows.foldl (addRow texts frame) lists).sessions =
        lists.sessions ++ rows.map (sessionSnapshot texts frame) ∧
      (rows.foldl (addRow texts frame) lists).requests =
        lists.requests ++ (rows.filter (·.requestId.isSome)).map (requestSnapshot texts frame) := by
  induction rows generalizing lists with
  | nil => simp
  | cons row rest ih =>
      obtain ⟨sessions, requests⟩ := ih (addRow texts frame lists row)
      rw [List.foldl_cons, sessions, requests]
      cases request : row.requestId with
      | none => simp [addRow, request]
      | some id => simp [addRow, request]

theorem sessions_eq (rows : List SessionRequestRow) :
    (buildSessionAndRequestSnapshots texts frame rows).1 = rows.map (sessionSnapshot texts frame) := by
  simp [buildSessionAndRequestSnapshots, foldl_addRow]

theorem requests_eq (rows : List SessionRequestRow) :
    (buildSessionAndRequestSnapshots texts frame rows).2.1 =
      (rows.filter (·.requestId.isSome)).map (requestSnapshot texts frame) := by
  simp [buildSessionAndRequestSnapshots, foldl_addRow]

end SessionsAndRequests

section Waits

def categorizeWait (waitType : String) : WaitCategory :=
  let normalized := waitType.toUpper
  if normalized.startsWith "LCK_" then .lock
  else if ["PAGEIOLATCH_", "IO_COMPLETION", "ASYNC_IO_COMPLETION"].any (normalized.startsWith ·) then .io
  else if normalized ∈ ["WRITELOG", "LOGBUFFER"] ∨ normalized.startsWith "LOG_RATE_" then .log
  else if normalized ∈ ["SOS_SCHEDULER_YIELD", "THREADPOOL"] then .cpu
  else if ["CXPACKET", "CXCONSUMER", "EXCHANGE"].any (normalized.startsWith ·) then .parallelism
  else if normalized.startsWith "RESOURCE_SEMAPHORE" ∨
      normalized ∈ ["MEMORY_ALLOCATION_EXT", "CMEMTHREAD"] then .memory
  else if normalized.startsWith "PAGELATCH_" then .tempdb
  else if normalized ∈ ["ASYNC_NETWORK_IO", "NET_WAITFOR_PACKET"] then .network
  else .other

-- Rows without a wait type are passed over.
def waitDurations (rows : List WaitRow) : List (String × Int) :=
  rows.filterMap fun row => (row.waitType.filter (· ≠ "")).map fun waitType =>
    (waitType, row.waitDurationMs.getD 0)

def buildWaitSnapshots (frame : FrameKey) (rows : List WaitRow) : List WaitSnapshot :=
  (InsertionDict.groupBy Prod.fst (waitDurations rows)).entries.map fun (waitType, group) =>
    { frame
      waitType
      waitCategory := categorizeWait waitType
      waitingTasksCount := group.length
      totalWaitTimeMs := (group.map Prod.snd).sum
      maxWaitTimeMs := maxOrZero (group.map Prod.snd) }

end Waits

section Blocking

def resourceBySession (waitRows : List WaitRow) : InsertionDict Int (Option String) :=
  .ofList (waitRows.filterMap fun row =>
    row.sessionId.map fun session => (session, row.resourceDescription))

def blockingInputs (rows : List SessionRequestRow) (waitRows : List WaitRow) : List BlockingInput :=
  rows.filterMap fun row => row.sessionId.map fun session =>
    { sessionId := session
      blockerSessionId := normalizeBlocker row.blockingSessionId
      waitType := row.waitType
      waitDurationMs := row.waitTimeMs
      resourceDescription := ((resourceBySession waitRows).get? session).join }

-- `Counter` over the roots of the edges.
def blockedCountByRoot (edges : List BlockingEdge) (root : Int) : Nat :=
  (edges.map BlockingEdge.rootSessionId).count root

def blockingSnapshot (frame : FrameKey) (edges : List BlockingEdge) (edge : BlockingEdge) :
    BlockingSnapshot where
  frame := frame
  rootSessionId := some edge.rootSessionId
  blockingSessionId := some edge.blockerSessionId
  blockedSessionId := edge.blockedSessionId
  chainDepth := edge.chainDepth
  blockedCount := blockedCountByRoot edges edge.rootSessionId
  maxWaitTimeMs := edge.waitDurationMs
  waitType := edge.waitType
  resourceDescription := edge.resourceDescription
  cycleDetected := edge.cycleDetected
  specialBlockerCode := if edge.blockerSessionId < 0 then some edge.blockerSessionId else none

def blockingSnapshotsOf (frame : FrameKey) (edges : List BlockingEdge) : List BlockingSnapshot :=
  edges.map (blockingSnapshot frame edges)

def buildBlockingSnapshots (frame : FrameKey) (rows : List SessionRequestRow)
    (waitRows : List WaitRow) :
    Option (List BlockingSnapshot) :=
  (buildBlockingEdges (blockingInputs rows waitRows)).map (blockingSnapshotsOf frame)

theorem normalizeBlocker_eq_filter (blocker : Option Int) :
    normalizeBlocker blocker = blocker.filter (· ≠ 0) := by
  cases blocker with
  | none => rfl
  | some b => by_cases zero : b = 0 <;> simp [normalizeBlocker, Option.filter_some, zero]

theorem buildBlockingSnapshots_returns (frame : FrameKey) (rows : List SessionRequestRow)
    (waitRows : List WaitRow) :
    ∃ edges, buildBlockingEdges (blockingInputs rows waitRows) = some edges ∧
      EdgeTable (blockingInputs rows waitRows) edges ∧
      buildBlockingSnapshots frame rows waitRows = some (blockingSnapshotsOf frame edges) := by
  obtain ⟨edges, built, table, -⟩ := buildBlockingEdges_returns (blockingInputs rows waitRows)
  exact ⟨edges, built, table, by rw [buildBlockingSnapshots, built]; rfl⟩

end Blocking

end SqlMonitor.Collector
