import SqlMonitor.Db.Models
import SqlMonitor.Shared.LeftJoin

set_option autoImplicit false

namespace SqlMonitor.Dmv

structure DmExecSession where
  sessionId : Int
  isUserProcess : Bool := true
  loginName : Option String := none
  hostName : Option String := none
  programName : Option String := none
  databaseId : Int := 1
  status : Option String := none
  openTransactionCount : Int := 0
  loginTime : Option Timestamp := none
  lastRequestStartTime : Option Timestamp := none
  lastRequestEndTime : Option Timestamp := none
  cpuTime : Int := 0
  reads : Int := 0
  writes : Int := 0
  logicalReads : Int := 0
deriving DecidableEq

structure DmExecRequest where
  sessionId : Int
  requestId : Int
  databaseId : Int := 1
  status : Option String := none
  command : Option String := none
  startTime : Option Timestamp := none
  cpuTime : Int := 0
  totalElapsedTime : Int := 0
  reads : Int := 0
  writes : Int := 0
  logicalReads : Int := 0
  rowCount : Int := 0
  waitType : Option String := none
  waitTime : Int := 0
  blockingSessionId : Option Int := none
  percentComplete : Rat := 0
  sqlHandle : Option (List UInt8) := none
  planHandle : Option (List UInt8) := none
  statementStartOffset : Option Int := none
  statementEndOffset : Option Int := none
deriving DecidableEq

structure Server where
  sessions : List DmExecSession
  requests : List DmExecRequest
  -- `DB_NAME`.
  databaseName : Int → Option String
  -- `sys.dm_exec_sql_text`.
  sqlText : List UInt8 → Option String
  distinctSessions : (sessions.map DmExecSession.sessionId).Nodup
  distinctRequests : (requests.map fun request => (request.sessionId, request.requestId)).Nodup

/-- A row of `SESSION_REQUEST_SQL`; a column that is `NULL` or absent reads as `none`. -/
structure SessionRequestRow where
  sessionId : Option Int
  loginName : Option String := none
  hostName : Option String := none
  programName : Option String := none
  databaseName : Option String := none
  sessionStatus : Option String := none
  openTransactionCount : Option Int := none
  loginTime : Option Timestamp := none
  lastRequestStartTime : Option Timestamp := none
  lastRequestEndTime : Option Timestamp := none
  sessionCpuTime : Option Int := none
  sessionReads : Option Int := none
  sessionWrites : Option Int := none
  sessionLogicalReads : Option Int := none
  requestId : Option Int := none
  requestStatus : Option String := none
  command : Option String := none
  startTime : Option Timestamp := none
  requestCpuTimeMs : Option Int := none
  totalElapsedTimeMs : Option Int := none
  requestReads : Option Int := none
  requestWrites : Option Int := none
  requestLogicalReads : Option Int := none
  rowCount : Option Int := none
  waitType : Option String := none
  waitTimeMs : Option Int := none
  blockingSessionId : Option Int := none
  percentComplete : Option Rat := none
  planHandle : Option (List UInt8) := none
  statementStartOffset : Option Int := none
  statementEndOffset : Option Int := none
  sqlText : Option String := none
deriving DecidableEq

-- A row of `WAIT_SQL`.
structure WaitRow where
  sessionId : Option Int
  waitType : Option String := none
  waitDurationMs : Option Int := none
  resourceDescription : Option String := none
deriving DecidableEq

def Server.userSessions (server : Server) : List DmExecSession :=
  server.sessions.filter DmExecSession.isUserProcess

def sameSession (session : DmExecSession) (request : DmExecRequest) : Bool :=
  request.sessionId = session.sessionId

def Server.sessionRequestRow (server : Server) :
    DmExecSession × Option DmExecRequest → SessionRequestRow
  | (s, r) =>
    { sessionId := some s.sessionId
      loginName := s.loginName
      hostName := s.hostName
      programName := s.programName
      databaseName := server.databaseName ((r.map DmExecRequest.databaseId).getD s.databaseId)
      sessionStatus := s.status
      openTransactionCount := some s.openTransactionCount
      loginTime := s.loginTime
      lastRequestStartTime := s.lastRequestStartTime
      lastRequestEndTime := s.lastRequestEndTime
      sessionCpuTime := some s.cpuTime
      sessionReads := some s.reads
      sessionWrites := some s.writes
      sessionLogicalReads := some s.logicalReads
      requestId := r.map DmExecRequest.requestId
      requestStatus := r.bind DmExecRequest.status
      command := r.bind DmExecRequest.command
      startTime := r.bind DmExecRequest.startTime
      requestCpuTimeMs := r.map DmExecRequest.cpuTime
      totalElapsedTimeMs := r.map DmExecRequest.totalElapsedTime
      requestReads := r.map DmExecRequest.reads
      requestWrites := r.map DmExecRequest.writes
      requestLogicalReads := r.map DmExecRequest.logicalReads
      rowCount := r.map DmExecRequest.rowCount
      waitType := r.bind DmExecRequest.waitType
      waitTimeMs := r.map DmExecRequest.waitTime
      blockingSessionId := r.bind DmExecRequest.blockingSessionId
      percentComplete := r.map DmExecRequest.percentComplete
      planHandle := r.bind DmExecRequest.planHandle
      statementStartOffset := r.bind DmExecRequest.statementStartOffset
      statementEndOffset := r.bind DmExecRequest.statementEndOffset
      sqlText := (r.bind DmExecRequest.sqlHandle).bind server.sqlText }

-- `SESSION_REQUEST_SQL`, in one of the orders the server may choose.
def Server.sessionRequestQuery (server : Server) : List SessionRequestRow :=
  (LeftJoin.leftJoin sameSession server.userSessions server.requests).map server.sessionRequestRow

def Server.Returns (server : Server) (rows : List SessionRequestRow) : Prop :=
  rows.Perm server.sessionRequestQuery

theorem userSessions_distinct (server : Server) :
    (server.userSessions.map DmExecSession.sessionId).Nodup :=
  server.distinctSessions.sublist (List.filter_sublist.map _)

theorem Server.Returns.requestId_of_blocked {server : Server} {rows : List SessionRequestRow}
    (returned : server.Returns rows) {row : SessionRequestRow} (member : row ∈ rows) {blocker : Int}
    (blocked : row.blockingSessionId = some blocker) :
    ∃ requestId, row.requestId = some requestId := by
  obtain ⟨⟨session, request⟩, -, rfl⟩ := List.mem_map.mp (returned.mem_iff.mp member)
  cases request with
  | none => simp [Server.sessionRequestRow] at blocked
  | some request => exact ⟨request.requestId, rfl⟩

end SqlMonitor.Dmv
