import SqlMonitor.Services.Sessions

set_option autoImplicit false

namespace SqlMonitor.Services

open SnapshotRepository

structure SqlListItem where
  sessionId : Option Int
  requestId : Option Int
  databaseName : Option String
  status : Option String
  command : Option String
  durationMs : Option Int
  cpuTimeMs : Option Int
  logicalReads : Option Int
  reads : Option Int
  writes : Option Int
  waitType : Option String
  waitTimeMs : Option Int
  blockingSessionId : Option Int
  sqlHash : Option String
  normalizedSqlHash : Option String
  sqlPreview : Option String
  sqlText : Option String
deriving DecidableEq

structure SqlListOut where
  instanceId : Uuid
  frameId : Uuid
  snapshotTime : Timestamp
  page : Nat
  pageSize : Nat
  total : Nat
  items : List SqlListItem

inductive SqlSortBy where
  | durationMs
  | cpuTimeMs
  | logicalReads
  | reads
  | writes
  | waitTimeMs
deriving DecidableEq

def SqlSortBy.column : SqlSortBy → RequestSnapshot → Option Int
  | .durationMs, request => request.durationMs
  | .cpuTimeMs, request => request.cpuTimeMs
  | .logicalReads, request => request.logicalReads
  | .reads, request => request.reads
  | .writes, request => request.writes
  | .waitTimeMs, request => request.waitTimeMs

structure SqlQuery where
  page : Nat := 1
  pageSize : Nat := 50
  sortBy : SqlSortBy := .cpuTimeMs
  sortOrder : SortOrder := .desc

namespace Sqls

-- A stored request has no text of its own to fall back on.
def toItem (previewMap sqlTextMap : Option String → Option String) (request : RequestSnapshot) :
    SqlListItem where
  sessionId := request.sessionId
  requestId := request.requestId
  databaseName := request.databaseName
  status := request.status
  command := request.command
  durationMs := (request.durationMs.filter (· ≠ 0)).or request.totalElapsedTimeMs
  cpuTimeMs := request.cpuTimeMs
  logicalReads := request.logicalReads
  reads := request.reads
  writes := request.writes
  waitType := request.waitType
  waitTimeMs := request.waitTimeMs
  blockingSessionId := request.blockingSessionId
  sqlHash := request.sqlHash
  normalizedSqlHash := request.normalizedSqlHash
  sqlPreview := previewMap request.sqlHash
  sqlText := (sqlTextMap request.sqlHash).filter (· ≠ "")

def sqlListOf (tables : SnapshotTables) (instanceId : Uuid) (query : SqlQuery)
    (ref : SnapshotFrame) : SqlListOut :=
  let requests := listRequests tables ref.frame
  let previewMap := sqlPreviewMap tables requests
  let textMap := sqlTextMap tables requests
  let sorted := sortedBy query.sortOrder (fun request => sortValue (query.sortBy.column request))
    requests
  { instanceId
    frameId := ref.frame.frameId
    snapshotTime := ref.frame.snapshotTime
    page := query.page
    pageSize := query.pageSize
    total := sorted.length
    items := (pageOf query.page query.pageSize sorted).map (toItem previewMap textMap) }

def listSqls (tables : SnapshotTables) (instanceId : Uuid) (query : SqlQuery)
    (frame : Option SnapshotFrame) : Option SqlListOut :=
  (frame.or (getLatestFrame tables instanceId)).map (sqlListOf tables instanceId query)

def getSqlDetail (tables : SnapshotTables) (instanceId : Uuid) (sqlHash : String)
    (frame : Option SnapshotFrame) : Option SqlListItem := do
  let ref ← frame.or (getLatestFrame tables instanceId)
  let request ← getRequestBySqlHash tables ref.frame sqlHash
  return toItem (sqlPreviewMap tables [request]) (sqlTextMap tables [request]) request

end Sqls

end SqlMonitor.Services
