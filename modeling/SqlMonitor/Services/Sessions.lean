import SqlMonitor.Shared.InsertionDict
import SqlMonitor.Services.Dashboard

set_option autoImplicit false

namespace SqlMonitor.Services

open SnapshotRepository

inductive SortOrder where
  | asc
  | desc
deriving DecidableEq

section Lists

variable {A : Type}

def sortedBy (sortOrder : SortOrder) (key : A → Int) (rows : List A) : List A :=
  match sortOrder with
  | .asc => sortAscending key rows
  | .desc => sortDescending key rows

def sortValue (value : Option Int) : Int := value.getD (-1)

def pageOf (page pageSize : Nat) (rows : List A) : List A :=
  (rows.drop ((page - 1) * pageSize)).take pageSize

theorem sortedBy_perm (sortOrder : SortOrder) (key : A → Int) (rows : List A) :
    (sortedBy sortOrder key rows).Perm rows := by
  cases sortOrder with
  | asc => exact sortAscending_perm key rows
  | desc => exact sortDescending_perm key rows

theorem pageOf_first (pageSize : Nat) (rows : List A) :
    pageOf 1 pageSize rows = rows.take pageSize := by
  simp [pageOf]

end Lists

structure SessionListItem where
  sessionId : Option Int
  loginName : Option String
  hostName : Option String
  programName : Option String
  databaseName : Option String
  status : Option String
  openTransactionCount : Int
  cpuTime : Option Int
  reads : Option Int
  writes : Option Int
  logicalReads : Option Int
  waitType : Option String
  waitTimeMs : Option Int
  blockingSessionId : Option Int
  currentSqlHash : Option String
  currentSqlPreview : Option String
deriving DecidableEq

structure SessionListOut where
  instanceId : Uuid
  frameId : Uuid
  snapshotTime : Timestamp
  page : Nat
  pageSize : Nat
  total : Nat
  items : List SessionListItem

inductive SessionSortBy where
  | sessionId
  | cpuTime
  | reads
  | writes
  | logicalReads
deriving DecidableEq

def SessionSortBy.column : SessionSortBy → SessionSnapshot → Option Int
  | .sessionId, session => session.sessionId
  | .cpuTime, session => session.cpuTime
  | .reads, session => session.reads
  | .writes, session => session.writes
  | .logicalReads, session => session.logicalReads

structure SessionQuery where
  status : Option String := none
  onlyBlocked : Bool := false
  onlyOpenTransaction : Bool := false
  page : Nat := 1
  pageSize : Nat := 50
  sortBy : SessionSortBy := .sessionId
  sortOrder : SortOrder := .asc

namespace Sessions

def toItem (previewMap : Option String → Option String) (session : SessionSnapshot)
    (request : Option RequestSnapshot) : SessionListItem :=
  let sqlHash := (session.currentSqlHash.filter (· ≠ "")).or (request.bind RequestSnapshot.sqlHash)
  { sessionId := session.sessionId
    loginName := session.loginName
    hostName := session.hostName
    programName := session.programName
    databaseName := session.databaseName
    status := session.status
    openTransactionCount := session.openTransactionCount
    cpuTime := session.cpuTime
    reads := session.reads
    writes := session.writes
    logicalReads := session.logicalReads
    waitType := request.bind RequestSnapshot.waitType
    waitTimeMs := request.bind RequestSnapshot.waitTimeMs
    blockingSessionId := request.bind RequestSnapshot.blockingSessionId
    currentSqlHash := sqlHash
    currentSqlPreview := previewMap sqlHash }

-- Later requests of a session replace earlier ones.
def requestBySession (requests : List RequestSnapshot) :
    InsertionDict (Option Int) RequestSnapshot :=
  .ofList (requests.map fun request => (request.sessionId, request))

def requestOf (requests : List RequestSnapshot) (session : SessionSnapshot) :
    Option RequestSnapshot :=
  (requestBySession requests).get? session.sessionId

def kept (query : SessionQuery) (pair : SessionSnapshot × Option RequestSnapshot) : Bool :=
  query.status.all (fun status => pair.1.status = some status) &&
    (! query.onlyBlocked || (pair.2.bind RequestSnapshot.blockingSessionId).isSome) &&
    (! query.onlyOpenTransaction || 0 < pair.1.openTransactionCount)

def filtered (query : SessionQuery) (sessions : List SessionSnapshot)
    (requests : List RequestSnapshot) : List (SessionSnapshot × Option RequestSnapshot) :=
  (sessions.map fun session => (session, requestOf requests session)).filter (kept query)

def sessionListOf (tables : SnapshotTables) (instanceId : Uuid) (query : SessionQuery)
    (ref : SnapshotFrame) : SessionListOut :=
  let sessions := SnapshotRepository.listSessions tables ref.frame
  let requests := listRequests tables ref.frame
  let previewMap := sqlPreviewMap tables requests
  let sorted := sortedBy query.sortOrder (fun pair => sortValue (query.sortBy.column pair.1))
    (filtered query sessions requests)
  { instanceId
    frameId := ref.frame.frameId
    snapshotTime := ref.frame.snapshotTime
    page := query.page
    pageSize := query.pageSize
    total := sorted.length
    items := (pageOf query.page query.pageSize sorted).map fun pair =>
      toItem previewMap pair.1 pair.2 }

def listSessions (tables : SnapshotTables) (instanceId : Uuid) (query : SessionQuery)
    (frame : Option SnapshotFrame) : Option SessionListOut :=
  (frame.or (getLatestFrame tables instanceId)).map (sessionListOf tables instanceId query)

def getSessionDetail (tables : SnapshotTables) (instanceId : Uuid) (sessionId : Int)
    (frame : Option SnapshotFrame) : Option SessionListItem := do
  let ref ← frame.or (getLatestFrame tables instanceId)
  let session ← getSession tables ref.frame sessionId
  let request := getRequestBySession tables ref.frame sessionId
  return toItem (sqlPreviewMap tables request.toList) session request

end Sessions

end SqlMonitor.Services
