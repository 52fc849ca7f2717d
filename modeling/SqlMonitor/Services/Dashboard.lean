import Mathlib.Data.Finset.Card
import SqlMonitor.Db.Models
import SqlMonitor.Services.ResourceTrends
import SqlMonitor.Shared.Maximum

set_option autoImplicit false

namespace SqlMonitor.Services

open SnapshotRepository

structure DashboardMetrics where
  sessionCount : Nat
  activeRequestCount : Nat
  blockedSessionCount : Nat
  rootBlockerCount : Nat
  maxBlockingDurationMs : Int
  waitingRequestCount : Nat
  deadlocksLastHour : Nat := 0
deriving DecidableEq

-- Stored blocking rows have no column of this name.
def waitDurationMs (_ : BlockingSnapshot) : Option Int := none

def coalesce (first second : Option Int) (fallback : Int) : Int := (first.or second).getD fallback

def hasText (text : Option String) : Bool := (text.filter (· ≠ "")).isSome

def dashboardMetrics (sessions : List SessionSnapshot) (requests : List RequestSnapshot)
    (blockingRows : List BlockingSnapshot) : DashboardMetrics where
  sessionCount := sessions.length
  activeRequestCount := requests.length
  blockedSessionCount := (blockingRows.map BlockingSnapshot.blockedSessionId).toFinset.card
  rootBlockerCount := (blockingRows.filterMap BlockingSnapshot.rootSessionId).toFinset.card
  maxBlockingDurationMs :=
    maxOrZero (blockingRows.map fun row => coalesce row.maxWaitTimeMs (waitDurationMs row) 0)
  waitingRequestCount := (requests.filter fun request => hasText request.waitType).length

structure TopWait where
  waitType : String
  waitCategory : WaitCategory
  waitingTasksCount : Nat
  totalWaitTimeMs : Int
  maxWaitTimeMs : Int
deriving DecidableEq

structure TopSql where
  sessionId : Option Int
  requestId : Option Int
  databaseName : Option String
  status : Option String
  command : Option String
  durationMs : Option Int
  cpuTimeMs : Option Int
  logicalReads : Option Int
  reads : Option Int
  writes : Option Int
  waitType : Option String
  waitTimeMs : Option Int
  blockingSessionId : Option Int
  sqlHash : Option String
  normalizedSqlHash : Option String
  sqlPreview : Option String
  sqlText : Option String
deriving DecidableEq

structure DashboardOut (F : Type) where
  instanceId : Uuid
  frameId : Uuid
  snapshotTime : Timestamp
  metricsWindowMinutes : Nat
  metrics : DashboardMetrics
  resourceTrends : List (ResourceTrendPoint F)
  topWaits : List TopWait
  topCpuSqls : List TopSql
  topIoSqls : List TopSql

section Dashboard

def sqlHashesOf (requests : List RequestSnapshot) : List String :=
  requests.filterMap fun request => request.sqlHash.filter (· ≠ "")

theorem mem_sqlHashesOf {requests : List RequestSnapshot} {hash : String} :
    hash ∈ sqlHashesOf requests ↔
      ∃ request ∈ requests, request.sqlHash = some hash ∧ hash ≠ "" := by
  simp [sqlHashesOf, List.mem_filterMap, Option.filter_eq_some_iff]

def sqlPreviewMap (tables : SnapshotTables) (requests : List RequestSnapshot) :
    Option String → Option String :=
  getSqlPreviewMap tables (sqlHashesOf requests)

def sqlTextMap (tables : SnapshotTables) (requests : List RequestSnapshot) :
    Option String → Option String :=
  getSqlTextMap tables (sqlHashesOf requests)

def toTopWait (wait : WaitSnapshot) : TopWait where
  waitType := wait.waitType
  waitCategory := wait.waitCategory
  waitingTasksCount := wait.waitingTasksCount
  totalWaitTimeMs := wait.totalWaitTimeMs
  maxWaitTimeMs := wait.maxWaitTimeMs

def toTopSql (previewMap sqlTextMap : Option String → Option String) (request : RequestSnapshot) :
    TopSql where
  sessionId := request.sessionId
  requestId := request.requestId
  databaseName := request.databaseName
  status := request.status
  command := request.command
  durationMs := request.durationMs.or request.totalElapsedTimeMs
  cpuTimeMs := request.cpuTimeMs
  logicalReads := request.logicalReads
  reads := request.reads
  writes := request.writes
  waitType := request.waitType
  waitTimeMs := request.waitTimeMs
  blockingSessionId := request.blockingSessionId
  sqlHash := request.sqlHash
  normalizedSqlHash := request.normalizedSqlHash
  sqlPreview := previewMap request.sqlHash
  sqlText := (sqlTextMap request.sqlHash).filter (· ≠ "")

def topBy {A : Type} (topLimit : Nat) (key : A → Int) (rows : List A) : List A :=
  (sortDescending key rows).take topLimit

-- The delay of the collection is left out: it reads the clock.
def dashboardOf {F : Type} (floats : Floats F) (tables : SnapshotTables) (instanceId : Uuid)
    (topLimit metricsWindowMinutes : Nat) (ref : SnapshotFrame) : DashboardOut F :=
  let sessions := listSessions tables ref.frame
  let requests := listRequests tables ref.frame
  let waits := listWaits tables ref.frame
  let blockingRows := listBlockingRows tables ref.frame
  let previewMap := sqlPreviewMap tables requests
  let textMap := sqlTextMap tables requests
  { instanceId
    frameId := ref.frame.frameId
    snapshotTime := ref.frame.snapshotTime
    metricsWindowMinutes
    metrics := dashboardMetrics sessions requests blockingRows
    resourceTrends := resourceTrends floats tables instanceId ref metricsWindowMinutes
    topWaits := (topBy topLimit WaitSnapshot.totalWaitTimeMs waits).map toTopWait
    topCpuSqls :=
      (topBy topLimit (fun request => request.cpuTimeMs.getD 0) requests).map
        (toTopSql previewMap textMap)
    topIoSqls :=
      (topBy topLimit (fun request => coalesce request.logicalReads request.reads 0) requests).map
        (toTopSql previewMap textMap) }

def getDashboard {F : Type} (floats : Floats F) (tables : SnapshotTables) (instanceId : Uuid)
    (frame : Option SnapshotFrame) (topLimit metricsWindowMinutes : Nat) :
    Option (DashboardOut F) :=
  (frame.or (getLatestFrame tables instanceId)).map
    (dashboardOf floats tables instanceId topLimit metricsWindowMinutes)

end Dashboard

end SqlMonitor.Services
