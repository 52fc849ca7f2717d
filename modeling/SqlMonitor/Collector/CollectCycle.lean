import Mathlib.Data.List.Sort
import SqlMonitor.Collector.Snapshots
import SqlMonitor.Shared.UnitOfWork

set_option autoImplicit false

namespace SqlMonitor.Collector

open Dmv UnitOfWork

inductive Entity where
  | instance (id : Uuid)
  | collectStatus (instanceId : Uuid)
deriving DecidableEq

abbrev Entity.Row : Entity → Type
  | .instance _ => Instance
  | .collectStatus _ => InstanceCollectStatus

structure CollectedFrame where
  snapshotFrame : SnapshotFrame
  sessions : List SessionSnapshot
  requests : List RequestSnapshot
  waits : List WaitSnapshot
  blocking : List BlockingSnapshot
deriving DecidableEq

inductive StoreAction where
  | createPartition (table : String) (snapshotTime : Timestamp)
  | upsertSqlTexts (sqlTexts : List SqlText)
  | insertFrame (frame : CollectedFrame)
deriving DecidableEq

abbrev CollectSession := Session Entity Entity.Row StoreAction

structure ResourceMetrics where
  cpuLoadPercent : Option Rat := none
  memoryUsagePercent : Option Rat := none
  networkBytesSentTotal : Option Int := none
  networkBytesReceivedTotal : Option Int := none
deriving DecidableEq

/-- The answers of a server to the three queries, `none` where the query raises. -/
structure Client where
  sessionRequestRows : Option (List SessionRequestRow)
  waitRows : Option (List WaitRow)
  resourceRows : Option (List ResourceMetrics)

structure Attempt where
  snapshotTime : Timestamp
  finishedAt : Timestamp
  failedAt : Timestamp
  frameId : Uuid
  decryptConnectionString : String → Option String
  clientFactory : String → Option Client
  succeeds : StoreAction → Bool
  commitSucceeds : Bool
  failureCommitSucceeds : Bool

structure Environment where
  texts : SqlTextFunctions
  -- The milliseconds of a span of microseconds, computed in floating point.
  milliseconds : Int → Int

structure CollectInstanceResult where
  success : Bool
  instanceId : Uuid
  frameId : Option Uuid := none
  sessionsCollected : Nat := 0
  requestsCollected : Nat := 0
  waitsCollected : Nat := 0
  blockingEdgesCollected : Nat := 0
  errorMessage : Option String := none
deriving DecidableEq

section Collect

variable (env : Environment) (id : Uuid) (attempt : Attempt)

def durationMs (startedAt finishedAt : Timestamp) : Int :=
  max (env.milliseconds (finishedAt - startedAt)) 0

-- A failing resource query only leaves the metrics empty.
def collectResourceMetrics (client : Client) : ResourceMetrics × Bool :=
  match client.resourceRows with
  | some rows => (rows.head?.getD {}, true)
  | none => ({}, false)

structure Collected where
  frame : CollectedFrame
  sqlTexts : List SqlText
  resourceAvailable : Bool

-- The part of the `try` block before the session is used, `none` where it raises.
def collectFrame (row : Instance) : Option Collected := do
  let connectionString ← attempt.decryptConnectionString row.encryptedCollectDsn
  let client ← attempt.clientFactory connectionString
  let sessionRequestRows ← client.sessionRequestRows
  let waitRows ← client.waitRows
  let (metrics, resourceAvailable) := collectResourceMetrics client
  let key : FrameKey := ⟨attempt.frameId, id, attempt.snapshotTime⟩
  let (sessions, requests, sqlTexts) :=
    buildSessionAndRequestSnapshots env.texts key sessionRequestRows
  let waits := buildWaitSnapshots key waitRows
  let blocking ← buildBlockingSnapshots key sessionRequestRows waitRows
  some
    { frame :=
        { snapshotFrame :=
            { frame := key
              collectDurationMs := durationMs env attempt.snapshotTime attempt.finishedAt
              status := "success"
              cpuLoadPercent := metrics.cpuLoadPercent
              memoryUsagePercent := metrics.memoryUsagePercent
              networkBytesSentTotal := metrics.networkBytesSentTotal
              networkBytesReceivedTotal := metrics.networkBytesReceivedTotal }
          sessions, requests, waits, blocking }
      sqlTexts, resourceAvailable }

def partitionedTables : List String :=
  ["snapshot_frames", "session_snapshots", "request_snapshots", "wait_snapshots", "blocking_snapshots"]

def statements (sqlTexts : List SqlText) : List StoreAction :=
  partitionedTables.map (StoreAction.createPartition · attempt.snapshotTime) ++
    if sqlTexts = [] then [] else [StoreAction.upsertSqlTexts sqlTexts]

def markSuccess (collected : Collected) (status : InstanceCollectStatus) : InstanceCollectStatus :=
  { status with
    status := .success
    lastSuccessAt := some attempt.snapshotTime
    lastDurationMs := some (durationMs env attempt.snapshotTime attempt.finishedAt)
    consecutiveFailures := 0
    errorCode := none
    errorMessage := none
    capabilities := [("sessions", true), ("requests", true), ("waits", true), ("blocking", true),
      ("resources", collected.resourceAvailable)]
    updatedAt := some attempt.snapshotTime }

def markFailed (consecutiveFailures : Int) (status : InstanceCollectStatus) :
    InstanceCollectStatus :=
  { status with
    status := .failed
    lastFailureAt := some attempt.snapshotTime
    lastDurationMs := some (durationMs env attempt.snapshotTime attempt.failedAt)
    consecutiveFailures := consecutiveFailures + 1
    errorCode := some "COLLECT_FAILED"
    errorMessage := some "采集失败"
    updatedAt := some attempt.snapshotTime }

def setRows (onInstance : Instance → Instance)
    (onStatus : InstanceCollectStatus → InstanceCollectStatus)
    (session : CollectSession) : CollectSession :=
  (session.write (.instance id) onInstance).write (.collectStatus id) onStatus

/-- The rest of the `try` block: whether it reached its end, and the session it leaves. -/
def persistFrame (collected : Collected) (session : CollectSession) : Bool × CollectSession :=
  match session.execute attempt.succeeds (statements attempt collected.sqlTexts) with
  | (false, session) => (false, session)
  | (true, session) =>
    (setRows id (fun row => { row with status := .online }) (markSuccess env attempt collected)
      (session.add [.insertFrame collected.frame])).commit attempt.commitSucceeds

def markCollectFailed (consecutiveFailures : Int) (session : CollectSession) :
    Bool × CollectSession :=
  (setRows id (fun row => { row with status := .collectError }) (markFailed env attempt consecutiveFailures)
    session).commit attempt.failureCommitSucceeds

def failInstance (consecutiveFailures : Int) (session : CollectSession) :
    Option CollectInstanceResult × CollectSession :=
  match markCollectFailed env id attempt consecutiveFailures session.rollback with
  | (true, session) =>
    (some { success := false, instanceId := id, errorMessage := some "采集失败" }, session)
  | (false, session) => (none, session)

def successResult (collected : Collected) : CollectInstanceResult where
  success := true
  instanceId := id
  frameId := some attempt.frameId
  sessionsCollected := collected.frame.sessions.length
  requestsCollected := collected.frame.requests.length
  waitsCollected := collected.frame.waits.length
  blockingEdgesCollected := collected.frame.blocking.length

-- From the `try` on, with the instance and its status row read.
def collectLoadedInstance (row : Instance) (status : InstanceCollectStatus)
    (session : CollectSession) :
    Option CollectInstanceResult × CollectSession :=
  match collectFrame env id attempt row with
  | none => failInstance env id attempt status.consecutiveFailures session
  | some collected =>
    match persistFrame env id attempt collected session with
    | (true, session) => (some (successResult id attempt collected), session)
    | (false, session) => failInstance env id attempt status.consecutiveFailures session

-- No result where an exception leaves the function.
def collectInstanceSnapshot (session : CollectSession) :
    Option CollectInstanceResult × CollectSession :=
  match session.read (.instance id), session.read (.collectStatus id) with
  | some row, some status => collectLoadedInstance env id attempt row status session
  -- Reading an expired object raises, and nothing here catches it.
  | _, _ => (none, session)

end Collect

section Cycle

variable (env : Environment) (attempts : Uuid → Attempt)

def collectPairs : List Uuid → CollectSession → List CollectInstanceResult × CollectSession
  | [], session => ([], session)
  | id :: rest, session =>
    match collectInstanceSnapshot env id (attempts id) session with
    | (none, session) => ([], session)
    | (some result, session) =>
      let (results, session) := collectPairs rest session
      (result :: results, session)

structure Database where
  instances : List Instance
  collectStatuses : Uuid → Option InstanceCollectStatus
  distinct : (instances.map Instance.id).Nodup

def Database.instance? (database : Database) (id : Uuid) : Option Instance :=
  database.instances.find? (fun row => row.id = id)

def listedInstances (database : Database) : List Instance :=
  (database.instances.filter (fun row => row.status ≠ .disabled)).insertionSort
    (fun row later => row.createdAt ≤ later.createdAt)

def newCollectStatus (instanceId : Uuid) : InstanceCollectStatus where
  instanceId := instanceId
  lastSuccessAt := none
  lastFailureAt := none
  lastDurationMs := none
  consecutiveFailures := 0
  status := .unknown
  errorCode := none
  errorMessage := none
  capabilities := []
  updatedAt := none

def getOrCreateCollectStatus (database : Database) (id : Uuid) : Tracked InstanceCollectStatus :=
  match database.collectStatuses id with
  | some status => .inSync status
  | none => .added (newCollectStatus id)

/-- The session after `list_collectable_instances`: its queries have opened a transaction. -/
def listCollectableInstances (database : Database) : List Uuid × CollectSession :=
  let listed := (listedInstances database).map Instance.id
  (listed,
    { rows := fun entity =>
        match entity with
        | .instance id =>
          match database.instance? id with
          | none => Tracked.untracked none
          | some row => if id ∈ listed then Tracked.inSync row else Tracked.untracked (some row)
        | .collectStatus id =>
          if id ∈ listed then getOrCreateCollectStatus database id
          else Tracked.untracked (database.collectStatuses id)
      inTransaction := true
      pending := []
      executed := [] })

def selectedIds (database : Database) (instanceId : Option Uuid) : List Uuid :=
  (listCollectableInstances database).1.filter fun id => instanceId.all (· = id)

def collectInstancesOnce (database : Database) (instanceId : Option Uuid) :
    List CollectInstanceResult × CollectSession :=
  collectPairs env attempts (selectedIds database instanceId) (listCollectableInstances database).2

end Cycle

end SqlMonitor.Collector
