import SqlMonitor.Shared.Buffered
import SqlMonitor.Collector.IndexRuns
import SqlMonitor.Collector.SchedulerProgress

set_option autoImplicit false

namespace SqlMonitor.Collector

open Services IndexScheduler TransitionSystem

structure IndexTables where
  store : IndexStore
  keys : List IndexCollectionKey
  listed : ∀ key, key ∈ keys ↔ (store.statuses key).isSome

structure IndexCollectionStatusValue where
  databaseName : String
  indexType : IndexType
  lastSuccessAt : Option Timestamp
deriving DecidableEq

structure IndexSettings where
  concurrency : Int
  timeoutSeconds : Rat
  secondsText : String

-- How one call of the generator goes: its workers, and the order of its steps.
structure GroupRun where
  calledAt : Rat
  workers : Nat → Option WorkerRun
  actions : List Action

structure IndexSurroundings where
  now : Timestamp
  decryptConnectionString : String → Raises String
  clientFactory : String → Raises IndexClient
  settings : IndexSettings
  groups : IndexType → GroupRun

section Due

def loadIndexCollectionStatuses (tables : IndexTables) (instanceId : Uuid) :
    List IndexCollectionStatusValue :=
  (tables.keys.filter (·.instanceId = instanceId)).filterMap fun key =>
    (tables.store.statuses key).map fun status =>
      ⟨key.databaseName, key.indexType, status.lastSuccessAt⟩

def indexCollectionDue (statuses : List IndexCollectionStatusValue) (indexType : IndexType)
    (nowValue : Timestamp) (intervalSeconds : Int) : Bool :=
  let successes := (statuses.filter fun status =>
    status.indexType = indexType ∧ status.databaseName ≠ "*").filterMap (·.lastSuccessAt)
  match successes.max? with
  | none => true
  | some latestSuccess => intervalSeconds * 1000000 ≤ nowValue - latestSuccess

def intervalSeconds (row : InstanceRecord) : IndexType → Int
  | .missing => row.missingIndexCollectIntervalSeconds
  | .fragmentation => row.indexFragmentationCollectIntervalSeconds

end Due

section Run

variable (surroundings : IndexSurroundings) (row : InstanceRecord)

def groupCollection (databases : List String) (connectionString : String) (indexType : IndexType) :
    Collection where
  databases := databases
  connectionString := connectionString
  missingDue := indexType = .missing
  fragmentationDue := indexType = .fragmentation
  concurrency := surroundings.settings.concurrency
  timeoutSeconds := surroundings.settings.timeoutSeconds
  secondsText := surroundings.settings.secondsText
  calledAt := (surroundings.groups indexType).calledAt
  workers := (surroundings.groups indexType).workers

-- The results that a complete call yields; `none` when the steps are no complete call.
def collectIndexDatabasesConcurrently (databases : List String) (connectionString : String)
    (indexType : IndexType) : Option (List IndexDatabaseCollectionResult) :=
  let c := groupCollection surroundings databases connectionString indexType
  (run (step c) (initial c) (surroundings.groups indexType).actions).bind fun s =>
    if s.phase = .finished then some (s.yielded.map (·.result)) else none

def persistResult (indexType : IndexType) (result : IndexDatabaseCollectionResult) :
    IndexStore → IndexStore :=
  persistIndexDatabaseCollectionResult row.id result surroundings.now (indexType = .missing)
    (indexType = .fragmentation)

def collectGroup (databases : List String) (connectionString : String)
    (session : Buffered IndexStore) (indexType : IndexType) : Option (Buffered IndexStore) :=
  (collectIndexDatabasesConcurrently surroundings databases connectionString indexType).map
    fun results => session.commitEach (persistResult surroundings row indexType) results

def collectionGroups (missingDue fragmentationDue : Bool) : List IndexType :=
  (if missingDue then [.missing] else []) ++ if fragmentationDue then [.fragmentation] else []

def collectIndexSnapshotsIfDue (statuses : List IndexCollectionStatusValue)
    (connectionString : String) (session : Buffered IndexStore) : Option (Buffered IndexStore) :=
  let session := session.rollback
  let due := fun indexType =>
    indexCollectionDue statuses indexType surroundings.now (intervalSeconds row indexType)
  if due .missing = false ∧ due .fragmentation = false then some session
  else
    match surroundings.clientFactory connectionString >>= listUserDatabases with
    | .error exc =>
      some (session.modify
        (markDatabasesFailed row.id surroundings.now (due .missing) (due .fragmentation) exc))
    | .ok databases =>
      if databases = [] then some session
      else
        (collectionGroups (due .missing) (due .fragmentation)).foldlM
          (collectGroup surroundings row databases connectionString) session

def collectIndexSnapshotsForInstance (row : Option InstanceRecord)
    (statuses : Uuid → List IndexCollectionStatusValue) (session : Buffered IndexStore) :
    Option (Raises Unit × Buffered IndexStore) :=
  match row with
  | none => some (.ok (), session)
  | some row =>
    if row.status = .disabled then some (.ok (), session)
    else
      match surroundings.decryptConnectionString row.encryptedCollectDsn with
      | .error exc => some (.error exc, session)
      | .ok connectionString =>
        (collectIndexSnapshotsIfDue surroundings row (statuses row.id) connectionString session).map
          fun session => (.ok (), session)

-- What the task ends with and what is stored once its session is closed.
def runIndexCollectionForInstance (row : Option InstanceRecord) (tables : IndexTables) :
    Option (Raises Unit × IndexStore) :=
  (collectIndexSnapshotsForInstance surroundings row (loadIndexCollectionStatuses tables)
    (.opened tables.store)).map fun (outcome, session) => (outcome, session.close)

end Run

end SqlMonitor.Collector
