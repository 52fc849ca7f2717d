import Mathlib.Logic.Function.Basic
import SqlMonitor.Services.IndexCatalog

set_option autoImplicit false

namespace SqlMonitor.Collector

open Services

structure IndexDatabaseCollectionResult where
  databaseName : String
  missingItems : Option (List MissingIndexCandidate) := none
  missingError : Option String := none
  fragmentationItems : Option (List IndexFragmentationItem) := none
  fragmentationScanned : Nat := 0
  fragmentationError : Option String := none
deriving DecidableEq

-- An exception without a text is named by its class.
def exceptionText (exc : PyException) : List Char :=
  if strip exc.text.toList = [] then exc.className.toList else strip exc.text.toList

def indexCollectionErrorMessage (exc : PyException) : String :=
  let message := exceptionText exc
  if 500 < message.length then String.ofList (message.take 497 ++ "...".toList) else String.ofList message

section Worker

variable (fuel : Nat) (clientFactory : String → Raises IndexClient)
    (connectionString databaseName : String)
  (missingDue fragmentationDue : Bool)

-- What a worker collects of one type, `none` while it has not finished.
def missingOutcome : Option (Raises (List MissingIndexCandidate)) :=
  match clientFactory connectionString with
  | .error exc => some (.error exc)
  | .ok client => listMissingIndexes fuel client databaseName

def fragmentationOutcome : Option (Raises (List IndexFragmentationItem)) :=
  match clientFactory connectionString with
  | .error exc => some (.error exc)
  | .ok client => listIndexFragmentation fuel client databaseName

-- The items and the error of one type; neither is set when the type is not due.
def settle {A : Type} (due : Bool) (outcome : Option (Raises (List A))) :
    Option (Option (List A) × Option String) :=
  if due then
    outcome.map fun listing =>
      match listing with
      | .ok items => (some items, none)
      | .error exc => (none, some (indexCollectionErrorMessage exc))
  else some (none, none)

def collectOneIndexDatabase : Option IndexDatabaseCollectionResult :=
  match clientFactory connectionString with
  | .error exc =>
    some
      { databaseName
        missingError := if missingDue then some (indexCollectionErrorMessage exc) else none
        fragmentationError :=
          if fragmentationDue then some (indexCollectionErrorMessage exc) else none }
  | .ok client =>
    match settle missingDue (listMissingIndexes fuel client databaseName),
        settle fragmentationDue (listIndexFragmentation fuel client databaseName) with
    | some (missingItems, missingError), some (allFragmentationItems, fragmentationError) =>
      some
        { databaseName, missingItems, missingError
          fragmentationItems :=
            allFragmentationItems.map fun items => items.filter (·.actionEnabled)
          fragmentationScanned := (allFragmentationItems.getD []).length
          fragmentationError }
    | _, _ => none

end Worker

def timeoutMessage (secondsText : String) : String := "索引采集超时，超过 " ++ secondsText ++ " 秒未完成"

def timedOutIndexDatabaseResult (databaseName : String) (missingDue fragmentationDue : Bool)
    (secondsText : String) : IndexDatabaseCollectionResult where
  databaseName := databaseName
  missingError := if missingDue then some (timeoutMessage secondsText) else none
  fragmentationError := if fragmentationDue then some (timeoutMessage secondsText) else none

section Store

structure IndexStore where
  missing : List MissingIndexSnapshot
  fragmentation : List IndexFragmentationSnapshot
  statuses : IndexCollectionKey → Option IndexCollectionStatus

variable (instanceId : Uuid) (databaseName : String) (collectedAt : Timestamp)

def replaceMissingIndexSnapshots (items : List MissingIndexCandidate)
    (store : IndexStore) : IndexStore :=
  { store with
    missing :=
      store.missing.filter
          (fun row => ¬ (row.instanceId = instanceId ∧ row.databaseName = databaseName)) ++
      items.map fun item =>
        { instanceId
          databaseName := item.databaseName
          schemaName := item.schemaName
          tableName := item.tableName
          equalityColumns := item.equalityColumns
          inequalityColumns := item.inequalityColumns
          includeColumns := item.includeColumns
          userSeeks := item.userSeeks
          userScans := item.userScans
          avgTotalUserCost := item.avgTotalUserCost
          avgUserImpact := item.avgUserImpact
          recommendedIndexName := item.recommendedIndexName
          collectedAt } }

def replaceIndexFragmentationSnapshots (items : List IndexFragmentationItem)
    (store : IndexStore) : IndexStore :=
  { store with
    fragmentation :=
      store.fragmentation.filter
          (fun row => ¬ (row.instanceId = instanceId ∧ row.databaseName = databaseName)) ++
        items.map fun item =>
          { instanceId
            databaseName := item.databaseName
            schemaName := item.schemaName
            tableName := item.tableName
            indexName := item.indexName
            indexType := item.indexType
            partitionNumber := item.partitionNumber
            avgFragmentationInPercent := item.avgFragmentationInPercent
            pageCount := item.pageCount
            recommendedAction := item.recommendedAction
            onlineRebuildSupported := item.onlineRebuildSupported
            collectedAt } }

def newIndexCollectionStatus : IndexCollectionStatus := ⟨none, none, .unknown, none, 0, none⟩

def getOrCreateIndexCollectionStatus (store : IndexStore) (key : IndexCollectionKey) :
    IndexCollectionStatus :=
  (store.statuses key).getD newIndexCollectionStatus

def markIndexCollectionSuccess (indexType : IndexType) (itemCount : Nat)
    (store : IndexStore) : IndexStore :=
  let key := ⟨instanceId, databaseName, indexType⟩
  { store with
    statuses := Function.update store.statuses key (some
      { getOrCreateIndexCollectionStatus store key with
        status := .success
        lastSuccessAt := some collectedAt
        errorMessage := none
        itemCount := itemCount
        updatedAt := some collectedAt }) }

def markIndexCollectionFailed (indexType : IndexType) (errorMessage : String) (store : IndexStore) :
    IndexStore :=
  let key := ⟨instanceId, databaseName, indexType⟩
  { store with
    statuses := Function.update store.statuses key (some
      { getOrCreateIndexCollectionStatus store key with
        status := .failed
        lastFailureAt := some collectedAt
        errorMessage := some errorMessage
        updatedAt := some collectedAt }) }

end Store

section Persist

variable (instanceId : Uuid) (result : IndexDatabaseCollectionResult) (collectedAt : Timestamp)

def persistIndexType {A : Type} (databaseName : String) (indexType : IndexType)
    (error : Option String)
    (items : Option (List A)) (replace : List A → IndexStore → IndexStore)
    (store : IndexStore) : IndexStore :=
  -- An error counts when its text is not empty.
  match error.filter (· ≠ "") with
  | some message =>
    markIndexCollectionFailed instanceId databaseName collectedAt indexType message store
  | none =>
    markIndexCollectionSuccess instanceId databaseName collectedAt indexType (items.getD []).length
      (replace (items.getD []) store)

def persistMissing : IndexStore → IndexStore :=
  persistIndexType instanceId collectedAt result.databaseName .missing result.missingError
    result.missingItems
    (replaceMissingIndexSnapshots instanceId result.databaseName collectedAt)

def persistFragmentation : IndexStore → IndexStore :=
  persistIndexType instanceId collectedAt result.databaseName .fragmentation result.fragmentationError
    result.fragmentationItems
    (replaceIndexFragmentationSnapshots instanceId result.databaseName collectedAt)

def persistIndexDatabaseCollectionResult (missingDue fragmentationDue : Bool)
    (store : IndexStore) : IndexStore :=
  let store := if missingDue then persistMissing instanceId result collectedAt store else store
  if fragmentationDue then persistFragmentation instanceId result collectedAt store else store

-- The databases of an instance could not be listed; `*` stands for all of them.
def markDatabasesFailed (missingDue fragmentationDue : Bool) (exc : PyException)
    (store : IndexStore) :
    IndexStore :=
  let errorMessage := indexCollectionErrorMessage exc
  let store :=
    if missingDue then
      markIndexCollectionFailed instanceId "*" collectedAt .missing errorMessage store
    else store
  if fragmentationDue then
    markIndexCollectionFailed instanceId "*" collectedAt .fragmentation errorMessage store
  else store

end Persist

end SqlMonitor.Collector
