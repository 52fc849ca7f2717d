import SqlMonitor.Collector.IndexRuns
import SqlMonitor.Shared.Attempts

set_option autoImplicit false

namespace SqlMonitor.Collector

open Services Attempts

abbrev IndexAttempt := Attempt Timestamp String (List IndexSnapshotRow)

section Histories

def missingSnapshotOf (instanceId : Uuid) (collectedAt : Timestamp) (item : MissingIndexCandidate) :
    MissingIndexSnapshot where
  instanceId := instanceId
  databaseName := item.databaseName
  schemaName := item.schemaName
  tableName := item.tableName
  equalityColumns := item.equalityColumns
  inequalityColumns := item.inequalityColumns
  includeColumns := item.includeColumns
  userSeeks := item.userSeeks
  userScans := item.userScans
  avgTotalUserCost := item.avgTotalUserCost
  avgUserImpact := item.avgUserImpact
  recommendedIndexName := item.recommendedIndexName
  collectedAt := collectedAt

def fragmentationSnapshotOf (instanceId : Uuid) (collectedAt : Timestamp)
    (item : IndexFragmentationItem) : IndexFragmentationSnapshot where
  instanceId := instanceId
  databaseName := item.databaseName
  schemaName := item.schemaName
  tableName := item.tableName
  indexName := item.indexName
  indexType := item.indexType
  partitionNumber := item.partitionNumber
  avgFragmentationInPercent := item.avgFragmentationInPercent
  pageCount := item.pageCount
  recommendedAction := item.recommendedAction
  onlineRebuildSupported := item.onlineRebuildSupported
  collectedAt := collectedAt

-- An error without a text counts as none, as it does where the result is stored.
def attemptOutcome {A : Type} (rowOf : A → IndexSnapshotRow) (error : Option String)
    (items : Option (List A)) : Except String (List IndexSnapshotRow) :=
  match error.filter (· ≠ "") with
  | some message => .error message
  | none => .ok ((items.getD []).map rowOf)

def attemptOfResult (instanceId : Uuid) (collectedAt : Timestamp)
    (result : IndexDatabaseCollectionResult) : IndexType → IndexAttempt
  | .missing =>
    ⟨collectedAt, attemptOutcome (fun item => .missing (missingSnapshotOf instanceId collectedAt item))
      result.missingError result.missingItems⟩
  | .fragmentation =>
    ⟨collectedAt, attemptOutcome
      (fun item => .fragmentation (fragmentationSnapshotOf instanceId collectedAt item))
      result.fragmentationError result.fragmentationItems⟩

variable (key : IndexCollectionKey)

def IndexEvent.attempt (event : IndexEvent) : Option IndexAttempt :=
  if event.commits ∧ event.due key.indexType ∧ key = event.key key.indexType then
    event.result.map fun result =>
      attemptOfResult event.instanceId event.collectedAt result key.indexType
  else none

def DatabaseListing.due (listing : DatabaseListing) : IndexType → Bool
  | .missing => listing.missingDue
  | .fragmentation => listing.fragmentationDue

-- Only a listing that fails leaves an attempt, at the name for all databases.
def DatabaseListing.attempt (listing : DatabaseListing) : Option IndexAttempt :=
  if listing.commits ∧ listing.due key.indexType ∧
      key = ⟨listing.instanceId, "*", key.indexType⟩ then
    match listing.clientFactory listing.connectionString >>= listUserDatabases with
    | .ok _ => none
    | .error exc => some ⟨listing.collectedAt, .error (indexCollectionErrorMessage exc)⟩
  else none

def IndexTransaction.attempt : IndexTransaction → Option IndexAttempt
  | .databases listing => listing.attempt key
  | .result event => event.attempt key

def attemptsAt (transactions : List IndexTransaction) : List IndexAttempt :=
  transactions.filterMap (·.attempt key)

end Histories

section Tables

def lastRows (history : List IndexAttempt) : List IndexSnapshotRow :=
  ((lastSuccess history).map Prod.snd).getD []

def statusAfter (history : List IndexAttempt) : Option IndexCollectionStatus :=
  history.getLast?.map fun last =>
    { lastSuccessAt := (lastSuccess history).map Prod.fst
      lastFailureAt := (lastFailure history).map Prod.fst
      status := match last.outcome with
        | .ok _ => .success
        | .error _ => .failed
      errorMessage := match last.outcome with
        | .ok _ => none
        | .error message => some message
      itemCount := (lastRows history).length
      updatedAt := some last.time }

structure Tells (store : IndexStore) (key : IndexCollectionKey)
    (history : List IndexAttempt) : Prop where
  rows : rowsOf store key = lastRows history
  status : store.statuses key = statusAfter history

variable {store next : IndexStore} {key : IndexCollectionKey} {history : List IndexAttempt}
  {time : Timestamp} {message : String} {rows : List IndexSnapshotRow}

@[simp] theorem lastRows_append_ok :
    lastRows (history ++ [⟨time, .ok rows⟩]) = rows := by
  simp [lastRows]

@[simp] theorem lastRows_append_error :
    lastRows (history ++ [⟨time, .error message⟩]) = lastRows history := by
  simp [lastRows]

theorem Tells.kept (tells : Tells store key history) (kept : Kept store next key) :
    Tells next key history :=
  ⟨kept.rows.trans tells.rows, kept.status.trans tells.status⟩

theorem Tells.status_getD (tells : Tells store key history) :
    (getOrCreateIndexCollectionStatus store key).lastSuccessAt =
        (lastSuccess history).map Prod.fst ∧
      (getOrCreateIndexCollectionStatus store key).lastFailureAt =
        (lastFailure history).map Prod.fst ∧
      (getOrCreateIndexCollectionStatus store key).itemCount = (lastRows history).length := by
  rw [getOrCreateIndexCollectionStatus, tells.status]
  cases history.eq_nil_or_concat' with
  | inl empty =>
      subst empty
      exact ⟨rfl, rfl, rfl⟩
  | inr split =>
      obtain ⟨earlier, last, rfl⟩ := split
      simp [statusAfter]

theorem tells_failed (tells : Tells store key history) (time : Timestamp) (message : String) :
    Tells (markIndexCollectionFailed key.instanceId key.databaseName time key.indexType message
      store) key (history ++ [⟨time, .error message⟩]) := by
  obtain ⟨succeeded, -, counted⟩ := tells.status_getD
  refine ⟨?_, ?_⟩
  · rw [lastRows_append_error]
    exact tells.rows
  · have stored : (markIndexCollectionFailed key.instanceId key.databaseName time key.indexType
        message store).statuses key = some
          { getOrCreateIndexCollectionStatus store key with
            status := .failed
            lastFailureAt := some time
            errorMessage := some message
            updatedAt := some time } := Function.update_self ..
    rw [stored, statusAfter, List.getLast?_concat, Option.map_some, lastSuccess_append_error,
      lastFailure_append_error, lastRows_append_error, ← succeeded, ← counted]
    rfl

theorem tells_succeeded (tells : Tells store key history) (time : Timestamp)
    (replaced : rowsOf next key = rows) (statuses : next.statuses = store.statuses) :
    Tells (markIndexCollectionSuccess key.instanceId key.databaseName time key.indexType
      rows.length next) key (history ++ [⟨time, .ok rows⟩]) := by
  have same : getOrCreateIndexCollectionStatus next key =
      getOrCreateIndexCollectionStatus store key := by
    rw [getOrCreateIndexCollectionStatus, statuses]
    rfl
  obtain ⟨-, failed, -⟩ := tells.status_getD
  refine ⟨?_, ?_⟩
  · rw [lastRows_append_ok]
    exact replaced
  · have stored : (markIndexCollectionSuccess key.instanceId key.databaseName time key.indexType
        rows.length next).statuses key = some
          { getOrCreateIndexCollectionStatus next key with
            status := .success
            lastSuccessAt := some time
            errorMessage := none
            itemCount := rows.length
            updatedAt := some time } := Function.update_self ..
    rw [stored, same, statusAfter, List.getLast?_concat, Option.map_some, lastSuccess_append_ok,
      lastFailure_append_ok, lastRows_append_ok, ← failed]
    rfl

end Tables

section Results

variable {store : IndexStore} {key : IndexCollectionKey} {history : List IndexAttempt}
  {event : IndexEvent} {result : IndexDatabaseCollectionResult} {instanceId : Uuid}
  {databaseName : String} {collectedAt : Timestamp}

theorem rowsOf_replaceMissing {items : List MissingIndexCandidate}
    (named : ∀ item ∈ items, item.databaseName = databaseName) :
    rowsOf (replaceMissingIndexSnapshots instanceId databaseName collectedAt items store)
        ⟨instanceId, databaseName, .missing⟩ =
      items.map fun item => .missing (missingSnapshotOf instanceId collectedAt item) := by
  simp only [rowsOf, replaceMissingIndexSnapshots, decide_not]
  rw [filter_replaced_self, List.map_map]
  · rfl
  · simpa using named

theorem rowsOf_replaceFragmentation {items : List IndexFragmentationItem}
    (named : ∀ item ∈ items, item.databaseName = databaseName) :
    rowsOf (replaceIndexFragmentationSnapshots instanceId databaseName collectedAt items store)
        ⟨instanceId, databaseName, .fragmentation⟩ =
      items.map fun item => .fragmentation (fragmentationSnapshotOf instanceId collectedAt item) := by
  simp only [rowsOf, replaceIndexFragmentationSnapshots, decide_not]
  rw [filter_replaced_self, List.map_map]
  · rfl
  · simpa using named

theorem tells_persistIndexType {A : Type} {rowOf : A → IndexSnapshotRow} {error : Option String}
    {items : Option (List A)} {replace : List A → IndexStore → IndexStore}
    (tells : Tells store key history)
    (replaced : rowsOf (replace (items.getD []) store) key = (items.getD []).map rowOf)
    (statuses : (replace (items.getD []) store).statuses = store.statuses) :
    Tells (persistIndexType key.instanceId collectedAt key.databaseName key.indexType error items
      replace store) key (history ++ [⟨collectedAt, attemptOutcome rowOf error items⟩]) := by
  unfold persistIndexType attemptOutcome
  cases error.filter (· ≠ "") with
  | some message => exact tells_failed tells collectedAt message
  | none =>
      have written := tells_succeeded tells collectedAt replaced statuses
      rwa [List.length_map] at written

def persistType (event : IndexEvent) (result : IndexDatabaseCollectionResult)
    (store : IndexStore) : IndexType → IndexStore
  | .missing =>
    if event.missingDue then persistMissing event.instanceId result event.collectedAt store else store
  | .fragmentation =>
    if event.fragmentationDue then
      persistFragmentation event.instanceId result event.collectedAt store
    else store

theorem typeWritten_persistType (names : event.NamesRequested)
    (finished : event.result = some result) (indexType : IndexType) :
    TypeWritten event indexType store (persistType event result store indexType) := by
  cases indexType with
  | missing => exact missing_written names finished
  | fragmentation => exact fragmentation_written names finished

theorem tells_persistType (names : event.NamesRequested) (finished : event.result = some result)
    {indexType : IndexType} (due : event.due indexType = true)
    (tells : Tells store (event.key indexType) history) :
    Tells (persistType event result store indexType) (event.key indexType)
      (history ++ [attemptOfResult event.instanceId event.collectedAt result indexType]) := by
  have named := result_databaseName finished
  cases indexType with
  | missing =>
      have missingDue : event.missingDue = true := due
      rw [persistType, if_pos missingDue, persistMissing, named]
      exact tells_persistIndexType tells
        (rowsOf_replaceMissing (missingItems_named names finished)) rfl
  | fragmentation =>
      have fragmentationDue : event.fragmentationDue = true := due
      rw [persistType, if_pos fragmentationDue, persistFragmentation, named]
      exact tells_persistIndexType tells
        (rowsOf_replaceFragmentation (fragmentationItems_named names finished)) rfl

theorem tells_both (write : IndexType → IndexStore → IndexStore) (due : IndexType → Bool)
    (keyOf : IndexType → IndexCollectionKey) (attempt : IndexType → IndexAttempt)
    (typed : ∀ indexType, (keyOf indexType).indexType = indexType)
    (others : ∀ indexType store, (due indexType = true → key ≠ keyOf indexType) →
      Kept store (write indexType store) key)
    (own : ∀ indexType store, due indexType = true → key = keyOf indexType →
      Tells store key history →
      Tells (write indexType store) key (history ++ [attempt indexType]))
    (tells : Tells store key history) :
    Tells (write .fragmentation (write .missing store)) key
      (history ++ if due key.indexType ∧ key = keyOf key.indexType then [attempt key.indexType]
        else []) := by
  have apart : ∀ indexType, key.indexType ≠ indexType → key ≠ keyOf indexType :=
    fun indexType differ same => differ (by rw [same, typed])
  by_cases written : due key.indexType = true ∧ key = keyOf key.indexType
  · rw [if_pos written]
    obtain ⟨isDue, here⟩ := written
    cases type : key.indexType with
    | missing =>
        rw [type] at isDue here
        have kept := others .fragmentation (write .missing store) fun _ => apart _ (by simp [type])
        exact (own .missing store isDue here tells).kept kept
    | fragmentation =>
        rw [type] at isDue here
        have kept := others .missing store fun _ => apart _ (by simp [type])
        exact own .fragmentation _ isDue here (tells.kept kept)
  · rw [if_neg written, List.append_nil]
    have elsewhere : ∀ indexType, due indexType = true → key ≠ keyOf indexType := by
      intro indexType isDue here
      obtain rfl : key.indexType = indexType := by rw [here, typed]
      exact written ⟨isDue, here⟩
    exact tells.kept ((others .missing store (elsewhere .missing)).trans
      (others .fragmentation _ (elsewhere .fragmentation)))

theorem tells_applyIndexEvent (names : event.NamesRequested) (tells : Tells store key history) :
    Tells (applyIndexEvent event store) key (history ++ (event.attempt key).toList) := by
  by_cases aborted : event.result = none ∨ event.commits = false
  · have none : event.attempt key = none := by
      rcases aborted with unfinished | uncommitted
      · simp [IndexEvent.attempt, unfinished]
      · simp [IndexEvent.attempt, uncommitted]
    rw [applyIndexEvent_aborted aborted, none]
    simpa using tells
  · obtain ⟨finished, committed⟩ := not_or.mp aborted
    obtain ⟨result, found⟩ := Option.ne_none_iff_exists'.mp finished
    have commits : event.commits = true := by simpa using committed
    have applied : applyIndexEvent event store =
        persistType event result (persistType event result store .missing) .fragmentation := by
      simp only [applyIndexEvent, found, if_pos commits]
      rfl
    have attempted : (event.attempt key).toList =
        if event.due key.indexType ∧ key = event.key key.indexType then
          [attemptOfResult event.instanceId event.collectedAt result key.indexType]
        else [] := by
      simp only [IndexEvent.attempt, commits, found, true_and, Option.map_some]
      split <;> rfl
    rw [applied, attempted]
    refine tells_both (fun indexType store => persistType event result store indexType) event.due
      event.key _ (fun _ => rfl)
      (fun indexType store => (typeWritten_persistType names found indexType).others key) ?_ tells
    rintro indexType store due rfl tells
    exact tells_persistType names found due tells

end Results

section Listings

variable {store : IndexStore} {key : IndexCollectionKey} {history : List IndexAttempt}

def markType (listing : DatabaseListing) (exc : PyException) (indexType : IndexType)
    (store : IndexStore) : IndexStore :=
  if listing.due indexType then
    markIndexCollectionFailed listing.instanceId "*" listing.collectedAt indexType
      (indexCollectionErrorMessage exc) store
  else store

theorem tells_applyDatabaseListing (listing : DatabaseListing) (tells : Tells store key history) :
    Tells (applyDatabaseListing listing store) key (history ++ (listing.attempt key).toList) := by
  cases answered : listing.clientFactory listing.connectionString >>= listUserDatabases with
  | ok databases =>
      have none : listing.attempt key = none := by simp [DatabaseListing.attempt, answered]
      simp only [applyDatabaseListing, answered, none]
      simpa using tells
  | error exc =>
      cases commits : listing.commits with
      | false =>
          have none : listing.attempt key = none := by simp [DatabaseListing.attempt, commits]
          simp only [applyDatabaseListing, answered, commits, none]
          simpa using tells
      | true =>
          have applied : applyDatabaseListing listing store =
              markType listing exc .fragmentation (markType listing exc .missing store) := by
            simp only [applyDatabaseListing, answered, commits, if_true]
            rfl
          have attempted : (listing.attempt key).toList =
              if listing.due key.indexType ∧ key = ⟨listing.instanceId, "*", key.indexType⟩ then
                [⟨listing.collectedAt, .error (indexCollectionErrorMessage exc)⟩]
              else [] := by
            simp only [DatabaseListing.attempt, answered, commits, true_and]
            split <;> rfl
          rw [applied, attempted]
          refine tells_both (markType listing exc) listing.due
            (fun indexType => ⟨listing.instanceId, "*", indexType⟩)
            (fun _ => ⟨listing.collectedAt, .error (indexCollectionErrorMessage exc)⟩)
            (fun _ => rfl) ?_ ?_ tells
          · intro indexType store apart
            unfold markType
            split
            next due => exact kept_markFailed _ (apart due)
            next => exact ⟨rfl, rfl⟩
          · rintro indexType store due rfl tells
            rw [markType, if_pos due]
            exact tells_failed tells listing.collectedAt _

end Listings

section Runs

variable {key : IndexCollectionKey}

theorem tells_empty (key : IndexCollectionKey) : Tells emptyIndexStore key [] := by
  refine ⟨?_, rfl⟩
  unfold rowsOf
  split <;> rfl

theorem tells_runIndexCollections (transactions : List IndexTransaction)
    (names : ∀ transaction ∈ transactions, transaction.NamesRequested) :
    Tells (runIndexCollections transactions) key (attemptsAt key transactions) := by
  unfold runIndexCollections
  induction transactions using List.reverseRecOn with
  | nil => exact tells_empty key
  | append_singleton earlier transaction ih =>
      have before := ih fun other member => names other (List.mem_append_left _ member)
      have requested := names transaction (by simp)
      have attempted : attemptsAt key (earlier ++ [transaction]) =
          attemptsAt key earlier ++ (transaction.attempt key).toList := by
        rw [attemptsAt, List.filterMap_append, attemptsAt]
        cases attempted : transaction.attempt key <;> simp [attempted]
      rw [List.foldl_append, List.foldl_cons, List.foldl_nil, attempted]
      cases transaction with
      | databases listing => exact tells_applyDatabaseListing listing before
      | result event => exact tells_applyIndexEvent requested before

end Runs

section Found

variable {event : IndexEvent} {result : IndexDatabaseCollectionResult} {key : IndexCollectionKey}
  {time : Timestamp} {rows : List IndexSnapshotRow}

theorem attemptOutcome_message {A : Type} {rowOf : A → IndexSnapshotRow} {error : String}
    {items : Option (List A)} (nonempty : error ≠ "") :
    attemptOutcome rowOf (some error) items = .error error := by
  simp [attemptOutcome, Option.filter_some, nonempty]

theorem attempt_eq_some {attempt : IndexAttempt} (attempted : event.attempt key = some attempt) :
    event.due key.indexType = true ∧ key = event.key key.indexType ∧
      ∃ result, event.result = some result ∧
        attemptOfResult event.instanceId event.collectedAt result key.indexType = attempt := by
  unfold IndexEvent.attempt at attempted
  obtain ⟨⟨-, due, here⟩, found⟩ := Option.ite_none_right_eq_some.mp attempted
  obtain ⟨result, finished, same⟩ := Option.map_eq_some_iff.mp found
  exact ⟨due, here, result, finished, same⟩

theorem reports_stored {A : Type} {listing : Raises (List A)} {error : Option String}
    {items : Option (List A)} {rowOf : A → IndexSnapshotRow} (reports : Reports listing error items)
    (stored : attemptOutcome rowOf error items = .ok rows) :
    ∃ found, listing = .ok found ∧ rows = found.map rowOf := by
  cases listing with
  | error exc =>
      obtain ⟨rfl, -⟩ := reports
      rw [attemptOutcome_message (indexCollectionErrorMessage_ne_empty exc)] at stored
      exact nomatch stored
  | ok found =>
      obtain ⟨rfl, rfl⟩ := reports
      exact ⟨found, rfl, (Except.ok.inj stored).symm⟩

theorem missing_found (type : key.indexType = .missing)
    (attempted : event.attempt key = some ⟨time, .ok rows⟩) :
    event.collectedAt = time ∧ ∃ fuel clientFactory connectionString found,
      event.source = .worker fuel clientFactory connectionString ∧
      missingOutcome fuel clientFactory connectionString key.databaseName = some (.ok found) ∧
      rows = found.map fun item => .missing (missingSnapshotOf key.instanceId time item) := by
  obtain ⟨due, here, result, finished, same⟩ := attempt_eq_some attempted
  rw [type] at due here same
  obtain ⟨rfl, stored⟩ := Attempt.mk.inj same
  subst here
  refine ⟨rfl, ?_⟩
  unfold IndexEvent.result at finished
  split at finished
  next fuel clientFactory connectionString source =>
    obtain ⟨listing, outcome, reports⟩ := (workerResult_of_finished finished).missing due
    obtain ⟨found, rfl, built⟩ := reports_stored reports stored
    exact ⟨fuel, clientFactory, connectionString, found, source, outcome, built⟩
  next secondsText source =>
    obtain rfl := Option.some.inj finished
    have missingDue : event.missingDue = true := due
    rw [timedOutIndexDatabaseResult, if_pos missingDue,
      attemptOutcome_message (timeoutMessage_ne_empty secondsText)] at stored
    cases stored

theorem fragmentation_found (type : key.indexType = .fragmentation)
    (attempted : event.attempt key = some ⟨time, .ok rows⟩) :
    event.collectedAt = time ∧ ∃ fuel clientFactory connectionString found,
      event.source = .worker fuel clientFactory connectionString ∧
      fragmentationOutcome fuel clientFactory connectionString key.databaseName = some (.ok found) ∧
      rows = (found.filter (·.actionEnabled)).map fun item =>
        .fragmentation (fragmentationSnapshotOf key.instanceId time item) := by
  obtain ⟨due, here, result, finished, same⟩ := attempt_eq_some attempted
  rw [type] at due here same
  obtain ⟨rfl, stored⟩ := Attempt.mk.inj same
  subst here
  refine ⟨rfl, ?_⟩
  unfold IndexEvent.result at finished
  split at finished
  next fuel clientFactory connectionString source =>
    obtain ⟨listing, outcome, reports⟩ := (workerResult_of_finished finished).fragmentation due
    obtain ⟨kept, listed, built⟩ := reports_stored reports stored
    cases listing with
    | error exc => cases listed
    | ok found =>
        obtain rfl := Except.ok.inj listed
        exact ⟨fuel, clientFactory, connectionString, found, source, outcome, built⟩
  next secondsText source =>
    obtain rfl := Option.some.inj finished
    have fragmentationDue : event.fragmentationDue = true := due
    rw [timedOutIndexDatabaseResult, if_pos fragmentationDue,
      attemptOutcome_message (timeoutMessage_ne_empty secondsText)] at stored
    cases stored

theorem event_of_lastSuccess {transactions : List IndexTransaction}
    (found : lastSuccess (attemptsAt key transactions) = some (time, rows)) :
    ∃ event, .result event ∈ transactions ∧ event.attempt key = some ⟨time, .ok rows⟩ := by
  obtain ⟨transaction, member, attempted⟩ :=
    List.mem_filterMap.mp (lastSuccess_eq_some found)
  cases transaction with
  | result event => exact ⟨event, member, attempted⟩
  | databases listing =>
      have attempted : listing.attempt key = some ⟨time, .ok rows⟩ := attempted
      unfold DatabaseListing.attempt at attempted
      obtain ⟨-, failed⟩ := Option.ite_none_right_eq_some.mp attempted
      split at failed
      · exact nomatch failed
      · exact absurd (congrArg Attempt.outcome (Option.some.inj failed)) (by simp)

end Found

end SqlMonitor.Collector
