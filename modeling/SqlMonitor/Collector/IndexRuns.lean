import Mathlib.Data.List.Induction
import SqlMonitor.Collector.IndexConsistency

set_option autoImplicit false

namespace SqlMonitor.Collector

open Services

section Messages

theorem ofList_ne_empty {chars : List Char} (nonempty : chars ≠ []) : String.ofList chars ≠ "" := by
  intro same
  apply nonempty
  have chars_eq := congrArg String.toList same
  simpa using chars_eq

theorem exceptionText_ne_nil (exc : PyException) : exceptionText exc ≠ [] := by
  unfold exceptionText
  split
  next =>
    intro unnamed
    exact exc.named (String.toList_eq_nil_iff.mp unnamed)
  next present => exact present

theorem indexCollectionErrorMessage_ne_empty (exc : PyException) :
    indexCollectionErrorMessage exc ≠ "" := by
  unfold indexCollectionErrorMessage
  simp only
  split
  next => exact ofList_ne_empty (by simp)
  next => exact ofList_ne_empty (exceptionText_ne_nil exc)

theorem timeoutMessage_ne_empty (secondsText : String) : timeoutMessage secondsText ≠ "" := by
  intro empty
  have leading := (String.append_eq_empty_iff.mp (String.append_eq_empty_iff.mp empty).1).1
  exact absurd leading (by decide)

end Messages

section Events

inductive ResultSource where
  | worker (fuel : Nat) (clientFactory : String → Raises IndexClient) (connectionString : String)
  | timedOut (secondsText : String)

structure IndexEvent where
  instanceId : Uuid
  databaseName : String
  missingDue : Bool
  fragmentationDue : Bool
  collectedAt : Timestamp
  source : ResultSource
  commits : Bool

variable (event : IndexEvent)

def IndexEvent.result : Option IndexDatabaseCollectionResult :=
  match event.source with
  | .worker fuel clientFactory connectionString =>
    collectOneIndexDatabase fuel clientFactory connectionString event.databaseName event.missingDue
      event.fragmentationDue
  | .timedOut secondsText =>
    some (timedOutIndexDatabaseResult event.databaseName event.missingDue event.fragmentationDue
      secondsText)

-- Without a result there is nothing to persist; without a commit nothing persists.
def applyIndexEvent (store : IndexStore) : IndexStore :=
  match event.result with
  | none => store
  | some result =>
    if event.commits then
      persistIndexDatabaseCollectionResult event.instanceId result event.collectedAt event.missingDue
        event.fragmentationDue store
    else store

def IndexEvent.due : IndexType → Bool
  | .missing => event.missingDue
  | .fragmentation => event.fragmentationDue

def IndexEvent.key (indexType : IndexType) : IndexCollectionKey :=
  ⟨event.instanceId, event.databaseName, indexType⟩

def IndexEvent.outcome (indexType : IndexType) : Option (Raises Unit) :=
  match event.source, indexType with
  | .worker fuel clientFactory connectionString, .missing =>
    (missingOutcome fuel clientFactory connectionString event.databaseName).map (·.map fun _ => ())
  | .worker fuel clientFactory connectionString, .fragmentation =>
    (fragmentationOutcome fuel clientFactory connectionString event.databaseName).map (·.map fun _ => ())
  | .timedOut _, _ => none

-- A timeout, or an exception while the type was collected.
def IndexEvent.Fails (indexType : IndexType) : Prop :=
  (∃ secondsText, event.source = .timedOut secondsText) ∨
    ∃ exc, event.outcome indexType = some (.error exc)

def IndexEvent.NamesRequested : Prop :=
  ∀ fuel clientFactory connectionString, event.source = .worker fuel clientFactory connectionString →
    ∀ client, clientFactory connectionString = .ok client →
      Services.NamesRequested client event.databaseName

end Events

section Results

def Reports {A : Type} (listing : Raises (List A)) (error : Option String)
    (items : Option (List A)) : Prop :=
  match listing with
  | .error exc => error = some (indexCollectionErrorMessage exc) ∧ items = none
  | .ok found => error = none ∧ items = some found

theorem settle_due {A : Type} {outcome : Option (Raises (List A))} {items : Option (List A)}
    {error : Option String} (settled : settle true outcome = some (items, error)) :
    ∃ listing, outcome = some listing ∧ Reports listing error items := by
  simp only [settle, if_true, Option.map_eq_some_iff] at settled
  obtain ⟨listing, found, same⟩ := settled
  refine ⟨listing, found, ?_⟩
  cases listing with
  | error exc =>
      obtain ⟨rfl, rfl⟩ := Prod.mk.inj same
      exact ⟨rfl, rfl⟩
  | ok found =>
      obtain ⟨rfl, rfl⟩ := Prod.mk.inj same
      exact ⟨rfl, rfl⟩

theorem settle_idle {A : Type} {outcome : Option (Raises (List A))} {items : Option (List A)}
    {error : Option String} (settled : settle false outcome = some (items, error)) :
    items = none := by
  simp only [settle, Bool.false_eq_true, if_false, Option.some.injEq, Prod.mk.injEq] at settled
  exact settled.1.symm

structure WorkerResult (fuel : Nat) (clientFactory : String → Raises IndexClient)
    (connectionString databaseName : String) (missingDue fragmentationDue : Bool)
    (result : IndexDatabaseCollectionResult) : Prop where
  named : result.databaseName = databaseName
  missing : missingDue = true → ∃ listing,
    missingOutcome fuel clientFactory connectionString databaseName = some listing ∧
      Reports listing result.missingError result.missingItems
  fragmentation : fragmentationDue = true → ∃ listing,
    fragmentationOutcome fuel clientFactory connectionString databaseName = some listing ∧
      Reports (listing.map fun items => items.filter (·.actionEnabled)) result.fragmentationError
        result.fragmentationItems
  missingIdle : missingDue = false → result.missingItems = none
  fragmentationIdle : fragmentationDue = false → result.fragmentationItems = none

theorem workerResult_of_finished {fuel : Nat} {clientFactory : String → Raises IndexClient}
    {connectionString databaseName : String} {missingDue fragmentationDue : Bool}
    {result : IndexDatabaseCollectionResult}
    (finished : collectOneIndexDatabase fuel clientFactory connectionString databaseName missingDue
      fragmentationDue = some result) :
    WorkerResult fuel clientFactory connectionString databaseName missingDue fragmentationDue result := by
  unfold collectOneIndexDatabase at finished
  cases connected : clientFactory connectionString with
  | error exc =>
      simp only [connected, Option.some.injEq] at finished
      subst finished
      refine ⟨rfl, ?_, ?_, fun _ => rfl, fun _ => rfl⟩
      · intro due
        exact ⟨.error exc, by simp [missingOutcome, connected], by simp [Reports, due]⟩
      · intro due
        exact ⟨.error exc, by simp [fragmentationOutcome, connected],
          by simp [Reports, due, Except.map]⟩
  | ok client =>
      simp only [connected] at finished
      split at finished
      next missingItems missingError allItems fragmentationError missing fragmentation =>
        simp only [Option.some.injEq] at finished
        subst finished
        refine ⟨rfl, ?_, ?_, ?_, ?_⟩
        · intro due
          rw [due] at missing
          obtain ⟨listing, found, reports⟩ := settle_due missing
          exact ⟨listing, by simp [missingOutcome, connected, found], reports⟩
        · intro due
          rw [due] at fragmentation
          obtain ⟨listing, found, reports⟩ := settle_due fragmentation
          refine ⟨listing, by simp [fragmentationOutcome, connected, found], ?_⟩
          cases listing with
          | error exc => exact ⟨reports.1, by simp [reports.2]⟩
          | ok items => exact ⟨reports.1, by simp [reports.2]⟩
        · intro idle
          rw [idle] at missing
          exact settle_idle missing
        · intro idle
          rw [idle] at fragmentation
          simp [settle_idle fragmentation]
      next => simp at finished

variable {event : IndexEvent} {result : IndexDatabaseCollectionResult}

theorem result_databaseName (finished : event.result = some result) :
    result.databaseName = event.databaseName := by
  unfold IndexEvent.result at finished
  split at finished
  next => exact (workerResult_of_finished finished).named
  next =>
    obtain rfl := Option.some.inj finished
    rfl

structure Reported (event : IndexEvent) (indexType : IndexType) (error : Option String) : Prop where
  fails : event.Fails indexType → ∃ message, error = some message ∧ message ≠ ""
  passes : ¬ event.Fails indexType → error = none

theorem reported_of_worker {A : Type} {fuel : Nat} {clientFactory : String → Raises IndexClient}
    {connectionString : String} {indexType : IndexType} {listing : Raises (List A)}
    {error : Option String}
    {items : Option (List A)} (source : event.source = .worker fuel clientFactory connectionString)
    (outcome : event.outcome indexType = some (listing.map fun _ => ()))
    (reports : Reports listing error items) :
    Reported event indexType error := by
  cases listing with
  | error exc =>
      refine ⟨fun _ => ⟨_, reports.1, indexCollectionErrorMessage_ne_empty exc⟩, fun passes => ?_⟩
      exact absurd (Or.inr ⟨exc, outcome⟩) passes
  | ok found =>
      refine ⟨fun fails => ?_, fun _ => reports.1⟩
      rcases fails with ⟨secondsText, timedOut⟩ | ⟨exc, raised⟩
      · simp [source] at timedOut
      · simp [outcome, Except.map] at raised

theorem missing_reported (finished : event.result = some result) (due : event.missingDue = true) :
    Reported event .missing result.missingError := by
  unfold IndexEvent.result at finished
  split at finished
  next fuel clientFactory connectionString source =>
    obtain ⟨listing, found, reports⟩ := (workerResult_of_finished finished).missing due
    exact reported_of_worker source (by simp [IndexEvent.outcome, source, found]) reports
  next secondsText source =>
    obtain rfl := Option.some.inj finished
    refine ⟨fun _ => ⟨_, if_pos due, timeoutMessage_ne_empty secondsText⟩, fun passes => ?_⟩
    exact absurd (Or.inl ⟨secondsText, source⟩) passes

theorem fragmentation_reported (finished : event.result = some result)
    (due : event.fragmentationDue = true) :
    Reported event .fragmentation result.fragmentationError := by
  unfold IndexEvent.result at finished
  split at finished
  next fuel clientFactory connectionString source =>
    obtain ⟨listing, found, reports⟩ := (workerResult_of_finished finished).fragmentation due
    refine reported_of_worker source ?_ reports
    cases listing <;> simp [IndexEvent.outcome, source, found, Except.map]
  next secondsText source =>
    obtain rfl := Option.some.inj finished
    refine ⟨fun _ => ⟨_, if_pos due, timeoutMessage_ne_empty secondsText⟩, fun passes => ?_⟩
    exact absurd (Or.inl ⟨secondsText, source⟩) passes

theorem missingItems_named (names : event.NamesRequested) (finished : event.result = some result) :
    ∀ item ∈ result.missingItems.getD [], item.databaseName = event.databaseName := by
  unfold IndexEvent.result at finished
  split at finished
  next fuel clientFactory connectionString source =>
    have told := workerResult_of_finished finished
    cases due : event.missingDue with
    | false => simp [told.missingIdle due]
    | true =>
        obtain ⟨listing, found, reports⟩ := told.missing due
        cases listing with
        | error exc => simp [reports.2]
        | ok items =>
            unfold missingOutcome at found
            split at found
            next => simp at found
            next client connected =>
              rw [reports.2]
              exact databaseName_of_missing (names _ _ _ source client connected) found
  next =>
    obtain rfl := Option.some.inj finished
    simp [timedOutIndexDatabaseResult]

theorem fragmentationItems_named (names : event.NamesRequested)
    (finished : event.result = some result) :
    ∀ item ∈ result.fragmentationItems.getD [], item.databaseName = event.databaseName := by
  unfold IndexEvent.result at finished
  split at finished
  next fuel clientFactory connectionString source =>
    have told := workerResult_of_finished finished
    cases due : event.fragmentationDue with
    | false => simp [told.fragmentationIdle due]
    | true =>
        obtain ⟨listing, found, reports⟩ := told.fragmentation due
        cases listing with
        | error exc => simp [reports.2]
        | ok items =>
            unfold fragmentationOutcome at found
            split at found
            next => simp at found
            next client connected =>
              have named :=
                databaseName_of_fragmentation (names _ _ _ source client connected) found
              rw [reports.2]
              intro item member
              exact named item (List.mem_of_mem_filter member)
  next =>
    obtain rfl := Option.some.inj finished
    simp [timedOutIndexDatabaseResult]

end Results

section Steps

variable {event : IndexEvent} {store next last : IndexStore}

theorem key_ne_of_indexType_ne {indexType other : IndexType} (differ : indexType ≠ other) :
    event.key indexType ≠ event.key other :=
  fun same => differ (congrArg IndexCollectionKey.indexType same)

structure TypeWritten (event : IndexEvent) (indexType : IndexType)
    (store next : IndexStore) : Prop where
  others : ∀ key, (event.due indexType = true → key ≠ event.key indexType) → Kept store next key
  failed : event.due indexType = true → event.Fails indexType →
    FailureNoted store next (event.key indexType)
  replaced : event.due indexType = true → ¬ event.Fails indexType →
    Replaced next (event.key indexType) event.collectedAt

theorem typeWritten {A : Type} {indexType : IndexType} {replace : List A → IndexStore → IndexStore}
    {nameOf : A → String} {error : Option String} {items : Option (List A)}
    (reported : event.due indexType = true → Reported event indexType error)
    (replaces : ReplacesRows replace (event.key indexType) event.collectedAt nameOf)
    (named : ∀ item ∈ items.getD [], nameOf item = event.databaseName) :
    TypeWritten event indexType store
      (if event.due indexType then
        persistIndexType event.instanceId event.collectedAt event.databaseName indexType error items
          replace store
      else store) := by
  cases due : event.due indexType with
  | false =>
      refine ⟨fun _ _ => ⟨rfl, rfl⟩, ?_, ?_⟩ <;> simp [due]
  | true =>
      refine ⟨?_, ?_, ?_⟩
      · intro key apart
        exact persistIndexType_kept replaces named (apart due)
      · intro _ fails
        obtain ⟨message, raised, nonempty⟩ := (reported due).fails fails
        exact persistIndexType_failed raised nonempty
      · intro _ passes
        exact persistIndexType_succeeded replaces named ((reported due).passes passes)

theorem missing_written {result : IndexDatabaseCollectionResult} (names : event.NamesRequested)
    (finished : event.result = some result) :
    TypeWritten event .missing store
      (if event.missingDue then persistMissing event.instanceId result event.collectedAt store
        else store) := by
  unfold persistMissing
  rw [result_databaseName finished]
  exact typeWritten (missing_reported finished)
    (replacesRows_missing event.instanceId event.databaseName event.collectedAt)
    (missingItems_named names finished)

theorem fragmentation_written {result : IndexDatabaseCollectionResult}
    (names : event.NamesRequested)
    (finished : event.result = some result) :
    TypeWritten event .fragmentation store
      (if event.fragmentationDue then persistFragmentation event.instanceId result event.collectedAt store
      else store) := by
  unfold persistFragmentation
  rw [result_databaseName finished]
  exact typeWritten (fragmentation_reported finished)
    (replacesRows_fragmentation event.instanceId event.databaseName event.collectedAt)
    (fragmentationItems_named names finished)

structure EventWritten (event : IndexEvent) (store next : IndexStore) : Prop where
  others : ∀ key, (∀ indexType, event.due indexType = true → key ≠ event.key indexType) →
    Kept store next key
  failed : ∀ indexType, event.due indexType = true → event.Fails indexType →
    FailureNoted store next (event.key indexType)
  replaced : ∀ indexType, event.due indexType = true → ¬ event.Fails indexType →
    Replaced next (event.key indexType) event.collectedAt

theorem eventWritten (missing : TypeWritten event .missing store next)
    (fragmentation : TypeWritten event .fragmentation next last) :
    EventWritten event store last := by
  have keptBefore : Kept store next (event.key .fragmentation) :=
    missing.others _ fun _ => key_ne_of_indexType_ne (by decide)
  have keptAfter : Kept next last (event.key .missing) :=
    fragmentation.others _ fun _ => key_ne_of_indexType_ne (by decide)
  refine ⟨?_, ?_, ?_⟩
  · intro key apart
    exact (missing.others key (apart .missing)).trans (fragmentation.others key (apart .fragmentation))
  · intro indexType due fails
    cases indexType with
    | missing => exact (missing.failed due fails).kept keptAfter
    | fragmentation => exact FailureNoted.of_kept keptBefore (fragmentation.failed due fails)
  · intro indexType due passes
    cases indexType with
    | missing => exact (missing.replaced due passes).kept keptAfter
    | fragmentation => exact fragmentation.replaced due passes

theorem eventWritten_of_committed (names : event.NamesRequested) (finished : event.result.isSome)
    (committed : event.commits = true) :
    EventWritten event store (applyIndexEvent event store) := by
  obtain ⟨result, found⟩ := Option.isSome_iff_exists.mp finished
  simp only [applyIndexEvent, found, if_pos committed]
  exact eventWritten (missing_written names found) (fragmentation_written names found)

theorem applyIndexEvent_aborted (aborted : event.result = none ∨ event.commits = false) :
    applyIndexEvent event store = store := by
  unfold applyIndexEvent
  split
  next => rfl
  next result found =>
    rcases aborted with unfinished | uncommitted
    · simp [found] at unfinished
    · simp [uncommitted]

theorem EventWritten.changed (written : EventWritten event store next) (key : IndexCollectionKey) :
    Changed store next key := by
  by_cases touched : ∃ indexType, event.due indexType = true ∧ key = event.key indexType
  · obtain ⟨indexType, due, rfl⟩ := touched
    by_cases fails : event.Fails indexType
    · exact .failed (written.failed indexType due fails)
    · exact .replaced _ (written.replaced indexType due fails)
  · exact .kept (written.others key fun indexType due same => touched ⟨indexType, due, same⟩)

end Steps

section Runs

-- The listing of the databases that comes before the results of a collection.
structure DatabaseListing where
  instanceId : Uuid
  missingDue : Bool
  fragmentationDue : Bool
  collectedAt : Timestamp
  clientFactory : String → Raises IndexClient
  connectionString : String
  commits : Bool

def applyDatabaseListing (listing : DatabaseListing) (store : IndexStore) : IndexStore :=
  match listing.clientFactory listing.connectionString >>= listUserDatabases with
  | .ok _ => store
  | .error exc =>
    if listing.commits then
      markDatabasesFailed listing.instanceId listing.collectedAt listing.missingDue
        listing.fragmentationDue exc store
    else store

inductive IndexTransaction where
  | databases (listing : DatabaseListing)
  | result (event : IndexEvent)

def applyIndexTransaction (store : IndexStore) : IndexTransaction → IndexStore
  | .databases listing => applyDatabaseListing listing store
  | .result event => applyIndexEvent event store

def emptyIndexStore : IndexStore := ⟨[], [], fun _ => none⟩

def runIndexCollections (transactions : List IndexTransaction) : IndexStore :=
  transactions.foldl applyIndexTransaction emptyIndexStore

def IndexTransaction.NamesRequested : IndexTransaction → Prop
  | .databases _ => True
  | .result event => event.NamesRequested

theorem consistentAt_empty (key : IndexCollectionKey) : ConsistentAt emptyIndexStore key := by
  have noRows : rowsOf emptyIndexStore key = [] := by
    unfold rowsOf
    split <;> rfl
  refine ⟨?_, ?_, ?_⟩
  · rw [noRows]
    rfl
  · simp [noRows]
  · exact fun present => absurd noRows present

variable {store : IndexStore} {instanceId : Uuid} {collectedAt : Timestamp} {exc : PyException}
  {missingDue fragmentationDue : Bool} {key : IndexCollectionKey}

theorem consistentAt_markDatabasesFailed (consistent : ConsistentAt store key) :
    ConsistentAt (markDatabasesFailed instanceId collectedAt missingDue fragmentationDue exc store)
      key := by
  have marked : ∀ (indexType : IndexType) (store : IndexStore), ConsistentAt store key →
      ConsistentAt (markIndexCollectionFailed instanceId "*" collectedAt indexType
        (indexCollectionErrorMessage exc) store) key := by
    intro indexType store consistent
    by_cases same : key = ⟨instanceId, "*", indexType⟩
    · subst same
      exact consistent.changed
        (.failed (failureNoted_markFailed (indexCollectionErrorMessage_ne_empty exc)))
    · exact consistent.changed (.kept (kept_markFailed _ same))
  unfold markDatabasesFailed
  cases missingDue <;> cases fragmentationDue <;> simp [consistent, marked]

theorem kept_markDatabasesFailed (named : key.databaseName ≠ "*") :
    Kept store (markDatabasesFailed instanceId collectedAt missingDue fragmentationDue exc store) key := by
  have apart : ∀ indexType, key ≠ ⟨instanceId, "*", indexType⟩ :=
    fun indexType same => named (congrArg IndexCollectionKey.databaseName same)
  have marked : ∀ (indexType : IndexType) (store : IndexStore),
      Kept store (markIndexCollectionFailed instanceId "*" collectedAt indexType
        (indexCollectionErrorMessage exc) store) key :=
    fun indexType store => kept_markFailed _ (apart indexType)
  unfold markDatabasesFailed
  cases missingDue <;> cases fragmentationDue
  · exact ⟨rfl, rfl⟩
  · exact marked .fragmentation store
  · exact marked .missing store
  · exact (marked .missing store).trans (marked .fragmentation _)

theorem consistentAt_applyDatabaseListing (listing : DatabaseListing)
    (consistent : ConsistentAt store key) :
    ConsistentAt (applyDatabaseListing listing store) key := by
  unfold applyDatabaseListing
  split
  next => exact consistent
  next =>
    split
    next => exact consistentAt_markDatabasesFailed consistent
    next => exact consistent

theorem kept_applyDatabaseListing (listing : DatabaseListing) (named : key.databaseName ≠ "*") :
    Kept store (applyDatabaseListing listing store) key := by
  unfold applyDatabaseListing
  split
  next => exact ⟨rfl, rfl⟩
  next =>
    split
    next => exact kept_markDatabasesFailed named
    next => exact ⟨rfl, rfl⟩

theorem consistentAt_applyIndexTransaction {transaction : IndexTransaction}
    (names : transaction.NamesRequested)
    (consistent : ConsistentAt store key) :
    ConsistentAt (applyIndexTransaction store transaction) key := by
  cases transaction with
  | databases listing => exact consistentAt_applyDatabaseListing listing consistent
  | result event =>
      by_cases aborted : event.result = none ∨ event.commits = false
      · rw [applyIndexTransaction, applyIndexEvent_aborted aborted]
        exact consistent
      · obtain ⟨finished, committed⟩ := not_or.mp aborted
        have written : EventWritten event store (applyIndexEvent event store) :=
          eventWritten_of_committed names (Option.isSome_iff_ne_none.mpr finished)
            (by simpa using committed)
        exact consistent.changed (written.changed key)

theorem consistentAt_runIndexCollections (transactions : List IndexTransaction)
    (names : ∀ transaction ∈ transactions, transaction.NamesRequested) :
    ConsistentAt (runIndexCollections transactions) key := by
  unfold runIndexCollections
  induction transactions using List.reverseRecOn with
  | nil => exact consistentAt_empty key
  | append_singleton earlier transaction ih =>
      rw [List.foldl_append, List.foldl_cons, List.foldl_nil]
      refine consistentAt_applyIndexTransaction (names transaction (by simp)) (ih ?_)
      exact fun other member => names other (List.mem_append_left _ member)

end Runs

theorem index_collections_consistent (transactions : List IndexTransaction)
    (names : ∀ transaction ∈ transactions, transaction.NamesRequested) :
    (∀ key, ConsistentAt (runIndexCollections transactions) key) ∧
      (∀ event : IndexEvent, event.NamesRequested →
        (event.result.isSome → event.commits = true →
          EventWritten event (runIndexCollections transactions)
            (runIndexCollections (transactions ++ [.result event]))) ∧
        (event.result = none ∨ event.commits = false →
          runIndexCollections (transactions ++ [.result event]) = runIndexCollections transactions)) ∧
      ∀ listing key, key.databaseName ≠ "*" →
        Kept (runIndexCollections transactions)
          (runIndexCollections (transactions ++ [.databases listing])) key := by
  have extended : ∀ transaction, runIndexCollections (transactions ++ [transaction]) =
      applyIndexTransaction (runIndexCollections transactions) transaction := by
    intro transaction
    simp [runIndexCollections, List.foldl_append]
  refine ⟨fun key => consistentAt_runIndexCollections transactions names, ?_, ?_⟩
  · intro event namesEvent
    rw [extended]
    exact ⟨eventWritten_of_committed namesEvent, applyIndexEvent_aborted⟩
  · intro listing key named
    rw [extended]
    exact kept_applyDatabaseListing listing named

def salesClient : IndexClient where
  userDatabases := .ok [some "sales"]
  missingTotal := fun _ _ => .ok [some 1]
  missingRows := fun _ _ _ =>
    .ok [{ schemaName := some "dbo", tableName := some "orders", equalityColumns := some "[region]" }]
  onlineSupport := fun _ => .ok []
  fragmentationTotal := fun _ _ => .ok []
  fragmentationRows := fun _ _ _ => .ok []

def salesCollected : IndexEvent :=
  ⟨1, "sales", true, false, 0, .worker 1 (fun _ => .ok salesClient) "dsn", true⟩

def salesTimedOut : IndexEvent := ⟨1, "sales", true, false, 86400, .timedOut "30", true⟩

theorem salesCollected_namesRequested : salesCollected.NamesRequested := by
  intro fuel clientFactory connectionString source client connected
  obtain ⟨rfl, rfl, rfl⟩ := ResultSource.worker.inj source
  obtain rfl := Except.ok.inj connected
  refine ⟨?_, ?_⟩
  · intro first last rows found row member
    obtain rfl := Except.ok.inj found
    obtain rfl := List.mem_singleton.mp member
    exact Or.inl rfl
  · intro first last rows found row member
    obtain rfl := Except.ok.inj found
    simp at member

theorem index_collections_consistent_sales :
    (rowsOf (runIndexCollections [.result salesCollected, .result salesTimedOut])
        (salesTimedOut.key .missing)).length =
      itemCount (runIndexCollections [.result salesCollected, .result salesTimedOut])
        (salesTimedOut.key .missing) ∧
      FailureNoted (runIndexCollections [.result salesCollected])
        (runIndexCollections [.result salesCollected, .result salesTimedOut])
        (salesTimedOut.key .missing) := by
  have noWorker : salesTimedOut.NamesRequested := by
    intro fuel clientFactory connectionString source
    exact nomatch source
  constructor
  · have both : ∀ transaction ∈ [IndexTransaction.result salesCollected, .result salesTimedOut],
        transaction.NamesRequested := by
      simp [IndexTransaction.NamesRequested, salesCollected_namesRequested, noWorker]
    exact ((index_collections_consistent _ both).1 _).counted
  · have one : ∀ transaction ∈ [IndexTransaction.result salesCollected],
        transaction.NamesRequested := by
      simp [IndexTransaction.NamesRequested, salesCollected_namesRequested]
    have written := ((index_collections_consistent _ one).2.1 salesTimedOut noWorker).1 rfl rfl
    exact written.failed .missing rfl (Or.inl ⟨"30", rfl⟩)

end SqlMonitor.Collector
