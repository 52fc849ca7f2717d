import SqlMonitor.Collector.IndexHistories
import SqlMonitor.Services.SessionPages
import SqlMonitor.Services.OfferedIndexes
import SqlMonitor.Services.Users
import SqlMonitor.Shared.Decimals

set_option autoImplicit false

namespace SqlMonitor.Services

open Collector Attempts Decimals

/-- Rows of equal figures are in the order of their random ids. -/
structure IdOrder (R : Type) where
  sorted : List R → List R
  perm : ∀ rows, (sorted rows).Perm rows

structure IndexSnapshotPage (A : Type) where
  items : List A
  total : Nat
  checkedAt : Option Timestamp
  collectionStatus : CollectState
  collectionError : Option String
  stale : Bool

section Reading

def latestCollectedAt (collected : List Timestamp) : Option Timestamp := collected.max?

def snapshotStale (checkedAt : Option Timestamp) (nowValue : Timestamp)
    (intervalSeconds : Int) : Bool :=
  match checkedAt with
  | none => true
  | some checkedAt => intervalSeconds * 1000000 < nowValue - checkedAt

def fragmentationSnapshotItem (snapshot : IndexFragmentationSnapshot) : IndexFragmentationItem where
  databaseName := snapshot.databaseName
  schemaName := snapshot.schemaName
  tableName := snapshot.tableName
  indexName := snapshot.indexName
  indexType := snapshot.indexType
  partitionNumber := orNumber (some snapshot.partitionNumber) 1
  avgFragmentationInPercent := snapshot.avgFragmentationInPercent
  pageCount := snapshot.pageCount
  recommendedAction := snapshot.recommendedAction
  actionEnabled := snapshot.recommendedAction = .reorganize ∨ snapshot.recommendedAction = .rebuild
  onlineRebuildSupported := snapshot.onlineRebuildSupported
  errorMessage := none

def storedMissing (row : MissingIndexSnapshot) : MissingIndexSnapshot :=
  { row with
    avgTotalUserCost := numeric 4 row.avgTotalUserCost
    avgUserImpact := numeric 2 row.avgUserImpact }

def storedFragmentation (row : IndexFragmentationSnapshot) : IndexFragmentationSnapshot :=
  { row with avgFragmentationInPercent := numeric 2 row.avgFragmentationInPercent }

variable {R A : Type}

def snapshotPage (byId : IdOrder R) (figure : R → Rat) (collectedAt : R → Timestamp) (item : R → A)
    (rows : List R) (status : Option IndexCollectionStatus) (page pageSize : Nat)
    (now : Timestamp) (intervalSeconds : Int) : IndexSnapshotPage A :=
  let snapshots := pageOf page pageSize (sortDescending figure (byId.sorted rows))
  let checkedAt :=
    match status with
    | some status => status.lastSuccessAt
    | none => latestCollectedAt (snapshots.map collectedAt)
  { items := snapshots.map item
    total := rows.length
    checkedAt
    collectionStatus := (status.map (·.status)).getD .unknown
    collectionError := status.bind (·.errorMessage)
    stale := snapshotStale checkedAt now intervalSeconds }

def systemDatabaseNotSupported : PyException := valueError "SYSTEM_DATABASE_NOT_SUPPORTED"

end Reading

section Services

variable (instances : Uuid → Option InstanceRecord) (store : IndexStore) (now : Timestamp)
  (instanceId : Uuid) (databaseName : String) (page pageSize : Nat)

-- Without such an instance there is no page; the system databases have none either.
def ofUserDatabase {B : Type} (read : InstanceRecord → B) : Raises (Option B) :=
  match instances instanceId with
  | none => .ok none
  | some row =>
    if databaseName.toLower ∈ systemDatabases then .error systemDatabaseNotSupported
    else .ok (some (read row))

def getMissingIndexes (byId : IdOrder MissingIndexSnapshot) :
    Raises (Option (IndexSnapshotPage MissingIndexCandidate)) :=
  ofUserDatabase instances instanceId databaseName fun row =>
    snapshotPage byId (·.avgTotalUserCost) (·.collectedAt) missingSnapshotItem
      ((store.missing.filter fun row => row.instanceId = instanceId ∧
        row.databaseName = databaseName).map storedMissing)
      (store.statuses ⟨instanceId, databaseName, .missing⟩) page pageSize now
      row.missingIndexCollectIntervalSeconds

def getIndexFragmentation (byId : IdOrder IndexFragmentationSnapshot) :
    Raises (Option (IndexSnapshotPage IndexFragmentationItem)) :=
  ofUserDatabase instances instanceId databaseName fun row =>
    snapshotPage byId (·.avgFragmentationInPercent) (·.collectedAt) fragmentationSnapshotItem
      ((store.fragmentation.filter fun row => row.instanceId = instanceId ∧
        row.databaseName = databaseName).map storedFragmentation)
      (store.statuses ⟨instanceId, databaseName, .fragmentation⟩) page pageSize now
      row.indexFragmentationCollectIntervalSeconds

end Services

section Routes

-- The bounds are checked when the request is parsed.
structure PageParameters where
  page : Nat
  pageSize : Nat
  numbered : 1 ≤ page
  sized : 1 ≤ pageSize
  bounded : pageSize ≤ 500

structure MissingIndexListOut extends IndexSnapshotPage MissingIndexCandidate where
  instanceId : Uuid
  databaseName : String
  page : Nat
  pageSize : Nat

structure IndexFragmentationListOut extends IndexSnapshotPage IndexFragmentationItem where
  instanceId : Uuid
  databaseName : String
  onlineRebuildSupported : Bool
  page : Nat
  pageSize : Nat

def unknownInstance : HttpError := ⟨404, "INSTANCE_NOT_FOUND"⟩

def orHttpError {B : Type} : Raises (Option B) → Except HttpError B
  | .error exc => .error ⟨400, exc.text⟩
  | .ok none => .error unknownInstance
  | .ok (some result) => .ok result

def indexReaders : List Role := [.developer, .dba, .admin]

variable (users : UserTable) (userId : Uuid) (instances : Uuid → Option InstanceRecord)
  (store : IndexStore) (now : Timestamp) (instanceId : Uuid) (databaseName : String)
  (parameters : PageParameters)

def getMissingIndexList (byId : IdOrder MissingIndexSnapshot) :
    Except HttpError MissingIndexListOut := do
  let user ← activeUser users userId
  let _ ← requireRoles indexReaders user
  let result ← orHttpError (getMissingIndexes instances store now instanceId databaseName
    parameters.page parameters.pageSize byId)
  return { result, parameters with instanceId, databaseName }

def getIndexFragmentationList (byId : IdOrder IndexFragmentationSnapshot) :
    Except HttpError IndexFragmentationListOut := do
  let user ← activeUser users userId
  let _ ← requireRoles indexReaders user
  let result ← orHttpError (getIndexFragmentation instances store now instanceId databaseName
    parameters.page parameters.pageSize byId)
  return { result, parameters with
    instanceId, databaseName
    onlineRebuildSupported := result.items.any (·.onlineRebuildSupported) }

end Routes

section Tell

structure Summarises {A : Type} (history : List IndexAttempt) (total : Nat)
    (intervalSeconds : Int) (now : Timestamp) (answer : IndexSnapshotPage A) : Prop where
  total : answer.total = total
  checkedAt : answer.checkedAt = (lastSuccess history).map Prod.fst
  untried : history = [] →
    answer.collectionStatus = .unknown ∧ answer.collectionError = none
  ended : ∀ last, history.getLast? = some last →
    (∀ rows, last.outcome = .ok rows →
      answer.collectionStatus = .success ∧ answer.collectionError = none) ∧
    ∀ message, last.outcome = .error message →
      answer.collectionStatus = .failed ∧ answer.collectionError = some message
  fresh : answer.stale = false ↔ ∃ time rows, lastSuccess history = some (time, rows) ∧
    now - time ≤ intervalSeconds * 1000000

structure PagesTell {A : Type} (history : List IndexAttempt) (shown : List A) (figure : A → Rat)
    (intervalSeconds : Int) (now : Timestamp) (pageSize : Nat)
    (page : Nat → Except HttpError (IndexSnapshotPage A)) : Prop where
  answered : ∀ n, ∃ answer, page n = .ok answer ∧
    Summarises history shown.length intervalSeconds now answer
  listed : ∃ sorted : List A, sorted.Perm shown ∧
    (sorted.Pairwise fun item later => figure later ≤ figure item) ∧
    ((List.range (Pages.pageCount shown.length pageSize)).flatMap fun n =>
      ((page n).toOption.map (·.items)).getD []) = sorted
  beyond : ∀ n, Pages.pageCount shown.length pageSize ≤ n →
    (page n).toOption.map (·.items) = some []

variable {R A : Type} {byId : IdOrder R} {figure : R → Rat} {collectedAt : R → Timestamp}
  {item : R → A} {rows : List R} {history : List IndexAttempt} {intervalSeconds : Int}
  {now : Timestamp} {pageSize : Nat}

theorem snapshotStale_eq_false {checkedAt : Option Timestamp} :
    snapshotStale checkedAt now intervalSeconds = false ↔
      ∃ time, checkedAt = some time ∧ now - time ≤ intervalSeconds * 1000000 := by
  cases checkedAt with
  | none => simp [snapshotStale]
  | some time => simp [snapshotStale]

theorem checkedAt_snapshotPage (stored : rows.length = (lastRows history).length) (n : Nat) :
    (snapshotPage byId figure collectedAt item rows (statusAfter history) (n + 1) pageSize now
      intervalSeconds).checkedAt = (lastSuccess history).map Prod.fst := by
  rcases history.eq_nil_or_concat' with rfl | ⟨earlier, last, rfl⟩
  · obtain rfl : rows = [] := List.length_eq_zero_iff.mp stored
    have none : byId.sorted [] = [] := (byId.perm []).eq_nil
    simp [snapshotPage, statusAfter, none, pageOf, sortDescending, latestCollectedAt]
  · simp [snapshotPage, statusAfter]

theorem summarises_snapshotPage (stored : rows.length = (lastRows history).length) (n : Nat) :
    Summarises history rows.length intervalSeconds now
      (snapshotPage byId figure collectedAt item rows (statusAfter history) (n + 1) pageSize now
        intervalSeconds) where
  total := rfl
  checkedAt := checkedAt_snapshotPage stored n
  untried := by
    rintro rfl
    exact ⟨rfl, rfl⟩
  ended := by
    intro last ends
    constructor
    · intro rows ended
      simp [snapshotPage, statusAfter, ends, ended]
    · intro message ended
      simp [snapshotPage, statusAfter, ends, ended]
  fresh := by
    change snapshotStale (snapshotPage byId figure collectedAt item rows (statusAfter history)
      (n + 1) pageSize now intervalSeconds).checkedAt now intervalSeconds = false ↔ _
    rw [checkedAt_snapshotPage stored, snapshotStale_eq_false]
    simp

theorem pagesTell_of_snapshotPage {figureOf : A → Rat} (figures : ∀ row, figureOf (item row) = figure row)
    (stored : rows.length = (lastRows history).length) (sized : 1 ≤ pageSize)
    {page : Nat → Except HttpError (IndexSnapshotPage A)}
    (pages : ∀ n, page n = .ok (snapshotPage byId figure collectedAt item rows
      (statusAfter history) (n + 1) pageSize now intervalSeconds)) :
    PagesTell history (rows.map item) figureOf intervalSeconds now pageSize page := by
  have perm : (sortDescending figure (byId.sorted rows)).Perm rows :=
    (sortDescending_perm figure _).trans (byId.perm rows)
  have items : ∀ n, ((page n).toOption.map (·.items)) =
      some ((Pages.slice pageSize (sortDescending figure (byId.sorted rows)) n).map item) := by
    intro n
    rw [pages n]
    rfl
  refine ⟨?_, ⟨(sortDescending figure (byId.sorted rows)).map item, perm.map item, ?_, ?_⟩, ?_⟩
  · intro n
    refine ⟨_, pages n, ?_⟩
    rw [List.length_map]
    exact summarises_snapshotPage stored n
  · rw [List.pairwise_map]
    simp only [figures]
    exact sortDescending_pairwise figure _
  · simp only [items, Option.getD_some]
    rw [List.length_map, ← List.map_flatMap, ← perm.length_eq, ← Pages.upTo,
      Pages.upTo_pageCount sized]
  · intro n past
    rw [items n, Pages.slice_eq_nil, List.map_nil]
    rw [List.length_map] at past
    rw [perm.length_eq]
    exact (Pages.le_pageCount_mul _ sized).trans (Nat.mul_le_mul_right _ past)

theorem PagesTell.mem_shown {shown : List A} {figureOf : A → Rat}
    {page : Nat → Except HttpError (IndexSnapshotPage A)} {n : Nat} {answer : IndexSnapshotPage A}
    (tell : PagesTell history shown figureOf intervalSeconds now pageSize page)
    (answered : page n = .ok answer) {entry : A} (member : entry ∈ answer.items) : entry ∈ shown := by
  have items : (page n).toOption.map (·.items) = some answer.items := by
    rw [answered]
    rfl
  obtain ⟨sorted, perm, -, gathered⟩ := tell.listed
  by_cases past : Pages.pageCount shown.length pageSize ≤ n
  · rw [tell.beyond n past] at items
    rw [← Option.some.inj items] at member
    exact absurd member List.not_mem_nil
  · rw [← perm.mem_iff, ← gathered]
    refine List.mem_flatMap.mpr ⟨n, List.mem_range.mpr (by omega), ?_⟩
    rw [items]
    exact member

end Tell

section Shown

def shownCandidate (item : MissingIndexCandidate) : MissingIndexCandidate :=
  { item with
    avgTotalUserCost := numeric 4 item.avgTotalUserCost
    avgUserImpact := numeric 2 item.avgUserImpact }

def shownFragmentation (item : IndexFragmentationItem) : IndexFragmentationItem :=
  { item with avgFragmentationInPercent := numeric 2 item.avgFragmentationInPercent }

variable {fuel : Nat} {clientFactory : String → Raises IndexClient} {client : IndexClient}
  {connectionString databaseName : String} {instanceId : Uuid} {time : Timestamp}

theorem missingSnapshotItem_stored {item : MissingIndexCandidate}
    (enabled : item.createEnabled = true ∧ item.errorMessage = none) :
    missingSnapshotItem (storedMissing (missingSnapshotOf instanceId time item)) =
      shownCandidate item := by
  cases item
  obtain ⟨rfl, rfl⟩ := enabled
  rfl

theorem enabled_of_listed {items : List MissingIndexCandidate}
    (listed : listMissingIndexes fuel client databaseName = some (.ok items)) :
    ∀ item ∈ items, item.createEnabled = true ∧ item.errorMessage = none := by
  refine collectPages_forall ?_ fuel 1 [] (by simp) listed
  intro page result fetched item member
  simp only [listMissingIndexesPage, bind_eq_ok, pure_eq_ok] at fetched
  obtain ⟨_, -, _, -, rows, -, rfl⟩ := fetched
  obtain ⟨row, -, built⟩ := List.mem_filterMap.mp member
  simp only [missingIndexCandidate, Option.ite_none_left_eq_some, Option.some.injEq] at built
  obtain ⟨-, rfl⟩ := built
  exact ⟨rfl, rfl⟩

theorem shown_of_missing {items : List MissingIndexCandidate}
    (outcome : missingOutcome fuel clientFactory connectionString databaseName = some (.ok items)) :
    items.map (fun item => missingSnapshotItem (storedMissing (missingSnapshotOf instanceId time item))) =
      items.map shownCandidate := by
  unfold missingOutcome at outcome
  split at outcome
  next => exact nomatch outcome
  next client connected =>
    refine List.map_congr_left fun item member => ?_
    exact missingSnapshotItem_stored (enabled_of_listed outcome item member)

structure FromCatalog (item : IndexFragmentationItem) : Prop where
  numbered : item.partitionNumber ≠ 0
  recommended : item.recommendedAction =
    recommendFragmentationAction item.avgFragmentationInPercent item.pageCount
  enabled : item.actionEnabled =
    decide (item.recommendedAction = .reorganize ∨ item.recommendedAction = .rebuild)
  faultless : item.errorMessage = none

theorem orNumber_some {number : Int} (nonzero : number ≠ 0) : orNumber (some number) 1 = number := by
  simp [orNumber, Option.filter_some, nonzero]

theorem fragmentationSnapshotItem_stored {item : IndexFragmentationItem}
    (listed : FromCatalog item) :
    fragmentationSnapshotItem (storedFragmentation (fragmentationSnapshotOf instanceId time item)) =
      shownFragmentation item := by
  simp only [fragmentationSnapshotItem, storedFragmentation, fragmentationSnapshotOf,
    shownFragmentation, listed.enabled, listed.faultless, orNumber_some listed.numbered]
  rfl

theorem orNumber_ne_zero (value : Option Int) : orNumber value 1 ≠ 0 := by
  unfold orNumber
  cases kept : value.filter (· ≠ 0) with
  | none => decide
  | some number =>
      have nonzero := (Option.filter_eq_some_iff.mp kept).2
      simpa using nonzero

theorem fromCatalog_of_listed {items : List IndexFragmentationItem}
    (listed : listIndexFragmentation fuel client databaseName = some (.ok items)) :
    ∀ item ∈ items, FromCatalog item := by
  obtain ⟨listing, done, sorted⟩ := Option.map_eq_some_iff.mp listed
  cases listing with
  | error exc => simp [Except.map] at sorted
  | ok found =>
      obtain rfl : byFragmentation found = items := by simpa [Except.map] using sorted
      have all : ∀ item ∈ found, FromCatalog item := by
        refine collectPages_forall ?_ fuel 1 [] (by simp) done
        intro page result fetched item member
        simp only [listIndexFragmentationPage, bind_eq_ok, pure_eq_ok] at fetched
        obtain ⟨_, -, _, -, _, -, _, -, rows, -, rfl⟩ := fetched
        obtain ⟨row, -, rfl⟩ := List.mem_map.mp ((mem_byFragmentation _ item).mp member)
        exact ⟨orNumber_ne_zero _, rfl, rfl, rfl⟩
      exact fun item member => all item ((mem_byFragmentation found item).mp member)

theorem fromCatalog_of_outcome {items : List IndexFragmentationItem}
    (outcome : fragmentationOutcome fuel clientFactory connectionString databaseName =
      some (.ok items)) : ∀ item ∈ items, FromCatalog item := by
  unfold fragmentationOutcome at outcome
  split at outcome
  next => exact nomatch outcome
  next client connected => exact fromCatalog_of_listed outcome

theorem shown_of_fragmentation {items : List IndexFragmentationItem}
    (outcome : fragmentationOutcome fuel clientFactory connectionString databaseName =
      some (.ok items)) :
    (items.filter (·.actionEnabled)).map (fun item => fragmentationSnapshotItem
        (storedFragmentation (fragmentationSnapshotOf instanceId time item))) =
      (items.filter (·.actionEnabled)).map shownFragmentation := by
  refine List.map_congr_left fun item member => ?_
  exact fragmentationSnapshotItem_stored
    (fromCatalog_of_outcome outcome item (List.mem_of_mem_filter member))

end Shown

section LastCollection

variable (users : UserTable) (userId : Uuid) (instances : Uuid → Option InstanceRecord)
  (store : IndexStore) (now : Timestamp) (instanceId : Uuid) (databaseName : String)

-- Page `n + 1` of the two listings, without what the request gave.
def missingPageAt (byId : IdOrder MissingIndexSnapshot) {pageSize : Nat} (sized : 1 ≤ pageSize)
    (bounded : pageSize ≤ 500) (n : Nat) : Except HttpError (IndexSnapshotPage MissingIndexCandidate) :=
  (getMissingIndexList users userId instances store now instanceId databaseName
    ⟨n + 1, pageSize, Nat.succ_pos n, sized, bounded⟩ byId).map (·.toIndexSnapshotPage)

def fragmentationPageAt (byId : IdOrder IndexFragmentationSnapshot) {pageSize : Nat}
    (sized : 1 ≤ pageSize) (bounded : pageSize ≤ 500) (n : Nat) :
    Except HttpError (IndexSnapshotPage IndexFragmentationItem) :=
  (getIndexFragmentationList users userId instances store now instanceId databaseName
    ⟨n + 1, pageSize, Nat.succ_pos n, sized, bounded⟩ byId).map (·.toIndexSnapshotPage)

variable {users userId instances store now instanceId databaseName}

section Answers

variable {user : UserRow} {row : InstanceRecord} {pageSize : Nat}

theorem ofUserDatabase_eq {B : Type} (found : instances instanceId = some row)
    (userDatabase : databaseName.toLower ∉ systemDatabases) (read : InstanceRecord → B) :
    ofUserDatabase instances instanceId databaseName read = .ok (some (read row)) := by
  simp only [ofUserDatabase, found, if_neg userDatabase]

theorem missingPageAt_eq (active : activeUser users userId = .ok user)
    (reader : user.role ∈ indexReaders) (found : instances instanceId = some row)
    (userDatabase : databaseName.toLower ∉ systemDatabases) (byId : IdOrder MissingIndexSnapshot)
    (sized : 1 ≤ pageSize) (bounded : pageSize ≤ 500) (n : Nat) :
    missingPageAt users userId instances store now instanceId databaseName byId sized bounded n =
      .ok (snapshotPage byId (·.avgTotalUserCost) (·.collectedAt) missingSnapshotItem
        ((store.missing.filter fun row => row.instanceId = instanceId ∧
          row.databaseName = databaseName).map storedMissing)
        (store.statuses ⟨instanceId, databaseName, .missing⟩) (n + 1) pageSize now
        row.missingIndexCollectIntervalSeconds) := by
  have allowed : requireRoles indexReaders user = .ok user := if_pos reader
  simp only [missingPageAt, getMissingIndexList, active, bind, Except.bind, allowed,
    getMissingIndexes, ofUserDatabase_eq found userDatabase]
  rfl

theorem fragmentationPageAt_eq (active : activeUser users userId = .ok user)
    (reader : user.role ∈ indexReaders) (found : instances instanceId = some row)
    (userDatabase : databaseName.toLower ∉ systemDatabases)
    (byId : IdOrder IndexFragmentationSnapshot) (sized : 1 ≤ pageSize) (bounded : pageSize ≤ 500)
    (n : Nat) :
    fragmentationPageAt users userId instances store now instanceId databaseName byId sized bounded
        n =
      .ok (snapshotPage byId (·.avgFragmentationInPercent) (·.collectedAt) fragmentationSnapshotItem
        ((store.fragmentation.filter fun row => row.instanceId = instanceId ∧
          row.databaseName = databaseName).map storedFragmentation)
        (store.statuses ⟨instanceId, databaseName, .fragmentation⟩) (n + 1) pageSize now
        row.indexFragmentationCollectIntervalSeconds) := by
  have allowed : requireRoles indexReaders user = .ok user := if_pos reader
  simp only [fragmentationPageAt, getIndexFragmentationList, active, bind, Except.bind, allowed,
    getIndexFragmentation, ofUserDatabase_eq found userDatabase]
  rfl

end Answers

def missingRows (rows : List IndexSnapshotRow) : List MissingIndexSnapshot :=
  rows.filterMap fun row =>
    match row with
    | .missing row => some row
    | .fragmentation _ => none

def fragmentationRows (rows : List IndexSnapshotRow) : List IndexFragmentationSnapshot :=
  rows.filterMap fun row =>
    match row with
    | .missing _ => none
    | .fragmentation row => some row

theorem missingRows_map {A : Type} (rowOf : A → MissingIndexSnapshot) (items : List A) :
    missingRows (items.map fun item => .missing (rowOf item)) = items.map rowOf := by
  simp [missingRows, List.filterMap_map]

theorem fragmentationRows_map {A : Type} (rowOf : A → IndexFragmentationSnapshot)
    (items : List A) :
    fragmentationRows (items.map fun item => .fragmentation (rowOf item)) = items.map rowOf := by
  simp [fragmentationRows, List.filterMap_map]

/-- What the last success at missing indexes found is what is shown; nothing is without one. -/
def ShowsLastMissing (transactions : List IndexTransaction) (key : IndexCollectionKey)
    (shown : List MissingIndexCandidate) : Prop :=
  match lastSuccess (attemptsAt key transactions) with
  | none => shown = []
  | some (time, rows) => ∃ event, .result event ∈ transactions ∧
      event.attempt key = some ⟨time, .ok rows⟩ ∧
      ∃ fuel clientFactory connectionString found,
        event.source = .worker fuel clientFactory connectionString ∧
        missingOutcome fuel clientFactory connectionString key.databaseName = some (.ok found) ∧
        shown = found.map shownCandidate

-- Of the fragmentation figures only those with an action are kept.
def ShowsLastFragmentation (transactions : List IndexTransaction) (key : IndexCollectionKey)
    (shown : List IndexFragmentationItem) : Prop :=
  match lastSuccess (attemptsAt key transactions) with
  | none => shown = []
  | some (time, rows) => ∃ event, .result event ∈ transactions ∧
      event.attempt key = some ⟨time, .ok rows⟩ ∧
      ∃ fuel clientFactory connectionString found,
        event.source = .worker fuel clientFactory connectionString ∧
        fragmentationOutcome fuel clientFactory connectionString key.databaseName =
          some (.ok found) ∧
        shown = (found.filter (·.actionEnabled)).map shownFragmentation

variable {transactions : List IndexTransaction}

theorem showsLastMissing (instanceId : Uuid) (databaseName : String) :
    ShowsLastMissing transactions ⟨instanceId, databaseName, .missing⟩
      (((missingRows (lastRows (attemptsAt ⟨instanceId, databaseName, .missing⟩ transactions))).map
        storedMissing).map missingSnapshotItem) := by
  unfold ShowsLastMissing
  split
  next none => simp [lastRows, none, missingRows]
  next time rows success =>
    obtain ⟨event, member, attempted⟩ := event_of_lastSuccess success
    obtain ⟨-, fuel, clientFactory, connectionString, found, source, outcome, rfl⟩ :=
      missing_found rfl attempted
    refine ⟨event, member, attempted, fuel, clientFactory, connectionString, found, source, outcome, ?_⟩
    rw [lastRows, success, Option.map_some, Option.getD_some, missingRows_map, List.map_map,
      List.map_map]
    exact shown_of_missing outcome

theorem showsLastFragmentation (instanceId : Uuid) (databaseName : String) :
    ShowsLastFragmentation transactions ⟨instanceId, databaseName, .fragmentation⟩
      (((fragmentationRows (lastRows (attemptsAt ⟨instanceId, databaseName, .fragmentation⟩
        transactions))).map storedFragmentation).map fragmentationSnapshotItem) := by
  unfold ShowsLastFragmentation
  split
  next none => simp [lastRows, none, fragmentationRows]
  next time rows success =>
    obtain ⟨event, member, attempted⟩ := event_of_lastSuccess success
    obtain ⟨-, fuel, clientFactory, connectionString, found, source, outcome, rfl⟩ :=
      fragmentation_found rfl attempted
    refine ⟨event, member, attempted, fuel, clientFactory, connectionString, found, source, outcome, ?_⟩
    rw [lastRows, success, Option.map_some, Option.getD_some, fragmentationRows_map, List.map_map,
      List.map_map]
    exact shown_of_fragmentation outcome

theorem missing_rows_of_tells {history : List IndexAttempt}
    (tells : Tells store ⟨instanceId, databaseName, .missing⟩ history) :
    (store.missing.filter fun row => row.instanceId = instanceId ∧
      row.databaseName = databaseName) = missingRows (lastRows history) ∧
      (missingRows (lastRows history)).length = (lastRows history).length := by
  have same : missingRows (rowsOf store ⟨instanceId, databaseName, .missing⟩) = _ :=
    (missingRows_map id _).trans (List.map_id _)
  have counted : (rowsOf store ⟨instanceId, databaseName, .missing⟩).length = _ := List.length_map _
  rw [← tells.rows, same]
  exact ⟨rfl, counted.symm⟩

theorem fragmentation_rows_of_tells {history : List IndexAttempt}
    (tells : Tells store ⟨instanceId, databaseName, .fragmentation⟩ history) :
    (store.fragmentation.filter fun row => row.instanceId = instanceId ∧
      row.databaseName = databaseName) = fragmentationRows (lastRows history) ∧
      (fragmentationRows (lastRows history)).length = (lastRows history).length := by
  have same : fragmentationRows (rowsOf store ⟨instanceId, databaseName, .fragmentation⟩) = _ :=
    (fragmentationRows_map id _).trans (List.map_id _)
  have counted : (rowsOf store ⟨instanceId, databaseName, .fragmentation⟩).length = _ := List.length_map _
  rw [← tells.rows, same]
  exact ⟨rfl, counted.symm⟩

section Telling

variable {user : UserRow} {row : InstanceRecord} {pageSize : Nat}

theorem missing_pages_tell (names : ∀ transaction ∈ transactions, transaction.NamesRequested)
    (active : activeUser users userId = .ok user) (reader : user.role ∈ indexReaders)
    (found : instances instanceId = some row)
    (userDatabase : databaseName.toLower ∉ systemDatabases) (byId : IdOrder MissingIndexSnapshot)
    (sized : 1 ≤ pageSize) (bounded : pageSize ≤ 500) :
    ∃ shown, ShowsLastMissing transactions ⟨instanceId, databaseName, .missing⟩ shown ∧
      PagesTell (attemptsAt ⟨instanceId, databaseName, .missing⟩ transactions) shown
        (·.avgTotalUserCost) row.missingIndexCollectIntervalSeconds now pageSize
        (missingPageAt users userId instances (runIndexCollections transactions) now instanceId
          databaseName byId sized bounded) := by
  have tells : Tells (runIndexCollections transactions) ⟨instanceId, databaseName, .missing⟩ _ :=
    tells_runIndexCollections transactions names
  obtain ⟨rows, stored⟩ := missing_rows_of_tells tells
  have pages := @missingPageAt_eq users userId instances (runIndexCollections transactions) now
    instanceId databaseName _ _ _ active reader found userDatabase byId sized bounded
  simp only [rows, tells.status] at pages
  exact ⟨_, showsLastMissing instanceId databaseName,
    pagesTell_of_snapshotPage (fun _ => rfl) (by rw [List.length_map, stored]) sized pages⟩

theorem fragmentation_pages_tell
    (names : ∀ transaction ∈ transactions, transaction.NamesRequested)
    (active : activeUser users userId = .ok user) (reader : user.role ∈ indexReaders)
    (found : instances instanceId = some row)
    (userDatabase : databaseName.toLower ∉ systemDatabases)
    (byId : IdOrder IndexFragmentationSnapshot) (sized : 1 ≤ pageSize) (bounded : pageSize ≤ 500) :
    ∃ shown, ShowsLastFragmentation transactions ⟨instanceId, databaseName, .fragmentation⟩ shown ∧
      PagesTell (attemptsAt ⟨instanceId, databaseName, .fragmentation⟩ transactions) shown
        (·.avgFragmentationInPercent) row.indexFragmentationCollectIntervalSeconds now pageSize
        (fragmentationPageAt users userId instances (runIndexCollections transactions) now
          instanceId databaseName byId sized bounded) := by
  have tells : Tells (runIndexCollections transactions)
      ⟨instanceId, databaseName, .fragmentation⟩ _ := tells_runIndexCollections transactions names
  obtain ⟨rows, stored⟩ := fragmentation_rows_of_tells tells
  have pages := @fragmentationPageAt_eq users userId instances (runIndexCollections transactions)
    now instanceId databaseName _ _ _ active reader found userDatabase byId sized bounded
  simp only [rows, tells.status] at pages
  exact ⟨_, showsLastFragmentation instanceId databaseName,
    pagesTell_of_snapshotPage (fun _ => rfl) (by rw [List.length_map, stored]) sized pages⟩

theorem index_pages_tell_last_collection (transactions : List IndexTransaction)
    (names : ∀ transaction ∈ transactions, transaction.NamesRequested)
    (active : activeUser users userId = .ok user) (reader : user.role ∈ indexReaders)
    (found : instances instanceId = some row)
    (userDatabase : databaseName.toLower ∉ systemDatabases)
    (missingById : IdOrder MissingIndexSnapshot)
    (fragmentationById : IdOrder IndexFragmentationSnapshot)
    (sized : 1 ≤ pageSize) (bounded : pageSize ≤ 500) :
    (∃ shown, ShowsLastMissing transactions ⟨instanceId, databaseName, .missing⟩ shown ∧
      PagesTell (attemptsAt ⟨instanceId, databaseName, .missing⟩ transactions) shown
        (·.avgTotalUserCost) row.missingIndexCollectIntervalSeconds now pageSize
        (missingPageAt users userId instances (runIndexCollections transactions) now instanceId
          databaseName missingById sized bounded)) ∧
      ∃ shown, ShowsLastFragmentation transactions ⟨instanceId, databaseName, .fragmentation⟩
          shown ∧
        PagesTell (attemptsAt ⟨instanceId, databaseName, .fragmentation⟩ transactions) shown
          (·.avgFragmentationInPercent) row.indexFragmentationCollectIntervalSeconds now pageSize
          (fragmentationPageAt users userId instances (runIndexCollections transactions) now
            instanceId databaseName fragmentationById sized bounded) :=
  ⟨missing_pages_tell names active reader found userDatabase missingById sized bounded,
    fragmentation_pages_tell names active reader found userDatabase fragmentationById sized bounded⟩

end Telling

def developers : UserTable := .ofList [(3, ⟨⟨3, "eve", none, .developer⟩, "", .active⟩)]

def unordered (R : Type) : IdOrder R := ⟨id, List.Perm.refl⟩

def salesTransactions : List IndexTransaction := [.result salesCollected, .result salesTimedOut]

theorem salesTransactions_namesRequested :
    ∀ transaction ∈ salesTransactions, transaction.NamesRequested := by
  have noWorker : salesTimedOut.NamesRequested := by
    intro fuel clientFactory connectionString source
    exact nomatch source
  simp [salesTransactions, IndexTransaction.NamesRequested, salesCollected_namesRequested, noWorker]

theorem index_pages_tell_last_collection_sales :
    ∃ shown answer, ShowsLastMissing salesTransactions ⟨1, "sales", .missing⟩ shown ∧
      missingPageAt developers 3 (fun _ => some default) (runIndexCollections salesTransactions)
        86400 1 "sales" (unordered _) (show 1 ≤ 20 by decide) (by decide) 0 = .ok answer ∧
      answer.total = shown.length ∧
      answer.checkedAt = some 0 ∧ answer.collectionStatus = .failed := by
  obtain ⟨shown, last, tell⟩ := (@index_pages_tell_last_collection developers 3
    (fun _ => some default) 86400 1 "sales" _ _ 20 salesTransactions
    salesTransactions_namesRequested rfl (by decide) rfl (by decide +kernel) (unordered _)
    (unordered _) (by decide) (by decide)).1
  obtain ⟨answer, answered, summary⟩ := tell.answered 0
  refine ⟨shown, answer, last, answered, summary.total, ?_, ?_⟩
  · rw [summary.checkedAt]
    rfl
  · exact ((summary.ended _ rfl).2 _ rfl).1

end LastCollection

end SqlMonitor.Services
