import SqlMonitor.Collector.IndexBackground

set_option autoImplicit false

namespace SqlMonitor.Collector

open Services IndexScheduler TransitionSystem

section Outcomes

def resultError : IndexType → IndexDatabaseCollectionResult → Option String
  | .missing, result => result.missingError
  | .fragmentation, result => result.fragmentationError

def resultCount : IndexType → IndexDatabaseCollectionResult → Nat
  | .missing, result => (result.missingItems.getD []).length
  | .fragmentation, result => (result.fragmentationItems.getD []).length

/-- The status row tells how the collection ended: with an error, or with a count of items. -/
def Records (status : IndexCollectionStatus) (collectedAt : Timestamp) (error : Option String)
    (count : Nat) : Prop :=
  match error.filter (· ≠ "") with
  | some message =>
    status.status = .failed ∧ status.lastFailureAt = some collectedAt ∧
      status.errorMessage = some message ∧ status.updatedAt = some collectedAt
  | none =>
    status.status = .success ∧ status.lastSuccessAt = some collectedAt ∧
      status.errorMessage = none ∧ status.itemCount = count ∧ status.updatedAt = some collectedAt

def Recorded (store : IndexStore) (key : IndexCollectionKey) (collectedAt : Timestamp)
    (error : Option String) (count : Nat) : Prop :=
  ∃ status, store.statuses key = some status ∧ Records status collectedAt error count

variable (surroundings : IndexSurroundings) (row : InstanceRecord)

def isDue (tables : IndexTables) (indexType : IndexType) : Bool :=
  indexCollectionDue (loadIndexCollectionStatuses tables row.id) indexType surroundings.now
    (intervalSeconds row indexType)

def listDatabases : Raises (String × List String) := do
  let connectionString ← surroundings.decryptConnectionString row.encryptedCollectDsn
  let databases ← surroundings.clientFactory connectionString >>= listUserDatabases
  return (connectionString, databases)

def FailureRecorded (exc : PyException) (indexType : IndexType) (store : IndexStore) : Prop :=
  Recorded store ⟨row.id, "*", indexType⟩ surroundings.now (some (indexCollectionErrorMessage exc)) 0

def DatabaseRecorded (connectionString : String) (databases : List String) (indexType : IndexType)
    (store : IndexStore) (databaseName : String) : Prop :=
  ∃ results, collectIndexDatabasesConcurrently surroundings databases connectionString indexType =
      some results ∧
    ∃ result ∈ results, result.databaseName = databaseName ∧
      Recorded store ⟨row.id, databaseName, indexType⟩ surroundings.now (resultError indexType result)
        (resultCount indexType result)

/-- One row for every database that was listed, or the one for all of them. -/
def OutcomeRecorded (indexType : IndexType) (store : IndexStore) : Prop :=
  match listDatabases surroundings row with
  | .ok (connectionString, databases) =>
    ∀ databaseName ∈ databases,
      DatabaseRecorded surroundings row connectionString databases indexType store databaseName
  | .error exc => FailureRecorded surroundings row exc indexType store

/-- The databases can be listed, or the rows tell of this very failure already. -/
def Listable (tables : IndexTables) : Prop :=
  match listDatabases surroundings row with
  | .ok _ => True
  | .error exc => ∀ indexType, isDue surroundings row tables indexType = true →
      FailureRecorded surroundings row exc indexType tables.store

end Outcomes

section Results

variable {surroundings : IndexSurroundings} {row : InstanceRecord} {indexType : IndexType}
  {result : IndexDatabaseCollectionResult} {store : IndexStore}

theorem recorded_persistIndexType {A : Type} {instanceId : Uuid} {collectedAt : Timestamp}
    {databaseName : String} {error : Option String} {items : Option (List A)}
    {replace : List A → IndexStore → IndexStore} :
    Recorded
      (persistIndexType instanceId collectedAt databaseName indexType error items replace store)
      ⟨instanceId, databaseName, indexType⟩ collectedAt error (items.getD []).length := by
  unfold persistIndexType Recorded Records
  cases error.filter (· ≠ "") with
  | some message => exact ⟨_, Function.update_self .., rfl, rfl, rfl, rfl⟩
  | none => exact ⟨_, Function.update_self .., rfl, rfl, rfl, rfl, rfl⟩

theorem statuses_persistIndexType {A : Type} {instanceId : Uuid} {collectedAt : Timestamp}
    {databaseName : String} {error : Option String} {items : Option (List A)}
    {replace : List A → IndexStore → IndexStore} {key : IndexCollectionKey}
    (untouched : ∀ items store, (replace items store).statuses = store.statuses)
    (apart : key ≠ ⟨instanceId, databaseName, indexType⟩) :
    (persistIndexType instanceId collectedAt databaseName indexType error items replace store).statuses
        key = store.statuses key := by
  unfold persistIndexType
  split
  next => exact Function.update_of_ne apart ..
  next => exact (Function.update_of_ne apart ..).trans (congrFun (untouched _ _) key)

theorem persistResult_missing :
    persistResult surroundings row .missing result = persistMissing row.id result surroundings.now :=
  rfl

theorem persistResult_fragmentation :
    persistResult surroundings row .fragmentation result =
      persistFragmentation row.id result surroundings.now := rfl

theorem recorded_persistResult :
    Recorded (persistResult surroundings row indexType result store)
      ⟨row.id, result.databaseName, indexType⟩ surroundings.now (resultError indexType result)
      (resultCount indexType result) := by
  cases indexType with
  | missing =>
      rw [persistResult_missing]
      exact recorded_persistIndexType
  | fragmentation =>
      rw [persistResult_fragmentation]
      exact recorded_persistIndexType

theorem statuses_persistResult {key : IndexCollectionKey}
    (apart : key ≠ ⟨row.id, result.databaseName, indexType⟩) :
    (persistResult surroundings row indexType result store).statuses key = store.statuses key := by
  cases indexType with
  | missing =>
      rw [persistResult_missing]
      exact statuses_persistIndexType (fun _ _ => rfl) apart
  | fragmentation =>
      rw [persistResult_fragmentation]
      exact statuses_persistIndexType (fun _ _ => rfl) apart

def persistResults (surroundings : IndexSurroundings) (row : InstanceRecord) (indexType : IndexType)
    (results : List IndexDatabaseCollectionResult) (store : IndexStore) : IndexStore :=
  results.foldl (fun store result => persistResult surroundings row indexType result store) store

-- The last result of a database stays; induction on the results from the end.
theorem recorded_persistResults {results : List IndexDatabaseCollectionResult} (store : IndexStore)
    {databaseName : String} (collected : databaseName ∈ results.map (·.databaseName)) :
    ∃ result ∈ results, result.databaseName = databaseName ∧
      Recorded (persistResults surroundings row indexType results store)
        ⟨row.id, databaseName, indexType⟩ surroundings.now (resultError indexType result)
        (resultCount indexType result) := by
  unfold persistResults
  induction results using List.reverseRecOn with
  | nil => simp at collected
  | append_singleton earlier last ih =>
      rw [List.foldl_append, List.foldl_cons, List.foldl_nil]
      by_cases same : last.databaseName = databaseName
      · subst same
        exact ⟨last, by simp, rfl, recorded_persistResult⟩
      · have before : databaseName ∈ earlier.map (·.databaseName) := by
          simpa [Ne.symm same] using collected
        obtain ⟨result, member, named, status, stored, records⟩ := ih before
        have apart : (⟨row.id, databaseName, indexType⟩ : IndexCollectionKey) ≠
            ⟨row.id, last.databaseName, indexType⟩ :=
          fun equal => same (congrArg IndexCollectionKey.databaseName equal).symm
        refine ⟨result, List.mem_append_left _ member, named, status, ?_, records⟩
        rw [statuses_persistResult apart, stored]

theorem statuses_persistResults {key : IndexCollectionKey} (apart : key.indexType ≠ indexType)
    (results : List IndexDatabaseCollectionResult) (store : IndexStore) :
    (persistResults surroundings row indexType results store).statuses key = store.statuses key := by
  unfold persistResults
  induction results generalizing store with
  | nil => rfl
  | cons result rest ih =>
      rw [List.foldl_cons, ih]
      exact statuses_persistResult fun equal => apart (congrArg IndexCollectionKey.indexType equal)

end Results

section Groups

variable {surroundings : IndexSurroundings} {row : InstanceRecord} {databases : List String}
  {connectionString : String} {indexType : IndexType}

theorem collected_databases {results : List IndexDatabaseCollectionResult}
    (collected : collectIndexDatabasesConcurrently surroundings databases connectionString indexType =
      some results) : (results.map (·.databaseName)).Perm databases := by
  unfold collectIndexDatabasesConcurrently at collected
  obtain ⟨s, ran, ends⟩ := Option.bind_eq_some_iff.mp collected
  simp only [Option.ite_none_right_eq_some, Option.some.injEq] at ends
  obtain ⟨finished, rfl⟩ := ends
  rw [List.map_map]
  exact ((delivery (schedulerInv_of_run ran)).complete finished).2

theorem collectGroup_opened {store : IndexStore} {session : Buffered IndexStore}
    (collected : collectGroup surroundings row databases connectionString (.opened store) indexType =
      some session) :
    ∃ results, collectIndexDatabasesConcurrently surroundings databases connectionString indexType =
        some results ∧
      session = .opened (persistResults surroundings row indexType results store) := by
  obtain ⟨results, found, rfl⟩ := Option.map_eq_some_iff.mp collected
  exact ⟨results, found, Buffered.commitEach_opened _ _ _⟩

theorem groups_recorded {groups : List IndexType} (distinct : groups.Nodup) {store : IndexStore}
    {session : Buffered IndexStore}
    (collected : groups.foldlM (collectGroup surroundings row databases connectionString)
      (.opened store) = some session) :
    (∃ last, session = .opened last) ∧
      (∀ key : IndexCollectionKey, key.indexType ∉ groups →
        session.committed.statuses key = store.statuses key) ∧
      ∀ indexType ∈ groups, ∀ databaseName ∈ databases,
        DatabaseRecorded surroundings row connectionString databases indexType session.committed
          databaseName := by
  induction groups generalizing store with
  | nil =>
      obtain rfl : Buffered.opened store = session := by simpa using collected
      exact ⟨⟨store, rfl⟩, fun _ _ => rfl, by simp⟩
  | cons group rest ih =>
      obtain ⟨absent, distinctRest⟩ := List.nodup_cons.mp distinct
      rw [List.foldlM_cons] at collected
      obtain ⟨middle, first, later⟩ := Option.bind_eq_some_iff.mp collected
      obtain ⟨results, found, rfl⟩ := collectGroup_opened first
      obtain ⟨ends, kept, recorded⟩ := ih distinctRest later
      refine ⟨ends, ?_, ?_⟩
      · intro key outside
        obtain ⟨apart, outsideRest⟩ := not_or.mp (List.mem_cons.not.mp outside)
        rw [kept key outsideRest, statuses_persistResults apart]
      · intro indexType member databaseName listed
        rcases List.mem_cons.mp member with rfl | inRest
        · have delivered : databaseName ∈ results.map (·.databaseName) :=
            (collected_databases found).mem_iff.mpr listed
          obtain ⟨result, inside, named, status, stored, records⟩ :
              ∃ result ∈ results, result.databaseName = databaseName ∧
                Recorded (persistResults surroundings row indexType results store)
                  ⟨row.id, databaseName, indexType⟩ surroundings.now (resultError indexType result)
                  (resultCount indexType result) := recorded_persistResults store delivered
          exact ⟨results, found, result, inside, named, status, (kept _ absent).trans stored, records⟩
        · exact recorded indexType inRest databaseName listed

theorem collectionGroups_nodup (missingDue fragmentationDue : Bool) :
    (collectionGroups missingDue fragmentationDue).Nodup := by
  cases missingDue <;> cases fragmentationDue <;> decide

end Groups

section Durability

variable {surroundings : IndexSurroundings} {row : InstanceRecord}
  {statuses : List IndexCollectionStatusValue} {connectionString : String} {store : IndexStore}
  {session : Buffered IndexStore}

theorem unlisted_uncommitted {exc : PyException}
    (unlisted : surroundings.clientFactory connectionString >>= listUserDatabases = .error exc)
    (collected : collectIndexSnapshotsIfDue surroundings row statuses connectionString (.opened store) =
      some session) : session.committed = store := by
  simp only [collectIndexSnapshotsIfDue, unlisted, Buffered.rollback_opened] at collected
  split at collected
  next => exact (congrArg Buffered.committed (Option.some.inj collected)).symm
  next => exact (congrArg Buffered.committed (Option.some.inj collected)).symm

theorem listed_recorded {databases : List String}
    (listed : surroundings.clientFactory connectionString >>= listUserDatabases = .ok databases)
    (collected : collectIndexSnapshotsIfDue surroundings row statuses connectionString (.opened store) =
      some session) {indexType : IndexType}
    (due : indexCollectionDue statuses indexType surroundings.now (intervalSeconds row indexType) =
      true) {databaseName : String} (member : databaseName ∈ databases) :
    DatabaseRecorded surroundings row connectionString databases indexType session.committed
      databaseName := by
  have present : databases ≠ [] := List.ne_nil_of_mem member
  simp only [collectIndexSnapshotsIfDue, listed, if_neg present, Buffered.rollback_opened]
    at collected
  split at collected
  next idle =>
    cases indexType with
    | missing => simp [idle.1] at due
    | fragmentation => simp [idle.2] at due
  next =>
    have groups := groups_recorded (collectionGroups_nodup _ _) collected
    refine groups.2.2 indexType ?_ databaseName member
    cases indexType <;> simp [collectionGroups, due]

variable {tables : IndexTables} {outcome : Raises Unit}

theorem run_cases (enabled : row.status ≠ .disabled)
    (ran : runIndexCollectionForInstance surroundings (some row) tables = some (outcome, store)) :
    (∃ exc, surroundings.decryptConnectionString row.encryptedCollectDsn = .error exc ∧
        store = tables.store) ∨
      ∃ connectionString session,
        surroundings.decryptConnectionString row.encryptedCollectDsn = .ok connectionString ∧
          collectIndexSnapshotsIfDue surroundings row (loadIndexCollectionStatuses tables row.id)
            connectionString (.opened tables.store) = some session ∧ store = session.committed := by
  simp only [runIndexCollectionForInstance, collectIndexSnapshotsForInstance, if_neg enabled] at ran
  cases decoded : surroundings.decryptConnectionString row.encryptedCollectDsn with
  | error exc =>
      simp only [decoded, Option.map_some, Option.some.injEq, Prod.mk.injEq] at ran
      exact Or.inl ⟨exc, rfl, ran.2.symm⟩
  | ok connectionString =>
      simp only [decoded, Option.map_map, Option.map_eq_some_iff] at ran
      obtain ⟨session, collected, ends⟩ := ran
      exact Or.inr ⟨connectionString, session, rfl, collected, (congrArg Prod.snd ends).symm⟩

theorem recorded_of_listed {databases : List String} (enabled : row.status ≠ .disabled)
    (listed : listDatabases surroundings row = .ok (connectionString, databases))
    (ran : runIndexCollectionForInstance surroundings (some row) tables = some (outcome, store))
    {indexType : IndexType} (due : isDue surroundings row tables indexType = true) :
    OutcomeRecorded surroundings row indexType store := by
  simp only [OutcomeRecorded, listed]
  intro databaseName member
  simp only [listDatabases, bind_eq_ok, pure_eq_ok, Prod.mk.injEq] at listed
  obtain ⟨text, decoded, found, answered, rfl, rfl⟩ := listed
  rcases run_cases enabled ran with ⟨exc, undecoded, -⟩ | ⟨_, session, decoded', collected, rfl⟩
  · simp [decoded] at undecoded
  · obtain rfl := Except.ok.inj (decoded.symm.trans decoded')
    exact listed_recorded (bind_eq_ok.mpr answered) collected due member

theorem store_of_unlisted {exc : PyException} (enabled : row.status ≠ .disabled)
    (unlisted : listDatabases surroundings row = .error exc)
    (ran : runIndexCollectionForInstance surroundings (some row) tables = some (outcome, store)) :
    store = tables.store := by
  rcases run_cases enabled ran with ⟨_, -, same⟩ | ⟨text, session, decoded, collected, rfl⟩
  · exact same
  · cases answered : surroundings.clientFactory text >>= listUserDatabases with
    | error raised => exact unlisted_uncommitted answered collected
    | ok databases =>
        have listed : listDatabases surroundings row = .ok (text, databases) := by
          simp only [listDatabases, bind_eq_ok, pure_eq_ok, Prod.mk.injEq]
          exact ⟨text, decoded, databases, bind_eq_ok.mp answered, rfl, rfl⟩
        rw [listed] at unlisted
        exact nomatch unlisted

end Durability

theorem index_outcome_durable_iff (surroundings : IndexSurroundings) (row : InstanceRecord)
    (tables : IndexTables) (outcome : Raises Unit) (store : IndexStore)
    (enabled : row.status ≠ .disabled)
    (ran : runIndexCollectionForInstance surroundings (some row) tables = some (outcome, store)) :
    (∀ indexType, isDue surroundings row tables indexType = true →
      OutcomeRecorded surroundings row indexType store) ↔ Listable surroundings row tables := by
  cases listed : listDatabases surroundings row with
  | ok found =>
      simp only [Listable, listed, iff_true]
      exact fun indexType due => recorded_of_listed enabled listed ran due
  | error exc =>
      obtain rfl := store_of_unlisted enabled listed ran
      simp only [OutcomeRecorded, Listable, listed]

def idleTables : IndexTables where
  store := emptyIndexStore
  keys := []
  listed := by simp [emptyIndexStore]

theorem operationalError_named : "OperationalError" ≠ "" := by decide

def unreachable : PyException := ⟨"OperationalError", "server not reachable", operationalError_named⟩

def unreachableSurroundings : IndexSurroundings where
  now := 0
  decryptConnectionString := .ok
  clientFactory := fun _ => .error unreachable
  settings := ⟨4, 300, "300"⟩
  groups := fun _ => ⟨0, fun _ => none, []⟩

def enabledInstance : InstanceRecord :=
  { (default : InstanceRecord) with
    status := .online
    missingIndexCollectIntervalSeconds := 600
    indexFragmentationCollectIntervalSeconds := 600 }

-- The one database of the server is listed, and its workers never finish.
def silentSurroundings : IndexSurroundings where
  now := 0
  decryptConnectionString := .ok
  clientFactory := fun _ => .ok salesClient
  settings := ⟨4, 1, "1"⟩
  groups := fun _ => ⟨0, fun _ => none, silentActions⟩

theorem index_outcome_durable_iff_silent :
    ∃ outcome store,
      runIndexCollectionForInstance silentSurroundings (some enabledInstance) idleTables =
          some (outcome, store) ∧
        ∀ indexType, isDue silentSurroundings enabledInstance idleTables indexType = true →
          OutcomeRecorded silentSurroundings enabledInstance indexType store := by
  have ends : (runIndexCollectionForInstance silentSurroundings (some enabledInstance)
      idleTables).isSome = true := by decide +kernel
  obtain ⟨⟨outcome, store⟩, ran⟩ := Option.isSome_iff_exists.mp ends
  exact ⟨outcome, store, ran,
    (index_outcome_durable_iff silentSurroundings enabledInstance idleTables outcome store (by decide)
      ran).mpr trivial⟩

theorem listing_failure_lost :
    runIndexCollectionForInstance unreachableSurroundings (some enabledInstance) idleTables =
        some (.ok (), emptyIndexStore) ∧
      isDue unreachableSurroundings enabledInstance idleTables .missing = true ∧
      ¬ OutcomeRecorded unreachableSurroundings enabledInstance .missing emptyIndexStore := by
  refine ⟨rfl, rfl, ?_⟩
  intro recorded
  obtain ⟨status, stored, -⟩ : FailureRecorded unreachableSurroundings enabledInstance unreachable
    .missing emptyIndexStore := recorded
  exact nomatch stored

end SqlMonitor.Collector
