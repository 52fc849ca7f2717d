import Mathlib.Data.List.MinMax
import SqlMonitor.Collector.IndexDurability

set_option autoImplicit false

namespace SqlMonitor.Collector

open Services IndexScheduler

section Writes

variable {surroundings : IndexSurroundings} {row : InstanceRecord} {indexType : IndexType}
  {result : IndexDatabaseCollectionResult} {store next last : IndexStore} {key : IndexCollectionKey}

theorem kept_persistIndexType {A : Type} {instanceId : Uuid} {now : Timestamp}
    {databaseName : String} {error : Option String} {items : Option (List A)}
    {replace : List A → IndexStore → IndexStore}
    (statuses : ∀ items store, (replace items store).statuses = store.statuses)
    (rows : ∀ items store, rowsOf (replace items store) key = rowsOf store key)
    (elsewhere : key.instanceId ≠ instanceId) :
    Kept store
      (persistIndexType instanceId now databaseName indexType error items replace store) key := by
  have apart : key ≠ ⟨instanceId, databaseName, indexType⟩ :=
    fun same => elsewhere (congrArg IndexCollectionKey.instanceId same)
  refine ⟨?_, statuses_persistIndexType statuses apart⟩
  unfold persistIndexType
  cases error.filter (· ≠ "") with
  | some message => rfl
  | none => exact rows _ store

theorem rowsOf_replaceMissing_elsewhere {instanceId : Uuid} {databaseName : String}
    {now : Timestamp}
    (elsewhere : key.instanceId ≠ instanceId) (items : List MissingIndexCandidate)
    (store : IndexStore) :
    rowsOf (replaceMissingIndexSnapshots instanceId databaseName now items store) key =
      rowsOf store key := by
  cases type : key.indexType with
  | fragmentation => simp [rowsOf, replaceMissingIndexSnapshots, type]
  | missing =>
      simp only [rowsOf, replaceMissingIndexSnapshots, type, decide_not]
      rw [filter_replaced_absent]
      · simp [Ne.symm elsewhere]
      · simp +contextual [elsewhere]

theorem rowsOf_replaceFragmentation_elsewhere {instanceId : Uuid} {databaseName : String}
    {now : Timestamp}
    (elsewhere : key.instanceId ≠ instanceId) (items : List IndexFragmentationItem)
    (store : IndexStore) :
    rowsOf (replaceIndexFragmentationSnapshots instanceId databaseName now items store) key =
      rowsOf store key := by
  cases type : key.indexType with
  | missing => simp [rowsOf, replaceIndexFragmentationSnapshots, type]
  | fragmentation =>
      simp only [rowsOf, replaceIndexFragmentationSnapshots, type, decide_not]
      rw [filter_replaced_absent]
      · simp [Ne.symm elsewhere]
      · simp +contextual [elsewhere]

theorem kept_persistResult_elsewhere (elsewhere : key.instanceId ≠ row.id) :
    Kept store (persistResult surroundings row indexType result store) key := by
  cases indexType with
  | missing =>
      exact kept_persistIndexType (fun _ _ => rfl) (rowsOf_replaceMissing_elsewhere elsewhere) elsewhere
  | fragmentation =>
      exact kept_persistIndexType (fun _ _ => rfl) (rowsOf_replaceFragmentation_elsewhere elsewhere) elsewhere

theorem kept_persistResult_ofType (apart : key.indexType ≠ indexType) :
    Kept store (persistResult surroundings row indexType result store) key := by
  refine ⟨?_, statuses_persistResult fun same => apart (congrArg IndexCollectionKey.indexType same)⟩
  cases type : key.indexType with
  | missing =>
      cases indexType with
      | missing => exact absurd type apart
      | fragmentation =>
          rw [persistResult_fragmentation, persistFragmentation, persistIndexType]
          split <;> simp only [rowsOf, type] <;> rfl
  | fragmentation =>
      cases indexType with
      | fragmentation => exact absurd type apart
      | missing =>
          rw [persistResult_missing, persistMissing, persistIndexType]
          split <;> simp only [rowsOf, type] <;> rfl

theorem kept_persistResult (apart : key.instanceId ≠ row.id ∨ key.indexType ≠ indexType) :
    Kept store (persistResult surroundings row indexType result store) key :=
  apart.elim kept_persistResult_elsewhere kept_persistResult_ofType

/-- The date of the last success stays, or it is the time of the collection. -/
def Dated (now : Timestamp) (store next : IndexStore) (key : IndexCollectionKey) : Prop :=
  lastSuccessAt next key = lastSuccessAt store key ∨ lastSuccessAt next key = some now

theorem Dated.of_status {now : Timestamp} (same : next.statuses key = store.statuses key) :
    Dated now store next key := by
  left
  rw [lastSuccessAt, lastSuccessAt, getOrCreateIndexCollectionStatus,
    getOrCreateIndexCollectionStatus, same]

theorem Dated.trans {now : Timestamp} (first : Dated now store next key)
    (second : Dated now next last key) : Dated now store last key := by
  rcases second with kept | dated
  · exact first.imp kept.trans kept.trans
  · exact .inr dated

theorem dated_persistIndexType {A : Type} {instanceId : Uuid} {now : Timestamp}
    {databaseName : String} {error : Option String} {items : Option (List A)}
    {replace : List A → IndexStore → IndexStore}
    (here : key = ⟨instanceId, databaseName, indexType⟩) :
    Dated now store
      (persistIndexType instanceId now databaseName indexType error items replace store) key := by
  subst here
  unfold persistIndexType
  cases error.filter (· ≠ "") with
  | some message =>
      left
      simp [lastSuccessAt, getOrCreateIndexCollectionStatus, markIndexCollectionFailed]
  | none =>
      right
      simp [lastSuccessAt, getOrCreateIndexCollectionStatus, markIndexCollectionSuccess]

theorem dated_persistResult : Dated surroundings.now store
    (persistResult surroundings row indexType result store) key := by
  by_cases here : key = ⟨row.id, result.databaseName, indexType⟩
  · cases indexType with
    | missing => exact dated_persistIndexType here
    | fragmentation => exact dated_persistIndexType here
  · exact .of_status (statuses_persistResult here)

end Writes

section Collections

variable {surroundings : IndexSurroundings} {row : InstanceRecord} {indexType : IndexType}
  {store : IndexStore} {session : Buffered IndexStore} {databases : List String}
  {connectionString : String} {statuses : List IndexCollectionStatusValue}
  {key : IndexCollectionKey}

theorem persistResults_written (results : List IndexDatabaseCollectionResult)
    (store : IndexStore) :
    (key.instanceId ≠ row.id ∨ key.indexType ≠ indexType →
        Kept store (persistResults surroundings row indexType results store) key) ∧
      Dated surroundings.now store (persistResults surroundings row indexType results store) key := by
  unfold persistResults
  induction results generalizing store with
  | nil => exact ⟨fun _ => ⟨rfl, rfl⟩, .of_status rfl⟩
  | cons result rest ih =>
      obtain ⟨kept, dated⟩ := ih (persistResult surroundings row indexType result store)
      rw [List.foldl_cons]
      exact ⟨fun apart => (kept_persistResult apart).trans (kept apart),
        dated_persistResult.trans dated⟩

-- Each group keeps what is not of its instance and type; induction on the groups.
theorem groups_written {groups : List IndexType}
    (collected : groups.foldlM (collectGroup surroundings row databases connectionString)
      (.opened store) = some session) :
    (key.instanceId ≠ row.id ∨ key.indexType ∉ groups → Kept store session.committed key) ∧
      Dated surroundings.now store session.committed key := by
  induction groups generalizing store with
  | nil =>
      obtain rfl : Buffered.opened store = session := by simpa using collected
      exact ⟨fun _ => ⟨rfl, rfl⟩, .of_status rfl⟩
  | cons group rest ih =>
      rw [List.foldlM_cons] at collected
      obtain ⟨middle, first, later⟩ := Option.bind_eq_some_iff.mp collected
      obtain ⟨results, -, rfl⟩ := collectGroup_opened first
      obtain ⟨keptHere, datedHere⟩ :=
        @persistResults_written surroundings row group key results store
      obtain ⟨kept, dated⟩ := ih later
      refine ⟨fun outside => ?_, datedHere.trans dated⟩
      rcases outside with elsewhere | outside
      · exact (keptHere (.inl elsewhere)).trans (kept (.inl elsewhere))
      · obtain ⟨apart, outsideRest⟩ := not_or.mp (List.mem_cons.not.mp outside)
        exact (keptHere (.inr apart)).trans (kept (.inr outsideRest))

theorem ifDue_written
    (collected : collectIndexSnapshotsIfDue surroundings row statuses connectionString
      (.opened store) = some session) :
    (key.instanceId ≠ row.id ∨ indexCollectionDue statuses key.indexType surroundings.now
        (intervalSeconds row key.indexType) = false → Kept store session.committed key) ∧
      Dated surroundings.now store session.committed key := by
  have unchanged : session.committed = store →
      (key.instanceId ≠ row.id ∨ indexCollectionDue statuses key.indexType surroundings.now
          (intervalSeconds row key.indexType) = false → Kept store session.committed key) ∧
        Dated surroundings.now store session.committed key := by
    intro same
    rw [same]
    exact ⟨fun _ => ⟨rfl, rfl⟩, .of_status rfl⟩
  cases answered : surroundings.clientFactory connectionString >>= listUserDatabases with
  | error exc => exact unchanged (unlisted_uncommitted answered collected)
  | ok databases =>
      simp only [collectIndexSnapshotsIfDue, answered, Buffered.rollback_opened] at collected
      split at collected
      next => exact unchanged (congrArg Buffered.committed (Option.some.inj collected)).symm
      next =>
        split at collected
        next => exact unchanged (congrArg Buffered.committed (Option.some.inj collected)).symm
        next =>
          obtain ⟨kept, dated⟩ := groups_written collected
          refine ⟨fun outside => kept (outside.imp id fun idle => ?_), dated⟩
          cases type : key.indexType with
          | missing =>
              rw [type] at idle
              simp [collectionGroups, idle]
          | fragmentation =>
              rw [type] at idle
              simp [collectionGroups, idle]

variable {tables : IndexTables} {outcome : Raises Unit}

theorem background_written
    (ran : runIndexCollectionForInstance surroundings (some row) tables = some (outcome, store)) :
    (key.instanceId ≠ row.id ∨ isDue surroundings row tables key.indexType = false →
        Kept tables.store store key) ∧
      Dated surroundings.now tables.store store key := by
  by_cases enabled : row.status = .disabled
  · simp only [runIndexCollectionForInstance, collectIndexSnapshotsForInstance, if_pos enabled,
      Option.map_some, Option.some.injEq, Prod.mk.injEq] at ran
    obtain ⟨-, rfl⟩ := ran
    exact ⟨fun _ => ⟨rfl, rfl⟩, .of_status rfl⟩
  · rcases run_cases enabled ran with ⟨exc, -, rfl⟩ | ⟨text, session, -, collected, rfl⟩
    · exact ⟨fun _ => ⟨rfl, rfl⟩, .of_status rfl⟩
    · exact ifDue_written collected

end Collections

section Spacing

variable {surroundings : IndexSurroundings} {row : InstanceRecord}
    {tables before last : IndexTables}
  {key : IndexCollectionKey} {since : Timestamp} {store : IndexStore} {outcome : Raises Unit}

theorem not_due_of_recent {succeededAt : Timestamp} (user : key.databaseName ≠ "*")
    (here : key.instanceId = row.id) (succeeded : lastSuccessAt tables.store key = some succeededAt)
    (recent : surroundings.now - succeededAt < intervalSeconds row key.indexType * 1000000) :
    isDue surroundings row tables key.indexType = false := by
  obtain ⟨status, stored, dated⟩ : ∃ status, tables.store.statuses key = some status ∧
      status.lastSuccessAt = some succeededAt := by
    rw [lastSuccessAt, getOrCreateIndexCollectionStatus] at succeeded
    cases found : tables.store.statuses key with
    | none =>
        rw [found] at succeeded
        cases succeeded
    | some status =>
        rw [found] at succeeded
        exact ⟨status, rfl, succeeded⟩
  have listed : key ∈ tables.keys := (tables.listed key).mpr (by rw [stored]; rfl)
  have loaded : ⟨key.databaseName, key.indexType, some succeededAt⟩ ∈
      loadIndexCollectionStatuses tables row.id := by
    refine List.mem_filterMap.mpr ⟨key, List.mem_filter.mpr ⟨listed, by simpa using here⟩, ?_⟩
    rw [stored, Option.map_some, dated]
  have member : succeededAt ∈ ((loadIndexCollectionStatuses tables row.id).filter fun status =>
      status.indexType = key.indexType ∧
        status.databaseName ≠ "*").filterMap (·.lastSuccessAt) := by
    refine List.mem_filterMap.mpr ⟨_, List.mem_filter.mpr ⟨loaded, ?_⟩, rfl⟩
    simpa using user
  rw [isDue, indexCollectionDue]
  split
  next none => exact absurd member (List.max?_eq_none_iff.mp none ▸ List.not_mem_nil)
  next latestSuccess found =>
    have younger := (List.max?_eq_some_iff.mp found).2 succeededAt member
    refine decide_eq_false fun waited => ?_
    have enough : intervalSeconds row key.indexType * 1000000 ≤ surroundings.now - latestSuccess :=
      waited
    exact absurd (enough.trans (Int.sub_le_sub_left younger surroundings.now)) (not_le.mpr recent)

-- Collections of any instances; only those of the one instance ask for its clock.
inductive CollectedSince (instanceId : Uuid) (since : Timestamp) (start : IndexTables) :
    IndexTables → Prop where
  | start : CollectedSince instanceId since start start
  | collection {before after : IndexTables} {surroundings : IndexSurroundings}
      {row : InstanceRecord} {outcome : Raises Unit}
      (earlier : CollectedSince instanceId since start before)
      (later : row.id = instanceId → since ≤ surroundings.now)
      (ran : runIndexCollectionForInstance surroundings (some row) before =
        some (outcome, after.store)) : CollectedSince instanceId since start after

theorem Kept.lastSuccessAt {store next : IndexStore} (kept : Kept store next key) :
    lastSuccessAt next key = lastSuccessAt store key := by
  rw [Collector.lastSuccessAt, Collector.lastSuccessAt, getOrCreateIndexCollectionStatus,
    getOrCreateIndexCollectionStatus, kept.status]

theorem success_since {start : IndexTables} {instanceId : Uuid} (here : key.instanceId = instanceId)
    (succeeded : lastSuccessAt start.store key = some since)
    (run : CollectedSince instanceId since start last) :
    ∃ succeededAt, since ≤ succeededAt ∧ lastSuccessAt last.store key = some succeededAt := by
  induction run with
  | start => exact ⟨since, le_rfl, succeeded⟩
  | @collection before after surroundings row outcome earlier later ran ih =>
      obtain ⟨succeededAt, after, dated⟩ := ih
      obtain ⟨kept, dates⟩ := @background_written _ _ _ key _ _ ran
      by_cases own : row.id = instanceId
      · rcases dates with same | now
        · exact ⟨succeededAt, after, same.trans dated⟩
        · exact ⟨_, later own, now⟩
      · have elsewhere : key.instanceId ≠ row.id := fun same => own (same.symm.trans here)
        exact ⟨succeededAt, after, (kept (.inl elsewhere)).lastSuccessAt.trans dated⟩

theorem index_collections_spaced {start : IndexTables} {instanceId : Uuid}
    (here : key.instanceId = instanceId) (user : key.databaseName ≠ "*")
    (succeeded : lastSuccessAt start.store key = some since)
    (run : CollectedSince instanceId since start before) (own : row.id = instanceId)
    (ran : runIndexCollectionForInstance surroundings (some row) before = some (outcome, store))
    (early : surroundings.now - since < intervalSeconds row key.indexType * 1000000) :
    (∃ succeededAt, since ≤ succeededAt ∧ lastSuccessAt before.store key = some succeededAt) ∧
      ∀ other : IndexCollectionKey, other.indexType = key.indexType →
        Kept before.store store other := by
  obtain ⟨succeededAt, after, dated⟩ := success_since here succeeded run
  have recent : surroundings.now - succeededAt < intervalSeconds row key.indexType * 1000000 :=
    (Int.sub_le_sub_left after surroundings.now).trans_lt early
  have idle := @not_due_of_recent surroundings row before key succeededAt user
    (here.trans own.symm) dated recent
  refine ⟨⟨succeededAt, after, dated⟩, ?_⟩
  intro other sameType
  refine (background_written ran).1 (.inr ?_)
  rw [sameType]
  exact idle

def recentTables : IndexTables where
  store :=
    { emptyIndexStore with
      statuses := fun key =>
        if key.instanceId = enabledInstance.id ∧ key.databaseName = "sales" then
          some ⟨some 0, none, .success, none, 0, some 0⟩
        else none }
  keys := [⟨enabledInstance.id, "sales", .missing⟩, ⟨enabledInstance.id, "sales", .fragmentation⟩]
  listed := by
    rintro ⟨instanceId, databaseName, indexType⟩
    cases indexType <;> simp

-- Another instance, whose server lists the same name, has its collections timed out.
def secondInstance : InstanceRecord := { enabledInstance with id := 2 }

def secondTables : IndexTables where
  store :=
    markIndexCollectionFailed secondInstance.id "sales" 0 .fragmentation (timeoutMessage "1")
      (markIndexCollectionFailed secondInstance.id "sales" 0 .missing (timeoutMessage "1")
        recentTables.store)
  keys := [⟨secondInstance.id, "sales", .fragmentation⟩, ⟨secondInstance.id, "sales", .missing⟩] ++
    recentTables.keys
  listed := by
    intro key
    simp only [markIndexCollectionFailed, Function.update_apply, List.mem_append,
      recentTables.listed]
    split_ifs <;> simp_all

theorem secondInstance_timedOut :
    runIndexCollectionForInstance silentSurroundings (some secondInstance) recentTables =
      some (.ok (), secondTables.store) := by
  have missing : collectIndexDatabasesConcurrently silentSurroundings ["sales"]
      secondInstance.encryptedCollectDsn .missing =
        some [{ databaseName := "sales", missingError := some (timeoutMessage "1") }] := by
    decide +kernel
  have fragmentation : collectIndexDatabasesConcurrently silentSurroundings ["sales"]
      secondInstance.encryptedCollectDsn .fragmentation =
        some [{ databaseName := "sales", fragmentationError := some (timeoutMessage "1") }] := by
    decide +kernel
  have listed : silentSurroundings.clientFactory secondInstance.encryptedCollectDsn >>=
      listUserDatabases = .ok ["sales"] := by decide +kernel
  have due : ∀ indexType, indexCollectionDue
      (loadIndexCollectionStatuses recentTables secondInstance.id) indexType
        silentSurroundings.now (intervalSeconds secondInstance indexType) = true := by
    intro indexType
    cases indexType <;> decide +kernel
  have enabled : secondInstance.status ≠ .disabled := by decide
  have opened : silentSurroundings.decryptConnectionString secondInstance.encryptedCollectDsn =
    .ok secondInstance.encryptedCollectDsn := rfl
  have collected : collectIndexSnapshotsIfDue silentSurroundings secondInstance
      (loadIndexCollectionStatuses recentTables secondInstance.id)
      secondInstance.encryptedCollectDsn (.opened recentTables.store) =
        some (.opened secondTables.store) := by
    simp only [collectIndexSnapshotsIfDue, due, listed, Buffered.rollback_opened]
    change List.foldlM _ _ [IndexType.missing, IndexType.fragmentation] = _
    simp only [List.foldlM_cons, List.foldlM_nil, collectGroup, missing, fragmentation]
    rfl
  simp only [runIndexCollectionForInstance, collectIndexSnapshotsForInstance, if_neg enabled,
    opened, collected]
  rfl

def minutesLater (minutes : Int) : IndexSurroundings :=
  { unreachableSurroundings with now := minutes * 60000000 }

theorem index_collections_spaced_recent :
    ∃ outcome store, runIndexCollectionForInstance (minutesLater 9) (some enabledInstance)
        secondTables = some (outcome, store) ∧
      Kept secondTables.store store ⟨enabledInstance.id, "orders", .missing⟩ := by
  have run : CollectedSince enabledInstance.id 0 recentTables secondTables := by
    have second : CollectedSince enabledInstance.id 0 recentTables secondTables :=
      .collection .start (by decide) secondInstance_timedOut
    have idle : runIndexCollectionForInstance (minutesLater 5) (some enabledInstance) secondTables =
        some (.ok (), secondTables.store) := rfl
    exact .collection second (by decide) idle
  have ran : runIndexCollectionForInstance (minutesLater 9) (some enabledInstance) secondTables =
      some (.ok (), secondTables.store) := rfl
  have early : (minutesLater 9).now - 0 < intervalSeconds enabledInstance .missing * 1000000 := by
    decide
  refine ⟨_, _, ran, ?_⟩
  exact @index_collections_spaced (minutesLater 9) enabledInstance secondTables
    ⟨enabledInstance.id, "sales", .missing⟩ 0 _ _ recentTables enabledInstance.id rfl (by decide)
    rfl run rfl ran early |>.2 _ rfl

end Spacing

end SqlMonitor.Collector
