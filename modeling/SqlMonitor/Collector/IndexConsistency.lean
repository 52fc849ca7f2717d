import SqlMonitor.Collector.IndexCollection

set_option autoImplicit false

namespace SqlMonitor.Collector

open Services

inductive IndexSnapshotRow where
  | missing (row : MissingIndexSnapshot)
  | fragmentation (row : IndexFragmentationSnapshot)

def IndexSnapshotRow.collectedAt : IndexSnapshotRow → Timestamp
  | .missing row => row.collectedAt
  | .fragmentation row => row.collectedAt

def rowsOf (store : IndexStore) (key : IndexCollectionKey) : List IndexSnapshotRow :=
  match key.indexType with
  | .missing =>
    (store.missing.filter fun row => row.instanceId = key.instanceId ∧
      row.databaseName = key.databaseName).map
      .missing
  | .fragmentation =>
    (store.fragmentation.filter fun row =>
      row.instanceId = key.instanceId ∧ row.databaseName = key.databaseName).map .fragmentation

-- What a missing status row stands for.
def itemCount (store : IndexStore) (key : IndexCollectionKey) : Nat :=
  (getOrCreateIndexCollectionStatus store key).itemCount

def lastSuccessAt (store : IndexStore) (key : IndexCollectionKey) : Option Timestamp :=
  (getOrCreateIndexCollectionStatus store key).lastSuccessAt

structure ConsistentAt (store : IndexStore) (key : IndexCollectionKey) : Prop where
  counted : (rowsOf store key).length = itemCount store key
  dated : ∀ row ∈ rowsOf store key, lastSuccessAt store key = some row.collectedAt
  backed : rowsOf store key ≠ [] → ∃ status, store.statuses key = some status ∧
    ∃ succeededAt, status.lastSuccessAt = some succeededAt

section Changes

structure Kept (store next : IndexStore) (key : IndexCollectionKey) : Prop where
  rows : rowsOf next key = rowsOf store key
  status : next.statuses key = store.statuses key

structure FailureNoted (store next : IndexStore) (key : IndexCollectionKey) : Prop where
  rows : rowsOf next key = rowsOf store key
  counted : itemCount next key = itemCount store key
  dated : lastSuccessAt next key = lastSuccessAt store key
  noted : ∃ status, next.statuses key = some status ∧ status.status = .failed ∧
    ∃ message, status.errorMessage = some message ∧ message ≠ ""

structure Replaced (next : IndexStore) (key : IndexCollectionKey)
    (collectedAt : Timestamp) : Prop where
  dated : ∀ row ∈ rowsOf next key, row.collectedAt = collectedAt
  noted : ∃ status, next.statuses key = some status ∧ status.itemCount = (rowsOf next key).length ∧
    status.lastSuccessAt = some collectedAt ∧ status.errorMessage = none

inductive Changed (store next : IndexStore) (key : IndexCollectionKey) : Prop where
  | kept (same : Kept store next key)
  | failed (noted : FailureNoted store next key)
  | replaced (collectedAt : Timestamp) (fresh : Replaced next key collectedAt)

variable {store next : IndexStore} {key : IndexCollectionKey}

theorem ConsistentAt.changed (consistent : ConsistentAt store key)
    (changed : Changed store next key) :
    ConsistentAt next key := by
  cases changed with
  | kept same =>
      refine ⟨?_, ?_, ?_⟩
      · simpa only [same.rows, itemCount, getOrCreateIndexCollectionStatus,
          same.status] using consistent.counted
      · simpa only [same.rows, lastSuccessAt, getOrCreateIndexCollectionStatus, same.status] using
          consistent.dated
      · simpa only [same.rows, same.status] using consistent.backed
  | failed noted =>
      refine ⟨?_, ?_, ?_⟩
      · rw [noted.rows, noted.counted]
        exact consistent.counted
      · rw [noted.rows, noted.dated]
        exact consistent.dated
      · intro present
        rw [noted.rows] at present
        obtain ⟨old, stored, succeededAt, date⟩ := consistent.backed present
        obtain ⟨status, stored', -⟩ := noted.noted
        have same : status.lastSuccessAt = old.lastSuccessAt := by
          simpa [lastSuccessAt, getOrCreateIndexCollectionStatus, stored, stored'] using noted.dated
        exact ⟨status, stored', succeededAt, same.trans date⟩
  | replaced collectedAt fresh =>
      obtain ⟨status, stored, count, date, -⟩ := fresh.noted
      refine ⟨?_, ?_, ?_⟩
      · simp [itemCount, getOrCreateIndexCollectionStatus, stored, count]
      · intro row member
        simp [lastSuccessAt, getOrCreateIndexCollectionStatus, stored, date, fresh.dated row member]
      · exact fun _ => ⟨status, stored, collectedAt, date⟩

theorem Kept.trans {last : IndexStore} (first : Kept store next key) (second : Kept next last key) :
    Kept store last key :=
  ⟨second.rows.trans first.rows, second.status.trans first.status⟩

theorem FailureNoted.kept {last : IndexStore} (noted : FailureNoted store next key)
    (kept : Kept next last key) :
    FailureNoted store last key := by
  refine ⟨kept.rows.trans noted.rows, ?_, ?_, ?_⟩
  · rw [← noted.counted]
    simp only [itemCount, getOrCreateIndexCollectionStatus, kept.status]
  · rw [← noted.dated]
    simp only [lastSuccessAt, getOrCreateIndexCollectionStatus, kept.status]
  · rw [kept.status]
    exact noted.noted

theorem FailureNoted.of_kept {last : IndexStore} (kept : Kept store next key)
    (noted : FailureNoted next last key) : FailureNoted store last key := by
  refine ⟨noted.rows.trans kept.rows, ?_, ?_, noted.noted⟩
  · rw [noted.counted]
    simp only [itemCount, getOrCreateIndexCollectionStatus, kept.status]
  · rw [noted.dated]
    simp only [lastSuccessAt, getOrCreateIndexCollectionStatus, kept.status]

theorem Replaced.kept {last : IndexStore} {collectedAt : Timestamp}
    (fresh : Replaced next key collectedAt)
    (kept : Kept next last key) : Replaced last key collectedAt := by
  refine ⟨?_, ?_⟩
  · rw [kept.rows]
    exact fresh.dated
  · rw [kept.rows, kept.status]
    exact fresh.noted

end Changes

section Marks

variable {instanceId : Uuid} {databaseName : String} {collectedAt : Timestamp}
    {indexType : IndexType}
  {store : IndexStore} {key : IndexCollectionKey}

theorem kept_markFailed (message : String) (apart : key ≠ ⟨instanceId, databaseName, indexType⟩) :
    Kept store
      (markIndexCollectionFailed instanceId databaseName collectedAt indexType message store) key :=
  ⟨rfl, Function.update_of_ne apart ..⟩

theorem failureNoted_markFailed {message : String} (nonempty : message ≠ "") :
    FailureNoted store
      (markIndexCollectionFailed instanceId databaseName collectedAt indexType message store)
      ⟨instanceId, databaseName, indexType⟩ := by
  have stored : (markIndexCollectionFailed instanceId databaseName collectedAt indexType message store).statuses
      ⟨instanceId, databaseName, indexType⟩ = some
        { getOrCreateIndexCollectionStatus store ⟨instanceId, databaseName, indexType⟩ with
          status := .failed
          lastFailureAt := some collectedAt
          errorMessage := some message
          updatedAt := some collectedAt } := Function.update_self ..
  refine ⟨rfl, ?_, ?_, _, stored, rfl, message, rfl, nonempty⟩
  · simp [itemCount, getOrCreateIndexCollectionStatus, stored]
  · simp [lastSuccessAt, getOrCreateIndexCollectionStatus, stored]

theorem kept_markSuccess (count : Nat) (apart : key ≠ ⟨instanceId, databaseName, indexType⟩) :
    Kept store (markIndexCollectionSuccess instanceId databaseName collectedAt indexType count store) key :=
  ⟨rfl, Function.update_of_ne apart ..⟩

theorem replaced_markSuccess
    (dated : ∀ row ∈ rowsOf store ⟨instanceId, databaseName, indexType⟩,
      row.collectedAt = collectedAt) :
    Replaced (markIndexCollectionSuccess instanceId databaseName collectedAt indexType
      (rowsOf store ⟨instanceId, databaseName, indexType⟩).length store)
      ⟨instanceId, databaseName, indexType⟩ collectedAt :=
  ⟨dated, _, Function.update_self .., rfl, rfl, rfl⟩

end Marks

section Replacement

variable {R : Type} (atKey : R → Bool)

theorem filter_replaced_self (rows added : List R) (here : ∀ row ∈ added, atKey row = true) :
    (rows.filter (fun row => !atKey row) ++ added).filter atKey = added := by
  rw [List.filter_append, List.filter_filter, List.filter_eq_self.mpr here]
  simp

theorem filter_replaced_absent (other : R → Bool) (rows added : List R)
    (absent : ∀ row ∈ added, other row = false)
    (disjoint : ∀ row, other row = true → atKey row = false) :
    (rows.filter (fun row => !atKey row) ++ added).filter other = rows.filter other := by
  have none : added.filter other = [] :=
    List.filter_eq_nil_iff.mpr fun row member => by simp [absent row member]
  rw [List.filter_append, none, List.append_nil, List.filter_filter]
  apply List.filter_congr
  intro row _
  cases elsewhere : other row with
  | false => rfl
  | true => simp [disjoint row elsewhere]

theorem filter_replaced_other (other : R → Bool) (rows added : List R)
    (here : ∀ row ∈ added, atKey row = true)
    (disjoint : ∀ row, other row = true → atKey row = false) :
    (rows.filter (fun row => !atKey row) ++ added).filter other = rows.filter other := by
  refine filter_replaced_absent atKey other rows added (fun row member => ?_) disjoint
  by_contra elsewhere
  exact absurd (here row member) (by simp [disjoint row (Bool.not_eq_false _ ▸ elsewhere)])

end Replacement

section Persist

structure ReplacesRows {A : Type} (replace : List A → IndexStore → IndexStore)
    (key : IndexCollectionKey)
    (collectedAt : Timestamp) (nameOf : A → String) : Prop where
  statuses : ∀ items store, (replace items store).statuses = store.statuses
  counted : ∀ items store, (∀ item ∈ items, nameOf item = key.databaseName) →
    (rowsOf (replace items store) key).length = items.length
  dated : ∀ items store, (∀ item ∈ items, nameOf item = key.databaseName) →
    ∀ row ∈ rowsOf (replace items store) key, row.collectedAt = collectedAt
  others : ∀ items store, (∀ item ∈ items, nameOf item = key.databaseName) →
    ∀ other, other ≠ key → rowsOf (replace items store) other = rowsOf store other

variable (instanceId : Uuid) (databaseName : String) (collectedAt : Timestamp)

theorem apart_of_ne {key other : IndexCollectionKey} (apart : other ≠ key)
    (sameType : other.indexType = key.indexType) {rowInstance : Uuid} {rowDatabase : String}
    (elsewhere : rowInstance = other.instanceId ∧ rowDatabase = other.databaseName) :
    ¬ (rowInstance = key.instanceId ∧ rowDatabase = key.databaseName) := by
  intro here
  apply apart
  cases key
  cases other
  simp_all

theorem replacesRows_missing :
    ReplacesRows (replaceMissingIndexSnapshots instanceId databaseName collectedAt)
    ⟨instanceId, databaseName, .missing⟩ collectedAt MissingIndexCandidate.databaseName where
  statuses := fun _ _ => rfl
  counted := by
    intro items store named
    simp only [rowsOf, replaceMissingIndexSnapshots, decide_not]
    rw [filter_replaced_self]
    · simp
    · simpa using named
  dated := by
    intro items store named
    simp only [rowsOf, replaceMissingIndexSnapshots, decide_not]
    rw [filter_replaced_self]
    · simp [IndexSnapshotRow.collectedAt]
    · simpa using named
  others := by
    intro items store named other apart
    cases type : other.indexType with
    | fragmentation => simp [rowsOf, replaceMissingIndexSnapshots, type]
    | missing =>
        simp only [rowsOf, replaceMissingIndexSnapshots, type, decide_not]
        rw [filter_replaced_other]
        · simpa using named
        · intro row elsewhere
          simpa using apart_of_ne apart type (by simpa using elsewhere)

theorem replacesRows_fragmentation :
    ReplacesRows (replaceIndexFragmentationSnapshots instanceId databaseName collectedAt)
      ⟨instanceId, databaseName, .fragmentation⟩ collectedAt IndexFragmentationItem.databaseName where
  statuses := fun _ _ => rfl
  counted := by
    intro items store named
    simp only [rowsOf, replaceIndexFragmentationSnapshots, decide_not]
    rw [filter_replaced_self]
    · simp
    · simpa using named
  dated := by
    intro items store named
    simp only [rowsOf, replaceIndexFragmentationSnapshots, decide_not]
    rw [filter_replaced_self]
    · simp [IndexSnapshotRow.collectedAt]
    · simpa using named
  others := by
    intro items store named other apart
    cases type : other.indexType with
    | missing => simp [rowsOf, replaceIndexFragmentationSnapshots, type]
    | fragmentation =>
        simp only [rowsOf, replaceIndexFragmentationSnapshots, type, decide_not]
        rw [filter_replaced_other]
        · simpa using named
        · intro row elsewhere
          simpa using apart_of_ne apart type (by simpa using elsewhere)

variable {instanceId databaseName collectedAt}
variable {A : Type} {replace : List A → IndexStore → IndexStore} {indexType : IndexType}
    {nameOf : A → String}
  {error : Option String} {items : Option (List A)} {store : IndexStore}

theorem persistIndexType_failed {message : String} (raised : error = some message)
    (nonempty : message ≠ "") :
    FailureNoted store
      (persistIndexType instanceId collectedAt databaseName indexType error items replace store)
      ⟨instanceId, databaseName, indexType⟩ := by
  have counts : error.filter (· ≠ "") = some message := by
    simp [raised, Option.filter_some, nonempty]
  rw [persistIndexType, counts]
  exact failureNoted_markFailed nonempty

theorem persistIndexType_succeeded
    (replaces : ReplacesRows replace ⟨instanceId, databaseName, indexType⟩ collectedAt nameOf)
    (named : ∀ item ∈ items.getD [], nameOf item = databaseName) (passed : error = none) :
    Replaced (persistIndexType instanceId collectedAt databaseName indexType error items replace store)
      ⟨instanceId, databaseName, indexType⟩ collectedAt := by
  rw [persistIndexType, passed, ← replaces.counted (items.getD []) store named]
  exact replaced_markSuccess (replaces.dated _ store named)

theorem persistIndexType_kept
    (replaces : ReplacesRows replace ⟨instanceId, databaseName, indexType⟩ collectedAt nameOf)
    (named : ∀ item ∈ items.getD [], nameOf item = databaseName) {key : IndexCollectionKey}
    (apart : key ≠ ⟨instanceId, databaseName, indexType⟩) :
    Kept store
      (persistIndexType instanceId collectedAt databaseName indexType error items replace store)
      key := by
  unfold persistIndexType
  split
  next message _ => exact kept_markFailed message apart
  next =>
    have replaced : Kept store (replace (items.getD []) store) key :=
      ⟨replaces.others _ store named key apart, by rw [replaces.statuses]⟩
    exact replaced.trans (kept_markSuccess _ apart)

end Persist

end SqlMonitor.Collector
