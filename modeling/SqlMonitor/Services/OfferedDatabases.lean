import Mathlib.Data.List.Dedup
import Mathlib.Data.String.Basic
import SqlMonitor.Collector.IndexBackground
import SqlMonitor.Services.IndexPages

set_option autoImplicit false

namespace SqlMonitor.Services

open Collector Attempts

section Source

variable (instances : Uuid → Option InstanceRecord) (tables : IndexTables)
  (decryptConnectionString : String → Raises String)
  (clientFactory : String → Raises IndexClient) (instanceId : Uuid)

-- The rows of `*` stand for a failed listing of the databases.
def collectedDatabases : List String :=
  (tables.keys.filter fun key =>
    key.instanceId = instanceId ∧ key.databaseName ≠ "*").map (·.databaseName)

-- An exception on the way to the server counts as no database.
def serverDatabases (row : InstanceRecord) : List String :=
  match decryptConnectionString row.encryptedCollectDsn >>= clientFactory >>= listUserDatabases with
  | .ok databases => databases
  | .error _ => []

def configuredDatabases (row : InstanceRecord) : List String :=
  let configuredDatabase := orText row.databaseName ""
  if configuredDatabase ≠ "" ∧ configuredDatabase.toLower ∉ systemDatabases then [configuredDatabase]
  else []

def sortedNames (names : List String) : List String := names.dedup.insertionSort (· ≤ ·)

def getUserDatabases : Option (List String) :=
  (instances instanceId).map fun row =>
    let databases := collectedDatabases tables instanceId
    let databases :=
      if databases = [] then serverDatabases decryptConnectionString clientFactory row else databases
    sortedNames (databases ++ configuredDatabases row)

end Source

section Names

theorem mem_sortedNames {names : List String} {name : String} :
    name ∈ sortedNames names ↔ name ∈ names := by
  rw [sortedNames, List.mem_insertionSort, List.mem_dedup]

theorem sortedNames_pairwise (names : List String) :
    (sortedNames names).Pairwise fun name later => name < later := by
  have ordered : (sortedNames names).Pairwise fun name later => name ≤ later :=
    List.pairwise_insertionSort (· ≤ ·) _
  have distinct : (sortedNames names).Nodup :=
    (List.perm_insertionSort _ _).nodup_iff.mpr (List.nodup_dedup names)
  exact (ordered.and distinct).imp fun both => lt_of_le_of_ne both.1 both.2

theorem sortedNames_congr {names other : List String}
    (same : ∀ name, name ∈ names ↔ name ∈ other) : sortedNames names = sortedNames other := by
  have perm : (sortedNames names).Perm (sortedNames other) := by
    refine (List.perm_ext_iff_of_nodup ?_ ?_).mpr fun name => ?_
    · exact (List.perm_insertionSort _ _).nodup_iff.mpr (List.nodup_dedup names)
    · exact (List.perm_insertionSort _ _).nodup_iff.mpr (List.nodup_dedup other)
    · rw [mem_sortedNames, mem_sortedNames, same]
  refine perm.eq_of_pairwise ?_ (sortedNames_pairwise names) (sortedNames_pairwise other)
  intro name later _ _ before after
  exact absurd after before.asymm

theorem listed_databases {client : IndexClient} {databases : List String}
    (listed : listUserDatabases client = .ok databases) :
    ∀ name ∈ databases, name ≠ "" ∧ name.toLower ∉ systemDatabases := by
  simp only [listUserDatabases, bind_eq_ok, pure_eq_ok] at listed
  obtain ⟨rows, -, rfl⟩ := listed
  intro name member
  obtain ⟨row, -, kept⟩ := List.mem_filterMap.mp member
  obtain ⟨user, same⟩ := Option.ite_none_right_eq_some.mp kept
  obtain rfl := Option.some.inj same
  exact user

end Names

section Tried

def Tried (transactions : List IndexTransaction) (instanceId : Uuid) (databaseName : String) : Prop :=
  ∃ indexType, attemptsAt ⟨instanceId, databaseName, indexType⟩ transactions ≠ []

/-- Workers are started for databases that the server has listed. -/
def OnlyListed (transactions : List IndexTransaction) : Prop :=
  ∀ event, .result event ∈ transactions → ∃ client databases,
    listUserDatabases client = .ok databases ∧ event.databaseName ∈ databases

variable {transactions : List IndexTransaction} {tables : IndexTables} {instanceId : Uuid}
  {databaseName : String}

theorem isSome_statusAfter {history : List IndexAttempt} :
    (statusAfter history).isSome ↔ history ≠ [] := by
  rcases history.eq_nil_or_concat' with rfl | ⟨earlier, last, rfl⟩
  · simp [statusAfter]
  · simp [statusAfter]

theorem mem_collectedDatabases
    (names : ∀ transaction ∈ transactions, transaction.NamesRequested)
    (stored : tables.store = runIndexCollections transactions) :
    databaseName ∈ collectedDatabases tables instanceId ↔
      databaseName ≠ "*" ∧ Tried transactions instanceId databaseName := by
  have kept (key : IndexCollectionKey) : key ∈ tables.keys ↔ attemptsAt key transactions ≠ [] := by
    have tells : Tells (runIndexCollections transactions) key _ :=
      tells_runIndexCollections transactions names
    rw [tables.listed, stored, tells.status, isSome_statusAfter]
  simp only [collectedDatabases, List.mem_map, List.mem_filter, decide_eq_true_eq, kept]
  constructor
  · rintro ⟨⟨_, _, indexType⟩, ⟨tried, rfl, user⟩, rfl⟩
    exact ⟨user, indexType, tried⟩
  · rintro ⟨user, indexType, tried⟩
    exact ⟨⟨instanceId, databaseName, indexType⟩, ⟨tried, rfl, user⟩, rfl⟩

theorem tried_listed (listed : OnlyListed transactions) (user : databaseName ≠ "*")
    (tried : Tried transactions instanceId databaseName) :
    databaseName ≠ "" ∧ databaseName.toLower ∉ systemDatabases := by
  obtain ⟨indexType, tried⟩ := tried
  obtain ⟨attempt, attempted⟩ := List.exists_mem_of_ne_nil _ tried
  obtain ⟨transaction, member, attempted⟩ := List.mem_filterMap.mp attempted
  cases transaction with
  | databases listing =>
      obtain ⟨⟨-, -, here⟩, -⟩ := Option.ite_none_right_eq_some.mp attempted
      exact absurd (congrArg IndexCollectionKey.databaseName here) user
  | result event =>
      obtain ⟨-, here, -⟩ := attempt_eq_some attempted
      obtain rfl : databaseName = event.databaseName :=
        congrArg IndexCollectionKey.databaseName here
      obtain ⟨client, databases, answered, inside⟩ := listed event member
      exact listed_databases answered _ inside

end Tried

section Offered

variable {users : UserTable} {userId : Uuid} {instances : Uuid → Option InstanceRecord}
  {tables : IndexTables} {decryptConnectionString : String → Raises String}
  {clientFactory : String → Raises IndexClient} {instanceId : Uuid} {row : InstanceRecord}
  {transactions : List IndexTransaction}

def Offers (transactions : List IndexTransaction)
    (decryptConnectionString : String → Raises String)
    (clientFactory : String → Raises IndexClient) (row : InstanceRecord) (instanceId : Uuid)
    (databaseName : String) : Prop :=
  (databaseName ≠ "*" ∧ Tried transactions instanceId databaseName) ∨
    ((∀ other, other ≠ "*" → ¬ Tried transactions instanceId other) ∧
      databaseName ∈ serverDatabases decryptConnectionString clientFactory row) ∨
    databaseName ∈ configuredDatabases row

theorem mem_offered (names : ∀ transaction ∈ transactions, transaction.NamesRequested)
    (stored : tables.store = runIndexCollections transactions) (databaseName : String) :
    databaseName ∈ (if collectedDatabases tables instanceId = [] then
          serverDatabases decryptConnectionString clientFactory row
        else collectedDatabases tables instanceId) ++ configuredDatabases row ↔
      Offers transactions decryptConnectionString clientFactory row instanceId databaseName := by
  have collected (name : String) :=
    @mem_collectedDatabases transactions tables instanceId name names stored
  have none : collectedDatabases tables instanceId = [] ↔
      ∀ other, other ≠ "*" → ¬ Tried transactions instanceId other := by
    simp only [List.eq_nil_iff_forall_not_mem, collected, not_and]
  rw [List.mem_append, Offers, ← or_assoc]
  refine or_congr ?_ Iff.rfl
  split
  next empty =>
    rw [← collected, empty, ← none, empty]
    simp
  next some =>
    rw [collected, ← none]
    simp [some]

theorem offers_user (listed : OnlyListed transactions) {databaseName : String}
    (offered : Offers transactions decryptConnectionString clientFactory row instanceId
      databaseName) : databaseName ≠ "" ∧ databaseName.toLower ∉ systemDatabases := by
  rcases offered with ⟨user, tried⟩ | ⟨-, server⟩ | configured
  · exact tried_listed listed user tried
  · unfold serverDatabases at server
    split at server
    next databases answered =>
      obtain ⟨client, -, found⟩ := bind_eq_ok.mp answered
      exact listed_databases found databaseName server
    next => exact absurd server List.not_mem_nil
  · unfold configuredDatabases at configured
    simp only at configured
    split at configured
    next user => exact List.mem_singleton.mp configured ▸ user
    next => exact absurd configured List.not_mem_nil

theorem offered_databases_open {user : UserRow}
    (names : ∀ transaction ∈ transactions, transaction.NamesRequested)
    (listed : OnlyListed transactions)
    (stored : tables.store = runIndexCollections transactions)
    (found : instances instanceId = some row)
    (active : activeUser users userId = .ok user) (reader : user.role ∈ indexReaders) :
    ∃ databases, getUserDatabases instances tables decryptConnectionString clientFactory instanceId =
        some databases ∧
      (databases.Pairwise fun name later => name < later) ∧
      (∀ databaseName, databaseName ∈ databases ↔
        Offers transactions decryptConnectionString clientFactory row instanceId databaseName) ∧
      ∀ databaseName ∈ databases, ∀ now missingById fragmentationById parameters,
        (∃ missing, getMissingIndexList users userId instances tables.store now instanceId
          databaseName parameters missingById = .ok missing) ∧
        ∃ fragmentation, getIndexFragmentationList users userId instances tables.store now instanceId
          databaseName parameters fragmentationById = .ok fragmentation := by
  refine ⟨_, by rw [getUserDatabases, found]; rfl, sortedNames_pairwise _, ?_, ?_⟩
  · intro databaseName
    rw [mem_sortedNames, mem_offered names stored]
  · intro databaseName member now missingById fragmentationById parameters
    rw [mem_sortedNames, mem_offered names stored] at member
    have userDatabase := (offers_user listed member).2
    have allowed : requireRoles indexReaders user = .ok user := if_pos reader
    constructor
    · simp only [getMissingIndexList, active, bind, Except.bind, allowed, getMissingIndexes,
        ofUserDatabase_eq found userDatabase]
      exact ⟨_, rfl⟩
    · simp only [getIndexFragmentationList, active, bind, Except.bind, allowed,
        getIndexFragmentation, ofUserDatabase_eq found userDatabase]
      exact ⟨_, rfl⟩

end Offered

section Interleavings

def placeOf : IndexTransaction → Uuid × String
  | .databases listing => (listing.instanceId, "*")
  | .result event => (event.instanceId, event.databaseName)

/-- The transactions of each database of the instance come in one order; others are free. -/
def SameOrder (instanceId : Uuid) (transactions other : List IndexTransaction) : Prop :=
  ∀ databaseName, transactions.filter (placeOf · = (instanceId, databaseName)) =
    other.filter (placeOf · = (instanceId, databaseName))

variable {transactions other : List IndexTransaction} {instanceId : Uuid}

theorem placeOf_of_attempt {transaction : IndexTransaction} {key : IndexCollectionKey}
    {attempt : IndexAttempt} (attempted : transaction.attempt key = some attempt) :
    placeOf transaction = (key.instanceId, key.databaseName) := by
  cases transaction with
  | databases listing =>
      obtain ⟨⟨-, -, here⟩, -⟩ := Option.ite_none_right_eq_some.mp attempted
      rw [here]
      rfl
  | result event =>
      obtain ⟨-, here, -⟩ := attempt_eq_some attempted
      rw [here]
      rfl

theorem attemptsAt_filter_place (key : IndexCollectionKey) (transactions : List IndexTransaction) :
    attemptsAt key (transactions.filter (placeOf · = (key.instanceId, key.databaseName))) =
      attemptsAt key transactions := by
  rw [attemptsAt, List.filterMap_filter, attemptsAt]
  refine List.filterMap_congr fun transaction _ => ?_
  cases attempted : transaction.attempt key with
  | none => simp
  | some attempt => simp [placeOf_of_attempt attempted]

def keysOf (transaction : IndexTransaction) : List IndexCollectionKey :=
  [.missing, .fragmentation].map fun indexType =>
    ⟨(placeOf transaction).1, (placeOf transaction).2, indexType⟩

def tablesAfter (transactions : List IndexTransaction)
    (names : ∀ transaction ∈ transactions, transaction.NamesRequested) : IndexTables where
  store := runIndexCollections transactions
  keys := (transactions.flatMap keysOf).filter fun key => ! (attemptsAt key transactions).isEmpty
  listed := by
    intro key
    have tells : Tells (runIndexCollections transactions) key _ :=
      tells_runIndexCollections transactions names
    rw [tells.status, isSome_statusAfter, List.mem_filter]
    simp only [Bool.not_eq_true', List.isEmpty_eq_false_iff, and_iff_right_iff_imp]
    intro tried
    obtain ⟨attempt, attempted⟩ := List.exists_mem_of_ne_nil _ tried
    obtain ⟨transaction, member, attempted⟩ := List.mem_filterMap.mp attempted
    refine List.mem_flatMap.mpr ⟨transaction, member, ?_⟩
    rw [keysOf, placeOf_of_attempt attempted]
    cases key with
    | mk instanceId databaseName indexType => cases indexType <;> simp

theorem SameOrder.attemptsAt (same : SameOrder instanceId transactions other)
    (databaseName : String) (indexType : IndexType) :
    attemptsAt ⟨instanceId, databaseName, indexType⟩ transactions =
      attemptsAt ⟨instanceId, databaseName, indexType⟩ other := by
  rw [← attemptsAt_filter_place, same databaseName, attemptsAt_filter_place]

theorem SameOrder.collectedDatabases_congr {tables otherTables : IndexTables}
    (same : SameOrder instanceId transactions other)
    (names : ∀ transaction ∈ transactions, transaction.NamesRequested)
    (otherNames : ∀ transaction ∈ other, transaction.NamesRequested)
    (stored : tables.store = runIndexCollections transactions)
    (otherStored : otherTables.store = runIndexCollections other) (databaseName : String) :
    databaseName ∈ collectedDatabases tables instanceId ↔
      databaseName ∈ collectedDatabases otherTables instanceId := by
  rw [mem_collectedDatabases names stored, mem_collectedDatabases otherNames otherStored, Tried,
    Tried]
  simp only [same.attemptsAt]

theorem getUserDatabases_congr {instances : Uuid → Option InstanceRecord}
    {decryptConnectionString : String → Raises String} {clientFactory : String → Raises IndexClient}
    {tables otherTables : IndexTables}
    (same : ∀ name, name ∈ collectedDatabases tables instanceId ↔
      name ∈ collectedDatabases otherTables instanceId) :
    getUserDatabases instances tables decryptConnectionString clientFactory instanceId =
      getUserDatabases instances otherTables decryptConnectionString clientFactory instanceId := by
  have empty : collectedDatabases tables instanceId = [] ↔
      collectedDatabases otherTables instanceId = [] := by
    simp only [List.eq_nil_iff_forall_not_mem, same]
  unfold getUserDatabases
  congr 1
  funext row
  refine sortedNames_congr fun name => ?_
  simp only [List.mem_append, empty]
  refine or_congr ?_ Iff.rfl
  split
  · rfl
  · exact same name

theorem interleavings_not_seen (same : SameOrder instanceId transactions other)
    (names : ∀ transaction ∈ transactions, transaction.NamesRequested)
    (otherNames : ∀ transaction ∈ other, transaction.NamesRequested) :
    (∀ users userId instances now databaseName parameters byId,
      getMissingIndexList users userId instances (runIndexCollections transactions) now instanceId
          databaseName parameters byId =
        getMissingIndexList users userId instances (runIndexCollections other) now instanceId
          databaseName parameters byId) ∧
      (∀ users userId instances now databaseName parameters byId,
        getIndexFragmentationList users userId instances (runIndexCollections transactions) now
            instanceId databaseName parameters byId =
          getIndexFragmentationList users userId instances (runIndexCollections other) now
            instanceId databaseName parameters byId) ∧
      ∀ (tables otherTables : IndexTables) instances decryptConnectionString clientFactory,
        tables.store = runIndexCollections transactions →
        otherTables.store = runIndexCollections other →
        getUserDatabases instances tables decryptConnectionString clientFactory instanceId =
          getUserDatabases instances otherTables decryptConnectionString clientFactory instanceId := by
  have tells (key : IndexCollectionKey) : Tells (runIndexCollections transactions) key _ :=
    tells_runIndexCollections transactions names
  have otherTells (key : IndexCollectionKey) : Tells (runIndexCollections other) key _ :=
    tells_runIndexCollections other otherNames
  refine ⟨?_, ?_, ?_⟩
  · intro users userId instances now databaseName parameters byId
    have key := tells ⟨instanceId, databaseName, .missing⟩
    rw [same.attemptsAt] at key
    simp only [getMissingIndexList, getMissingIndexes, (missing_rows_of_tells key).1, key.status,
      (missing_rows_of_tells (otherTells _)).1, (otherTells _).status]
  · intro users userId instances now databaseName parameters byId
    have key := tells ⟨instanceId, databaseName, .fragmentation⟩
    rw [same.attemptsAt] at key
    simp only [getIndexFragmentationList, getIndexFragmentation,
      (fragmentation_rows_of_tells key).1, key.status,
      (fragmentation_rows_of_tells (otherTells _)).1, (otherTells _).status]
  · intro tables otherTables instances decryptConnectionString clientFactory stored otherStored
    exact getUserDatabases_congr
      (same.collectedDatabases_congr names otherNames stored otherStored)

end Interleavings

section Sales

def salesTables : IndexTables := tablesAfter salesTransactions salesTransactions_namesRequested

theorem listUserDatabases_sales : listUserDatabases salesClient = .ok ["sales"] := by
  decide +kernel

theorem salesTransactions_onlyListed : OnlyListed salesTransactions := by
  intro event member
  refine ⟨salesClient, _, listUserDatabases_sales, ?_⟩
  simp only [salesTransactions, List.mem_cons, IndexTransaction.result.injEq, List.not_mem_nil,
    or_false] at member
  rcases member with rfl | rfl <;> exact List.mem_singleton_self _

theorem offered_databases_open_sales :
    ∃ databases, getUserDatabases (fun _ => some default) salesTables .ok
        (fun _ => .ok salesClient) 1 = some databases ∧ "sales" ∈ databases := by
  obtain ⟨databases, offered, -, members, -⟩ := @offered_databases_open developers 3
    (fun _ => some default) salesTables .ok (fun _ => .ok salesClient) 1 default salesTransactions _
    salesTransactions_namesRequested salesTransactions_onlyListed rfl rfl rfl (by decide)
  have tried : attemptsAt ⟨1, "sales", .missing⟩ salesTransactions ≠ [] := by
    refine List.ne_nil_of_mem (List.mem_filterMap.mpr ⟨.result salesTimedOut, ?_, rfl⟩)
    exact List.mem_cons_of_mem _ (List.mem_singleton_self _)
  exact ⟨databases, offered, (members "sales").mpr (.inl ⟨by decide, .missing, tried⟩)⟩

def otherTransactions : List IndexTransaction :=
  [.result salesCollected, .result { salesCollected with instanceId := 2 }, .result salesTimedOut]

theorem otherTransactions_namesRequested :
    ∀ transaction ∈ otherTransactions, transaction.NamesRequested := by
  intro transaction member
  simp only [otherTransactions, List.mem_cons, List.not_mem_nil, or_false] at member
  rcases member with rfl | rfl | rfl
  · exact salesCollected_namesRequested
  · exact salesCollected_namesRequested
  · exact fun _ _ _ source => nomatch source

theorem interleavings_not_seen_sales :
    getMissingIndexList developers 3 (fun _ => some default)
        (runIndexCollections otherTransactions) 86400 1 "sales" ⟨1, 20, by decide, by decide, by decide⟩
        (unordered _) =
      getMissingIndexList developers 3 (fun _ => some default)
        (runIndexCollections salesTransactions) 86400 1 "sales" ⟨1, 20, by decide, by decide, by decide⟩
        (unordered _) := by
  have same : SameOrder 1 otherTransactions salesTransactions := by
    intro databaseName
    have apart : ∀ event : IndexEvent, event.instanceId = 2 →
        decide (placeOf (.result event) = (1, databaseName)) = false := by
      intro event elsewhere
      simp [placeOf, elsewhere]
    simp only [otherTransactions, salesTransactions, List.filter_cons]
    rw [apart { salesCollected with instanceId := 2 } rfl]
    rfl
  exact (interleavings_not_seen same otherTransactions_namesRequested
    salesTransactions_namesRequested).1 ..

end Sales

end SqlMonitor.Services
