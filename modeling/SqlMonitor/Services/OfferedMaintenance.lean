import SqlMonitor.Services.IndexPages
import SqlMonitor.Services.IndexPaging
import SqlMonitor.Services.IndexStatements

set_option autoImplicit false

namespace SqlMonitor.Services

open Collector Attempts Decimals

def actionText : MaintenanceAction → String
  | .none => "NONE"
  | .reorganize => "REORGANIZE"
  | .rebuild => "REBUILD"

-- The request that the view sends for one of its rows.
def maintenanceRequest (instanceId : Uuid) (item : IndexFragmentationItem) :
    FragmentationActionRequestData where
  instanceId := instanceId
  databaseName := item.databaseName
  schemaName := item.schemaName
  tableName := item.tableName
  indexName := item.indexName
  partitionNumber := item.partitionNumber
  action := actionText item.recommendedAction
  avgFragmentationInPercent := item.avgFragmentationInPercent
  pageCount := item.pageCount

def itemNames (item : IndexFragmentationItem) : List String :=
  [item.databaseName, item.schemaName, item.tableName, item.indexName]

section Rounding

variable {percent : Rat} {pageCount : Int}

theorem recommend_eq_rebuild_iff : recommendFragmentationAction percent pageCount = .rebuild ↔
    1000 ≤ pageCount ∧ 30 < percent := by
  unfold recommendFragmentationAction
  split_ifs with small large middle
  · exact iff_of_false (by simp) fun both => absurd both.1 (not_le.mpr small)
  · exact iff_of_true rfl ⟨not_lt.mp small, large⟩
  · exact iff_of_false (by simp) fun both => large both.2
  · exact iff_of_false (by simp) fun both => large both.2

theorem recommend_eq_reorganize_iff : recommendFragmentationAction percent pageCount = .reorganize ↔
    1000 ≤ pageCount ∧ 5 ≤ percent ∧ percent ≤ 30 := by
  unfold recommendFragmentationAction
  split_ifs with small large middle
  · exact iff_of_false (by simp) fun all => absurd all.1 (not_le.mpr small)
  · exact iff_of_false (by simp) fun all => absurd all.2.2 (not_le.mpr large)
  · exact iff_of_true rfl ⟨not_lt.mp small, middle, not_lt.mp large⟩
  · exact iff_of_false (by simp) fun all => middle all.2.1

theorem five_le_numeric (reached : 5 ≤ percent) : 5 ≤ numeric 2 percent := by
  have stored := (@le_numeric_iff 2 percent 500 (by omega)).mpr (by norm_num; linarith)
  norm_num at stored
  exact stored

theorem thirty_lt_numeric_iff : 30 < numeric 2 percent ↔ 30 + 1 / 200 ≤ percent := by
  have stored := @lt_numeric_iff 2 percent 3000 (by omega)
  norm_num at stored ⊢
  exact stored

theorem recommend_numeric_iff (offered : recommendFragmentationAction percent pageCount ≠ .none) :
    recommendFragmentationAction (numeric 2 percent) pageCount =
        recommendFragmentationAction percent pageCount ↔
      percent ≤ 30 ∨ 30 + 1 / 200 ≤ percent := by
  cases action : recommendFragmentationAction percent pageCount with
  | none => exact absurd action offered
  | reorganize =>
      obtain ⟨pages, reached, low⟩ := recommend_eq_reorganize_iff.mp action
      refine iff_of_true (recommend_eq_reorganize_iff.mpr ⟨pages, five_le_numeric reached, ?_⟩)
        (.inl low)
      by_contra above
      have beyond := thirty_lt_numeric_iff.mp (not_le.mp above)
      linarith
  | rebuild =>
      obtain ⟨pages, high⟩ := recommend_eq_rebuild_iff.mp action
      rw [recommend_eq_rebuild_iff, thirty_lt_numeric_iff]
      constructor
      · exact fun both => .inr both.2
      · rintro (low | beyond)
        · exact absurd high (not_lt.mpr low)
        · exact ⟨pages, beyond⟩

end Rounding

section Requests

variable {surroundings : OperationSurroundings} {row : InstanceRecord} {client : OperationClient}
  {support : List OnlineSupportRow} {operator : Operator} {instanceId : Uuid}
  {item : IndexFragmentationItem}

theorem actionText_mem (offered : item.recommendedAction ≠ .none) :
    actionText item.recommendedAction ∈ fragmentationActions := by
  cases action : item.recommendedAction with
  | none => exact absurd action offered
  | reorganize => decide
  | rebuild => decide

def rebuiltOnline (support : List OnlineSupportRow) (item : IndexFragmentationItem) : Bool :=
  item.recommendedAction = .rebuild ∧ supportsOnlineIndexRebuild support

theorem onlineUsed_eq (answered : client.onlineSupport = .ok support) :
    onlineUsed client (actionText item.recommendedAction) = .ok (rebuiltOnline support item) := by
  unfold onlineUsed rebuiltOnline
  cases item.recommendedAction with
  | none => rfl
  | reorganize => rfl
  | rebuild =>
      rw [answered]
      simp [actionText, Except.map]

theorem buildIndexMaintenanceSql_invalid {action : String} {onlineRebuild : Bool}
    (known : action ∈ fragmentationActions)
    (invalid : ¬ ∀ name ∈ itemNames item, isIdentifier name = true) :
    ∃ exc, buildIndexMaintenanceSql item.databaseName item.schemaName item.tableName item.indexName
      action onlineRebuild = .error exc := by
  cases built : buildIndexMaintenanceSql item.databaseName item.schemaName item.tableName
      item.indexName action onlineRebuild with
  | error exc => exact ⟨exc, rfl⟩
  | ok ddl =>
      simp only [buildIndexMaintenanceSql, known, not_true_eq_false, if_false, bind_eq_ok] at built
      obtain ⟨_, validated, -⟩ := built
      exact absurd (validateIdentifiers_eq_ok.mp validated) invalid

def offeredAudit (support : List OnlineSupportRow) (instanceId : Uuid)
    (item : IndexFragmentationItem) (operator : Operator) : MissingIndexAudit :=
  let online := rebuiltOnline support item
  writeFragmentationAudit (maintenanceRequest instanceId item) operator
    (TSql.alterIndexText item.indexName ⟨item.databaseName, item.schemaName, item.tableName⟩
      (actionText item.recommendedAction) online) online .running none

theorem executeFragmentationAction_offered (offered : item.recommendedAction ≠ .none)
    (connected : operationClient surroundings row = .ok client)
    (answered : client.onlineSupport = .ok support) :
    executeFragmentationAction surroundings (some row) (maintenanceRequest instanceId item) operator =
        .ok (offeredAudit support instanceId item operator, none) ↔
      ∀ name ∈ itemNames item, isIdentifier name = true := by
  have known := actionText_mem offered
  have requested : (maintenanceRequest instanceId item).action ∈ fragmentationActions := known
  have online : onlineUsed client (maintenanceRequest instanceId item).action =
      .ok (rebuiltOnline support item) := onlineUsed_eq answered
  simp only [executeFragmentationAction, requested, not_true_eq_false, if_false, connected, online,
    bind, Except.bind]
  by_cases valid : ∀ name ∈ itemNames item, isIdentifier name = true
  · have rebuild : decide (actionText item.recommendedAction = "REBUILD" ∧
        rebuiltOnline support item = true) = rebuiltOnline support item := by
      cases action : item.recommendedAction <;> simp [rebuiltOnline, action, actionText]
    have built := @buildIndexMaintenanceSql_of_valid item.databaseName item.schemaName
      item.tableName item.indexName _ (rebuiltOnline support item) known valid
    rw [rebuild] at built
    refine iff_of_true ?_ valid
    simp only [maintenanceRequest, built]
    rfl
  · obtain ⟨exc, raised⟩ := @buildIndexMaintenanceSql_invalid item _
      (rebuiltOnline support item) known valid
    refine iff_of_false ?_ valid
    simp only [maintenanceRequest, raised]
    simp

end Requests

section Pages

variable {users : UserTable} {userId : Uuid} {instances : Uuid → Option InstanceRecord}
  {instanceId : Uuid} {databaseName : String} {user : UserRow} {row : InstanceRecord}
  {now : Timestamp} {pageSize n : Nat} {transactions : List IndexTransaction}
  {answer : IndexSnapshotPage IndexFragmentationItem} {item : IndexFragmentationItem}

def FoundByLastSuccess (transactions : List IndexTransaction) (key : IndexCollectionKey)
    (item : IndexFragmentationItem) : Prop :=
  ∃ time rows event fuel clientFactory connectionString found,
    lastSuccess (attemptsAt key transactions) = some (time, rows) ∧
      .result event ∈ transactions ∧ event.attempt key = some ⟨time, .ok rows⟩ ∧
      event.source = .worker fuel clientFactory connectionString ∧
      fragmentationOutcome fuel clientFactory connectionString key.databaseName =
        some (.ok found) ∧
      item ∈ found

theorem collected_of_shown {key : IndexCollectionKey} {shown : List IndexFragmentationItem}
    (last : ShowsLastFragmentation transactions key shown) (member : item ∈ shown) :
    ∃ collected, FoundByLastSuccess transactions key collected ∧ FromCatalog collected ∧
      collected.actionEnabled = true ∧ item = shownFragmentation collected := by
  unfold ShowsLastFragmentation at last
  split at last
  next => exact absurd member (last ▸ List.not_mem_nil)
  next time rows success =>
    obtain ⟨event, committed, attempted, fuel, clientFactory, connectionString, found, source,
      outcome, rfl⟩ := last
    obtain ⟨collected, kept, rfl⟩ := List.mem_map.mp member
    obtain ⟨inside, enabled⟩ := List.mem_filter.mp kept
    exact ⟨collected, ⟨time, rows, event, fuel, clientFactory, connectionString, found, success,
      committed, attempted, source, outcome, inside⟩,
      fromCatalog_of_outcome outcome collected inside, enabled, rfl⟩

theorem offered_of_enabled (listed : FromCatalog item) (enabled : item.actionEnabled = true) :
    item.recommendedAction ≠ .none ∧ 1000 ≤ item.pageCount ∧
      5 ≤ item.avgFragmentationInPercent := by
  have action := listed.recommended
  rw [listed.enabled, decide_eq_true_eq] at enabled
  rcases enabled with reorganize | rebuild
  · obtain ⟨pages, reached, -⟩ := recommend_eq_reorganize_iff.mp (action.symm.trans reorganize)
    exact ⟨by simp [reorganize], pages, reached⟩
  · obtain ⟨pages, high⟩ := recommend_eq_rebuild_iff.mp (action.symm.trans rebuild)
    exact ⟨by simp [rebuild], pages, by linarith⟩

theorem offered_maintenance_accepted_iff
    (names : ∀ transaction ∈ transactions, transaction.NamesRequested)
    (active : activeUser users userId = .ok user) (reader : user.role ∈ indexReaders)
    (found : instances instanceId = some row)
    (userDatabase : databaseName.toLower ∉ systemDatabases)
    (byId : IdOrder IndexFragmentationSnapshot) (sized : 1 ≤ pageSize) (bounded : pageSize ≤ 500)
    (answered : fragmentationPageAt users userId instances (runIndexCollections transactions) now
      instanceId databaseName byId sized bounded n = .ok answer)
    (member : item ∈ answer.items) :
    (item.actionEnabled = true ∧ 1000 ≤ item.pageCount ∧ 5 ≤ item.avgFragmentationInPercent) ∧
      (∃ collected, FoundByLastSuccess transactions ⟨instanceId, databaseName, .fragmentation⟩
          collected ∧
        item = { collected with
          avgFragmentationInPercent := numeric 2 collected.avgFragmentationInPercent } ∧
        item.recommendedAction =
          recommendFragmentationAction collected.avgFragmentationInPercent collected.pageCount ∧
        (recommendFragmentationAction item.avgFragmentationInPercent item.pageCount =
            item.recommendedAction ↔
          collected.avgFragmentationInPercent ≤ 30 ∨
            30 + 1 / 200 ≤ collected.avgFragmentationInPercent)) ∧
      ∀ surroundings client support operator,
        operationClient surroundings row = .ok client → client.onlineSupport = .ok support →
        (executeFragmentationAction surroundings (some row) (maintenanceRequest instanceId item)
            operator = .ok (offeredAudit support instanceId item operator, none) ↔
          ∀ name ∈ itemNames item, isIdentifier name = true) := by
  obtain ⟨shown, last, tell⟩ := @fragmentation_pages_tell users userId instances now instanceId
    databaseName transactions user row pageSize names active reader found userDatabase byId sized
    bounded
  obtain ⟨collected, success, listed, enabled, rfl⟩ :=
    collected_of_shown last (tell.mem_shown answered member)
  obtain ⟨offered, pages, reached⟩ := offered_of_enabled listed enabled
  refine ⟨⟨enabled, pages, five_le_numeric reached⟩, ⟨collected, success, rfl,
    listed.recommended, ?_⟩, ?_⟩
  · rw [listed.recommended] at offered
    have same := recommend_numeric_iff offered
    rwa [← listed.recommended] at same
  · intro surroundings client support operator connected supported
    exact executeFragmentationAction_offered offered connected supported

def ordersFragmentation : IndexEvent :=
  ⟨1, "Sales", false, true, 0, .worker 2 (fun _ => .ok (fragmentationServer (orderTargets "Sales"))) "dsn",
    true⟩

theorem ordersFragmentation_namesRequested : ordersFragmentation.NamesRequested := by
  intro fuel clientFactory connectionString source client connected
  obtain ⟨rfl, rfl, rfl⟩ := ResultSource.worker.inj source
  obtain rfl := Except.ok.inj connected
  refine ⟨?_, ?_⟩
  · intro first last rows answered row member
    obtain rfl := Except.ok.inj answered
    exact absurd member List.not_mem_nil
  · intro first last rows answered row member
    obtain rfl := Except.ok.inj answered
    obtain ⟨target, inside, partition⟩ := List.mem_flatten.mp member
    have stored := List.mem_of_mem_drop (List.mem_of_mem_take inside)
    have named : ∀ target ∈ orderTargets "Sales", ∀ row ∈ target, row.databaseName = some "Sales" := by
      decide
    exact .inr (.inr (named target stored row partition))

def ordersPage : Except HttpError (IndexSnapshotPage IndexFragmentationItem) :=
  fragmentationPageAt developers 3 (fun _ => some default)
    (runIndexCollections [.result ordersFragmentation]) 0 1 "Sales" (unordered _)
    (show 1 ≤ 20 by decide) (by decide) 0

theorem offered_maintenance_accepted_iff_orders :
    ordersPage.toOption.map (·.items.length) = some 3 ∧
      ∀ answer, ordersPage = .ok answer → ∀ item ∈ answer.items,
        1000 ≤ item.pageCount ∧ ∃ collected,
          FoundByLastSuccess [.result ordersFragmentation] ⟨1, "Sales", .fragmentation⟩ collected ∧
          item.recommendedAction =
            recommendFragmentationAction collected.avgFragmentationInPercent
              collected.pageCount := by
  refine ⟨by decide +kernel, ?_⟩
  intro answer answered item member
  have names : ∀ transaction ∈ [IndexTransaction.result ordersFragmentation],
      transaction.NamesRequested := by
    simpa [IndexTransaction.NamesRequested] using ordersFragmentation_namesRequested
  obtain ⟨⟨-, pages, -⟩, ⟨collected, found, -, recommended, -⟩, -⟩ :=
    offered_maintenance_accepted_iff names rfl (by decide) rfl (by decide +kernel) (unordered _)
      (by decide) (by decide) answered member
  exact ⟨pages, collected, found, recommended⟩

end Pages

end SqlMonitor.Services
