import SqlMonitor.Services.IndexRunOutcome
import SqlMonitor.Shared.Replacement
import SqlMonitor.Shared.TSql

set_option autoImplicit false

namespace SqlMonitor.Services

section Quoting

theorem isIdentifier_iff {value : String} :
    isIdentifier value = true ↔ value ≠ "" ∧ '.' ∉ value.toList ∧ '[' ∉ value.toList ∧
      ']' ∉ value.toList ∧ Char.ofNat 0 ∉ value.toList := by
  simp only [isIdentifier, Bool.and_eq_true, decide_eq_true_eq, List.all_eq_true, List.mem_cons,
    List.not_mem_nil, or_false, not_or]
  constructor
  · intro both
    obtain ⟨some, apart⟩ := both
    exact ⟨some, fun member => (apart _ member).1 rfl, fun member => (apart _ member).2.1 rfl,
      fun member => (apart _ member).2.2.1 rfl, fun member => (apart _ member).2.2.2 rfl⟩
  · intro absent
    obtain ⟨some, dot, opening, closing, null⟩ := absent
    refine ⟨some, fun c member => ⟨?_, ?_, ?_, ?_⟩⟩ <;> rintro rfl
    · exact dot member
    · exact opening member
    · exact closing member
    · exact null member

theorem isIdentifier_eq_false {value : String} :
    isIdentifier value = false ↔ value = "" ∨ '.' ∈ value.toList ∨ '[' ∈ value.toList ∨
      ']' ∈ value.toList ∨ Char.ofNat 0 ∈ value.toList := by
  rw [← Bool.not_eq_true, isIdentifier_iff]
  tauto

theorem quoteIdentifier_eq_quote {value : String} (valid : isIdentifier value = true) :
    quoteIdentifier value = .ok (TSql.quote value) := by
  have absent : ']' ∉ value.toList := (isIdentifier_iff.mp valid).2.2.2.1
  have kept : value.replace "]" "]]" = value := Replacement.replace_of_not_mem absent "]]"
  have same : TSql.quote value = "[" ++ value ++ "]" := by
    rw [TSql.quote, TSql.escape_of_not_mem absent, String.ofList_toList]
  rw [quoteIdentifier_of_valid valid, kept, same]

theorem quoteColumns_eq_names {columns : List String}
    (valid : ∀ column ∈ columns, isIdentifier column = true) :
    quoteColumns columns = .ok (", ".intercalate (columns.map TSql.quote)) := by
  have quoted : columns.mapM quoteIdentifier = .ok (columns.map TSql.quote) := by
    induction columns with
    | nil => rfl
    | cons column rest ih =>
        obtain ⟨here, later⟩ := List.forall_mem_cons.mp valid
        rw [List.mapM_cons, quoteIdentifier_eq_quote here, ih later]
        rfl
  rw [quoteColumns, quoted]
  rfl

theorem quoteTable_eq_text {databaseName schemaName tableName : String}
    (database : isIdentifier databaseName = true) (schema : isIdentifier schemaName = true)
    (table : isIdentifier tableName = true) :
    quoteTable databaseName schemaName tableName =
      .ok (TSql.ObjectName.text ⟨databaseName, schemaName, tableName⟩) := by
  rw [quoteTable, quoteIdentifier_eq_quote database, quoteIdentifier_eq_quote schema,
    quoteIdentifier_eq_quote table]
  rfl

end Quoting

section Creation

-- No `INCLUDE` without columns.
def includedColumns (includeColumns : List String) : Option (List String) :=
  if includeColumns = [] then none else some includeColumns

theorem includedColumns_inj {first second : List String}
    (same : includedColumns first = includedColumns second) : first = second := by
  by_cases plain : first = [] <;> by_cases bare : second = [] <;>
    simp_all [includedColumns]

def createIndexStatement (databaseName schemaName tableName indexName : String)
    (keyColumns includeColumns : List String) : TSql.CreateIndex :=
  ⟨indexName, ⟨databaseName, schemaName, tableName⟩, keyColumns, includedColumns includeColumns⟩

variable {databaseName schemaName tableName indexName : String}
  {keyColumns includeColumns : List String}

theorem buildCreateIndexSql_raises_iff :
    (∃ exc, buildCreateIndexSql databaseName schemaName tableName indexName keyColumns
        includeColumns = .error exc) ↔
      keyColumns = [] ∨
        ∃ value ∈ [databaseName, schemaName, tableName, indexName] ++ keyColumns ++ includeColumns,
          isIdentifier value = false := by
  have returns := @buildCreateIndexSql_returns_iff databaseName schemaName tableName indexName
    keyColumns includeColumns
  cases built : buildCreateIndexSql databaseName schemaName tableName indexName keyColumns
      includeColumns with
  | ok ddl =>
      obtain ⟨keyed, valid⟩ := returns.mp ⟨ddl, built⟩
      refine iff_of_false (by simp) ?_
      rintro (keyless | ⟨value, member, invalid⟩)
      · exact keyed keyless
      · exact absurd (valid value member) (by simp [invalid])
  | error exc =>
      refine iff_of_true ⟨exc, rfl⟩ ?_
      by_contra accepted
      simp only [not_or, not_exists, not_and, Bool.not_eq_false] at accepted
      obtain ⟨ddl, done⟩ := returns.mpr accepted
      exact absurd (built.symm.trans done) (by simp)

theorem wellFormed_createIndexStatement (keyed : keyColumns ≠ []) :
    (createIndexStatement databaseName schemaName tableName indexName keyColumns
      includeColumns).WellFormed where
  keyed := keyed
  included := by
    by_cases plain : includeColumns = [] <;> simp [createIndexStatement, includedColumns, plain]

theorem buildCreateIndexSql_eq_text {ddl : String}
    (built : buildCreateIndexSql databaseName schemaName tableName indexName keyColumns
      includeColumns = .ok ddl) :
    keyColumns ≠ [] ∧ ddl = (createIndexStatement databaseName schemaName tableName indexName
      keyColumns includeColumns).text := by
  obtain ⟨keyed, valid⟩ := buildCreateIndexSql_returns_iff.mp ⟨ddl, built⟩
  refine ⟨keyed, ?_⟩
  have validated := validateIdentifiers_eq_ok.mpr valid
  simp only [List.cons_append, List.nil_append, List.forall_mem_cons, List.forall_mem_append]
    at valid
  obtain ⟨database, schema, table, index, keys, included⟩ := valid
  have keysText : "CREATE INDEX " ++ TSql.quote indexName ++ " ON " ++
      TSql.ObjectName.text ⟨databaseName, schemaName, tableName⟩ ++ " (" ++
        ", ".intercalate (keyColumns.map TSql.quote) ++ ")" =
      TSql.keysText indexName ⟨databaseName, schemaName, tableName⟩ keyColumns := by
    unfold TSql.keysText
    rw [TSql.namesText, ← String.append_assoc]
  simp only [buildCreateIndexSql, keyed, if_false, validated, quoteIdentifier_eq_quote index,
    quoteTable_eq_text database schema table, quoteColumns_eq_names keys,
    quoteColumns_eq_names included] at built
  rw [createIndexStatement, TSql.CreateIndex.text, ← keysText, includedColumns]
  by_cases plain : includeColumns = []
  · simp only [if_pos plain] at built
    rw [if_pos plain, TSql.includeText, String.append_empty]
    exact (Except.ok.inj built).symm
  · simp only [if_neg plain] at built
    rw [if_neg plain, TSql.includeText, TSql.namesText, ← String.append_assoc,
      ← String.append_assoc]
    exact (Except.ok.inj built).symm

variable (databaseName schemaName tableName indexName : String)
  (keyColumns includeColumns : List String)

theorem buildCreateIndexSql_reads :
    ((∃ exc, buildCreateIndexSql databaseName schemaName tableName indexName keyColumns
        includeColumns = .error exc) ↔
      keyColumns = [] ∨
        ∃ value ∈ [databaseName, schemaName, tableName, indexName] ++ keyColumns ++ includeColumns,
          value = "" ∨ '.' ∈ value.toList ∨ '[' ∈ value.toList ∨ ']' ∈ value.toList ∨
            Char.ofNat 0 ∈ value.toList) ∧
    ∀ ddl, buildCreateIndexSql databaseName schemaName tableName indexName keyColumns
        includeColumns = .ok ddl →
      TSql.parseCreateIndex ddl = some
          { indexName, object := { databaseName, schemaName, tableName }, keyColumns
            includeColumns := if includeColumns = [] then none else some includeColumns } ∧
        ∀ databaseName' schemaName' tableName' indexName' keyColumns' includeColumns',
          buildCreateIndexSql databaseName' schemaName' tableName' indexName' keyColumns'
              includeColumns' = .ok ddl →
            databaseName' = databaseName ∧ schemaName' = schemaName ∧ tableName' = tableName ∧
              indexName' = indexName ∧ keyColumns' = keyColumns ∧
              includeColumns' = includeColumns := by
  have reads : ∀ databaseName schemaName tableName indexName keyColumns includeColumns ddl,
      buildCreateIndexSql databaseName schemaName tableName indexName keyColumns includeColumns =
        .ok ddl →
      TSql.parseCreateIndex ddl = some (createIndexStatement databaseName schemaName tableName
        indexName keyColumns includeColumns) := by
    intro databaseName schemaName tableName indexName keyColumns includeColumns ddl built
    obtain ⟨keyed, rfl⟩ := buildCreateIndexSql_eq_text built
    exact TSql.parseCreateIndex_text (wellFormed_createIndexStatement keyed)
  constructor
  · simp only [buildCreateIndexSql_raises_iff, isIdentifier_eq_false]
  · intro ddl built
    refine ⟨reads _ _ _ _ _ _ ddl built, ?_⟩
    intro databaseName' schemaName' tableName' indexName' keyColumns' includeColumns' other
    have same := (reads _ _ _ _ _ _ ddl other).symm.trans (reads _ _ _ _ _ _ ddl built)
    simp only [createIndexStatement, Option.some.injEq, TSql.CreateIndex.mk.injEq,
      TSql.ObjectName.mk.injEq] at same
    obtain ⟨index, ⟨database, schema, table⟩, keys, included⟩ := same
    exact ⟨database, schema, table, index, keys, includedColumns_inj included⟩

end Creation

section HostileNames

theorem hostileNames_returns : ∃ ddl, buildCreateIndexSql "Sales" "dbo" "Orders" "IX_Orders"
    ["id) INCLUDE (x", "a, b"] ["c'; --"] = .ok ddl :=
  buildCreateIndexSql_returns_iff.mpr (by decide)

theorem buildCreateIndexSql_reads_hostile : ∃ ddl, buildCreateIndexSql "Sales" "dbo" "Orders"
      "IX_Orders" ["id) INCLUDE (x", "a, b"] ["c'; --"] = .ok ddl ∧
    TSql.parseCreateIndex ddl = some ⟨"IX_Orders", ⟨"Sales", "dbo", "Orders"⟩,
      ["id) INCLUDE (x", "a, b"], some ["c'; --"]⟩ := by
  obtain ⟨ddl, built⟩ := hostileNames_returns
  have read := (buildCreateIndexSql_reads "Sales" "dbo" "Orders" "IX_Orders"
    ["id) INCLUDE (x", "a, b"] ["c'; --"]).2 ddl built
  exact ⟨ddl, built, read.1⟩

end HostileNames

section Maintenance

variable {databaseName schemaName tableName indexName action ddl : String} {onlineRebuild : Bool}

theorem buildIndexMaintenanceSql_of_valid (known : action ∈ fragmentationActions)
    (valid : ∀ value ∈ [databaseName, schemaName, tableName, indexName],
      isIdentifier value = true) :
    buildIndexMaintenanceSql databaseName schemaName tableName indexName action onlineRebuild =
      .ok (TSql.alterIndexText indexName ⟨databaseName, schemaName, tableName⟩ action
        (action = "REBUILD" ∧ onlineRebuild)) := by
  have validated := validateIdentifiers_eq_ok.mpr valid
  simp only [List.forall_mem_cons] at valid
  obtain ⟨database, schema, table, index, -⟩ := valid
  unfold TSql.alterIndexText
  simp only [buildIndexMaintenanceSql, known, not_true_eq_false, if_false, validated,
    quoteIdentifier_eq_quote index, quoteTable_eq_text database schema table, TSql.onlineText]
  by_cases online : action = "REBUILD" ∧ onlineRebuild = true
  · simp only [if_pos online, decide_eq_true online, if_true]
    rfl
  · simp only [if_neg online, decide_eq_false online, Bool.false_eq_true, if_false,
      String.append_empty]
    rfl

theorem buildIndexMaintenanceSql_eq_text
    (built : buildIndexMaintenanceSql databaseName schemaName tableName indexName action
      onlineRebuild = .ok ddl) :
    action ∈ TSql.indexActions ∧
      ddl = TSql.alterIndexText indexName ⟨databaseName, schemaName, tableName⟩ action
        (action = "REBUILD" ∧ onlineRebuild) := by
  by_cases known : action ∈ fragmentationActions
  · cases validated : validateIdentifiers [databaseName, schemaName, tableName, indexName] with
    | error exc => simp [buildIndexMaintenanceSql, known, validated, bind_eq_ok] at built
    | ok value =>
        have valid := validateIdentifiers_eq_ok.mp validated
        rw [buildIndexMaintenanceSql_of_valid known valid] at built
        exact ⟨known, (Except.ok.inj built).symm⟩
  · simp [buildIndexMaintenanceSql, known, bind_eq_ok] at built

structure MaintenanceTarget where
  databaseName : String
  schemaName : String
  tableName : String
  indexName : String
  partitionNumber : Option Int
deriving DecidableEq

def auditedTarget (audit : MissingIndexAudit) : MaintenanceTarget :=
  ⟨audit.databaseName, audit.schemaName, audit.tableName, audit.indexName, audit.partitionNumber⟩

abbrev PartitionCatalog := TSql.ObjectName → String → List Int

def partitionsActedOn (catalog : PartitionCatalog) (ddl : String) : List Int :=
  match TSql.parseAlterIndex ddl with
  | none => []
  | some statement => statement.actsOn (catalog statement.object statement.indexName)

/-- Of an index with several partitions a statement acts on the one that the audit names. -/
def ActsOnAuditedPartition (catalog : PartitionCatalog) (audit : MissingIndexAudit)
    (ddl : String) : Prop :=
  1 < (catalog ⟨audit.databaseName, audit.schemaName, audit.tableName⟩ audit.indexName).length →
    (partitionsActedOn catalog ddl).map some = [audit.partitionNumber]

/-- What a request learns of the server: whether its rebuild will be online. -/
def onlineAnswer (surroundings : OperationSurroundings) (row : InstanceRecord) (action : String) :
    Raises Bool := do
  let client ← operationClient surroundings row
  onlineUsed client action

def requestedObject (data : FragmentationActionRequestData) : TSql.ObjectName :=
  ⟨data.databaseName, data.schemaName, data.tableName⟩

def requestedPartitions (catalog : PartitionCatalog) (data : FragmentationActionRequestData) :
    List Int :=
  catalog (requestedObject data) data.indexName

def maintenanceText (data : FragmentationActionRequestData) (online : Bool) : String :=
  TSql.alterIndexText data.indexName (requestedObject data) data.action online

theorem accepted_maintenance {surroundings : OperationSurroundings} {row : InstanceRecord}
    {data : FragmentationActionRequestData} {operator : Operator} {audit : MissingIndexAudit}
    (accepted : executeFragmentationAction surroundings (some row) data operator =
      .ok (audit, none)) :
    ∃ online, onlineAnswer surroundings row data.action = .ok online ∧
      data.action ∈ TSql.indexActions ∧
      audit = writeFragmentationAudit data operator (maintenanceText data online) online
        .running none := by
  by_cases known : data.action ∈ fragmentationActions
  · simp only [executeFragmentationAction, known, not_true_eq_false, if_false, bind_eq_ok,
      pure_eq_ok] at accepted
    obtain ⟨client, connected, online, answered, ddl, built, stored⟩ := accepted
    refine ⟨online, ?_, known, ?_⟩
    · simp only [onlineAnswer, connected, answered, bind, Except.bind]
    · obtain ⟨-, text⟩ := buildIndexMaintenanceSql_eq_text built
      have rebuild : online = true → data.action = "REBUILD" := by
        intro asked
        by_contra other
        simp [onlineUsed, other, pure_eq_ok, asked] at answered
      have same : decide (data.action = "REBUILD" ∧ online = true) = online := by
        cases online <;> simp_all
      rw [← (Prod.mk.inj stored).1, text, same]
      rfl
  · simp [executeFragmentationAction, known, bind_eq_ok] at accepted

theorem maintenanceText_inj {data other : FragmentationActionRequestData} {online again : Bool}
    (known : data.action ∈ TSql.indexActions) (action : data.action = other.action) :
    maintenanceText data online = maintenanceText other again ↔
      requestedObject data = requestedObject other ∧ data.indexName = other.indexName ∧
        online = again := by
  constructor
  · intro same
    have read := congrArg TSql.parseAlterIndex same
    rw [maintenanceText, maintenanceText, TSql.parseAlterIndex_text known,
      TSql.parseAlterIndex_text (action ▸ known)] at read
    simp only [Option.some.injEq, TSql.AlterIndex.mk.injEq, true_and] at read
    exact ⟨read.2.1, read.1, read.2.2.2⟩
  · intro agree
    obtain ⟨object, index, rfl⟩ := agree
    rw [maintenanceText, maintenanceText, object, index, action]

theorem partitionsActedOn_maintenanceText (catalog : PartitionCatalog)
    {data : FragmentationActionRequestData} (known : data.action ∈ TSql.indexActions)
    (online : Bool) :
    partitionsActedOn catalog (maintenanceText data online) = requestedPartitions catalog data := by
  rw [partitionsActedOn, maintenanceText, TSql.parseAlterIndex_text known]
  rfl

theorem ddl_of_executed {surroundings : OperationSurroundings} {audit : MissingIndexAudit}
    {records : Uuid → Option InstanceRecord} {call : ExecuteCall}
    (executed : call ∈ (runFragmentationDdl surroundings (some audit) records).executed) :
    call.ddl = audit.ddlSummary := by
  rcases startIndexRun_cases surroundings audit (records audit.instanceId) with
    ⟨-, started⟩ | ⟨row, client, -, -, started⟩ | ⟨row, exc, -, -, started⟩
  · simp [runFragmentationDdl, runIndexDdl, started] at executed
  · simp only [runFragmentationDdl, runIndexDdl, started, List.mem_singleton] at executed
    rw [executed]
  · simp [runFragmentationDdl, runIndexDdl, started] at executed

theorem actsOnAuditedPartition_iff (catalog : PartitionCatalog)
    {data : FragmentationActionRequestData} (known : data.action ∈ TSql.indexActions)
    (operator : Operator) (online : Bool) :
    ActsOnAuditedPartition catalog
        (writeFragmentationAudit data operator (maintenanceText data online) online .running none)
        (maintenanceText data online) ↔
      (requestedPartitions catalog data).length ≤ 1 := by
  rw [ActsOnAuditedPartition, partitionsActedOn_maintenanceText catalog known]
  constructor
  · intro only
    by_contra several
    have one := congrArg List.length (only (not_le.mp several))
    rw [List.length_map, List.length_singleton] at one
    omega
  · intro single several
    exact absurd several (not_lt.mpr single)

theorem maintenance_acts_on_audited_iff (catalog : PartitionCatalog)
    {surroundings surroundings' running running' : OperationSurroundings}
    {row row' : InstanceRecord} {data data' : FragmentationActionRequestData}
    {operator operator' : Operator} {audit audit' : MissingIndexAudit}
    {records records' : Uuid → Option InstanceRecord} {call call' : ExecuteCall}
    (accepted : executeFragmentationAction surroundings (some row) data operator =
      .ok (audit, none))
    (accepted' : executeFragmentationAction surroundings' (some row') data' operator' =
      .ok (audit', none))
    (sameAction : data.action = data'.action)
    (executed : call ∈ (runFragmentationDdl running (some audit) records).executed)
    (executed' : call' ∈ (runFragmentationDdl running' (some audit') records').executed) :
    ((auditedTarget audit ≠ auditedTarget audit' → call.ddl ≠ call'.ddl) ∧
        ActsOnAuditedPartition catalog audit call.ddl ∧
        ActsOnAuditedPartition catalog audit' call'.ddl) ↔
      ((requestedObject data = requestedObject data' → data.indexName = data'.indexName →
          onlineAnswer surroundings row data.action = onlineAnswer surroundings' row' data'.action →
          data.partitionNumber = data'.partitionNumber) ∧
        (requestedPartitions catalog data).length ≤ 1 ∧
        (requestedPartitions catalog data').length ≤ 1) := by
  obtain ⟨online, answered, known, rfl⟩ := accepted_maintenance accepted
  obtain ⟨online', answered', known', rfl⟩ := accepted_maintenance accepted'
  have ddl : call.ddl = maintenanceText data online := ddl_of_executed executed
  have ddl' : call'.ddl = maintenanceText data' online' := ddl_of_executed executed'
  rw [ddl, ddl', actsOnAuditedPartition_iff catalog known,
    actsOnAuditedPartition_iff catalog known', answered, answered', Ne, Ne,
    maintenanceText_inj known sameAction]
  refine and_congr ?_ Iff.rfl
  have target : auditedTarget (writeFragmentationAudit data operator (maintenanceText data online)
        online .running none) =
      auditedTarget (writeFragmentationAudit data' operator' (maintenanceText data' online')
        online' .running none) ↔
      (requestedObject data = requestedObject data' ∧ data.indexName = data'.indexName ∧
        data.partitionNumber = data'.partitionNumber) := by
    simp only [auditedTarget, writeFragmentationAudit, MaintenanceTarget.mk.injEq, requestedObject,
      TSql.ObjectName.mk.injEq, Option.some.injEq, and_assoc]
  rw [target, Except.ok.injEq]
  tauto

end Maintenance

section Partitions

def rebuildPartition (indexName : String) (partitionNumber : Int) :
    FragmentationActionRequestData :=
  ⟨1, "Sales", "dbo", "Orders", indexName, partitionNumber, "REBUILD", 40, 5000⟩

def rebuildAudit (indexName : String) (partitionNumber : Int) : MissingIndexAudit :=
  writeFragmentationAudit (rebuildPartition indexName partitionNumber) ⟨7, "dba"⟩
    (maintenanceText (rebuildPartition indexName partitionNumber) true) true .running none

theorem rebuildPartition_accepted {indexName : String} (valid : isIdentifier indexName = true)
    (partitionNumber : Int) :
    executeFragmentationAction onlineServer (some salesRow)
        (rebuildPartition indexName partitionNumber) ⟨7, "dba"⟩ =
      .ok (rebuildAudit indexName partitionNumber, none) := by
  have connected : operationClient onlineServer salesRow = .ok onlineClient := rfl
  have answered : onlineUsed onlineClient "REBUILD" = .ok true := rfl
  have names : ∀ value ∈ ["Sales", "dbo", "Orders", indexName], isIdentifier value = true := by
    simp only [List.forall_mem_cons, valid]
    decide
  have built := @buildIndexMaintenanceSql_of_valid _ _ _ _ "REBUILD" true (by decide) names
  simp only [executeFragmentationAction, rebuildPartition, connected, answered, built, bind,
    Except.bind]
  rfl

def rebuildCall (indexName : String) (partitionNumber : Int) : ExecuteCall :=
  ⟨maintenanceText (rebuildPartition indexName partitionNumber) true, 1800, .ok ()⟩

theorem rebuildCall_executed (indexName : String) (partitionNumber : Int) :
    rebuildCall indexName partitionNumber ∈ (runFragmentationDdl onlineServer
      (some (rebuildAudit indexName partitionNumber)) fun _ => some salesRow).executed :=
  List.mem_singleton.mpr rfl

theorem other_partition_rebuilt :
    executeFragmentationAction onlineServer (some salesRow) (rebuildPartition "IX_Orders" 1)
        ⟨7, "dba"⟩ = .ok (rebuildAudit "IX_Orders" 1, none) ∧
      executeFragmentationAction onlineServer (some salesRow) (rebuildPartition "IX_Orders" 2)
        ⟨7, "dba"⟩ = .ok (rebuildAudit "IX_Orders" 2, none) ∧
      rebuildCall "IX_Orders" 1 ∈ (runFragmentationDdl onlineServer
        (some (rebuildAudit "IX_Orders" 1)) fun _ => some salesRow).executed ∧
      rebuildCall "IX_Orders" 2 ∈ (runFragmentationDdl onlineServer
        (some (rebuildAudit "IX_Orders" 2)) fun _ => some salesRow).executed ∧
      auditedTarget (rebuildAudit "IX_Orders" 1) ≠ auditedTarget (rebuildAudit "IX_Orders" 2) ∧
      (rebuildCall "IX_Orders" 1).ddl = (rebuildCall "IX_Orders" 2).ddl ∧
      ¬ ActsOnAuditedPartition (fun _ _ => [1, 2]) (rebuildAudit "IX_Orders" 1)
        (rebuildCall "IX_Orders" 1).ddl := by
  refine ⟨rebuildPartition_accepted (by decide) 1, rebuildPartition_accepted (by decide) 2,
    rebuildCall_executed _ _, rebuildCall_executed _ _, ?_, rfl, ?_⟩
  · intro same
    exact absurd (congrArg MaintenanceTarget.partitionNumber same) (by decide)
  · intro only
    have acts :=
      (actsOnAuditedPartition_iff (fun _ _ => [1, 2]) (by decide) ⟨7, "dba"⟩ true).mp only
    exact absurd acts (by decide)

theorem maintenance_acts_on_audited_iff_single :
    auditedTarget (rebuildAudit "IX_Date" 1) ≠ auditedTarget (rebuildAudit "IX_Customer" 1) ∧
      (rebuildCall "IX_Date" 1).ddl ≠ (rebuildCall "IX_Customer" 1).ddl := by
  have apart : auditedTarget (rebuildAudit "IX_Date" 1) ≠
      auditedTarget (rebuildAudit "IX_Customer" 1) := by
    intro same
    exact absurd (congrArg MaintenanceTarget.indexName same) (by decide)
  have acts := maintenance_acts_on_audited_iff (fun _ _ => [1])
    (rebuildPartition_accepted (by decide : isIdentifier "IX_Date" = true) 1)
    (rebuildPartition_accepted (by decide : isIdentifier "IX_Customer" = true) 1) rfl
    (rebuildCall_executed _ _) (rebuildCall_executed _ _)
  refine ⟨apart, (acts.mpr ⟨?_, by decide, by decide⟩).1 apart⟩
  intro _ index
  exact absurd index (by decide)

end Partitions

end SqlMonitor.Services
