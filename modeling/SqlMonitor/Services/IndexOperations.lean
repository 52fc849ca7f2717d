import SqlMonitor.Services.IndexCatalog

set_option autoImplicit false

namespace SqlMonitor.Services

theorem valueError_named : "ValueError" ≠ "" := by decide

def valueError (text : String) : PyException := ⟨"ValueError", text, valueError_named⟩

def instanceNotFound : PyException := ⟨"LookupError", "INSTANCE_NOT_FOUND", by decide⟩

-- A subclass of `ValueError`.
def indexNameConflict : PyException := ⟨"IndexNameConflictError", "INDEX_NAME_CONFLICT", by decide⟩

@[simp] theorem throw_ne_ok {A : Type} {exc : PyException} {value : A} :
    (throw exc : Raises A) ≠ .ok value := by
  simp [throw, throwThe, MonadExceptOf.throw]

section Statements

def quoteColumns (columns : List String) : Raises String := do
  let quoted ← columns.mapM quoteIdentifier
  return ", ".intercalate quoted

def validateIdentifiers (identifiers : List String) : Raises Unit :=
  identifiers.forM fun identifier => validateIdentifier identifier "identifier"

def quoteTable (databaseName schemaName tableName : String) : Raises String := do
  let database ← quoteIdentifier databaseName
  let schema ← quoteIdentifier schemaName
  let table ← quoteIdentifier tableName
  return database ++ "." ++ schema ++ "." ++ table

def buildCreateIndexSql (databaseName schemaName tableName indexName : String)
    (keyColumns includeColumns : List String) : Raises String := do
  if keyColumns = [] then throw (valueError "KEY_COLUMNS_REQUIRED")
  validateIdentifiers
    ([databaseName, schemaName, tableName, indexName] ++ keyColumns ++ includeColumns)
  let index ← quoteIdentifier indexName
  let table ← quoteTable databaseName schemaName tableName
  let keys ← quoteColumns keyColumns
  let sql := "CREATE INDEX " ++ index ++ " ON " ++ table ++ " (" ++ keys ++ ")"
  if includeColumns = [] then return sql
  let included ← quoteColumns includeColumns
  return sql ++ " INCLUDE (" ++ included ++ ")"

def fragmentationActions : List String := ["REORGANIZE", "REBUILD"]

def buildIndexMaintenanceSql (databaseName schemaName tableName indexName action : String)
    (onlineRebuild : Bool) : Raises String := do
  if action ∉ fragmentationActions then throw (valueError "INVALID_FRAGMENTATION_ACTION")
  validateIdentifiers [databaseName, schemaName, tableName, indexName]
  let index ← quoteIdentifier indexName
  let table ← quoteTable databaseName schemaName tableName
  let sql := "ALTER INDEX " ++ index ++ " ON " ++ table ++ " " ++ action
  return if action = "REBUILD" ∧ onlineRebuild then sql ++ " WITH (ONLINE = ON)" else sql

theorem quoteIdentifier_of_valid {value : String} (valid : isIdentifier value) :
    quoteIdentifier value = .ok ("[" ++ value.replace "]" "]]" ++ "]") := by
  unfold quoteIdentifier validateIdentifier
  rw [if_pos valid]
  rfl

theorem validateIdentifiers_eq_ok {identifiers : List String} :
    validateIdentifiers identifiers = .ok () ↔ ∀ value ∈ identifiers, isIdentifier value := by
  induction identifiers with
  | nil => simp [validateIdentifiers, pure_eq_ok]
  | cons value rest ih =>
      have split : validateIdentifiers (value :: rest) =
          (validateIdentifier value "identifier" >>= fun _ => validateIdentifiers rest) := rfl
      rw [split, bind_eq_ok, List.forall_mem_cons]
      by_cases valid : isIdentifier value = true
      · simp [validateIdentifier, valid, ih]
      · simp [validateIdentifier, valid]

theorem mapM_quoteIdentifier_returns {columns : List String}
    (valid : ∀ column ∈ columns, isIdentifier column) :
    ∃ quoted, columns.mapM quoteIdentifier = .ok quoted := by
  induction columns with
  | nil => exact ⟨[], rfl⟩
  | cons column rest ih =>
      obtain ⟨here, later⟩ := List.forall_mem_cons.mp valid
      obtain ⟨quoted, done⟩ := ih later
      refine ⟨("[" ++ column.replace "]" "]]" ++ "]") :: quoted, ?_⟩
      rw [List.mapM_cons, quoteIdentifier_of_valid here, done]
      rfl

theorem buildCreateIndexSql_returns_iff {databaseName schemaName tableName indexName : String}
    {keyColumns includeColumns : List String} :
    (∃ ddl, buildCreateIndexSql databaseName schemaName tableName indexName keyColumns
        includeColumns = .ok ddl) ↔
      keyColumns ≠ [] ∧ ∀ value ∈ [databaseName, schemaName, tableName, indexName] ++ keyColumns ++
        includeColumns, isIdentifier value := by
  constructor
  · intro built
    obtain ⟨ddl, built⟩ := built
    by_cases keyless : keyColumns = []
    · simp [buildCreateIndexSql, keyless, bind_eq_ok] at built
    · simp only [buildCreateIndexSql, keyless, if_false, bind_eq_ok] at built
      obtain ⟨_, validated, -⟩ := built
      exact ⟨keyless, validateIdentifiers_eq_ok.mp validated⟩
  · intro both
    obtain ⟨keyed, valid⟩ := both
    have validated := validateIdentifiers_eq_ok.mpr valid
    simp only [List.cons_append, List.nil_append, List.forall_mem_cons, List.forall_mem_append]
      at valid
    obtain ⟨database, schema, table, index, keys, included⟩ := valid
    obtain ⟨quotedKeys, keysDone⟩ := mapM_quoteIdentifier_returns keys
    obtain ⟨quotedIncluded, includedDone⟩ := mapM_quoteIdentifier_returns included
    unfold buildCreateIndexSql quoteTable quoteColumns
    simp only [keyed, if_false, validated, quoteIdentifier_of_valid database,
      quoteIdentifier_of_valid schema, quoteIdentifier_of_valid table,
      quoteIdentifier_of_valid index, keysDone, includedDone]
    by_cases plain : includeColumns = []
    · simp only [if_pos plain]
      exact ⟨_, rfl⟩
    · simp only [if_neg plain]
      exact ⟨_, rfl⟩

end Statements

section Requests

structure CreateIndexRequestData where
  instanceId : Uuid
  databaseName : String
  schemaName : String
  tableName : String
  keyColumns : List String
  includeColumns : List String
  indexName : String
deriving DecidableEq

structure FragmentationActionRequestData where
  instanceId : Uuid
  databaseName : String
  schemaName : String
  tableName : String
  indexName : String
  partitionNumber : Int
  action : String
  avgFragmentationInPercent : Rat
  pageCount : Int
deriving DecidableEq

structure Operator where
  id : Uuid
  username : String
deriving DecidableEq

inductive AuditResult where
  | running
  | success
  | failed
  | rejected
deriving DecidableEq

-- A row of the audits, but for its id, which the tables use as the key.
structure MissingIndexAudit where
  operatorUserId : Option Uuid
  operatorName : String
  instanceId : Uuid
  databaseName : String
  schemaName : String
  tableName : String
  indexName : String
  keyColumns : List String
  includeColumns : List String
  action : String
  partitionNumber : Option Int
  onlineUsed : Option Bool
  fragmentationPercent : Option Rat
  pageCount : Option Int
  ddlSummary : String
  result : AuditResult
  errorMessage : Option String
deriving DecidableEq

-- What the driver raises, with its arguments as texts but for the empty ones.
structure DriverException where
  exc : PyException
  args : List String
deriving DecidableEq

structure OperationClient where
  indexNames : String → String → String → Raises (List (Option String))
  onlineSupport : Raises (List OnlineSupportRow)
  execute : String → Int → Except DriverException Unit

structure OperationSurroundings where
  decryptConnectionString : String → Raises String
  clientFactory : String → Raises OperationClient

variable (surroundings : OperationSurroundings)

-- `encrypted_kill_dsn or encrypted_collect_dsn`
def operationDsn (row : InstanceRecord) : String :=
  orText row.encryptedKillDsn row.encryptedCollectDsn

def operationConnectionString (row : InstanceRecord) : Raises String :=
  if operationDsn row = "" then throw (valueError "OPERATION_DSN_NOT_CONFIGURED")
  else surroundings.decryptConnectionString (operationDsn row)

def operationClient (row : InstanceRecord) : Raises OperationClient := do
  let connectionString ← operationConnectionString surroundings row
  surroundings.clientFactory connectionString

def existingIndexNames (client : OperationClient) (databaseName schemaName tableName : String) :
    Raises (List String) := do
  validateIdentifiers [databaseName, schemaName, tableName]
  let quotedDatabase ← quoteIdentifier databaseName
  let rows ← client.indexNames quotedDatabase schemaName tableName
  return rows.filterMap fun name => name.filter (· ≠ "")

def writeIndexAudit (data : CreateIndexRequestData) (operator : Operator) (ddlSummary : String)
    (result : AuditResult) (errorMessage : Option String) : MissingIndexAudit where
  operatorUserId := some operator.id
  operatorName := operator.username
  instanceId := data.instanceId
  databaseName := data.databaseName
  schemaName := data.schemaName
  tableName := data.tableName
  indexName := data.indexName
  keyColumns := data.keyColumns
  includeColumns := data.includeColumns
  action := "CREATE"
  partitionNumber := none
  onlineUsed := none
  fragmentationPercent := none
  pageCount := none
  ddlSummary := ddlSummary
  result := result
  errorMessage := errorMessage

def writeFragmentationAudit (data : FragmentationActionRequestData) (operator : Operator)
    (ddlSummary : String) (onlineUsed : Bool) (result : AuditResult)
    (errorMessage : Option String) : MissingIndexAudit where
  operatorUserId := some operator.id
  operatorName := operator.username
  instanceId := data.instanceId
  databaseName := data.databaseName
  schemaName := data.schemaName
  tableName := data.tableName
  indexName := data.indexName
  keyColumns := []
  includeColumns := []
  action := data.action
  partitionNumber := some data.partitionNumber
  onlineUsed := some onlineUsed
  fragmentationPercent := some data.avgFragmentationInPercent
  pageCount := some data.pageCount
  ddlSummary := ddlSummary
  result := result
  errorMessage := errorMessage

/--
What a request does before it answers: raise, or store an audit and then raise or return
a response.
-/
abbrev Prepared := Raises (MissingIndexAudit × Option PyException)

def createMissingIndex (record : Option InstanceRecord) (data : CreateIndexRequestData)
    (operator : Operator) : Prepared :=
  match record with
  | none => throw instanceNotFound
  | some row => do
    let client ← operationClient surroundings row
    let existingNames ← existingIndexNames client data.databaseName data.schemaName data.tableName
    if data.indexName ∈ existingNames then
      return (writeIndexAudit data operator "" .rejected (some "INDEX_NAME_CONFLICT"),
        some indexNameConflict)
    let ddl ← buildCreateIndexSql data.databaseName data.schemaName data.tableName data.indexName
      data.keyColumns data.includeColumns
    return (writeIndexAudit data operator ddl .running none, none)

-- Only a rebuild asks the server.
def onlineUsed (client : OperationClient) (action : String) : Raises Bool :=
  if action = "REBUILD" then client.onlineSupport.map supportsOnlineIndexRebuild else return false

def executeFragmentationAction (record : Option InstanceRecord)
    (data : FragmentationActionRequestData) (operator : Operator) : Prepared :=
  match record with
  | none => throw instanceNotFound
  | some row => do
    if data.action ∉ fragmentationActions then throw (valueError "INVALID_FRAGMENTATION_ACTION")
    let client ← operationClient surroundings row
    let online ← onlineUsed client data.action
    let ddl ← buildIndexMaintenanceSql data.databaseName data.schemaName data.tableName
      data.indexName data.action online
    return (writeFragmentationAudit data operator ddl online .running none, none)

end Requests

section Runs

structure DdlErrorCodes where
  failed : String
  timeout : String

def createCodes : DdlErrorCodes := ⟨"INDEX_CREATE_FAILED", "INDEX_CREATE_TIMEOUT"⟩

def maintenanceCodes : DdlErrorCodes := ⟨"INDEX_MAINTENANCE_FAILED", "INDEX_MAINTENANCE_TIMEOUT"⟩

def timeoutMarkers : List String :=
  ["timeout", "timed out", "query timeout", "login timeout", "hyt00", "hyt01", "超时"]

def isTimeoutError (raised : DriverException) : Bool :=
  let joined := " ".intercalate raised.args
  let normalized := (if joined = "" then raised.exc.text else joined).toLower
  timeoutMarkers.any fun marker => marker.toList <:+: normalized.toList

def indexOperationTimeout (row : InstanceRecord) : Int :=
  orNumber (some row.indexOperationTimeoutSeconds) 1800

inductive RunStart where
  | finished (result : AuditResult) (errorMessage : Option String)
  | executing (client : OperationClient) (ddl : String) (timeoutSeconds : Int)

variable (surroundings : OperationSurroundings)

-- The part of a run before its `try`.
def startIndexRun (audit : MissingIndexAudit) (record : Option InstanceRecord) : Raises RunStart :=
  match record with
  | none => return .finished .failed (some "INSTANCE_NOT_FOUND")
  | some row => do
    let client ← operationClient surroundings row
    return .executing client audit.ddlSummary (indexOperationTimeout row)

def executionResult (codes : DdlErrorCodes) (outcome : Except DriverException Unit) :
    AuditResult × Option String :=
  match outcome with
  | .ok () => (.success, none)
  | .error raised => (.failed, some (if isTimeoutError raised then codes.timeout else codes.failed))

def markIndexAuditFinished (audit : MissingIndexAudit)
    (finished : AuditResult × Option String) : MissingIndexAudit :=
  { audit with result := finished.1, errorMessage := finished.2 }

structure ExecuteCall where
  ddl : String
  timeoutSeconds : Int
  outcome : Except DriverException Unit

/-- The audit as it is stored after a run, the calls of `execute`, and what left the run. -/
structure IndexRun where
  audit : Option MissingIndexAudit
  executed : List ExecuteCall
  raised : Option PyException

def runIndexDdl (codes : DdlErrorCodes) (audit : Option MissingIndexAudit)
    (records : Uuid → Option InstanceRecord) : IndexRun :=
  match audit with
  | none => ⟨none, [], none⟩
  | some audit =>
    match startIndexRun surroundings audit (records audit.instanceId) with
    | .error exc => ⟨some audit, [], some exc⟩
    | .ok (.finished result errorMessage) =>
      ⟨some (markIndexAuditFinished audit (result, errorMessage)), [], none⟩
    | .ok (.executing client ddl timeoutSeconds) =>
      let outcome := client.execute ddl timeoutSeconds
      ⟨some (markIndexAuditFinished audit (executionResult codes outcome)),
        [⟨ddl, timeoutSeconds, outcome⟩], none⟩

def runMissingIndexDdl : Option MissingIndexAudit → (Uuid → Option InstanceRecord) → IndexRun :=
  runIndexDdl surroundings createCodes

def runFragmentationDdl : Option MissingIndexAudit → (Uuid → Option InstanceRecord) → IndexRun :=
  runIndexDdl surroundings maintenanceCodes

end Runs

end SqlMonitor.Services
