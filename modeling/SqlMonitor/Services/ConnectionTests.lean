import SqlMonitor.Services.ConnectionHistory

set_option autoImplicit false

namespace SqlMonitor.Services

section Tests

structure ConnectionTestRow where
  sqlserverVersion : Option String
  databaseName : Option String
  availableDatabaseName : Option String
deriving DecidableEq

structure InstanceConnectionTestOut extends InstanceConnectionTest where
  databases : List String
  errorMessage : Option String
deriving DecidableEq

structure TestScan where
  sqlserverVersion : Option String
  databaseName : Option String
  databases : List String

def TestScan.start : TestScan := ⟨none, none, []⟩

def TestScan.read (scan : TestScan) (row : ConnectionTestRow) : TestScan where
  sqlserverVersion := scan.sqlserverVersion.or (row.sqlserverVersion.filter (· ≠ ""))
  databaseName := scan.databaseName.or (row.databaseName.filter (· ≠ ""))
  databases :=
    match row.availableDatabaseName.filter (· ≠ "") with
    | some available =>
      if available ∈ scan.databases then scan.databases else scan.databases ++ [available]
    | none => scan.databases

/-- `_run_connection_test`, from the answer of the server on. -/
def runConnectionTest (answer : Raises (List ConnectionTestRow)) : InstanceConnectionTestOut :=
  match answer with
  | .error _ =>
    { success := false
      sqlserverVersion := none
      databaseName := none
      databases := []
      errorMessage := some "连接测试失败" }
  | .ok rows =>
    let scan := rows.foldl TestScan.read .start
    { success := true
      sqlserverVersion := scan.sqlserverVersion
      databaseName := scan.databaseName
      databases :=
        if scan.databases = [] then [orText scan.databaseName "master"] else scan.databases
      errorMessage := none }

structure InstanceConnectionTestRequest where
  host : String
  port : Int
  databaseName : Option String
  username : String
  password : String
deriving DecidableEq

def InstanceConnectionTestRequest.accepted (data : InstanceConnectionTestRequest) : Bool :=
  lengthWithin 1 255 data.host && within 1 65535 data.port &&
    data.databaseName.all (lengthWithin 0 128) && lengthWithin 1 128 data.username &&
    data.password ≠ ""

-- The string that `test_new_instance_connection` connects with.
def testedConnectionString (drivers : Option (List String)) (data : InstanceConnectionTestRequest) :
    String :=
  buildSqlAuthConnectionString drivers data.host data.port data.username data.password
    (orText data.databaseName "master")

end Tests

section Answers

def reportedDatabase (answer : Raises (List ConnectionTestRow)) : Option String :=
  match answer with
  | .error _ => none
  | .ok rows => rows.findSome? fun row => row.databaseName.filter (· ≠ "")

theorem databaseName_foldl (rows : List ConnectionTestRow) (scan : TestScan) :
    (rows.foldl TestScan.read scan).databaseName =
      scan.databaseName.or (rows.findSome? fun row => row.databaseName.filter (· ≠ "")) := by
  induction rows generalizing scan with
  | nil => simp
  | cons row rows ih =>
      rw [List.foldl_cons, ih, List.findSome?_cons, TestScan.read, Option.or_assoc]
      cases row.databaseName.filter (· ≠ "") <;> rfl

theorem databaseName_runConnectionTest (answer : Raises (List ConnectionTestRow)) :
    (runConnectionTest answer).databaseName = reportedDatabase answer := by
  cases answer with
  | error => rfl
  | ok rows => exact databaseName_foldl rows .start

theorem reportedDatabase_filter (answer : Raises (List ConnectionTestRow)) :
    (reportedDatabase answer).filter (· ≠ "") = reportedDatabase answer := by
  cases answer with
  | error => rfl
  | ok rows =>
      rw [reportedDatabase]
      cases found : rows.findSome? fun row => row.databaseName.filter (· ≠ "") with
      | none => rfl
      | some reported =>
          obtain ⟨row, -, named⟩ := List.exists_of_findSome?_eq_some found
          exact Option.filter_eq_some_iff.mpr ⟨rfl, (Option.filter_eq_some_iff.mp named).2⟩

theorem databaseName_recordConnectionTest (answer : Raises (List ConnectionTestRow))
    (row : InstanceRow) :
    (recordConnectionTest (runConnectionTest answer).toInstanceConnectionTest row).databaseName =
      (reportedDatabase answer).or row.databaseName := by
  cases answer with
  | error => rfl
  | ok rows =>
      have passed : (runConnectionTest (.ok rows)).success = true := rfl
      rw [recordConnectionTest, if_pos passed, databaseName_runConnectionTest,
        reportedDatabase_filter]

def listedDatabases (rows : List ConnectionTestRow) : List String :=
  rows.filterMap fun row => row.availableDatabaseName.filter (· ≠ "")

/-- Without a list, the database that the test is in. -/
def offeredNames (rows : List ConnectionTestRow) : List String :=
  if listedDatabases rows = [] then [orText (reportedDatabase (.ok rows)) "master"]
  else listedDatabases rows

theorem mem_read (scan : TestScan) (row : ConnectionTestRow) (name : String) :
    name ∈ (scan.read row).databases ↔
      name ∈ scan.databases ∨ row.availableDatabaseName.filter (· ≠ "") = some name := by
  unfold TestScan.read
  simp only
  cases row.availableDatabaseName.filter (· ≠ "") with
  | none => simp
  | some available =>
      simp only [Option.some.injEq]
      split
      next listed =>
        constructor
        · exact Or.inl
        · rintro (before | rfl)
          · exact before
          · exact listed
      next => simp [List.mem_append, eq_comm]

theorem mem_databases_foldl (rows : List ConnectionTestRow) (scan : TestScan) (name : String) :
    name ∈ (rows.foldl TestScan.read scan).databases ↔
      name ∈ scan.databases ∨ name ∈ listedDatabases rows := by
  induction rows generalizing scan with
  | nil => simp [listedDatabases]
  | cons row rows ih =>
      rw [List.foldl_cons, ih, mem_read, or_assoc]
      refine or_congr_right ?_
      simp only [listedDatabases, List.mem_filterMap, List.mem_cons, exists_eq_or_imp]

theorem mem_databases_runConnectionTest (rows : List ConnectionTestRow) (name : String) :
    name ∈ (runConnectionTest (.ok rows)).databases ↔ name ∈ offeredNames rows := by
  have members (listed : String) :
      listed ∈ (rows.foldl TestScan.read .start).databases ↔ listed ∈ listedDatabases rows := by
    rw [mem_databases_foldl]
    simp [TestScan.start]
  have reported : (rows.foldl TestScan.read .start).databaseName =
      reportedDatabase (.ok rows) := databaseName_runConnectionTest (.ok rows)
  have empty : (rows.foldl TestScan.read .start).databases = [] ↔ listedDatabases rows = [] := by
    simp only [List.eq_nil_iff_forall_not_mem, members]
  simp only [runConnectionTest, offeredNames, empty, reported]
  split
  next => rfl
  next => exact members name

end Answers

end SqlMonitor.Services
