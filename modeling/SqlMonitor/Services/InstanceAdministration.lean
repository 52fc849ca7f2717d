import SqlMonitor.Services.InstanceDsn

set_option autoImplicit false

namespace SqlMonitor.Services

structure InstanceRow extends InstanceRecord where
  environment : String
  collectIntervalSeconds : Int
  retentionDays : Int
  businessOwner : Option String
  dbaOwner : Option String
  updatedAt : Timestamp
deriving DecidableEq

section Fields

def lengthWithin (low high : Nat) (value : String) : Bool :=
  low ≤ value.length && value.length ≤ high

def within (low high value : Int) : Bool := low ≤ value && value ≤ high

structure InstanceCreateFields where
  name : String
  host : String
  port : Int := 1433
  databaseName : Option String := none
  environment : String := "prod"
  collectDsn : Option String := none
  killDsn : Option String := none
  username : Option String := none
  password : Option String := none
  status : InstanceStatus := .disabled
  collectIntervalSeconds : Int := 5
  missingIndexCollectIntervalSeconds : Int := 600
  indexFragmentationCollectIntervalSeconds : Int := 600
  indexOperationTimeoutSeconds : Int := 1800
  retentionDays : Int := 7
  businessOwner : Option String := none
  dbaOwner : Option String := none
  sqlserverVersion : Option String := none

-- The checks of the single fields, then `require_collect_dsn_or_sql_auth`.
def InstanceCreateFields.accepted (data : InstanceCreateFields) : Bool :=
  lengthWithin 1 128 data.name && lengthWithin 1 255 data.host && within 1 65535 data.port &&
    data.databaseName.all (lengthWithin 0 128) && lengthWithin 1 32 data.environment &&
    data.collectDsn.all (· ≠ "") && data.username.all (lengthWithin 1 128) &&
    data.password.all (· ≠ "") && 1 ≤ data.collectIntervalSeconds &&
    60 ≤ data.missingIndexCollectIntervalSeconds &&
    60 ≤ data.indexFragmentationCollectIntervalSeconds &&
    within 30 7200 data.indexOperationTimeoutSeconds && 1 ≤ data.retentionDays &&
    data.businessOwner.all (lengthWithin 0 128) && data.dbaOwner.all (lengthWithin 0 128) &&
    data.sqlserverVersion.all (lengthWithin 0 128) &&
    (data.collectDsn.isSome || (data.username.isSome && data.password.isSome))

structure InstanceCreate extends InstanceCreateFields where
  valid : toInstanceCreateFields.accepted = true

/-- A field of an update: left out, or set to a value or to null. -/
abbrev Update (A : Type) := Option (Option A)

def Update.all {A : Type} (check : A → Bool) (field : Update A) : Bool :=
  Option.all (Option.all check) field

structure InstanceUpdateFields where
  name : Update String := none
  host : Update String := none
  port : Update Int := none
  databaseName : Update String := none
  environment : Update String := none
  collectDsn : Update String := none
  killDsn : Update String := none
  username : Option String := none
  password : Option String := none
  status : Update InstanceStatus := none
  collectIntervalSeconds : Update Int := none
  missingIndexCollectIntervalSeconds : Update Int := none
  indexFragmentationCollectIntervalSeconds : Update Int := none
  indexOperationTimeoutSeconds : Update Int := none
  retentionDays : Update Int := none
  businessOwner : Update String := none
  dbaOwner : Update String := none
  sqlserverVersion : Update String := none

def InstanceUpdateFields.accepted (data : InstanceUpdateFields) : Bool :=
  data.name.all (lengthWithin 1 128) && data.host.all (lengthWithin 1 255) &&
    data.port.all (within 1 65535) && data.databaseName.all (lengthWithin 0 128) &&
    data.environment.all (lengthWithin 1 32) && data.collectDsn.all (· ≠ "") &&
    data.username.all (lengthWithin 1 128) && data.password.all (· ≠ "") &&
    data.collectIntervalSeconds.all (1 ≤ ·) &&
    data.missingIndexCollectIntervalSeconds.all (60 ≤ ·) &&
    data.indexFragmentationCollectIntervalSeconds.all (60 ≤ ·) &&
    data.indexOperationTimeoutSeconds.all (within 30 7200) && data.retentionDays.all (1 ≤ ·) &&
    data.businessOwner.all (lengthWithin 0 128) && data.dbaOwner.all (lengthWithin 0 128) &&
    data.sqlserverVersion.all (lengthWithin 0 128)

structure InstanceUpdate extends InstanceUpdateFields where
  valid : toInstanceUpdateFields.accepted = true

end Fields

section Operations

variable (drivers : Option (List String))

-- `data.collect_dsn or build_sql_auth_connection_string(...)`
def createdCollectDsn (data : InstanceCreateFields) : String :=
  orText data.collectDsn
    (buildSqlAuthConnectionString drivers data.host data.port (orText data.username "")
      (orText data.password "") (orText data.databaseName "master"))

def createInstance (id : Uuid) (now : Timestamp) (data : InstanceCreate) :
    InstanceRow × InstanceCollectStatus :=
  ({ id
     name := data.name
     host := data.host
     port := data.port
     databaseName := data.databaseName
     environment := data.environment
     encryptedCollectDsn :=
       encryptConnectionString (createdCollectDsn drivers data.toInstanceCreateFields)
     encryptedKillDsn := (data.killDsn.filter (· ≠ "")).map encryptConnectionString
     status := data.status
     collectIntervalSeconds := data.collectIntervalSeconds
     missingIndexCollectIntervalSeconds := data.missingIndexCollectIntervalSeconds
     indexFragmentationCollectIntervalSeconds := data.indexFragmentationCollectIntervalSeconds
     indexOperationTimeoutSeconds := data.indexOperationTimeoutSeconds
     retentionDays := data.retentionDays
     businessOwner := data.businessOwner
     dbaOwner := data.dbaOwner
     sqlserverVersion := data.sqlserverVersion
     createdAt := now
     updatedAt := now },
   { instanceId := id
     lastSuccessAt := none
     lastFailureAt := none
     lastDurationMs := none
     consecutiveFailures := 0
     status := .unknown
     errorCode := none
     errorMessage := none
     capabilities := []
     updatedAt := some now })

-- Nothing where a column that must not be null is set to null.
def setRequired {A : Type} (field : Update A) (old : A) : Option A := field.getD (some old)

def setNullable {A : Type} (field : Update A) (old : Option A) : Option A := field.getD old

def updatedCollectDsn (data : InstanceUpdateFields) (row : InstanceRow) : String :=
  match data.collectDsn with
  | some (some collectDsn) => encryptConnectionString collectDsn
  | some none => row.encryptedCollectDsn
  | none =>
    match data.username.filter (· ≠ ""), data.password.filter (· ≠ "") with
    | some username, some password =>
      encryptConnectionString
        (buildSqlAuthConnectionString drivers row.host row.port username password
          (orText row.databaseName "master"))
    | _, _ => row.encryptedCollectDsn

def updatedKillDsn (data : InstanceUpdateFields) (row : InstanceRow) : Option String :=
  match data.killDsn with
  | none => row.encryptedKillDsn
  | some killDsn => killDsn.map encryptConnectionString

-- The loop over the field names.
def setFields (data : InstanceUpdateFields) (row : InstanceRow) : Option InstanceRow := do
  let name ← setRequired data.name row.name
  let host ← setRequired data.host row.host
  let port ← setRequired data.port row.port
  let environment ← setRequired data.environment row.environment
  let status ← setRequired data.status row.status
  let collectIntervalSeconds ← setRequired data.collectIntervalSeconds row.collectIntervalSeconds
  let missingIndexCollectIntervalSeconds ←
    setRequired data.missingIndexCollectIntervalSeconds row.missingIndexCollectIntervalSeconds
  let indexFragmentationCollectIntervalSeconds ←
    setRequired data.indexFragmentationCollectIntervalSeconds
      row.indexFragmentationCollectIntervalSeconds
  let indexOperationTimeoutSeconds ←
    setRequired data.indexOperationTimeoutSeconds row.indexOperationTimeoutSeconds
  let retentionDays ← setRequired data.retentionDays row.retentionDays
  return { row with
    name, host, port, environment, status, collectIntervalSeconds
    missingIndexCollectIntervalSeconds, indexFragmentationCollectIntervalSeconds
    indexOperationTimeoutSeconds, retentionDays
    databaseName := setNullable data.databaseName row.databaseName
    businessOwner := setNullable data.businessOwner row.businessOwner
    dbaOwner := setNullable data.dbaOwner row.dbaOwner
    sqlserverVersion := setNullable data.sqlserverVersion row.sqlserverVersion }

def updateInstance (data : InstanceUpdate) (row : InstanceRow) : Option InstanceRow :=
  (setFields data.toInstanceUpdateFields row).map fun row =>
    { row with
      encryptedCollectDsn := updatedCollectDsn drivers data.toInstanceUpdateFields row
      encryptedKillDsn := updatedKillDsn data.toInstanceUpdateFields row }

def deleteInstance (row : InstanceRow) : InstanceRow := { row with status := .disabled }

structure InstanceConnectionTest where
  success : Bool
  sqlserverVersion : Option String
  databaseName : Option String
deriving DecidableEq

-- `test_existing_instance_connection`, from the result of the test on.
def recordConnectionTest (result : InstanceConnectionTest) (row : InstanceRow) : InstanceRow :=
  if result.success then
    { row with
      status := .online
      sqlserverVersion := (result.sqlserverVersion.filter (· ≠ "")).or row.sqlserverVersion
      databaseName := (result.databaseName.filter (· ≠ "")).or row.databaseName }
  else { row with status := .offline }

end Operations

section Accounts

def ownAccounts (row : InstanceRow) : List String :=
  ((some row.encryptedCollectDsn).toList ++ row.encryptedKillDsn.toList).filterMap storedAccount

variable {drivers : Option (List String)}

theorem storedAccount_create (id : Uuid) (now : Timestamp) {data : InstanceCreate}
    (built : data.collectDsn = none) :
    storedAccount (createInstance drivers id now data).1.encryptedCollectDsn =
      some (orText data.username "") := by
  have same : createdCollectDsn drivers data.toInstanceCreateFields =
      buildSqlAuthConnectionString drivers data.host data.port (orText data.username "")
        (orText data.password "") (orText data.databaseName "master") := by
    simp [createdCollectDsn, built, orText]
  rw [createInstance, storedAccount_encrypt, same, dsnAccount_build]

theorem setFields_dsns {data : InstanceUpdateFields} {row changed : InstanceRow}
    (set : setFields data row = some changed) :
    changed.encryptedCollectDsn = row.encryptedCollectDsn ∧
      changed.encryptedKillDsn = row.encryptedKillDsn := by
  simp only [setFields, Option.bind_eq_bind, Option.bind_eq_some_iff, Option.pure_def,
    Option.some.injEq] at set
  obtain ⟨_, -, _, -, _, -, _, -, _, -, _, -, _, -, _, -, _, -, _, -, rfl⟩ := set
  exact ⟨rfl, rfl⟩

end Accounts

end SqlMonitor.Services
