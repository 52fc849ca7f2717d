import SqlMonitor.Services.ConnectionTests

set_option autoImplicit false

namespace SqlMonitor.Frontend.InstanceForms

open Services

section Forms

structure InstanceConnectionForm where
  name : String := ""
  host : String := ""
  port : Int := 1433
  databaseName : String := "master"
  username : String := ""
  password : String := ""
  collectIntervalSeconds : Int := 5
  missingIndexCollectIntervalSeconds : Int := 600
  indexFragmentationCollectIntervalSeconds : Int := 600
  indexOperationTimeoutSeconds : Int := 1800
  retentionDays : Int := 7
  businessOwner : String := ""
  dbaOwner : String := ""
  sqlserverVersion : Option String := none
deriving DecidableEq

inductive DialogMode where
  | create
  | edit
deriving DecidableEq

-- A number is never missing here, so that its rule is met.
def requiredRule (value message : String) : Option String :=
  if value = "" then some message else none

def usernameRule (mode : DialogMode) (form : InstanceConnectionForm) : Option String :=
  if mode = .create ∧ form.username = "" then some "请输入 SQL 认证用户" else none

def passwordRule (mode : DialogMode) (form : InstanceConnectionForm) : Option String :=
  if mode = .create ∧ form.password = "" then some "请输入密码"
  else if mode = .edit ∧ form.username ≠ "" ∧ form.password = "" then
    some "重建连接 DSN 时请输入密码"
  else if mode = .edit ∧ form.password ≠ "" ∧ form.username = "" then
    some "重建连接 DSN 时请输入 SQL 认证用户"
  else none

def createRules (mode : DialogMode) (form : InstanceConnectionForm) :
    List (String × Option String) :=
  [("name", requiredRule form.name "请输入实例名称"),
    ("host", requiredRule form.host "请输入 IP 地址"),
    ("database_name", requiredRule form.databaseName "请选择数据库"),
    ("username", usernameRule mode form),
    ("password", passwordRule mode form)]

def validateCreateForm (mode : DialogMode) (form : InstanceConnectionForm) : Bool :=
  (createRules mode form).all fun field => field.2 = none

-- `form.database_name || 'master'`
def InstanceConnectionForm.database (form : InstanceConnectionForm) : String :=
  orText (some form.databaseName) "master"

def createInstanceFromForm (form : InstanceConnectionForm) : InstanceCreateFields where
  name := form.name
  host := form.host
  port := form.port
  databaseName := some form.database
  username := some form.username
  password := some form.password
  collectIntervalSeconds := form.collectIntervalSeconds
  missingIndexCollectIntervalSeconds := form.missingIndexCollectIntervalSeconds
  indexFragmentationCollectIntervalSeconds := form.indexFragmentationCollectIntervalSeconds
  indexOperationTimeoutSeconds := form.indexOperationTimeoutSeconds
  retentionDays := form.retentionDays
  businessOwner := (some form.businessOwner).filter (· ≠ "")
  dbaOwner := (some form.dbaOwner).filter (· ≠ "")
  sqlserverVersion := form.sqlserverVersion
  status := .offline

def InstanceConnectionForm.hasAccount (form : InstanceConnectionForm) : Bool :=
  form.username ≠ "" && form.password ≠ ""

def updateInstanceFromForm (form : InstanceConnectionForm) : InstanceUpdateFields where
  name := some (some form.name)
  host := some (some form.host)
  port := some (some form.port)
  databaseName := some (some form.database)
  collectIntervalSeconds := some (some form.collectIntervalSeconds)
  missingIndexCollectIntervalSeconds := some (some form.missingIndexCollectIntervalSeconds)
  indexFragmentationCollectIntervalSeconds :=
    some (some form.indexFragmentationCollectIntervalSeconds)
  indexOperationTimeoutSeconds := some (some form.indexOperationTimeoutSeconds)
  retentionDays := some (some form.retentionDays)
  businessOwner := some ((some form.businessOwner).filter (· ≠ ""))
  dbaOwner := some ((some form.dbaOwner).filter (· ≠ ""))
  username := if form.hasAccount then some form.username else none
  password := if form.hasAccount then some form.password else none
  sqlserverVersion := (form.sqlserverVersion.filter (· ≠ "")).map some

def testNewConnection (form : InstanceConnectionForm) : InstanceConnectionTestRequest where
  host := form.host
  port := form.port
  databaseName := some form.database
  username := form.username
  password := form.password

-- The payloads that the routes accept; any other is answered with 422.
def acceptCreate (data : InstanceCreateFields) : Option InstanceCreate :=
  if valid : data.accepted = true then some ⟨data, valid⟩ else none

def acceptUpdate (data : InstanceUpdateFields) : Option InstanceUpdate :=
  if valid : data.accepted = true then some ⟨data, valid⟩ else none

def savedCreate (form : InstanceConnectionForm) : Option InstanceCreate := do
  guard (validateCreateForm .create form)
  acceptCreate (createInstanceFromForm form)

def savedUpdate (form : InstanceConnectionForm) : Option InstanceUpdate := do
  guard (validateCreateForm .edit form)
  acceptUpdate (updateInstanceFromForm form)

end Forms

section Strings

variable {drivers : Option (List String)} {form : InstanceConnectionForm} {row changed : InstanceRow}

def formConnectionString (drivers : Option (List String)) (form : InstanceConnectionForm) : String :=
  buildSqlAuthConnectionString drivers form.host form.port form.username form.password form.database

theorem database_ne_empty (form : InstanceConnectionForm) : form.database ≠ "" := by
  unfold InstanceConnectionForm.database orText
  cases named : (some form.databaseName).filter (· ≠ "") with
  | none => decide
  | some database => simpa using (Option.filter_eq_some_iff.mp named).2

theorem orText_of_ne {text : String} (filled : text ≠ "") (fallback : String) :
    orText (some text) fallback = text := by
  simp [orText, Option.filter_some, filled]

theorem orText_empty (text : String) : orText (some text) "" = text := by
  by_cases empty : text = "" <;> simp [orText, Option.filter_some, empty]

theorem testedConnectionString_testNewConnection (form : InstanceConnectionForm) :
    testedConnectionString drivers (testNewConnection form) = formConnectionString drivers form := by
  simp only [testedConnectionString, testNewConnection, formConnectionString,
    orText_of_ne (database_ne_empty form)]

theorem savedCreate_eq_some {data : InstanceCreate} (saved : savedCreate form = some data) :
    data.toInstanceCreateFields = createInstanceFromForm form := by
  simp only [savedCreate, Option.bind_eq_bind, Option.bind_eq_some_iff] at saved
  obtain ⟨-, -, accepted⟩ := saved
  obtain ⟨valid, same⟩ := Option.dite_none_right_eq_some.mp accepted
  obtain rfl := Option.some.inj same
  rfl

theorem savedUpdate_eq_some {data : InstanceUpdate} (saved : savedUpdate form = some data) :
    data.toInstanceUpdateFields = updateInstanceFromForm form := by
  simp only [savedUpdate, Option.bind_eq_bind, Option.bind_eq_some_iff] at saved
  obtain ⟨-, -, accepted⟩ := saved
  obtain ⟨valid, same⟩ := Option.dite_none_right_eq_some.mp accepted
  obtain rfl := Option.some.inj same
  rfl

theorem createdCollectDsn_form (form : InstanceConnectionForm) :
    createdCollectDsn drivers (createInstanceFromForm form) = formConnectionString drivers form := by
  have given : (createInstanceFromForm form).collectDsn = none := rfl
  have username : orText (createInstanceFromForm form).username "" = form.username :=
    orText_empty form.username
  have password : orText (createInstanceFromForm form).password "" = form.password :=
    orText_empty form.password
  have database : orText (createInstanceFromForm form).databaseName "master" = form.database :=
    orText_of_ne (database_ne_empty form) "master"
  have nothing : ∀ built, orText none built = built := fun _ => rfl
  rw [createdCollectDsn, given, nothing, username, password, database]
  rfl

structure EditedBy (drivers : Option (List String)) (form : InstanceConnectionForm)
    (row changed : InstanceRow) : Prop where
  host : changed.host = form.host
  port : changed.port = form.port
  database : changed.databaseName = some form.database
  kill : changed.encryptedKillDsn = row.encryptedKillDsn
  collect : changed.encryptedCollectDsn =
    if form.hasAccount then encryptConnectionString (formConnectionString drivers form)
    else row.encryptedCollectDsn

theorem updatedCollectDsn_form (host : row.host = form.host) (port : row.port = form.port)
    (database : row.databaseName = some form.database) :
    updatedCollectDsn drivers (updateInstanceFromForm form) row =
      if form.hasAccount then encryptConnectionString (formConnectionString drivers form)
      else row.encryptedCollectDsn := by
  have unset : (updateInstanceFromForm form).collectDsn = none := rfl
  have named : (updateInstanceFromForm form).username =
      if form.hasAccount then some form.username else none := rfl
  have secret : (updateInstanceFromForm form).password =
      if form.hasAccount then some form.password else none := rfl
  simp only [updatedCollectDsn, unset, named, secret]
  by_cases account : form.hasAccount = true
  · have filled := account
    simp only [InstanceConnectionForm.hasAccount, Bool.and_eq_true, decide_eq_true_eq] at filled
    have username : (some form.username).filter (· ≠ "") = some form.username := by
      simp [Option.filter_some, filled.1]
    have password : (some form.password).filter (· ≠ "") = some form.password := by
      simp [Option.filter_some, filled.2]
    simp only [account, if_true, username, password, host, port, database,
      orText_of_ne (database_ne_empty form), formConnectionString]
  · simp only [if_neg account, Option.filter_none]

theorem editedBy_update {data : InstanceUpdate} (saved : savedUpdate form = some data)
    (updated : updateInstance drivers data row = some changed) :
    EditedBy drivers form row changed := by
  obtain ⟨middle, set, rfl⟩ := Option.map_eq_some_iff.mp updated
  rw [savedUpdate_eq_some saved] at set ⊢
  obtain rfl := Option.some.inj set
  exact ⟨rfl, rfl, rfl, rfl, updatedCollectDsn_form rfl rfl rfl⟩

end Strings

end SqlMonitor.Frontend.InstanceForms
