import SqlMonitor.Frontend.InstanceEdits

set_option autoImplicit false

namespace SqlMonitor.Frontend.InstanceDialog

open Services TransitionSystem InstanceForms

section Options

-- `String.prototype.trim`
def isTrimmed (c : Char) : Bool :=
  let n := c.toNat
  (9 ≤ n && n ≤ 13) || n == 0x20 || n == 0xA0 || n == 0x1680 || (0x2000 ≤ n && n ≤ 0x200A) ||
    n == 0x2028 || n == 0x2029 || n == 0x202F || n == 0x205F || n == 0x3000 || n == 0xFEFF

def trim (text : String) : String := String.ofList (stripBy isTrimmed text.toList)

-- A `Set` keeps the order in which its values came first.
def uniqueDatabases (databases : List String) : List String :=
  ((databases.map trim).filter (· ≠ "")).eraseDups

def normalizeDatabaseOptions (databases : List String) : List String :=
  let unique := uniqueDatabases databases
  if unique = [] then ["master"]
  else if "master" ∈ unique then "master" :: unique.filter (· ≠ "master")
  else unique

def applyDatabaseOptions (databases : List String) (form : InstanceConnectionForm) :
    List String × InstanceConnectionForm :=
  let options := normalizeDatabaseOptions databases
  if form.databaseName ≠ "" ∧ form.databaseName ∈ options then (options, form)
  else
    (options, { form with
      databaseName := if "master" ∈ options then "master" else options.headD "" })

theorem mem_unique_iff {databases : List String} {database : String} :
    database ∈ uniqueDatabases databases ↔ database ≠ "" ∧ database ∈ databases.map trim := by
  rw [uniqueDatabases, List.mem_eraseDups, List.mem_filter, decide_eq_true_eq, and_comm]

theorem ne_empty_of_mem_options {databases : List String} {database : String}
    (member : database ∈ normalizeDatabaseOptions databases) : database ≠ "" := by
  simp only [normalizeDatabaseOptions] at member
  split at member
  next =>
    rw [List.mem_singleton.mp member]
    decide
  next =>
    split at member
    next =>
      rcases List.mem_cons.mp member with rfl | other
      · decide
      · exact (mem_unique_iff.mp (List.mem_of_mem_filter other)).1
    next => exact (mem_unique_iff.mp member).1

theorem mem_options_iff {databases : List String} {database : String} (filled : database ≠ "") :
    database ∈ normalizeDatabaseOptions databases ↔
      database ∈ databases.map trim ∨
        (database = "master" ∧ ∀ name ∈ databases.map trim, name = "") := by
  have blank : uniqueDatabases databases = [] ↔ ∀ name ∈ databases.map trim, name = "" := by
    simp only [List.eq_nil_iff_forall_not_mem, mem_unique_iff, not_and', not_not]
  have own : database ∈ uniqueDatabases databases ↔ database ∈ databases.map trim := by
    simp [mem_unique_iff, filled]
  simp only [normalizeDatabaseOptions, ← blank, ← own]
  by_cases empty : uniqueDatabases databases = []
  · simp [empty]
  · simp only [empty, if_false, and_false, or_false]
    split
    next master =>
      by_cases same : database = "master"
      · simp [same, master]
      · simp [same]
    next => rfl

theorem options_ne_nil (databases : List String) : normalizeDatabaseOptions databases ≠ [] := by
  simp only [normalizeDatabaseOptions]
  split
  next => simp
  next filled =>
    split
    next => simp
    next => exact filled

theorem headD_mem {options : List String} (filled : options ≠ []) : options.headD "" ∈ options := by
  cases options with
  | nil => exact absurd rfl filled
  | cons first rest => exact List.mem_cons_self ..

theorem database_of_ne_empty {form : InstanceConnectionForm} (filled : form.databaseName ≠ "") :
    form.database = form.databaseName := orText_of_ne filled "master"

theorem applyDatabaseOptions_database_iff (databases : List String) (form : InstanceConnectionForm) :
    (applyDatabaseOptions databases form).2.database = form.database ↔
      form.database ∈ normalizeDatabaseOptions databases := by
  unfold applyDatabaseOptions
  simp only
  split
  next kept =>
    rw [database_of_ne_empty kept.1]
    exact iff_of_true rfl kept.2
  next other =>
    have chosen : (if "master" ∈ normalizeDatabaseOptions databases then "master"
        else (normalizeDatabaseOptions databases).headD "") ∈
          normalizeDatabaseOptions databases := by
      split
      next offered => exact offered
      next => exact headD_mem (options_ne_nil databases)
    have named : ∀ name ∈ normalizeDatabaseOptions databases,
        InstanceConnectionForm.database { form with databaseName := name } = name :=
      fun name member => database_of_ne_empty (ne_empty_of_mem_options member)
    rw [named _ chosen]
    constructor
    · rintro same
      exact same ▸ chosen
    · intro member
      by_cases empty : form.databaseName = ""
      · have master : form.database = "master" := by
          rw [InstanceConnectionForm.database, empty]
          rfl
        rw [master] at member ⊢
        exact if_pos member
      · rw [database_of_ne_empty empty] at member
        exact absurd ⟨empty, member⟩ other

end Options

section Dialog

structure Dialog where
  mode : DialogMode
  form : InstanceConnectionForm
  databaseOptions : List String
  connectionTestResult : Option InstanceConnectionTestOut
  -- The copy of the form that was sent; none while no test is under way.
  testing : Option InstanceConnectionForm
  -- The form whose test the result tells of; the dialog does not keep it.
  tested : Option InstanceConnectionForm

inductive Event where
  | openCreate
  | openEdit (row : InstanceOut)
  | type (form : InstanceConnectionForm)
  | test
  | answered (answer : Raises (List ConnectionTestRow))
  -- The request was refused, or its answer is lost.
  | failed (message : String)
  | closed

def resetDialog (mode : DialogMode) (testing : Option InstanceConnectionForm) : Dialog where
  mode := mode
  form := {}
  databaseOptions := ["master"]
  connectionTestResult := none
  testing := testing
  tested := none

def editForm (row : InstanceOut) : InstanceConnectionForm where
  name := row.name
  host := row.host
  port := row.port
  databaseName := orText row.databaseName "master"
  username := ""
  password := ""
  collectIntervalSeconds := row.collectIntervalSeconds
  missingIndexCollectIntervalSeconds := row.missingIndexCollectIntervalSeconds
  indexFragmentationCollectIntervalSeconds := row.indexFragmentationCollectIntervalSeconds
  indexOperationTimeoutSeconds := row.indexOperationTimeoutSeconds
  retentionDays := row.retentionDays
  businessOwner := orText row.businessOwner ""
  dbaOwner := orText row.dbaOwner ""
  sqlserverVersion := row.sqlserverVersion

def showResult (dialog : Dialog) (sent : InstanceConnectionForm) (out : InstanceConnectionTestOut) :
    Dialog :=
  let shown := { dialog with connectionTestResult := some out, testing := none, tested := some sent }
  if out.success then
    let applied := applyDatabaseOptions out.databases
      { dialog.form with sqlserverVersion := out.sqlserverVersion }
    { shown with databaseOptions := applied.1, form := applied.2 }
  else shown

def failedTest (message : String) : InstanceConnectionTestOut where
  success := false
  sqlserverVersion := none
  databaseName := none
  databases := []
  errorMessage := some message

def step (dialog : Dialog) : Event → Option Dialog
  | .openCreate => some (resetDialog .create dialog.testing)
  | .openEdit row =>
    some
      { mode := .edit
        form := editForm row
        databaseOptions := normalizeDatabaseOptions [orText row.databaseName "master"]
        connectionTestResult := none
        testing := dialog.testing
        tested := none }
  | .type form =>
    -- The version is no field of the dialog.
    some { dialog with form := { form with sqlserverVersion := dialog.form.sqlserverVersion } }
  | .test =>
    -- The button is held back while a test is under way.
    if dialog.testing = none ∧ validateCreateForm dialog.mode dialog.form then
      some { dialog with testing := some dialog.form }
    else none
  | .answered answer => do
    let sent ← dialog.testing
    guard (testNewConnection sent).accepted
    return showResult dialog sent (runConnectionTest answer)
  | .failed message =>
    dialog.testing.map fun sent => showResult dialog sent (failedTest message)
  | .closed => some (resetDialog dialog.mode dialog.testing)

def noDialog : Dialog := resetDialog .create none

-- What `saveInstance` sends.
def payload (dialog : Dialog) : InstanceConnectionForm :=
  { dialog.form with
    sqlserverVersion :=
      match dialog.connectionTestResult.filter (·.success) with
      | some result => result.sqlserverVersion
      | none => dialog.form.sqlserverVersion }

end Dialog

section Properties

def passed (dialog : Dialog) : Option InstanceConnectionForm :=
  if dialog.connectionTestResult.any (·.success) then dialog.tested else none

/-- What saving stores is the string that the test of the form has connected with. -/
def SavesAs (dialog : Dialog) (sent : InstanceConnectionForm) : Prop :=
  ∀ drivers,
    match dialog.mode with
    | .create =>
      createdCollectDsn drivers (createInstanceFromForm (payload dialog)) =
        testedConnectionString drivers (testNewConnection sent)
    | .edit => ∀ row changed, setFields (updateInstanceFromForm (payload dialog)) row = some changed →
        updatedCollectDsn drivers (updateInstanceFromForm (payload dialog)) changed =
          encryptConnectionString (testedConnectionString drivers (testNewConnection sent))

def SavesTested (dialog : Dialog) : Prop := ∀ sent, passed dialog = some sent → SavesAs dialog sent

/--
No retyping while a test is under way or shown as passed, and no opening or closing
before its answer.
-/
def Undisturbed (dialog : Dialog) : Event → Prop
  | .type form => dialog.testing.isSome ∨ (passed dialog).isSome →
      testNewConnection form = testNewConnection dialog.form
  | .openCreate | .openEdit _ | .closed => dialog.testing = none
  | _ => True

/-- The server lists the database by the name that it has in the form. -/
def ListsSelected (dialog : Dialog) : Event → Prop
  | .answered (.ok rows) =>
    dialog.form.database ∈ (offeredNames rows).map trim ∨
      (dialog.form.database = "master" ∧ ∀ name ∈ (offeredNames rows).map trim, name = "")
  | _ => True

end Properties

section Strings

variable {dialog : Dialog} {form sent : InstanceConnectionForm}

theorem formConnectionString_inj :
    (∀ drivers, formConnectionString drivers form = formConnectionString drivers sent) ↔
      testNewConnection form = testNewConnection sent := by
  constructor
  · intro same
    obtain ⟨-, server, database, username, password⟩ :=
      ((attributes_buildSqlAuthConnectionString none form.host form.port form.username form.password
        form.database).2 none sent.host sent.port sent.username sent.password sent.database).mp
          (same none)
    obtain ⟨host, port⟩ := server_inj.mp server
    rw [orText_of_ne (database_ne_empty form), orText_of_ne (database_ne_empty sent)] at database
    simp only [testNewConnection, host, port, database, username, password]
  · intro same drivers
    rw [← testedConnectionString_testNewConnection, same, testedConnectionString_testNewConnection]

theorem hasAccount_of_accepted (accepted : (testNewConnection form).accepted = true) :
    form.hasAccount = true := by
  simp only [InstanceConnectionTestRequest.accepted, testNewConnection, lengthWithin,
    Bool.and_eq_true] at accepted
  obtain ⟨⟨-, username, -⟩, password⟩ := accepted
  have named : form.username ≠ "" := by
    intro empty
    simp [empty] at username
  have secret : form.password ≠ "" := of_decide_eq_true password
  simp [InstanceConnectionForm.hasAccount, named, secret]

theorem hasAccount_of_same (same : testNewConnection form = testNewConnection sent)
    (account : sent.hasAccount = true) : form.hasAccount = true := by
  have username : form.username = sent.username :=
    congrArg InstanceConnectionTestRequest.username same
  have password : form.password = sent.password :=
    congrArg InstanceConnectionTestRequest.password same
  rw [InstanceConnectionForm.hasAccount, username, password]
  exact account

theorem encrypt_injective {one other : String}
    (same : encryptConnectionString one = encryptConnectionString other) : one = other := by
  have decrypted := decrypt_encrypt one
  rw [same, decrypt_encrypt] at decrypted
  exact (Option.some.inj decrypted).symm

def blankRow : InstanceRow :=
  { (default : InstanceRecord) with
    encryptedCollectDsn := ""
    environment := ""
    collectIntervalSeconds := 0
    retentionDays := 0
    businessOwner := none
    dbaOwner := none
    updatedAt := 0 }

theorem updatedCollectDsn_edit (form : InstanceConnectionForm) (drivers : Option (List String))
    {row changed : InstanceRow} (set : setFields (updateInstanceFromForm form) row = some changed) :
    updatedCollectDsn drivers (updateInstanceFromForm form) changed =
      if form.hasAccount then encryptConnectionString (formConnectionString drivers form)
      else row.encryptedCollectDsn := by
  obtain rfl := Option.some.inj set
  exact updatedCollectDsn_form rfl rfl rfl

theorem savesAs_iff (account : sent.hasAccount = true) :
    SavesAs dialog sent ↔ testNewConnection dialog.form = testNewConnection sent := by
  have sends : ∀ drivers, formConnectionString drivers (payload dialog) =
      formConnectionString drivers dialog.form := fun _ => rfl
  have tests : testNewConnection (payload dialog) = testNewConnection dialog.form := rfl
  rw [← formConnectionString_inj]
  simp only [SavesAs, testedConnectionString_testNewConnection, ← sends]
  cases dialog.mode with
  | create => simp only [createdCollectDsn_form]
  | edit =>
      constructor
      · intro saves drivers
        have stored := saves drivers blankRow _ rfl
        rw [updatedCollectDsn_edit _ drivers rfl] at stored
        split at stored
        next => exact encrypt_injective stored
        next =>
          have empty : encryptConnectionString (formConnectionString drivers sent) = "" :=
            stored.symm
          exact absurd (ConnectionHistory.encrypt_eq_empty_iff.mp empty)
            (ConnectionHistory.buildSqlAuthConnectionString_ne_empty _ _ _ _ _)
      · intro same drivers row changed set
        have own := hasAccount_of_same (formConnectionString_inj.mp same) account
        rw [updatedCollectDsn_edit _ drivers set, if_pos own, same]

end Strings

section Runs

variable {dialog next final : Dialog} {event : Event} {events : List Event}

structure Sound (dialog : Dialog) : Prop where
  testing : ∀ sent, dialog.testing = some sent →
    testNewConnection dialog.form = testNewConnection sent
  account : ∀ sent, passed dialog = some sent → sent.hasAccount = true

theorem savesTested_iff (sound : Sound dialog) :
    SavesTested dialog ↔ ∀ sent, passed dialog = some sent →
      testNewConnection dialog.form = testNewConnection sent :=
  forall_congr' fun sent => forall_congr' fun shown => savesAs_iff (sound.account sent shown)

theorem savesTested_of_none (none : passed dialog = none) : SavesTested dialog :=
  fun sent shown => absurd (none.symm.trans shown) (by simp)

theorem sound_of_none (idle : dialog.testing = none) (none : passed dialog = none) : Sound dialog :=
  ⟨fun sent sends => absurd (idle.symm.trans sends) (by simp),
    fun sent shown => absurd (none.symm.trans shown) (by simp)⟩

theorem passed_failed (sent : InstanceConnectionForm) {out : InstanceConnectionTestOut}
    (failed : out.success = false) : passed (showResult dialog sent out) = none := by
  simp [passed, showResult, failed]

theorem passed_answered (sent : InstanceConnectionForm) {out : InstanceConnectionTestOut}
    (success : out.success = true) : passed (showResult dialog sent out) = some sent := by
  simp [passed, showResult, success]

theorem testing_showResult (sent : InstanceConnectionForm) (out : InstanceConnectionTestOut) :
    (showResult dialog sent out).testing = none := by
  unfold showResult
  cases out.success <;> rfl

theorem form_answered (sent : InstanceConnectionForm) {out : InstanceConnectionTestOut}
    (success : out.success = true) :
    testNewConnection (showResult dialog sent out).form = testNewConnection dialog.form ↔
      dialog.form.database ∈ normalizeDatabaseOptions out.databases := by
  have database := applyDatabaseOptions_database_iff out.databases
    { dialog.form with sqlserverVersion := out.sqlserverVersion }
  have own : InstanceConnectionForm.database
      { dialog.form with sqlserverVersion := out.sqlserverVersion } = dialog.form.database := rfl
  rw [own] at database
  rw [← database]
  have applied : (showResult dialog sent out).form =
      (applyDatabaseOptions out.databases
        { dialog.form with sqlserverVersion := out.sqlserverVersion }).2 := by
    simp [showResult, success]
  rw [applied]
  unfold applyDatabaseOptions
  simp only
  split
  next => exact iff_of_true rfl rfl
  next => simp [testNewConnection]

theorem sound_step (sound : Sound dialog) (undisturbed : Undisturbed dialog event)
    (stepped : step dialog event = some next) : Sound next := by
  cases event with
  | openCreate | openEdit | closed =>
      obtain rfl := Option.some.inj stepped
      exact sound_of_none undisturbed rfl
  | type form =>
      obtain rfl := Option.some.inj stepped
      refine ⟨fun sent sends => ?_, sound.account⟩
      have same := undisturbed (Or.inl (Option.isSome_iff_exists.mpr ⟨sent, sends⟩))
      exact same.trans (sound.testing sent sends)
  | test =>
      obtain ⟨-, rfl⟩ := of_guarded stepped
      exact ⟨fun sent sends => congrArg testNewConnection (Option.some.inj sends), sound.account⟩
  | answered answer =>
      simp only [step, Option.bind_eq_bind, Option.bind_eq_some_iff, Option.pure_def,
        Option.some.injEq, Option.guard_eq_some'] at stepped
      obtain ⟨sent, sends, -, accepted, rfl⟩ := stepped
      refine ⟨fun other later => ?_, fun other shown => ?_⟩
      · exact absurd ((testing_showResult sent _).symm.trans later) (by simp)
      · cases success : (runConnectionTest answer).success with
        | false => exact absurd ((passed_failed sent success).symm.trans shown) (by simp)
        | true =>
            obtain rfl := Option.some.inj ((passed_answered sent success).symm.trans shown)
            exact hasAccount_of_accepted accepted
  | failed message =>
      obtain ⟨sent, sends, rfl⟩ := Option.map_eq_some_iff.mp stepped
      exact sound_of_none (testing_showResult sent _) (passed_failed sent rfl)

theorem mem_map_trim (rows : List ConnectionTestRow) (name : String) :
    name ∈ (runConnectionTest (.ok rows)).databases.map trim ↔ name ∈ (offeredNames rows).map trim := by
  simp only [List.mem_map, mem_databases_runConnectionTest]

theorem savesTested_answered (sound : Sound dialog) {sent : InstanceConnectionForm}
    (sends : dialog.testing = some sent) {rows : List ConnectionTestRow}
    (after : Sound (showResult dialog sent (runConnectionTest (.ok rows)))) :
    SavesTested (showResult dialog sent (runConnectionTest (.ok rows))) ↔
      ListsSelected dialog (.answered (.ok rows)) := by
  have success : (runConnectionTest (.ok rows)).success = true := rfl
  have shown := @passed_answered dialog sent _ success
  have same := sound.testing sent sends
  rw [savesTested_iff after, ListsSelected]
  simp only [shown, Option.some.injEq, forall_eq']
  rw [← same, form_answered sent success, mem_options_iff (database_ne_empty dialog.form)]
  simp only [mem_map_trim]

theorem savesTested_step (sound : Sound dialog) (saves : SavesTested dialog)
    (undisturbed : Undisturbed dialog event) (stepped : step dialog event = some next) :
    SavesTested next ↔ ListsSelected dialog event := by
  have after := sound_step sound undisturbed stepped
  cases event with
  | openCreate | openEdit | closed =>
      obtain rfl := Option.some.inj stepped
      exact iff_of_true (savesTested_of_none rfl) trivial
  | type form =>
      obtain rfl := Option.some.inj stepped
      refine iff_of_true ((savesTested_iff after).mpr fun sent shown => ?_) trivial
      have same := undisturbed (Or.inr (Option.isSome_iff_exists.mpr ⟨sent, shown⟩))
      exact same.trans ((savesTested_iff sound).mp saves sent shown)
  | test =>
      obtain ⟨-, rfl⟩ := of_guarded stepped
      exact iff_of_true
        ((savesTested_iff after).mpr fun sent shown => (savesTested_iff sound).mp saves sent shown)
        trivial
  | answered answer =>
      simp only [step, Option.bind_eq_bind, Option.bind_eq_some_iff, Option.pure_def,
        Option.some.injEq, Option.guard_eq_some'] at stepped
      obtain ⟨sent, sends, -, -, rfl⟩ := stepped
      cases answer with
      | error => exact iff_of_true (savesTested_of_none (passed_failed sent rfl)) trivial
      | ok rows => exact savesTested_answered sound sends after
  | failed message =>
      obtain ⟨sent, -, rfl⟩ := Option.map_eq_some_iff.mp stepped
      exact iff_of_true (savesTested_of_none (passed_failed sent rfl)) trivial

theorem saves_as_tested_iff (events : List Event) (final : Dialog)
    (undisturbed : Along step Undisturbed noDialog events)
    (ran : run step noDialog events = some final) :
    Throughout step SavesTested noDialog events ↔ Along step ListsSelected noDialog events :=
  throughout_iff_along_of_along (fun _ _ _ => sound_step) (fun _ _ _ => savesTested_step)
    (sound_of_none rfl rfl) (savesTested_of_none rfl) undisturbed ran

end Runs

section OtherCase

def typedForm : InstanceConnectionForm :=
  { name := "sales", host := "sql01", databaseName := "Sales", username := "collector"
    password := "secret" }

-- The server has the database by a name in another case.
def listedRows : List ConnectionTestRow :=
  [⟨some "SQL Server 15.0", some "sales", none⟩, ⟨none, none, some "master"⟩,
    ⟨none, none, some "sales"⟩]

def otherCase : List Event := [.openCreate, .type typedForm, .test, .answered (.ok listedRows)]

theorem saves_as_tested_iff_otherCase :
    Along step Undisturbed noDialog otherCase ∧
      ∃ final, run step noDialog otherCase = some final ∧
        passed final = some typedForm ∧ final.form.database = "master" ∧
        ¬ Throughout step SavesTested noDialog otherCase := by
  have undisturbed : Along step Undisturbed noDialog otherCase := by
    refine (along_cons rfl).mpr ⟨rfl, (along_cons rfl).mpr ⟨?_, (along_cons rfl).mpr
      ⟨trivial, (along_cons rfl).mpr ⟨trivial, along_nil⟩⟩⟩⟩
    intro active
    exact absurd active (by decide)
  have ends : (run step noDialog otherCase).map (fun final => (passed final, final.form.database)) =
      some (some typedForm, "master") := by decide +kernel
  obtain ⟨final, ran, same⟩ := Option.map_eq_some_iff.mp ends
  obtain ⟨shown, selected⟩ := Prod.mk.inj same
  refine ⟨undisturbed, final, ran, shown, selected, fun throughout => ?_⟩
  have along := (saves_as_tested_iff otherCase final undisturbed ran).mp throughout
  have listed := along (otherCase.take 3) (.answered (.ok listedRows)) [] _ rfl rfl
  have missing : ¬ ("Sales" ∈ (offeredNames listedRows).map trim ∨
      ("Sales" = "master" ∧ ∀ name ∈ (offeredNames listedRows).map trim, name = "")) := by
    decide +kernel
  exact missing listed

end OtherCase

end SqlMonitor.Frontend.InstanceDialog
