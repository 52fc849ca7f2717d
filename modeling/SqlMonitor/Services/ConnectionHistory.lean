import SqlMonitor.Services.IndexOperations
import SqlMonitor.Services.InstanceAdministration
import SqlMonitor.Shared.TransitionSystem

set_option autoImplicit false

namespace SqlMonitor.Services

structure InstanceOut where
  id : Uuid
  name : String
  host : String
  port : Int
  databaseName : Option String
  environment : String
  hasCollectDsn : Bool
  hasKillDsn : Bool
  status : InstanceStatus
  collectIntervalSeconds : Int
  missingIndexCollectIntervalSeconds : Int
  indexFragmentationCollectIntervalSeconds : Int
  indexOperationTimeoutSeconds : Int
  retentionDays : Int
  businessOwner : Option String
  dbaOwner : Option String
  sqlserverVersion : Option String
  collectStatus : Option CollectState
  lastSuccessAt : Option Timestamp
  lastFailureAt : Option Timestamp
  lastDurationMs : Option Int
  consecutiveFailures : Int
  collectErrorMessage : Option String
  createdAt : Timestamp
  updatedAt : Timestamp
deriving DecidableEq

def toInstanceOut (row : InstanceRow) (collectStatus : Option InstanceCollectStatus) :
    InstanceOut where
  id := row.id
  name := row.name
  host := row.host
  port := row.port
  databaseName := row.databaseName
  environment := row.environment
  hasCollectDsn := row.encryptedCollectDsn ≠ ""
  hasKillDsn := row.encryptedKillDsn.isSome
  status := row.status
  collectIntervalSeconds := row.collectIntervalSeconds
  missingIndexCollectIntervalSeconds := orNumber (some row.missingIndexCollectIntervalSeconds) 600
  indexFragmentationCollectIntervalSeconds :=
    orNumber (some row.indexFragmentationCollectIntervalSeconds) 600
  indexOperationTimeoutSeconds := orNumber (some row.indexOperationTimeoutSeconds) 1800
  retentionDays := row.retentionDays
  businessOwner := row.businessOwner
  dbaOwner := row.dbaOwner
  sqlserverVersion := row.sqlserverVersion
  collectStatus := collectStatus.map InstanceCollectStatus.status
  lastSuccessAt := collectStatus.bind InstanceCollectStatus.lastSuccessAt
  lastFailureAt := collectStatus.bind InstanceCollectStatus.lastFailureAt
  lastDurationMs := collectStatus.bind InstanceCollectStatus.lastDurationMs
  consecutiveFailures := (collectStatus.map InstanceCollectStatus.consecutiveFailures).getD 0
  collectErrorMessage := collectStatus.bind InstanceCollectStatus.errorMessage
  createdAt := row.createdAt
  updatedAt := row.updatedAt

theorem hasKillDsn_toInstanceOut (row : InstanceRow)
    (collectStatus : Option InstanceCollectStatus) :
    (toInstanceOut row collectStatus).hasKillDsn = row.encryptedKillDsn.isSome := rfl

end SqlMonitor.Services

namespace SqlMonitor.ConnectionHistory

open Services TransitionSystem

section Steps

structure Connected where
  row : InstanceRow
  collectDsn : String
  killDsn : Option String

abbrev State := Uuid → Option Connected

inductive Action where
  | create (drivers : Option (List String)) (id : Uuid) (now : Timestamp) (data : InstanceCreate)
  | update (drivers : Option (List String)) (id : Uuid) (data : InstanceUpdate)
  | delete (id : Uuid)
  | testConnection (id : Uuid) (result : InstanceConnectionTest)

-- The string an update gives for collecting, built with the host that the update leaves.
def givenCollectDsn (drivers : Option (List String)) (data : InstanceUpdateFields)
    (changed : InstanceRow) : Option String :=
  match data.collectDsn with
  | some given => given
  | none => do
    let username ← data.username.filter (· ≠ "")
    let password ← data.password.filter (· ≠ "")
    return buildSqlAuthConnectionString drivers changed.host changed.port username password
      (orText changed.databaseName "master")

def created (drivers : Option (List String)) (id : Uuid) (now : Timestamp)
    (data : InstanceCreate) : Connected where
  row := (createInstance drivers id now data).1
  collectDsn := createdCollectDsn drivers data.toInstanceCreateFields
  killDsn := data.killDsn

def updated (drivers : Option (List String)) (data : InstanceUpdate) (stored : Connected) :
    Option Connected :=
  (updateInstance drivers data stored.row).map fun changed =>
    { row := changed
      collectDsn :=
        (givenCollectDsn drivers data.toInstanceUpdateFields changed).getD stored.collectDsn
      killDsn := data.killDsn.getD stored.killDsn }

def change (state : State) (id : Uuid) (make : Connected → Option Connected) : State :=
  match (state id).bind make with
  | none => state
  | some stored => Function.update state id (some stored)

def step (state : State) : Action → Option State
  | .create drivers id now data =>
    -- The id of a stored instance makes the commit fail.
    some (if (state id).isSome then state
      else Function.update state id (some (created drivers id now data)))
  | .update drivers id data => some (change state id (updated drivers data))
  | .delete id =>
    some (change state id fun stored => some { stored with row := deleteInstance stored.row })
  | .testConnection id result =>
    some (change state id fun stored =>
      some { stored with row := recordConnectionTest result stored.row })

def noInstances : State := fun _ => none

end Steps

section Shown

variable {surroundings : OperationSurroundings} {stored : Connected}

-- `decrypt_connection_string`, with what it raises left open.
def decryptOrRaise (failure : PyException) (encrypted : String) : Raises String :=
  match decryptConnectionString encrypted with
  | none => .error failure
  | some connectionString => .ok connectionString

def surroundingsWith (failure : PyException)
    (clientFactory : String → Raises OperationClient) : OperationSurroundings :=
  ⟨decryptOrRaise failure, clientFactory⟩

/-- What a page shows of the strings of an instance is what its operations do. -/
structure Connected.Shown (surroundings : OperationSurroundings) (stored : Connected) : Prop where
  kill : ∀ collectStatus, (toInstanceOut stored.row collectStatus).hasKillDsn = true ↔
    ∃ dsn, stored.killDsn = some dsn ∧
      operationConnectionString surroundings stored.row.toInstanceRecord = .ok dsn
  collect : ∀ collectStatus, (toInstanceOut stored.row collectStatus).hasKillDsn = false →
    operationConnectionString surroundings stored.row.toInstanceRecord = .ok stored.collectDsn
  hasCollect : ∀ collectStatus, (toInstanceOut stored.row collectStatus).hasCollectDsn = true

/-- The row keeps the strings it was given, except an empty one that was given with it. -/
structure Connected.Sound (stored : Connected) : Prop where
  collect : stored.row.encryptedCollectDsn = encryptConnectionString stored.collectDsn
  nonempty : stored.collectDsn ≠ ""
  kill : stored.row.encryptedKillDsn = stored.killDsn.map encryptConnectionString ∨
    stored.row.encryptedKillDsn = none ∧ stored.killDsn = some ""

theorem encrypt_empty : encryptConnectionString "" = "" := by decide

theorem encrypt_eq_empty_iff {dsn : String} : encryptConnectionString dsn = "" ↔ dsn = "" := by
  constructor
  · intro same
    have decrypted := decrypt_encrypt dsn
    rw [same, ← encrypt_empty, decrypt_encrypt] at decrypted
    exact (Option.some.inj decrypted).symm
  · rintro rfl
    exact encrypt_empty

variable {failure : PyException} {clientFactory : String → Raises OperationClient}

theorem operationConnectionString_of_encrypted {row : InstanceRecord} {dsn : String}
    (used : operationDsn row = encryptConnectionString dsn) (nonempty : dsn ≠ "") :
    operationConnectionString (surroundingsWith failure clientFactory) row = .ok dsn := by
  have filled : encryptConnectionString dsn ≠ "" := encrypt_eq_empty_iff.not.mpr nonempty
  rw [operationConnectionString, used, if_neg filled]
  simp only [surroundingsWith, decryptOrRaise, decrypt_encrypt]

theorem Connected.Sound.uses_collect (sound : stored.Sound)
    (blank : stored.row.encryptedKillDsn.filter (· ≠ "") = none) :
    operationConnectionString (surroundingsWith failure clientFactory)
      stored.row.toInstanceRecord = .ok stored.collectDsn := by
  refine operationConnectionString_of_encrypted ?_ sound.nonempty
  rw [operationDsn, orText, blank, Option.getD_none, sound.collect]

theorem Connected.Sound.hasCollectDsn (sound : stored.Sound)
    (collectStatus : Option InstanceCollectStatus) :
    (toInstanceOut stored.row collectStatus).hasCollectDsn = true := by
  have filled : stored.row.encryptedCollectDsn ≠ "" := by
    rw [sound.collect]
    exact encrypt_eq_empty_iff.not.mpr sound.nonempty
  exact decide_eq_true filled

theorem Connected.Sound.shown_of_unset (sound : stored.Sound)
    (unset : stored.row.encryptedKillDsn = none)
    (given : ∀ dsn ∈ stored.killDsn, dsn = "") :
    stored.Shown (surroundingsWith failure clientFactory) := by
  have uses := @Connected.Sound.uses_collect stored failure clientFactory sound (by rw [unset]; rfl)
  have hidden (collectStatus : Option InstanceCollectStatus) :
      (toInstanceOut stored.row collectStatus).hasKillDsn = false := by
    rw [hasKillDsn_toInstanceOut, unset, Option.isSome_none]
  refine ⟨fun collectStatus => ?_, fun _ _ => uses, sound.hasCollectDsn⟩
  rw [hidden, uses]
  refine iff_of_false Bool.false_ne_true ?_
  rintro ⟨dsn, last, used⟩
  exact sound.nonempty ((Except.ok.inj used).trans (given dsn last))

theorem Connected.Sound.shown_of_set (sound : stored.Sound) {dsn : String}
    (given : stored.killDsn = some dsn) (nonempty : dsn ≠ "")
    (set : stored.row.encryptedKillDsn = some (encryptConnectionString dsn)) :
    stored.Shown (surroundingsWith failure clientFactory) := by
  have filled : encryptConnectionString dsn ≠ "" := encrypt_eq_empty_iff.not.mpr nonempty
  have uses : operationConnectionString (surroundingsWith failure clientFactory)
      stored.row.toInstanceRecord = .ok dsn := by
    refine operationConnectionString_of_encrypted ?_ nonempty
    simp [operationDsn, orText, set, Option.filter_some, filled]
  have visible (collectStatus : Option InstanceCollectStatus) :
      (toInstanceOut stored.row collectStatus).hasKillDsn = true := by
    rw [hasKillDsn_toInstanceOut, set, Option.isSome_some]
  refine ⟨fun collectStatus => ?_, fun collectStatus absent => ?_, sound.hasCollectDsn⟩
  · exact iff_of_true (visible collectStatus) ⟨dsn, given, uses⟩
  · rw [visible] at absent
    exact absurd absent (by simp)

theorem Connected.Sound.shown_iff (sound : stored.Sound) :
    stored.Shown (surroundingsWith failure clientFactory) ↔
      stored.row.encryptedKillDsn ≠ some "" := by
  constructor
  · intro shown blank
    have visible : (toInstanceOut stored.row none).hasKillDsn = true := by
      rw [hasKillDsn_toInstanceOut, blank, Option.isSome_some]
    obtain ⟨dsn, given, used⟩ := (shown.kill none).mp visible
    rw [sound.uses_collect (by rw [blank]; rfl), Except.ok.injEq] at used
    rcases sound.kill with kept | ⟨unset, -⟩
    · rw [blank, given, Option.map_some, Option.some.injEq] at kept
      exact sound.nonempty (used.trans (encrypt_eq_empty_iff.mp kept.symm))
    · exact absurd (blank.symm.trans unset) (by simp)
  · intro filled
    rcases sound.kill with kept | ⟨unset, given⟩
    · cases last : stored.killDsn with
      | none =>
          rw [last] at kept
          exact sound.shown_of_unset kept (by simp [last])
      | some dsn =>
          rw [last, Option.map_some] at kept
          have nonempty : dsn ≠ "" := by
            rintro rfl
            exact filled (kept.trans (congrArg some encrypt_empty))
          exact sound.shown_of_set last nonempty kept
    · exact sound.shown_of_unset unset (by simp [given])

end Shown

section Runs

variable {failure : PyException} {clientFactory : String → Raises OperationClient}
  {start state next : State} {action : Action} {actions : List Action} {id : Uuid}
  {drivers : Option (List String)} {stored changed : Connected}

theorem buildSqlAuthConnectionString_ne_empty (host : String) (port : Int)
    (username password databaseName : String) :
    buildSqlAuthConnectionString drivers host port username password databaseName ≠ "" := by
  intro empty
  have parts := parse_buildSqlAuthConnectionString drivers host port username password databaseName
  rw [empty] at parts
  have none : ConnectionString.parse "".toList = [] := by decide
  exact absurd (none.symm.trans parts) (by simp)

theorem createdCollectDsn_ne_empty (data : InstanceCreateFields) :
    createdCollectDsn drivers data ≠ "" := by
  rw [createdCollectDsn, orText]
  cases given : data.collectDsn.filter (· ≠ "") with
  | none => exact buildSqlAuthConnectionString_ne_empty _ _ _ _ _
  | some dsn => simpa using (Option.filter_eq_some_iff.mp given).2

theorem sound_created (id : Uuid) (now : Timestamp) (data : InstanceCreate) :
    (created drivers id now data).Sound where
  collect := rfl
  nonempty := createdCollectDsn_ne_empty data.toInstanceCreateFields
  kill := by
    simp only [created, createInstance]
    cases data.killDsn with
    | none => exact Or.inl rfl
    | some dsn =>
        by_cases empty : dsn = ""
        · exact Or.inr ⟨by simp [empty], by rw [empty]⟩
        · exact Or.inl (by simp [Option.filter_some, empty])

theorem updatedCollectDsn_eq (data : InstanceUpdateFields) (row : InstanceRow) :
    updatedCollectDsn drivers data row =
      ((givenCollectDsn drivers data row).map encryptConnectionString).getD
        row.encryptedCollectDsn := by
  unfold updatedCollectDsn givenCollectDsn
  cases data.collectDsn with
  | some given => cases given <;> rfl
  | none =>
      cases data.username.filter (· ≠ "") with
      | none => rfl
      | some username => cases data.password.filter (· ≠ "") <;> rfl

theorem collectDsn_of_accepted (data : InstanceUpdate) :
    data.collectDsn.all (· ≠ "") = true := by
  have valid := data.valid
  grind [InstanceUpdateFields.accepted]

theorem givenCollectDsn_ne_empty {data : InstanceUpdate} {row : InstanceRow} {dsn : String}
    (given : givenCollectDsn drivers data.toInstanceUpdateFields row = some dsn) : dsn ≠ "" := by
  have valid := collectDsn_of_accepted data
  unfold givenCollectDsn at given
  cases set : data.collectDsn with
  | some value =>
      rw [set] at given valid
      obtain rfl : value = some dsn := given
      simpa [Update.all] using valid
  | none =>
      rw [set] at given
      simp only [Option.bind_eq_bind, Option.bind_eq_some_iff, Option.pure_def,
        Option.some.injEq] at given
      obtain ⟨_, -, _, -, rfl⟩ := given
      exact buildSqlAuthConnectionString_ne_empty _ _ _ _ _

theorem updateInstance_dsns {data : InstanceUpdate} {row changed : InstanceRow}
    (committed : updateInstance drivers data row = some changed) :
    changed.encryptedCollectDsn =
        ((givenCollectDsn drivers data.toInstanceUpdateFields changed).map
          encryptConnectionString).getD row.encryptedCollectDsn ∧
      changed.encryptedKillDsn =
        (data.killDsn.map (Option.map encryptConnectionString)).getD row.encryptedKillDsn := by
  obtain ⟨middle, set, rfl⟩ := Option.map_eq_some_iff.mp committed
  obtain ⟨collect, kill⟩ := setFields_dsns set
  refine ⟨?_, ?_⟩
  · rw [← collect]
    exact updatedCollectDsn_eq data.toInstanceUpdateFields middle
  · rw [← kill]
    simp only [updatedKillDsn]
    cases data.killDsn <;> rfl

theorem sound_updated {data : InstanceUpdate} (sound : stored.Sound)
    (made : updated drivers data stored = some changed) : changed.Sound := by
  obtain ⟨row, committed, rfl⟩ := Option.map_eq_some_iff.mp made
  obtain ⟨collect, kill⟩ := updateInstance_dsns committed
  refine ⟨?_, ?_, ?_⟩
  · simp only [collect, sound.collect]
    cases givenCollectDsn drivers data.toInstanceUpdateFields row <;> rfl
  · simp only
    cases fresh : givenCollectDsn drivers data.toInstanceUpdateFields row with
    | none => exact sound.nonempty
    | some dsn => exact givenCollectDsn_ne_empty fresh
  · simp only [kill]
    cases data.killDsn with
    | none => exact sound.kill
    | some dsn => exact Or.inl rfl

/-- What a step is to leave alone: an update that commits gives no empty string for kills. -/
def KillDsnFilled (state : State) : Action → Prop
  | .update drivers id data =>
    ∀ stored changed, state id = some stored → updated drivers data stored = some changed →
      data.killDsn ≠ some (some "")
  | _ => True

def AllSound (state : State) : Prop := ∀ id stored, state id = some stored → stored.Sound

def AllShown (surroundings : OperationSurroundings) (state : State) : Prop :=
  ∀ id stored, state id = some stored → stored.Shown surroundings

theorem forall_stored_update {P : Connected → Prop} {made : Connected}
    (others : ∀ id stored, state id = some stored → P stored) :
    (∀ other stored, Function.update state id (some made) other = some stored → P stored) ↔
      P made := by
  constructor
  · exact fun all => all id made (Function.update_self ..)
  · intro own other stored found
    by_cases same : other = id
    · subst same
      rw [Function.update_self, Option.some.injEq] at found
      exact found ▸ own
    · rw [Function.update_of_ne same] at found
      exact others other stored found

theorem forall_stored_change {P : Connected → Prop} {make : Connected → Option Connected}
    (others : ∀ id stored, state id = some stored → P stored) :
    (∀ other stored, change state id make other = some stored → P stored) ↔
      ∀ stored changed, state id = some stored → make stored = some changed → P changed := by
  cases changes : (state id).bind make with
  | none =>
      have kept : change state id make = state := by rw [change, changes]
      rw [kept]
      refine iff_of_true others fun stored changed found made => ?_
      rw [found, Option.bind_some, made] at changes
      exact absurd changes (by simp)
  | some made =>
      have stores : change state id make = Function.update state id (some made) := by
        rw [change, changes]
      rw [stores, forall_stored_update others]
      obtain ⟨stored, found, same⟩ := Option.bind_eq_some_iff.mp changes
      constructor
      · intro own other changed found' made'
        obtain rfl := Option.some.inj (found.symm.trans found')
        exact Option.some.inj (same.symm.trans made') ▸ own
      · exact fun all => all stored made found same

theorem allSound_step (sound : AllSound state) (stepped : step state action = some next) :
    AllSound next := by
  cases action with
  | create drivers id now data =>
      obtain rfl := Option.some.inj stepped
      split
      · exact sound
      · exact (forall_stored_update sound).mpr (sound_created id now data)
  | update drivers id data =>
      obtain rfl := Option.some.inj stepped
      exact (forall_stored_change sound).mpr fun stored changed found made =>
        sound_updated (sound id stored found) made
  | delete id =>
      obtain rfl := Option.some.inj stepped
      refine (forall_stored_change sound).mpr fun stored changed found made => ?_
      obtain rfl := Option.some.inj made
      have own := sound id stored found
      exact ⟨own.collect, own.nonempty, own.kill⟩
  | testConnection id result =>
      obtain rfl := Option.some.inj stepped
      refine (forall_stored_change sound).mpr fun stored changed found made => ?_
      obtain rfl := Option.some.inj made
      have own := sound id stored found
      unfold recordConnectionTest
      split <;> exact ⟨own.collect, own.nonempty, own.kill⟩

def Connected.Filled (stored : Connected) : Prop := stored.row.encryptedKillDsn ≠ some ""

theorem filled_created (id : Uuid) (now : Timestamp) (data : InstanceCreate) :
    (created drivers id now data).Filled := by
  intro blank
  obtain ⟨dsn, given, same⟩ := Option.map_eq_some_iff.mp blank
  exact (of_decide_eq_true (Option.filter_eq_some_iff.mp given).2) (encrypt_eq_empty_iff.mp same)

theorem filled_updated_iff {data : InstanceUpdate} (filled : stored.Filled)
    (made : updated drivers data stored = some changed) :
    changed.Filled ↔ data.killDsn ≠ some (some "") := by
  obtain ⟨row, committed, rfl⟩ := Option.map_eq_some_iff.mp made
  obtain ⟨-, kill⟩ := updateInstance_dsns committed
  simp only [Connected.Filled, kill]
  cases data.killDsn with
  | none => exact iff_of_true filled (by simp)
  | some given =>
      cases given with
      | none => simp
      | some dsn => simp [encrypt_eq_empty_iff]

theorem allFilled_step (filled : ∀ id stored, state id = some stored → stored.Filled)
    (stepped : step state action = some next) :
    (∀ id stored, next id = some stored → stored.Filled) ↔ KillDsnFilled state action := by
  cases action with
  | create drivers id now data =>
      obtain rfl := Option.some.inj stepped
      refine iff_of_true ?_ trivial
      split
      · exact filled
      · exact (forall_stored_update filled).mpr (filled_created id now data)
  | update drivers id data =>
      obtain rfl := Option.some.inj stepped
      rw [forall_stored_change filled]
      constructor
      · intro all stored changed found made
        exact (filled_updated_iff (filled id stored found) made).mp (all stored changed found made)
      · intro given stored changed found made
        exact (filled_updated_iff (filled id stored found) made).mpr
          (given stored changed found made)
  | delete id =>
      obtain rfl := Option.some.inj stepped
      refine iff_of_true ((forall_stored_change filled).mpr fun stored changed found made => ?_)
        trivial
      obtain rfl := Option.some.inj made
      exact filled id stored found
  | testConnection id result =>
      obtain rfl := Option.some.inj stepped
      refine iff_of_true ((forall_stored_change filled).mpr fun stored changed found made => ?_)
        trivial
      obtain rfl := Option.some.inj made
      have own := filled id stored found
      unfold Connected.Filled recordConnectionTest
      split <;> exact own

theorem allShown_iff (sound : AllSound state) :
    AllShown (surroundingsWith failure clientFactory) state ↔
      ∀ id stored, state id = some stored → stored.Filled :=
  forall_congr' fun id => forall_congr' fun stored => forall_congr' fun found =>
    (sound id stored found).shown_iff

theorem exists_run (start : State) (actions : List Action) :
    ∃ state, run step start actions = some state := by
  induction actions generalizing start with
  | nil => exact ⟨start, rfl⟩
  | cons action rest ih =>
      obtain ⟨next, stepped⟩ : ∃ next, step start action = some next := by
        cases action <;> exact ⟨_, rfl⟩
      obtain ⟨state, ran⟩ := ih next
      exact ⟨state, by rw [run_cons, stepped]; exact ran⟩

theorem connections_shown_iff (failure : PyException)
    (clientFactory : String → Raises OperationClient) (actions : List Action) :
    Throughout step (AllShown (surroundingsWith failure clientFactory)) noInstances actions ↔
      Along step KillDsnFilled noInstances actions := by
  obtain ⟨state, ran⟩ := exists_run noInstances actions
  have empty : AllSound noInstances := fun _ _ found => absurd found (by simp [noInstances])
  refine throughout_iff_along (J := AllSound)
    (fun _ _ _ => allSound_step) (fun state action next sound shown stepped => ?_) empty
    (fun _ _ found => absurd found (by simp [noInstances])) ran
  rw [allShown_iff (allSound_step sound stepped)]
  exact allFilled_step ((allShown_iff sound).mp shown) stepped

end Runs

section Emptied

def emptied : List Action :=
  [.create none 1 0
    { name := "sales", host := "sql01", collectDsn := some "Server=sql01"
      killDsn := some "Server=sql02", valid := by decide },
    .update none 1 { killDsn := some (some ""), valid := by decide }]

def decodeFailure : PyException := valueError "Invalid base64-encoded string"

theorem emptied_not_shown : ∃ state, run step noInstances emptied = some state ∧
    ∃ stored, state 1 = some stored ∧ (toInstanceOut stored.row none).hasKillDsn = true ∧
      operationConnectionString (surroundingsWith decodeFailure fun _ => .error decodeFailure)
        stored.row.toInstanceRecord = .ok stored.collectDsn ∧
      ¬ stored.Shown (surroundingsWith decodeFailure fun _ => .error decodeFailure) := by
  have empty : AllSound noInstances := fun _ _ found => absurd found (by simp [noInstances])
  obtain ⟨state, ran⟩ := exists_run noInstances emptied
  have sound : AllSound state := run_invariant (fun _ _ _ => allSound_step) empty ran
  have kept : ((run step noInstances emptied).bind fun state => state 1).bind
      (·.row.encryptedKillDsn) = some "" := by decide
  rw [ran, Option.bind_some] at kept
  obtain ⟨stored, found, blank⟩ := Option.bind_eq_some_iff.mp kept
  have visible : (toInstanceOut stored.row none).hasKillDsn = true := by
    rw [hasKillDsn_toInstanceOut, blank, Option.isSome_some]
  have own := sound 1 stored found
  exact ⟨state, ran, stored, found, visible, own.uses_collect (by rw [blank]; rfl),
    fun shown => own.shown_iff.mp shown blank⟩

end Emptied

end SqlMonitor.ConnectionHistory
