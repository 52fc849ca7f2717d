import SqlMonitor.Frontend.InstanceForms
import SqlMonitor.Shared.WriteBack

set_option autoImplicit false

namespace SqlMonitor.Services

section Servers

def isServer (keyword : List Char) : Bool := (strip keyword).map Char.toUpper = "SERVER".toList

def isDatabase (keyword : List Char) : Bool := (strip keyword).map Char.toUpper = "DATABASE".toList

def dsnServer (connectionString : String) : Option String :=
  (ConnectionString.value? isServer connectionString.toList).map String.ofList

def dsnDatabase (connectionString : String) : Option String :=
  (ConnectionString.value? isDatabase connectionString.toList).map String.ofList

variable (drivers : Option (List String)) (host : String) (port : Int)
  (username password databaseName : String)

theorem dsnServer_build :
    dsnServer (buildSqlAuthConnectionString drivers host port username password databaseName) =
      some (host ++ "," ++ toString port) := by
  have others : isServer "Driver".toList = false ∧ isServer "Server".toList = true := by decide
  simp only [dsnServer, ConnectionString.value?, parse_buildSqlAuthConnectionString,
    List.find?_cons, others, Option.map_some, String.ofList_toList]

theorem dsnDatabase_build :
    dsnDatabase (buildSqlAuthConnectionString drivers host port username password databaseName) =
      some (orText (some databaseName) "master") := by
  have others : isDatabase "Driver".toList = false ∧ isDatabase "Server".toList = false ∧
      isDatabase "Database".toList = true := by decide
  obtain ⟨driver, server, database⟩ := others
  simp only [dsnDatabase, ConnectionString.value?, parse_buildSqlAuthConnectionString,
    List.find?_cons, driver, server, database, Option.map_some, String.ofList_toList]

end Servers

section Addresses

theorem last_separator {A : Type} {separator : A} {before before' after after' : List A}
    (absent : separator ∉ after) (absent' : separator ∉ after')
    (same : before ++ separator :: after = before' ++ separator :: after') :
    before = before' ∧ after = after' := by
  rcases List.append_eq_append_iff.mp same with ⟨more, rfl, rest⟩ | ⟨more, rfl, rest⟩
  · cases more with
    | nil => exact ⟨by simp, by simpa using rest⟩
    | cons first more =>
        obtain ⟨-, rfl⟩ := List.cons.inj rest
        exact absurd (by simp) absent
  · cases more with
    | nil => exact ⟨by simp, by simpa using rest.symm⟩
    | cons first more =>
        obtain ⟨-, rfl⟩ := List.cons.inj rest
        exact absurd (by simp) absent'

theorem natRepr_injective {n m : Nat} (same : n.repr = m.repr) : n = m := by
  have digits : Nat.toDigits 10 n = Nat.toDigits 10 m := by
    rw [← Nat.toList_repr, ← Nat.toList_repr, same]
  rw [← Nat.ofDigitChars_ten_toDigits (n := n), digits, Nat.ofDigitChars_ten_toDigits]

theorem isDigit_of_mem_repr {n : Nat} {c : Char} (member : c ∈ n.repr.toList) :
    c.isDigit = true := by
  rw [Nat.toList_repr] at member
  exact Nat.isDigit_of_mem_toDigits (by decide) (by decide) member

theorem minus_repr_ne (n m : Nat) : "-" ++ n.repr ≠ m.repr := by
  intro same
  have member : '-' ∈ m.repr.toList := by
    rw [← same]
    simp
  exact absurd (isDigit_of_mem_repr member) (by decide)

theorem toString_int_injective {port other : Int} (same : toString port = toString other) :
    port = other := by
  rw [Int.toString_eq_repr, Int.toString_eq_repr, Int.repr_eq_if, Int.repr_eq_if] at same
  split at same
  · split at same
    · have digits := natRepr_injective same
      omega
    · exact absurd same.symm (minus_repr_ne _ _)
  · split at same
    · exact absurd same (minus_repr_ne _ _)
    · have digits := natRepr_injective ((String.append_right_inj _).mp same)
      omega

theorem comma_notMem_toString (port : Int) : ',' ∉ (toString port).toList := by
  rw [Int.toString_eq_repr, Int.repr_eq_if]
  intro member
  split at member
  · exact absurd (isDigit_of_mem_repr member) (by decide)
  · rw [String.toList_append, List.mem_append] at member
    rcases member with sign | digit
    · exact absurd sign (by decide)
    · exact absurd (isDigit_of_mem_repr digit) (by decide)

theorem server_inj {host other : String} {port otherPort : Int} :
    host ++ "," ++ toString port = other ++ "," ++ toString otherPort ↔
      host = other ∧ port = otherPort := by
  constructor
  · intro same
    have lists := congrArg String.toList same
    have comma : ",".toList = [','] := rfl
    simp only [String.toList_append, comma, List.append_assoc, List.singleton_append] at lists
    obtain ⟨hosts, ports⟩ :=
      last_separator (comma_notMem_toString port) (comma_notMem_toString otherPort) lists
    exact ⟨String.toList_inj.mp hosts, toString_int_injective (String.toList_inj.mp ports)⟩
  · rintro ⟨rfl, rfl⟩
    rfl

end Addresses

end SqlMonitor.Services

namespace SqlMonitor.Frontend.InstanceEdits

open Services TransitionSystem WriteBack InstanceForms ConnectionHistory

section Steps

abbrev RequestId := Nat

inductive Request where
  | edit (form : InstanceConnectionForm)
  | test
  | delete
deriving DecidableEq

structure Pending where
  id : Uuid
  request : Request
  loaded : InstanceRow

structure State where
  rows : Uuid → Option InstanceRow
  requests : RequestId → Option Pending

-- What the request sets on the row that it has loaded; nothing where it is refused.
def Request.change (drivers : Option (List String)) (answer : Raises (List ConnectionTestRow))
    (loaded : InstanceRow) : Request → Option InstanceRow
  | .edit form => do
    let data ← savedUpdate form
    updateInstance drivers data loaded
  | .test => some (recordConnectionTest (runConnectionTest answer).toInstanceConnectionTest loaded)
  | .delete => some (deleteInstance loaded)

-- The flush writes the columns that differ from what was loaded.
def flushInstance (loaded changed stored : InstanceRow) : InstanceRow :=
  { stored with
    name := flush (some loaded.name) changed.name stored.name
    host := flush (some loaded.host) changed.host stored.host
    port := flush (some loaded.port) changed.port stored.port
    databaseName := flush (some loaded.databaseName) changed.databaseName stored.databaseName
    environment := flush (some loaded.environment) changed.environment stored.environment
    encryptedCollectDsn :=
      flush (some loaded.encryptedCollectDsn) changed.encryptedCollectDsn stored.encryptedCollectDsn
    encryptedKillDsn :=
      flush (some loaded.encryptedKillDsn) changed.encryptedKillDsn stored.encryptedKillDsn
    status := flush (some loaded.status) changed.status stored.status
    collectIntervalSeconds :=
      flush (some loaded.collectIntervalSeconds) changed.collectIntervalSeconds
        stored.collectIntervalSeconds
    missingIndexCollectIntervalSeconds :=
      flush (some loaded.missingIndexCollectIntervalSeconds)
        changed.missingIndexCollectIntervalSeconds stored.missingIndexCollectIntervalSeconds
    indexFragmentationCollectIntervalSeconds :=
      flush (some loaded.indexFragmentationCollectIntervalSeconds)
        changed.indexFragmentationCollectIntervalSeconds
        stored.indexFragmentationCollectIntervalSeconds
    indexOperationTimeoutSeconds :=
      flush (some loaded.indexOperationTimeoutSeconds) changed.indexOperationTimeoutSeconds
        stored.indexOperationTimeoutSeconds
    retentionDays := flush (some loaded.retentionDays) changed.retentionDays stored.retentionDays
    businessOwner := flush (some loaded.businessOwner) changed.businessOwner stored.businessOwner
    dbaOwner := flush (some loaded.dbaOwner) changed.dbaOwner stored.dbaOwner
    sqlserverVersion :=
      flush (some loaded.sqlserverVersion) changed.sqlserverVersion stored.sqlserverVersion }

inductive Action where
  | create (drivers : Option (List String)) (id : Uuid) (now : Timestamp)
      (form : InstanceConnectionForm)
  | load (requestId : RequestId) (id : Uuid) (request : Request)
  -- The drivers that an edit finds, and what the server answers to a test.
  | commit (requestId : RequestId) (drivers : Option (List String))
      (answer : Raises (List ConnectionTestRow))
  -- Anything else that ends the request.
  | abandon (requestId : RequestId)

def createRow (drivers : Option (List String)) (id : Uuid) (now : Timestamp)
    (form : InstanceConnectionForm) : Option InstanceRow :=
  (savedCreate form).map fun data => (createInstance drivers id now data).1

def committed (state : State) (requestId : RequestId) (id : Uuid) (row : InstanceRow) : State where
  rows := Function.update state.rows id (some row)
  requests := Function.update state.requests requestId none

def step (state : State) : Action → Option State
  | .create drivers id now form => do
    -- A new id is no one's yet.
    guard (state.rows id).isNone
    let row ← createRow drivers id now form
    return { state with rows := Function.update state.rows id (some row) }
  | .load requestId id request => do
    guard (state.requests requestId).isNone
    let loaded ← state.rows id
    return { state with
      requests := Function.update state.requests requestId (some ⟨id, request, loaded⟩) }
  | .commit requestId drivers answer => do
    let pending ← state.requests requestId
    let stored ← state.rows pending.id
    let changed ← pending.request.change drivers answer pending.loaded
    return committed state requestId pending.id (flushInstance pending.loaded changed stored)
  | .abandon requestId =>
    some { state with requests := Function.update state.requests requestId none }

def noInstances : State := ⟨fun _ => none, fun _ => none⟩

end Steps

section Properties

def NamesServer (page : InstanceOut) (connectionString : String) : Prop :=
  dsnServer connectionString = some (page.host ++ "," ++ toString page.port) ∧
    dsnDatabase connectionString = page.databaseName

structure ConnectsAsNamed (surroundings : OperationSurroundings) (row : InstanceRow) : Prop where
  collector : ∀ collectStatus, ∃ connectionString,
    decryptConnectionString row.encryptedCollectDsn = some connectionString ∧
      NamesServer (toInstanceOut row collectStatus) connectionString
  operations : ∀ collectStatus, ∃ connectionString,
    operationConnectionString surroundings row.toInstanceRecord = .ok connectionString ∧
      NamesServer (toInstanceOut row collectStatus) connectionString

def AllConnectAsNamed (surroundings : OperationSurroundings) (state : State) : Prop :=
  ∀ id row, state.rows id = some row → ConnectsAsNamed surroundings row

/-- The edit has an account, and the string of it is not the one that it has loaded. -/
def Reconnects (drivers : Option (List String)) (form : InstanceConnectionForm)
    (loaded : InstanceRow) : Prop :=
  form.hasAccount = true ∧
    encryptConnectionString (formConnectionString drivers form) ≠ loaded.encryptedCollectDsn

-- What the edit leaves as it was loaded is still stored so.
def Undisturbed (form : InstanceConnectionForm) (loaded stored : InstanceRow) : Prop :=
  (loaded.host = form.host → stored.host = form.host) ∧
    (loaded.port = form.port → stored.port = form.port) ∧
    (loaded.databaseName = some form.database → stored.databaseName = some form.database)

-- What the edit changes is stored so already.
def Unmoved (form : InstanceConnectionForm) (loaded stored : InstanceRow) : Prop :=
  (loaded.host ≠ form.host → stored.host = form.host) ∧
    (loaded.port ≠ form.port → stored.port = form.port) ∧
    (loaded.databaseName ≠ some form.database → stored.databaseName = some form.database)

def Request.InStep (drivers : Option (List String)) (answer : Raises (List ConnectionTestRow))
    (loaded stored : InstanceRow) : Request → Prop
  | .edit form =>
    (Reconnects drivers form loaded → Undisturbed form loaded stored) ∧
      (¬ Reconnects drivers form loaded → Unmoved form loaded stored)
  | .test => ∀ reported, reportedDatabase answer = some reported →
      loaded.databaseName ≠ some reported → stored.databaseName = some reported
  | .delete => True

def InStep (state : State) : Action → Prop
  | .commit requestId drivers answer => ∀ pending stored,
      state.requests requestId = some pending → state.rows pending.id = some stored →
        pending.request.InStep drivers answer pending.loaded stored
  | _ => True

end Properties

section Rows

variable {failure : PyException} {clientFactory : String → Raises OperationClient}
  {drivers : Option (List String)} {form : InstanceConnectionForm}
  {row loaded changed stored : InstanceRow}

structure Sound (row : InstanceRow) : Prop where
  built : ∃ drivers form,
    row.encryptedCollectDsn = encryptConnectionString (formConnectionString drivers form)
  unset : row.encryptedKillDsn = none

def At (form : InstanceConnectionForm) (row : InstanceRow) : Prop :=
  row.host = form.host ∧ row.port = form.port ∧ row.databaseName = some form.database

theorem namesServer_form (collectStatus : Option InstanceCollectStatus) :
    NamesServer (toInstanceOut row collectStatus) (formConnectionString drivers form) ↔
      At form row := by
  have host : (toInstanceOut row collectStatus).host = row.host := rfl
  have port : (toInstanceOut row collectStatus).port = row.port := rfl
  have database : (toInstanceOut row collectStatus).databaseName = row.databaseName := rfl
  rw [NamesServer, formConnectionString, dsnServer_build, dsnDatabase_build,
    orText_of_ne (database_ne_empty form), host, port, database, Option.some.injEq, server_inj]
  constructor
  · rintro ⟨⟨sameHost, samePort⟩, sameDatabase⟩
    exact ⟨sameHost.symm, samePort.symm, sameDatabase.symm⟩
  · rintro ⟨sameHost, samePort, sameDatabase⟩
    exact ⟨⟨sameHost.symm, samePort.symm⟩, sameDatabase.symm⟩

theorem connectsAsNamed_iff (unset : row.encryptedKillDsn = none)
    (built : row.encryptedCollectDsn = encryptConnectionString (formConnectionString drivers form)) :
    ConnectsAsNamed (surroundingsWith failure clientFactory) row ↔ At form row := by
  have decrypts : decryptConnectionString row.encryptedCollectDsn =
      some (formConnectionString drivers form) := by rw [built, decrypt_encrypt]
  have used : operationDsn row.toInstanceRecord =
      encryptConnectionString (formConnectionString drivers form) := by
    rw [operationDsn, unset, built]
    rfl
  have nonempty : formConnectionString drivers form ≠ "" :=
    buildSqlAuthConnectionString_ne_empty _ _ _ _ _
  constructor
  · intro named
    obtain ⟨connectionString, decrypted, names⟩ := named.collector none
    obtain rfl := Option.some.inj (decrypts.symm.trans decrypted)
    exact (namesServer_form none).mp names
  · intro told
    exact ⟨fun collectStatus => ⟨_, decrypts, (namesServer_form collectStatus).mpr told⟩,
      fun collectStatus => ⟨_, operationConnectionString_of_encrypted used nonempty,
        (namesServer_form collectStatus).mpr told⟩⟩

theorem flush_eq_written_iff {V : Type} [DecidableEq V] {before value current : V} :
    flush (some before) value current = value ↔ (before = value → current = value) := by
  unfold flush
  split
  next same => simp [Option.some.inj same]
  next apart =>
    have apart' : before ≠ value := fun same => apart (congrArg some same)
    simp [apart']

theorem flush_eq_current_iff {V : Type} [DecidableEq V] {before value current : V} :
    flush (some before) value current = current ↔ (before ≠ value → current = value) := by
  unfold flush
  split
  next same => simp [Option.some.inj same]
  next apart =>
    have apart' : before ≠ value := fun same => apart (congrArg some same)
    simp [apart', eq_comm]

theorem connectsAsNamed_keep (sound : Sound stored)
    (named : ConnectsAsNamed (surroundingsWith failure clientFactory) stored)
    (collect : row.encryptedCollectDsn = stored.encryptedCollectDsn)
    (kill : row.encryptedKillDsn = none) :
    ConnectsAsNamed (surroundingsWith failure clientFactory) row ↔
      row.host = stored.host ∧ row.port = stored.port ∧ row.databaseName = stored.databaseName := by
  obtain ⟨drivers, form, built⟩ := sound.built
  obtain ⟨host, port, database⟩ := (connectsAsNamed_iff sound.unset built).mp named
  rw [connectsAsNamed_iff kill (collect.trans built), At, host, port, database]

theorem connectsAsNamed_edited (edited : EditedBy drivers form loaded changed)
    (unset : loaded.encryptedKillDsn = none) (sound : Sound stored)
    (named : ConnectsAsNamed (surroundingsWith failure clientFactory) stored) :
    ConnectsAsNamed (surroundingsWith failure clientFactory)
        (flushInstance loaded changed stored) ↔
      (Reconnects drivers form loaded → Undisturbed form loaded stored) ∧
        (¬ Reconnects drivers form loaded → Unmoved form loaded stored) := by
  have kill : (flushInstance loaded changed stored).encryptedKillDsn = none := by
    change flush (some loaded.encryptedKillDsn) changed.encryptedKillDsn
      stored.encryptedKillDsn = none
    rw [edited.kill, unset, sound.unset]
    exact ite_self none
  by_cases reconnects : Reconnects drivers form loaded
  · obtain ⟨account, other⟩ := reconnects
    have given : changed.encryptedCollectDsn =
        encryptConnectionString (formConnectionString drivers form) := by
      rw [edited.collect, if_pos account]
    have built : (flushInstance loaded changed stored).encryptedCollectDsn =
        encryptConnectionString (formConnectionString drivers form) := by
      change flush (some loaded.encryptedCollectDsn) changed.encryptedCollectDsn _ = _
      rw [given]
      exact if_neg fun same => other (Option.some.inj same).symm
    rw [connectsAsNamed_iff kill built, At]
    change flush (some loaded.host) changed.host stored.host = _ ∧
      flush (some loaded.port) changed.port stored.port = _ ∧
      flush (some loaded.databaseName) changed.databaseName stored.databaseName = _ ↔ _
    rw [edited.host, edited.port, edited.database, flush_eq_written_iff, flush_eq_written_iff,
      flush_eq_written_iff]
    exact ⟨fun undisturbed => ⟨fun _ => undisturbed, fun no => absurd ⟨account, other⟩ no⟩,
      fun both => both.1 ⟨account, other⟩⟩
  · have given : changed.encryptedCollectDsn = loaded.encryptedCollectDsn := by
      rw [edited.collect]
      split
      next account =>
        by_contra other
        exact reconnects ⟨account, other⟩
      next => rfl
    have kept : (flushInstance loaded changed stored).encryptedCollectDsn =
        stored.encryptedCollectDsn := by
      change flush (some loaded.encryptedCollectDsn) changed.encryptedCollectDsn _ = _
      rw [given]
      exact if_pos rfl
    rw [connectsAsNamed_keep sound named kept kill]
    change flush (some loaded.host) changed.host stored.host = _ ∧
      flush (some loaded.port) changed.port stored.port = _ ∧
      flush (some loaded.databaseName) changed.databaseName stored.databaseName = _ ↔ _
    rw [edited.host, edited.port, edited.database, flush_eq_current_iff, flush_eq_current_iff,
      flush_eq_current_iff]
    exact ⟨fun unmoved => ⟨fun yes => absurd yes reconnects, fun _ => unmoved⟩,
      fun both => both.2 reconnects⟩

theorem connectsAsNamed_kept (sound : Sound stored)
    (named : ConnectsAsNamed (surroundingsWith failure clientFactory) stored)
    (host : changed.host = loaded.host) (port : changed.port = loaded.port)
    (collect : changed.encryptedCollectDsn = loaded.encryptedCollectDsn)
    (kill : changed.encryptedKillDsn = loaded.encryptedKillDsn) :
    ConnectsAsNamed (surroundingsWith failure clientFactory)
        (flushInstance loaded changed stored) ↔
      (loaded.databaseName ≠ changed.databaseName →
        stored.databaseName = changed.databaseName) := by
  have keptHost : (flushInstance loaded changed stored).host = stored.host :=
    if_pos (congrArg some host.symm)
  have keptPort : (flushInstance loaded changed stored).port = stored.port :=
    if_pos (congrArg some port.symm)
  have keptCollect : (flushInstance loaded changed stored).encryptedCollectDsn =
      stored.encryptedCollectDsn := if_pos (congrArg some collect.symm)
  have keptKill : (flushInstance loaded changed stored).encryptedKillDsn = none :=
    (if_pos (congrArg some kill.symm)).trans sound.unset
  rw [connectsAsNamed_keep sound named keptCollect keptKill]
  constructor
  · rintro ⟨-, -, database⟩
    exact flush_eq_current_iff.mp database
  · intro database
    exact ⟨keptHost, keptPort, flush_eq_current_iff.mpr database⟩

theorem connectsAsNamed_tested (answer : Raises (List ConnectionTestRow)) (sound : Sound stored)
    (named : ConnectsAsNamed (surroundingsWith failure clientFactory) stored) :
    ConnectsAsNamed (surroundingsWith failure clientFactory)
        (flushInstance loaded
          (recordConnectionTest (runConnectionTest answer).toInstanceConnectionTest loaded)
          stored) ↔
      ∀ reported, reportedDatabase answer = some reported →
        loaded.databaseName ≠ some reported → stored.databaseName = some reported := by
  have same : (recordConnectionTest (runConnectionTest answer).toInstanceConnectionTest
        loaded).host = loaded.host ∧
      (recordConnectionTest (runConnectionTest answer).toInstanceConnectionTest
        loaded).port = loaded.port ∧
      (recordConnectionTest (runConnectionTest answer).toInstanceConnectionTest
        loaded).encryptedCollectDsn = loaded.encryptedCollectDsn ∧
      (recordConnectionTest (runConnectionTest answer).toInstanceConnectionTest
        loaded).encryptedKillDsn = loaded.encryptedKillDsn := by
    unfold recordConnectionTest
    split <;> exact ⟨rfl, rfl, rfl, rfl⟩
  obtain ⟨host, port, collect, kill⟩ := same
  rw [connectsAsNamed_kept sound named host port collect kill, databaseName_recordConnectionTest]
  cases reportedDatabase answer with
  | none => simp
  | some reported => simp

theorem sound_edited (sound : Sound loaded) (edited : EditedBy drivers form loaded changed) :
    Sound changed := by
  refine ⟨?_, edited.kill.trans sound.unset⟩
  rw [edited.collect]
  split
  next => exact ⟨drivers, form, rfl⟩
  next => exact sound.built

theorem sound_flush (given : Sound changed) (sound : Sound stored) :
    Sound (flushInstance loaded changed stored) := by
  refine ⟨?_, ?_⟩
  · change ∃ drivers form, flush (some loaded.encryptedCollectDsn) changed.encryptedCollectDsn
      stored.encryptedCollectDsn = encryptConnectionString (formConnectionString drivers form)
    unfold flush
    split
    next => exact sound.built
    next => exact given.built
  · change flush (some loaded.encryptedKillDsn) changed.encryptedKillDsn
      stored.encryptedKillDsn = none
    rw [given.unset, sound.unset]
    exact ite_self none

theorem sound_change {request : Request} {answer : Raises (List ConnectionTestRow)}
    (sound : Sound loaded) (changes : request.change drivers answer loaded = some changed) :
    Sound changed := by
  cases request with
  | edit form =>
      obtain ⟨data, saved, updated⟩ := Option.bind_eq_some_iff.mp changes
      exact sound_edited sound (editedBy_update saved updated)
  | test =>
      obtain rfl := Option.some.inj changes
      unfold recordConnectionTest
      split <;> exact ⟨sound.built, sound.unset⟩
  | delete =>
      obtain rfl := Option.some.inj changes
      exact ⟨sound.built, sound.unset⟩

theorem createRow_at {id : Uuid} {now : Timestamp} (made : createRow drivers id now form = some row) :
    row.encryptedCollectDsn = encryptConnectionString (formConnectionString drivers form) ∧
      row.encryptedKillDsn = none ∧ At form row := by
  obtain ⟨data, saved, rfl⟩ := Option.map_eq_some_iff.mp made
  have fields := savedCreate_eq_some saved
  have host : data.host = form.host := congrArg InstanceCreateFields.host fields
  have port : data.port = form.port := congrArg InstanceCreateFields.port fields
  have database : data.databaseName = some form.database :=
    congrArg InstanceCreateFields.databaseName fields
  have kill : data.killDsn = none := congrArg InstanceCreateFields.killDsn fields
  refine ⟨?_, ?_, host, port, database⟩
  · change encryptConnectionString (createdCollectDsn drivers data.toInstanceCreateFields) = _
    rw [fields, createdCollectDsn_form]
  · change (data.killDsn.filter (· ≠ "")).map encryptConnectionString = none
    rw [kill]
    rfl

end Rows

section Runs

variable {failure : PyException} {clientFactory : String → Raises OperationClient}
  {state next final : State} {action : Action} {actions : List Action}

structure AllSound (state : State) : Prop where
  stored : ∀ id row, state.rows id = some row → Sound row
  loaded : ∀ requestId pending, state.requests requestId = some pending → Sound pending.loaded

theorem step_cases (stepped : step state action = some next) :
    (∃ drivers id now form row, action = .create drivers id now form ∧
      createRow drivers id now form = some row ∧
      next = { state with rows := Function.update state.rows id (some row) }) ∨
    (∃ requestId id request loaded, action = .load requestId id request ∧
      state.rows id = some loaded ∧
      next = { state with
        requests := Function.update state.requests requestId (some ⟨id, request, loaded⟩) }) ∨
    (∃ requestId drivers answer pending stored changed,
      action = .commit requestId drivers answer ∧ state.requests requestId = some pending ∧
      state.rows pending.id = some stored ∧
      pending.request.change drivers answer pending.loaded = some changed ∧
      next = committed state requestId pending.id
        (flushInstance pending.loaded changed stored)) ∨
    (∃ requestId, action = .abandon requestId ∧
      next = { state with requests := Function.update state.requests requestId none }) := by
  cases action with
  | create drivers id now form =>
      simp only [step, Option.bind_eq_bind, Option.bind_eq_some_iff, Option.pure_def,
        Option.some.injEq] at stepped
      obtain ⟨-, -, row, made, same⟩ := stepped
      exact Or.inl ⟨drivers, id, now, form, row, rfl, made, same.symm⟩
  | load requestId id request =>
      simp only [step, Option.bind_eq_bind, Option.bind_eq_some_iff, Option.pure_def,
        Option.some.injEq] at stepped
      obtain ⟨-, -, loaded, found, same⟩ := stepped
      exact Or.inr (Or.inl ⟨requestId, id, request, loaded, rfl, found, same.symm⟩)
  | commit requestId drivers answer =>
      simp only [step, Option.bind_eq_bind, Option.bind_eq_some_iff, Option.pure_def,
        Option.some.injEq] at stepped
      obtain ⟨pending, asked, stored, found, changed, changes, same⟩ := stepped
      exact Or.inr (Or.inr (Or.inl
        ⟨requestId, drivers, answer, pending, stored, changed, rfl, asked, found, changes,
          same.symm⟩))
  | abandon requestId =>
      exact Or.inr (Or.inr (Or.inr ⟨requestId, rfl, (Option.some.inj stepped).symm⟩))

theorem forall_update {K V : Type} [DecidableEq K] {stands : K → Option V} {P : V → Prop} {key : K}
    {value : V} (others : ∀ other found, stands other = some found → P found) :
    (∀ other found, Function.update stands key (some value) other = some found → P found) ↔
      P value := by
  constructor
  · exact fun all => all key value (Function.update_self ..)
  · intro own other found here
    by_cases same : other = key
    · subst same
      rw [Function.update_self, Option.some.injEq] at here
      exact here ▸ own
    · rw [Function.update_of_ne same] at here
      exact others other found here

theorem forall_remove {K V : Type} [DecidableEq K] {stands : K → Option V} {P : V → Prop} (key : K)
    (others : ∀ other found, stands other = some found → P found) :
    ∀ other found, Function.update stands key none other = some found → P found := by
  intro other found here
  by_cases same : other = key
  · rw [same, Function.update_self] at here
    exact absurd here (by simp)
  · rw [Function.update_of_ne same] at here
    exact others other found here

theorem allSound_step (sound : AllSound state) (stepped : step state action = some next) :
    AllSound next := by
  obtain ⟨drivers, id, now, form, row, -, made, rfl⟩ | ⟨requestId, id, request, loaded, -, found, rfl⟩ |
    ⟨requestId, drivers, answer, pending, stored, changed, -, asked, found, changes, rfl⟩ |
    ⟨requestId, -, rfl⟩ := step_cases stepped
  · obtain ⟨built, unset, -⟩ := createRow_at made
    exact ⟨(forall_update sound.stored).mpr ⟨⟨drivers, form, built⟩, unset⟩, sound.loaded⟩
  · exact ⟨sound.stored, (forall_update (P := fun pending : Pending => Sound pending.loaded) sound.loaded).mpr
      (sound.stored id loaded found)⟩
  · have given := sound_change (sound.loaded requestId pending asked) changes
    exact ⟨(forall_update sound.stored).mpr (sound_flush given (sound.stored _ stored found)),
      forall_remove (P := fun pending : Pending => Sound pending.loaded) requestId sound.loaded⟩
  · exact ⟨sound.stored, forall_remove (P := fun pending : Pending => Sound pending.loaded) requestId sound.loaded⟩

theorem connectsAsNamed_flush_iff {request : Request} {drivers : Option (List String)}
    {answer : Raises (List ConnectionTestRow)} {loaded changed stored : InstanceRow}
    (before : Sound loaded) (sound : Sound stored)
    (named : ConnectsAsNamed (surroundingsWith failure clientFactory) stored)
    (changes : request.change drivers answer loaded = some changed) :
    ConnectsAsNamed (surroundingsWith failure clientFactory)
        (flushInstance loaded changed stored) ↔
      request.InStep drivers answer loaded stored := by
  cases request with
  | edit form =>
      obtain ⟨data, saved, updated⟩ := Option.bind_eq_some_iff.mp changes
      exact connectsAsNamed_edited (editedBy_update saved updated) before.unset sound named
  | test =>
      obtain rfl := Option.some.inj changes
      exact connectsAsNamed_tested answer sound named
  | delete =>
      obtain rfl := Option.some.inj changes
      have host : (deleteInstance loaded).host = loaded.host := rfl
      have database : (deleteInstance loaded).databaseName = loaded.databaseName := rfl
      rw [connectsAsNamed_kept sound named host rfl rfl rfl, database]
      exact iff_of_true (fun apart => absurd rfl apart) trivial

theorem inStep_step (sound : AllSound state)
    (named : AllConnectAsNamed (surroundingsWith failure clientFactory) state)
    (stepped : step state action = some next) :
    AllConnectAsNamed (surroundingsWith failure clientFactory) next ↔ InStep state action := by
  obtain ⟨drivers, id, now, form, row, rfl, made, rfl⟩ |
    ⟨requestId, id, request, loaded, rfl, found, rfl⟩ |
    ⟨requestId, drivers, answer, pending, stored, changed, rfl, asked, found, changes, rfl⟩ |
    ⟨requestId, rfl, rfl⟩ := step_cases stepped
  · obtain ⟨built, unset, told⟩ := createRow_at made
    exact iff_of_true
      ((forall_update named).mpr ((connectsAsNamed_iff unset built).mpr told)) trivial
  · exact iff_of_true named trivial
  · rw [AllConnectAsNamed, committed, forall_update named,
      connectsAsNamed_flush_iff (sound.loaded requestId pending asked)
        (sound.stored _ stored found) (named _ stored found) changes]
    constructor
    · intro inStep other current requested stands
      obtain rfl := Option.some.inj (asked.symm.trans requested)
      obtain rfl := Option.some.inj (found.symm.trans stands)
      exact inStep
    · exact fun inStep => inStep pending stored asked found
  · exact iff_of_true named trivial

theorem connects_as_named_iff (failure : PyException)
    (clientFactory : String → Raises OperationClient) (actions : List Action) (final : State)
    (ran : run step noInstances actions = some final) :
    Throughout step (AllConnectAsNamed (surroundingsWith failure clientFactory)) noInstances
        actions ↔
      Along step InStep noInstances actions := by
  have sound : AllSound noInstances :=
    ⟨fun _ _ found => absurd found (by simp [noInstances]),
      fun _ _ found => absurd found (by simp [noInstances])⟩
  have named : AllConnectAsNamed (surroundingsWith failure clientFactory) noInstances :=
    fun _ _ found => absurd found (by simp [noInstances])
  exact throughout_iff_along (fun _ _ _ => allSound_step) (fun _ _ _ => inStep_step) sound named ran

end Runs

section Overtaken

def salesForm : InstanceConnectionForm :=
  { name := "sales", host := "sql01", username := "collector", password := "secret" }

def overtaken : List Action :=
  [.create none 1 0 salesForm,
    .load 1 1 (.edit { salesForm with host := "sql02" }),
    .load 2 1 (.edit { salesForm with port := 1444 }),
    .commit 1 none (.ok []),
    .commit 2 none (.ok [])]

theorem connects_as_named_iff_overtaken :
    ∃ final, run step noInstances overtaken = some final ∧
      ¬ Throughout step (AllConnectAsNamed (surroundingsWith decodeFailure fun _ =>
        .error decodeFailure)) noInstances overtaken := by
  have evaluated : ((run step noInstances (overtaken.take 4)).bind fun state =>
      (state.requests 2).bind fun pending => (state.rows pending.id).map fun stored =>
        (pending.request, pending.loaded.host, stored.host,
          decide (encryptConnectionString (formConnectionString none
            { salesForm with port := 1444 }) ≠ pending.loaded.encryptedCollectDsn))) =
      some (.edit { salesForm with port := 1444 }, "sql01", "sql02", true) := by
    decide +kernel
  obtain ⟨state, ran, inside⟩ := Option.bind_eq_some_iff.mp evaluated
  obtain ⟨pending, asked, later⟩ := Option.bind_eq_some_iff.mp inside
  obtain ⟨stored, found, same⟩ := Option.map_eq_some_iff.mp later
  simp only [Prod.mk.injEq, decide_eq_true_eq] at same
  obtain ⟨request, loadedHost, storedHost, other⟩ := same
  have ends : (run step noInstances overtaken).isSome = true := by decide +kernel
  obtain ⟨final, whole⟩ := Option.isSome_iff_exists.mp ends
  refine ⟨final, whole, fun throughout => ?_⟩
  have along := (connects_as_named_iff decodeFailure (fun _ => .error decodeFailure) overtaken final
    whole).mp throughout
  have inStep := along (overtaken.take 4) (.commit 2 none (.ok [])) [] state rfl ran pending stored
    asked found
  rw [request] at inStep
  have moved := (inStep.1 ⟨rfl, other⟩).1 loadedHost
  rw [storedHost] at moved
  exact absurd moved (by decide)

end Overtaken

end SqlMonitor.Frontend.InstanceEdits
