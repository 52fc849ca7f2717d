import SqlMonitor.Services.InstanceAdministration
import SqlMonitor.Services.KillTerminating
import SqlMonitor.Shared.TransitionSystem

set_option autoImplicit false

namespace SqlMonitor.KillAccounts

open Services TransitionSystem

structure KillRecord where
  mapping : CaseMapping
  row : Option InstanceRow
  session : Option SessionSnapshot
  outcome : KillOutcome

structure State where
  instances : Uuid → Option InstanceRow
  statuses : Uuid → Option InstanceCollectStatus
  kills : List KillRecord

inductive Action where
  | create (drivers : Option (List String)) (id : Uuid) (now : Timestamp) (data : InstanceCreate)
  | update (drivers : Option (List String)) (id : Uuid) (data : InstanceUpdate)
  | delete (id : Uuid)
  | testConnection (id : Uuid) (result : InstanceConnectionTest)
  | postKill (surroundings : KillSurroundings) (tables : SnapshotTables) (request : KillRequest)
    (user : User)

section Steps

variable (state : State)

def hasInstance (id : Uuid) : Bool := (state.instances id).isSome

def storeNew (created : InstanceRow × InstanceCollectStatus) : State :=
  { state with
    instances := Function.update state.instances created.1.id (some created.1)
    statuses := Function.update state.statuses created.1.id (some created.2) }

def changeRow (id : Uuid) (change : InstanceRow → Option InstanceRow) : State :=
  match (state.instances id).bind change with
  | none => state
  | some row => { state with instances := Function.update state.instances id (some row) }

def killRecord (surroundings : KillSurroundings) (tables : SnapshotTables) (request : KillRequest)
    (user : User) : KillRecord where
  mapping := surroundings.mapping
  row := state.instances request.instanceId
  session := checkedSession tables request.instanceId request.sessionId
  outcome := postKill surroundings (hasInstance state) tables request user

def step : Action → Option State
  | .create drivers id now data =>
    -- The id of a stored instance makes the commit fail.
    some (if hasInstance state id then state
      else storeNew state (createInstance drivers id now data))
  | .update drivers id data => some (changeRow state id (updateInstance drivers data))
  | .delete id => some (changeRow state id fun row => some (deleteInstance row))
  | .testConnection id result =>
    some (changeRow state id fun row => some (recordConnectionTest result row))
  | .postKill surroundings tables request user =>
    some { state with kills := state.kills ++ [killRecord state surroundings tables request user] }

end Steps

section Accounts

/-- The session was opened with an account of the instance, up to case and blanks around it. -/
structure OpenedBy (mapping : CaseMapping) (row : InstanceRow) (session : SessionSnapshot)
    (account : String) : Prop where
  configured : account ∈ ownAccounts row
  login : ∃ loginName, session.loginName = some loginName ∧
    normalizeLogin mapping (some loginName) = normalizeLogin mapping (some account)

def KillRecord.Spared (record : KillRecord) : Prop :=
  ∀ row session account, record.row = some row → record.session = some session →
    OpenedBy record.mapping row session account → record.outcome.RejectedWith "PLATFORM_ACCOUNT"

def OwnSessionsSpared (state : State) : Prop := ∀ record ∈ state.kills, record.Spared

structure Guarded (surroundings : KillSurroundings) (request : KillRequest) (user : User)
    (account : String) : Prop where
  allowed : user.role ∈ killRoles
  reasoned : isReason request.reason = true
  above : surroundings.minKillableSessionId < request.sessionId
  named : isPlatformAccount surroundings.mapping (some account) = true
  written : surroundings.auditWrites = true

def GuardedKill (state : State) : Action → Prop
  | .postKill surroundings tables request user =>
    ∀ row session account, state.instances request.instanceId = some row →
      checkedSession tables request.instanceId request.sessionId = some session →
      OpenedBy surroundings.mapping row session account →
      Guarded surroundings request user account
  | _ => True

variable {surroundings : KillSurroundings} {known : Uuid → Bool} {tables : SnapshotTables}
  {request : KillRequest} {user : User} {session : SessionSnapshot} {row : InstanceRow}
  {account : String}

theorem OpenedBy.isPlatformAccount (opened : OpenedBy surroundings.mapping row session account) :
    isPlatformAccount surroundings.mapping session.loginName =
      isPlatformAccount surroundings.mapping (some account) := by
  obtain ⟨loginName, named, same⟩ := opened.login
  rw [named, Services.isPlatformAccount, Services.isPlatformAccount, same]

theorem postKill_platform_iff (stored : known request.instanceId = true)
    (checked : checkedSession tables request.instanceId request.sessionId = some session)
    (opened : OpenedBy surroundings.mapping row session account) :
    (postKill surroundings known tables request user).RejectedWith "PLATFORM_ACCOUNT" ↔
      Guarded surroundings request user account := by
  by_cases allowed : user.role ∈ killRoles
  · obtain ⟨target, built, reads⟩ := buildKillTarget_of_checked checked
    rw [postKill_rejectedWith allowed stored built, validateKillTarget_platform, reads.sessionId,
      reads.loginName, opened.isPlatformAccount]
    constructor
    · intro guards
      obtain ⟨⟨reasoned, above, named⟩, written⟩ := guards
      exact ⟨allowed, reasoned, above, named, written⟩
    · intro guarded
      exact ⟨⟨guarded.reasoned, guarded.above, guarded.named⟩, guarded.written⟩
  · constructor
    · intro refused
      obtain ⟨body, answered, -⟩ := refused.answered
      simp [postKill, allowed] at answered
    · intro guarded
      exact absurd guarded.allowed allowed

end Accounts

section Runs

variable {start state next : State} {action : Action} {actions : List Action}

@[simp] theorem kills_changeRow (id : Uuid) (change : InstanceRow → Option InstanceRow) :
    (changeRow state id change).kills = state.kills := by
  unfold changeRow
  split <;> rfl

theorem ownSessionsSpared_changeRow {id : Uuid} {change : InstanceRow → Option InstanceRow}
    (spared : OwnSessionsSpared state) : OwnSessionsSpared (changeRow state id change) := by
  simpa only [OwnSessionsSpared, kills_changeRow] using spared

theorem spared_killRecord {surroundings : KillSurroundings} {tables : SnapshotTables}
    {request : KillRequest} {user : User} :
    (killRecord state surroundings tables request user).Spared ↔
      GuardedKill state (.postKill surroundings tables request user) := by
  constructor
  · intro spared row session account stored checked opened
    have known : hasInstance state request.instanceId = true := by simp [hasInstance, stored]
    exact (postKill_platform_iff known checked opened).mp
      (spared row session account stored checked opened)
  · intro guarded row session account stored checked opened
    have known : hasInstance state request.instanceId = true := by
      rw [hasInstance, show state.instances request.instanceId = some row from stored]
      rfl
    exact (postKill_platform_iff known checked opened).mpr
      (guarded row session account stored checked opened)

theorem ownSessionsSpared_step (spared : OwnSessionsSpared state)
    (stepped : step state action = some next) :
    OwnSessionsSpared next ↔ GuardedKill state action := by
  cases action with
  | create drivers id now data =>
      obtain rfl := Option.some.inj stepped
      refine iff_of_true ?_ trivial
      split
      · exact spared
      · exact spared
  | update drivers id data =>
      obtain rfl := Option.some.inj stepped
      exact iff_of_true (ownSessionsSpared_changeRow spared) trivial
  | delete id =>
      obtain rfl := Option.some.inj stepped
      exact iff_of_true (ownSessionsSpared_changeRow spared) trivial
  | testConnection id result =>
      obtain rfl := Option.some.inj stepped
      exact iff_of_true (ownSessionsSpared_changeRow spared) trivial
  | postKill surroundings tables request user =>
      obtain rfl := Option.some.inj stepped
      rw [← spared_killRecord]
      simp only [OwnSessionsSpared, List.forall_mem_append, List.forall_mem_singleton]
      exact and_iff_right spared

theorem own_sessions_spared_iff (begins : start.kills = [])
    (ran : run step start actions = some state) :
    Throughout step OwnSessionsSpared start actions ↔ Along step GuardedKill start actions := by
  have initial : OwnSessionsSpared start := by simp [OwnSessionsSpared, begins]
  have preserved : ∀ state action next, True → step state action = some next → True :=
    fun _ _ _ _ _ => trivial
  exact throughout_iff_along preserved
    (fun _ _ _ _ spared stepped => ownSessionsSpared_step spared stepped) trivial initial ran

end Runs

section Readable

structure Readable (row : InstanceRow) : Prop where
  collect : ∃ dsn, row.encryptedCollectDsn = encryptConnectionString dsn
  kill : ∀ stored ∈ row.encryptedKillDsn, ∃ dsn, stored = encryptConnectionString dsn

variable {row changed : InstanceRow} {start state : State} {actions : List Action}

theorem readable_createInstance (drivers : Option (List String)) (id : Uuid) (now : Timestamp)
    (data : InstanceCreate) : Readable (createInstance drivers id now data).1 := by
  refine ⟨⟨_, rfl⟩, ?_⟩
  intro stored member
  obtain ⟨dsn, -, rfl⟩ := Option.map_eq_some_iff.mp member
  exact ⟨dsn, rfl⟩

theorem readable_updateInstance {drivers : Option (List String)} {data : InstanceUpdate}
    (readable : Readable row) (updated : updateInstance drivers data row = some changed) :
    Readable changed := by
  obtain ⟨middle, set, rfl⟩ := Option.map_eq_some_iff.mp updated
  obtain ⟨collect, kill⟩ := setFields_dsns set
  constructor
  · simp only [updatedCollectDsn]
    split
    · exact ⟨_, rfl⟩
    · exact collect ▸ readable.collect
    · split
      · exact ⟨_, rfl⟩
      · exact collect ▸ readable.collect
  · intro stored member
    simp only [updatedKillDsn] at member
    split at member
    · exact readable.kill stored (kill ▸ member)
    · obtain ⟨dsn, -, rfl⟩ := Option.map_eq_some_iff.mp member
      exact ⟨dsn, rfl⟩

variable {next : State} {action : Action}

def AllReadable (state : State) : Prop := ∀ id row, state.instances id = some row → Readable row

theorem allReadable_update {id : Uuid} (readable : AllReadable state) (own : Readable row) :
    AllReadable { state with instances := Function.update state.instances id (some row) } := by
  intro other stored found
  by_cases same : other = id
  · subst same
    simp only [Function.update_self, Option.some.injEq] at found
    exact found ▸ own
  · simp only [Function.update_of_ne same] at found
    exact readable other stored found

theorem allReadable_changeRow {id : Uuid} {change : InstanceRow → Option InstanceRow}
    (readable : AllReadable state)
    (keeps : ∀ row changed, Readable row → change row = some changed → Readable changed) :
    AllReadable (changeRow state id change) := by
  unfold changeRow
  split
  next => exact readable
  next changed found =>
    obtain ⟨row, stored, made⟩ := Option.bind_eq_some_iff.mp found
    exact allReadable_update readable (keeps row changed (readable id row stored) made)

theorem allReadable_step (readable : AllReadable state) (stepped : step state action = some next) :
    AllReadable next := by
  cases action with
  | create drivers id now data =>
      obtain rfl := Option.some.inj stepped
      split
      next => exact readable
      next =>
        intro other row found
        exact allReadable_update readable (readable_createInstance drivers id now data) other row
          found
  | update drivers id data =>
      obtain rfl := Option.some.inj stepped
      exact allReadable_changeRow readable fun row changed => readable_updateInstance
  | delete id =>
      obtain rfl := Option.some.inj stepped
      refine allReadable_changeRow readable ?_
      intro row changed own made
      obtain rfl := Option.some.inj made
      exact ⟨own.collect, own.kill⟩
  | testConnection id result =>
      obtain rfl := Option.some.inj stepped
      refine allReadable_changeRow readable ?_
      intro row changed own made
      obtain rfl := Option.some.inj made
      unfold recordConnectionTest
      split <;> exact ⟨own.collect, own.kill⟩
  | postKill surroundings tables request user =>
      obtain rfl := Option.some.inj stepped
      exact readable

theorem stored_strings_readable (readable : AllReadable start)
    (ran : run step start actions = some state) : AllReadable state :=
  run_invariant (fun _ _ _ holds stepped => allReadable_step holds stepped) readable ran

end Readable

section Monitor

def noInstances : State := ⟨fun _ => none, fun _ => none, []⟩

def salesInstance (username : String) (named : lengthWithin 1 128 username = true) :
    InstanceCreate where
  name := "sales"
  host := "sql01"
  username := some username
  password := some "secret"
  valid := by simp [InstanceCreateFields.accepted, named]; decide

def sessionOf (loginName : String) : SnapshotTables :=
  frameOfRow
    { sessionId := some 60
      loginName := some loginName
      sessionStatus := some "running" }

def createAndKill (username : String) (named : lengthWithin 1 128 username = true) : List Action :=
  [.create none 7 0 (salesInstance username named),
    .postKill killSurroundings (sessionOf username) killRequest dbaUser]

theorem ownAccounts_salesInstance (username : String)
    (named : lengthWithin 1 128 username = true) :
    ownAccounts (createInstance none 7 0 (salesInstance username named)).1 = [username] := by
  have nonempty : username ≠ "" := by
    rintro rfl
    exact absurd named (by decide)
  have stored := @storedAccount_create none 7 0 (salesInstance username named) rfl
  have same : orText (salesInstance username named).username "" = username := by
    simp [salesInstance, orText, Option.filter, nonempty]
  rw [same] at stored
  simp only [ownAccounts, Option.toList_some, List.singleton_append, List.filterMap_cons, stored]
  rfl

theorem own_sessions_spared_iff_named :
    Throughout step OwnSessionsSpared noInstances (createAndKill "sqlmon_collect" (by decide)) := by
  have spared := @own_sessions_spared_iff noInstances _
    (createAndKill "sqlmon_collect" (by decide)) rfl rfl
  refine spared.mpr ?_
  rw [createAndKill, along_cons rfl, along_cons rfl]
  refine ⟨trivial, ?_, ?_⟩
  · intro row session account stored checked opened
    obtain rfl := Option.some.inj (stored.symm.trans rfl)
    have own := ownAccounts_salesInstance "sqlmon_collect" (by decide)
    have configured := opened.configured
    rw [own, List.mem_singleton] at configured
    subst configured
    exact ⟨by decide, by decide, by decide, by decide, rfl⟩
  · intro before action after middle split
    simp at split

theorem own_session_killed :
    ∃ final record row session,
      run step noInstances (createAndKill "monitor" (by decide)) = some final ∧
        record ∈ final.kills ∧ record.row = some row ∧ record.session = some session ∧
        OpenedBy record.mapping row session "monitor" ∧ record.outcome.executorCalls = [(7, 60)] ∧
        ¬ Throughout step OwnSessionsSpared noInstances (createAndKill "monitor" (by decide)) := by
  let created := createInstance none 7 0 (salesInstance "monitor" (by decide))
  let stored := storeNew noInstances created
  let record := killRecord stored killSurroundings (sessionOf "monitor") killRequest dbaUser
  have ran : run step noInstances (createAndKill "monitor" (by decide)) =
      some { stored with kills := stored.kills ++ [record] } := rfl
  obtain ⟨session, checked, login⟩ : ∃ session, record.session = some session ∧
      session.loginName = some "monitor" := ⟨_, rfl, rfl⟩
  have opened : OpenedBy asciiCase created.1 session "monitor" := by
    refine ⟨?_, "monitor", login, rfl⟩
    rw [ownAccounts_salesInstance]
    exact List.mem_singleton.mpr rfl
  have called : record.outcome.executorCalls = [(7, 60)] := by decide
  have member : record ∈ stored.kills ++ [record] := by simp
  refine ⟨_, record, created.1, session, ran, member, rfl, checked, opened, called, ?_⟩
  intro throughout
  have spared := throughout _ [] _ (by simp) ran
  have refused := spared record member created.1 session "monitor" rfl checked opened
  simp [refused.uncalled] at called

end Monitor

end SqlMonitor.KillAccounts
