import SqlMonitor.Services.KillRaces

set_option autoImplicit false

namespace SqlMonitor.KillRaces

open Services Collector Dmv TransitionSystem

def connectionOf (session : SessionSnapshot) : Connection := ⟨session.loginName, session.loginTime⟩

structure Refused (outcome : KillOutcome) : Prop where
  uncalled : outcome.executorCalls = []
  audited : ∀ audit, outcome.audit = some audit → audit.result = .rejected
  answered : ∀ body, outcome.reply = .response body → body.result = .rejected

/-- The executor is called for the connection whose row passed the guards and is audited. -/
structure KillRecord.HitsChecked (record : KillRecord) (session : SessionSnapshot)
    (target : KillTarget) : Prop where
  called : record.outcome.executorCalls = [(record.request.instanceId, record.request.sessionId)]
  checked : record.session = some session
  holder : record.holder = some (connectionOf session)
  reads : target.ReadFrom record.request.instanceId record.request.sessionId session
  login : isPlatformAccount record.mapping session.loginName = false
  status : isTerminal record.mapping session.status = false
  audited : ∀ audit, record.outcome.audit = some audit →
    audit.beforeSnapshot = target.beforeSnapshot

def KillRecord.Right (record : KillRecord) : Prop :=
  (∃ session target, record.HitsChecked session target) ∨ Refused record.outcome

def KillsChecked (state : State) : Prop := ∀ record ∈ state.kills, record.Right

/-- Since the frame of the checked row was read, the session has not ended. -/
def EndedSince (state : State) (checked : CheckedRequest) (session : SessionSnapshot) : Prop :=
  ∃ readAt, (session.frame, readAt) ∈ state.reads ∧
    (checked.request.instanceId, checked.request.sessionId) ∈ state.endings.drop readAt

def UnendedKill (state : State) : Action → Prop
  | .proceed id surroundings =>
    ∀ checked session, state.requests id = some checked → checked.session = some session →
      validateKillTarget surroundings.mapping checked.target checked.request.reason
        surroundings.minKillableSessionId = .ok () → ¬ EndedSince state checked session
  | _ => True

section Holding

structure StillHolds (state : State) (instanceId : Uuid) (readAt : Nat) (sessionId : Option Int)
    (connection : Connection) : Prop where
  before : readAt ≤ state.endings.length
  holder : ∀ id, sessionId = some id → (instanceId, id) ∉ state.endings.drop readAt →
    (state.servers instanceId).holder id = some connection

variable {state next : State} {instanceId other : Uuid} {readAt : Nat} {sessionId : Option Int}
  {connection : Connection}

theorem StillHolds.of_same (holds : StillHolds state instanceId readAt sessionId connection)
    (servers : next.servers = state.servers) (endings : next.endings = state.endings) :
    StillHolds next instanceId readAt sessionId connection := by
  refine ⟨endings ▸ holds.before, ?_⟩
  intro id named unended
  rw [servers]
  exact holds.holder id named (endings ▸ unended)

theorem StillHolds.of_setServer {server : Server}
    (holds : StillHolds state instanceId readAt sessionId connection)
    (kept : ∀ id connection, (state.servers other).holder id = some connection →
      server.holder id = some connection) :
    StillHolds (setServer state other server) instanceId readAt sessionId connection := by
  refine ⟨holds.before, ?_⟩
  intro id named unended
  have held := holds.holder id named unended
  by_cases same : instanceId = other
  · subst same
    simpa only [setServer, Function.update_self] using kept id connection held
  · simpa only [setServer, Function.update_of_ne same] using held

theorem StillHolds.of_endSession {ended : Int}
    (holds : StillHolds state instanceId readAt sessionId connection) :
    StillHolds (endSession state other ended) instanceId readAt sessionId connection := by
  have grown : (endSession state other ended).endings.drop readAt =
      state.endings.drop readAt ++ [(other, ended)] :=
    List.drop_append_of_le_length holds.before
  refine ⟨?_, ?_⟩
  · have longer : state.endings.length ≤ (endSession state other ended).endings.length := by
      simp [endSession]
    exact holds.before.trans longer
  · intro id named unended
    rw [grown, List.mem_append, not_or] at unended
    have held := holds.holder id named unended.1
    by_cases same : instanceId = other
    · subst same
      have apart : id ≠ ended := by
        rintro rfl
        exact unended.2 (List.mem_singleton.mpr rfl)
      simpa only [endSession, setServer, Function.update_self,
        holder_endSession apart] using held
    · simpa only [endSession, setServer, Function.update_of_ne same] using held

def Traced (state : State) (session : SessionSnapshot) : Prop :=
  ∃ readAt, (session.frame, readAt) ∈ state.reads ∧
    StillHolds state session.frame.instanceId readAt session.sessionId (connectionOf session)

structure Extends (state next : State) : Prop where
  reads : ∀ read ∈ state.reads, read ∈ next.reads
  holds : ∀ instanceId readAt sessionId connection,
    StillHolds state instanceId readAt sessionId connection →
    StillHolds next instanceId readAt sessionId connection

theorem Extends.traced (extension : Extends state next) {session : SessionSnapshot}
    (traced : Traced state session) : Traced next session := by
  obtain ⟨readAt, read, holds⟩ := traced
  exact ⟨readAt, extension.reads _ read, extension.holds _ _ _ _ holds⟩

end Holding

section Invariant

structure CheckedRequest.Sound (state : State) (checked : CheckedRequest)
    (session : SessionSnapshot) : Prop where
  row : checked.session = some session
  reads : checked.target.ReadFrom checked.request.instanceId checked.request.sessionId session
  instanceId : session.frame.instanceId = checked.request.instanceId
  sessionId : session.sessionId = some checked.request.sessionId
  traced : Traced state session

structure Tracks (state : State) : Prop where
  answers : ∀ cycle answer, state.answers cycle = some answer → ∀ row ∈ answer.rows,
    StillHolds state answer.instanceId answer.readAt row.sessionId row.connection
  rows : ∀ session ∈ state.collector.tables.sessions, Traced state session
  requests : ∀ id checked, state.requests id = some checked → ∃ session, checked.Sound state session

variable {env : Environment} {state next : State} {action : Action} {call : Call}
  {session : SessionSnapshot} {request : KillRequest}

theorem tracks_initial (initial : Initial state) : Tracks state := by
  refine ⟨?_, ?_, ?_⟩
  · intro cycle answer found
    simp [initial.answers] at found
  · intro session member
    simp [initial.rows] at member
  · intro id checked found
    simp [initial.requests] at found

theorem CheckedRequest.Sound.extend {checked : CheckedRequest} (sound : checked.Sound state session)
    (extension : Extends state next) : checked.Sound next session :=
  ⟨sound.row, sound.reads, sound.instanceId, sound.sessionId, extension.traced sound.traced⟩

theorem of_update_eq_some {K V : Type} [DecidableEq K] {entries : K → Option V} {key other : K}
    {value : Option V} {found : V}
    (updated : Function.update entries key value other = some found) :
    entries other = some found ∨ value = some found := by
  by_cases same : other = key
  · subst same
    rw [Function.update_self] at updated
    exact Or.inr updated
  · rw [Function.update_of_ne same] at updated
    exact Or.inl updated

theorem Tracks.extend (tracks : Tracks state) (extension : Extends state next)
    (answers : ∀ cycle answer, next.answers cycle = some answer →
      state.answers cycle = some answer ∨ ∀ row ∈ answer.rows,
        StillHolds next answer.instanceId answer.readAt row.sessionId row.connection)
    (rows : ∀ session ∈ next.collector.tables.sessions,
      session ∈ state.collector.tables.sessions ∨ Traced next session)
    (requests : ∀ id checked, next.requests id = some checked →
      state.requests id = some checked ∨ ∃ session, checked.Sound next session) : Tracks next := by
  refine ⟨?_, ?_, ?_⟩
  · intro cycle answer found row member
    rcases answers cycle answer found with old | new
    · exact extension.holds _ _ _ _ (tracks.answers cycle answer old row member)
    · exact new row member
  · intro session member
    rcases rows session member with old | new
    · exact extension.traced (tracks.rows session old)
    · exact new
  · intro id checked found
    rcases requests id checked found with old | new
    · obtain ⟨session, sound⟩ := tracks.requests id checked old
      exact ⟨session, sound.extend extension⟩
    · exact new

theorem Tracks.of_servers (tracks : Tracks state) (extension : Extends state next)
    (answers : next.answers = state.answers) (collector : next.collector = state.collector)
    (requests : next.requests = state.requests) : Tracks next := by
  refine tracks.extend extension ?_ ?_ ?_
  · intro cycle answer found
    exact Or.inl (answers ▸ found)
  · intro session member
    exact Or.inl (collector ▸ member)
  · intro id checked found
    exact Or.inl (requests ▸ found)

theorem extends_of_same (servers : next.servers = state.servers)
    (endings : next.endings = state.endings) (reads : ∀ read ∈ state.reads, read ∈ next.reads) :
    Extends state next :=
  ⟨reads, fun _ _ _ _ holds => holds.of_same servers endings⟩

theorem traced_of_checkedBy (tracks : Tracks state)
    (checked : checkedBy state request = some session) :
    session.frame.instanceId = request.instanceId ∧ session.sessionId = some request.sessionId ∧
      Traced state session := by
  obtain ⟨frame, latest, found⟩ := Option.bind_eq_some_iff.mp checked
  obtain ⟨member, inFrame, named⟩ := getSession_spec found
  have own := (SnapshotRepository.mem_framesOf.mp (SnapshotRepository.mem_of_latestOf latest)).2
  exact ⟨by rw [inFrame, own], named, tracks.rows session member⟩

theorem sessions_of_answering {answer : Option Answer} {row : Instance} {gathered : Collected}
    (made : collectFrame env call.instanceId (answering answer call).attempt row = some gathered) :
    ∃ given, answer = some given ∧ gathered.frame.sessions =
        given.rows.map (sessionSnapshot env.texts gathered.frame.snapshotFrame.frame) ∧
      gathered.frame.snapshotFrame.frame.instanceId = call.instanceId := by
  simp only [collectFrame, answering, Option.bind_eq_bind, Option.bind_eq_some_iff,
    Option.map_eq_some_iff, Option.some.injEq] at made
  obtain ⟨_, -, _, ⟨client, -, rfl⟩, rows, answered, _, -, _, -, rfl⟩ := made
  obtain ⟨_, -, mapped⟩ := Option.bind_eq_some_iff.mp answered
  obtain ⟨given, found, rfl⟩ := Option.map_eq_some_iff.mp mapped
  exact ⟨given, found, sessions_eq given.rows, rfl⟩

theorem tracks_collected {cycle : CycleId} {collector : CollectorState} (tracks : Tracks state)
    (own : ∀ answer, state.answers cycle = some answer → answer.instanceId = call.instanceId)
    (called : collectCall env state.collector (answering (state.answers cycle) call) =
      some collector) :
    Tracks (collected state cycle (state.answers cycle) collector) := by
  have extension : Extends state (collected state cycle (state.answers cycle) collector) :=
    extends_of_same rfl rfl fun read member => List.mem_append_left _ member
  refine tracks.extend extension ?_ ?_ ?_
  · intro other answer found
    exact (of_update_eq_some found).imp_right nofun
  · intro session member
    rcases call_tables called with unchanged | ⟨row, gathered, made, -, stored⟩
    · refine Or.inl ?_
      simpa only [collected, unchanged] using member
    · simp only [collected, stored, storeCollected, storeFrame, List.mem_append] at member
      refine member.imp_right fun new => ?_
      obtain ⟨given, found, sessions, instanceId⟩ := sessions_of_answering made
      rw [sessions] at new
      obtain ⟨answer, inside, rfl⟩ := List.mem_map.mp new
      have held := extension.holds _ _ _ _ (tracks.answers cycle given found answer inside)
      rw [own given found, ← instanceId] at held
      refine ⟨given.readAt, ?_, held⟩
      simp [collected, found, stored, addedReads, storeCollected, storeFrame, sessionSnapshot]
  · intro id checked found
    exact Or.inl found

theorem tracks_receive {id : RequestId} {surroundings : KillSurroundings} {user : User}
    (tracks : Tracks state) : Tracks (receive state id surroundings request user) := by
  unfold receive
  split
  next => exact tracks.of_servers (extends_of_same rfl rfl fun _ member => member) rfl rfl rfl
  next target admitted =>
    obtain ⟨-, built⟩ := Option.ite_none_right_eq_some.mp admitted
    obtain ⟨session, read, reads⟩ := checked_of_buildKillTarget built
    obtain ⟨instanceId, sessionId, traced⟩ := traced_of_checkedBy tracks read
    have extension : Extends state { state with
        requests := Function.update state.requests id
          (some ⟨request, user, checkedBy state request, target⟩) } :=
      extends_of_same rfl rfl fun _ member => member
    refine tracks.extend extension (fun _ _ found => Or.inl found) (fun _ member => Or.inl member) ?_
    intro other checked found
    refine (of_update_eq_some found).imp_right fun same => ?_
    obtain rfl := Option.some.inj same
    exact ⟨session, read, reads, instanceId, sessionId, extension.traced traced⟩

theorem tracks_proceed {id : RequestId} {surroundings : KillSurroundings}
    {checked : CheckedRequest} (tracks : Tracks state) :
    Tracks (proceed state id surroundings checked) := by
  refine tracks.extend (extends_of_same rfl rfl fun _ member => member)
    (fun _ _ found => Or.inl found) (fun _ member => Or.inl member) ?_
  intro other remembered found
  exact (of_update_eq_some found).imp_right nofun

theorem tracks_queryReturns {instanceId : Uuid} {rows : List SessionRequestRow} (cycle : CycleId)
    (tracks : Tracks state) (returned : (state.servers instanceId).Returns rows) :
    Tracks (answerQuery state cycle instanceId rows) := by
  refine tracks.extend (extends_of_same rfl rfl fun _ member => member) ?_
    (fun _ member => Or.inl member) (fun _ _ found => Or.inl found)
  intro other answer found
  refine (of_update_eq_some found).imp_right fun new row member => ?_
  obtain rfl := Option.some.inj new
  refine ⟨le_rfl, ?_⟩
  intro id named _
  exact returned.holder member named

theorem tracks_step (tracks : Tracks state) (transition : Transition env state action next) :
    Tracks next := by
  cases transition with
  | sessionStarts instanceId unused =>
      refine tracks.of_servers ⟨fun _ member => member, ?_⟩ rfl rfl rfl
      intro _ _ _ _ holds
      exact holds.of_setServer fun _ _ held => holder_startSession held
  | sessionEnds instanceId sessionId =>
      refine tracks.of_servers ⟨fun _ member => member, ?_⟩ rfl rfl rfl
      intro _ _ _ _ holds
      exact holds.of_endSession
  | sessionsWork kept =>
      refine tracks.of_servers ⟨fun _ member => member, ?_⟩ rfl rfl rfl
      intro _ _ _ _ holds
      exact holds.of_setServer fun _ _ held => (holder_of_connections kept).trans held
  | queryReturns cycle returned => exact tracks_queryReturns cycle tracks returned
  | collect own called => exact tracks_collected tracks own called
  | receive id surroundings request user => exact tracks_receive tracks
  | proceed surroundings found => exact tracks_proceed tracks

end Invariant

section Kills

variable {env : Environment} {state next : State} {action : Action}
  {surroundings : KillSurroundings} {request : KillRequest} {user : User}
  {checked : CheckedRequest} {session : SessionSnapshot}

theorem refused_unaudited {reply : KillReply} (unanswered : ∀ body, reply ≠ .response body) :
    Refused ⟨[], none, reply⟩ := by
  refine ⟨rfl, ?_, ?_⟩
  · intro audit written
    simp at written
  · intro body answered
    exact absurd answered (unanswered body)

theorem refused_writeKillAudit {audit : KillAudit} {answer : KillResponse → KillReply}
    (rejected : audit.result = .rejected)
    (answers : ∀ body, answer (killResponse audit) = .response body → body.result = .rejected) :
    Refused (writeKillAudit surroundings [] audit answer) := by
  unfold writeKillAudit
  split
  next =>
    refine ⟨rfl, ?_, answers⟩
    intro written found
    exact Option.some.inj found ▸ rejected
  next => exact refused_unaudited (by simp)

theorem refused_killSession {target : KillTarget} {reason : String} {exc : KillException}
    (raised : validateKillTarget surroundings.mapping target reason
      surroundings.minKillableSessionId = .error exc) :
    Refused (killSession surroundings target reason user) := by
  obtain ⟨code, rfl⟩ := validateKillTarget_error raised
  simp only [killSession, attemptKill, raised]
  refine refused_writeKillAudit rfl ?_
  intro body answered
  exact KillReply.response.inj answered ▸ rfl

theorem refused_of_not_admitted (turned : admittedTarget state request user = none) :
    Refused (postKill surroundings (hasInstance state) state.collector.tables request user) := by
  unfold postKill
  split
  next => exact refused_unaudited (by simp)
  next allowed =>
    split
    next => exact refused_unaudited (by simp)
    next known =>
      have absent : buildKillTarget state.collector.tables request.instanceId request.sessionId =
          none := by
        have admitted : user.role ∈ killRoles ∧ hasInstance state request.instanceId = true := by
          simpa using And.intro (not_not.mp allowed) known
        simpa only [admittedTarget, if_pos admitted, targetOf] using turned
      simp only [absent, killTargetOrReject, auditRejectedKillRequest]
      refine refused_writeKillAudit rfl ?_
      intro body answered
      simp at answered

theorem beforeSnapshot_killSession {target : KillTarget} {reason : String} {audit : KillAudit}
    (written : (killSession surroundings target reason user).audit = some audit) :
    audit.beforeSnapshot = target.beforeSnapshot := by
  simp only [killSession, writeKillAudit] at written
  split at written
  next => exact Option.some.inj written ▸ rfl
  next => simp at written

theorem right_proceed (sound : checked.Sound state session)
    (unended : validateKillTarget surroundings.mapping checked.target checked.request.reason
      surroundings.minKillableSessionId = .ok () → ¬ EndedSince state checked session) :
    KillRecord.Right ⟨checked.request, surroundings.mapping, checked.session,
      holderOf state checked.request,
      killSession surroundings checked.target checked.request.reason checked.user⟩ := by
  cases guarded : validateKillTarget surroundings.mapping checked.target checked.request.reason
    surroundings.minKillableSessionId with
  | error exc => exact Or.inr (refused_killSession guarded)
  | ok =>
      obtain ⟨-, -, login, status⟩ := validateKillTarget_eq_ok.mp guarded
      obtain ⟨readAt, read, holds⟩ := sound.traced
      have alive : (checked.request.instanceId, checked.request.sessionId) ∉
          state.endings.drop readAt := fun ended => unended guarded ⟨readAt, read, ended⟩
      have held := holds.holder checked.request.sessionId sound.sessionId
      rw [sound.instanceId] at held
      refine Or.inl ⟨session, checked.target, ?_, sound.row, held alive, sound.reads, ?_, ?_, ?_⟩
      · rw [executorCalls_killSession, if_pos guarded, sound.reads.instanceId,
          sound.reads.sessionId]
      · rw [← sound.reads.loginName]
        exact login
      · rw [← sound.reads.status]
        exact status
      · exact fun audit written => beforeSnapshot_killSession written

theorem killsChecked_answered {session : Option SessionSnapshot} {mapping : CaseMapping}
    {outcome : KillOutcome} (before : KillsChecked state)
    (right : KillRecord.Right ⟨request, mapping, session, holderOf state request, outcome⟩) :
    KillsChecked (answered state request mapping session outcome) := by
  intro record member
  rcases List.mem_append.mp member with old | new
  · exact before record old
  · obtain rfl := List.mem_singleton.mp new
    exact right

theorem killsChecked_step (tracks : Tracks state) (before : KillsChecked state)
    (unended : UnendedKill state action) (transition : Transition env state action next) :
    KillsChecked next := by
  cases transition with
  | receive id surroundings request user =>
      unfold receive
      split
      next turned => exact killsChecked_answered before (Or.inr (refused_of_not_admitted turned))
      next => exact before
  | proceed surroundings found =>
      obtain ⟨session, sound⟩ := tracks.requests _ _ found
      exact killsChecked_answered before
        (right_proceed sound (unended _ session found sound.row))
  -- The other steps answer no request.
  | _ => exact before

theorem killed_session_was_checked (env : Environment) {start : State} {actions : List Action}
    (initial : Initial start) (unended : Along (step env) UnendedKill start actions) :
    Throughout (step env) KillsChecked start actions := by
  have both : Throughout (step env) (fun state => Tracks state ∧
      KillsChecked state) start actions := by
    refine .of_along ?_ ⟨tracks_initial initial, ?_⟩ unended
    · intro state action next holds met stepped
      have transition := transition_of_step stepped
      exact ⟨tracks_step holds.1 transition, killsChecked_step holds.1 holds.2 met transition⟩
    · intro record member
      simp [initial.kills] at member
  exact both.mono fun _ holds => holds.2

end Kills

section Staying

variable {env : Environment} {state next start : State} {action : Action} {actions : List Action}

theorem endings_step (stays : ∀ instanceId sessionId, action ≠ .sessionEnds instanceId sessionId)
    (transition : Transition env state action next) : next.endings = state.endings := by
  cases transition with
  | sessionEnds instanceId sessionId => exact absurd rfl (stays instanceId sessionId)
  | receive id surroundings request user =>
      unfold receive
      split <;> rfl
  | _ => rfl

theorem unended_of_stays (begins : start.endings = [])
    (stays : ∀ action ∈ actions, ∀ instanceId sessionId, action ≠ .sessionEnds instanceId sessionId) :
    Along (step env) UnendedKill start actions := by
  intro before action after state split ran
  have endings : state.endings = [] := by
    refine run_invariant_along (I := fun state => state.endings = [])
      (P := fun _ (action : Action) => ∀ instanceId sessionId,
        action ≠ .sessionEnds instanceId sessionId) ?_ begins ?_ ran
    · intro _ _ _ none stay stepped
      rw [endings_step stay (transition_of_step stepped), none]
    · intro earlier taken later _ inside _
      refine stays taken ?_
      simp [split, inside]
  cases action with
  | proceed id surroundings =>
      intro checked session _ _ _ ended
      obtain ⟨readAt, -, member⟩ := ended
      simp [endings] at member
  | _ => trivial

end Staying

section Reuse

def ordersSession : DmExecSession where
  sessionId := 60
  loginName := some "orders"
  status := some "sleeping"
  loginTime := some 1

-- Another connection, with the id that the first one had.
def payrollSession : DmExecSession where
  sessionId := 60
  loginName := some "payroll"
  status := some "running"
  loginTime := some 9

def ordersServer : Server where
  sessions := [ordersSession]
  requests := []
  databaseName := fun _ => none
  sqlText := fun _ => none
  distinctSessions := by decide
  distinctRequests := by decide

def started : State where
  collector :=
    { instances := fun id => if id = 7 then some ⟨7, "dsn", .online, 0⟩ else none
      statuses := fun id => if id = 7 then some (newCollectStatus 7) else none
      tables := .empty
      history := [] }
  servers := fun _ => ordersServer
  endings := []
  answers := fun _ => none
  reads := []
  requests := fun _ => none
  kills := []

def collectCallOf (time : Timestamp) : Call where
  instanceId := 7
  inTransaction := true
  attempt :=
    { snapshotTime := time
      finishedAt := time
      failedAt := time
      frameId := 1
      decryptConnectionString := some
      clientFactory := fun _ => some ⟨some [], some [], some []⟩
      succeeds := fun _ => true
      commitSucceeds := true
      failureCommitSucceeds := true }

def collectOrders : List Action :=
  [.queryReturns 0 7 ordersServer.sessionRequestQuery, .collect 0 (collectCallOf 5)]

def receiveAndProceed : List Action :=
  [.receive 1 killSurroundings killRequest dbaUser, .proceed 1 killSurroundings]

def reuseId : List Action := [.sessionEnds 7 60, .sessionStarts 7 payrollSession]

theorem initial_started : Initial started := ⟨rfl, fun _ => rfl, fun _ => rfl, rfl⟩

def KillRecord.told (record : KillRecord) :
    List (Uuid × Int) × Option Connection × Option Connection :=
  (record.outcome.executorCalls, record.holder, record.session.map connectionOf)

def told (actions : List Action) :
    Option (List (List (Uuid × Int) × Option Connection × Option Connection)) :=
  (run (step plainEnvironment) started actions).map fun state => state.kills.map KillRecord.told

theorem killed_session_was_checked_stays :
    told (collectOrders ++ receiveAndProceed) =
        some [([(7, 60)], some ⟨some "orders", some 1⟩, some ⟨some "orders", some 1⟩)] ∧
      Throughout (step plainEnvironment) KillsChecked started (collectOrders ++ receiveAndProceed) := by
  refine ⟨by decide +kernel, killed_session_was_checked plainEnvironment initial_started ?_⟩
  refine unended_of_stays rfl ?_
  simp [collectOrders, receiveAndProceed]

theorem reused_id_killed :
    told (collectOrders ++ reuseId ++ receiveAndProceed) =
        some [([(7, 60)], some ⟨some "payroll", some 9⟩, some ⟨some "orders", some 1⟩)] ∧
      ¬ Throughout (step plainEnvironment) KillsChecked started
        (collectOrders ++ reuseId ++ receiveAndProceed) := by
  have seen : told (collectOrders ++ reuseId ++ receiveAndProceed) =
      some [([(7, 60)], some ⟨some "payroll", some 9⟩, some ⟨some "orders", some 1⟩)] := by
    decide +kernel
  refine ⟨seen, ?_⟩
  intro throughout
  obtain ⟨final, ran, records⟩ := Option.map_eq_some_iff.mp seen
  obtain ⟨record, only, same⟩ := List.map_eq_singleton_iff.mp records
  obtain ⟨called, holder, checked⟩ : record.outcome.executorCalls = [(7, 60)] ∧
      record.holder = some ⟨some "payroll", some 9⟩ ∧
      record.session.map connectionOf = some ⟨some "orders", some 1⟩ := by
    simpa [KillRecord.told] using same
  have right := throughout _ [] final (List.append_nil _).symm ran record (by simp [only])
  rcases right with ⟨session, target, hits⟩ | refused
  · rw [hits.checked, Option.map_some, ← hits.holder, holder] at checked
    simp at checked
  · simp [refused.uncalled] at called

end Reuse

end SqlMonitor.KillRaces
