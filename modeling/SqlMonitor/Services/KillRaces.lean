import SqlMonitor.Collector.FrameConsistency
import SqlMonitor.Collector.ServerSessions
import SqlMonitor.Services.Kill

set_option autoImplicit false

namespace SqlMonitor.KillRaces

open Services Collector Dmv TransitionSystem

abbrev CycleId := Nat

abbrev RequestId := Nat

/-- What a query for the sessions returned, and how many sessions had ended before it. -/
structure Answer where
  instanceId : Uuid
  rows : List SessionRequestRow
  readAt : Nat

structure CheckedRequest where
  request : KillRequest
  user : User
  session : Option SessionSnapshot
  target : KillTarget

/-- An answered request, with the connection that had the id when it was answered. -/
structure KillRecord where
  request : KillRequest
  mapping : CaseMapping
  session : Option SessionSnapshot
  holder : Option Connection
  outcome : KillOutcome

structure State where
  collector : CollectorState
  servers : Uuid → Server
  -- The ids of the sessions that have ended, in order.
  endings : List (Uuid × Int)
  answers : CycleId → Option Answer
  -- For every frame, how many sessions had ended when its rows were read.
  reads : List (FrameKey × Nat)
  requests : RequestId → Option CheckedRequest
  kills : List KillRecord

inductive Action where
  | sessionStarts (instanceId : Uuid) (session : DmExecSession)
  | sessionEnds (instanceId : Uuid) (sessionId : Int)
  -- Statuses, requests and counters change, but nobody comes or goes.
  | sessionsWork (instanceId : Uuid) (server : Server)
  | queryReturns (cycle : CycleId) (instanceId : Uuid) (rows : List SessionRequestRow)
  | collect (cycle : CycleId) (call : Call)
  | receive (id : RequestId) (surroundings : KillSurroundings) (request : KillRequest) (user : User)
  | proceed (id : RequestId) (surroundings : KillSurroundings)

section Steps

variable (env : Environment) (state : State)

def setServer (instanceId : Uuid) (server : Server) : State :=
  { state with servers := Function.update state.servers instanceId server }

def startSession (instanceId : Uuid) (session : DmExecSession) : Option State :=
  if unused : session.sessionId ∉ (state.servers instanceId).sessions.map DmExecSession.sessionId then
    some (setServer state instanceId ((state.servers instanceId).startSession session unused))
  else none

def endSession (instanceId : Uuid) (sessionId : Int) : State :=
  { setServer state instanceId ((state.servers instanceId).endSession sessionId) with
    endings := state.endings ++ [(instanceId, sessionId)] }

def answerQuery (cycle : CycleId) (instanceId : Uuid) (rows : List SessionRequestRow) : State :=
  { state with
    answers :=
      Function.update state.answers cycle (some ⟨instanceId, rows, state.endings.length⟩) }

-- The query for the sessions raises or returns what the server answered it.
def answering (answer : Option Answer) (call : Call) : Call :=
  { call with
    attempt :=
      { call.attempt with
        clientFactory := fun dsn =>
          (call.attempt.clientFactory dsn).map fun client =>
            { client with
              sessionRequestRows :=
                client.sessionRequestRows.bind fun _ => answer.map Answer.rows } } }

def addedReads (tables next : SnapshotTables) (readAt : Nat) : List (FrameKey × Nat) :=
  (next.frames.drop tables.frames.length).map fun frame => (frame.frame, readAt)

def collected (cycle : CycleId) (answer : Option Answer) (collector : CollectorState) : State :=
  { state with
    collector
    answers := Function.update state.answers cycle none
    reads := state.reads ++
      (answer.map fun answer =>
        addedReads state.collector.tables collector.tables answer.readAt).getD [] }

def collectAnswer (cycle : CycleId) (call : Call) : Option State :=
  let answer := state.answers cycle
  if answer.all (·.instanceId = call.instanceId) then
    (collectCall env state.collector (answering answer call)).map (collected state cycle answer)
  else none

def hasInstance (id : Uuid) : Bool := (state.collector.instances id).isSome

def holderOf (request : KillRequest) : Option Connection :=
  (state.servers request.instanceId).holder request.sessionId

def checkedBy (request : KillRequest) : Option SessionSnapshot :=
  checkedSession state.collector.tables request.instanceId request.sessionId

def targetOf (request : KillRequest) : Option KillTarget :=
  buildKillTarget state.collector.tables request.instanceId request.sessionId

def answered (request : KillRequest) (mapping : CaseMapping) (session : Option SessionSnapshot)
    (outcome : KillOutcome) : State :=
  { state with
    kills := state.kills ++ [⟨request, mapping, session, holderOf state request, outcome⟩] }

def admittedTarget (request : KillRequest) (user : User) : Option KillTarget :=
  if user.role ∈ killRoles ∧ hasInstance state request.instanceId then targetOf state request
  else none

def receive (id : RequestId) (surroundings : KillSurroundings) (request : KillRequest)
    (user : User) : State :=
  match admittedTarget state request user with
  | none =>
    answered state request surroundings.mapping (checkedBy state request)
      (postKill surroundings (hasInstance state) state.collector.tables request user)
  | some target =>
    { state with
      requests :=
        Function.update state.requests id (some ⟨request, user, checkedBy state request, target⟩) }

def proceed (id : RequestId) (surroundings : KillSurroundings) (checked : CheckedRequest) : State :=
  { answered state checked.request surroundings.mapping checked.session
      (killSession surroundings checked.target checked.request.reason checked.user) with
    requests := Function.update state.requests id none }

def step : Action → Option State
  | .sessionStarts instanceId session => startSession state instanceId session
  | .sessionEnds instanceId sessionId =>
    if sessionId ∈ (state.servers instanceId).sessions.map DmExecSession.sessionId then
      some (endSession state instanceId sessionId)
    else none
  | .sessionsWork instanceId server =>
    if server.connections = (state.servers instanceId).connections then
      some (setServer state instanceId server)
    else none
  | .queryReturns cycle instanceId rows =>
    if rows.Perm (state.servers instanceId).sessionRequestQuery then
      some (answerQuery state cycle instanceId rows)
    else none
  | .collect cycle call => collectAnswer env state cycle call
  | .receive id surroundings request user =>
    if state.requests id = none then some (receive state id surroundings request user) else none
  | .proceed id surroundings => (state.requests id).map (proceed state id surroundings)

theorem killSession_at_once {request : KillRequest} {user : User} {target : KillTarget}
    (surroundings : KillSurroundings) (admitted : admittedTarget state request user = some target) :
    killSession surroundings target request.reason user =
      postKill surroundings (hasInstance state) state.collector.tables request user := by
  obtain ⟨⟨allowed, known⟩, built⟩ := Option.ite_none_right_eq_some.mp admitted
  have found : buildKillTarget state.collector.tables request.instanceId request.sessionId =
      some target := built
  rw [postKill_of_allowed allowed known, found]
  rfl

structure Initial : Prop where
  rows : state.collector.tables.sessions = []
  answers : ∀ cycle, state.answers cycle = none
  requests : ∀ id, state.requests id = none
  kills : state.kills = []

end Steps

section Transitions

variable (env : Environment) (state : State)

inductive Transition : Action → State → Prop
  | sessionStarts (instanceId : Uuid) {session : DmExecSession}
      (unused : session.sessionId ∉
        (state.servers instanceId).sessions.map DmExecSession.sessionId) :
      Transition (.sessionStarts instanceId session)
        (setServer state instanceId ((state.servers instanceId).startSession session unused))
  | sessionEnds (instanceId : Uuid) (sessionId : Int) :
      Transition (.sessionEnds instanceId sessionId) (endSession state instanceId sessionId)
  | sessionsWork {instanceId : Uuid} {server : Server}
      (kept : server.connections = (state.servers instanceId).connections) :
      Transition (.sessionsWork instanceId server) (setServer state instanceId server)
  | queryReturns (cycle : CycleId) {instanceId : Uuid} {rows : List SessionRequestRow}
      (returned : (state.servers instanceId).Returns rows) :
      Transition (.queryReturns cycle instanceId rows) (answerQuery state cycle instanceId rows)
  | collect {cycle : CycleId} {call : Call} {collector : CollectorState}
      (own : ∀ answer, state.answers cycle = some answer → answer.instanceId = call.instanceId)
      (called : collectCall env state.collector (answering (state.answers cycle) call) =
        some collector) :
      Transition (.collect cycle call) (collected state cycle (state.answers cycle) collector)
  | receive (id : RequestId) (surroundings : KillSurroundings) (request : KillRequest)
      (user : User) :
      Transition (.receive id surroundings request user)
        (receive state id surroundings request user)
  | proceed {id : RequestId} (surroundings : KillSurroundings) {checked : CheckedRequest}
      (found : state.requests id = some checked) :
      Transition (.proceed id surroundings) (proceed state id surroundings checked)

variable {env state} {next : State} {action : Action}

theorem transition_of_step (stepped : step env state action = some next) :
    Transition env state action next := by
  cases action with
  | sessionStarts instanceId session =>
      simp only [step, startSession] at stepped
      split at stepped
      next unused =>
        obtain rfl := Option.some.inj stepped
        exact .sessionStarts instanceId unused
      next => simp at stepped
  | sessionEnds instanceId sessionId =>
      obtain ⟨-, rfl⟩ := of_guarded stepped
      exact .sessionEnds instanceId sessionId
  | sessionsWork instanceId server =>
      obtain ⟨kept, rfl⟩ := of_guarded stepped
      exact .sessionsWork kept
  | queryReturns cycle instanceId rows =>
      obtain ⟨returned, rfl⟩ := of_guarded stepped
      exact .queryReturns cycle returned
  | collect cycle call =>
      obtain ⟨own, made⟩ := Option.ite_none_right_eq_some.mp stepped
      obtain ⟨collector, called, rfl⟩ := Option.map_eq_some_iff.mp made
      refine .collect ?_ called
      intro answer found
      simpa [found] using own
  | receive id surroundings request user =>
      obtain ⟨-, rfl⟩ := of_guarded stepped
      exact .receive id surroundings request user
  | proceed id surroundings =>
      obtain ⟨checked, found, rfl⟩ := Option.map_eq_some_iff.mp stepped
      exact .proceed surroundings found

end Transitions

end SqlMonitor.KillRaces
