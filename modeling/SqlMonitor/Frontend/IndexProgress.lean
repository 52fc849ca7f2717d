import SqlMonitor.Frontend.IndexPosts
import SqlMonitor.Frontend.IndexTurns
import SqlMonitor.Services.DdlOutcomes
import SqlMonitor.Services.OfferedMaintenance

set_option autoImplicit false

namespace SqlMonitor.Frontend.IndexViews.Progress

open Services TransitionSystem AuditedDdl

section System

variable (Item : Type)

structure Form where
  kind : ViewKind Item
  request : Post Item → IndexRequest

def creation : Form MissingIndexCandidate where
  kind := missingIndexesView
  request := fun post => .create
    { instanceId := post.instanceId
      databaseName := post.target.databaseName
      schemaName := post.target.schemaName
      tableName := post.target.tableName
      keyColumns := post.target.equalityColumns ++ post.target.inequalityColumns
      includeColumns := post.target.includeColumns
      indexName := post.indexName }

def maintenance : Form IndexFragmentationItem where
  kind := indexFragmentationView
  request := fun post => .maintain (maintenanceRequest post.instanceId post.target)

structure State where
  page : Page Item
  server : NotedState
  -- The requests that the posts of the page have become; the others are of other users.
  carried : List (RequestId × Nat)
  -- The audits as they were committed, from the first state on.
  committed : List (AuditId → Option MissingIndexAudit)

inductive Action where
  | page (action : IndexViews.Action Item)
  | deliver (number : Nat) (id : RequestId) (operator : Operator) (record : Option InstanceRecord)
    (surroundings : OperationSurroundings)
  | server (action : AuditedDdl.Action)
  | answer (awaited : Nat) (id : RequestId)
  | tell (awaited : Nat) (moment : Nat)

variable {Item}

-- What only the server can say; that nothing has come back, the page finds by itself.
def saidByServer : IndexViews.Action Item → Bool
  | .operation _ (.failed _) | .audit _ .failed => false
  | .operation _ _ | .audit _ _ => true
  | _ => false

-- `get_index_audit`; an audit that is not found is a failed request.
def getIndexAudit : Option MissingIndexAudit → AuditReply
  | none => .failed
  | some audit =>
    match audit.result with
    | .running => .running
    | .success => .success
    | .failed | .rejected => .unsuccessful audit.errorMessage

variable [DecidableEq Item] (form : Form Item) (state : State Item)

def onPage (action : IndexViews.Action Item) : Option (State Item) :=
  (IndexViews.step form.kind state.page action).map fun page => { state with page }

def onServer (action : AuditedDdl.Action) : Option (State Item) :=
  (notedStep state.server action).map fun server =>
    { state with server, committed := state.committed ++ [server.state.audits] }

def step : Action Item → Option (State Item)
  | .page action => if saidByServer action then none else onPage form state action
  -- A post is delivered at most once.
  | .deliver number id operator record surroundings =>
    match state.page.posts[number]? with
    | none => none
    | some post =>
      if number ∈ state.carried.map Prod.snd then none
      else
        onServer { state with carried := state.carried ++ [(id, number)] }
          (.receive id (form.request post) operator record surroundings)
  | .server action => onServer state action
  -- At most one operation is awaited, so the one that is awaited was posted last.
  | .answer awaited id =>
    match (state.server.state.requests id).bind fun request => acceptedAs request.phase with
    | none => none
    | some auditId =>
      if (id, state.page.posts.length - 1) ∈ state.carried then
        onPage form state (.operation awaited (.running auditId))
      else none
  | .tell awaited moment =>
    match state.page.requests[awaited]?, state.committed[moment]? with
    | some (.audit auditId _), some audits =>
      onPage form state (.audit awaited (getIndexAudit (audits auditId)))
    | _, _ => none

def opened (store : InstancesStore) (server : AuditedDdl.State) : State Item where
  page := mounted store
  server := ⟨server, fun _ => none⟩
  carried := []
  committed := [server.audits]

end System

section Pages

variable {Item : Type}

def Awaiting.poll : Awaiting → Option AuditId
  | .delay auditId _ | .audit auditId _ => some auditId
  | _ => none

def Polls (page : Page Item) (auditId : AuditId) : Prop :=
  ∃ awaiting ∈ page.requests, Awaiting.poll awaiting = some auditId

def PollsWithin (page next : Page Item) : Prop := ∀ auditId, Polls next auditId → Polls page auditId

variable {kind : ViewKind Item} {page middle next : Page Item}

theorem PollsWithin.refl (page : Page Item) : PollsWithin page page := fun _ polled => polled

theorem PollsWithin.keep (within : PollsWithin page middle)
    (requests : next.requests = middle.requests) : PollsWithin page next := by
  intro auditId polled
  rw [Polls, requests] at polled
  exact within auditId polled

theorem PollsWithin.send {awaiting : IndexViews.Awaiting} (within : PollsWithin page middle)
    (silent : Awaiting.poll awaiting = none) : PollsWithin page (send middle awaiting) := by
  rintro auditId ⟨other, member, polled⟩
  rcases List.mem_append.mp member with before | new
  · exact within auditId ⟨other, before, polled⟩
  · rw [List.mem_singleton.mp new, silent] at polled
    cases polled

theorem pollsWithin_answered (page : Page Item) (number : Nat) :
    PollsWithin page (answered page number) := by
  rintro auditId ⟨awaiting, member, polled⟩
  exact ⟨awaiting, List.mem_of_mem_eraseIdx member, polled⟩

theorem PollsWithin.fetchListing (within : PollsWithin page middle) (afterOperation : Bool) :
    PollsWithin page (fetchListing middle afterOperation) := by
  unfold IndexViews.fetchListing
  split
  next =>
    refine PollsWithin.send ?_ rfl
    exact within.keep rfl
  next => exact within.keep rfl

theorem PollsWithin.refreshListing (within : PollsWithin page middle) (afterOperation : Bool) :
    PollsWithin page (refreshListing middle afterOperation) := by
  refine PollsWithin.fetchListing ?_ afterOperation
  exact within.keep rfl

theorem PollsWithin.fetchDatabases (within : PollsWithin page middle) :
    PollsWithin page (fetchDatabases middle) := by
  unfold IndexViews.fetchDatabases
  split
  next => exact within.keep rfl
  next =>
    refine PollsWithin.send ?_ rfl
    exact within.keep rfl

theorem PollsWithin.execute (within : PollsWithin page middle) (indexName : String) :
    PollsWithin page (execute kind middle indexName) := by
  unfold IndexViews.execute
  split
  next =>
    split
    next =>
      refine PollsWithin.send ?_ rfl
      exact within.keep rfl
    next => exact within
  next => exact within

theorem PollsWithin.watchers (within : PollsWithin page middle) :
    PollsWithin page (watchDatabase (watchInstance middle)) := by
  have first : PollsWithin page (watchInstance middle) := by
    unfold watchInstance
    split
    next => exact within
    next =>
      refine PollsWithin.fetchDatabases ?_
      exact within.keep rfl
  unfold watchDatabase
  split
  next => exact first
  next =>
    refine PollsWithin.fetchListing ?_ false
    exact first.keep rfl

theorem polls_operationAnswered {auditId : AuditId} (reply : OperationReply)
    (polled : Polls (operationAnswered kind page reply) auditId) :
    Polls page auditId ∨ reply = .running auditId := by
  cases reply with
  | success onlineUsed =>
      refine Or.inl (PollsWithin.refreshListing (PollsWithin.keep (.refl page) ?_) true auditId polled)
      rfl
  | running other =>
      obtain ⟨awaiting, member, polled⟩ := polled
      rcases List.mem_append.mp member with before | new
      · exact Or.inl ⟨awaiting, before, polled⟩
      · rw [List.mem_singleton.mp new] at polled
        exact Or.inr (congrArg OperationReply.running (Option.some.inj polled))
  | unsuccessful errorMessage => exact Or.inl polled
  | failed failure => exact Or.inl polled

theorem polls_auditAnswered {asked auditId : AuditId} {attempt : Nat} (reply : AuditReply)
    (polled : Polls (auditAnswered kind page asked attempt reply) auditId) :
    Polls page auditId ∨ auditId = asked := by
  cases reply with
  | running =>
      simp only [IndexViews.auditAnswered] at polled
      split at polled
      next =>
        obtain ⟨awaiting, member, polled⟩ := polled
        rcases List.mem_append.mp member with before | new
        · exact Or.inl ⟨awaiting, before, polled⟩
        · rw [List.mem_singleton.mp new] at polled
          exact Or.inr (Option.some.inj polled).symm
      next => exact Or.inl polled
  | success =>
      refine Or.inl (PollsWithin.refreshListing (PollsWithin.keep (.refl page) ?_) false auditId polled)
      rfl
  | unsuccessful errorMessage => exact Or.inl polled
  | failed => exact Or.inl polled

variable [DecidableEq Item]

theorem polls_handle {action : IndexViews.Action Item} {auditId : AuditId}
    (handled : handle kind page action = some next) (polled : Polls next auditId) :
    Polls page auditId ∨ ∃ number, action = .operation number (.running auditId) := by
  have kept : PollsWithin page next →
      Polls page auditId ∨ ∃ number, action = .operation number (.running auditId) :=
    fun within => Or.inl (within auditId polled)
  cases action with
  | selectInstance instanceId =>
      obtain rfl := Option.some.inj handled
      exact Or.inl polled
  | loadInstances =>
      obtain rfl := Option.some.inj handled
      exact kept (PollsWithin.send (.refl page) rfl)
  | instances number data =>
      refine kept ?_
      simp only [handle] at handled
      split at handled
      next mount _ =>
        cases data with
        | none =>
            obtain rfl := Option.some.inj handled
            exact pollsWithin_answered page number
        | some items =>
            obtain rfl := Option.some.inj handled
            have loaded : PollsWithin page
                { answered page number with store := page.store.fetched items } :=
              (pollsWithin_answered page number).keep rfl
            cases mount with
            | true => exact loaded.fetchDatabases
            | false => exact loaded
      next => simp at handled
  | databases number data =>
      refine kept ?_
      simp only [handle] at handled
      split at handled
      next =>
        obtain rfl := Option.some.inj handled
        exact (pollsWithin_answered page number).keep rfl
      next => simp at handled
  | selectDatabase databaseName =>
      obtain ⟨-, rfl⟩ := of_guarded handled
      exact Or.inl polled
  | listing number data =>
      refine kept ?_
      simp only [handle] at handled
      split at handled
      next =>
        obtain rfl := Option.some.inj handled
        exact (pollsWithin_answered page number).keep rfl
      next => simp at handled
  | refresh =>
      obtain ⟨-, same⟩ := Option.ite_none_left_eq_some.mp handled
      obtain rfl := Option.some.inj same
      exact kept (PollsWithin.refreshListing (.refl page) false)
  | setPage number =>
      obtain ⟨-, same⟩ := Option.ite_none_left_eq_some.mp handled
      obtain rfl := Option.some.inj same
      refine kept (PollsWithin.fetchListing (PollsWithin.keep (.refl page) ?_) false)
      rfl
  | setPageSize pageSize =>
      obtain ⟨-, same⟩ := Option.ite_none_left_eq_some.mp handled
      obtain rfl := Option.some.inj same
      refine kept (PollsWithin.fetchListing (PollsWithin.keep (.refl page) ?_) false)
      rfl
  | openDialog row =>
      obtain ⟨-, rfl⟩ := of_guarded handled
      exact Or.inl polled
  | close =>
      obtain rfl := Option.some.inj handled
      exact Or.inl polled
  | confirm indexName =>
      obtain ⟨-, rfl⟩ := of_guarded handled
      exact kept (PollsWithin.execute (.refl page) indexName)
  | operation number reply =>
      simp only [handle] at handled
      split at handled
      next =>
        obtain rfl := Option.some.inj handled
        rcases polls_operationAnswered reply polled with before | rfl
        · exact Or.inl (pollsWithin_answered page number auditId before)
        · exact Or.inr ⟨number, rfl⟩
      next => simp at handled
  | delay number =>
      simp only [handle] at handled
      split at handled
      next other attempt found =>
        obtain rfl := Option.some.inj handled
        obtain ⟨awaiting, member, polled⟩ := polled
        rcases List.mem_append.mp member with before | new
        · exact Or.inl (pollsWithin_answered page number auditId ⟨awaiting, before, polled⟩)
        · rw [List.mem_singleton.mp new] at polled
          exact Or.inl ⟨_, List.mem_of_getElem? found, polled⟩
      next => simp at handled
  | audit number reply =>
      simp only [handle] at handled
      split at handled
      next other attempt found =>
        obtain rfl := Option.some.inj handled
        rcases polls_auditAnswered reply polled with before | rfl
        · exact Or.inl (pollsWithin_answered page number auditId before)
        · exact Or.inl ⟨_, List.mem_of_getElem? found, rfl⟩
      next => simp at handled

theorem polls_step {action : IndexViews.Action Item} {auditId : AuditId}
    (stepped : IndexViews.step kind page action = some next) (polled : Polls next auditId) :
    Polls page auditId ∨ ∃ number, action = .operation number (.running auditId) := by
  obtain ⟨after, handled, rfl⟩ := Option.map_eq_some_iff.mp stepped
  exact polls_handle handled (PollsWithin.watchers (.refl after) auditId polled)

theorem posts_step {action : IndexViews.Action Item}
    (stepped : IndexViews.step kind page action = some next) :
    ∃ added, next.posts = page.posts ++ added := by
  obtain ⟨after, handled, rfl⟩ := Option.map_eq_some_iff.mp stepped
  rw [(quiet_watchers after).posts]
  obtain ⟨row, -, -, -, rfl⟩ | ⟨indexName, -, rfl⟩ | ⟨-, quiet⟩ := handle_cases handled
  · exact ⟨[], (List.append_nil _).symm⟩
  · unfold execute
    split
    next =>
      split
      next => exact ⟨_, rfl⟩
      next => exact ⟨[], (List.append_nil _).symm⟩
    next => exact ⟨[], (List.append_nil _).symm⟩
  · exact ⟨[], by rw [quiet.posts, List.append_nil]⟩

end Pages

section Links

variable {Item : Type} (form : Form Item) (state : State Item)

def Carries (id : RequestId) (number : Nat) : Prop :=
  ∃ post request, state.page.posts[number]? = some post ∧
    state.server.state.requests id = some request ∧ request.asked = form.request post

def Answered (auditId : AuditId) : Prop :=
  ∃ id number request, (id, number) ∈ state.carried ∧
    state.server.state.requests id = some request ∧ acceptedAs request.phase = some auditId

structure Linked : Prop where
  tells : Tells state.server
  carries : ∀ id number, (id, number) ∈ state.carried → Carries form state id number
  polls : ∀ auditId, Polls state.page auditId → Answered state auditId
  committed : ∀ audits ∈ state.committed, ∀ auditId audit, audits auditId = some audit →
    audit.result ≠ .running → state.server.state.audits auditId = some audit

variable {form state} {next : State Item}

theorem linked_opened (form : Form Item) (store : InstancesStore) {server : AuditedDdl.State}
    (initial : Initial server) : Linked form (opened store server) := by
  refine ⟨⟨inv_initial initial, fun _ _ => rfl, ?_⟩, by simp [opened], ?_, ?_⟩
  · intro id request found
    have absent : server.requests id = none := initial.requests id
    have found : server.requests id = some request := found
    rw [absent] at found
    cases found
  · rintro auditId ⟨awaiting, member, polled⟩
    have single : awaiting = .instances true := List.mem_singleton.mp member
    rw [single] at polled
    cases polled
  · intro audits member auditId audit held _
    rw [List.mem_singleton.mp member] at held
    exact held

theorem linked_onServer {action : AuditedDdl.Action} {server : NotedState}
    {carried : List (RequestId × Nat)} (linked : Linked form state)
    (stepped : notedStep state.server action = some server)
    (grown : ∀ pair ∈ state.carried, pair ∈ carried)
    (own : ∀ id number, (id, number) ∈ carried → (id, number) ∈ state.carried ∨
      ∃ post request, state.page.posts[number]? = some post ∧
        server.state.requests id = some request ∧ request.asked = form.request post) :
    Linked form
      { state with server, carried, committed := state.committed ++ [server.state.audits] } := by
  obtain ⟨after, taken, same⟩ := Option.map_eq_some_iff.mp stepped
  have reached : server.state = after := congrArg NotedState.state same.symm
  refine ⟨tells_step linked.tells stepped, ?_, ?_, ?_⟩
  · intro id number member
    rcases own id number member with before | now
    · obtain ⟨post, request, posted, found, asked⟩ := linked.carries id number before
      obtain ⟨later, kept, still, -⟩ := request_kept taken found
      exact ⟨post, later, posted, reached ▸ kept, still.trans asked⟩
    · exact now
  · intro auditId polled
    obtain ⟨id, number, request, member, found, accepted⟩ := linked.polls auditId polled
    obtain ⟨later, kept, -, answers⟩ := request_kept taken found
    exact ⟨id, number, later, grown _ member, reached ▸ kept, answers auditId accepted⟩
  · intro audits member auditId audit held settled
    rcases List.mem_append.mp member with before | now
    · have stored := linked.committed audits before auditId audit held settled
      exact reached ▸ settled_kept linked.tells.inv taken stored settled
    · rw [List.mem_singleton.mp now] at held
      exact held

variable [DecidableEq Item]

theorem linked_onPage {action : IndexViews.Action Item} (linked : Linked form state)
    (stepped : onPage form state action = some next)
    (said : ∀ number auditId, action = .operation number (.running auditId) →
      Answered state auditId) : Linked form next := by
  obtain ⟨page, moved, rfl⟩ := Option.map_eq_some_iff.mp stepped
  obtain ⟨added, posts⟩ := posts_step moved
  refine ⟨linked.tells, ?_, ?_, linked.committed⟩
  · intro id number member
    obtain ⟨post, request, posted, found, asked⟩ := linked.carries id number member
    refine ⟨post, request, ?_, found, asked⟩
    obtain ⟨inside, -⟩ := List.getElem?_eq_some_iff.mp posted
    simp only [posts]
    rw [List.getElem?_append_left inside]
    exact posted
  · intro auditId polled
    rcases polls_step moved polled with before | ⟨number, rfl⟩
    · exact linked.polls auditId before
    · exact said number auditId rfl

theorem linked_step {action : Action Item} (linked : Linked form state)
    (stepped : step form state action = some next) : Linked form next := by
  cases action with
  | page action =>
      simp only [step] at stepped
      obtain ⟨unsaid, moved⟩ := Option.ite_none_left_eq_some.mp stepped
      refine linked_onPage linked moved ?_
      rintro number auditId rfl
      simp [saidByServer] at unsaid
  | deliver number id operator record surroundings =>
      simp only [step] at stepped
      split at stepped
      next => cases stepped
      next post posted =>
        obtain ⟨-, moved⟩ := Option.ite_none_left_eq_some.mp stepped
        obtain ⟨server, received, rfl⟩ := Option.map_eq_some_iff.mp moved
        refine @linked_onServer Item form state _ server (state.carried ++ [(id, number)]) linked
          received (fun _ member => List.mem_append_left _ member) ?_
        intro other place member
        rcases List.mem_append.mp member with before | now
        · exact Or.inl before
        · obtain ⟨rfl, rfl⟩ := Prod.mk.inj (List.mem_singleton.mp now)
          obtain ⟨after, taken, rfl⟩ := Option.map_eq_some_iff.mp received
          obtain ⟨-, rfl⟩ := of_guarded taken
          exact Or.inr ⟨post, _, posted, put_self .., rfl⟩
  | server action =>
      obtain ⟨server, taken, rfl⟩ := Option.map_eq_some_iff.mp stepped
      exact linked_onServer linked taken (fun _ member => member) fun _ _ member => Or.inl member
  | answer awaited id =>
      simp only [step] at stepped
      split at stepped
      next => cases stepped
      next auditId accepted =>
        obtain ⟨member, moved⟩ := Option.ite_none_right_eq_some.mp stepped
        refine linked_onPage linked moved ?_
        intro number other same
        obtain ⟨-, reply⟩ := IndexViews.Action.operation.inj same
        obtain rfl := OperationReply.running.inj reply
        obtain ⟨request, found, told⟩ := Option.bind_eq_some_iff.mp accepted
        exact ⟨id, _, request, member, found, told⟩
  | tell awaited moment =>
      simp only [step] at stepped
      split at stepped
      next =>
        refine linked_onPage linked stepped ?_
        intro number auditId same
        cases same
      next => cases stepped

/-- What the server has of the operations stays, and settled audits are settled. -/
structure Continues (state next : State Item) : Prop where
  carried : ∀ pair ∈ state.carried, pair ∈ next.carried
  requests : ∀ id request, state.server.state.requests id = some request →
    ∃ later, next.server.state.requests id = some later ∧
      ∀ auditId, acceptedAs request.phase = some auditId → acceptedAs later.phase = some auditId
  audits : ∀ auditId audit, state.server.state.audits auditId = some audit →
    audit.result ≠ .running → next.server.state.audits auditId = some audit

omit [DecidableEq Item] in
theorem Continues.refl (state : State Item) : Continues state state :=
  ⟨fun _ member => member, fun _ request found => ⟨request, found, fun _ told => told⟩,
    fun _ _ held _ => held⟩

omit [DecidableEq Item] in
theorem Continues.trans {last : State Item} (first : Continues state next)
    (second : Continues next last) : Continues state last := by
  refine ⟨fun pair member => second.carried pair (first.carried pair member), ?_,
    fun auditId audit held settled =>
      second.audits auditId audit (first.audits auditId audit held settled) settled⟩
  intro id request found
  obtain ⟨middle, present, told⟩ := first.requests id request found
  obtain ⟨later, still, tells⟩ := second.requests id middle present
  exact ⟨later, still, fun auditId accepted => tells auditId (told auditId accepted)⟩

theorem continues_onPage {action : IndexViews.Action Item}
    (stepped : onPage form state action = some next) : Continues state next := by
  obtain ⟨page, -, rfl⟩ := Option.map_eq_some_iff.mp stepped
  exact ⟨fun _ member => member, fun _ request found => ⟨request, found, fun _ told => told⟩,
    fun _ _ held _ => held⟩

omit [DecidableEq Item] in
theorem continues_onServer {action : AuditedDdl.Action} {carried : List (RequestId × Nat)}
    (linked : Linked form state) (grown : ∀ pair ∈ state.carried, pair ∈ carried)
    (stepped : onServer { state with carried } action = some next) : Continues state next := by
  obtain ⟨server, moved, rfl⟩ := Option.map_eq_some_iff.mp stepped
  obtain ⟨after, taken, rfl⟩ := Option.map_eq_some_iff.mp moved
  refine ⟨grown, ?_, fun auditId audit held => settled_kept linked.tells.inv taken held⟩
  intro id request found
  obtain ⟨later, kept, -, told⟩ := request_kept taken found
  exact ⟨later, kept, told⟩

theorem continues_step {action : Action Item} (linked : Linked form state)
    (stepped : step form state action = some next) : Continues state next := by
  cases action with
  | page action =>
      obtain ⟨-, moved⟩ := Option.ite_none_left_eq_some.mp stepped
      exact continues_onPage moved
  | deliver number id operator record surroundings =>
      simp only [step] at stepped
      split at stepped
      next => cases stepped
      next =>
        obtain ⟨-, moved⟩ := Option.ite_none_left_eq_some.mp stepped
        exact continues_onServer linked (fun _ member => List.mem_append_left _ member) moved
  | server action => exact continues_onServer linked (fun _ member => member) stepped
  | answer awaited id =>
      simp only [step] at stepped
      split at stepped
      next => cases stepped
      next =>
        obtain ⟨-, moved⟩ := Option.ite_none_right_eq_some.mp stepped
        exact continues_onPage moved
  | tell awaited moment =>
      simp only [step] at stepped
      split at stepped
      next => exact continues_onPage stepped
      next => cases stepped

def Later (form : Form Item) (state later : State Item) : Prop :=
  ∃ actions, run (step form) state actions = some later

theorem linked_later {later : State Item} (linked : Linked form state)
    (reached : Later form state later) : Linked form later ∧ Continues state later := by
  obtain ⟨actions, ran⟩ := reached
  refine run_invariant (I := fun other => Linked form other ∧ Continues state other) ?_
    ⟨linked, .refl state⟩ ran
  rintro other action next ⟨soFar, continued⟩ stepped
  exact ⟨linked_step soFar stepped, continued.trans (continues_step soFar stepped)⟩

end Links

section Messages

variable {Item : Type} (kind : ViewKind Item) (page : Page Item)

theorem messages_fetchListing (afterOperation : Bool) :
    (fetchListing page afterOperation).messages = page.messages := by
  unfold fetchListing
  split <;> rfl

theorem messages_fetchDatabases : (fetchDatabases page).messages = page.messages := by
  unfold fetchDatabases
  split <;> rfl

theorem messages_watchers : (watchDatabase (watchInstance page)).messages = page.messages := by
  have first : (watchInstance page).messages = page.messages := by
    unfold watchInstance
    split
    next => rfl
    next => exact messages_fetchDatabases _
  unfold watchDatabase
  split
  next => exact first
  next => exact (messages_fetchListing _ false).trans first

theorem messages_execute (indexName : String) :
    (execute kind page indexName).messages = page.messages := by
  unfold execute
  split
  next => split <;> rfl
  next => rfl

-- What the view shows of itself: that a request for an operation has failed.
def ownTexts : IndexViews.Action Item → List String
  | .operation _ (.failed failure) =>
    [kind.operationErrorText (requestMessage failure kind.operationFailed)]
  | _ => []

variable [DecidableEq Item] {kind} {page} {next : Page Item}

theorem messages_handle {action : IndexViews.Action Item}
    (handled : handle kind page action = some next) (own : saidByServer action = false) :
    next.messages = page.messages ++ ownTexts kind action := by
  have silent : ∀ {page' : Page Item}, some page' = some next → page'.messages = page.messages →
      next.messages = page.messages ++ [] := by
    rintro page' same unchanged
    obtain rfl := Option.some.inj same
    rw [unchanged, List.append_nil]
  cases action with
  | selectInstance | loadInstances | close => exact silent handled rfl
  | instances number data =>
      simp only [handle] at handled
      split at handled
      next mount _ =>
        cases data with
        | none => exact silent handled rfl
        | some items =>
            refine silent handled ?_
            cases mount with
            | true => exact messages_fetchDatabases _
            | false => rfl
      next => cases handled
  | databases number data =>
      simp only [handle] at handled
      split at handled
      next => exact silent handled rfl
      next => cases handled
  | selectDatabase databaseName =>
      exact silent (Option.ite_none_right_eq_some.mp handled).2 rfl
  | listing number data =>
      simp only [handle] at handled
      split at handled
      next => exact silent handled rfl
      next => cases handled
  | refresh =>
      exact silent (Option.ite_none_left_eq_some.mp handled).2 (messages_fetchListing _ false)
  | setPage number =>
      exact silent (Option.ite_none_left_eq_some.mp handled).2 (messages_fetchListing _ false)
  | setPageSize pageSize =>
      exact silent (Option.ite_none_left_eq_some.mp handled).2 (messages_fetchListing _ false)
  | openDialog row => exact silent (Option.ite_none_right_eq_some.mp handled).2 rfl
  | confirm indexName =>
      exact silent (Option.ite_none_right_eq_some.mp handled).2 (messages_execute kind page _)
  | operation number reply =>
      simp only [handle] at handled
      split at handled
      next =>
        obtain rfl := Option.some.inj handled
        cases reply with
        | failed failure => rfl
        | success | running | unsuccessful => cases own
      next => cases handled
  | delay number =>
      simp only [handle] at handled
      split at handled
      next => exact silent handled rfl
      next => cases handled
  | audit number reply =>
      simp only [handle] at handled
      split at handled
      next =>
        cases reply with
        | failed => exact silent handled rfl
        | success | running | unsuccessful => cases own
      next => cases handled

theorem messages_operation {number : Nat} {auditId : AuditId}
    (stepped : IndexViews.step kind page (.operation number (.running auditId)) = some next) :
    next.messages = page.messages ++ [kind.operationRunning] := by
  obtain ⟨after, handled, rfl⟩ := Option.map_eq_some_iff.mp stepped
  rw [messages_watchers]
  simp only [handle] at handled
  split at handled
  next =>
    obtain rfl := Option.some.inj handled
    rfl
  next => cases handled

variable (kind) in
-- What an answer for an audit shows; the last of ten, that the operation is still running.
def shownOf (attempt : Nat) : AuditReply → List String
  | .running => if attempt + 1 < auditPollAttempts then [] else [kind.stillRunning]
  | .success => [kind.finished]
  | .unsuccessful errorMessage => [kind.indexAuditErrorText errorMessage]
  | .failed => []

theorem messages_audit {number attempt : Nat} {auditId : AuditId} {reply : AuditReply}
    (asked : page.requests[number]? = some (.audit auditId attempt))
    (stepped : IndexViews.step kind page (.audit number reply) = some next) :
    next.messages = page.messages ++ shownOf kind attempt reply := by
  obtain ⟨after, handled, rfl⟩ := Option.map_eq_some_iff.mp stepped
  rw [messages_watchers]
  simp only [handle, asked, Option.some.injEq] at handled
  subst handled
  cases reply with
  | running =>
      by_cases again : attempt + 1 < auditPollAttempts
      · rw [auditAnswered, shownOf, if_pos again, if_pos again, List.append_nil]
        rfl
      · rw [auditAnswered, shownOf, if_neg again, if_neg again]
        rfl
  | success => exact messages_fetchListing _ false
  | unsuccessful errorMessage => rfl
  | failed => exact (List.append_nil _).symm

end Messages

section Runs

variable {Item : Type} [DecidableEq Item] (form : Form Item)

def Shows (state : State Item) (action : Action Item) (texts : List String) : Prop :=
  ∀ next, step form state action = some next →
    next.page.messages = state.page.messages ++ texts

def AuditOfPost (state : State Item) (auditId : AuditId) (id : RequestId)
    (audit : MissingIndexAudit) : Prop :=
  ∃ number post, (id, number) ∈ state.carried ∧ state.page.posts[number]? = some post ∧
    state.server.state.audits auditId = some audit ∧ IsAuditOf (form.request post) audit

/-- What is said of an operation, and what has happened to it by then and stays so. -/
def ToldTruly (state : State Item) : Action Item → Prop
  | .answer awaited id => step form state (.answer awaited id) ≠ none →
      Shows form state (.answer awaited id) [form.kind.operationRunning] ∧
        ∃ auditId audit, AuditOfPost form state auditId id audit
  | .tell awaited moment => ∀ auditId attempt audits,
      state.page.requests[awaited]? = some (.audit auditId attempt) →
      state.committed[moment]? = some audits →
      ∃ id audit, AuditOfPost form state auditId id audit ∧
        match getIndexAudit (audits auditId) with
        | .success => Shows form state (.tell awaited moment) [form.kind.finished] ∧
            audit.result = .success ∧ ∀ later, Later form state later →
              later.server.state.audits auditId = some audit ∧
              later.server.outcomes id = some (.ok ()) ∧
              ExecutedOnce later.server.state id auditId audit.ddlSummary
        | .unsuccessful errorMessage =>
            Shows form state (.tell awaited moment) [form.kind.indexAuditErrorText errorMessage] ∧
            audit.result = .failed ∧ audit.errorMessage = errorMessage ∧
            ∀ later, Later form state later →
              later.server.state.audits auditId = some audit ∧
              later.server.outcomes id ≠ some (.ok ())
        | .running => Shows form state (.tell awaited moment)
            (if attempt + 1 < auditPollAttempts then [] else [form.kind.stillRunning])
        | .failed => Shows form state (.tell awaited moment) []
  -- That its own request has failed says nothing of the operation.
  | .page action => Shows form state (.page action) (ownTexts form.kind action)
  | .deliver number id operator record surroundings =>
    Shows form state (.deliver number id operator record surroundings) []
  | .server action => Shows form state (.server action) []

variable {form} {state : State Item}

omit [DecidableEq Item] in
theorem auditOfPost_of_answered (linked : Linked form state) {auditId : AuditId} {id : RequestId}
    {number : Nat} {request : Request} (member : (id, number) ∈ state.carried)
    (found : state.server.state.requests id = some request)
    (accepted : acceptedAs request.phase = some auditId) :
    ∃ audit, AuditOfPost form state auditId id audit ∧
      AuditTells state.server id request.asked auditId audit := by
  obtain ⟨post, other, posted, found', asked⟩ := linked.carries id number member
  obtain rfl := Option.some.inj (found.symm.trans found')
  obtain ⟨audit, held, tells⟩ := auditTells_of_accepted linked.tells found accepted
  exact ⟨audit, ⟨number, post, member, posted, held, asked ▸ tells.own⟩, tells⟩

theorem shows_tell {awaited moment attempt : Nat} {auditId : AuditId}
    {audits : AuditId → Option MissingIndexAudit}
    (asked : state.page.requests[awaited]? = some (.audit auditId attempt))
    (seen : state.committed[moment]? = some audits) :
    Shows form state (.tell awaited moment)
      (shownOf form.kind attempt (getIndexAudit (audits auditId))) := by
  intro next stepped
  simp only [step, asked, seen] at stepped
  obtain ⟨page, moved, rfl⟩ := Option.map_eq_some_iff.mp stepped
  exact messages_audit asked moved

theorem shows_page (action : IndexViews.Action Item) :
    Shows form state (.page action) (ownTexts form.kind action) := by
  intro next stepped
  obtain ⟨own, moved⟩ := Option.ite_none_left_eq_some.mp stepped
  obtain ⟨page, turned, rfl⟩ := Option.map_eq_some_iff.mp moved
  obtain ⟨after, handled, rfl⟩ := Option.map_eq_some_iff.mp turned
  exact (messages_watchers after).trans (messages_handle handled (Bool.eq_false_iff.mpr own))

omit [DecidableEq Item] in
theorem shows_server {action : AuditedDdl.Action} {carried : List (RequestId × Nat)}
    {next : State Item} (stepped : onServer { state with carried } action = some next) :
    next.page.messages = state.page.messages ++ [] := by
  obtain ⟨server, -, rfl⟩ := Option.map_eq_some_iff.mp stepped
  exact (List.append_nil _).symm

theorem auditTells_later {later : State Item} {auditId : AuditId} {id : RequestId}
    {request : Request} {audit : MissingIndexAudit} (linked : Linked form state)
    (found : state.server.state.requests id = some request)
    (accepted : acceptedAs request.phase = some auditId)
    (held : state.server.state.audits auditId = some audit) (settled : audit.result ≠ .running)
    (reached : Later form state later) :
    later.server.state.audits auditId = some audit ∧
      ∃ asked, AuditTells later.server id asked auditId audit := by
  obtain ⟨still, continued⟩ := linked_later linked reached
  have kept := continued.audits auditId audit held settled
  obtain ⟨request', present, told⟩ := continued.requests id request found
  obtain ⟨same, held', tells⟩ :=
    auditTells_of_accepted still.tells present (told auditId accepted)
  obtain rfl := Option.some.inj (kept.symm.trans held')
  exact ⟨kept, _, tells⟩

theorem shows_deliver {number : Nat} {id : RequestId} {operator : Operator}
    {record : Option InstanceRecord} {surroundings : OperationSurroundings} :
    Shows form state (.deliver number id operator record surroundings) [] := by
  intro next stepped
  simp only [step] at stepped
  split at stepped
  next => cases stepped
  next =>
    obtain ⟨-, moved⟩ := Option.ite_none_left_eq_some.mp stepped
    exact shows_server moved

theorem toldTruly_answer (linked : Linked form state) (awaited : Nat) (id : RequestId) :
    ToldTruly form state (.answer awaited id) := by
  intro possible
  constructor
  · intro next stepped
    simp only [step] at stepped
    split at stepped
    next => cases stepped
    next =>
      obtain ⟨-, moved⟩ := Option.ite_none_right_eq_some.mp stepped
      obtain ⟨page, turned, rfl⟩ := Option.map_eq_some_iff.mp moved
      exact messages_operation turned
  · simp only [step] at possible
    split at possible
    next => exact absurd rfl possible
    next auditId accepted =>
      split at possible
      next member =>
        obtain ⟨request, found, told⟩ := Option.bind_eq_some_iff.mp accepted
        obtain ⟨audit, ofPost, -⟩ := auditOfPost_of_answered linked member found told
        exact ⟨auditId, audit, ofPost⟩
      next => exact absurd rfl possible

theorem toldTruly_tell (linked : Linked form state) (awaited moment : Nat) :
    ToldTruly form state (.tell awaited moment) := by
  intro auditId attempt audits asked seen
  obtain ⟨id, number, request, member, found, accepted⟩ :=
    linked.polls auditId ⟨_, List.mem_of_getElem? asked, rfl⟩
  obtain ⟨audit, ofPost, tells⟩ := auditOfPost_of_answered linked member found accepted
  refine ⟨id, audit, ofPost, ?_⟩
  obtain ⟨-, -, -, -, held, -⟩ := ofPost
  have shows := @shows_tell Item _ form state awaited moment attempt auditId audits asked seen
  -- A settled audit is still what it was when it was read, and stays so.
  have same : ∀ old, audits auditId = some old → old.result ≠ .running → old = audit := by
    intro old read settled
    have stored := linked.committed audits (List.mem_of_getElem? seen) auditId old read settled
    exact Option.some.inj (stored.symm.trans held)
  have lasting : audit.result ≠ .running → ∀ later, Later form state later →
      later.server.state.audits auditId = some audit ∧
        ∃ asked, AuditTells later.server id asked auditId audit :=
    fun settled later => auditTells_later linked found accepted held settled
  cases read : audits auditId with
  | none =>
      rw [read] at shows
      exact shows
  | some old =>
      rw [read] at shows
      cases result : old.result with
      | running =>
          have reply : getIndexAudit (some old) = .running := by simp [getIndexAudit, result]
          rw [reply] at shows ⊢
          exact shows
      | success =>
          have reply : getIndexAudit (some old) = .success := by simp [getIndexAudit, result]
          obtain rfl := same old read (by simp [result])
          rw [reply] at shows ⊢
          refine ⟨shows, result, fun later reached => ?_⟩
          obtain ⟨kept, asked, tellsLater⟩ := lasting (by simp [result]) later reached
          exact ⟨kept, tellsLater.success result⟩
      | failed =>
          have reply : getIndexAudit (some old) = .unsuccessful old.errorMessage := by
            simp [getIndexAudit, result]
          obtain rfl := same old read (by simp [result])
          rw [reply] at shows ⊢
          refine ⟨shows, result, rfl, fun later reached => ?_⟩
          obtain ⟨kept, asked, tellsLater⟩ := lasting (by simp [result]) later reached
          exact ⟨kept, tellsLater.failed result⟩
      | rejected =>
          obtain rfl := same old read (by simp [result])
          exact absurd result tells.notRejected

theorem toldTruly_of_linked (linked : Linked form state) (action : Action Item) :
    ToldTruly form state action := by
  cases action with
  | page action => exact shows_page action
  | deliver => exact shows_deliver
  | server action => exact fun next stepped => shows_server stepped
  | answer awaited id => exact toldTruly_answer linked awaited id
  | tell awaited moment => exact toldTruly_tell linked awaited moment

end Runs

theorem operators_are_told_truly {Item : Type} [DecidableEq Item] (form : Form Item)
    (store : InstancesStore) (server : AuditedDdl.State) (initial : Initial server)
    (actions : List (Action Item)) :
    Along (step form) (ToldTruly form) (opened store server) actions :=
  Along.of_invariant (fun _ _ _ linked stepped => linked_step linked stepped)
    (linked_opened form store initial) fun _ action linked => toldTruly_of_linked linked action

def rebuiltIndex : List (Action IndexFragmentationItem) :=
  leftDatabase.map .page ++
    [.page (.openDialog (ordersIndex "stock")), .page (.confirm ""),
      .deliver 0 1 ⟨7, "dba"⟩ (some salesRow) reachable, .server (.storeAudit 1 5),
      .server (.answer 1), .answer 0 1, .server (.loadAudit 1),
      .server (.startRun 1 (some salesRow) reachable), .page (.delay 0),
      .server (.executeReturns 1 (.ok ())), .server (.storeResult 1)]

theorem operators_are_told_truly_rebuiltIndex :
    ∃ state id audit, run (step maintenance) (opened ⟨[], none⟩ idle) rebuiltIndex = some state ∧
      AuditOfPost maintenance state 5 id audit ∧ audit.result = .success ∧
      Shows maintenance state (.tell 0 7) ["索引维护完成"] ∧
      ∀ later, Later maintenance state later →
        ExecutedOnce later.server.state id 5 audit.ddlSummary := by
  have ends : (run (step maintenance) (opened ⟨[], none⟩ idle) rebuiltIndex).map
      (fun state => (state.page.requests,
        state.committed[7]?.map fun audits => (audits 5).map (·.result))) =
        some ([.audit 5 0], some (some .success)) := by
    decide +kernel
  obtain ⟨state, ran, same⟩ := Option.map_eq_some_iff.mp ends
  obtain ⟨asked, read⟩ := Prod.mk.inj same
  obtain ⟨audits, seen, settled⟩ := Option.map_eq_some_iff.mp read
  obtain ⟨old, held, success⟩ := Option.map_eq_some_iff.mp settled
  have told := operators_are_told_truly maintenance ⟨[], none⟩ idle initial_idle
    (rebuiltIndex ++ [.tell 0 7]) rebuiltIndex (.tell 0 7) [] state rfl ran
  obtain ⟨id, audit, ofPost, truly⟩ := told 5 0 audits (by rw [asked]; rfl) seen
  have reply : getIndexAudit (audits 5) = .success := by simp [getIndexAudit, held, success]
  rw [reply] at truly
  obtain ⟨shows, done, lasting⟩ := truly
  exact ⟨state, id, audit, ran, ofPost, done, shows, fun later reached =>
    (lasting later reached).2.2⟩

def ordersCandidate : MissingIndexCandidate where
  databaseName := "sales"
  schemaName := "dbo"
  tableName := "orders"
  equalityColumns := ["region"]
  inequalityColumns := []
  includeColumns := []
  userSeeks := 40
  userScans := 0
  avgTotalUserCost := 12
  avgUserImpact := 80
  recommendedIndexName := "IX_orders_region"
  createEnabled := true
  errorMessage := none

def missingAnswer : IndexListOut MissingIndexCandidate where
  items := [ordersCandidate]
  total := 1
  checkedAt := some 0
  collectionStatus := .success
  collectionError := none
  stale := false
  onlineRebuildSupported := false
  page := 1
  pageSize := 20

def refusedIndex : List (Action MissingIndexCandidate) :=
  [.page (.instances 0 (some [7])), .page (.databases 0 (.ok ["sales"])),
    .page (.databases 0 (.ok ["sales"])), .page (.listing 0 (.ok missingAnswer)),
    .page (.openDialog ordersCandidate), .page (.confirm "IX_orders_region"),
    .deliver 0 1 ⟨7, "dba"⟩ (some salesRow) reachable, .server (.storeAudit 1 5),
    .server (.answer 1), .answer 0 1, .server (.loadAudit 1),
    .server (.startRun 1 (some salesRow) reachable), .page (.delay 0),
    .server (.executeReturns 1 (.error ⟨⟨"ProgrammingError", "permission denied", by decide⟩, []⟩)),
    .server (.storeResult 1), .tell 0 7]

example : (run (step creation) (opened ⟨[], none⟩ idle) refusedIndex).map (·.page.messages) =
    some ["索引创建已提交后台执行，请稍后刷新确认结果", "索引创建失败"] := by
  decide +kernel

end SqlMonitor.Frontend.IndexViews.Progress
