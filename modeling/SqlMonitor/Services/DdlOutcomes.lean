import SqlMonitor.Services.DdlProtocol

set_option autoImplicit false

namespace SqlMonitor.AuditedDdl

open TransitionSystem Services

section Outcomes

structure NotedState where
  state : State
  outcomes : RequestId → Option (Except DriverException Unit)

def noteOutcome (outcomes : RequestId → Option (Except DriverException Unit)) :
    Action → RequestId → Option (Except DriverException Unit)
  | .executeReturns id outcome => Function.update outcomes id (some outcome)
  | _ => outcomes

def notedStep (noted : NotedState) (action : Action) : Option NotedState :=
  (step noted.state action).map fun next => ⟨next, noteOutcome noted.outcomes action⟩

def acceptedAs : Phase → Option AuditId
  | .accepted auditId | .loaded auditId _ | .executing auditId | .finishing auditId _
  | .ended auditId => some auditId
  | .prepared _ _ | .stored _ _ | .rejected _ | .broken => none

variable (noted : NotedState) (id : RequestId)

def WentAs (codes : DdlErrorCodes) (auditId : AuditId) (ddl : String)
    (finished : AuditResult × Option String) : Prop :=
  (finished = (.failed, some "INSTANCE_NOT_FOUND") ∧ noted.outcomes id = none ∧
    ∀ execution ∈ noted.state.executions, execution.auditId ≠ auditId) ∨
  ∃ outcome, noted.outcomes id = some outcome ∧ finished = executionResult codes outcome ∧
    ⟨id, auditId, ddl⟩ ∈ noted.state.executions

def PhaseTells (request : Request) : Prop :=
  match request.phase with
  | .executing auditId => noted.outcomes id = none ∧ ∃ first,
      noted.state.audits auditId = some first ∧
        ⟨id, auditId, first.ddlSummary⟩ ∈ noted.state.executions
  | .finishing auditId finished => ∃ first, noted.state.audits auditId = some first ∧
      WentAs noted id request.asked.codes auditId first.ddlSummary finished
  | .ended auditId => ∃ first, Stores request.asked first ∧
      (noted.state.audits auditId = some first ∨ ∃ finished,
        noted.state.audits auditId = some (markIndexAuditFinished first finished) ∧
          WentAs noted id request.asked.codes auditId first.ddlSummary finished)
  | .prepared _ _ | .stored _ _ | .rejected _ | .broken | .accepted _ | .loaded _ _ =>
    noted.outcomes id = none

structure Tells : Prop where
  inv : Inv noted.state
  fresh : ∀ id, noted.state.requests id = none → noted.outcomes id = none
  phases : ∀ id request, noted.state.requests id = some request → PhaseTells noted id request

end Outcomes

section Steps

variable {noted next : NotedState} {id : RequestId} {request : Request}

theorem WentAs.frame {codes : DdlErrorCodes} {auditId : AuditId} {ddl : String}
    {finished : AuditResult × Option String} (went : WentAs noted id codes auditId ddl finished)
    (same : next.outcomes id = noted.outcomes id) {added : List Execution}
    (grown : next.state.executions = noted.state.executions ++ added)
    (apart : ∀ execution ∈ added, execution.auditId ≠ auditId) :
    WentAs next id codes auditId ddl finished := by
  rcases went with ⟨gone, none, never⟩ | ⟨outcome, returned, told, executed⟩
  · refine Or.inl ⟨gone, same.trans none, ?_⟩
    rw [grown]
    intro execution member
    rcases List.mem_append.mp member with earlier | new
    · exact never execution earlier
    · exact apart execution new
  · refine Or.inr ⟨outcome, same.trans returned, told, ?_⟩
    rw [grown]
    exact List.mem_append_left added executed

theorem PhaseTells.frame (tells : PhaseTells noted id request)
    (sound : Sound noted.state id request)
    (same : next.outcomes id = noted.outcomes id)
    (audits : ∀ auditId, noted.state.origins auditId = some id →
      next.state.audits auditId = noted.state.audits auditId)
    {added : List Execution} (grown : next.state.executions = noted.state.executions ++ added)
    (apart : ∀ execution ∈ added, noted.state.origins execution.auditId ≠ some id) :
    PhaseTells next id request := by
  have others : ∀ auditId, noted.state.origins auditId = some id →
      ∀ execution ∈ added, execution.auditId ≠ auditId := by
    intro auditId owned execution member equal
    exact apart execution member (equal ▸ owned)
  obtain ⟨asked, phase⟩ := request
  cases phase with
  | executing auditId =>
      obtain ⟨none, first, held, executed⟩ := tells
      refine ⟨same.trans none, first, (audits auditId sound.1).trans held, ?_⟩
      rw [grown]
      exact List.mem_append_left added executed
  | finishing auditId finished =>
      obtain ⟨first, held, went⟩ := tells
      have owned := sound.1.1
      exact ⟨first, (audits auditId owned).trans held, went.frame same grown (others auditId owned)⟩
  | ended auditId =>
      obtain ⟨first, stores, held⟩ := tells
      have kept := audits auditId sound
      refine ⟨first, stores, held.imp kept.trans ?_⟩
      rintro ⟨finished, marked, went⟩
      exact ⟨finished, kept.trans marked, went.frame same grown (others auditId sound)⟩
  | prepared | stored | rejected | broken | accepted | loaded => exact same.trans tells

theorem Tells.of_own {own : RequestId} (tells : Tells noted) (inv : Inv next.state)
    (now : next.state.requests own = some request)
    (others : ∀ id, id ≠ own → next.state.requests id = noted.state.requests id ∧
      next.outcomes id = noted.outcomes id)
    (audits : ∀ auditId id, noted.state.origins auditId = some id → id ≠ own →
      next.state.audits auditId = noted.state.audits auditId)
    {added : List Execution} (grown : next.state.executions = noted.state.executions ++ added)
    (owned : ∀ execution ∈ added, noted.state.origins execution.auditId = some own)
    (phase : PhaseTells next own request) : Tells next := by
  refine ⟨inv, ?_, ?_⟩
  · intro id absent
    have apart : id ≠ own := by
      rintro rfl
      rw [now] at absent
      cases absent
    rw [(others id apart).2]
    exact tells.fresh id ((others id apart).1 ▸ absent)
  · intro id other found
    by_cases same : id = own
    · subst same
      obtain rfl := Option.some.inj (now.symm.trans found)
      exact phase
    · have before := (others id same).1 ▸ found
      refine (tells.phases id other before).frame (tells.inv.sound id other before)
        (others id same).2 (fun auditId owns => audits auditId id owns same) grown ?_
      intro execution member owns
      exact same (Option.some.inj (owns.symm.trans (owned execution member)))

theorem Tells.put {asked : IndexRequest} {phase : Phase} (tells : Tells noted)
    (inv : Inv (put noted.state id asked phase))
    (told : PhaseTells ⟨put noted.state id asked phase, noted.outcomes⟩ id ⟨asked, phase⟩) :
    Tells ⟨put noted.state id asked phase, noted.outcomes⟩ := by
  refine tells.of_own inv (put_self ..) ?_ (fun _ _ _ _ => rfl) (List.append_nil _).symm (by simp)
    told
  intro other apart
  exact ⟨put_of_ne _ apart .., rfl⟩

theorem tells_step {action : Action} (tells : Tells noted)
    (stepped : notedStep noted action = some next) : Tells next := by
  obtain ⟨state, outcomes⟩ := noted
  obtain ⟨after, taken, rfl⟩ := Option.map_eq_some_iff.mp stepped
  have inv := inv_step tells.inv taken
  cases transition_of_step taken with
  | @received id asked operator record surroundings unused =>
      have none : outcomes id = none := tells.fresh id unused
      refine tells.put inv ?_
      simp only [receivedPhase]
      split
      next => exact none
      next => exact none
  | @stored id asked audit raises auditId found fresh =>
      refine tells.of_own inv (put_self ..) (fun other apart => ⟨put_of_ne _ apart .., rfl⟩) ?_
        (List.append_nil _).symm (by simp) (tells.phases id _ found)
      intro other owner owned _
      have apart : other ≠ auditId := by
        rintro rfl
        exact tells.inv.present other owner owned fresh
      exact Function.update_of_ne apart ..
  | @notStored id asked audit raises found => exact tells.put inv (tells.phases id _ found)
  | @answered id asked auditId raises found =>
      have none : outcomes id = none := tells.phases id _ found
      cases raises with
      | none => exact tells.put inv none
      | some exc => exact tells.put inv none
  | @notAnswered id asked auditId raises found => exact tells.put inv (tells.phases id _ found)
  | @loaded id asked auditId found =>
      have none : outcomes id = none := tells.phases id _ found
      obtain ⟨-, audit, present, -⟩ := tells.inv.sound id _ found
      refine tells.put inv ?_
      rw [present]
      exact none
  | @started id asked auditId audit record surroundings found =>
      have none : outcomes id = none := tells.phases id _ found
      obtain ⟨⟨owned, first, present, stores⟩, same⟩ := tells.inv.sound id _ found
      obtain rfl := Option.some.inj (present.symm.trans same)
      have never := tells.inv.first found
      rcases startIndexRun_cases surroundings first record with
        ⟨-, began⟩ | ⟨row, client, -, -, began⟩ | ⟨row, exc, -, -, began⟩
      · rw [began] at inv ⊢
        exact tells.put inv ⟨first, present, Or.inl ⟨rfl, none, never⟩⟩
      · rw [began] at inv ⊢
        refine tells.of_own inv (put_self ..) (fun other apart => ⟨put_of_ne _ apart .., rfl⟩)
          (fun _ _ _ _ => rfl) rfl ?_ ⟨none, first, present, ?_⟩
        · intro execution member
          rw [List.mem_singleton.mp member]
          exact owned
        · exact List.mem_append_right _ (List.mem_singleton_self _)
      · rw [began] at inv ⊢
        exact tells.put inv ⟨first, stores, Or.inl present⟩
  | @returned id asked auditId outcome found =>
      obtain ⟨-, first, held, executed⟩ := tells.phases id _ found
      refine tells.of_own inv (put_self ..) ?_ (fun _ _ _ _ => rfl) (List.append_nil _).symm (by simp)
        ⟨first, held, Or.inr ⟨outcome, Function.update_self .., rfl, executed⟩⟩
      intro other apart
      exact ⟨put_of_ne _ apart .., Function.update_of_ne apart ..⟩
  | @settled id asked auditId finished found =>
      obtain ⟨⟨owned, stored, present, stores⟩, -⟩ := tells.inv.sound id _ found
      obtain ⟨first, held, went⟩ := tells.phases id _ found
      obtain rfl := Option.some.inj (present.symm.trans held)
      refine tells.of_own inv (put_self ..) (fun other apart => ⟨put_of_ne _ apart .., rfl⟩) ?_
        (List.append_nil _).symm (by simp) ⟨stored, stores, Or.inr ⟨finished, ?_, ?_⟩⟩
      · intro other owner ownedOther apart
        have apartAudit : other ≠ auditId := by
          rintro rfl
          exact apart (Option.some.inj (ownedOther.symm.trans owned))
        exact Function.update_of_ne apartAudit ..
      · have marked := congrArg (Option.map fun audit => markIndexAuditFinished audit finished) held
        exact (Function.update_self ..).trans marked
      · exact went.frame rfl (List.append_nil _).symm (by simp)
  | @notSettled id asked auditId finished found =>
      obtain ⟨⟨owned, stored, present, stores⟩, -⟩ := tells.inv.sound id _ found
      exact tells.put inv ⟨stored, stores, Or.inl present⟩

end Steps

section Told

variable {noted : NotedState} {state next : State} {action : Action} {id : RequestId}
  {request : Request} {auditId : AuditId} {audit : MissingIndexAudit}

theorem put_kept {own : RequestId} {before after : Phase} {asked : IndexRequest}
    (held : state.requests own = some ⟨asked, before⟩)
    (answers : ∀ auditId, acceptedAs before = some auditId → acceptedAs after = some auditId)
    (found : state.requests id = some request) :
    ∃ later, (put state own asked after).requests id = some later ∧ later.asked = request.asked ∧
      ∀ auditId, acceptedAs request.phase = some auditId →
        acceptedAs later.phase = some auditId := by
  by_cases same : id = own
  · subst same
    obtain rfl := Option.some.inj (held.symm.trans found)
    exact ⟨⟨asked, after⟩, put_self .., rfl, answers⟩
  · exact ⟨request, (put_of_ne state same asked after).trans found, rfl, fun _ told => told⟩

theorem request_kept (stepped : step state action = some next)
    (found : state.requests id = some request) :
    ∃ later, next.requests id = some later ∧ later.asked = request.asked ∧
      ∀ auditId, acceptedAs request.phase = some auditId →
        acceptedAs later.phase = some auditId := by
  cases transition_of_step stepped with
  | @received own asked operator record surroundings unused =>
      have apart : id ≠ own := by
        rintro rfl
        rw [unused] at found
        cases found
      exact ⟨request, (put_of_ne state apart ..).trans found, rfl, fun _ told => told⟩
  | stored auditId held fresh => exact put_kept held (by simp [acceptedAs]) found
  | notStored held => exact put_kept held (by simp [acceptedAs]) found
  | answered held => exact put_kept held (by simp [acceptedAs]) found
  | notAnswered held => exact put_kept held (by simp [acceptedAs]) found
  | @loaded own asked auditId held =>
      refine put_kept held ?_ found
      cases state.audits auditId <;> simp [loadedPhase, acceptedAs]
  | @started own asked auditId audit record surroundings held =>
      rcases startIndexRun_cases surroundings audit record with
        ⟨-, began⟩ | ⟨row, client, -, -, began⟩ | ⟨row, exc, -, -, began⟩
      · rw [began]
        exact put_kept held (by simp [acceptedAs]) found
      · rw [began]
        exact put_kept held (by simp [acceptedAs]) found
      · rw [began]
        exact put_kept held (by simp [acceptedAs]) found
  | returned outcome held => exact put_kept held (by simp [acceptedAs]) found
  | settled held => exact put_kept held (by simp [acceptedAs]) found
  | notSettled held => exact put_kept held (by simp [acceptedAs]) found

theorem settled_kept (inv : Inv state) (stepped : step state action = some next)
    (held : state.audits auditId = some audit) (settled : audit.result ≠ .running) :
    next.audits auditId = some audit := by
  rcases settlesOwnAudit_of_inv inv next stepped auditId audit held with
    same | ⟨_, _, _, -, -, -, running, -⟩
  · exact same
  · exact absurd running settled

def IsAuditOf (asked : IndexRequest) (audit : MissingIndexAudit) : Prop :=
  ∃ first finished, Stores asked first ∧ audit = markIndexAuditFinished first finished

def ExecutedOnce (state : State) (id : RequestId) (auditId : AuditId) (ddl : String) : Prop :=
  ⟨id, auditId, ddl⟩ ∈ state.executions ∧
    (state.executions.map Execution.auditId).count auditId = 1

/-- What the audit of an answered request says is what happened to its statement. -/
structure AuditTells (noted : NotedState) (id : RequestId) (asked : IndexRequest)
    (auditId : AuditId)
    (audit : MissingIndexAudit) : Prop where
  own : IsAuditOf asked audit
  success : audit.result = .success → noted.outcomes id = some (.ok ()) ∧
    ExecutedOnce noted.state id auditId audit.ddlSummary
  failed : audit.result = .failed → noted.outcomes id ≠ some (.ok ())
  notRejected : audit.result ≠ .rejected

theorem IsAuditOf.of_stores {asked : IndexRequest} (stores : Stores asked audit) :
    IsAuditOf asked audit := ⟨audit, (audit.result, audit.errorMessage), stores, rfl⟩

theorem auditTells_running {asked : IndexRequest} (stores : Stores asked audit) :
    AuditTells noted id asked auditId audit := by
  have running := stores.running
  refine ⟨.of_stores stores, ?_, ?_, ?_⟩ <;> simp [running]

theorem auditTells_of_wentAs {first : MissingIndexAudit} {finished : AuditResult × Option String}
    {asked : IndexRequest} (tells : Tells noted) (stores : Stores asked first)
    (went : WentAs noted id asked.codes auditId first.ddlSummary finished) :
    AuditTells noted id asked auditId (markIndexAuditFinished first finished) := by
  refine ⟨⟨first, finished, stores, rfl⟩, ?_, ?_, ?_⟩
  · intro success
    have success : finished.1 = .success := success
    rcases went with ⟨rfl, -, -⟩ | ⟨outcome, returned, rfl, executed⟩
    · simp at success
    · rcases executionResult_settled asked.codes outcome with ⟨-, rfl⟩ | ⟨failed, -⟩
      · refine ⟨returned, executed, ?_⟩
        exact List.count_eq_one_of_mem tells.inv.once (List.mem_map_of_mem executed)
      · rw [failed] at success
        cases success
  · intro failed
    have failed : finished.1 = .failed := failed
    rcases went with ⟨-, never, -⟩ | ⟨outcome, returned, rfl, -⟩
    · simp [never]
    · rcases executionResult_settled asked.codes outcome with ⟨success, -⟩ | ⟨-, raised⟩
      · rw [success] at failed
        cases failed
      · rw [returned]
        exact fun ok => raised (Option.some.inj ok)
  · intro rejected
    have rejected : finished.1 = .rejected := rejected
    rcases went with ⟨rfl, -, -⟩ | ⟨outcome, -, rfl, -⟩
    · simp at rejected
    · cases outcome <;> simp [executionResult] at rejected

theorem auditTells_of_accepted (tells : Tells noted)
    (found : noted.state.requests id = some request)
    (accepted : acceptedAs request.phase = some auditId) :
    ∃ audit, noted.state.audits auditId = some audit ∧
      AuditTells noted id request.asked auditId audit := by
  obtain ⟨asked, phase⟩ := request
  have sound := tells.inv.sound id _ found
  have told := tells.phases id _ found
  cases phase with
  | accepted other =>
      obtain rfl := Option.some.inj accepted
      obtain ⟨-, audit, held, stores⟩ := sound
      exact ⟨audit, held, auditTells_running stores⟩
  | loaded other loaded =>
      obtain rfl := Option.some.inj accepted
      obtain ⟨⟨-, audit, held, stores⟩, -⟩ := sound
      exact ⟨audit, held, auditTells_running stores⟩
  | executing other =>
      obtain rfl := Option.some.inj accepted
      obtain ⟨-, audit, held, stores⟩ := sound
      exact ⟨audit, held, auditTells_running stores⟩
  | finishing other finished =>
      obtain rfl := Option.some.inj accepted
      obtain ⟨⟨-, audit, held, stores⟩, -⟩ := sound
      exact ⟨audit, held, auditTells_running stores⟩
  | ended other =>
      obtain rfl := Option.some.inj accepted
      obtain ⟨first, stores, held | ⟨finished, held, went⟩⟩ := told
      · exact ⟨first, held, auditTells_running stores⟩
      · exact ⟨_, held, auditTells_of_wentAs tells stores went⟩
  | prepared | stored | rejected | broken => cases accepted

end Told

end SqlMonitor.AuditedDdl
