import SqlMonitor.Services.AuditedDdl
import SqlMonitor.Services.IndexRunOutcome

set_option autoImplicit false

namespace SqlMonitor.AuditedDdl

open TransitionSystem Services

section Prepared

def Stores (asked : IndexRequest) (audit : MissingIndexAudit) : Prop :=
  match asked with
  | .create data => ∃ operator ddl,
      buildCreateIndexSql data.databaseName data.schemaName data.tableName data.indexName
        data.keyColumns data.includeColumns = .ok ddl ∧
      audit = writeIndexAudit data operator ddl .running none
  | .maintain data => ∃ operator online ddl,
      buildIndexMaintenanceSql data.databaseName data.schemaName data.tableName data.indexName
        data.action online = .ok ddl ∧
      audit = writeFragmentationAudit data operator ddl online .running none

theorem Stores.running {asked : IndexRequest} {audit : MissingIndexAudit}
    (stores : Stores asked audit) : audit.result = .running := by
  cases asked with
  | create data =>
      obtain ⟨operator, ddl, -, rfl⟩ := stores
      rfl
  | maintain data =>
      obtain ⟨operator, online, ddl, -, rfl⟩ := stores
      rfl

variable {surroundings : OperationSurroundings} {record : Option InstanceRecord}
  {operator : Operator} {audit : MissingIndexAudit} {raises : Option PyException}

theorem stores_of_create {data : CreateIndexRequestData}
    (prepared : createMissingIndex surroundings record data operator = .ok (audit, raises))
    (returns : raises = none) : Stores (.create data) audit := by
  cases record with
  | none => simp [createMissingIndex] at prepared
  | some row =>
      simp only [createMissingIndex, bind_eq_ok] at prepared
      obtain ⟨client, -, names, -, written⟩ := prepared
      by_cases conflict : data.indexName ∈ names
      · simp only [if_pos conflict, pure_eq_ok, Prod.mk.injEq] at written
        rw [returns] at written
        exact absurd written.2 (by simp)
      · simp only [if_neg conflict, bind_eq_ok, pure_eq_ok, Prod.mk.injEq] at written
        obtain ⟨ddl, built, same, -⟩ := written
        exact ⟨operator, ddl, built, same.symm⟩

theorem stores_of_maintain {data : FragmentationActionRequestData}
    (prepared : executeFragmentationAction surroundings record data operator =
      .ok (audit, raises)) : Stores (.maintain data) audit := by
  cases record with
  | none => simp [executeFragmentationAction] at prepared
  | some row =>
      by_cases known : data.action ∈ fragmentationActions
      · simp only [executeFragmentationAction, known, not_true_eq_false, if_false, bind_eq_ok,
          pure_eq_ok, Prod.mk.injEq] at prepared
        obtain ⟨client, -, online, -, ddl, built, same, -⟩ := prepared
        exact ⟨operator, online, ddl, built, same.symm⟩
      · simp [executeFragmentationAction, known, bind_eq_ok] at prepared

theorem stores_of_prepare {asked : IndexRequest}
    (prepared : asked.prepare surroundings record operator = .ok (audit, none)) :
    Stores asked audit := by
  cases asked with
  | create data => exact stores_of_create prepared rfl
  | maintain data => exact stores_of_maintain prepared

end Prepared

section Invariant

def Running (state : State) (id : RequestId) (asked : IndexRequest) (auditId : AuditId) : Prop :=
  state.origins auditId = some id ∧
    ∃ audit, state.audits auditId = some audit ∧ Stores asked audit

def Sound (state : State) (id : RequestId) (request : Request) : Prop :=
  match request.phase with
  | .prepared audit none => Stores request.asked audit
  | .stored auditId none => Running state id request.asked auditId
  | .accepted auditId => Running state id request.asked auditId
  | .loaded auditId audit =>
    Running state id request.asked auditId ∧ state.audits auditId = some audit
  | .executing auditId => Running state id request.asked auditId
  | .finishing auditId finished =>
    Running state id request.asked auditId ∧ (finished.1 = .success ∨ finished.1 = .failed)
  | .ended auditId => state.origins auditId = some id
  | .prepared _ (some _) | .stored _ (some _) | .rejected _ | .broken => True

def Past (auditId : AuditId) : Phase → Prop
  | .executing own | .finishing own _ | .ended own => own = auditId
  | _ => False

structure Inv (state : State) : Prop where
  sound : ∀ id request, state.requests id = some request → Sound state id request
  present : ∀ auditId id, state.origins auditId = some id → state.audits auditId ≠ none
  past : ∀ execution ∈ state.executions, state.origins execution.auditId = some execution.request ∧
    ∃ request, state.requests execution.request = some request ∧
      Past execution.auditId request.phase
  once : (state.executions.map Execution.auditId).Nodup

theorem inv_initial {state : State} (initial : Initial state) : Inv state where
  sound := by
    intro id request found
    rw [initial.requests] at found
    cases found
  present := by
    intro auditId id owned
    rw [initial.origins] at owned
    cases owned
  past := by simp [initial.executions]
  once := by simp [initial.executions]

variable {state next : State} {id : RequestId} {auditId : AuditId}

theorem Sound.frame {request : Request} (sound : Sound state id request)
    (kept : ∀ auditId, state.origins auditId = some id →
      next.origins auditId = some id ∧ next.audits auditId = state.audits auditId) :
    Sound next id request := by
  have running : ∀ {auditId}, Running state id request.asked auditId →
      Running next id request.asked auditId := by
    intro auditId holds
    obtain ⟨owned, audit, found, stores⟩ := holds
    obtain ⟨still, same⟩ := kept auditId owned
    exact ⟨still, audit, same.trans found, stores⟩
  obtain ⟨asked, phase⟩ := request
  cases phase with
  | prepared audit raises => cases raises <;> exact sound
  | stored auditId raises =>
      cases raises with
      | none => exact running sound
      | some exc => exact trivial
  | rejected exc => exact trivial
  | broken => exact trivial
  | accepted auditId => exact running sound
  | loaded auditId audit =>
      exact ⟨running sound.1, (kept auditId sound.1.1).2.trans sound.2⟩
  | executing auditId => exact running sound
  | finishing auditId finished => exact ⟨running sound.1, sound.2⟩
  | ended auditId => exact (kept auditId sound).1

theorem Inv.put (inv : Inv state) {asked : IndexRequest} {phase : Phase}
    (sound : Sound state id ⟨asked, phase⟩)
    (kept : ∀ request auditId, state.requests id = some request → Past auditId request.phase →
      Past auditId phase) : Inv (put state id asked phase) where
  sound := by
    intro other request found
    by_cases same : other = id
    · subst same
      rw [put_self] at found
      obtain rfl := Option.some.inj found
      exact sound
    · rw [put_of_ne state same] at found
      exact inv.sound other request found
  present := inv.present
  past := by
    intro execution member
    obtain ⟨owned, request, found, past⟩ := inv.past execution member
    refine ⟨owned, ?_⟩
    by_cases same : execution.request = id
    · refine ⟨⟨asked, phase⟩, ?_, kept request _ (same ▸ found) past⟩
      rw [same, put_self]
    · refine ⟨request, ?_, past⟩
      rw [put_of_ne state same]
      exact found
  once := inv.once

theorem Inv.advance (inv : Inv state) {asked : IndexRequest} {before phase : Phase}
    (found : state.requests id = some ⟨asked, before⟩) (sound : Sound state id ⟨asked, phase⟩)
    (kept : ∀ auditId, Past auditId before → Past auditId phase) :
    Inv (AuditedDdl.put state id asked phase) := by
  refine inv.put sound ?_
  intro other auditId met past
  obtain rfl := Option.some.inj (found.symm.trans met)
  exact kept auditId past

theorem Inv.insertAudit (inv : Inv state) (audit : MissingIndexAudit)
    (fresh : state.audits auditId = none) : Inv (insertAudit state id auditId audit) := by
  have apart : ∀ {other owner}, state.origins other = some owner → other ≠ auditId := by
    intro other owner owned same
    exact inv.present other owner owned (same ▸ fresh)
  refine ⟨?_, ?_, ?_, inv.once⟩
  · intro owner request found
    refine (inv.sound owner request found).frame ?_
    intro other owned
    simp [AuditedDdl.insertAudit, Function.update_of_ne (apart owned), owned]
  · intro other owner owned
    by_cases same : other = auditId
    · simp [AuditedDdl.insertAudit, same]
    · simp only [AuditedDdl.insertAudit, Function.update_of_ne same] at owned ⊢
      exact inv.present other owner owned
  · intro execution member
    obtain ⟨owned, past⟩ := inv.past execution member
    refine ⟨?_, past⟩
    simp [AuditedDdl.insertAudit, Function.update_of_ne (apart owned), owned]

theorem Inv.settleAudit (inv : Inv state) {asked : IndexRequest}
    (owned : state.origins auditId = some id)
    (found : state.requests id = some ⟨asked, .ended auditId⟩)
    (finished : AuditResult × Option String) : Inv (settleAudit state auditId finished) := by
  refine ⟨?_, ?_, inv.past, inv.once⟩
  · intro other request met
    by_cases same : other = id
    · subst same
      obtain rfl := Option.some.inj (found.symm.trans met)
      exact owned
    · refine (inv.sound other request met).frame ?_
      intro otherAudit ownedOther
      have apart : otherAudit ≠ auditId := by
        rintro rfl
        exact same (Option.some.inj (ownedOther.symm.trans owned))
      exact ⟨ownedOther, by simp [AuditedDdl.settleAudit, Function.update_of_ne apart]⟩
  · intro otherAudit owner ownedOther
    have present := inv.present otherAudit owner ownedOther
    by_cases same : otherAudit = auditId
    · subst same
      simpa [AuditedDdl.settleAudit] using present
    · simpa [AuditedDdl.settleAudit, Function.update_of_ne same] using present

theorem Inv.execute (inv : Inv state) {asked : IndexRequest} (ddl : String)
    (owned : state.origins auditId = some id)
    (found : state.requests id = some ⟨asked, .executing auditId⟩)
    (first : ∀ execution ∈ state.executions, execution.auditId ≠ auditId) :
    Inv (execute state ⟨id, auditId, ddl⟩) := by
  refine ⟨fun other request met => (inv.sound other request met).frame fun _ still => ⟨still, rfl⟩,
    inv.present, ?_, ?_⟩
  · intro execution member
    rcases List.mem_append.mp member with earlier | new
    · exact inv.past execution earlier
    · obtain rfl := List.mem_singleton.mp new
      exact ⟨owned, _, found, rfl⟩
  · rw [AuditedDdl.execute, List.map_append, List.nodup_append]
    refine ⟨inv.once, List.nodup_singleton _, ?_⟩
    intro earlier member last new
    obtain ⟨execution, inside, rfl⟩ := List.mem_map.mp member
    rw [List.mem_singleton.mp new]
    exact first execution inside

theorem sound_received {asked : IndexRequest} {operator : Operator}
    {record : Option InstanceRecord} {surroundings : OperationSurroundings} :
    Sound state id ⟨asked, receivedPhase (asked.prepare surroundings record operator)⟩ := by
  cases prepared : asked.prepare surroundings record operator with
  | error exc => exact trivial
  | ok written =>
      obtain ⟨audit, raises⟩ := written
      cases raises with
      | none => exact stores_of_prepare prepared
      | some exc => exact trivial

theorem Inv.first {asked : IndexRequest} {audit : MissingIndexAudit} (inv : Inv state)
    (found : state.requests id = some ⟨asked, .loaded auditId audit⟩) :
    ∀ execution ∈ state.executions, execution.auditId ≠ auditId := by
  intro execution member same
  obtain ⟨owned, request, met, past⟩ := inv.past execution member
  obtain ⟨⟨owner, -⟩, -⟩ := inv.sound id _ found
  rw [same, owner] at owned
  rw [← Option.some.inj owned, found] at met
  obtain rfl := Option.some.inj met
  exact past

theorem Inv.start {asked : IndexRequest} {audit : MissingIndexAudit} (inv : Inv state)
    (found : state.requests id = some ⟨asked, .loaded auditId audit⟩)
    (record : Option InstanceRecord) (surroundings : OperationSurroundings) :
    Inv (startedRun state id asked auditId (startIndexRun surroundings audit record)) := by
  obtain ⟨running, same⟩ := inv.sound id _ found
  rcases startIndexRun_cases surroundings audit record with
    ⟨-, started⟩ | ⟨row, client, -, -, started⟩ | ⟨row, exc, -, -, started⟩
  · have sound : Sound state id ⟨asked, .finishing auditId (.failed, some "INSTANCE_NOT_FOUND")⟩ :=
      ⟨running, Or.inr rfl⟩
    rw [started]
    exact inv.advance found sound fun _ => False.elim
  · have sound : Sound state id ⟨asked, .executing auditId⟩ := running
    rw [started]
    refine (inv.advance found sound fun _ => False.elim).execute _ running.1 (put_self ..) ?_
    exact inv.first found
  · have sound : Sound state id ⟨asked, .ended auditId⟩ := running.1
    rw [started]
    exact inv.advance found sound fun _ => False.elim

theorem inv_step {action : Action} (inv : Inv state) (stepped : step state action = some next) :
    Inv next := by
  cases transition_of_step stepped with
  | received asked operator record surroundings unused =>
      refine inv.put sound_received ?_
      intro request auditId found
      rw [unused] at found
      cases found
  | @stored id asked audit raises auditId found fresh =>
      have prepared := inv.sound id _ found
      refine (inv.insertAudit audit fresh).advance found ?_ fun _ => False.elim
      cases raises with
      | none => exact ⟨Function.update_self .., audit, Function.update_self .., prepared⟩
      | some exc => exact trivial
  | notStored found => exact inv.advance found trivial fun _ => False.elim
  | @answered id asked auditId raises found =>
      have stored := inv.sound id _ found
      refine inv.advance found ?_ fun _ => False.elim
      cases raises with
      | none => exact stored
      | some exc => exact trivial
  | notAnswered found => exact inv.advance found trivial fun _ => False.elim
  | @loaded id asked auditId found =>
      obtain ⟨owned, audit, present, stores⟩ := inv.sound id _ found
      have sound : Sound state id ⟨asked, .loaded auditId audit⟩ :=
        ⟨⟨owned, audit, present, stores⟩, present⟩
      rw [present]
      exact inv.advance found sound fun _ => False.elim
  | started record surroundings found => exact inv.start found record surroundings
  | @returned id asked auditId outcome found =>
      have running := inv.sound id _ found
      refine inv.advance found ⟨running, ?_⟩ fun _ past => past
      rcases executionResult_settled asked.codes outcome with ⟨result, -⟩ | ⟨result, -⟩
      · exact Or.inl result
      · exact Or.inr result
  | @settled id asked auditId finished found =>
      obtain ⟨⟨owned, -⟩, -⟩ := inv.sound id _ found
      have sound : Sound state id ⟨asked, .ended auditId⟩ := owned
      exact (inv.advance found sound fun _ past => past).settleAudit owned (put_self ..) finished
  | @notSettled id asked auditId finished found =>
      obtain ⟨⟨owned, -⟩, -⟩ := inv.sound id _ found
      have sound : Sound state id ⟨asked, .ended auditId⟩ := owned
      exact inv.advance found sound fun _ past => past

end Invariant

section Protocol

variable {state next : State} {action : Action}

/-- What the step gives to a server: the text of an audit that is committed as running. -/
def ExecutesAudited (state : State) (action : Action) : Prop :=
  ∀ next, step state action = some next → ∃ added, next.executions = state.executions ++ added ∧
    ∀ execution ∈ added, ∃ request audit, state.requests execution.request = some request ∧
      state.audits execution.auditId = some audit ∧ audit.result = .running ∧
      Stores request.asked audit ∧ execution.ddl = audit.ddlSummary

def SettlesOwnAudit (state : State) (action : Action) : Prop :=
  ∀ next, step state action = some next → ∀ auditId audit, state.audits auditId = some audit →
    next.audits auditId = some audit ∨
      (∃ id request finished, action = .storeResult id ∧ state.requests id = some request ∧
        request.phase = .finishing auditId finished ∧ audit.result = .running ∧
        (finished.1 = .success ∨ finished.1 = .failed) ∧
        next.audits auditId = some (markIndexAuditFinished audit finished))

theorem executesAudited_of_inv (inv : Inv state) : ExecutesAudited state action := by
  intro next stepped
  cases transition_of_step stepped with
  | @started id asked auditId audit record surroundings found =>
      obtain ⟨⟨owned, stored, present, stores⟩, same⟩ := inv.sound id _ found
      obtain rfl := Option.some.inj (present.symm.trans same)
      rcases startIndexRun_cases surroundings stored record with
        ⟨-, started⟩ | ⟨row, client, -, -, started⟩ | ⟨row, exc, -, -, started⟩
      · exact ⟨[], by rw [started]; exact (List.append_nil _).symm, by simp⟩
      · refine ⟨[⟨id, auditId, stored.ddlSummary⟩], by rw [started]; rfl, ?_⟩
        intro execution new
        obtain rfl := List.mem_singleton.mp new
        exact ⟨_, stored, found, present, stores.running, stores, rfl⟩
      · exact ⟨[], by rw [started]; exact (List.append_nil _).symm, by simp⟩
  | received | stored | notStored | answered | notAnswered | loaded | returned | settled |
    notSettled => exact ⟨[], (List.append_nil _).symm, by simp⟩

theorem audits_startedRun (id : RequestId) (asked : IndexRequest) (auditId : AuditId)
    (started : Raises RunStart) :
    (startedRun state id asked auditId started).audits = state.audits := by
  cases started with
  | error exc => rfl
  | ok start => cases start <;> rfl

theorem settlesOwnAudit_of_inv (inv : Inv state) : SettlesOwnAudit state action := by
  intro next stepped other audit held
  cases transition_of_step stepped with
  | @stored id asked written raises auditId found fresh =>
      have apart : other ≠ auditId := by
        rintro rfl
        rw [fresh] at held
        cases held
      exact Or.inl ((Function.update_of_ne apart ..).trans held)
  | @settled id asked auditId finished found =>
      obtain ⟨⟨-, stored, present, stores⟩, result⟩ := inv.sound id _ found
      by_cases same : other = auditId
      · subst same
        obtain rfl := Option.some.inj (present.symm.trans held)
        refine Or.inr ⟨id, _, finished, rfl, found, rfl, stores.running, result, ?_⟩
        have settled := congrArg (Option.map fun audit => markIndexAuditFinished audit finished) held
        exact (Function.update_self ..).trans settled
      · exact Or.inl ((Function.update_of_ne same ..).trans held)
  | started => exact Or.inl ((congrFun (audits_startedRun ..) other).trans held)
  | received | notStored | answered | notAnswered | loaded | returned | notSettled =>
      exact Or.inl held

theorem audited_ddl_protocol {start : State} {actions : List Action} (initial : Initial start)
    (ran : run step start actions = some state) :
    Along step ExecutesAudited start actions ∧
      (state.executions.map Execution.auditId).Nodup ∧
      (∀ execution ∈ state.executions, ∀ request exc,
        state.requests execution.request = some request → request.phase ≠ .rejected exc) ∧
      Along step SettlesOwnAudit start actions := by
  have preserved : ∀ state action next, Inv state → step state action = some next → Inv next :=
    fun _ _ _ inv stepped => inv_step inv stepped
  have inv := run_invariant preserved (inv_initial initial) ran
  refine ⟨?_, inv.once, ?_, ?_⟩
  · exact Along.of_invariant preserved (inv_initial initial) fun _ _ => executesAudited_of_inv
  · intro execution member request exc found rejected
    obtain ⟨-, other, met, past⟩ := inv.past execution member
    obtain rfl := Option.some.inj (found.symm.trans met)
    rw [rejected] at past
    exact past
  · exact Along.of_invariant preserved (inv_initial initial) fun _ _ => settlesOwnAudit_of_inv

end Protocol

section OneRequest

def idle : State := ⟨fun _ => none, fun _ => none, fun _ => none, []⟩

theorem initial_idle : Initial idle := ⟨fun _ => rfl, fun _ => rfl, rfl⟩

def ordersIndex : CreateIndexRequestData :=
  ⟨1, "sales", "dbo", "orders", ["id"], [], "IX_orders_id"⟩

def freshClient : OperationClient where
  indexNames := fun _ _ _ => .ok []
  onlineSupport := .ok []
  execute := fun _ _ => .ok ()

def reachable : OperationSurroundings where
  decryptConnectionString := .ok
  clientFactory := fun _ => .ok freshClient

def ordersActions : List Action :=
  [.receive 1 (.create ordersIndex) ⟨7, "dba"⟩ (some salesRow) reachable, .storeAudit 1 5, .answer 1,
    .loadAudit 1, .startRun 1 (some salesRow) reachable, .executeReturns 1 (.ok ()), .storeResult 1]

theorem ordersIndex_built : ∃ ddl, buildCreateIndexSql ordersIndex.databaseName
    ordersIndex.schemaName ordersIndex.tableName ordersIndex.indexName ordersIndex.keyColumns
      ordersIndex.includeColumns = .ok ddl :=
  buildCreateIndexSql_returns_iff.mpr (by decide)

theorem ordersIndex_prepared {ddl : String}
    (built : buildCreateIndexSql ordersIndex.databaseName ordersIndex.schemaName
      ordersIndex.tableName ordersIndex.indexName ordersIndex.keyColumns
        ordersIndex.includeColumns = .ok ddl) :
    (IndexRequest.create ordersIndex).prepare reachable (some salesRow) ⟨7, "dba"⟩ =
      .ok (writeIndexAudit ordersIndex ⟨7, "dba"⟩ ddl .running none, none) := by
  have client : operationClient reachable salesRow = .ok freshClient := rfl
  have validated : validateIdentifiers
      [ordersIndex.databaseName, ordersIndex.schemaName, ordersIndex.tableName] = .ok () :=
    validateIdentifiers_eq_ok.mpr (by decide)
  have database : isIdentifier ordersIndex.databaseName := by decide
  have names : existingIndexNames freshClient ordersIndex.databaseName ordersIndex.schemaName
      ordersIndex.tableName = .ok [] := by
    unfold existingIndexNames
    rw [validated, quoteIdentifier_of_valid database]
    rfl
  simp only [IndexRequest.prepare, createMissingIndex, client, names, built, Except.bind, bind]
  rfl

theorem ordersActions_run : ∃ ddl state, run step idle ordersActions = some state ∧
    state.executions = [⟨1, 5, ddl⟩] := by
  obtain ⟨ddl, built⟩ := ordersIndex_built
  refine ⟨ddl, ?_⟩
  have received : step idle (.receive 1 (.create ordersIndex) ⟨7, "dba"⟩ (some salesRow) reachable) =
      some (put idle 1 (.create ordersIndex)
        (.prepared (writeIndexAudit ordersIndex ⟨7, "dba"⟩ ddl .running none) none)) := by
    simp only [step, ordersIndex_prepared built]
    rfl
  rw [ordersActions, run_cons, received]
  exact ⟨_, rfl, rfl⟩

theorem audited_ddl_protocol_orders : ∃ state, run step idle ordersActions = some state ∧
    state.executions ≠ [] ∧ (state.executions.map Execution.auditId).Nodup ∧
    Along step ExecutesAudited idle ordersActions ∧
    Along step SettlesOwnAudit idle ordersActions := by
  obtain ⟨ddl, state, ran, executed⟩ := ordersActions_run
  obtain ⟨audited, once, -, settled⟩ := audited_ddl_protocol initial_idle ran
  exact ⟨state, ran, by simp [executed], once, audited, settled⟩

end OneRequest

end SqlMonitor.AuditedDdl
