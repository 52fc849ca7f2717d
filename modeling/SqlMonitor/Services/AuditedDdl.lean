import Mathlib.Logic.Function.Basic
import SqlMonitor.Services.IndexOperations
import SqlMonitor.Shared.TransitionSystem

set_option autoImplicit false

namespace SqlMonitor.AuditedDdl

open TransitionSystem Services

abbrev RequestId := Nat

abbrev AuditId := Uuid

inductive IndexRequest where
  | create (data : CreateIndexRequestData)
  | maintain (data : FragmentationActionRequestData)
deriving DecidableEq

def IndexRequest.prepare (surroundings : OperationSurroundings) (record : Option InstanceRecord)
    (operator : Operator) : IndexRequest → Prepared
  | .create data => createMissingIndex surroundings record data operator
  | .maintain data => executeFragmentationAction surroundings record data operator

def IndexRequest.codes : IndexRequest → DdlErrorCodes
  | .create _ => createCodes
  | .maintain _ => maintenanceCodes

/-- Where a request stands, and after its answer the background task that it added. -/
inductive Phase where
  | prepared (audit : MissingIndexAudit) (raises : Option PyException)
  | stored (auditId : AuditId) (raises : Option PyException)
  | rejected (exc : PyException)
  -- A commit or a refresh has raised.
  | broken
  | accepted (auditId : AuditId)
  | loaded (auditId : AuditId) (audit : MissingIndexAudit)
  | executing (auditId : AuditId)
  | finishing (auditId : AuditId) (finished : AuditResult × Option String)
  | ended (auditId : AuditId)
deriving DecidableEq

structure Request where
  asked : IndexRequest
  phase : Phase
deriving DecidableEq

structure Execution where
  request : RequestId
  auditId : AuditId
  ddl : String
deriving DecidableEq

structure State where
  requests : RequestId → Option Request
  audits : AuditId → Option MissingIndexAudit
  origins : AuditId → Option RequestId
  executions : List Execution

inductive Action where
  | receive (id : RequestId) (asked : IndexRequest) (operator : Operator)
    (record : Option InstanceRecord) (surroundings : OperationSurroundings)
  | storeAudit (id : RequestId) (auditId : AuditId)
  | storeAuditFails (id : RequestId)
  | answer (id : RequestId)
  | answerFails (id : RequestId)
  | loadAudit (id : RequestId)
  | startRun (id : RequestId) (record : Option InstanceRecord)
    (surroundings : OperationSurroundings)
  | executeReturns (id : RequestId) (outcome : Except DriverException Unit)
  | storeResult (id : RequestId)
  | storeResultFails (id : RequestId)

section Steps

variable (state : State)

def put (id : RequestId) (asked : IndexRequest) (phase : Phase) : State :=
  { state with requests := Function.update state.requests id (some ⟨asked, phase⟩) }

@[simp] theorem put_self (id : RequestId) (asked : IndexRequest) (phase : Phase) :
    (put state id asked phase).requests id = some ⟨asked, phase⟩ :=
  Function.update_self ..

theorem put_of_ne {id other : RequestId} (apart : other ≠ id) (asked : IndexRequest)
    (phase : Phase) : (put state id asked phase).requests other = state.requests other :=
  Function.update_of_ne apart ..

def insertAudit (id : RequestId) (auditId : AuditId) (audit : MissingIndexAudit) : State :=
  { state with
    audits := Function.update state.audits auditId (some audit)
    origins := Function.update state.origins auditId (some id) }

def settleAudit (auditId : AuditId) (finished : AuditResult × Option String) : State :=
  { state with
    audits := Function.update state.audits auditId
      ((state.audits auditId).map fun audit => markIndexAuditFinished audit finished) }

def execute (execution : Execution) : State :=
  { state with executions := state.executions ++ [execution] }

def receivedPhase : Prepared → Phase
  | .error exc => .rejected exc
  | .ok (audit, raises) => .prepared audit raises

-- A background task is added only when nothing was raised.
def answeredPhase (auditId : AuditId) : Option PyException → Phase
  | some exc => .rejected exc
  | none => .accepted auditId

def loadedPhase (auditId : AuditId) : Option MissingIndexAudit → Phase
  | none => .ended auditId
  | some audit => .loaded auditId audit

def startedRun (id : RequestId) (asked : IndexRequest) (auditId : AuditId) :
    Raises RunStart → State
  | .error _ => put state id asked (.ended auditId)
  | .ok (.finished result errorMessage) =>
    put state id asked (.finishing auditId (result, errorMessage))
  | .ok (.executing _ ddl _) =>
    execute (put state id asked (.executing auditId)) ⟨id, auditId, ddl⟩

def step : Action → Option State
  | .receive id asked operator record surroundings =>
    if state.requests id = none then
      some (put state id asked (receivedPhase (asked.prepare surroundings record operator)))
    else none
  | .storeAudit id auditId =>
    match state.requests id with
    | some ⟨asked, .prepared audit raises⟩ =>
      if state.audits auditId = none then
        some (insertAudit (put state id asked (.stored auditId raises)) id auditId audit)
      else none
    | _ => none
  | .storeAuditFails id =>
    match state.requests id with
    | some ⟨asked, .prepared _ _⟩ => some (put state id asked .broken)
    | _ => none
  | .answer id =>
    match state.requests id with
    | some ⟨asked, .stored auditId raises⟩ =>
      some (put state id asked (answeredPhase auditId raises))
    | _ => none
  | .answerFails id =>
    match state.requests id with
    | some ⟨asked, .stored _ _⟩ => some (put state id asked .broken)
    | _ => none
  | .loadAudit id =>
    match state.requests id with
    | some ⟨asked, .accepted auditId⟩ =>
      some (put state id asked (loadedPhase auditId (state.audits auditId)))
    | _ => none
  | .startRun id record surroundings =>
    match state.requests id with
    | some ⟨asked, .loaded auditId audit⟩ =>
      some (startedRun state id asked auditId (startIndexRun surroundings audit record))
    | _ => none
  | .executeReturns id outcome =>
    match state.requests id with
    | some ⟨asked, .executing auditId⟩ =>
      some (put state id asked (.finishing auditId (executionResult asked.codes outcome)))
    | _ => none
  | .storeResult id =>
    match state.requests id with
    | some ⟨asked, .finishing auditId finished⟩ =>
      some (settleAudit (put state id asked (.ended auditId)) auditId finished)
    | _ => none
  | .storeResultFails id =>
    match state.requests id with
    | some ⟨asked, .finishing auditId _⟩ => some (put state id asked (.ended auditId))
    | _ => none

structure Initial : Prop where
  requests : ∀ id, state.requests id = none
  origins : ∀ auditId, state.origins auditId = none
  executions : state.executions = []

end Steps

section Transitions

variable (state : State)

inductive Transition : Action → State → Prop
  | received {id : RequestId} (asked : IndexRequest) (operator : Operator)
      (record : Option InstanceRecord) (surroundings : OperationSurroundings)
      (unused : state.requests id = none) :
      Transition (.receive id asked operator record surroundings)
        (put state id asked (receivedPhase (asked.prepare surroundings record operator)))
  | stored {id : RequestId} {asked : IndexRequest} {audit : MissingIndexAudit}
      {raises : Option PyException} (auditId : AuditId)
      (found : state.requests id = some ⟨asked, .prepared audit raises⟩)
      (fresh : state.audits auditId = none) :
      Transition (.storeAudit id auditId)
        (insertAudit (put state id asked (.stored auditId raises)) id auditId audit)
  | notStored {id : RequestId} {asked : IndexRequest} {audit : MissingIndexAudit}
      {raises : Option PyException}
      (found : state.requests id = some ⟨asked, .prepared audit raises⟩) :
      Transition (.storeAuditFails id) (put state id asked .broken)
  | answered {id : RequestId} {asked : IndexRequest} {auditId : AuditId}
      {raises : Option PyException}
      (found : state.requests id = some ⟨asked, .stored auditId raises⟩) :
      Transition (.answer id) (put state id asked (answeredPhase auditId raises))
  | notAnswered {id : RequestId} {asked : IndexRequest} {auditId : AuditId}
      {raises : Option PyException}
      (found : state.requests id = some ⟨asked, .stored auditId raises⟩) :
      Transition (.answerFails id) (put state id asked .broken)
  | loaded {id : RequestId} {asked : IndexRequest} {auditId : AuditId}
      (found : state.requests id = some ⟨asked, .accepted auditId⟩) :
      Transition (.loadAudit id)
        (put state id asked (loadedPhase auditId (state.audits auditId)))
  | started {id : RequestId} {asked : IndexRequest} {auditId : AuditId} {audit : MissingIndexAudit}
      (record : Option InstanceRecord) (surroundings : OperationSurroundings)
      (found : state.requests id = some ⟨asked, .loaded auditId audit⟩) :
      Transition (.startRun id record surroundings)
        (startedRun state id asked auditId (startIndexRun surroundings audit record))
  | returned {id : RequestId} {asked : IndexRequest} {auditId : AuditId}
      (outcome : Except DriverException Unit)
      (found : state.requests id = some ⟨asked, .executing auditId⟩) :
      Transition (.executeReturns id outcome)
        (put state id asked (.finishing auditId (executionResult asked.codes outcome)))
  | settled {id : RequestId} {asked : IndexRequest} {auditId : AuditId}
      {finished : AuditResult × Option String}
      (found : state.requests id = some ⟨asked, .finishing auditId finished⟩) :
      Transition (.storeResult id)
        (settleAudit (put state id asked (.ended auditId)) auditId finished)
  | notSettled {id : RequestId} {asked : IndexRequest} {auditId : AuditId}
      {finished : AuditResult × Option String}
      (found : state.requests id = some ⟨asked, .finishing auditId finished⟩) :
      Transition (.storeResultFails id) (put state id asked (.ended auditId))

variable {state} {next : State} {action : Action}

theorem transition_of_step (stepped : step state action = some next) :
    Transition state action next := by
  cases action with
  | receive id asked operator record surroundings =>
      obtain ⟨unused, rfl⟩ := of_guarded stepped
      exact .received asked operator record surroundings unused
  | storeAudit id auditId =>
      simp only [step] at stepped
      split at stepped
      next found =>
        obtain ⟨fresh, rfl⟩ := of_guarded stepped
        exact .stored auditId found fresh
      next => simp at stepped
  | storeAuditFails id =>
      simp only [step] at stepped
      split at stepped
      next found => exact Option.some.inj stepped ▸ .notStored found
      next => simp at stepped
  | answer id =>
      simp only [step] at stepped
      split at stepped
      next found => exact Option.some.inj stepped ▸ .answered found
      next => simp at stepped
  | answerFails id =>
      simp only [step] at stepped
      split at stepped
      next found => exact Option.some.inj stepped ▸ .notAnswered found
      next => simp at stepped
  | loadAudit id =>
      simp only [step] at stepped
      split at stepped
      next found => exact Option.some.inj stepped ▸ .loaded found
      next => simp at stepped
  | startRun id record surroundings =>
      simp only [step] at stepped
      split at stepped
      next found => exact Option.some.inj stepped ▸ .started record surroundings found
      next => simp at stepped
  | executeReturns id outcome =>
      simp only [step] at stepped
      split at stepped
      next found => exact Option.some.inj stepped ▸ .returned outcome found
      next => simp at stepped
  | storeResult id =>
      simp only [step] at stepped
      split at stepped
      next found => exact Option.some.inj stepped ▸ .settled found
      next => simp at stepped
  | storeResultFails id =>
      simp only [step] at stepped
      split at stepped
      next found => exact Option.some.inj stepped ▸ .notSettled found
      next => simp at stepped

end Transitions

end SqlMonitor.AuditedDdl
