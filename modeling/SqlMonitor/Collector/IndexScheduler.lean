import Mathlib.Algebra.Order.Ring.Rat
import Mathlib.Data.NNRat.Defs
import SqlMonitor.Shared.InsertionDict
import SqlMonitor.Shared.TransitionSystem
import SqlMonitor.Collector.IndexCollection

set_option autoImplicit false

namespace SqlMonitor.IndexScheduler

open Collector Services

structure WorkerRun where
  fuel : Nat
  clientFactory : String → Raises IndexClient
  seconds : NNRat

/-- Workers are numbered by their submission; one without a run never finishes. -/
structure Collection where
  databases : List String
  connectionString : String
  missingDue : Bool
  fragmentationDue : Bool
  concurrency : Int
  timeoutSeconds : Rat
  secondsText : String
  calledAt : Rat
  workers : Nat → Option WorkerRun

-- `(database_name, executor, started_at)`, and when the executor was given the work.
structure Submission where
  databaseName : String
  submittedAt : Rat
  startedAt : Rat
deriving DecidableEq

-- The two `for` loops that yield results.
inductive Batch where
  | timedOut
  | done
deriving DecidableEq

structure Yielded where
  future : Nat
  submission : Submission
  batch : Batch
  result : IndexDatabaseCollectionResult
deriving DecidableEq

inductive Phase where
  | starting (left : Nat)
  | looking
  | waiting (enteredAt timeout : Rat)
  | serving (batch : Batch) (queue : List Nat)
  | suspended (batch : Batch) (queue : List Nat)
  | finished
  | closed
deriving DecidableEq

structure State where
  now : Rat
  databaseIter : List String
  submitted : Nat
  active : InsertionDict Nat Submission
  phase : Phase
  yielded : List Yielded

inductive Action where
  | elapse (seconds : NNRat)
  | start (gap : NNRat)
  | look
  | wake (done : List Nat)
  | take
  | resume (gap : NNRat)
  | close

section Workers

variable (c : Collection)

def maxWorkers : Nat := (max 1 (min c.concurrency c.databases.length)).toNat

def timeoutSeconds : Rat := max (1 / 1000) c.timeoutSeconds

def workerResult (future : Nat) (submission : Submission) :
    Option (Rat × IndexDatabaseCollectionResult) :=
  (c.workers future).bind fun worker =>
    (collectOneIndexDatabase worker.fuel worker.clientFactory c.connectionString submission.databaseName
      c.missingDue c.fragmentationDue).map fun result => (submission.submittedAt + worker.seconds, result)

def finishedBy (time : Rat) (future : Nat) (submission : Submission) : Bool :=
  match workerResult c future submission with
  | some (finishedAt, _) => finishedAt ≤ time
  | none => false

def yieldedResult (future : Nat) (submission : Submission) :
    Batch → Option IndexDatabaseCollectionResult
  | .timedOut =>
    some (timedOutIndexDatabaseResult submission.databaseName c.missingDue c.fragmentationDue c.secondsText)
  | .done => (workerResult c future submission).map Prod.snd

end Workers

section Steps

variable (c : Collection) (s : State)

def initial : State where
  now := c.calledAt
  databaseIter := c.databases
  submitted := 0
  active := .empty
  phase := if c.databases = [] then .finished else .starting (maxWorkers c)
  yielded := []

-- The work is handed over before the clock is read, and may be done by then.
def submitNextDatabase (gap : NNRat) : State :=
  match s.databaseIter with
  | [] => s
  | databaseName :: rest =>
    { s with
      now := s.now + gap
      databaseIter := rest
      submitted := s.submitted + 1
      active := s.active.set s.submitted ⟨databaseName, s.now, s.now + gap⟩ }

def timedOut : List Nat :=
  (s.active.entries.filter fun entry => timeoutSeconds c ≤ s.now - entry.2.startedAt).map Prod.fst

def nextTimeoutSeconds : Rat :=
  ((s.active.values.map fun submission => timeoutSeconds c - (s.now - submission.startedAt)).min?).getD 0

def lookAtActive : Phase :=
  if s.active.entries = [] then .finished
  else if timedOut c s ≠ [] then .serving .timedOut (timedOut c s)
  else .waiting s.now (min (1 / 2) (max (1 / 1000) (nextTimeoutSeconds c s)))

/--
What `wait` may return, in whatever order the set is walked: finished futures only, all
that had finished when it was called, and none only after the timeout.
-/
def WaitReturns (enteredAt timeout : Rat) (done : List Nat) : Prop :=
  done.Nodup ∧
    (∀ future ∈ done, ∃ submission, s.active.get? future = some submission ∧
      finishedBy c s.now future submission = true) ∧
    (∀ entry ∈ s.active.entries, finishedBy c enteredAt entry.1 entry.2 = true → entry.1 ∈ done) ∧
    (done = [] → enteredAt + timeout ≤ s.now)

instance (enteredAt timeout : Rat) (done : List Nat) :
    Decidable (WaitReturns c s enteredAt timeout done) :=
  have finished : ∀ future, Decidable (∃ submission, s.active.get? future = some submission ∧
      finishedBy c s.now future submission = true) := fun future =>
    match found : s.active.get? future with
    | none => .isFalse (by simp)
    | some submission => decidable_of_iff (finishedBy c s.now future submission = true) (by simp)
  inferInstanceAs (Decidable (_ ∧ _ ∧ _ ∧ _))

def step (s : State) : Action → Option State
  | .elapse seconds => some { s with now := s.now + seconds }
  | .start gap =>
    match s.phase with
    | .starting 0 => some { s with phase := .looking }
    | .starting (left + 1) =>
      -- The loop breaks when there is nothing left to submit.
      if s.databaseIter = [] then some { s with phase := .looking }
      else some { submitNextDatabase s gap with phase := .starting left }
    | _ => none
  | .look =>
    match s.phase with
    | .looking => some { s with phase := lookAtActive c s }
    | _ => none
  | .wake done =>
    match s.phase with
    | .waiting enteredAt timeout =>
      if WaitReturns c s enteredAt timeout done then some { s with phase := .serving .done done } else none
    | _ => none
  | .take =>
    match s.phase with
    | .serving _ [] => some { s with phase := .looking }
    | .serving batch (future :: queue) =>
      match s.active.get? future with
      | none => none
      | some submission =>
        (yieldedResult c future submission batch).map fun result =>
          { s with
            active := s.active.erase future
            phase := .suspended batch queue
            yielded := s.yielded ++ [⟨future, submission, batch, result⟩] }
    | _ => none
  | .resume gap =>
    match s.phase with
    | .suspended batch queue => some { submitNextDatabase s gap with phase := .serving batch queue }
    | _ => none
  | .close =>
    match s.phase with
    | .suspended _ _ => some { s with phase := .closed }
    | _ => none

end Steps

end SqlMonitor.IndexScheduler
