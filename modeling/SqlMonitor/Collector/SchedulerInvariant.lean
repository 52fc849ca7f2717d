import Mathlib.Data.List.Range
import Mathlib.Tactic.Linarith
import SqlMonitor.Collector.IndexScheduler
import SqlMonitor.Collector.IndexRuns

set_option autoImplicit false

namespace SqlMonitor.IndexScheduler

open Collector Services TransitionSystem

section Transitions

inductive Transition (c : Collection) (s : State) : Action → State → Prop
  | elapsed (seconds : NNRat) : Transition c s (.elapse seconds) { s with now := s.now + seconds }
  | startEnded (gap : NNRat) {left : Nat} (phase : s.phase = .starting left)
      (ended : left = 0 ∨ s.databaseIter = []) :
      Transition c s (.start gap) { s with phase := .looking }
  | started (gap : NNRat) {left : Nat} (phase : s.phase = .starting (left + 1))
      (more : s.databaseIter ≠ []) :
      Transition c s (.start gap) { submitNextDatabase s gap with phase := .starting left }
  | emptied (phase : s.phase = .looking) (empty : s.active.entries = []) :
      Transition c s .look { s with phase := .finished }
  | overdue (phase : s.phase = .looking) (late : timedOut c s ≠ []) :
      Transition c s .look { s with phase := .serving .timedOut (timedOut c s) }
  | waited (timeout : Rat) (phase : s.phase = .looking) (busy : s.active.entries ≠ [])
      (early : timedOut c s = []) : Transition c s .look { s with phase := .waiting s.now timeout }
  | woken {enteredAt timeout : Rat} {done : List Nat} (phase : s.phase = .waiting enteredAt timeout)
      (returns : WaitReturns c s enteredAt timeout done) :
      Transition c s (.wake done) { s with phase := .serving .done done }
  | served {batch : Batch} (phase : s.phase = .serving batch []) :
      Transition c s .take { s with phase := .looking }
  | taken {batch : Batch} {future : Nat} {queue : List Nat} {submission : Submission}
      {result : IndexDatabaseCollectionResult} (phase : s.phase = .serving batch (future :: queue))
      (found : s.active.get? future = some submission)
      (yields : yieldedResult c future submission batch = some result) :
      Transition c s .take
        { s with
          active := s.active.erase future
          phase := .suspended batch queue
          yielded := s.yielded ++ [⟨future, submission, batch, result⟩] }
  | resumed (gap : NNRat) {batch : Batch} {queue : List Nat} (phase : s.phase = .suspended batch queue) :
      Transition c s (.resume gap) { submitNextDatabase s gap with phase := .serving batch queue }
  | abandoned {batch : Batch} {queue : List Nat} (phase : s.phase = .suspended batch queue) :
      Transition c s .close { s with phase := .closed }

theorem transition_of_look {c : Collection} {s : State} (phase : s.phase = .looking) :
    Transition c s .look { s with phase := lookAtActive c s } := by
  unfold lookAtActive
  split
  next empty => exact .emptied phase empty
  next busy =>
    split
    next late => exact .overdue phase late
    next early => exact .waited _ phase busy (not_ne_iff.mp early)

theorem transition_of_step {c : Collection} {s next : State} {action : Action}
    (stepped : step c s action = some next) : Transition c s action next := by
  cases action with
  | elapse seconds =>
      obtain rfl := Option.some.inj stepped
      exact .elapsed seconds
  | start gap =>
      simp only [step] at stepped
      split at stepped
      next phase =>
        obtain rfl := Option.some.inj stepped
        exact .startEnded gap phase (Or.inl rfl)
      next left phase =>
        split at stepped
        next ended =>
          obtain rfl := Option.some.inj stepped
          exact .startEnded gap phase (Or.inr ended)
        next more =>
          obtain rfl := Option.some.inj stepped
          exact .started gap phase more
      next => simp at stepped
  | look =>
      simp only [step] at stepped
      split at stepped
      next phase =>
        obtain rfl := Option.some.inj stepped
        exact transition_of_look phase
      next => simp at stepped
  | wake done =>
      simp only [step] at stepped
      split at stepped
      next phase =>
        obtain ⟨returns, rfl⟩ := of_guarded stepped
        exact .woken phase returns
      next => simp at stepped
  | take =>
      simp only [step] at stepped
      split at stepped
      next phase =>
        obtain rfl := Option.some.inj stepped
        exact .served phase
      next phase =>
        split at stepped
        next => simp at stepped
        next found =>
          obtain ⟨result, yields, rfl⟩ := Option.map_eq_some_iff.mp stepped
          exact .taken phase found yields
      next => simp at stepped
  | resume gap =>
      simp only [step] at stepped
      split at stepped
      next phase =>
        obtain rfl := Option.some.inj stepped
        exact .resumed gap phase
      next => simp at stepped
  | close =>
      simp only [step] at stepped
      split at stepped
      next phase =>
        obtain rfl := Option.some.inj stepped
        exact .abandoned phase
      next => simp at stepped

end Transitions

section Results

variable {c : Collection} {future : Nat} {submission : Submission}

theorem workerResult_databaseName {finishedAt : Rat} {result : IndexDatabaseCollectionResult}
    (finished : workerResult c future submission = some (finishedAt, result)) :
    result.databaseName = submission.databaseName := by
  obtain ⟨worker, -, collected⟩ := Option.bind_eq_some_iff.mp finished
  obtain ⟨own, found, same⟩ := Option.map_eq_some_iff.mp collected
  obtain ⟨-, rfl⟩ := Prod.mk.inj same
  exact (workerResult_of_finished found).named

theorem yieldedResult_databaseName {batch : Batch} {result : IndexDatabaseCollectionResult}
    (yields : yieldedResult c future submission batch = some result) :
    result.databaseName = submission.databaseName := by
  cases batch with
  | timedOut =>
      obtain rfl := Option.some.inj yields
      rfl
  | done =>
      obtain ⟨⟨finishedAt, own⟩, finished, rfl⟩ := Option.map_eq_some_iff.mp yields
      exact workerResult_databaseName finished

theorem yieldedResult_isSome {time : Rat} {batch : Batch}
    (finished : batch = .done → finishedBy c time future submission = true) :
    ∃ result, yieldedResult c future submission batch = some result := by
  cases batch with
  | timedOut => exact ⟨_, rfl⟩
  | done =>
      have done := finished rfl
      unfold finishedBy at done
      split at done
      next finishedAt result found => exact ⟨result, by simp [yieldedResult, found]⟩
      next => simp at done

theorem finishedBy_later {time later : Rat} (after : time ≤ later)
    (finished : finishedBy c time future submission = true) :
    finishedBy c later future submission = true := by
  unfold finishedBy at finished ⊢
  split at finished
  next => simpa using (of_decide_eq_true finished).trans after
  next => simp at finished

end Results

section Accounting

structure Accounted (c : Collection) (s : State) : Prop where
  databases : (s.yielded.map (·.result.databaseName) ++
    (s.active.values.map (·.databaseName) ++ s.databaseIter)).Perm c.databases
  futures : (s.yielded.map (·.future) ++ s.active.keys).Perm (List.range s.submitted)
  clock : ∀ entry ∈ s.active.entries,
    entry.2.submittedAt ≤ entry.2.startedAt ∧ entry.2.startedAt ≤ s.now
  results : ∀ yielded ∈ s.yielded,
    yieldedResult c yielded.future yielded.submission yielded.batch = some yielded.result

variable {c : Collection} {s : State}

theorem accounted_initial (c : Collection) : Accounted c (initial c) := by
  refine ⟨?_, ?_, ?_, ?_⟩ <;> simp [initial, InsertionDict.values, InsertionDict.empty,
    InsertionDict.keys]

theorem Accounted.phase (accounted : Accounted c s) (phase : Phase) :
    Accounted c { s with phase } :=
  ⟨accounted.databases, accounted.futures, accounted.clock, accounted.results⟩

theorem Accounted.elapse (accounted : Accounted c s) (seconds : NNRat) :
    Accounted c { s with now := s.now + seconds } := by
  refine ⟨accounted.databases, accounted.futures, ?_, accounted.results⟩
  intro entry member
  obtain ⟨first, second⟩ := accounted.clock entry member
  exact ⟨first, second.trans (le_add_of_nonneg_right seconds.coe_nonneg)⟩

theorem submitNextDatabase_of_nil {gap : NNRat} (empty : s.databaseIter = []) :
    submitNextDatabase s gap = s := by
  simp [submitNextDatabase, empty]

theorem submitNextDatabase_of_cons {gap : NNRat} {databaseName : String} {rest : List String}
    (more : s.databaseIter = databaseName :: rest) :
    submitNextDatabase s gap =
      { s with
        now := s.now + gap
        databaseIter := rest
        submitted := s.submitted + 1
        active := s.active.set s.submitted ⟨databaseName, s.now, s.now + gap⟩ } := by
  simp [submitNextDatabase, more]

theorem Accounted.submitted_fresh (accounted : Accounted c s) : s.submitted ∉ s.active.keys := by
  intro member
  have known := accounted.futures.subset (List.mem_append_right _ member)
  exact absurd (List.mem_range.mp known) (Nat.lt_irrefl _)

theorem Accounted.entries_submitted (accounted : Accounted c s) (submission : Submission) :
    (s.active.set s.submitted submission).entries = s.active.entries ++ [(s.submitted, submission)] :=
  InsertionDict.entries_set_of_absent _ _ _ accounted.submitted_fresh

theorem Accounted.get?_submit (accounted : Accounted c s) {future : Nat} {submission : Submission}
    (gap : NNRat)
    (found : s.active.get? future = some submission) :
    (submitNextDatabase s gap).active.get? future = some submission := by
  cases more : s.databaseIter with
  | nil =>
      rw [submitNextDatabase_of_nil more]
      exact found
  | cons databaseName rest =>
      have known : future ≠ s.submitted := by
        rintro rfl
        exact accounted.submitted_fresh ((InsertionDict.mem_keys_iff _ _).mpr ⟨submission, found⟩)
      rw [submitNextDatabase_of_cons more]
      simp [known, found]

theorem now_submit (gap : NNRat) : s.now ≤ (submitNextDatabase s gap).now := by
  unfold submitNextDatabase
  split
  · exact le_rfl
  · exact le_add_of_nonneg_right gap.coe_nonneg

theorem Accounted.submit (accounted : Accounted c s) (gap : NNRat) :
    Accounted c (submitNextDatabase s gap) := by
  cases more : s.databaseIter with
  | nil =>
      rw [submitNextDatabase_of_nil more]
      exact accounted
  | cons databaseName rest =>
      rw [submitNextDatabase_of_cons more]
      have entries := accounted.entries_submitted ⟨databaseName, s.now, s.now + gap⟩
      refine ⟨?_, ?_, ?_, accounted.results⟩
      · have before := accounted.databases
        rw [more] at before
        simpa [InsertionDict.values, entries] using before
      · simp only [InsertionDict.keys, entries, List.map_append, List.range_succ,
          ← List.append_assoc]
        exact accounted.futures.append_right _
      · intro entry member
        have later : s.now ≤ s.now + gap := le_add_of_nonneg_right gap.coe_nonneg
        rw [entries] at member
        rcases List.mem_append.mp member with old | new
        · obtain ⟨first, second⟩ := accounted.clock entry old
          exact ⟨first, second.trans later⟩
        · obtain rfl := List.mem_singleton.mp new
          exact ⟨later, le_rfl⟩

theorem Accounted.take (accounted : Accounted c s) {future : Nat} {submission : Submission}
    {batch : Batch}
    {result : IndexDatabaseCollectionResult} (found : s.active.get? future = some submission)
    (yields : yieldedResult c future submission batch = some result) :
    Accounted c
      { s with
        active := s.active.erase future
        yielded := s.yielded ++ [⟨future, submission, batch, result⟩] } := by
  have split := InsertionDict.entries_perm_erase _ _ _ found
  refine ⟨?_, ?_, ?_, ?_⟩
  · refine List.Perm.trans ?_ accounted.databases
    simp only [List.map_append, List.map_cons, List.map_nil, List.append_assoc,
      List.singleton_append,
      InsertionDict.values, List.map_map]
    have names := split.map fun entry => entry.2.databaseName
    rw [yieldedResult_databaseName yields, ← List.cons_append]
    exact (names.symm.append_right _).append_left _
  · refine List.Perm.trans ?_ accounted.futures
    simp only [List.map_append, List.map_cons, List.map_nil, List.append_assoc,
      List.singleton_append,
      InsertionDict.keys]
    exact (split.map Prod.fst).symm.append_left _
  · intro entry member
    exact accounted.clock entry ((InsertionDict.mem_erase_iff _ _ entry).mp member).1
  · intro yielded member
    rcases List.mem_append.mp member with old | new
    · exact accounted.results yielded old
    · obtain rfl := List.mem_singleton.mp new
      exact yields

theorem Accounted.transition {action : Action} {next : State} (accounted : Accounted c s)
    (moved : Transition c s action next) : Accounted c next := by
  cases moved with
  | elapsed seconds => exact accounted.elapse seconds
  | started gap _ _ => exact (accounted.submit gap).phase _
  | resumed gap _ => exact (accounted.submit gap).phase _
  | taken _ found yields => exact (accounted.take found yields).phase _
  | startEnded | emptied | overdue | waited | woken | served | abandoned => exact accounted.phase _

end Accounting

section Phases

variable (c : Collection) (s : State)

structure Busy : Prop where
  bounded : s.active.entries.length ≤ maxWorkers c
  served : s.databaseIter ≠ [] → s.active.entries ≠ []

-- The futures that a loop has still to pop are there to be popped, each once.
structure Queued (batch : Batch) (queue : List Nat) : Prop where
  distinct : queue.Nodup
  present : ∀ future ∈ queue, ∃ submission, s.active.get? future = some submission ∧
    (batch = .done → finishedBy c s.now future submission = true)

def PhaseFits : Phase → Prop
  | .starting left => s.active.entries.length + left = maxWorkers c
  | .looking => Busy c s
  | .waiting _ _ => Busy c s
  | .serving batch queue => Busy c s ∧ Queued c s batch queue
  -- One place is free for the next submission.
  | .suspended batch queue => s.active.entries.length + 1 ≤ maxWorkers c ∧ Queued c s batch queue
  | .finished => s.active.entries = [] ∧ s.databaseIter = []
  | .closed => s.active.entries.length ≤ maxWorkers c

variable {c s} {batch : Batch} {queue : List Nat}

theorem maxWorkers_pos (c : Collection) : 0 < maxWorkers c := by
  unfold maxWorkers
  omega

theorem Busy.phase (busy : Busy c s) (phase : Phase) : Busy c { s with phase } :=
  ⟨busy.bounded, busy.served⟩

theorem Queued.phase (queued : Queued c s batch queue) (phase : Phase) :
    Queued c { s with phase } batch queue :=
  ⟨queued.distinct, queued.present⟩

theorem Queued.elapse (queued : Queued c s batch queue) (seconds : NNRat) :
    Queued c { s with now := s.now + seconds } batch queue := by
  refine ⟨queued.distinct, ?_⟩
  intro future member
  obtain ⟨submission, found, finished⟩ := queued.present future member
  exact ⟨submission, found, fun done =>
    finishedBy_later (le_add_of_nonneg_right seconds.coe_nonneg) (finished done)⟩

theorem PhaseFits.elapse {phase : Phase} (fits : PhaseFits c s phase) (seconds : NNRat) :
    PhaseFits c { s with now := s.now + seconds } phase := by
  cases phase with
  | looking => exact ⟨fits.bounded, fits.served⟩
  | waiting => exact ⟨fits.bounded, fits.served⟩
  | serving => exact ⟨⟨fits.1.bounded, fits.1.served⟩, fits.2.elapse seconds⟩
  | suspended => exact ⟨fits.1, fits.2.elapse seconds⟩
  | starting | finished | closed => exact fits

theorem Queued.submit (accounted : Accounted c s) (queued : Queued c s batch queue) (gap : NNRat) :
    Queued c (submitNextDatabase s gap) batch queue := by
  refine ⟨queued.distinct, ?_⟩
  intro future member
  obtain ⟨submission, found, finished⟩ := queued.present future member
  exact ⟨submission, accounted.get?_submit gap found, fun done =>
    finishedBy_later (now_submit gap) (finished done)⟩

theorem length_submit (accounted : Accounted c s) {gap : NNRat} (more : s.databaseIter ≠ []) :
    (submitNextDatabase s gap).active.entries.length = s.active.entries.length + 1 := by
  obtain ⟨databaseName, rest, split⟩ := List.exists_cons_of_ne_nil more
  rw [submitNextDatabase_of_cons split, accounted.entries_submitted, List.length_append,
    List.length_singleton]

theorem busy_submit (accounted : Accounted c s) {gap : NNRat}
    (free : s.active.entries.length + 1 ≤ maxWorkers c) :
    Busy c (submitNextDatabase s gap) := by
  by_cases more : s.databaseIter = []
  · rw [submitNextDatabase_of_nil more]
    exact ⟨by omega, fun left => absurd more left⟩
  · have length : (submitNextDatabase s gap).active.entries.length = s.active.entries.length + 1 :=
      length_submit accounted more
    refine ⟨by omega, fun _ empty => ?_⟩
    rw [empty] at length
    simp at length

theorem queued_timedOut (c : Collection) (s : State) : Queued c s .timedOut (timedOut c s) := by
  refine ⟨?_, ?_⟩
  · exact s.active.distinct.sublist (List.filter_sublist.map _)
  · intro future member
    obtain ⟨entry, kept, rfl⟩ := List.mem_map.mp member
    refine ⟨entry.2, ?_, nofun⟩
    exact (InsertionDict.get?_eq_some_iff _ _ _).mpr (List.mem_filter.mp kept).1

theorem queued_done {enteredAt timeout : Rat} {done : List Nat}
    (returns : WaitReturns c s enteredAt timeout done) :
    Queued c s .done done := by
  obtain ⟨distinct, finished, -⟩ := returns
  refine ⟨distinct, fun future member => ?_⟩
  obtain ⟨submission, found, ended⟩ := finished future member
  exact ⟨submission, found, fun _ => ended⟩

theorem length_erase {future : Nat} {submission : Submission}
    (found : s.active.get? future = some submission) :
    (s.active.erase future).entries.length + 1 = s.active.entries.length :=
  (InsertionDict.entries_perm_erase _ _ _ found).length_eq.symm

theorem get?_erase_of_ne {future other : Nat} {submission : Submission} (apart : other ≠ future)
    (found : s.active.get? other = some submission) :
    (s.active.erase future).get? other = some submission := by
  rw [InsertionDict.get?_eq_some_iff] at found ⊢
  exact (InsertionDict.mem_erase_iff _ _ _).mpr ⟨found, apart⟩

theorem Queued.take {future : Nat} (queued : Queued c s batch (future :: queue))
    (yielded : List Yielded) :
    Queued c { s with active := s.active.erase future, yielded } batch queue := by
  obtain ⟨first, rest⟩ := List.nodup_cons.mp queued.distinct
  refine ⟨rest, ?_⟩
  intro other member
  obtain ⟨submission, found, finished⟩ := queued.present other (List.mem_cons_of_mem _ member)
  have apart : other ≠ future := fun same => first (same ▸ member)
  exact ⟨submission, get?_erase_of_ne apart found, finished⟩

theorem PhaseFits.transition {action : Action} {next : State} (accounted : Accounted c s)
    (fits : PhaseFits c s s.phase) (moved : Transition c s action next) :
    PhaseFits c next next.phase := by
  cases moved with
  | elapsed seconds => exact fits.elapse seconds
  | startEnded gap phase ended =>
      rw [phase] at fits
      have full : s.active.entries.length + _ = maxWorkers c := fits
      refine ⟨Nat.le_of_add_right_le full.le, fun more empty => ?_⟩
      -- Without a break every worker was started.
      rcases ended with rfl | stopped
      · rw [empty] at full
        exact absurd full (maxWorkers_pos c).ne
      · exact more stopped
  | started gap phase more =>
      rw [phase] at fits
      have full : s.active.entries.length + (_ + 1) = maxWorkers c := fits
      have length : (submitNextDatabase s gap).active.entries.length = s.active.entries.length + 1 :=
        length_submit accounted more
      change (submitNextDatabase s gap).active.entries.length + _ = maxWorkers c
      omega
  | emptied phase empty =>
      rw [phase] at fits
      exact ⟨empty, Classical.not_not.mp fun more => fits.served more empty⟩
  | overdue phase late =>
      rw [phase] at fits
      exact ⟨Busy.phase fits _, (queued_timedOut c s).phase _⟩
  | waited timeout phase busy early =>
      rw [phase] at fits
      exact Busy.phase fits _
  | woken phase returns =>
      rw [phase] at fits
      exact ⟨Busy.phase fits _, (queued_done returns).phase _⟩
  | served phase =>
      rw [phase] at fits
      exact fits.1.phase _
  | taken phase found yields =>
      rw [phase] at fits
      refine ⟨?_, (fits.2.take _).phase _⟩
      have length := length_erase found
      have bounded := fits.1.bounded
      change (s.active.erase _).entries.length + 1 ≤ maxWorkers c
      omega
  | resumed gap phase =>
      rw [phase] at fits
      exact ⟨(busy_submit accounted fits.1).phase _, (fits.2.submit accounted gap).phase _⟩
  | abandoned phase =>
      rw [phase] at fits
      exact Nat.le_of_succ_le fits.1

end Phases

section Runs

structure SchedulerInv (c : Collection) (s : State) : Prop where
  accounted : Accounted c s
  fits : PhaseFits c s s.phase

variable {c : Collection} {s : State}

theorem schedulerInv_initial (c : Collection) : SchedulerInv c (initial c) := by
  refine ⟨accounted_initial c, ?_⟩
  unfold initial
  split
  next none => exact ⟨rfl, none⟩
  next => exact Nat.zero_add _

theorem schedulerInv_step (s : State) (action : Action) (next : State) (inv : SchedulerInv c s)
    (stepped : step c s action = some next) : SchedulerInv c next :=
  have moved := transition_of_step stepped
  ⟨inv.accounted.transition moved, inv.fits.transition inv.accounted moved⟩

theorem schedulerInv_of_run {actions : List Action}
    (ran : run (step c) (initial c) actions = some s) :
    SchedulerInv c s :=
  run_invariant schedulerInv_step (schedulerInv_initial c) ran

end Runs

end SqlMonitor.IndexScheduler
