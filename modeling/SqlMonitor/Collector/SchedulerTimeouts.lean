import SqlMonitor.Collector.SchedulerInvariant

set_option autoImplicit false

namespace SqlMonitor.IndexScheduler

open Collector Services TransitionSystem

section Lateness

variable (c : Collection) (s : State)

def FinishedInTime (future : Nat) (submission : Submission) : Prop :=
  ∃ finishedAt result, workerResult c future submission = some (finishedAt, result) ∧
    finishedAt < submission.submittedAt + c.timeoutSeconds

/-- Workers that finish in time give their own result, and only others are reported as timed out. -/
structure ResultsRight : Prop where
  own : ∀ yielded ∈ s.yielded, FinishedInTime c yielded.future yielded.submission →
    yielded.batch = .done ∧
      ∃ finishedAt, workerResult c yielded.future yielded.submission = some (finishedAt, yielded.result)
  late : ∀ yielded ∈ s.yielded, yielded.batch = .timedOut →
    ¬ FinishedInTime c yielded.future yielded.submission

/-- A look comes before any future that finished in time is overdue. -/
def LooksInTime (action : Action) : Prop :=
  action = .look → ∀ entry ∈ s.active.entries, FinishedInTime c entry.1 entry.2 →
    s.now - entry.2.startedAt < timeoutSeconds c

def GivesUp (queue : List Nat) : Prop :=
  s.phase = .serving .timedOut queue ∨ s.phase = .suspended .timedOut queue

structure OnlyLate : Prop where
  yielded : ∀ yielded ∈ s.yielded, yielded.batch = .timedOut →
    ¬ FinishedInTime c yielded.future yielded.submission
  queued : ∀ queue, GivesUp s queue → ∀ future ∈ queue,
    ∃ submission, s.active.get? future = some submission ∧ ¬ FinishedInTime c future submission

variable {c s} {next : State} {action : Action}

theorem yielded_submit (gap : NNRat) : (submitNextDatabase s gap).yielded = s.yielded := by
  unfold submitNextDatabase
  split <;> rfl

theorem onlyLate_initial (c : Collection) : OnlyLate c (initial c) := by
  refine ⟨by simp [initial], ?_⟩
  intro queue gives
  unfold GivesUp initial at gives
  split at gives <;> simp at gives

theorem OnlyLate.transition (inv : SchedulerInv c s) (only : OnlyLate c s)
    (inTime : LooksInTime c s action)
    (moved : Transition c s action next) : OnlyLate c next := by
  have fits := inv.fits
  cases moved with
  | elapsed => exact ⟨only.yielded, only.queued⟩
  | startEnded | emptied | waited | woken | served | abandoned =>
      exact ⟨only.yielded, by simp [GivesUp]⟩
  | started gap phase => exact ⟨by simpa [yielded_submit] using only.yielded, by simp [GivesUp]⟩
  | overdue phase late =>
      refine ⟨only.yielded, ?_⟩
      intro queue gives future member
      obtain rfl : timedOut c s = queue := by simpa [GivesUp] using gives
      obtain ⟨entry, kept, rfl⟩ := List.mem_map.mp member
      obtain ⟨present, expired⟩ := List.mem_filter.mp kept
      refine ⟨entry.2, (InsertionDict.get?_eq_some_iff _ _ _).mpr present, fun finished => ?_⟩
      exact absurd (of_decide_eq_true expired) (not_le.mpr (inTime rfl entry present finished))
  | @taken batch future queue submission result phase found yields =>
      rw [phase] at fits
      obtain ⟨first, -⟩ := List.nodup_cons.mp fits.2.distinct
      refine ⟨?_, ?_⟩
      · intro yielded member timedOut
        rcases List.mem_append.mp member with old | new
        · exact only.yielded yielded old timedOut
        · obtain rfl := List.mem_singleton.mp new
          obtain rfl : batch = .timedOut := timedOut
          obtain ⟨known, same, late⟩ := only.queued _ (Or.inl phase) future (List.mem_cons_self ..)
          obtain rfl := Option.some.inj (same.symm.trans found)
          exact late
      · intro others gives other member
        obtain ⟨rfl, rfl⟩ : batch = .timedOut ∧ queue = others := by simpa [GivesUp] using gives
        obtain ⟨known, present, late⟩ :=
          only.queued _ (Or.inl phase) other (List.mem_cons_of_mem _ member)
        have apart : other ≠ future := fun same => first (same ▸ member)
        exact ⟨known, get?_erase_of_ne apart present, late⟩
  | @resumed gap batch queue phase =>
      refine ⟨by simpa [yielded_submit] using only.yielded, ?_⟩
      intro others gives other member
      obtain ⟨rfl, rfl⟩ : batch = .timedOut ∧ queue = others := by simpa [GivesUp] using gives
      obtain ⟨known, present, late⟩ := only.queued _ (Or.inr phase) other member
      exact ⟨known, inv.accounted.get?_submit gap present, late⟩

theorem resultsRight_of_onlyLate (accounted : Accounted c s) (only : OnlyLate c s) :
    ResultsRight c s := by
  refine ⟨?_, only.yielded⟩
  intro yielded member finished
  have own : yielded.batch = .done := by
    cases batch : yielded.batch with
    | done => rfl
    | timedOut => exact absurd finished (only.yielded yielded member batch)
  have result := accounted.results yielded member
  rw [own] at result
  obtain ⟨⟨finishedAt, same⟩, found, rfl⟩ := Option.map_eq_some_iff.mp result
  exact ⟨own, finishedAt, found⟩

theorem resultsRight_of_looksInTime {actions : List Action}
    (along : Along (step c) (LooksInTime c) (initial c) actions)
    (ran : run (step c) (initial c) actions = some s) : ResultsRight c s := by
  have both : SchedulerInv c s ∧ OnlyLate c s := by
    refine run_invariant_along (I := fun s => SchedulerInv c s ∧ OnlyLate c s) ?_
      ⟨schedulerInv_initial c, onlyLate_initial c⟩ along ran
    rintro state action next ⟨inv, only⟩ inTime stepped
    exact ⟨schedulerInv_step _ _ _ inv stepped,
      only.transition inv inTime (transition_of_step stepped)⟩
  exact resultsRight_of_onlyLate both.1.accounted both.2

end Lateness

section Overdue

variable {c : Collection} {s next : State} {action : Action} {future : Nat}
    {submission : Submission}

structure GivenUp (future : Nat) (submission : Submission) (s : State) : Prop where
  fate : (∃ yielded ∈ s.yielded, yielded.future = future ∧ yielded.submission = submission ∧
      yielded.batch = .timedOut) ∨
    (s.active.get? future = some submission ∧ ∃ queue, GivesUp s queue ∧ future ∈ queue) ∨
    s.phase = .closed

theorem GivenUp.transition (accounted : Accounted c s) (given : GivenUp future submission s)
    (moved : Transition c s action next) : GivenUp future submission next := by
  rcases given.fate with ⟨yielded, member, same⟩ | ⟨found, queue, gives, waits⟩ | closed
  · -- What was yielded stays.
    refine ⟨Or.inl ⟨yielded, ?_, same⟩⟩
    cases moved with
    | taken => exact List.mem_append_left _ member
    | started gap => exact (yielded_submit gap).symm ▸ member
    | resumed gap => exact (yielded_submit gap).symm ▸ member
    | elapsed | startEnded | emptied | overdue | waited | woken | served | abandoned => exact member
  · cases moved with
    | elapsed => exact ⟨Or.inr (Or.inl ⟨found, queue, gives, waits⟩)⟩
    | @taken batch popped rest _ result phase present yields =>
        obtain ⟨rfl, rfl⟩ : batch = .timedOut ∧ popped :: rest = queue := by
          simpa [GivesUp, phase] using gives
        by_cases now : future = popped
        · subst now
          obtain rfl := Option.some.inj (found.symm.trans present)
          exact ⟨Or.inl ⟨_, List.mem_append_right _ (List.mem_singleton_self _), rfl, rfl, rfl⟩⟩
        · have later : future ∈ rest := (List.mem_cons.mp waits).resolve_left now
          exact ⟨Or.inr (Or.inl ⟨get?_erase_of_ne now found, rest, Or.inr rfl, later⟩)⟩
    | @resumed gap batch rest phase =>
        obtain ⟨rfl, rfl⟩ : batch = .timedOut ∧ rest = queue := by
          simpa [GivesUp, phase] using gives
        exact ⟨Or.inr (Or.inl ⟨accounted.get?_submit gap found, rest, Or.inl rfl, waits⟩)⟩
    | abandoned => exact ⟨Or.inr (Or.inr rfl)⟩
    | @served batch phase =>
        obtain ⟨rfl, rfl⟩ : batch = .timedOut ∧ [] = queue := by simpa [GivesUp, phase] using gives
        simp at waits
    | startEnded _ phase | started _ phase | emptied phase | overdue phase | waited _ phase | woken phase =>
        simp [GivesUp, phase] at gives
  · cases moved with
    | elapsed => exact ⟨Or.inr (Or.inr closed)⟩
    | startEnded _ phase | started _ phase | emptied phase | overdue phase | waited _ phase | woken phase
      | served phase | taken phase | resumed _ phase | abandoned phase =>
        simp [closed] at phase

theorem givenUp_of_look (member : (future, submission) ∈ s.active.entries)
    (overdue : timeoutSeconds c ≤ s.now - submission.startedAt)
    (moved : Transition c s .look next) :
    GivenUp future submission next := by
  have listed : future ∈ timedOut c s :=
    List.mem_map.mpr ⟨(future, submission), List.mem_filter.mpr ⟨member, decide_eq_true overdue⟩, rfl⟩
  cases moved with
  | emptied _ empty => simp [empty] at member
  | waited _ _ _ early => simp [early] at listed
  | overdue _ _ =>
      have found := (InsertionDict.get?_eq_some_iff _ _ _).mpr member
      exact ⟨Or.inr (Or.inl ⟨found, _, Or.inl rfl, listed⟩)⟩

theorem timedOut_of_overdue {before after : List Action} {middle : State}
    (ran : run (step c) (initial c) (before ++ .look :: after) = some s)
    (finished : s.phase = .finished)
    (reached : run (step c) (initial c) before = some middle)
    (member : (future, submission) ∈ middle.active.entries)
    (overdue : timeoutSeconds c ≤ middle.now - submission.startedAt) :
    ∃ yielded ∈ s.yielded, yielded.future = future ∧ yielded.submission = submission ∧
      yielded.batch = .timedOut := by
  obtain ⟨state, there, rest⟩ := run_append_eq_some ran
  obtain rfl := Option.some.inj (reached.symm.trans there)
  obtain ⟨looked, stepped, later⟩ := run_cons_eq_some rest
  have inv := schedulerInv_of_run reached
  have both : SchedulerInv c s ∧ GivenUp future submission s := by
    refine run_invariant (I := fun s => SchedulerInv c s ∧ GivenUp future submission s) ?_
      ⟨schedulerInv_step _ _ _ inv stepped,
        givenUp_of_look member overdue (transition_of_step stepped)⟩ later
    rintro state action next ⟨inv, given⟩ stepped
    exact ⟨schedulerInv_step _ _ _ inv stepped,
      given.transition inv.accounted (transition_of_step stepped)⟩
  rcases both.2.fate with yielded | ⟨-, queue, gives, -⟩ | closed
  · exact yielded
  · simp [GivesUp, finished] at gives
  · simp [finished] at closed

theorem looksInTime_of_resultsRight {actions : List Action}
    (ran : run (step c) (initial c) actions = some s) (finished : s.phase = .finished)
    (right : ResultsRight c s) :
    Along (step c) (LooksInTime c) (initial c) actions := by
  intro before action after middle split reached looks entry member inTime
  subst split looks
  by_contra late
  obtain ⟨yielded, there, same, known, batch⟩ :=
    timedOut_of_overdue ran finished reached member (not_lt.mp late)
  exact right.late yielded there batch (by rwa [same, known])

theorem exists_yielded (inv : SchedulerInv c s) (finished : s.phase = .finished)
    (issued : future < s.submitted) :
    ∃ yielded ∈ s.yielded, yielded.future = future := by
  have fits := inv.fits
  rw [finished] at fits
  have known := inv.accounted.futures.mem_iff.mpr (List.mem_range.mpr issued)
  simpa [InsertionDict.keys, fits.1] using known

end Overdue

theorem results_right_iff (c : Collection) (actions : List Action) (s : State)
    (ran : run (step c) (initial c) actions = some s) :
    (Along (step c) (LooksInTime c) (initial c) actions → ResultsRight c s) ∧
      (s.phase = .finished →
        (∀ future < s.submitted, ∃ yielded ∈ s.yielded, yielded.future = future) ∧
          (ResultsRight c s ↔ Along (step c) (LooksInTime c) (initial c) actions)) := by
  refine ⟨fun along => resultsRight_of_looksInTime along ran, fun finished => ⟨?_, ?_, ?_⟩⟩
  · exact fun future issued => exists_yielded (schedulerInv_of_run ran) finished issued
  · exact looksInTime_of_resultsRight ran finished
  · exact fun along => resultsRight_of_looksInTime along ran

section Paused

def quietClient : IndexClient where
  userDatabases := .ok []
  missingTotal := fun _ _ => .ok [some 0]
  missingRows := fun _ _ _ => .ok []
  onlineSupport := fun _ => .ok []
  fragmentationTotal := fun _ _ => .ok [some 0]
  fragmentationRows := fun _ _ _ => .ok []

-- `Orders` is done at once and `ATE` after one second, of two that each may take.
def pausedCollection : Collection where
  databases := ["Orders", "ATE"]
  connectionString := "dsn"
  missingDue := true
  fragmentationDue := false
  concurrency := 2
  timeoutSeconds := 2
  secondsText := "2"
  calledAt := 0
  workers
    | 0 => some ⟨1, fun _ => .ok quietClient, 0⟩
    | 1 => some ⟨1, fun _ => .ok quietClient, 1⟩
    | _ => none

-- The consumer takes three seconds to store the result of `Orders`.
def pausedActions : List Action :=
  [.start 0, .start 0, .start 0, .look, .wake [0], .take, .elapse 3, .resume 0, .take, .look,
    .take, .resume 0, .take, .look]

theorem pausedActions_yield :
    ((run (step pausedCollection) (initial pausedCollection) pausedActions).map fun s =>
      (s.phase, s.yielded.map fun yielded => (yielded.future, yielded.submission, yielded.batch))) =
      some (.finished, [(0, ⟨"Orders", 0, 0⟩, .done), (1, ⟨"ATE", 0, 0⟩, .timedOut)]) := by
  decide +kernel

theorem finishedInTime_paused : FinishedInTime pausedCollection 1 ⟨"ATE", 0, 0⟩ := by
  have finishes : (workerResult pausedCollection 1 ⟨"ATE", 0, 0⟩).map Prod.fst = some 1 := by
    decide +kernel
  obtain ⟨⟨finishedAt, result⟩, found, rfl⟩ := Option.map_eq_some_iff.mp finishes
  exact ⟨1, result, found, by decide +kernel⟩

theorem timedOut_paused {s : State}
    (ran : run (step pausedCollection) (initial pausedCollection) pausedActions = some s) :
    s.phase = .finished ∧ ¬ ResultsRight pausedCollection s := by
  have same := pausedActions_yield
  rw [ran, Option.map_some, Option.some.injEq, Prod.mk.injEq] at same
  refine ⟨same.1, fun right => ?_⟩
  have listed : (1, (⟨"ATE", 0, 0⟩ : Submission), Batch.timedOut) ∈
      s.yielded.map fun yielded => (yielded.future, yielded.submission, yielded.batch) := by
    simp [same.2]
  obtain ⟨yielded, member, shape⟩ := List.mem_map.mp listed
  simp only [Prod.mk.injEq] at shape
  obtain ⟨future, submission, batch⟩ := shape
  apply right.late yielded member batch
  rw [future, submission]
  exact finishedInTime_paused

theorem exists_pausedRun :
    ∃ s, run (step pausedCollection) (initial pausedCollection) pausedActions = some s := by
  obtain ⟨s, ran, -⟩ := Option.map_eq_some_iff.mp pausedActions_yield
  exact ⟨s, ran⟩

theorem finished_result_discarded :
    ∃ s, run (step pausedCollection) (initial pausedCollection) pausedActions = some s ∧
      s.phase = .finished ∧ ¬ ResultsRight pausedCollection s := by
  obtain ⟨s, ran⟩ := exists_pausedRun
  exact ⟨s, ran, timedOut_paused ran⟩

theorem results_right_iff_paused : ¬ Along (step pausedCollection) (LooksInTime pausedCollection)
    (initial pausedCollection) pausedActions := by
  obtain ⟨s, ran⟩ := exists_pausedRun
  intro along
  exact (timedOut_paused ran).2 ((results_right_iff pausedCollection pausedActions s ran).1 along)

end Paused

end SqlMonitor.IndexScheduler
