import Mathlib.Algebra.Order.Archimedean.Basic
import SqlMonitor.Collector.SchedulerInvariant

set_option autoImplicit false

namespace SqlMonitor.IndexScheduler

open Collector TransitionSystem

section Moves

variable {c : Collection} {s next : State} {action : Action}

-- The actions that take the generator on, its consumer asking for the next result included.
def Action.Own : Action → Prop
  | .elapse _ => False
  | .close => False
  | _ => True

def unyielded (s : State) : Nat := s.active.entries.length + s.databaseIter.length

theorem unyielded_submit (accounted : Accounted c s) (gap : NNRat) :
    unyielded (submitNextDatabase s gap) = unyielded s := by
  cases more : s.databaseIter with
  | nil => rw [submitNextDatabase_of_nil more]
  | cons databaseName rest =>
      have length : (submitNextDatabase s gap).active.entries.length = s.active.entries.length + 1 :=
        length_submit accounted (by simp [more])
      have iter : (submitNextDatabase s gap).databaseIter = rest := by
        rw [submitNextDatabase_of_cons more]
      simp only [unyielded, length, iter, more, List.length_cons]
      omega

theorem unyielded_take {future : Nat} {submission : Submission}
    (found : s.active.get? future = some submission)
    (phase : Phase) (yielded : List Yielded) :
    unyielded { s with active := s.active.erase future, phase, yielded } < unyielded s := by
  have length := length_erase found
  simp only [unyielded]
  omega

theorem unyielded_transition (accounted : Accounted c s) (moved : Transition c s action next) :
    unyielded next = unyielded s ∨ unyielded next < unyielded s := by
  cases moved with
  | taken phase found yields => exact Or.inr (unyielded_take found ..)
  | started gap => exact Or.inl (unyielded_submit accounted gap)
  | resumed gap => exact Or.inl (unyielded_submit accounted gap)
  | elapsed | startEnded | emptied | overdue | waited | woken | served | abandoned =>
      exact Or.inl rfl

def distanceToLook : Phase → Nat
  | .starting left => left + 3
  | .waiting _ _ => 2
  | .suspended _ _ => 2
  | .serving _ _ => 1
  | .looking => 0
  | .finished => 0
  | .closed => 0

theorem Transition.closer (moved : Transition c s action next) (own : action.Own)
    (elsewhere : s.phase ≠ .looking) :
    distanceToLook next.phase < distanceToLook s.phase ∨ unyielded next < unyielded s := by
  cases moved with
  | elapsed => exact absurd own id
  | abandoned => exact absurd own id
  | emptied phase => exact absurd phase elsewhere
  | overdue phase => exact absurd phase elsewhere
  | waited _ phase => exact absurd phase elsewhere
  | taken phase found yields => exact Or.inr (unyielded_take found ..)
  | startEnded gap phase | started gap phase | woken phase | served phase | resumed gap phase =>
      left
      simp [distanceToLook, phase]

theorem Transition.phase_of_not_own (moved : Transition c s action next) (idle : ¬ action.Own)
    (kept : action ≠ .close) : next.phase = s.phase := by
  cases moved with
  | elapsed => rfl
  | abandoned => exact absurd rfl kept
  | _ => exact absurd trivial idle

theorem Transition.clock (moved : Transition c s action next) : s.now ≤ next.now := by
  cases moved with
  | elapsed seconds => exact le_add_of_nonneg_right seconds.coe_nonneg
  | started gap => exact now_submit gap
  | resumed gap => exact now_submit gap
  | startEnded | emptied | overdue | waited | woken | served | taken | abandoned => exact le_rfl

end Moves

section Enabled

variable {c : Collection} {s : State}

theorem waitReturns_of_late {enteredAt timeout : Rat} (entered : enteredAt ≤ s.now)
    (late : enteredAt + timeout ≤ s.now) : ∃ done, WaitReturns c s enteredAt timeout done := by
  refine ⟨(s.active.entries.filter fun entry => finishedBy c s.now entry.1 entry.2).map Prod.fst,
    ?_, ?_, ?_, ?_⟩
  · exact s.active.distinct.sublist (List.filter_sublist.map _)
  · intro future member
    obtain ⟨entry, kept, rfl⟩ := List.mem_map.mp member
    obtain ⟨present, finished⟩ := List.mem_filter.mp kept
    exact ⟨entry.2, (InsertionDict.get?_eq_some_iff _ _ _).mpr present, finished⟩
  · intro entry present finished
    exact List.mem_map.mpr
      ⟨entry, List.mem_filter.mpr ⟨present, finishedBy_later entered finished⟩, rfl⟩
  · exact fun _ => late

theorem step_wake {enteredAt timeout : Rat} {done : List Nat}
    (phase : s.phase = .waiting enteredAt timeout)
    (returns : WaitReturns c s enteredAt timeout done) :
    step c s (.wake done) = some { s with phase := .serving .done done } := by
  simp only [step]
  split
  next entered waits same =>
    obtain ⟨rfl, rfl⟩ := Phase.waiting.inj (phase.symm.trans same)
    exact if_pos returns
  next other => exact absurd phase (other enteredAt timeout)

theorem run_elapse (seconds : NNRat) (action : Action) :
    run (step c) s [.elapse seconds, action] = step c { s with now := s.now + seconds } action := by
  simp [run, step]

theorem exists_own_step (inv : SchedulerInv c s) (unfinished : s.phase ≠ .finished)
    (kept : s.phase ≠ .closed) :
    ∃ seconds action, action.Own ∧ (run (step c) s [.elapse seconds, action]).isSome := by
  cases phase : s.phase with
  | starting left =>
      refine ⟨0, .start 0, trivial, ?_⟩
      rw [run_elapse]
      cases left with
      | zero => simp [step, phase]
      | succ left =>
          simp only [step, phase]
          split <;> rfl
  | looking => exact ⟨0, .look, trivial, by simp [run_elapse, step, phase]⟩
  | waiting enteredAt timeout =>
      -- Long enough for the clock to pass the time of the call and its timeout.
      let late := max 0 (max enteredAt (enteredAt + timeout) - s.now)
      let seconds : NNRat := ⟨late, le_max_left ..⟩
      have passed : max enteredAt (enteredAt + timeout) ≤ s.now + seconds :=
        sub_le_iff_le_add'.mp (le_max_right ..)
      obtain ⟨done, returns⟩ :
          ∃ done, WaitReturns c { s with now := s.now + seconds } enteredAt timeout done :=
        waitReturns_of_late ((le_max_left ..).trans passed) ((le_max_right ..).trans passed)
      have waits : ({ s with now := s.now + seconds } : State).phase = .waiting enteredAt timeout :=
        phase
      refine ⟨seconds, .wake done, trivial, ?_⟩
      rw [run_elapse, step_wake waits returns]
      rfl
  | serving batch queue =>
      refine ⟨0, .take, trivial, ?_⟩
      rw [run_elapse]
      cases queue with
      | nil => simp [step, phase]
      | cons future queue =>
          have fits : PhaseFits c s (.serving batch (future :: queue)) := phase ▸ inv.fits
          obtain ⟨submission, found, finished⟩ := fits.2.present future (List.mem_cons_self ..)
          obtain ⟨result, yields⟩ := yieldedResult_isSome finished
          simp [step, phase, found, yields]
  | suspended batch queue => exact ⟨0, .resume 0, trivial, by simp [run_elapse, step, phase]⟩
  | finished => exact absurd phase unfinished
  | closed => exact absurd phase kept

end Enabled

section Settled

variable {c : Collection} {s next : State} {action : Action}

def Phase.Submits : Phase → Prop
  | .starting _ => True
  | .suspended _ _ => True
  | _ => False

structure Settled (latest : Rat) (s : State) : Prop where
  quiet : ¬ s.phase.Submits
  known : ∀ entry ∈ s.active.entries, entry.2.startedAt ≤ latest

theorem Settled.transition {latest : Rat} (settled : Settled latest s)
    (moved : Transition c s action next) :
    Settled latest next ∨ unyielded next < unyielded s := by
  have quiet := settled.quiet
  cases moved with
  | taken phase found yields => exact Or.inr (unyielded_take found ..)
  | startEnded gap phase | started gap phase | resumed gap phase | abandoned phase =>
      rw [phase] at quiet
      exact absurd trivial quiet
  | elapsed => exact Or.inl ⟨quiet, settled.known⟩
  | emptied | overdue | waited | woken | served => exact Or.inl ⟨id, settled.known⟩

theorem Transition.gives_up {latest : Rat} (settled : Settled latest s)
    (late : latest + timeoutSeconds c ≤ s.now)
    (phase : s.phase = .looking) (own : action.Own) (moved : Transition c s action next) :
    next.phase = .finished ∨ ∃ batch future queue, next.phase = .serving batch (future :: queue) := by
  cases moved with
  | elapsed => exact absurd own id
  | abandoned => exact absurd own id
  | emptied => exact Or.inl rfl
  | overdue _ some =>
      obtain ⟨future, queue, split⟩ := List.exists_cons_of_ne_nil some
      exact Or.inr ⟨.timedOut, future, queue, congrArg (Phase.serving .timedOut) split⟩
  | waited timeout _ busy early =>
      obtain ⟨entry, rest, split⟩ := List.exists_cons_of_ne_nil busy
      have present : entry ∈ s.active.entries := by simp [split]
      have old : timeoutSeconds c ≤ s.now - entry.2.startedAt := by
        have started := settled.known entry present
        linarith
      have overdue : entry.1 ∈ timedOut c s :=
        List.mem_map.mpr ⟨entry, List.mem_filter.mpr ⟨present, decide_eq_true old⟩, rfl⟩
      rw [early] at overdue
      simp at overdue
  | startEnded _ elsewhere | started _ elsewhere | woken elsewhere | served elsewhere | taken elsewhere
    | resumed _ elsewhere =>
      rw [phase] at elsewhere
      exact nomatch elsewhere

theorem Transition.pops {batch : Batch} {future : Nat} {queue : List Nat}
    (phase : s.phase = .serving batch (future :: queue)) (own : action.Own)
    (moved : Transition c s action next) :
    unyielded next < unyielded s := by
  cases moved with
  | elapsed => exact absurd own id
  | abandoned => exact absurd own id
  | taken _ found yields => exact unyielded_take found ..
  | startEnded _ elsewhere | started _ elsewhere | emptied elsewhere | overdue elsewhere | waited _ elsewhere
    | woken elsewhere | resumed _ elsewhere | served elsewhere =>
      rw [phase] at elsewhere
      simp at elsewhere

end Settled

section Termination

variable {c : Collection} {trace : Trace (step c)}

structure Consumed (trace : Trace (step c)) : Prop where
  starts : trace.states 0 = initial c
  kept : ∀ time, trace.actions time ≠ .close
  fair : trace.Fair Action.Own fun s => s.phase = .finished
  clock : ∀ reading, ∃ time, reading ≤ (trace.states time).now

def Advanced (count : Nat) (s : State) : Prop := s.phase = .finished ∨ unyielded s < count

theorem Consumed.inv (consumed : Consumed trace) (time : Nat) :
    SchedulerInv c (trace.states time) := by
  refine trace.invariant schedulerInv_step ?_ time
  rw [consumed.starts]
  exact schedulerInv_initial c

theorem moved_at (trace : Trace (step c)) (time : Nat) :
    Transition c (trace.states time) (trace.actions time) (trace.states (time + 1)) :=
  transition_of_step (trace.moves time)

theorem Consumed.leadsTo_look (consumed : Consumed trace) {count : Nat} {R : State → Prop}
    (stays : trace.StaysUntil R (Advanced count)) (within : ∀ s, R s → unyielded s ≤ count) :
    trace.LeadsTo R fun s => Advanced count s ∨ (R s ∧ s.phase = .looking) := by
  refine Trace.LeadsTo.of_rank (fun s => distanceToLook s.phase) fun distance => ?_
  refine Trace.LeadsTo.of_own consumed.fair ?_ ?_ ?_
  · rintro time - finished
    exact Or.inl (Or.inl (Or.inl finished))
  · rintro time ⟨holds, far⟩ before idle
    rcases stays time holds fun advanced => before (Or.inl (Or.inl advanced)) with still | advanced
    · have same := (moved_at trace time).phase_of_not_own idle (consumed.kept time)
      exact Or.inl ⟨still, same ▸ far⟩
    · exact Or.inr (Or.inl (Or.inl advanced))
  · rintro time ⟨holds, far⟩ before own
    have elsewhere : (trace.states time).phase ≠ .looking :=
      fun looks => before (Or.inl (Or.inr ⟨holds, looks⟩))
    rcases stays time holds fun advanced => before (Or.inl (Or.inl advanced)) with still | advanced
    · rcases (moved_at trace time).closer own elsewhere with closer | fewer
      · exact Or.inr ⟨still, far ▸ closer⟩
      · exact Or.inl (Or.inl (Or.inr (fewer.trans_le (within _ holds))))
    · exact Or.inl (Or.inl advanced)

theorem Consumed.stays_unyielded (consumed : Consumed trace) (count : Nat) :
    trace.StaysUntil (fun s => unyielded s = count) (Advanced count) := by
  intro time holds before
  rcases unyielded_transition (consumed.inv time).accounted (moved_at trace time) with same | fewer
  · exact Or.inl (same.trans holds)
  · exact Or.inr (Or.inr (holds ▸ fewer))

theorem Consumed.stays_settled (consumed : Consumed trace) (count : Nat) (latest : Rat) :
    trace.StaysUntil (fun s => unyielded s = count ∧ Settled latest s) (Advanced count) := by
  rintro time ⟨holds, settled⟩ before
  rcases consumed.stays_unyielded count time holds before with same | advanced
  · rcases settled.transition (moved_at trace time) with still | fewer
    · exact Or.inl ⟨same, still⟩
    · exact Or.inr (Or.inr (holds ▸ fewer))
  · exact Or.inr advanced

theorem Consumed.stays_late (consumed : Consumed trace) (count : Nat) (latest reading : Rat) :
    trace.StaysUntil (fun s => (unyielded s = count ∧ Settled latest s) ∧ reading ≤ s.now)
      (Advanced count) := by
  rintro time ⟨holds, late⟩ before
  rcases consumed.stays_settled count latest time holds before with same | advanced
  · exact Or.inl ⟨same, late.trans (moved_at trace time).clock⟩
  · exact Or.inr advanced

theorem Consumed.leadsTo_pop (consumed : Consumed trace) (count : Nat) (latest : Rat) :
    trace.LeadsTo
      (fun s => ((unyielded s = count ∧ Settled latest s) ∧ latest + timeoutSeconds c ≤ s.now) ∧
        s.phase = .looking)
      (fun s => Advanced count s ∨
        (unyielded s = count ∧ ∃ batch future queue, s.phase = .serving batch (future :: queue))) := by
  refine Trace.LeadsTo.of_own consumed.fair ?_ ?_ ?_
  · rintro time - finished
    exact Or.inl (Or.inl finished)
  · rintro time ⟨holds, looks⟩ before idle
    have notYet : ¬ Advanced count (trace.states time) := fun advanced => before (Or.inl advanced)
    rcases consumed.stays_late count latest _ time holds notYet with same | advanced
    · have kept := (moved_at trace time).phase_of_not_own idle (consumed.kept time)
      exact Or.inl ⟨same, kept.trans looks⟩
    · exact Or.inr (Or.inl advanced)
  · rintro time ⟨⟨⟨holds, settled⟩, late⟩, looks⟩ before own
    have notYet : ¬ Advanced count (trace.states time) := fun advanced => before (Or.inl advanced)
    rcases consumed.stays_unyielded count time holds notYet with same | advanced
    · rcases (moved_at trace time).gives_up settled late looks own with finished | serves
      · exact Or.inl (Or.inl finished)
      · exact Or.inr ⟨same, serves⟩
    · exact Or.inl advanced

theorem Consumed.leadsTo_yield (consumed : Consumed trace) (count : Nat) :
    trace.LeadsTo
      (fun s => unyielded s = count ∧ ∃ batch future queue, s.phase = .serving batch (future :: queue))
      (Advanced count) := by
  refine Trace.LeadsTo.of_own consumed.fair ?_ ?_ ?_
  · rintro time - finished
    exact Or.inl finished
  · rintro time ⟨holds, batch, future, queue, serves⟩ before idle
    rcases consumed.stays_unyielded count time holds before with same | advanced
    · have kept := (moved_at trace time).phase_of_not_own idle (consumed.kept time)
      exact Or.inl ⟨same, batch, future, queue, kept.trans serves⟩
    · exact Or.inr advanced
  · rintro time ⟨holds, batch, future, queue, serves⟩ before own
    exact Or.inr (holds ▸ (moved_at trace time).pops serves own)

theorem Consumed.leadsTo_advanced (consumed : Consumed trace) (count : Nat) (latest : Rat) :
    trace.LeadsTo (fun s => unyielded s = count ∧ Settled latest s) (Advanced count) := by
  have passes : trace.LeadsTo (fun s => unyielded s = count ∧ Settled latest s)
      (fun s => Advanced count s ∨
      ((unyielded s = count ∧ Settled latest s) ∧ latest + timeoutSeconds c ≤ s.now)) :=
    Trace.LeadsTo.of_clock (fun time => (moved_at trace time).clock) consumed.clock
      (consumed.stays_settled count latest) _
  have looks := consumed.leadsTo_look (consumed.stays_late count latest (latest + timeoutSeconds c))
    fun s holds => holds.1.1.le
  have yields := (consumed.leadsTo_pop count latest).continue (consumed.leadsTo_yield count)
  exact passes.continue (looks.continue yields)

theorem Consumed.finishes (consumed : Consumed trace) :
    ∃ time, (trace.states time).phase = .finished := by
  have ends : trace.LeadsTo (fun _ => True) (fun s => s.phase = .finished) := by
    refine Trace.LeadsTo.of_rank unyielded fun count => ?_
    rintro time ⟨-, same⟩
    have looks := consumed.leadsTo_look (consumed.stays_unyielded count) fun s holds => holds.le
    obtain ⟨look, after, reached⟩ := looks time same
    -- Whatever is active at this look was submitted before it.
    have known : ∀ entry ∈ (trace.states look).active.entries,
        entry.2.startedAt ≤ (trace.states look).now :=
      fun entry member => ((consumed.inv look).accounted.clock entry member).2
    have advances : ∃ later, look ≤ later ∧ Advanced count (trace.states later) := by
      rcases reached with advanced | ⟨same, looking⟩
      · exact ⟨look, le_rfl, advanced⟩
      · have quiet : ¬ (trace.states look).phase.Submits := by
          rw [looking]
          exact id
        exact consumed.leadsTo_advanced count _ look ⟨same, quiet, known⟩
    obtain ⟨later, beyond, advanced⟩ := advances
    exact ⟨later, after.trans beyond, advanced.imp_right fun fewer => ⟨trivial, fewer⟩⟩
  obtain ⟨time, -, finished⟩ := ends 0 trivial
  exact ⟨time, finished⟩

end Termination

section Delivery

variable (c : Collection) (s : State)

structure Delivery : Prop where
  conserved : (s.yielded.map (·.result.databaseName) ++
    (s.active.values.map (·.databaseName) ++ s.databaseIter)).Perm c.databases
  once : (s.yielded.map (·.future) ++ s.active.keys).Nodup
  -- So nothing follows the result that stands in for a worker.
  alone : ∀ first ∈ s.yielded, ∀ second ∈ s.yielded, first.future = second.future → first = second
  bounded : s.active.entries.length ≤ max 1 (min c.concurrency c.databases.length)
  complete : s.phase = .finished →
    s.active.entries = [] ∧ (s.yielded.map (·.result.databaseName)).Perm c.databases
  moves : s.phase ≠ .finished → s.phase ≠ .closed →
    ∃ seconds action, action.Own ∧ (run (step c) s [.elapse seconds, action]).isSome

variable {c s}

theorem active_bounded (fits : PhaseFits c s s.phase) :
    s.active.entries.length ≤ max 1 (min c.concurrency c.databases.length) := by
  have bounded : s.active.entries.length ≤ maxWorkers c := by
    cases phase : s.phase with
    | starting left =>
        rw [phase] at fits
        exact Nat.le_of_add_right_le (Nat.le_of_eq fits)
    | looking | waiting =>
        rw [phase] at fits
        exact fits.bounded
    | serving =>
        rw [phase] at fits
        exact fits.1.bounded
    | suspended =>
        rw [phase] at fits
        exact Nat.le_of_succ_le fits.1
    | finished =>
        rw [phase] at fits
        simp [fits.1]
    | closed =>
        rw [phase] at fits
        exact fits
  unfold maxWorkers at bounded
  omega

theorem delivery (inv : SchedulerInv c s) : Delivery c s := by
  have once : (s.yielded.map (·.future) ++ s.active.keys).Nodup :=
    inv.accounted.futures.nodup_iff.mpr List.nodup_range
  refine ⟨inv.accounted.databases, once, ?_, active_bounded inv.fits, ?_, exists_own_step inv⟩
  · intro first member second other same
    exact List.inj_on_of_nodup_map (List.nodup_append.mp once).1 member other same
  · intro finished
    have fits := inv.fits
    rw [finished] at fits
    refine ⟨fits.1, ?_⟩
    simpa [InsertionDict.values, fits.1, fits.2] using inv.accounted.databases

-- Once a call has ended, time goes on without it.
def idleTrace (c : Collection) (s : State) : Trace (step c) where
  states time := { s with now := s.now + time }
  actions _ := .elapse 1
  moves time := by simp [step, add_assoc]

theorem exists_consumed {actions : List Action} (ran : run (step c) (initial c) actions = some s)
    (finished : s.phase = .finished) (kept : .close ∉ actions) :
    ∃ trace : Trace (step c), Consumed trace := by
  have starts : run (step c) (initial c) actions = some ((idleTrace c s).states 0) := by
    simpa [idleTrace] using ran
  obtain ⟨whole, first, ends, taken⟩ := (idleTrace c s).exists_after_run starts
  refine ⟨whole, first, ?_, ?_, ?_⟩
  · intro time closes
    rcases taken time with member | ⟨later, same⟩
    · exact kept (closes ▸ member)
    · exact nomatch closes.symm.trans same
  · intro time
    refine ⟨actions.length + time, Nat.le_add_left .., Or.inr ?_⟩
    rw [ends]
    exact finished
  · intro reading
    obtain ⟨time, enough⟩ := exists_nat_ge (reading - s.now)
    refine ⟨actions.length + time, ?_⟩
    rw [ends]
    exact sub_le_iff_le_add'.mp enough

end Delivery

theorem index_databases_delivered (c : Collection) :
    (∀ actions s, run (step c) (initial c) actions = some s → Delivery c s) ∧
      ∀ trace : Trace (step c), Consumed trace →
        ∃ time, (trace.states time).phase = .finished ∧
          (trace.states time).active.entries = [] := by
  refine ⟨fun actions s ran => delivery (schedulerInv_of_run ran), ?_⟩
  intro trace consumed
  obtain ⟨time, finished⟩ := consumed.finishes
  exact ⟨time, finished, ((delivery (consumed.inv time)).complete finished).1⟩

def silentCollection : Collection where
  databases := ["ATE"]
  connectionString := "dsn"
  missingDue := false
  fragmentationDue := true
  concurrency := 4
  timeoutSeconds := 1
  secondsText := "1"
  calledAt := 0
  workers := fun _ => none

def silentActions : List Action :=
  [.start 0, .start 0, .look, .elapse 1, .wake [], .take, .look, .take, .resume 0, .take, .look]

theorem index_databases_delivered_silent :
    ∃ s, run (step silentCollection) (initial silentCollection) silentActions = some s ∧
      (s.yielded.map (·.result.databaseName)).Perm ["ATE"] ∧
      ∃ trace : Trace (step silentCollection), Consumed trace ∧
        ∃ time, (trace.states time).phase = .finished ∧
          (trace.states time).active.entries = [] := by
  have ends : ((run (step silentCollection) (initial silentCollection) silentActions).map State.phase) =
      some .finished := by decide +kernel
  obtain ⟨s, ran, finished⟩ := Option.map_eq_some_iff.mp ends
  obtain ⟨delivered, terminates⟩ := index_databases_delivered silentCollection
  obtain ⟨trace, consumed⟩ := exists_consumed ran finished (by simp [silentActions])
  exact ⟨s, ran, ((delivered _ s ran).complete finished).2, trace, consumed,
    terminates trace consumed⟩

end SqlMonitor.IndexScheduler
