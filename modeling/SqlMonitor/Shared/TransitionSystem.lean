import Mathlib.Order.Basic

set_option autoImplicit false

namespace TransitionSystem

variable {S A : Type} (step : S → A → Option S)

section Runs

def run (start : S) (actions : List A) : Option S := actions.foldlM step start

/-- What holds of the state and the action whenever an action of a run is taken. -/
def Along (P : S → A → Prop) (start : S) (actions : List A) : Prop :=
  ∀ before action after state, actions = before ++ action :: after →
    run step start before = some state → P state action

/-- What holds of every state that a run goes through. -/
def Throughout (I : S → Prop) (start : S) (actions : List A) : Prop :=
  ∀ before after state, actions = before ++ after → run step start before = some state → I state

variable {step} {start state : S} {actions : List A}

theorem of_guarded {condition : Prop} [Decidable condition] {after next : S}
    (stepped : (if condition then some after else none) = some next) : condition ∧ after = next := by
  obtain ⟨met, same⟩ := Option.ite_none_right_eq_some.mp stepped
  exact ⟨met, Option.some.inj same⟩

theorem run_cons (action : A) :
    run step start (action :: actions) = (step start action).bind fun next => run step next actions := by
  simp only [run, List.foldlM_cons, Option.bind_eq_bind]

theorem run_append (before after : List A) :
    run step start (before ++ after) =
      (run step start before).bind fun middle => run step middle after := by
  simp only [run, List.foldlM_append, Option.bind_eq_bind]

theorem run_cons_eq_some {action : A} (ran : run step start (action :: actions) = some state) :
    ∃ next, step start action = some next ∧ run step next actions = some state := by
  rw [run_cons] at ran
  exact Option.bind_eq_some_iff.mp ran

theorem run_append_eq_some {before after : List A}
    (ran : run step start (before ++ after) = some state) :
    ∃ middle, run step start before = some middle ∧ run step middle after = some state := by
  rw [run_append] at ran
  exact Option.bind_eq_some_iff.mp ran

theorem Along.head {P : S → A → Prop} {action : A}
    (along : Along step P start (action :: actions)) :
    P start action := along [] action actions start rfl rfl

theorem Along.tail {P : S → A → Prop} {action : A} {next : S}
    (along : Along step P start (action :: actions))
    (stepped : step start action = some next) : Along step P next actions := by
  intro before taken after middle split ran
  refine along (action :: before) taken after middle (by rw [split, List.cons_append]) ?_
  rw [run_cons, stepped]
  exact ran

theorem run_invariant_along {P : S → A → Prop} {I : S → Prop}
    (preserved : ∀ state action next, I state → P state action →
      step state action = some next → I next)
    (initial : I start) (along : Along step P start actions)
    (ran : run step start actions = some state) :
    I state := by
  induction actions generalizing start with
  | nil =>
      obtain rfl := Option.some.inj ran
      exact initial
  | cons action rest ih =>
      obtain ⟨next, stepped, later⟩ := run_cons_eq_some ran
      exact ih (preserved start action next initial along.head stepped) (along.tail stepped) later

theorem run_invariant {I : S → Prop}
    (preserved : ∀ state action next, I state → step state action = some next → I next)
    (initial : I start) (ran : run step start actions = some state) : I state :=
  run_invariant_along (P := fun _ _ => True)
    (fun state action next holds _ => preserved state action next holds)
    initial (fun _ _ _ _ _ _ => trivial) ran

theorem Along.of_invariant {P : S → A → Prop} {I : S → Prop}
    (preserved : ∀ state action next, I state → step state action = some next → I next)
    (initial : I start) (follows : ∀ state action, I state → P state action) :
    Along step P start actions := by
  intro before action after state _ ran
  exact follows state action (run_invariant preserved initial ran)

theorem Throughout.of_along {P : S → A → Prop} {I : S → Prop}
    (preserved : ∀ state action next, I state → P state action →
      step state action = some next → I next)
    (initial : I start) (along : Along step P start actions) :
    Throughout step I start actions := by
  intro before after state split ran
  refine run_invariant_along preserved initial ?_ ran
  intro earlier action later middle inside reached
  refine along earlier action (later ++ after) middle ?_ reached
  rw [split, inside, List.append_assoc, List.cons_append]

theorem Throughout.mono {I J : S → Prop} (throughout : Throughout step I start actions)
    (weaker : ∀ state, I state → J state) : Throughout step J start actions :=
  fun before after state split ran => weaker state (throughout before after state split ran)

theorem Throughout.initially {I : S → Prop}
    (throughout : Throughout step I start actions) : I start :=
  throughout [] actions start rfl rfl

theorem throughout_cons {I : S → Prop} {action : A} {next : S}
    (stepped : step start action = some next) :
    Throughout step I start (action :: actions) ↔ I start ∧ Throughout step I next actions := by
  constructor
  · intro throughout
    refine ⟨throughout.initially, ?_⟩
    intro before after state split ran
    refine throughout (action :: before) after state (by rw [split, List.cons_append]) ?_
    rw [run_cons, stepped]
    exact ran
  · intro both before after state split ran
    cases before with
    | nil =>
        obtain rfl := Option.some.inj ran
        exact both.1
    | cons first before =>
        obtain ⟨rfl, rest⟩ := List.cons.inj split
        obtain ⟨middle, taken, later⟩ := run_cons_eq_some ran
        obtain rfl := Option.some.inj (stepped.symm.trans taken)
        exact both.2 before after state rest later

theorem along_cons {P : S → A → Prop} {action : A} {next : S}
    (stepped : step start action = some next) :
    Along step P start (action :: actions) ↔ P start action ∧ Along step P next actions := by
  refine ⟨fun along => ⟨along.head, along.tail stepped⟩, ?_⟩
  intro both before taken after state split ran
  cases before with
  | nil =>
      obtain rfl := Option.some.inj ran
      obtain ⟨rfl, -⟩ := List.cons.inj split
      exact both.1
  | cons first before =>
      obtain ⟨rfl, rest⟩ := List.cons.inj split
      obtain ⟨middle, moved, later⟩ := run_cons_eq_some ran
      obtain rfl := Option.some.inj (stepped.symm.trans moved)
      exact both.2 before taken after state rest later

theorem throughout_iff_along {P : S → A → Prop} {I J : S → Prop}
    (preserved : ∀ state action next, J state → step state action = some next → J next)
    (exact_step : ∀ state action next, J state → I state → step state action = some next →
      (I next ↔ P state action))
    (sound : J start) (initial : I start) (ran : run step start actions = some state) :
    Throughout step I start actions ↔ Along step P start actions := by
  induction actions generalizing start with
  | nil =>
      obtain rfl := Option.some.inj ran
      constructor
      · intro _ before action after _ split
        simp at split
      · intro _ before after middle split reached
        obtain ⟨rfl, rfl⟩ := List.append_eq_nil_iff.mp split.symm
        obtain rfl := Option.some.inj reached
        exact initial
  | cons action rest ih =>
      obtain ⟨next, stepped, later⟩ := run_cons_eq_some ran
      have head : I next ↔ P start action := exact_step start action next sound initial stepped
      have tail : I next → (Throughout step I next rest ↔ Along step P next rest) :=
        fun holds => ih (preserved start action next sound stepped) holds later
      rw [throughout_cons stepped, along_cons stepped]
      constructor
      · intro both
        have holds := both.2.initially
        exact ⟨head.mp holds, (tail holds).mp both.2⟩
      · intro both
        have holds := head.mpr both.1
        exact ⟨initial, (tail holds).mpr both.2⟩

theorem along_nil {P : S → A → Prop} : Along step P start [] := by
  intro before action after _ split
  simp at split

theorem throughout_nil {I : S → Prop} (initial : I start) : Throughout step I start [] := by
  intro before after middle split reached
  obtain ⟨rfl, rfl⟩ := List.append_eq_nil_iff.mp split.symm
  obtain rfl := Option.some.inj reached
  exact initial

theorem throughout_iff_along_of_along {P Q : S → A → Prop} {I J : S → Prop}
    (preserved : ∀ state action next, J state → Q state action →
      step state action = some next → J next)
    (exact_step : ∀ state action next, J state → I state → Q state action →
      step state action = some next → (I next ↔ P state action))
    (sound : J start) (initial : I start) (along : Along step Q start actions)
    (ran : run step start actions = some state) :
    Throughout step I start actions ↔ Along step P start actions := by
  induction actions generalizing start with
  | nil =>
      exact iff_of_true (throughout_nil initial) along_nil
  | cons action rest ih =>
      obtain ⟨next, stepped, later⟩ := run_cons_eq_some ran
      have met : Q start action := along.head
      have head : I next ↔ P start action :=
        exact_step start action next sound initial met stepped
      rw [throughout_cons stepped, along_cons stepped]
      constructor
      · intro both
        have holds := both.2.initially
        exact ⟨head.mp holds,
          (ih (preserved start action next sound met stepped) holds (along.tail stepped) later).mp
            both.2⟩
      · intro both
        have holds := head.mpr both.1
        exact ⟨initial,
          (ih (preserved start action next sound met stepped) holds (along.tail stepped) later).mpr
            both.2⟩

end Runs

section Traces

structure Trace where
  states : Nat → S
  actions : Nat → A
  moves : ∀ time, step (states time) (actions time) = some (states (time + 1))

variable {step} (trace : Trace step)

/-- Until it has halted, the system takes one of its own actions again and again. -/
def Trace.Fair (own : A → Prop) (halted : S → Prop) : Prop :=
  ∀ time, ∃ later, time ≤ later ∧ (own (trace.actions later) ∨ halted (trace.states later))

def Trace.LeadsTo (P Q : S → Prop) : Prop :=
  ∀ time, P (trace.states time) → ∃ later, time ≤ later ∧ Q (trace.states later)

/-- Before `Q` is reached, a step from `P` stays in it. -/
def Trace.StaysUntil (P Q : S → Prop) : Prop :=
  ∀ time, P (trace.states time) → ¬ Q (trace.states time) →
    P (trace.states (time + 1)) ∨ Q (trace.states (time + 1))

variable {trace} {P Q R : S → Prop}

theorem Trace.invariant {I : S → Prop}
    (preserved : ∀ state action next, I state → step state action = some next → I next)
    (initial : I (trace.states 0)) (time : Nat) : I (trace.states time) := by
  induction time with
  | zero => exact initial
  | succ time ih => exact preserved _ _ _ ih (trace.moves time)

theorem Trace.LeadsTo.continue (first : trace.LeadsTo P (fun state => Q state ∨ R state))
    (second : trace.LeadsTo R Q) : trace.LeadsTo P Q := by
  intro time holds
  obtain ⟨middle, after, reached⟩ := first time holds
  rcases reached with done | instead
  · exact ⟨middle, after, done⟩
  · obtain ⟨later, beyond, done⟩ := second middle instead
    exact ⟨later, Nat.le_trans after beyond, done⟩

theorem Trace.StaysUntil.until (stays : trace.StaysUntil P Q) {time later : Nat}
    (holds : P (trace.states time))
    (after : time ≤ later) : P (trace.states later) ∨ ∃ reached, time ≤ reached ∧
      Q (trace.states reached) := by
  obtain ⟨steps, rfl⟩ := Nat.exists_eq_add_of_le after
  clear after
  induction steps with
  | zero => exact Or.inl holds
  | succ steps ih =>
      rcases ih with still | reached
      · by_cases done : Q (trace.states (time + steps))
        · exact Or.inr ⟨_, Nat.le_add_right time steps, done⟩
        · rcases stays _ still done with next | later
          · exact Or.inl next
          · exact Or.inr ⟨_, Nat.le_add_right time (steps + 1), later⟩
      · exact Or.inr reached

theorem Trace.LeadsTo.of_own {own : A → Prop} {halted : S → Prop} (fair : trace.Fair own halted)
    (stopped : ∀ time, P (trace.states time) → halted (trace.states time) → Q (trace.states time))
    (idle : ∀ time, P (trace.states time) → ¬ Q (trace.states time) → ¬ own (trace.actions time) →
      P (trace.states (time + 1)) ∨ Q (trace.states (time + 1)))
    (acts : ∀ time, P (trace.states time) → ¬ Q (trace.states time) → own (trace.actions time) →
      Q (trace.states (time + 1))) : trace.LeadsTo P Q := by
  have stays : trace.StaysUntil P Q := by
    intro time holds before
    by_cases taken : own (trace.actions time)
    · exact Or.inr (acts time holds before taken)
    · exact idle time holds before taken
  intro time holds
  obtain ⟨later, after, moved⟩ := fair time
  rcases Trace.StaysUntil.until stays holds after with still | reached
  · by_cases done : Q (trace.states later)
    · exact ⟨later, after, done⟩
    · rcases moved with taken | halts
      · exact ⟨later + 1, Nat.le_succ_of_le after, acts later still done taken⟩
      · exact absurd (stopped later still halts) done
  · exact reached

-- A rank that drops again and again cannot do so forever.
theorem Trace.LeadsTo.of_rank (rank : S → Nat)
    (drops : ∀ bound, trace.LeadsTo (fun state => P state ∧ rank state = bound)
      (fun state => Q state ∨ (P state ∧ rank state < bound))) : trace.LeadsTo P Q := by
  intro time holds
  generalize same : rank (trace.states time) = bound
  induction bound using Nat.strongRecOn generalizing time with
  | _ bound ih =>
      obtain ⟨later, after, reached⟩ := drops bound time ⟨holds, same⟩
      rcases reached with done | ⟨still, smaller⟩
      · exact ⟨later, after, done⟩
      · obtain ⟨last, beyond, done⟩ := ih _ smaller later still rfl
        exact ⟨last, Nat.le_trans after beyond, done⟩

-- A clock that passes every reading passes one while the condition lasts, unless the goal comes first.
theorem Trace.LeadsTo.of_clock {T : Type} [Preorder T] {clock : S → T}
    (forward : ∀ time, clock (trace.states time) ≤ clock (trace.states (time + 1)))
    (unbounded : ∀ reading, ∃ time, reading ≤ clock (trace.states time))
    (stays : trace.StaysUntil P Q) (reading : T) :
    trace.LeadsTo P (fun state => Q state ∨ (P state ∧ reading ≤ clock state)) := by
  intro time holds
  obtain ⟨passed, there⟩ := unbounded reading
  have monotone : ∀ steps, reading ≤ clock (trace.states (passed + steps)) := by
    intro steps
    induction steps with
    | zero => exact there
    | succ steps ih => exact ih.trans (forward (passed + steps))
  have kept := Trace.StaysUntil.until stays holds (Nat.le_add_right time passed)
  rcases kept with still | ⟨reached, after, done⟩
  · refine ⟨time + passed, by omega, Or.inr ⟨still, ?_⟩⟩
    rw [Nat.add_comm]
    exact monotone time
  · exact ⟨reached, after, Or.inl done⟩

def Trace.prepend {start : S} {action : A} (stepped : step start action = some (trace.states 0)) :
    Trace step where
  states
    | 0 => start
    | time + 1 => trace.states time
  actions
    | 0 => action
    | time + 1 => trace.actions time
  moves
    | 0 => stepped
    | time + 1 => trace.moves time

theorem Trace.exists_after_run {start : S} {actions : List A} (trace : Trace step)
    (ran : run step start actions = some (trace.states 0)) :
    ∃ whole : Trace step, whole.states 0 = start ∧
      (∀ time, whole.states (actions.length + time) = trace.states time) ∧
      ∀ time, whole.actions time ∈ actions ∨ ∃ later, whole.actions time = trace.actions later := by
  induction actions generalizing start with
  | nil =>
      exact ⟨trace, Option.some.inj ran.symm, fun time => by simp, fun time => Or.inr ⟨time, rfl⟩⟩
  | cons action rest ih =>
      obtain ⟨next, stepped, later⟩ := run_cons_eq_some ran
      obtain ⟨whole, starts, ends, taken⟩ := ih later
      refine ⟨whole.prepend (starts.symm ▸ stepped), rfl, ?_, ?_⟩
      · intro time
        rw [List.length_cons, Nat.add_right_comm]
        exact ends time
      · intro time
        cases time with
        | zero => exact Or.inl (List.mem_cons_self ..)
        | succ time => exact (taken time).imp_left (List.mem_cons_of_mem _)

end Traces

end TransitionSystem
