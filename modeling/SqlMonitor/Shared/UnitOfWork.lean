import Mathlib.Logic.Function.Basic

set_option autoImplicit false

namespace UnitOfWork

-- A loaded object without a value has expired.
inductive Mapped (V : Type) where
  | persistent (loaded : Option V) (changes : V → V)
  | pending (value : V)
  | transient (value : V)

structure Tracked (V : Type) where
  stored : Option V
  object : Option (Mapped V)

namespace Tracked

variable {V : Type}

def untracked (stored : Option V) : Tracked V := ⟨stored, none⟩

def inSync (value : V) : Tracked V := ⟨some value, some (.persistent (some value) id)⟩

def expired (value : V) : Tracked V := ⟨some value, some (.persistent none id)⟩

def added (value : V) : Tracked V := ⟨none, some (.pending value)⟩

def discarded (value : V) : Tracked V := ⟨none, some (.transient value)⟩

-- Reading an expired object raises, as nothing may be loaded there.
def read (row : Tracked V) : Option V :=
  match row.object with
  | some (.persistent loaded _) => loaded
  | some (.pending value) => some value
  | some (.transient value) => some value
  | none => none

def write (change : V → V) (row : Tracked V) : Tracked V :=
  match row.object with
  | some (.persistent loaded changes) =>
    ⟨row.stored, some (.persistent (loaded.map change) (change ∘ changes))⟩
  | some (.pending value) => ⟨row.stored, some (.pending (change value))⟩
  | some (.transient value) => ⟨row.stored, some (.transient (change value))⟩
  | none => row

def commit (row : Tracked V) : Tracked V :=
  match row.object with
  | some (.persistent loaded changes) => ⟨row.stored.map changes, some (.persistent loaded id)⟩
  | some (.pending value) => inSync value
  | some (.transient value) => ⟨row.stored, some (.transient value)⟩
  | none => row

def rollback (row : Tracked V) : Tracked V :=
  match row.object with
  | some (.persistent _ _) => ⟨row.stored, some (.persistent none id)⟩
  | some (.pending value) => ⟨row.stored, some (.transient value)⟩
  | some (.transient value) => ⟨row.stored, some (.transient value)⟩
  | none => row

variable (value : V) (change : V → V)

@[simp] theorem commit_inSync : (inSync value).commit = inSync value := rfl
@[simp] theorem commit_write_inSync : ((inSync value).write change).commit = inSync (change value) := rfl
@[simp] theorem rollback_inSync : (inSync value).rollback = expired value := rfl
@[simp] theorem rollback_write_inSync : ((inSync value).write change).rollback = expired value :=
  rfl
@[simp] theorem commit_expired : (expired value).commit = expired value := rfl
@[simp] theorem commit_write_expired : ((expired value).write change).commit = expired (change value) := rfl
@[simp] theorem write_added : (added value).write change = added (change value) := rfl
@[simp] theorem commit_added : (added value).commit = inSync value := rfl
@[simp] theorem rollback_added : (added value).rollback = discarded value := rfl
@[simp] theorem write_discarded : (discarded value).write change = discarded (change value) := rfl
@[simp] theorem commit_discarded : (discarded value).commit = discarded value := rfl
@[simp] theorem stored_inSync : (inSync value).stored = some value := rfl
@[simp] theorem stored_expired : (expired value).stored = some value := rfl
@[simp] theorem stored_discarded : (discarded value).stored = none := rfl

def Settled (row : Tracked V) : Prop :=
  match row.object with
  | some (.persistent _ changes) => changes = id
  | some (.pending _) => False
  | some (.transient _) => True
  | none => True

variable {value change} {row : Tracked V}

theorem settled_commit (row : Tracked V) : row.commit.Settled := by
  rcases row with ⟨stored, object⟩
  cases object with
  | none => exact trivial
  | some mapped => cases mapped <;> simp [commit, Settled, inSync]

theorem Settled.stored_commit (settled : row.Settled) : row.commit.stored = row.stored := by
  rcases row with ⟨stored, object⟩
  cases object with
  | none => rfl
  | some mapped =>
      cases mapped with
      | persistent loaded changes =>
          have unchanged : changes = id := settled
          simp [commit, unchanged]
      | pending value => exact absurd settled id
      | transient value => rfl

theorem Settled.rollback (settled : row.Settled) :
    row.rollback.Settled ∧ row.rollback.stored = row.stored := by
  rcases row with ⟨stored, object⟩
  cases object with
  | none => exact ⟨trivial, rfl⟩
  | some mapped =>
      cases mapped with
      | persistent loaded changes => exact ⟨rfl, rfl⟩
      | pending value => exact absurd settled id
      | transient value => exact ⟨trivial, rfl⟩

end Tracked

-- `S` are the statements and additions of a transaction, in order.
structure Session (E : Type) (Row : E → Type) (S : Type) where
  rows : (e : E) → Tracked (Row e)
  inTransaction : Bool
  pending : List S
  executed : List S

namespace Session

variable {E : Type} {Row : E → Type} {S : Type}

def read (session : Session E Row S) (e : E) : Option (Row e) := (session.rows e).read

def write [DecidableEq E] (e : E) (change : Row e → Row e) (session : Session E Row S) :
    Session E Row S :=
  { session with rows := Function.update session.rows e ((session.rows e).write change) }

def add (additions : List S) (session : Session E Row S) : Session E Row S :=
  { session with pending := session.pending ++ additions }

-- A statement opens a transaction even when it fails.
def execute (succeeds : S → Bool) : List S → Session E Row S → Bool × Session E Row S
  | [], session => (true, session)
  | statement :: rest, session =>
    if succeeds statement then
      execute succeeds rest
        { session with inTransaction := true, pending := session.pending ++ [statement] }
    else (false, { session with inTransaction := true })

def commit (succeeds : Bool) (session : Session E Row S) : Bool × Session E Row S :=
  if succeeds then
    (true, ⟨fun e => (session.rows e).commit, false, [], session.executed ++ session.pending⟩)
  else (false, { session with inTransaction := true })

def rollback (session : Session E Row S) : Session E Row S :=
  if session.inTransaction then
    ⟨fun e => (session.rows e).rollback, false, [], session.executed⟩
  else session

section Reading

variable [DecidableEq E] (session : Session E Row S) (e : E) (change : Row e → Row e)

@[simp] theorem rows_write_self : (session.write e change).rows e = (session.rows e).write change :=
  Function.update_self ..

@[simp] theorem rows_write_of_ne {other : E} (apart : other ≠ e) :
    (session.write e change).rows other = session.rows other :=
  Function.update_of_ne apart ..

@[simp] theorem pending_write : (session.write e change).pending = session.pending := rfl

omit [DecidableEq E]

@[simp] theorem pending_add (additions : List S) :
    (session.add additions).pending = session.pending ++ additions := rfl

theorem rollback_open (isOpen : session.inTransaction = true) :
    session.rollback = ⟨fun e => (session.rows e).rollback, false, [], session.executed⟩ :=
      if_pos isOpen

theorem rollback_closed (closed : session.inTransaction = false) : session.rollback = session := by
  rw [rollback, closed]
  rfl

theorem execute_spec (succeeds : S → Bool) (statements : List S) :
    let after := execute succeeds statements session
    after.2.rows = session.rows ∧ after.2.executed = session.executed ∧
      (after.1 = true ↔ ∀ statement ∈ statements, succeeds statement = true) ∧
      (after.1 = true → after.2.pending = session.pending ++ statements) ∧
      (statements ≠ [] → after.2.inTransaction = true) := by
  induction statements generalizing session with
  | nil => simp [execute]
  | cons statement rest ih =>
      by_cases ok : succeeds statement = true
      · obtain ⟨rows, executed, done, pending, -⟩ :=
          ih { session with inTransaction := true, pending := session.pending ++ [statement] }
        refine ⟨by simpa [execute, ok] using rows, by simpa [execute, ok] using executed,
          by simpa [execute, ok] using done, ?_, ?_⟩
        · intro all
          simpa [execute, ok] using pending (by simpa [execute, ok] using all)
        · intro _
          cases rest with
          | nil => simp [execute, ok]
          | cons next more =>
              -- The transaction was open before the remaining statements, so it stays open.
              have again :=
                (ih { session with inTransaction := true, pending := session.pending ++ [statement] })
              simpa [execute, ok] using again.2.2.2.2 (by simp)
      · simp [execute, ok]

end Reading

structure Preserves (e : E) (session next : Session E Row S) : Prop where
  stored : (session.rows e).Settled → (next.rows e).Settled ∧
    (next.rows e).stored = (session.rows e).stored
  executed : ∀ statement ∈ session.executed, statement ∈ next.executed

namespace Preserves

variable {e : E} {session next last : Session E Row S}

theorem refl (session : Session E Row S) : Preserves e session session :=
  ⟨fun settled => ⟨settled, rfl⟩, fun _ member => member⟩

theorem trans (first : Preserves e session next) (second : Preserves e next last) :
    Preserves e session last where
  stored := by
    intro settled
    obtain ⟨kept, same⟩ := first.stored settled
    obtain ⟨kept', same'⟩ := second.stored kept
    exact ⟨kept', same'.trans same⟩
  executed := fun statement member => second.executed statement (first.executed statement member)

theorem of_rows_eq (rows : next.rows e = session.rows e)
    (executed : next.executed = session.executed) :
    Preserves e session next :=
  ⟨fun settled => by simpa [rows] using settled, fun _ member => by simpa [executed] using member⟩

theorem write [DecidableEq E] {other : E} (apart : e ≠ other) (change : Row other → Row other) :
    Preserves e session (session.write other change) :=
  of_rows_eq (rows_write_of_ne session other change apart) rfl

theorem add (additions : List S) : Preserves e session (session.add additions) := of_rows_eq rfl rfl

theorem execute (succeeds : S → Bool) (statements : List S) :
    Preserves e session (session.execute succeeds statements).2 := by
  obtain ⟨rows, executed, -⟩ := execute_spec session succeeds statements
  exact of_rows_eq (congrFun rows e) executed

theorem commit (succeeds : Bool) : Preserves e session (session.commit succeeds).2 := by
  cases succeeds with
  | false => exact of_rows_eq rfl rfl
  | true =>
      refine ⟨fun settled => ⟨Tracked.settled_commit _, settled.stored_commit⟩, ?_⟩
      intro statement member
      exact List.mem_append_left _ member

theorem rollback : Preserves e session session.rollback := by
  cases isOpen : session.inTransaction with
  | false => rw [rollback_closed session isOpen]; exact refl session
  | true =>
      rw [rollback_open session isOpen]
      exact ⟨fun settled => settled.rollback, fun _ member => member⟩

end Preserves

end Session

end UnitOfWork
