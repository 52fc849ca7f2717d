import Mathlib.Init

set_option autoImplicit false

structure Buffered (S : Type) where
  committed : S
  working : S

namespace Buffered

variable {S A : Type}

def opened (stored : S) : Buffered S := ⟨stored, stored⟩

def modify (change : S → S) (session : Buffered S) : Buffered S :=
  { session with working := change session.working }

def commit (session : Buffered S) : Buffered S := ⟨session.working, session.working⟩

def rollback (session : Buffered S) : Buffered S := ⟨session.committed, session.committed⟩

def close (session : Buffered S) : S := session.committed

-- A transaction of its own for every element.
def commitEach (change : A → S → S) (elements : List A) (session : Buffered S) : Buffered S :=
  elements.foldl (fun session element => (session.modify (change element)).commit) session

@[simp] theorem rollback_opened (stored : S) : (opened stored).rollback = opened stored := rfl

@[simp] theorem close_opened (stored : S) : (opened stored).close = stored := rfl

@[simp] theorem close_modify (change : S → S) (session : Buffered S) :
    (session.modify change).close = session.close := rfl

@[simp] theorem commit_modify_opened (change : S → S) (stored : S) :
    ((opened stored).modify change).commit = opened (change stored) := rfl

theorem commitEach_opened (change : A → S → S) (elements : List A) (stored : S) :
    commitEach change elements (opened stored) =
      opened (elements.foldl (fun stored element => change element stored) stored) := by
  induction elements generalizing stored with
  | nil => rfl
  | cons element rest ih => exact ih (change element stored)

end Buffered
