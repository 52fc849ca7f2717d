import Mathlib.Data.List.Basic

set_option autoImplicit false

namespace Attempts

structure Attempt (T E V : Type) where
  time : T
  outcome : Except E V

variable {T E V : Type}

def Attempt.success (attempt : Attempt T E V) : Option (T × V) :=
  match attempt.outcome with
  | .ok value => some (attempt.time, value)
  | .error _ => none

def Attempt.failure (attempt : Attempt T E V) : Option (T × E) :=
  match attempt.outcome with
  | .ok _ => none
  | .error error => some (attempt.time, error)

-- Histories are in the order of the attempts, the first one in front.
def lastSuccess (history : List (Attempt T E V)) : Option (T × V) :=
  (history.filterMap Attempt.success).getLast?

def lastFailure (history : List (Attempt T E V)) : Option (T × E) :=
  (history.filterMap Attempt.failure).getLast?

variable {history : List (Attempt T E V)} {time : T} {value : V} {error : E}

@[simp] theorem lastSuccess_nil : lastSuccess ([] : List (Attempt T E V)) = none := rfl

@[simp] theorem lastFailure_nil : lastFailure ([] : List (Attempt T E V)) = none := rfl

@[simp] theorem lastSuccess_append_ok :
    lastSuccess (history ++ [⟨time, .ok value⟩]) = some (time, value) := by
  simp [lastSuccess, Attempt.success]

@[simp] theorem lastSuccess_append_error :
    lastSuccess (history ++ [⟨time, .error error⟩]) = lastSuccess history := by
  simp [lastSuccess, Attempt.success]

@[simp] theorem lastFailure_append_ok :
    lastFailure (history ++ [⟨time, .ok value⟩]) = lastFailure history := by
  simp [lastFailure, Attempt.failure]

@[simp] theorem lastFailure_append_error :
    lastFailure (history ++ [⟨time, .error error⟩]) = some (time, error) := by
  simp [lastFailure, Attempt.failure]

theorem lastSuccess_eq_some (found : lastSuccess history = some (time, value)) :
    ⟨time, .ok value⟩ ∈ history := by
  obtain ⟨attempt, member, succeeded⟩ := List.mem_filterMap.mp (List.mem_of_getLast? found)
  obtain ⟨at', outcome⟩ := attempt
  cases outcome with
  | error error => exact nomatch succeeded
  | ok listed =>
      obtain ⟨rfl, rfl⟩ := Prod.mk.inj (Option.some.inj succeeded)
      exact member

end Attempts
