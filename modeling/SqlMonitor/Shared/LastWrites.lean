import SqlMonitor.Shared.WriteBack

set_option autoImplicit false

namespace WriteBack

variable {K V : Type} [DecidableEq K] [DecidableEq V]

/-- What a session commits of a value; nothing was loaded of one that is inserted. -/
structure Write (K V : Type) where
  key : K
  loaded : Option V
  value : V
deriving DecidableEq

def Write.changes (key : K) (write : Write K V) : Bool :=
  write.key = key && write.loaded ≠ some write.value

def lastWritten (key : K) (stored : Option V) (writes : List (Write K V)) : Option V :=
  ((writes.filter (Write.changes key)).getLast?.map Write.value).or stored

@[simp] theorem lastWritten_nil (key : K) (stored : Option V) : lastWritten key stored [] = stored := rfl

theorem lastWritten_append (key : K) (stored : Option V) (before after : List (Write K V)) :
    lastWritten key stored (before ++ after) =
      lastWritten key (lastWritten key stored before) after := by
  unfold lastWritten
  rw [List.filter_append, List.getLast?_append]
  cases (after.filter (Write.changes key)).getLast? <;> simp

theorem lastWritten_of_ne {key : K} {write : Write K V} (apart : write.key ≠ key)
    (stored : Option V) : lastWritten key stored [write] = stored := by
  simp [lastWritten, Write.changes, apart]

theorem lastWritten_insert (key : K) (stored : Option V) (value : V) :
    lastWritten key stored [⟨key, none, value⟩] = some value := by
  simp [lastWritten, Write.changes]

theorem lastWritten_flush (key : K) (loaded : Option V) (value current : V) :
    lastWritten key (some current) [⟨key, loaded, value⟩] = some (flush loaded value current) := by
  by_cases known : loaded = some value
  · simp [lastWritten, Write.changes, flush, known]
  · simp [lastWritten, Write.changes, flush, known]

end WriteBack
