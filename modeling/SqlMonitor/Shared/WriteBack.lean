import Mathlib.Logic.Function.Basic

set_option autoImplicit false

namespace WriteBack

-- A value that has expired is not known any more.
structure Cached (V : Type) where
  loaded : Option V
  sincePinned : Bool
deriving DecidableEq

structure Store (S K V : Type) where
  stored : K → V
  cached : S → K → Option (Cached V)
  pinned : K → Bool

def flush {V : Type} [DecidableEq V] (loaded : Option V) (value current : V) : V :=
  if loaded = some value then current else value

namespace Store

variable {S K V : Type} [DecidableEq S] [DecidableEq K] [DecidableEq V]

section Operations

variable (session : S) (key : K) (value : V) (store : Store S K V)

def load (keys : K → Bool) : Store S K V :=
  { store with
    cached := Function.update store.cached session fun key =>
      if keys key then some ⟨some (store.stored key), true⟩ else none }

def drop : Store S K V :=
  { store with cached := Function.update store.cached session fun _ => none }

def expire : Store S K V :=
  { store with
    cached := Function.update store.cached session fun key =>
      (store.cached session key).map fun cached => { cached with loaded := none } }

def write : Store S K V :=
  match store.cached session key with
  | none => store
  | some cached =>
    { store with
      stored := Function.update store.stored key (flush cached.loaded value (store.stored key))
      cached := Function.update store.cached session
        (Function.update (store.cached session) key (some { cached with loaded := some value })) }

def pin : Store S K V :=
  { store with
    pinned := Function.update store.pinned key true
    cached := fun session other =>
      if other = key then
        (store.cached session other).map fun cached => { cached with sincePinned := false }
      else store.cached session other }

def unpin : Store S K V := { store with pinned := Function.update store.pinned key false }

def loaded? : Option V := (store.cached session key).bind (·.loaded)

def loadedSincePinned : Bool := (store.cached session key).any (·.sincePinned)

end Operations

section Knowledge

def Knows (session : S) (key : K) (store : Store S K V) : Prop := (store.cached session key).isSome

variable {session other : S} {key : K} {value : V} {store : Store S K V}

omit [DecidableEq K] [DecidableEq V] in
theorem knows_load {keys : K → Bool} : (store.load session keys).Knows session key ↔ keys key = true := by
  simp only [Knows, Store.load, Function.update_self]
  split <;> simp_all

omit [DecidableEq K] [DecidableEq V] in
theorem knows_load_of_ne {keys : K → Bool} (apart : other ≠ session) :
    (store.load session keys).Knows other key ↔ store.Knows other key := by
  simp only [Knows, Store.load, Function.update_of_ne apart]

omit [DecidableEq K] [DecidableEq V] in
theorem knows_drop_of_ne (apart : other ≠ session) :
    (store.drop session).Knows other key ↔ store.Knows other key := by
  simp only [Knows, Store.drop, Function.update_of_ne apart]

omit [DecidableEq K] [DecidableEq V] in
theorem knows_expire : (store.expire session).Knows other key ↔ store.Knows other key := by
  by_cases same : other = session
  · subst same
    simp [Knows, Store.expire]
  · simp only [Knows, Store.expire, Function.update_of_ne same]

theorem knows_write {written : K} :
    (store.write session written value).Knows other key ↔ store.Knows other key := by
  unfold Store.write
  split
  next => rfl
  next cached found =>
    by_cases here : other = session
    · subst here
      by_cases same : key = written
      · subst same
        simp [Knows, found]
      · simp only [Knows, Function.update_self, Function.update_of_ne same]
    · simp only [Knows, Function.update_of_ne here]

omit [DecidableEq S] [DecidableEq V] in
theorem knows_pin {pinned : K} : (store.pin pinned).Knows other key ↔ store.Knows other key := by
  simp only [Knows, Store.pin]
  split <;> simp

omit [DecidableEq S] [DecidableEq V] in
theorem knows_unpin {pinned : K} : (store.unpin pinned).Knows other key ↔ store.Knows other key :=
  Iff.rfl

omit [DecidableEq K] [DecidableEq V] in
theorem loaded?_expire : (store.expire session).loaded? session key = none := by
  simp only [Store.loaded?, Store.expire, Function.update_self]
  cases store.cached session key <;> rfl

end Knowledge

section Pinned

def Holds (value : V) (store : Store S K V) : Prop :=
  ∀ key, store.pinned key = true → store.stored key = value

variable {session : S} {key : K} {value written : V} {store : Store S K V}

omit [DecidableEq S] [DecidableEq V] in
theorem Holds.unpin (holds : store.Holds value) : (store.unpin key).Holds value := by
  intro other pinned
  by_cases same : other = key
  · simp [Store.unpin, same] at pinned
  · simp only [Store.unpin, Function.update_of_ne same] at pinned
    exact holds other pinned

omit [DecidableEq S] [DecidableEq V] in
theorem Holds.pin (holds : store.Holds value) (stored : store.stored key = value) :
    (store.pin key).Holds value := by
  intro other pinned
  by_cases same : other = key
  · subst same
    exact stored
  · simp only [Store.pin, Function.update_of_ne same] at pinned
    exact holds other pinned

theorem flush_eq_iff {loaded : Option V} :
    flush loaded written value = value ↔ loaded = some written ∨ written = value := by
  unfold flush
  split
  next known => simp [known]
  next unknown => simp [unknown]

@[simp] theorem pinned_write : (store.write session key written).pinned = store.pinned := by
  unfold Store.write
  split <;> rfl

theorem stored_write (known : store.Knows session key) :
    (store.write session key written).stored = Function.update store.stored key
      (flush (store.loaded? session key) written (store.stored key)) := by
  obtain ⟨cached, found⟩ := Option.isSome_iff_exists.mp known
  simp only [Store.write, Store.loaded?, found, Option.bind_some]

theorem stored_write_of_ne {other : K} (apart : other ≠ key) :
    (store.write session key written).stored other = store.stored other := by
  unfold Store.write
  split
  next => rfl
  next => exact Function.update_of_ne apart ..

theorem holds_write_iff (holds : store.Holds value) (known : store.Knows session key) :
    (store.write session key written).Holds value ↔
      (store.pinned key = true → store.loaded? session key = some written ∨ written = value) := by
  unfold Holds
  rw [pinned_write]
  constructor
  · intro kept pinned
    have here := kept key pinned
    rw [stored_write known, Function.update_self, holds key pinned] at here
    exact flush_eq_iff.mp here
  · intro leftOut other pinned
    by_cases same : other = key
    · subst same
      rw [stored_write known, Function.update_self, holds other pinned]
      exact flush_eq_iff.mpr (leftOut pinned)
    · rw [stored_write_of_ne same]
      exact holds other pinned

theorem holds_unpin_write (holds : store.Holds value) :
    ((store.write session key written).unpin key).Holds value := by
  intro other pinned
  by_cases same : other = key
  · simp [Store.unpin, same] at pinned
  · simp only [Store.unpin, Function.update_of_ne same, pinned_write] at pinned
    exact (stored_write_of_ne same).trans (holds other pinned)

end Pinned

end Store

end WriteBack
