import Mathlib.Algebra.Order.Ring.Int

set_option autoImplicit false

variable {A : Type} [LinearOrder A]

theorem le_foldl_max (values : List A) (first : A) :
    first ≤ values.foldl max first ∧ ∀ value ∈ values, value ≤ values.foldl max first := by
  induction values generalizing first with
  | nil => simp
  | cons value rest ih =>
      obtain ⟨above, all⟩ := ih (max first value)
      simp only [List.foldl_cons, List.mem_cons, forall_eq_or_imp]
      exact ⟨(le_max_left first value).trans above, (le_max_right first value).trans above, all⟩

theorem foldl_max_mem (values : List A) (first : A) : values.foldl max first ∈ first :: values := by
  induction values generalizing first with
  | nil => simp
  | cons value rest ih =>
      rw [List.foldl_cons]
      rcases List.mem_cons.mp (ih (max first value)) with top | later
      · rw [top]
        rcases max_choice first value with same | same <;> simp [same]
      · exact List.mem_cons_of_mem _ (List.mem_cons_of_mem _ later)

variable [Zero A]

-- `max(values or [0])`
def maxOrZero : List A → A
  | [] => 0
  | value :: rest => rest.foldl max value

theorem maxOrZero_mem {values : List A} (nonempty : values ≠ []) : maxOrZero values ∈ values := by
  cases values with
  | nil => exact absurd rfl nonempty
  | cons first rest => exact foldl_max_mem rest first

theorem le_maxOrZero {values : List A} {value : A} (member : value ∈ values) :
    value ≤ maxOrZero values := by
  cases values with
  | nil => simp at member
  | cons first rest =>
      obtain ⟨top, all⟩ := le_foldl_max rest first
      rcases List.mem_cons.mp member with same | later
      · exact same ▸ top
      · exact all value later

theorem maxOrZero_unique {values : List A} {top : A} (member : top ∈ values)
    (bound : ∀ value ∈ values, value ≤ top) : maxOrZero values = top :=
  le_antisymm (bound _ (maxOrZero_mem (List.ne_nil_of_mem member))) (le_maxOrZero member)

theorem maxOrZero_congr {values other : List A} (same : ∀ value, value ∈ values ↔ value ∈ other) :
    maxOrZero values = maxOrZero other := by
  cases values with
  | nil =>
      cases other with
      | nil => rfl
      | cons first rest => exact absurd ((same first).mpr (by simp)) (by simp)
  | cons first rest =>
      apply maxOrZero_unique
      · apply (same _).mpr
        apply maxOrZero_mem
        exact List.ne_nil_of_mem ((same first).mp (by simp))
      · intro value member
        exact le_maxOrZero ((same value).mp member)

theorem maxOrZero_flatten {groups : List (List A)} (nonempty : ∀ group ∈ groups, group ≠ []) :
    maxOrZero groups.flatten = maxOrZero (groups.map maxOrZero) := by
  cases groups with
  | nil => rfl
  | cons first rest =>
      have attained : maxOrZero ((first :: rest).map maxOrZero) ∈ (first :: rest).map maxOrZero :=
        maxOrZero_mem (by simp)
      obtain ⟨group, present, same⟩ := List.mem_map.mp attained
      rw [← same]
      apply maxOrZero_unique
      · exact List.mem_flatten.mpr ⟨group, present, maxOrZero_mem (nonempty group present)⟩
      · intro value member
        obtain ⟨other, inside, below⟩ := List.mem_flatten.mp member
        rw [same]
        exact (le_maxOrZero below).trans (le_maxOrZero (List.mem_map_of_mem inside))
