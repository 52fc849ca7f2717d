import Mathlib.Data.List.Nodup
import Mathlib.Tactic.Ring
import Mathlib.Tactic.Linarith

set_option autoImplicit false

namespace ParentGraph

variable {A : Type} (parent : A → Option A)

def ancestor : Nat → A → Option A
  | 0, a => some a
  | n + 1, a => (parent a).bind (ancestor n)

def Reaches (a b : A) : Prop := ∃ n, ancestor parent n a = some b

def OnCycle (a : A) : Prop := ∃ n, ancestor parent (n + 1) a = some a

def Acyclic : Prop := ∀ a, ¬ OnCycle parent a

-- The chain of `a` stops at `root` after `depth` hops.
def EndsAt (a root : A) (depth : Nat) : Prop :=
  ancestor parent depth a = some root ∧ parent root = none

def ReachesEnd (a z : A) : Prop :=
  Reaches parent a z ∧ (parent z = none ∨ OnCycle parent z)

/-- Both chains stop at the same vertex or go round the same cycle. -/
def SameEnd (a b : A) : Prop := ∃ z, ReachesEnd parent a z ∧ ReachesEnd parent b z

/-- The first vertex on the chain of `a` that lies on a cycle. -/
def Entry (a c : A) : Prop :=
  ∃ n, ancestor parent n a = some c ∧ OnCycle parent c ∧
    ∀ m, m < n → ∀ b, ancestor parent m a = some b → ¬ OnCycle parent b

structure IsDirectedCycle (cycle : List A) : Prop where
  nonempty : cycle ≠ []
  distinct : cycle.Nodup
  closes : ∀ i (inside : i < cycle.length),
    parent cycle[i] = cycle[(i + 1) % cycle.length]?

section Chains

variable {parent}

theorem ancestor_add (m n : Nat) (a : A) :
    ancestor parent (m + n) a = (ancestor parent m a).bind (ancestor parent n) := by
  induction m generalizing a with
  | zero => simp [ancestor]
  | succ m ih =>
      rw [Nat.add_right_comm]
      cases up : parent a with
      | none => simp [ancestor, up]
      | some p => simp [ancestor, up, ih]

theorem ancestor_one (a : A) : ancestor parent 1 a = parent a := by
  cases up : parent a <;> simp [ancestor, up]

theorem ancestor_of_le {m n : Nat} {a b : A} (short : m ≤ n)
    (chain : ancestor parent n a = some b) :
    ∃ c, ancestor parent m a = some c ∧ ancestor parent (n - m) c = some b := by
  have split : ancestor parent (m + (n - m)) a = _ := ancestor_add m (n - m) a
  rw [Nat.add_sub_cancel' short, chain] at split
  exact Option.bind_eq_some_iff.mp split.symm

theorem Reaches.refl (a : A) : Reaches parent a a := ⟨0, rfl⟩

theorem Reaches.trans {a b c : A} (first : Reaches parent a b) (second : Reaches parent b c) :
    Reaches parent a c := by
  obtain ⟨m, reach⟩ := first
  obtain ⟨n, next⟩ := second
  exact ⟨m + n, by simp [ancestor_add, reach, next]⟩

theorem Reaches.of_parent {a b : A} (up : parent a = some b) : Reaches parent a b :=
  ⟨1, by rw [ancestor_one, up]⟩

theorem Reaches.linear {a b c : A} (first : Reaches parent a b) (second : Reaches parent a c) :
    Reaches parent b c ∨ Reaches parent c b := by
  obtain ⟨m, reach⟩ := first
  obtain ⟨n, next⟩ := second
  rcases Nat.le_total m n with short | short
  · obtain ⟨d, same, rest⟩ := ancestor_of_le short next
    obtain rfl : b = d := Option.some.inj (reach.symm.trans same)
    exact Or.inl ⟨_, rest⟩
  · obtain ⟨d, same, rest⟩ := ancestor_of_le short reach
    obtain rfl : c = d := Option.some.inj (next.symm.trans same)
    exact Or.inr ⟨_, rest⟩

theorem Reaches.eq_of_stopped {a b : A} (chain : Reaches parent a b)
    (stopped : parent a = none) : b = a := by
  obtain ⟨n, reach⟩ := chain
  cases n with
  | zero => exact (Option.some.inj reach).symm
  | succ n => simp [ancestor, stopped] at reach

theorem Reaches.has_parent {a b : A} (chain : Reaches parent a b) (apart : a ≠ b) :
    ∃ c, parent a = some c := by
  cases up : parent a with
  | none => exact absurd (chain.eq_of_stopped up).symm apart
  | some c => exact ⟨c, rfl⟩

theorem ancestor_period {p : Nat} {a : A} (round : ancestor parent p a = some a) (k : Nat) :
    ancestor parent (k * p) a = some a := by
  induction k with
  | zero => simp [ancestor]
  | succ k ih => rw [Nat.succ_mul, ancestor_add, ih]; exact round

theorem Reaches.eq_of_selfParent {a b : A} (chain : Reaches parent a b)
    (self : parent a = some a) : b = a := by
  obtain ⟨n, reach⟩ := chain
  have round : ancestor parent 1 a = some a := by rw [ancestor_one, self]
  have here := ancestor_period round n
  rw [Nat.mul_one, reach, Option.some.injEq] at here
  exact here

theorem OnCycle.reaches_back {a b : A} (cyclic : OnCycle parent a) (chain : Reaches parent a b) :
    Reaches parent b a := by
  obtain ⟨p, round⟩ := cyclic
  obtain ⟨m, reach⟩ := chain
  have far : m ≤ m * (p + 1) := Nat.le_mul_of_pos_right m (Nat.succ_pos p)
  obtain ⟨c, same, rest⟩ := ancestor_of_le far (ancestor_period round m)
  obtain rfl : b = c := Option.some.inj (reach.symm.trans same)
  exact ⟨_, rest⟩

theorem OnCycle.of_reaches {a b : A} (cyclic : OnCycle parent a) (chain : Reaches parent a b) :
    OnCycle parent b := by
  obtain ⟨i, back⟩ := cyclic.reaches_back chain
  obtain ⟨p, round⟩ := cyclic
  obtain ⟨j, reach⟩ := chain
  refine ⟨i + p + j, ?_⟩
  have order : i + p + j + 1 = i + ((p + 1) + j) := by omega
  rw [order, ancestor_add, back, Option.bind_some, ancestor_add, round, Option.bind_some, reach]

theorem OnCycle.has_parent {a : A} (cyclic : OnCycle parent a) : ∃ b, parent a = some b := by
  obtain ⟨p, round⟩ := cyclic
  cases up : parent a with
  | none => simp [ancestor, up] at round
  | some b => exact ⟨b, rfl⟩

theorem onCycle_of_parent_reaches {a b : A} (up : parent a = some b) (chain : Reaches parent b a) :
    OnCycle parent a := by
  obtain ⟨n, back⟩ := chain
  exact ⟨n, by simp [ancestor, up, back]⟩

theorem acyclic_of_rank (rank : A → Nat) (falls : ∀ a b, parent a = some b → rank b < rank a) :
    Acyclic parent := by
  have below (n : Nat) (a b : A) (reach : ancestor parent n a = some b) : rank b ≤ rank a := by
    induction n generalizing a with
    | zero => exact Option.some.inj reach ▸ Nat.le_refl _
    | succ n ih =>
        obtain ⟨c, up, rest⟩ := Option.bind_eq_some_iff.mp reach
        exact (ih c rest).trans (Nat.le_of_lt (falls a c up))
  rintro a ⟨n, round⟩
  obtain ⟨b, up, rest⟩ := Option.bind_eq_some_iff.mp round
  have fall := falls a b up
  have bound := below n b a rest
  omega

theorem EndsAt.unique {a r r' : A} {d d' : Nat} (first : EndsAt parent a r d)
    (second : EndsAt parent a r' d') :
    r = r' ∧ d = d' := by
  have settled {x y : A} {m n : Nat} (short : m ≤ n) (one : EndsAt parent a x m)
      (two : EndsAt parent a y n) :
      x = y ∧ m = n := by
    obtain ⟨c, same, rest⟩ := ancestor_of_le short two.1
    obtain rfl : x = c := Option.some.inj (one.1.symm.trans same)
    cases gap : n - m with
    | zero =>
        rw [gap] at rest
        exact ⟨Option.some.inj rest, by omega⟩
    | succ k => simp [gap, ancestor, one.2] at rest
  rcases Nat.le_total d d' with short | short
  · exact settled short first second
  · obtain ⟨root, depth⟩ := settled short second first
    exact ⟨root.symm, depth.symm⟩

theorem EndsAt.reaches {a root : A} {depth : Nat} (stop : EndsAt parent a root depth) :
    Reaches parent a root := ⟨depth, stop.1⟩

theorem EndsAt.not_onCycle {a root c : A} {depth : Nat} (stop : EndsAt parent a root depth)
    (chain : Reaches parent a c) : ¬ OnCycle parent c := by
  intro cyclic
  have rootCyclic : OnCycle parent root := by
    rcases Reaches.linear chain stop.reaches with up | down
    · exact cyclic.of_reaches up
    · exact down.eq_of_stopped stop.2 ▸ cyclic
  obtain ⟨b, up⟩ := rootCyclic.has_parent
  simp [stop.2] at up

theorem ReachesEnd.reaches {a z z' : A} (first : ReachesEnd parent a z)
    (second : ReachesEnd parent a z') :
    Reaches parent z z' := by
  rcases Reaches.linear first.1 second.1 with up | down
  · exact up
  · rcases second.2 with stopped | cyclic
    · exact down.eq_of_stopped stopped ▸ Reaches.refl _
    · exact cyclic.reaches_back down

theorem Entry.unique {a c d : A} (first : Entry parent a c)
    (second : Entry parent a d) : c = d := by
  obtain ⟨m, reach, cyclic, early⟩ := first
  obtain ⟨n, reach', cyclic', early'⟩ := second
  rcases Nat.lt_trichotomy m n with short | same | long
  · exact absurd cyclic (early' m short c reach)
  · subst same
    exact Option.some.inj (reach.symm.trans reach')
  · exact absurd cyclic' (early n long d reach')

theorem Entry.onCycle {a c : A} (entry : Entry parent a c) : OnCycle parent c := by
  obtain ⟨_, _, cyclic, _⟩ := entry
  exact cyclic

theorem Entry.reaches {a c : A} (entry : Entry parent a c) : Reaches parent a c := by
  obtain ⟨n, reach, _⟩ := entry
  exact ⟨n, reach⟩

theorem Entry.of_onCycle {a : A} (cyclic : OnCycle parent a) : Entry parent a a :=
  ⟨0, rfl, cyclic, fun m none_below => absurd none_below (Nat.not_lt_zero m)⟩

theorem Entry.of_parent {a b : A} (up : parent a = some b) (cyclic : OnCycle parent b)
    (outside : ¬ OnCycle parent a) : Entry parent a b := by
  refine ⟨1, by rw [ancestor_one, up], cyclic, fun m early c reach => ?_⟩
  obtain rfl : m = 0 := by omega
  exact Option.some.inj reach ▸ outside

theorem Entry.of_reaches {a b c : A} (entry : Entry parent a c) (chain : Reaches parent a b)
    (outside : ¬ OnCycle parent b) : Entry parent b c := by
  obtain ⟨n, reach, cyclic, early⟩ := entry
  obtain ⟨m, below⟩ := chain
  have short : m ≤ n := by
    by_contra long
    obtain ⟨d, same, rest⟩ := ancestor_of_le (by omega : n ≤ m) below
    obtain rfl : c = d := Option.some.inj (reach.symm.trans same)
    exact outside (cyclic.of_reaches ⟨_, rest⟩)
  obtain ⟨d, same, rest⟩ := ancestor_of_le short reach
  obtain rfl : b = d := Option.some.inj (below.symm.trans same)
  refine ⟨n - m, rest, cyclic, fun k before x up => ?_⟩
  exact early (m + k) (by omega) x (by rw [ancestor_add, below]; exact up)

end Chains

section Cycles

variable {parent} {cycle : List A}

theorem IsDirectedCycle.ancestor (directed : IsDirectedCycle parent cycle) (n i : Nat)
    (inside : i < cycle.length) : ancestor parent n cycle[i] = cycle[(i + n) % cycle.length]? := by
  induction n generalizing i with
  | zero => simp [ParentGraph.ancestor, Nat.mod_eq_of_lt inside]
  | succ n ih =>
      have next : (i + 1) % cycle.length < cycle.length := Nat.mod_lt _ (by omega)
      have wrap : ((i + 1) % cycle.length + n) % cycle.length = (i + (n + 1)) % cycle.length := by
        rw [Nat.mod_add_mod, Nat.add_assoc, Nat.add_comm 1 n]
      simp only [ParentGraph.ancestor, directed.closes i inside, List.getElem?_eq_getElem next,
        Option.bind_some, ih _ next, wrap]

theorem IsDirectedCycle.reaches (directed : IsDirectedCycle parent cycle) {a b : A}
    (first : a ∈ cycle) (second : b ∈ cycle) : Reaches parent a b := by
  obtain ⟨i, inside, rfl⟩ := List.mem_iff_getElem.mp first
  obtain ⟨j, within, rfl⟩ := List.mem_iff_getElem.mp second
  refine ⟨cycle.length - i + j, ?_⟩
  rw [directed.ancestor, show i + (cycle.length - i + j) = j + cycle.length by omega,
    Nat.add_mod_right, Nat.mod_eq_of_lt within, List.getElem?_eq_getElem within]

theorem IsDirectedCycle.mem_of_reaches (directed : IsDirectedCycle parent cycle) {a b : A}
    (member : a ∈ cycle) (chain : Reaches parent a b) : b ∈ cycle := by
  obtain ⟨i, inside, rfl⟩ := List.mem_iff_getElem.mp member
  obtain ⟨n, reach⟩ := chain
  rw [directed.ancestor n i inside] at reach
  exact List.mem_of_getElem? reach

theorem IsDirectedCycle.onCycle (directed : IsDirectedCycle parent cycle) {a : A}
    (member : a ∈ cycle) :
    OnCycle parent a := by
  obtain ⟨i, inside, rfl⟩ := List.mem_iff_getElem.mp member
  have up := directed.closes i inside
  rw [List.getElem?_eq_getElem (Nat.mod_lt _ (by omega))] at up
  exact onCycle_of_parent_reaches up (directed.reaches (List.getElem_mem _) (List.getElem_mem _))

theorem IsDirectedCycle.exists_unique_below (directed : IsDirectedCycle parent cycle) {root : A}
    (member : root ∈ cycle) : ∃! a, a ∈ cycle ∧ parent a = some root := by
  obtain ⟨j, inside, rfl⟩ := List.mem_iff_getElem.mp member
  have below : (j + (cycle.length - 1)) % cycle.length < cycle.length := Nat.mod_lt _ (by omega)
  have position (i : Nat) (short : i < cycle.length) (up : (i + 1) % cycle.length = j) :
      i = (j + (cycle.length - 1)) % cycle.length := by
    rw [← up, Nat.mod_add_mod, show i + 1 + (cycle.length - 1) = i + cycle.length by omega,
      Nat.add_mod_right, Nat.mod_eq_of_lt short]
  refine ⟨cycle[(j + (cycle.length - 1)) % cycle.length], ⟨List.getElem_mem _, ?_⟩, ?_⟩
  · rw [directed.closes _ below, Nat.mod_add_mod,
      show j + (cycle.length - 1) + 1 = j + cycle.length by omega, Nat.add_mod_right,
      Nat.mod_eq_of_lt inside, List.getElem?_eq_getElem inside]
  · rintro a ⟨present, up⟩
    obtain ⟨i, short, rfl⟩ := List.mem_iff_getElem.mp present
    rw [directed.closes i short, List.getElem?_eq_getElem (Nat.mod_lt _ (by omega)),
      Option.some.injEq] at up
    have same := position i short ((directed.distinct.getElem_inj_iff).mp up)
    simp only [← same]

theorem OnCycle.exists_directedCycle {a : A} (cyclic : OnCycle parent a) :
    ∃ cycle, IsDirectedCycle parent cycle ∧ a ∈ cycle := by
  classical
  let period := Nat.find cyclic + 1
  have round : ParentGraph.ancestor parent period a = some a := Nat.find_spec cyclic
  have shortest (n : Nat) (less : n < Nat.find cyclic) :
      ParentGraph.ancestor parent (n + 1) a ≠ some a := Nat.find_min cyclic less
  let at_hop := fun i => (ParentGraph.ancestor parent i a).getD a
  have met (i : Nat) (within : i ≤ period) : ParentGraph.ancestor parent i a = some (at_hop i) := by
    obtain ⟨b, reach, -⟩ := ancestor_of_le within round
    simp [at_hop, reach]
  have length : ((List.range period).map at_hop).length = period := by simp
  have entry (i : Nat) (within : i < period) :
      ((List.range period).map at_hop)[i]? = some (at_hop i) := by
    simp [within]
  refine ⟨(List.range period).map at_hop, ⟨by simp [period], ?_, ?_⟩, ?_⟩
  · rw [List.nodup_map_iff_inj_on List.nodup_range]
    have apart (i j : Nat) (less : i < j) (within : j < period) : at_hop i ≠ at_hop j := by
      -- Equal vertices at two hops would close the cycle earlier.
      intro same
      obtain ⟨b, reach, back⟩ := ancestor_of_le (Nat.le_of_lt within) round
      rw [met j (Nat.le_of_lt within), Option.some.injEq] at reach
      have early : ParentGraph.ancestor parent (i + (period - j)) a = some a := by
        rw [ancestor_add, met i (by omega), Option.bind_some, same, reach, back]
      refine shortest (i + (period - j) - 1) (by omega) ?_
      rwa [Nat.sub_add_cancel (by omega)]
    intro i inside j within same
    rw [List.mem_range] at inside within
    rcases Nat.lt_trichotomy i j with less | equal | more
    · exact absurd same (apart i j less within)
    · exact equal
    · exact absurd same.symm (apart j i more inside)
  · intro i inside
    rw [length] at inside ⊢
    have here : ((List.range period).map at_hop)[i] = at_hop i := by simp
    have up : parent (at_hop i) = ParentGraph.ancestor parent (i + 1) a := by
      rw [ancestor_add, met i (Nat.le_of_lt inside), Option.bind_some, ancestor_one]
    rw [here, up]
    by_cases final : i + 1 = period
    · rw [final, round, Nat.mod_self, entry 0 (Nat.succ_pos _)]
      exact (met 0 (Nat.zero_le _))
    · rw [Nat.mod_eq_of_lt (by omega), entry (i + 1) (by omega)]
      exact met (i + 1) (by omega)
  · exact List.mem_map.mpr ⟨0, List.mem_range.mpr (Nat.succ_pos _), rfl⟩

end Cycles

section Walks

/-- The vertices that a search upwards meets; a closing one comes back to a vertex met before. -/
structure Walk (start : A) (before : List A) (last root : A) (closes : Bool) : Prop where
  ascends : ∀ i (inside : i < (before ++ [last]).length),
    ancestor parent i start = some (before ++ [last])[i]
  distinct : (before ++ [last]).Nodup
  final : parent last = if closes then some root else none
  met : root ∈ before ++ [last]
  stopped : closes = false → root = last

variable {parent} {start last root : A} {before : List A} {closes : Bool}

theorem Walk.ancestor_last (walk : Walk parent start before last root closes) :
    ancestor parent before.length start = some last := by
  simpa using walk.ascends before.length (by simp)

theorem Walk.reaches (walk : Walk parent start before last root closes) {a : A}
    (member : a ∈ before ++ [last]) : Reaches parent start a := by
  obtain ⟨i, inside, rfl⟩ := List.mem_iff_getElem.mp member
  exact ⟨i, walk.ascends i inside⟩

theorem Walk.reaches_later (walk : Walk parent start before last root closes) {i j : Nat}
    (order : i ≤ j) (inside : j < (before ++ [last]).length) :
    Reaches parent (before ++ [last])[i] (before ++ [last])[j] := by
  obtain ⟨b, same, rest⟩ := ancestor_of_le order (walk.ascends j inside)
  obtain rfl := Option.some.inj ((walk.ascends i (by omega)).symm.trans same)
  exact ⟨_, rest⟩

theorem Walk.reaches_last (walk : Walk parent start before last root closes) {a : A}
    (member : a ∈ before ++ [last]) : Reaches parent a last := by
  obtain ⟨i, inside, rfl⟩ := List.mem_iff_getElem.mp member
  have final : before.length < (before ++ [last]).length := by simp
  have order : i ≤ before.length := by simpa [Nat.lt_succ_iff] using inside
  simpa using walk.reaches_later order final

theorem Walk.step (walk : Walk parent start before last root closes) {i : Nat}
    (inside : i + 1 < (before ++ [last]).length) :
    parent (before ++ [last])[i] = some (before ++ [last])[i + 1] := by
  have up := walk.ascends (i + 1) inside
  rwa [ancestor_add, walk.ascends i (by omega), Option.bind_some, ancestor_one] at up

theorem Walk.ancestor_length (walk : Walk parent start before last root closes) :
    ancestor parent (before ++ [last]).length start = if closes then some root else none := by
  rw [List.length_append, List.length_singleton, ancestor_add, walk.ancestor_last, Option.bind_some,
    ancestor_one, walk.final]

theorem Walk.endsAt (walk : Walk parent start before last root false) {i : Nat}
    (inside : i < (before ++ [last]).length) :
    EndsAt parent (before ++ [last])[i] root (before.length - i) := by
  have short : i ≤ before.length := by simpa [Nat.lt_succ_iff] using inside
  obtain ⟨b, same, rest⟩ := ancestor_of_le short walk.ancestor_last
  obtain rfl := Option.some.inj ((walk.ascends i inside).symm.trans same)
  rw [walk.stopped rfl]
  exact ⟨rest, by simpa using walk.final⟩

theorem Walk.mem_drop_of_reaches_root (walk : Walk parent start before last root true) {j : Nat}
    (inside : j < (before ++ [last]).length) (rootAt : (before ++ [last])[j] = root) (n : Nat)
    {a : A}
    (reach : ancestor parent n root = some a) :
    ∃ i, ∃ short : i < (before ++ [last]).length, j ≤ i ∧ (before ++ [last])[i] = a := by
  induction n using Nat.strong_induction_on with
  | _ n ih =>
  have above : ancestor parent (j + n) start = some a := by
    rw [ancestor_add, walk.ascends j inside, rootAt, Option.bind_some, reach]
  by_cases short : j + n < (before ++ [last]).length
  · rw [walk.ascends _ short, Option.some.injEq] at above
    exact ⟨j + n, short, Nat.le_add_right j n, above⟩
  · -- The walk has closed: the same vertex is met one round earlier.
    have long : (before ++ [last]).length ≤ j + n := by omega
    obtain ⟨b, same, rest⟩ := ancestor_of_le long above
    rw [walk.ancestor_length, if_pos rfl, Option.some.injEq] at same
    subst same
    have shorter : j + n - (before ++ [last]).length < n := by omega
    exact ih _ shorter rest

theorem Walk.mem_iff_reaches (walk : Walk parent start before last root closes) (a : A) :
    a ∈ before ++ [last] ↔ Reaches parent start a := by
  constructor
  · exact walk.reaches
  · rintro ⟨n, reach⟩
    by_cases short : n < (before ++ [last]).length
    · rw [walk.ascends n short, Option.some.injEq] at reach
      exact reach ▸ List.getElem_mem short
    · obtain ⟨b, same, rest⟩ := ancestor_of_le (Nat.le_of_not_lt short) reach
      rw [walk.ancestor_length] at same
      cases closes with
      | false => simp at same
      | true =>
          obtain ⟨j, inside, rootAt⟩ := List.mem_iff_getElem.mp walk.met
          rw [if_pos rfl, Option.some.injEq] at same
          obtain ⟨i, short', -, here⟩ :=
            walk.mem_drop_of_reaches_root inside rootAt _ (same ▸ rest)
          exact here ▸ List.getElem_mem short'

theorem Walk.root_onCycle (walk : Walk parent start before last root true) :
    OnCycle parent root := by
  have up : parent last = some root := by simpa using walk.final
  exact (onCycle_of_parent_reaches up (walk.reaches_last walk.met)).of_reaches
    (Reaches.of_parent up)

theorem Walk.entry (walk : Walk parent start before last root true) : Entry parent start root := by
  obtain ⟨j, inside, rootAt⟩ := List.mem_iff_getElem.mp walk.met
  refine ⟨j, by rw [walk.ascends j inside, rootAt], walk.root_onCycle, ?_⟩
  intro m early b reach cyclic
  have place : m < (before ++ [last]).length := by omega
  rw [walk.ascends m place, Option.some.injEq] at reach
  have above : Reaches parent b root := by
    have up := walk.reaches_later (Nat.le_of_lt early) inside
    rwa [reach, rootAt] at up
  obtain ⟨n, back⟩ := cyclic.reaches_back above
  obtain ⟨i, short, late, same⟩ := walk.mem_drop_of_reaches_root inside rootAt n back
  have equal : i = m := (walk.distinct.getElem_inj_iff).mp (same.trans reach.symm)
  omega

theorem Walk.eq_last_iff (walk : Walk parent start before last root true) {a : A} :
    a = last ↔ OnCycle parent a ∧ parent a = some root := by
  have up : parent last = some root := by simpa using walk.final
  obtain ⟨j, inside, rootAt⟩ := List.mem_iff_getElem.mp walk.met
  constructor
  · rintro rfl
    exact ⟨onCycle_of_parent_reaches up (walk.reaches_last walk.met), up⟩
  · rintro ⟨cyclic, same⟩
    obtain ⟨n, back⟩ := cyclic.reaches_back (Reaches.of_parent same)
    obtain ⟨i, short, late, here⟩ := walk.mem_drop_of_reaches_root inside rootAt n back
    by_contra differs
    have next : i + 1 < (before ++ [last]).length := by
      rcases Nat.lt_or_ge (i + 1) (before ++ [last]).length with less | more
      · exact less
      · have final : i = before.length := by simp at short more; omega
        subst final
        simp only [List.getElem_concat_length] at here
        exact absurd here.symm differs
    -- The parent of the vertex at `i` stands at `i + 1`, and the root stands at `j`.
    have step := walk.step next
    rw [here, same, Option.some.injEq, ← rootAt] at step
    have equal : j = i + 1 := (walk.distinct.getElem_inj_iff).mp step
    omega

end Walks

end ParentGraph
