import SqlMonitor.Shared.StableSort

set_option autoImplicit false

variable {A B K : Type} [LinearOrder K]

structure TopRows (limit : Nat) (key : A → K) (rows top : List A) : Prop where
  above : ∃ rest, (top ++ rest).Perm rows ∧ ∀ row ∈ top, ∀ other ∈ rest, key other ≤ key row
  ordered : top.Pairwise fun row next => key next ≤ key row
  length : top.length = min limit rows.length

variable {limit : Nat} {key : A → K} {rows top : List A}

theorem topRows_take_sortDescending (limit : Nat) (key : A → K) (rows : List A) :
    TopRows limit key rows ((sortDescending key rows).take limit) := by
  have ordered := sortDescending_pairwise key rows
  have split := List.take_append_drop limit (sortDescending key rows)
  rw [← split] at ordered
  obtain ⟨first, -, across⟩ := List.pairwise_append.mp ordered
  refine ⟨⟨(sortDescending key rows).drop limit, ?_, across⟩, first, ?_⟩
  · rw [split]
    exact sortDescending_perm key rows
  · rw [List.length_take, length_sortDescending]

theorem TopRows.perm {other : List A} (largest : TopRows limit key rows top)
    (same : rows.Perm other) :
    TopRows limit key other top := by
  obtain ⟨rest, all, below⟩ := largest.above
  exact ⟨⟨rest, all.trans same, below⟩, largest.ordered,
    largest.length.trans (by rw [same.length_eq])⟩

theorem TopRows.mem (largest : TopRows limit key rows top) {row : A} (member : row ∈ top) :
    row ∈ rows := by
  obtain ⟨rest, all, -⟩ := largest.above
  exact all.mem_iff.mp (List.mem_append_left rest member)

theorem TopRows.map {convert : A → B} {keyOf : B → K} (largest : TopRows limit key rows top)
    (kept : ∀ row ∈ rows, keyOf (convert row) = key row) :
    TopRows limit keyOf (rows.map convert) (top.map convert) := by
  obtain ⟨rest, all, below⟩ := largest.above
  have keptRest : ∀ row ∈ rest, keyOf (convert row) = key row := fun row member =>
    kept row (all.mem_iff.mp (List.mem_append_right top member))
  refine ⟨⟨rest.map convert, ?_, ?_⟩, ?_, ?_⟩
  · rw [← List.map_append]
    exact all.map convert
  · intro row member other inRest
    obtain ⟨source, inside, rfl⟩ := List.mem_map.mp member
    obtain ⟨later, insideRest, rfl⟩ := List.mem_map.mp inRest
    rw [kept source (largest.mem inside), keptRest later insideRest]
    exact below source inside later insideRest
  · rw [List.pairwise_map]
    refine largest.ordered.imp_of_mem fun {row next} member memberNext ordered => ?_
    rw [kept row (largest.mem member), kept next (largest.mem memberNext)]
    exact ordered
  · rw [List.length_map, List.length_map, largest.length]
