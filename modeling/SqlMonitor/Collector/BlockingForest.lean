import SqlMonitor.Collector.BlockingEdges

set_option autoImplicit false

namespace SqlMonitor.BlockingGraph

open ParentGraph

theorem lastRow_eq_some_iff {rows : List BlockingInput}
    (distinct : (rows.map BlockingInput.sessionId).Nodup)
    (session : Int) (row : BlockingInput) :
    lastRow rows session = some row ↔ row ∈ rows ∧ row.sessionId = session := by
  constructor
  · exact sessionId_of_lastRow
  · rintro ⟨member, same⟩
    have kept : row ∈ rows.filter (fun other => other.sessionId = session) :=
      List.mem_filter.mpr ⟨member, by simpa using same⟩
    obtain ⟨last, found⟩ := Option.ne_none_iff_exists'.mp
      (mt List.getLast?_eq_none_iff.mp (List.ne_nil_of_mem kept))
    obtain ⟨present, equal⟩ := sessionId_of_lastRow found
    rw [lastRow, found, List.inj_on_of_nodup_map distinct present member (equal.trans same.symm)]

theorem lastRow_perm {rows other : List BlockingInput}
    (distinct : (rows.map BlockingInput.sessionId).Nodup)
    (perm : other.Perm rows) (session : Int) : lastRow other session = lastRow rows session := by
  have distinct' : (other.map BlockingInput.sessionId).Nodup := (perm.map _).nodup_iff.mpr distinct
  refine Option.ext (fun row => ?_)
  rw [lastRow_eq_some_iff distinct', lastRow_eq_some_iff distinct, perm.mem_iff]

theorem blockerOf_perm {rows other : List BlockingInput}
    (distinct : (rows.map BlockingInput.sessionId).Nodup) (perm : other.Perm rows) :
    blockerOf other = blockerOf rows := by
  funext session
  simp only [blockerOf, lastRow_perm distinct perm]

structure ForestEdges (rows : List BlockingInput) (edges : List BlockingEdge) : Prop where
  table : EdgeTable rows edges
  rooted : ∀ edge ∈ edges,
    EndsAt (blockerOf rows) edge.blockedSessionId edge.rootSessionId edge.chainDepth
  unflagged : ∀ edge ∈ edges, edge.cycleDetected = false
  blockerFirst : ∀ i j (first : i < edges.length) (second : j < edges.length),
    edges[i].blockedSessionId = edges[j].blockerSessionId → i < j

theorem forestEdges_of_acyclic {rows : List BlockingInput} {edges : List BlockingEdge}
    (table : EdgeTable rows edges) (origins : EdgeOrigins rows edges)
    (acyclic : Acyclic (blockerOf rows)) : ForestEdges rows edges := by
  have settled : ∀ edge ∈ edges,
      EndsAt (blockerOf rows) edge.blockedSessionId edge.rootSessionId edge.chainDepth ∧
        edge.cycleDetected = false := by
    intro edge kept
    obtain ⟨start, -, origin⟩ := origins.origin edge kept
    rcases origin.settled with stops | ⟨entry, -⟩
    · exact stops
    · exact absurd entry.onCycle (acyclic _)
  refine ⟨table, fun edge kept => (settled edge kept).1, fun edge kept => (settled edge kept).2, ?_⟩
  intro i j first second same
  rcases Nat.lt_trichotomy i j with before | equal | after
  · exact before
  · subst equal
    have up := table.linked edges[i] (List.getElem_mem first)
    rw [same] at up
    exact absurd (onCycle_of_parent_reaches up (Reaches.refl _)) (acyclic _)
  · exact absurd same ((List.pairwise_iff_getElem.mp (origins.ordered acyclic)) j i second first after)

theorem ForestEdges.mem_of_mem {rows other : List BlockingInput} {edges edges' : List BlockingEdge}
    (forest : ForestEdges rows edges) (forest' : ForestEdges other edges')
    (rowsAgree : ∀ session, lastRow other session = lastRow rows session)
    {edge : BlockingEdge} (kept : edge ∈ edges) : edge ∈ edges' := by
  have relation : blockerOf other = blockerOf rows := by
    funext session
    simp only [blockerOf, rowsAgree]
  have blocked := (forest'.table.blocked_iff edge.blockedSessionId).mpr
    ⟨_, relation ▸ forest.table.linked edge kept⟩
  obtain ⟨twin, kept', session⟩ := List.mem_map.mp blocked
  obtain ⟨row, found, waitType, waitDuration, resource⟩ := forest.table.own edge kept
  obtain ⟨row', found', waitType', waitDuration', resource'⟩ := forest'.table.own twin kept'
  have sameRow : row' = row := by
    rw [session, rowsAgree, found] at found'
    exact (Option.some.inj found').symm
  have blocker : twin.blockerSessionId = edge.blockerSessionId := by
    have up := forest'.table.linked twin kept'
    rw [relation, session, forest.table.linked edge kept] at up
    exact (Option.some.inj up).symm
  have stop := forest'.rooted twin kept'
  rw [relation, session] at stop
  obtain ⟨root, depth⟩ := stop.unique (forest.rooted edge kept)
  have flag := (forest'.unflagged twin kept').trans (forest.unflagged edge kept).symm
  have equal : twin = edge := by
    cases twin
    cases edge
    simp_all
  exact equal ▸ kept'

theorem buildBlockingEdges_forest (rows : List BlockingInput)
    (positive : ∀ row ∈ rows, 0 < row.sessionId) (acyclic : Acyclic (blockerOf rows)) :
    ∃ edges, buildBlockingEdges rows = some edges ∧ ForestEdges rows edges ∧
      ((rows.map BlockingInput.sessionId).Nodup → ∀ other : List BlockingInput, other.Perm rows →
        ∃ edges', buildBlockingEdges other = some edges' ∧
          ∀ edge, edge ∈ edges' ↔ edge ∈ edges) := by
  obtain ⟨edges, built, table, origins⟩ := buildBlockingEdges_returns rows
  have forest := forestEdges_of_acyclic table (origins positive) acyclic
  refine ⟨edges, built, forest, ?_⟩
  intro distinct other perm
  obtain ⟨edges', built', table', origins'⟩ := buildBlockingEdges_returns other
  have positive' : ∀ row ∈ other, 0 < row.sessionId := fun row member =>
    positive row (perm.mem_iff.mp member)
  have acyclic' : Acyclic (blockerOf other) := blockerOf_perm distinct perm ▸ acyclic
  have forest' := forestEdges_of_acyclic table' (origins' positive') acyclic'
  have rowsAgree := lastRow_perm distinct perm
  exact ⟨edges', built', fun edge =>
    ⟨forest'.mem_of_mem forest (fun session => (rowsAgree session).symm),
      forest.mem_of_mem forest' rowsAgree⟩⟩

theorem acyclic_of_smaller_blockers {rows : List BlockingInput}
    (smaller : ∀ row ∈ rows, ∀ blocker ∈ row.blockerSessionId,
      blocker.toNat < row.sessionId.toNat) :
    Acyclic (blockerOf rows) := by
  refine acyclic_of_rank Int.toNat (fun session blocker up => ?_)
  obtain ⟨row, found, above⟩ := Option.bind_eq_some_iff.mp up
  obtain ⟨member, rfl⟩ := sessionId_of_lastRow found
  exact smaller row member blocker (Option.filter_eq_some_iff.mp above).1

def forestRows : List BlockingInput :=
  [{ sessionId := 53, blockerSessionId := some 51, waitType := some "LCK_M_S", waitDurationMs := some 100 },
    { sessionId := 51, blockerSessionId := some 50, waitType := some "LCK_M_X", waitDurationMs := some 200 },
    { sessionId := 61, blockerSessionId := some (-2) },
    { sessionId := 52, blockerSessionId := some 51 }]

theorem buildBlockingEdges_forestRows :
    ∃ edges, buildBlockingEdges forestRows = some edges ∧ ForestEdges forestRows edges ∧
      ((forestRows.map BlockingInput.sessionId).Nodup →
        ∀ other : List BlockingInput, other.Perm forestRows →
        ∃ edges', buildBlockingEdges other = some edges' ∧
          ∀ edge, edge ∈ edges' ↔ edge ∈ edges) :=
  buildBlockingEdges_forest forestRows (by decide) (acyclic_of_smaller_blockers (by decide))

end SqlMonitor.BlockingGraph
