import SqlMonitor.Collector.BlockingForest

set_option autoImplicit false

namespace SqlMonitor.BlockingGraph

open ParentGraph

theorem firstReaching_congr {parent : Int → Option Int} {starts : List Int} {a b : Int}
    (same : ∀ start, Reaches parent start a ↔ Reaches parent start b) :
    firstReaching parent starts a = firstReaching parent starts b := by
  unfold firstReaching
  congr 1
  funext start
  exact decide_eq_decide.mpr (same start)

theorem EdgeTable.exists_edge {rows : List BlockingInput} {edges : List BlockingEdge}
    (table : EdgeTable rows edges) {session blocker : Int}
    (up : blockerOf rows session = some blocker) :
    ∃ edge ∈ edges, edge.blockedSessionId = session ∧ edge.blockerSessionId = blocker := by
  obtain ⟨edge, kept, same⟩ := List.mem_map.mp ((table.blocked_iff session).mpr ⟨blocker, up⟩)
  have linked := table.linked edge kept
  rw [same, up, Option.some.injEq] at linked
  exact ⟨edge, kept, same, linked.symm⟩

theorem EdgeTable.eq_of_blocked {rows : List BlockingInput} {edges : List BlockingEdge}
    (table : EdgeTable rows edges) {edge twin : BlockingEdge} (kept : edge ∈ edges)
    (kept' : twin ∈ edges)
    (same : edge.blockedSessionId = twin.blockedSessionId) : edge = twin :=
  List.inj_on_of_nodup_map table.distinct kept kept' same

theorem EdgeOrigins.of_onCycle {rows : List BlockingInput} {edges : List BlockingEdge}
    (origins : EdgeOrigins rows edges) {edge : BlockingEdge} (kept : edge ∈ edges)
    (cyclic : OnCycle (blockerOf rows) edge.blockedSessionId) :
    ∃ start, firstReaching (blockerOf rows) (rows.map BlockingInput.sessionId) edge.blockedSessionId =
        some start ∧ Reaches (blockerOf rows) start edge.blockedSessionId ∧
      Entry (blockerOf rows) start edge.rootSessionId ∧
      (edge.cycleDetected = true ↔ blockerOf rows edge.blockedSessionId = some edge.rootSessionId) := by
  obtain ⟨start, first, origin⟩ := origins.origin edge kept
  rcases origin.settled with ⟨stops, -⟩ | ⟨entry, flag⟩
  · exact absurd cyclic (stops.not_onCycle (Reaches.refl _))
  · exact ⟨start, first, origin.reached, entry, by rw [flag]; exact and_iff_right cyclic⟩

theorem EdgeOrigins.cycle_root {rows : List BlockingInput} {edges : List BlockingEdge}
    (table : EdgeTable rows edges) (origins : EdgeOrigins rows edges) {cycle : List Int}
    (directed : IsDirectedCycle (blockerOf rows) cycle) :
    ∃ root ∈ cycle, ∀ edge ∈ edges, edge.blockedSessionId ∈ cycle → edge.rootSessionId = root ∧
      (edge.cycleDetected = true ↔ blockerOf rows edge.blockedSessionId = some root) := by
  obtain ⟨session, member⟩ := List.exists_mem_of_ne_nil cycle directed.nonempty
  obtain ⟨blocker, up⟩ := (directed.onCycle member).has_parent
  obtain ⟨lead, keptLead, rfl, -⟩ := table.exists_edge up
  obtain ⟨start, first, reached, entry, -⟩ := origins.of_onCycle keptLead (directed.onCycle member)
  have rootInside : lead.rootSessionId ∈ cycle := by
    refine directed.mem_of_reaches member ?_
    rcases Reaches.linear entry.reaches reached with above | below
    · exact entry.onCycle.reaches_back above
    · exact below
  refine ⟨lead.rootSessionId, rootInside, ?_⟩
  intro edge kept inside
  obtain ⟨start', first', -, entry', flag⟩ := origins.of_onCycle kept (directed.onCycle inside)
  have together : firstReaching (blockerOf rows) (rows.map BlockingInput.sessionId) edge.blockedSessionId =
      firstReaching (blockerOf rows) (rows.map BlockingInput.sessionId) lead.blockedSessionId :=
    firstReaching_congr (fun start => ⟨fun reach => reach.trans (directed.reaches inside member),
      fun reach => reach.trans (directed.reaches member inside)⟩)
  rw [first', first, Option.some.injEq] at together
  subst together
  have root := entry'.unique entry
  exact ⟨root, root ▸ flag⟩

def JoinsConsecutive (cycle : List Int) (edge : BlockingEdge) : Prop :=
  ∃ i, ∃ inside : i < cycle.length, edge.blockedSessionId = cycle[i] ∧
    cycle[(i + 1) % cycle.length]? = some edge.blockerSessionId

theorem joinsConsecutive_of_mem {rows : List BlockingInput} {edges : List BlockingEdge}
    (table : EdgeTable rows edges) {cycle : List Int}
    (directed : IsDirectedCycle (blockerOf rows) cycle)
    {edge : BlockingEdge} (kept : edge ∈ edges) (member : edge.blockedSessionId ∈ cycle) :
    JoinsConsecutive cycle edge := by
  obtain ⟨i, inside, same⟩ := List.mem_iff_getElem.mp member
  refine ⟨i, inside, same.symm, ?_⟩
  rw [← directed.closes i inside, same]
  exact table.linked edge kept

structure CycleFlags (rows : List BlockingInput) (edges : List BlockingEdge) : Prop where
  oneEach : ∀ cycle, IsDirectedCycle (blockerOf rows) cycle → ∃ edge,
    edges.filter (fun edge => edge.cycleDetected && decide (edge.blockedSessionId ∈ cycle)) = [edge] ∧
      JoinsConsecutive cycle edge
  onlyCycles : ∀ edge ∈ edges, edge.cycleDetected = true →
    ∃ cycle, IsDirectedCycle (blockerOf rows) cycle ∧ JoinsConsecutive cycle edge

theorem cycleFlags {rows : List BlockingInput} {edges : List BlockingEdge}
    (table : EdgeTable rows edges)
    (origins : EdgeOrigins rows edges) : CycleFlags rows edges where
  oneEach := by
    intro cycle directed
    obtain ⟨root, rootInside, all⟩ := origins.cycle_root table directed
    obtain ⟨session, ⟨member, up⟩, only⟩ := directed.exists_unique_below rootInside
    obtain ⟨edge, kept, rfl, -⟩ := table.exists_edge up
    refine ⟨edge, ?_, joinsConsecutive_of_mem table directed kept member⟩
    have distinct : edges.Nodup := List.Nodup.of_map _ table.distinct
    refine List.perm_singleton.mp
      ((List.perm_ext_iff_of_nodup (distinct.filter _) (List.nodup_singleton edge)).mpr ?_)
    intro other
    rw [List.mem_filter, List.mem_singleton, Bool.and_eq_true, decide_eq_true_eq]
    constructor
    · rintro ⟨kept', flag, inside⟩
      have above := (all other kept' inside).2.mp flag
      exact table.eq_of_blocked kept' kept (only _ ⟨inside, above⟩)
    · rintro rfl
      exact ⟨kept, (all other kept member).2.mpr up, member⟩
  onlyCycles := by
    intro edge kept flag
    obtain ⟨start, -, origin⟩ := origins.origin edge kept
    rcases origin.settled with ⟨-, unflagged⟩ | ⟨-, closing⟩
    · simp [unflagged] at flag
    · obtain ⟨cycle, directed, member⟩ := (closing.mp flag).1.exists_directedCycle
      exact ⟨cycle, directed, joinsConsecutive_of_mem table directed kept member⟩

theorem buildBlockingEdges_flags (rows : List BlockingInput)
    (positive : ∀ row ∈ rows, 0 < row.sessionId) :
    ∃ edges, buildBlockingEdges rows = some edges ∧ EdgeTable rows edges ∧
      CycleFlags rows edges := by
  obtain ⟨edges, built, table, origins⟩ := buildBlockingEdges_returns rows
  exact ⟨edges, built, table, cycleFlags table (origins positive)⟩

-- Two tails enter one cycle at different sessions; another session blocks itself.
def tangledRows : List BlockingInput :=
  [{ sessionId := 61, blockerSessionId := some 71 },
    { sessionId := 62, blockerSessionId := some 72 },
    { sessionId := 71, blockerSessionId := some 72 },
    { sessionId := 72, blockerSessionId := some 71 },
    { sessionId := 80, blockerSessionId := some 80 },
    { sessionId := 90, blockerSessionId := some (-4) }]

theorem buildBlockingEdges_flags_tangledRows :
    ∃ edges, buildBlockingEdges tangledRows = some edges ∧ EdgeTable tangledRows edges ∧
      CycleFlags tangledRows edges :=
  buildBlockingEdges_flags tangledRows (by decide)

end SqlMonitor.BlockingGraph
