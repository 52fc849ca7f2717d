import SqlMonitor.Collector.BlockingCycles

set_option autoImplicit false

namespace SqlMonitor.BlockingGraph

open ParentGraph

/-- Every tail of a cycle enters it where the first row whose chain reaches the cycle does. -/
def EntersUniformly (rows : List BlockingInput) : Prop :=
  ∀ session start, OnCycle (blockerOf rows) session →
    firstReaching (blockerOf rows) (rows.map BlockingInput.sessionId) session = some start →
    ∀ tail, Reaches (blockerOf rows) tail session → ¬ OnCycle (blockerOf rows) tail →
      ∀ entry other, Entry (blockerOf rows) start entry →
        Entry (blockerOf rows) tail other → entry = other

def OnlySelfBlocks (rows : List BlockingInput) : Prop :=
  ∀ session, OnCycle (blockerOf rows) session → blockerOf rows session = some session

def OneRootPerEnd (rows : List BlockingInput) (edges : List BlockingEdge) : Prop :=
  ∀ edge ∈ edges, ∀ twin ∈ edges,
    SameEnd (blockerOf rows) edge.blockedSessionId twin.blockedSessionId →
      edge.rootSessionId = twin.rootSessionId

def BlockingEdge.triple (edge : BlockingEdge) : Int × Int × Int :=
  (edge.blockerSessionId, edge.blockedSessionId, edge.rootSessionId)

/-- Reordering rows with distinct ids changes no blocker, blocked session or root. -/
def OrderFree (rows : List BlockingInput) (edges : List BlockingEdge) : Prop :=
  (rows.map BlockingInput.sessionId).Nodup → ∀ other : List BlockingInput, other.Perm rows →
    ∃ edges', buildBlockingEdges other = some edges' ∧
      ∀ triple, triple ∈ edges'.map BlockingEdge.triple ↔ triple ∈ edges.map BlockingEdge.triple

theorem EdgeOrigin.reachesEnd {parent : Int → Option Int} {start : Int} {edge : BlockingEdge}
    (origin : EdgeOrigin parent start edge) :
    ReachesEnd parent edge.blockedSessionId edge.rootSessionId := by
  rcases origin.settled with ⟨stops, -⟩ | ⟨entry, -⟩
  · exact ⟨stops.reaches, Or.inl stops.2⟩
  · refine ⟨?_, Or.inr entry.onCycle⟩
    rcases Reaches.linear origin.reached entry.reaches with above | below
    · exact above
    · exact entry.onCycle.reaches_back below

theorem EdgeOrigins.reachesEnd {rows : List BlockingInput} {edges : List BlockingEdge}
    (origins : EdgeOrigins rows edges) {edge : BlockingEdge} (kept : edge ∈ edges) :
    ReachesEnd (blockerOf rows) edge.blockedSessionId edge.rootSessionId := by
  obtain ⟨start, -, origin⟩ := origins.origin edge kept
  exact origin.reachesEnd

theorem EdgeOrigins.sameEnd_of_root_eq {rows : List BlockingInput} {edges : List BlockingEdge}
    (origins : EdgeOrigins rows edges) {edge twin : BlockingEdge} (kept : edge ∈ edges)
    (kept' : twin ∈ edges)
    (same : edge.rootSessionId = twin.rootSessionId) :
    SameEnd (blockerOf rows) edge.blockedSessionId twin.blockedSessionId :=
  ⟨edge.rootSessionId, origins.reachesEnd kept, same ▸ origins.reachesEnd kept'⟩

theorem EdgeOrigins.entry_of_tail {rows : List BlockingInput} {edges : List BlockingEdge}
    (origins : EdgeOrigins rows edges) {edge : BlockingEdge} (kept : edge ∈ edges) {session : Int}
    (cyclic : OnCycle (blockerOf rows) session)
    (chain : Reaches (blockerOf rows) edge.blockedSessionId session)
    (outside : ¬ OnCycle (blockerOf rows) edge.blockedSessionId) :
    Entry (blockerOf rows) edge.blockedSessionId edge.rootSessionId := by
  obtain ⟨start, -, origin⟩ := origins.origin edge kept
  rcases origin.settled with ⟨stops, -⟩ | ⟨entry, -⟩
  · exact absurd cyclic (stops.not_onCycle chain)
  · exact entry.of_reaches origin.reached outside

theorem EdgeOrigins.root_eq_on_cycle {rows : List BlockingInput} {edges : List BlockingEdge}
    (table : EdgeTable rows edges) (origins : EdgeOrigins rows edges) {edge lead : BlockingEdge}
    (kept : edge ∈ edges) (keptLead : lead ∈ edges)
    (inside : OnCycle (blockerOf rows) edge.blockedSessionId)
    (chain : Reaches (blockerOf rows) edge.blockedSessionId lead.blockedSessionId) :
    edge.rootSessionId = lead.rootSessionId := by
  obtain ⟨cycle, directed, member⟩ := inside.exists_directedCycle
  obtain ⟨root, -, all⟩ := origins.cycle_root table directed
  have member' := directed.mem_of_reaches member chain
  rw [(all edge kept member).1, (all lead keptLead member').1]

section OneRoot

variable {rows : List BlockingInput} {edges : List BlockingEdge}

theorem root_eq_of_onCycle (table : EdgeTable rows edges) (origins : EdgeOrigins rows edges)
    (uniform : EntersUniformly rows) {edge lead : BlockingEdge} (kept : edge ∈ edges)
    (keptLead : lead ∈ edges)
    (cyclic : OnCycle (blockerOf rows) lead.blockedSessionId)
    (chain : Reaches (blockerOf rows) edge.blockedSessionId lead.blockedSessionId) :
    edge.rootSessionId = lead.rootSessionId := by
  by_cases inside : OnCycle (blockerOf rows) edge.blockedSessionId
  · exact origins.root_eq_on_cycle table kept keptLead inside chain
  · obtain ⟨start, first, -, entry, -⟩ := origins.of_onCycle keptLead cyclic
    exact (uniform _ start cyclic first _ chain inside _ _ entry
      (origins.entry_of_tail kept cyclic chain inside)).symm

theorem oneRootPerEnd_of_entersUniformly (table : EdgeTable rows edges)
    (origins : EdgeOrigins rows edges)
    (uniform : EntersUniformly rows) : OneRootPerEnd rows edges := by
  intro edge kept twin kept' same
  obtain ⟨z, ends, ends'⟩ := same
  rcases ends.2 with stopped | cyclic
  · -- A chain that stops does so at its root.
    have root := (ends.reaches (origins.reachesEnd kept)).eq_of_stopped stopped
    have root' := (ends'.reaches (origins.reachesEnd kept')).eq_of_stopped stopped
    rw [root, root']
  · obtain ⟨blocker, up⟩ := cyclic.has_parent
    obtain ⟨lead, keptLead, rfl, -⟩ := table.exists_edge up
    rw [root_eq_of_onCycle table origins uniform kept keptLead cyclic ends.1,
      root_eq_of_onCycle table origins uniform kept' keptLead cyclic ends'.1]

theorem entersUniformly_of_oneRootPerEnd (table : EdgeTable rows edges)
    (origins : EdgeOrigins rows edges)
    (oneRoot : OneRootPerEnd rows edges) : EntersUniformly rows := by
  intro session start cyclic first tail chain outside entry other entryStart entryTail
  obtain ⟨blocker, up⟩ := cyclic.has_parent
  obtain ⟨lead, keptLead, rfl, -⟩ := table.exists_edge up
  have below : ∃ next, blockerOf rows tail = some next := by
    cases stopped : blockerOf rows tail with
    | none => exact absurd (chain.eq_of_stopped stopped ▸ cyclic) outside
    | some next => exact ⟨next, rfl⟩
  obtain ⟨next, upTail⟩ := below
  obtain ⟨edge, kept, rfl, -⟩ := table.exists_edge upTail
  have same :=
    oneRoot edge kept lead keptLead ⟨_, ⟨chain, Or.inr cyclic⟩, ⟨Reaches.refl _, Or.inr cyclic⟩⟩
  obtain ⟨start', first', -, entryLead, -⟩ := origins.of_onCycle keptLead cyclic
  obtain rfl : start = start' := Option.some.inj (first.symm.trans first')
  calc entry = lead.rootSessionId := entryStart.unique entryLead
    _ = edge.rootSessionId := same.symm
    _ = other := (origins.entry_of_tail kept cyclic chain outside).unique entryTail

end OneRoot

section Order

theorem root_unique_of_onlySelfBlocks {rows : List BlockingInput} (selfish : OnlySelfBlocks rows)
    {session root root' : Int} (ends : ReachesEnd (blockerOf rows) session root)
    (ends' : ReachesEnd (blockerOf rows) session root') : root = root' := by
  have chain := ends.reaches ends'
  rcases ends.2 with stopped | cyclic
  · exact (chain.eq_of_stopped stopped).symm
  · exact (chain.eq_of_selfParent (selfish root cyclic)).symm

theorem mem_triples_of_mem {rows other : List BlockingInput} {edges edges' : List BlockingEdge}
    (table : EdgeTable rows edges) (origins : EdgeOrigins rows edges)
    (table' : EdgeTable other edges')
    (origins' : EdgeOrigins other edges') (relation : blockerOf other = blockerOf rows)
    (selfish : OnlySelfBlocks rows) {triple : Int × Int × Int}
    (member : triple ∈ edges.map BlockingEdge.triple) :
    triple ∈ edges'.map BlockingEdge.triple := by
  obtain ⟨edge, kept, rfl⟩ := List.mem_map.mp member
  obtain ⟨twin, kept', session, blocker⟩ := table'.exists_edge (relation ▸ table.linked edge kept)
  have ends' := origins'.reachesEnd kept'
  rw [relation, session] at ends'
  have root := root_unique_of_onlySelfBlocks selfish ends' (origins.reachesEnd kept)
  exact List.mem_map.mpr ⟨twin, kept', by rw [BlockingEdge.triple, session, blocker, root]; rfl⟩

theorem orderFree_of_onlySelfBlocks {rows : List BlockingInput} {edges : List BlockingEdge}
    (positive : ∀ row ∈ rows, 0 < row.sessionId) (table : EdgeTable rows edges)
    (origins : EdgeOrigins rows edges)
    (selfish : (rows.map BlockingInput.sessionId).Nodup → OnlySelfBlocks rows) :
    OrderFree rows edges := by
  intro distinct other perm
  obtain ⟨edges', built', table', origins'⟩ := buildBlockingEdges_returns other
  have from_other := origins' (fun row member => positive row (perm.mem_iff.mp member))
  have relation := blockerOf_perm distinct perm
  have selfish' : OnlySelfBlocks other := by
    rw [OnlySelfBlocks, relation]
    exact selfish distinct
  exact ⟨edges', built', fun triple =>
    ⟨mem_triples_of_mem table' from_other table origins relation.symm selfish',
      mem_triples_of_mem table origins table' from_other relation (selfish distinct)⟩⟩

theorem root_of_first_row {rows : List BlockingInput} {row : BlockingInput}
    {edges : List BlockingEdge}
    (origins : EdgeOrigins (row :: rows) edges)
    (lead : OnCycle (blockerOf (row :: rows)) row.sessionId)
    {edge : BlockingEdge} (kept : edge ∈ edges)
    (chain : Reaches (blockerOf (row :: rows)) row.sessionId edge.blockedSessionId) :
    edge.rootSessionId = row.sessionId := by
  obtain ⟨start, first, -, entry, -⟩ := origins.of_onCycle kept (lead.of_reaches chain)
  have here : firstReaching (blockerOf (row :: rows)) ((row :: rows).map BlockingInput.sessionId)
      edge.blockedSessionId = some row.sessionId := by
    unfold firstReaching
    rw [List.map_cons, List.find?_cons_of_pos (by simpa using chain)]
  rw [here, Option.some.injEq] at first
  subst first
  exact entry.unique (Entry.of_onCycle lead)

theorem mem_triples_of_orderFree {rows : List BlockingInput} {edges : List BlockingEdge}
    (positive : ∀ row ∈ rows, 0 < row.sessionId)
    (distinct : (rows.map BlockingInput.sessionId).Nodup)
    (free : OrderFree rows edges) {lead session blocker : Int}
    (cyclic : OnCycle (blockerOf rows) lead)
    (chain : Reaches (blockerOf rows) lead session) (up : blockerOf rows session = some blocker) :
    (blocker, session, lead) ∈ edges.map BlockingEdge.triple := by
  obtain ⟨above, upLead⟩ := cyclic.has_parent
  obtain ⟨row, found, -⟩ := Option.bind_eq_some_iff.mp upLead
  obtain ⟨member, rfl⟩ := sessionId_of_lastRow found
  -- Put the row of `lead` in front of the others.
  have perm : (row :: rows.erase row).Perm rows := (List.perm_cons_erase member).symm
  obtain ⟨edges', built', same⟩ := free distinct _ perm
  obtain ⟨_, built, table, origins⟩ := buildBlockingEdges_returns (row :: rows.erase row)
  obtain rfl := Option.some.inj (built.symm.trans built')
  have relation := blockerOf_perm distinct perm
  obtain ⟨edge, kept, rfl, rfl⟩ := table.exists_edge (relation ▸ up)
  have root :=
    root_of_first_row (origins (fun other inside => positive other (perm.mem_iff.mp inside)))
    (relation ▸ cyclic) kept (relation ▸ chain)
  exact (same _).mp (List.mem_map.mpr ⟨edge, kept, by rw [BlockingEdge.triple, root]⟩)

theorem onlySelfBlocks_of_orderFree {rows : List BlockingInput} {edges : List BlockingEdge}
    (positive : ∀ row ∈ rows, 0 < row.sessionId) (table : EdgeTable rows edges)
    (free : OrderFree rows edges)
    (distinct : (rows.map BlockingInput.sessionId).Nodup) : OnlySelfBlocks rows := by
  intro session cyclic
  obtain ⟨blocker, up⟩ := cyclic.has_parent
  have climb := Reaches.of_parent up
  have here := mem_triples_of_orderFree positive distinct free cyclic (Reaches.refl _) up
  have there := mem_triples_of_orderFree positive distinct free (cyclic.of_reaches climb)
    (cyclic.reaches_back climb) up
  obtain ⟨edge, kept, same⟩ := List.mem_map.mp here
  obtain ⟨twin, kept', same'⟩ := List.mem_map.mp there
  simp only [BlockingEdge.triple, Prod.mk.injEq] at same same'
  have equal := table.eq_of_blocked kept kept' (same.2.1.trans same'.2.1.symm)
  rw [up, ← same.2.2, ← same'.2.2, equal]

end Order

def StableRoots (rows : List BlockingInput) : Prop :=
  EntersUniformly rows ∧ ((rows.map BlockingInput.sessionId).Nodup → OnlySelfBlocks rows)

theorem roots_stable_iff {rows : List BlockingInput} {edges : List BlockingEdge}
    (positive : ∀ row ∈ rows, 0 < row.sessionId) (table : EdgeTable rows edges)
    (origins : EdgeOrigins rows edges) :
    OneRootPerEnd rows edges ∧ OrderFree rows edges ↔ StableRoots rows := by
  constructor
  · rintro ⟨oneRoot, free⟩
    exact ⟨entersUniformly_of_oneRootPerEnd table origins oneRoot,
      onlySelfBlocks_of_orderFree positive table free⟩
  · rintro ⟨uniform, selfish⟩
    exact ⟨oneRootPerEnd_of_entersUniformly table origins uniform,
      orderFree_of_onlySelfBlocks positive table origins selfish⟩

end SqlMonitor.BlockingGraph
