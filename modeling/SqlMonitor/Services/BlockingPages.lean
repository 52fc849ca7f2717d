import SqlMonitor.Collector.BlockingRoots
import SqlMonitor.Collector.Snapshots
import SqlMonitor.Services.Blocking

set_option autoImplicit false

namespace SqlMonitor.Services

open Dmv Collector BlockingGraph

structure SoundRows (rows : List BlockingSnapshot) : Prop where
  distinct : (rows.map BlockingSnapshot.blockedSessionId).Nodup
  rooted : ∀ row ∈ rows, ∃ root, row.rootSessionId = some root
  counted : ∀ row ∈ rows, row.blockedCount = (rowsOfRoot rows row.rootSessionId).length

theorem soundRows_of_table {inputs : List BlockingInput} {edges : List BlockingEdge}
    (table : EdgeTable inputs edges) (frame : FrameKey) :
    SoundRows (blockingSnapshotsOf frame edges) where
  distinct := by
    rw [blockingSnapshotsOf, List.map_map]
    exact table.distinct
  rooted := by
    intro row member
    obtain ⟨edge, -, rfl⟩ := List.mem_map.mp member
    exact ⟨edge.rootSessionId, rfl⟩
  counted := by
    intro row member
    obtain ⟨edge, -, rfl⟩ := List.mem_map.mp member
    -- The counter counts the roots of the edges, the group filters the rows built from them.
    simp only [blockingSnapshot, blockedCountByRoot, rowsOfRoot, blockingSnapshotsOf,
      List.filter_map,
      List.length_map, List.count_eq_countP, List.countP_eq_length_filter]
    congr 1
    apply List.filter_congr
    intro other _
    by_cases same : other.rootSessionId = edge.rootSessionId <;> simp [blockingSnapshot, same]

theorem SoundRows.perm {rows other : List BlockingSnapshot} (sound : SoundRows rows)
    (perm : other.Perm rows) : SoundRows other where
  distinct := (perm.map _).nodup_iff.mpr sound.distinct
  rooted := fun row member => sound.rooted row (perm.mem_iff.mp member)
  counted := by
    intro row member
    rw [sound.counted row (perm.mem_iff.mp member)]
    exact (perm.symm.filter _).length_eq

section Agreement

variable {rows : List BlockingSnapshot}

theorem rowsOfRoot_distinct (sound : SoundRows rows) (root : Option Int) :
    ((rowsOfRoot rows root).map BlockingSnapshot.blockedSessionId).Nodup :=
  sound.distinct.sublist (List.filter_sublist.map _)

theorem chainBlockedCount_eq (sound : SoundRows rows) (root : Option Int) :
    chainBlockedCount (rowsOfRoot rows root) = (rowsOfRoot rows root).length := by
  have blocked : ((rowsOfRoot rows root).map BlockingSnapshot.blockedSessionId).toFinset.card =
      (rowsOfRoot rows root).length := by
    rw [List.toFinset_card_of_nodup (rowsOfRoot_distinct sound root), List.length_map]
  have stored : maxOrZero ((rowsOfRoot rows root).map BlockingSnapshot.blockedCount) ≤
      (rowsOfRoot rows root).length := by
    by_cases empty : rowsOfRoot rows root = []
    · simp [empty, maxOrZero]
    · have attained : maxOrZero ((rowsOfRoot rows root).map BlockingSnapshot.blockedCount) ∈
          (rowsOfRoot rows root).map BlockingSnapshot.blockedCount :=
            maxOrZero_mem (by simpa using empty)
      obtain ⟨row, member, same⟩ := List.mem_map.mp attained
      have kept := List.mem_filter.mp member
      have root_eq : row.rootSessionId = root := by simpa using kept.2
      rw [← same, sound.counted row kept.1, root_eq]
  rw [chainBlockedCount, blocked]
  exact Nat.max_eq_left stored

theorem groups_flatten_perm (rows : List BlockingSnapshot) :
    ((groupedRows rows).entries.map Prod.snd).flatten.Perm rows :=
  InsertionDict.flatten_groupBy_perm _ rows

theorem group_of_entry {root : Option Int} {groupRows : List BlockingSnapshot}
    (entry : (root, groupRows) ∈ (groupedRows rows).entries) :
    groupRows = rowsOfRoot rows root ∧ groupRows ≠ [] := by
  obtain ⟨present, rfl⟩ := (mem_entries_iff rows root groupRows).mp entry
  obtain ⟨row, member, same⟩ := List.mem_map.mp present
  exact ⟨rfl, List.ne_nil_of_mem (List.mem_filter.mpr ⟨member, by simpa using same⟩)⟩

theorem sum_blockedCount (sound : SoundRows rows) :
    ((blockingChains rows).map BlockingChain.blockedCount).sum = rows.length := by
  have lengths : ((groupedRows rows).entries.map fun entry => blockingChain entry.1 entry.2).map
      BlockingChain.blockedCount = ((groupedRows rows).entries.map Prod.snd).map List.length := by
    simp only [List.map_map]
    apply List.map_congr_left
    intro entry member
    obtain ⟨same, -⟩ := group_of_entry member
    have count := chainBlockedCount_eq sound entry.1
    rw [← same] at count
    exact count
  rw [((blockingChains_perm rows).map _).sum_nat, lengths, ← List.length_flatten]
  exact (groups_flatten_perm rows).length_eq

theorem length_blockingChains (rooted : ∀ row ∈ rows, ∃ root, row.rootSessionId = some root) :
    (blockingChains rows).length = (rows.filterMap BlockingSnapshot.rootSessionId).toFinset.card := by
  have keys : (groupedRows rows).keys.toFinset =
      (rows.filterMap BlockingSnapshot.rootSessionId).toFinset.image some := by
    ext root
    rw [List.mem_toFinset, InsertionDict.mem_keys_iff]
    simp only [InsertionDict.get?_eq_some_iff, mem_entries_iff, exists_eq_right, List.mem_map,
      List.mem_filterMap, Finset.mem_image, List.mem_toFinset]
    constructor
    · intro found
      obtain ⟨row, member, rfl⟩ := found
      obtain ⟨id, same⟩ := rooted row member
      exact ⟨id, ⟨row, member, same⟩, same.symm⟩
    · intro found
      obtain ⟨id, ⟨row, member, same⟩, rfl⟩ := found
      exact ⟨row, member, same⟩
  calc (blockingChains rows).length
      = (groupedRows rows).keys.length := by
        rw [← List.length_map (f := BlockingChain.rootSessionId), (roots_perm rows).length_eq]
    _ = (groupedRows rows).keys.toFinset.card :=
        (List.toFinset_card_of_nodup (groupedRows rows).keys_nodup).symm
    _ = (rows.filterMap BlockingSnapshot.rootSessionId).toFinset.card := by
        rw [keys, Finset.card_image_of_injective _ (Option.some_injective Int)]

theorem maxWait_blockingChains (rows : List BlockingSnapshot) :
    maxOrZero ((blockingChains rows).map BlockingChain.maxWaitTimeMs) =
      maxOrZero (rows.map waitOrZero) := by
  have groups : ((groupedRows rows).entries.map fun entry => blockingChain entry.1 entry.2).map
      BlockingChain.maxWaitTimeMs =
        (((groupedRows rows).entries.map Prod.snd).map (List.map waitOrZero)).map maxOrZero := by
    simp [Function.comp_def, blockingChain]
  calc maxOrZero ((blockingChains rows).map BlockingChain.maxWaitTimeMs)
      = maxOrZero
          ((((groupedRows rows).entries.map Prod.snd).map (List.map waitOrZero)).map maxOrZero) := by
        rw [← groups]
        exact maxOrZero_congr fun value => ((blockingChains_perm rows).map _).mem_iff
    _ = maxOrZero (((groupedRows rows).entries.map Prod.snd).map (List.map waitOrZero)).flatten := by
        refine (maxOrZero_flatten ?_).symm
        intro group member
        obtain ⟨_, inside, rfl⟩ := List.mem_map.mp member
        obtain ⟨⟨root, groupRows⟩, entry, rfl⟩ := List.mem_map.mp inside
        simpa using (group_of_entry entry).2
    _ = maxOrZero (rows.map waitOrZero) := by
        rw [← List.map_flatten]
        exact maxOrZero_congr fun value => ((groups_flatten_perm rows).map _).mem_iff

theorem toNode_injective (sound : SoundRows rows) {row other : BlockingSnapshot}
    (member : row ∈ rows)
    (member' : other ∈ rows) (same : toNode row = toNode other) : row = other :=
  List.inj_on_of_nodup_map sound.distinct member member' (congrArg BlockingNode.blockedSessionId same)

theorem chains_of_row (sound : SoundRows rows) {row : BlockingSnapshot} (member : row ∈ rows) :
    ∃ chain, (blockingChains rows).filter (fun chain => toNode row ∈ chain.nodes) = [chain] ∧
      chain.rootSessionId = row.rootSessionId := by
  let chain := blockingChain row.rootSessionId (rowsOfRoot rows row.rootSessionId)
  have listed : chain ∈ blockingChains rows :=
    (mem_blockingChains_iff rows chain).mpr ⟨_, List.mem_map_of_mem member, rfl⟩
  have distinct : (blockingChains rows).Nodup := List.Nodup.of_map _ (roots_nodup rows)
  refine ⟨chain, ?_, rfl⟩
  apply List.perm_singleton.mp
  apply (List.perm_ext_iff_of_nodup (distinct.filter _) (List.nodup_singleton chain)).mpr
  intro other
  rw [List.mem_filter, decide_eq_true_eq, List.mem_singleton]
  constructor
  · intro found
    obtain ⟨listed', inside⟩ := found
    obtain ⟨twin, member', root, same⟩ := (mem_nodes_iff listed' _).mp inside
    obtain rfl := toNode_injective sound member' member same
    exact eq_of_root_eq listed' listed root.symm
  · intro same
    rw [same]
    exact ⟨listed, (mem_nodes_iff listed _).mpr ⟨row, member, rfl, rfl⟩⟩

theorem nodes_card (sound : SoundRows rows) {chain : BlockingChain}
    (member : chain ∈ blockingChains rows) :
    chain.blockedCount = (chain.nodes.map BlockingNode.blockedSessionId).toFinset.card := by
  obtain ⟨root, -, rfl⟩ := (mem_blockingChains_iff rows chain).mp member
  have sorted : ((chainNodes (rowsOfRoot rows root)).map BlockingNode.blockedSessionId).Perm
      ((rowsOfRoot rows root).map BlockingSnapshot.blockedSessionId) := by
    rw [chainNodes, List.map_map]
    exact (List.perm_insertionSort _ _).map _
  have distinct := sorted.nodup_iff.mpr (rowsOfRoot_distinct sound root)
  calc (blockingChain root (rowsOfRoot rows root)).blockedCount
      = (rowsOfRoot rows root).length := chainBlockedCount_eq sound root
    _ = ((chainNodes (rowsOfRoot rows root)).map BlockingNode.blockedSessionId).length := by
        rw [sorted.length_eq, List.length_map]
    _ = _ := (List.toFinset_card_of_nodup distinct).symm

theorem stored_blockedCount (sound : SoundRows rows) {chain : BlockingChain}
    (member : chain ∈ blockingChains rows) {row : BlockingSnapshot} (stored : row ∈ rows)
    (same : row.rootSessionId = chain.rootSessionId) : row.blockedCount = chain.blockedCount := by
  obtain ⟨root, -, rfl⟩ := (mem_blockingChains_iff rows chain).mp member
  have equal : row.rootSessionId = root := same
  rw [sound.counted row stored, equal]
  exact (chainBlockedCount_eq sound root).symm

end Agreement

structure PagesAgree (rows : List BlockingSnapshot) (metrics : DashboardMetrics)
    (chains : List BlockingChain) : Prop where
  blocked : metrics.blockedSessionCount = (chains.map BlockingChain.blockedCount).sum
  roots : metrics.rootBlockerCount = chains.length
  longest : metrics.maxBlockingDurationMs = maxOrZero (chains.map BlockingChain.maxWaitTimeMs)
  oneChain : ∀ row ∈ rows, ∃ chain, chains.filter (fun chain => toNode row ∈ chain.nodes) = [chain] ∧
    chain.rootSessionId = row.rootSessionId
  onlyRows : ∀ chain ∈ chains, ∀ node ∈ chain.nodes, ∃ row ∈ rows,
    row.rootSessionId = chain.rootSessionId ∧ toNode row = node
  storedCount : ∀ chain ∈ chains, ∀ row ∈ rows, row.rootSessionId = chain.rootSessionId →
    row.blockedCount = chain.blockedCount
  blockedSessions : ∀ chain ∈ chains,
    chain.blockedCount = (chain.nodes.map BlockingNode.blockedSessionId).toFinset.card

theorem dashboardMetrics_perm {rows other : List BlockingSnapshot} (perm : other.Perm rows)
    (sessions : List SessionSnapshot) (requests : List RequestSnapshot) :
    dashboardMetrics sessions requests other = dashboardMetrics sessions requests rows := by
  have blocked := List.toFinset_eq_of_perm _ _ (perm.map BlockingSnapshot.blockedSessionId)
  have roots := List.toFinset_eq_of_perm _ _ (perm.filterMap BlockingSnapshot.rootSessionId)
  have longest := maxOrZero_congr fun value =>
    (perm.map fun row => coalesce row.maxWaitTimeMs (waitDurationMs row) 0).mem_iff (a := value)
  simp only [dashboardMetrics, blocked, roots, longest]

theorem pagesAgree_of_sound {rows : List BlockingSnapshot} (sound : SoundRows rows)
    (sessions : List SessionSnapshot) (requests : List RequestSnapshot) :
    PagesAgree rows (dashboardMetrics sessions requests rows) (blockingChains rows) where
  blocked := by
    rw [sum_blockedCount sound, dashboardMetrics, List.toFinset_card_of_nodup sound.distinct,
      List.length_map]
  roots := (length_blockingChains sound.rooted).symm
  longest := by
    rw [maxWait_blockingChains, funext waitOrZero_eq]
    rfl
  oneChain := fun row member => chains_of_row sound member
  onlyRows := fun chain member node inside => (mem_nodes_iff member node).mp inside
  storedCount := fun chain member row stored same => stored_blockedCount sound member stored same
  blockedSessions := fun chain member => nodes_card sound member

theorem dashboard_agrees_with_blocking_page (frame : FrameKey) (rows : List SessionRequestRow)
    (waitRows : List WaitRow) (sessions : List SessionSnapshot) (requests : List RequestSnapshot) :
    ∃ snapshots, buildBlockingSnapshots frame rows waitRows = some snapshots ∧
      ∀ dashboardRows pageRows : List BlockingSnapshot, dashboardRows.Perm snapshots →
        pageRows.Perm snapshots →
        PagesAgree snapshots (dashboardMetrics sessions requests dashboardRows)
          (blockingChains pageRows) := by
  obtain ⟨edges, -, table, built⟩ := buildBlockingSnapshots_returns frame rows waitRows
  refine ⟨_, built, ?_⟩
  intro dashboardRows pageRows dashboardOrder pageOrder
  have agree :=
    pagesAgree_of_sound ((soundRows_of_table table frame).perm pageOrder) sessions requests
  rw [dashboardMetrics_perm (dashboardOrder.trans pageOrder.symm)]
  -- Rows are only looked up, so their order on the page does not matter.
  exact ⟨agree.blocked, agree.roots, agree.longest,
    fun row member => agree.oneChain row (pageOrder.mem_iff.mpr member),
    fun chain member node inside => by
      obtain ⟨row, stored, same⟩ := agree.onlyRows chain member node inside
      exact ⟨row, pageOrder.mem_iff.mp stored, same⟩,
    fun chain member row stored same =>
      agree.storedCount chain member row (pageOrder.mem_iff.mpr stored) same,
    agree.blockedSessions⟩

section Components

/-- The nodes of the page are on one chain exactly when their chains of blockers end together. -/
def OneChainPerEnd (rows : List BlockingInput) (chains : List BlockingChain) : Prop :=
  ∀ chain ∈ chains, ∀ other ∈ chains, ∀ node ∈ chain.nodes, ∀ node' ∈ other.nodes,
    chain = other ↔ ParentGraph.SameEnd (blockerOf rows) node.blockedSessionId node'.blockedSessionId

theorem oneChainPerEnd_of_roots {rows : List BlockingInput} {edges : List BlockingEdge}
    (origins : EdgeOrigins rows edges) (oneRoot : OneRootPerEnd rows edges) (frame : FrameKey)
    {stored : List BlockingSnapshot} (order : stored.Perm (blockingSnapshotsOf frame edges)) :
    OneChainPerEnd rows (blockingChains stored) := by
  have edge_of_node {chain : BlockingChain} (listed : chain ∈ blockingChains stored)
      {node : BlockingNode}
      (inside : node ∈ chain.nodes) :
      ∃ edge ∈ edges, edge.blockedSessionId = node.blockedSessionId ∧
        chain.rootSessionId = some edge.rootSessionId := by
    obtain ⟨row, member, root, rfl⟩ := (mem_nodes_iff listed node).mp inside
    obtain ⟨edge, kept, rfl⟩ := List.mem_map.mp (order.mem_iff.mp member)
    exact ⟨edge, kept, rfl, root.symm⟩
  intro chain listed other listed' node inside node' inside'
  obtain ⟨edge, kept, session, root⟩ := edge_of_node listed inside
  obtain ⟨twin, kept', session', root'⟩ := edge_of_node listed' inside'
  rw [← session, ← session']
  constructor
  · intro same
    rw [same, root', Option.some.injEq] at root
    exact origins.sameEnd_of_root_eq kept kept' root.symm
  · intro same
    apply eq_of_root_eq listed listed'
    rw [root, root', oneRoot edge kept twin kept' same]

def RootsNameComponents (rows : List BlockingInput) (edges : List BlockingEdge) : Prop :=
  OneRootPerEnd rows edges ∧ OrderFree rows edges ∧
    ∀ frame (stored : List BlockingSnapshot), stored.Perm (blockingSnapshotsOf frame edges) →
      OneChainPerEnd rows (blockingChains stored)

theorem roots_name_components_iff (rows : List BlockingInput)
    (positive : ∀ row ∈ rows, 0 < row.sessionId) :
    (∃ edges, buildBlockingEdges rows = some edges ∧
      RootsNameComponents rows edges) ↔ StableRoots rows := by
  obtain ⟨edges, built, table, origins⟩ := buildBlockingEdges_returns rows
  rw [← roots_stable_iff positive table (origins positive), built]
  simp only [Option.some.injEq, exists_eq_left', RootsNameComponents]
  constructor
  · intro components
    exact ⟨components.1, components.2.1⟩
  · intro stable
    exact ⟨stable.1, stable.2, fun frame stored order =>
      oneChainPerEnd_of_roots (origins positive) stable.1 frame order⟩

def selfBlockedRows : List BlockingInput :=
  [{ sessionId := 61, blockerSessionId := some 80 },
    { sessionId := 80, blockerSessionId := some 80 },
    { sessionId := 62, blockerSessionId := some 80 }]

theorem blocker_selfBlockedRows {session blocker : Int}
    (up : blockerOf selfBlockedRows session = some blocker) : blocker = 80 := by
  obtain ⟨row, found, kept⟩ := Option.bind_eq_some_iff.mp up
  have blocked : ∀ row ∈ selfBlockedRows, row.blockerSessionId = some 80 := by decide
  rw [blocked row (sessionId_of_lastRow found).1] at kept
  exact (Option.some.inj (Option.filter_eq_some_iff.mp kept).1).symm

theorem ancestor_selfBlockedRows {steps : Nat} {session above : Int}
    (climbed : ParentGraph.ancestor (blockerOf selfBlockedRows) (steps + 1) session = some above) :
    above = 80 := by
  induction steps generalizing session with
  | zero =>
      obtain ⟨blocker, up, same⟩ := Option.bind_eq_some_iff.mp climbed
      obtain rfl := Option.some.inj same
      exact blocker_selfBlockedRows up
  | succ steps ih =>
      obtain ⟨blocker, -, later⟩ := Option.bind_eq_some_iff.mp climbed
      exact ih later

theorem stableRoots_selfBlockedRows : StableRoots selfBlockedRows := by
  have only {session : Int} (cyclic : ParentGraph.OnCycle (blockerOf selfBlockedRows) session) :
      session = 80 := by
    obtain ⟨steps, round⟩ := cyclic
    exact ancestor_selfBlockedRows round
  constructor
  · intro session start cyclic _ tail _ _ entry other first second
    rw [only first.onCycle, only second.onCycle]
  · intro _ session cyclic
    rw [only cyclic]
    decide

theorem roots_name_components_iff_selfBlockedRows :
    ∃ edges, buildBlockingEdges selfBlockedRows = some edges ∧
      RootsNameComponents selfBlockedRows edges :=
  (roots_name_components_iff selfBlockedRows (by decide)).mpr stableRoots_selfBlockedRows

theorem tangledRows_split_component :
    (∀ row ∈ tangledRows, 0 < row.sessionId) ∧
      ¬ ∃ edges, buildBlockingEdges tangledRows = some edges ∧
        RootsNameComponents tangledRows edges := by
  refine ⟨by decide, ?_⟩
  intro found
  obtain ⟨edges, built, oneRoot, -⟩ := found
  have first : (⟨71, 71, 61, 3, none, none, none, false⟩ : BlockingEdge) ∈ edges := by
    have kept : ∀ edges ∈ buildBlockingEdges tangledRows,
        (⟨71, 71, 61, 3, none, none, none, false⟩ : BlockingEdge) ∈ edges := by decide
    exact kept edges built
  have second : (⟨72, 72, 62, 3, none, none, none, false⟩ : BlockingEdge) ∈ edges := by
    have kept : ∀ edges ∈ buildBlockingEdges tangledRows,
        (⟨72, 72, 62, 3, none, none, none, false⟩ : BlockingEdge) ∈ edges := by decide
    exact kept edges built
  have cyclic : ParentGraph.OnCycle (blockerOf tangledRows) 71 := ⟨1, by decide⟩
  have together : ParentGraph.SameEnd (blockerOf tangledRows) 61 62 :=
    ⟨71, ⟨⟨1, by decide⟩, Or.inr cyclic⟩, ⟨⟨2, by decide⟩, Or.inr cyclic⟩⟩
  have same := oneRoot _ first _ second together
  simp at same

end Components

end SqlMonitor.Services
