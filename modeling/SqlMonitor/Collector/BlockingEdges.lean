import SqlMonitor.Collector.BlockingWalk

set_option autoImplicit false

namespace SqlMonitor.BlockingGraph

open ParentGraph

section Emission

variable {rows : InsertionDict Int BlockingInput}

def ChainStep.key (step : ChainStep) : Int × Int := (step.blockerId, step.blockedId)

def BlockingEdge.key (edge : BlockingEdge) : Int × Int :=
  (edge.blockerSessionId, edge.blockedSessionId)

theorem foldl_emitStep (row : BlockingInput) (root : Int) (chain : List ChainStep)
    (state : EdgeState)
    (distinct : (chain.map ChainStep.blockedId).Nodup) :
    chain.foldl (emitStep rows row root) state =
      { edges := state.edges ++
          (chain.filter (fun step => step.key ∉ state.seenEdges)).map (blockingEdge rows row root)
        seenEdges := state.seenEdges ∪ (chain.map ChainStep.key).toFinset } := by
  induction chain generalizing state with
  | nil => simp
  | cons step rest ih =>
      obtain ⟨fresh, tail⟩ := List.nodup_cons.mp distinct
      rw [List.foldl_cons, ih _ tail]
      by_cases seen : step.key ∈ state.seenEdges
      · have skipped : emitStep rows row root state step = state := if_pos seen
        simp [skipped, seen]
      · have kept : emitStep rows row root state step =
            ⟨state.edges ++ [blockingEdge rows row root step], insert step.key state.seenEdges⟩ :=
          if_neg seen
        have later : rest.filter (fun other => other.key ∉ insert step.key state.seenEdges) =
            rest.filter (fun other => other.key ∉ state.seenEdges) := by
          apply List.filter_congr
          intro other member
          have apart : other.key ≠ step.key := by
            intro same
            have place : other.blockedId = step.blockedId := congrArg Prod.snd same
            exact fresh (place ▸ List.mem_map_of_mem member)
          simp [apart]
        rw [kept]
        simp only [later]
        simp [seen]

structure EdgesInv (rows : InsertionDict Int BlockingInput) (handled : List BlockingInput)
    (state : EdgeState) : Prop where
  seen : ∀ key, key ∈ state.seenEdges ↔ key ∈ state.edges.map BlockingEdge.key
  linked : ∀ edge ∈ state.edges, parentOf rows edge.blockedSessionId = some edge.blockerSessionId
  own : ∀ edge ∈ state.edges, ∃ source, rows.get? edge.blockedSessionId = some source ∧
    edge.waitType = source.waitType ∧ edge.waitDurationMs = source.waitDurationMs ∧
    edge.resourceDescription = source.resourceDescription
  distinct : (state.edges.map BlockingEdge.blockedSessionId).Nodup
  covered : ∀ row ∈ handled, ∀ blocker, parentOf rows row.sessionId = some blocker →
    row.sessionId ∈ state.edges.map BlockingEdge.blockedSessionId

theorem EdgesInv.mem_seen_iff {handled : List BlockingInput} {state : EdgeState}
    (inv : EdgesInv rows handled state) {step : ChainStep}
    (linked : parentOf rows step.blockedId = some step.blockerId) :
    step.key ∈ state.seenEdges ↔ step.blockedId ∈ state.edges.map BlockingEdge.blockedSessionId := by
  rw [inv.seen]
  constructor
  · intro member
    obtain ⟨edge, kept, same⟩ := List.mem_map.mp member
    exact List.mem_map.mpr ⟨edge, kept, congrArg Prod.snd same⟩
  · intro member
    obtain ⟨edge, kept, same⟩ := List.mem_map.mp member
    have blocker := inv.linked edge kept
    rw [same, linked, Option.some.injEq] at blocker
    exact List.mem_map.mpr ⟨edge, kept, Prod.ext blocker.symm same⟩

def newSteps (state : EdgeState) (chain : List ChainStep) : List ChainStep :=
  chain.filter (fun step => step.key ∉ state.seenEdges)

theorem EdgesInv.mem_newSteps {handled : List BlockingInput} {state : EdgeState}
    (inv : EdgesInv rows handled state) {session : Int} {chain : List ChainStep}
    (sound : SoundChain rows session chain) {step : ChainStep} :
    step ∈ newSteps state chain ↔
      step ∈ chain ∧ step.blockedId ∉ state.edges.map BlockingEdge.blockedSessionId := by
  simp only [newSteps, List.mem_filter, decide_eq_true_eq]
  refine and_congr_right (fun member => ?_)
  rw [inv.mem_seen_iff (sound.linked step member)]

theorem EdgesInv.mem_blocked_emit {handled : List BlockingInput} {state : EdgeState}
    (inv : EdgesInv rows handled state) (row : BlockingInput) (root : Int) {start : Int}
    {chain : List ChainStep} (sound : SoundChain rows start chain) {session : Int} :
    session ∈ (state.edges ++ (newSteps state chain).map (blockingEdge rows row root)).map
        BlockingEdge.blockedSessionId ↔
      session ∈ state.edges.map BlockingEdge.blockedSessionId ∨
        session ∈ chain.map ChainStep.blockedId := by
  rw [List.map_append, List.mem_append, List.map_map]
  by_cases known : session ∈ state.edges.map BlockingEdge.blockedSessionId
  · exact iff_of_true (Or.inl known) (Or.inl known)
  · refine or_congr_right ?_
    constructor
    · intro member
      obtain ⟨step, fresh, same⟩ := List.mem_map.mp member
      exact List.mem_map.mpr ⟨step, ((inv.mem_newSteps sound).mp fresh).1, same⟩
    · intro member
      obtain ⟨step, inChain, same⟩ := List.mem_map.mp member
      have fresh := (inv.mem_newSteps sound).mpr ⟨inChain, same ▸ known⟩
      exact List.mem_map.mpr ⟨step, fresh, same⟩

theorem EdgesInv.emit {handled : List BlockingInput} {state : EdgeState}
    (inv : EdgesInv rows handled state) (row : BlockingInput) (root : Int) {chain : List ChainStep}
    (sound : SoundChain rows row.sessionId chain) :
    EdgesInv rows (handled ++ [row])
      ⟨state.edges ++ (newSteps state chain).map (blockingEdge rows row root),
        state.seenEdges ∪ (chain.map ChainStep.key).toFinset⟩ where
  seen := by
    intro key
    simp only [Finset.mem_union, List.mem_toFinset, inv.seen, List.map_append, List.mem_append,
      List.map_map]
    constructor
    · rintro (old | member)
      · exact Or.inl old
      · obtain ⟨step, inChain, same⟩ := List.mem_map.mp member
        by_cases known : key ∈ state.edges.map BlockingEdge.key
        · exact Or.inl known
        · refine Or.inr (List.mem_map.mpr ⟨step, ?_, same⟩)
          rw [newSteps, List.mem_filter, decide_eq_true_eq, inv.seen, same]
          exact ⟨inChain, known⟩
    · rintro (old | member)
      · exact Or.inl old
      · obtain ⟨step, fresh, same⟩ := List.mem_map.mp member
        exact Or.inr (List.mem_map.mpr ⟨step, (List.mem_filter.mp fresh).1, same⟩)
  linked := by
    intro edge member
    rcases List.mem_append.mp member with old | new
    · exact inv.linked edge old
    · obtain ⟨step, fresh, rfl⟩ := List.mem_map.mp new
      exact sound.linked step (List.mem_filter.mp fresh).1
  own := by
    intro edge member
    rcases List.mem_append.mp member with old | new
    · exact inv.own edge old
    · obtain ⟨step, fresh, rfl⟩ := List.mem_map.mp new
      obtain ⟨source, found, -⟩ :=
        parentOf_eq_some_iff.mp (sound.linked step (List.mem_filter.mp fresh).1)
      exact ⟨source, by simp [blockingEdge, found]⟩
  distinct := by
    rw [List.map_append, List.map_map, List.nodup_append]
    refine ⟨inv.distinct, sound.distinct.sublist (List.filter_sublist.map _), ?_⟩
    intro session old other new same
    obtain ⟨step, fresh, rfl⟩ := List.mem_map.mp new
    have place : session = step.blockedId := same
    exact ((inv.mem_newSteps sound).mp fresh).2 (place ▸ old)
  covered := by
    intro other member blocker up
    rw [inv.mem_blocked_emit row root sound]
    rcases List.mem_append.mp member with old | new
    · exact Or.inl (inv.covered other old blocker up)
    · rw [List.mem_singleton.mp new] at up ⊢
      exact Or.inr (sound.own blocker up)

/-- Where an edge comes from: the first handled session whose chain contains it. -/
structure EdgeOrigin (parent : Int → Option Int) (start : Int) (edge : BlockingEdge) : Prop where
  reached : Reaches parent start edge.blockedSessionId
  settled :
    (EndsAt parent edge.blockedSessionId edge.rootSessionId edge.chainDepth ∧
        edge.cycleDetected = false) ∨
      Entry parent start edge.rootSessionId ∧
        (edge.cycleDetected = true ↔
          OnCycle parent edge.blockedSessionId ∧
            parent edge.blockedSessionId = some edge.rootSessionId)

open Classical in
noncomputable def firstReaching (parent : Int → Option Int) (starts : List Int) (session : Int) :
    Option Int :=
  starts.find? (fun start => Reaches parent start session)

theorem firstReaching_append {parent : Int → Option Int} {starts : List Int} {session start : Int}
    (first : firstReaching parent starts session = some start) (more : List Int) :
    firstReaching parent (starts ++ more) session = some start := by
  unfold firstReaching at first ⊢
  rw [List.find?_append, first, Option.some_or]

theorem firstReaching_new {parent : Int → Option Int} {starts : List Int} {session start : Int}
    (none_before : ∀ other ∈ starts, ¬ Reaches parent other session)
    (here : Reaches parent start session) :
    firstReaching parent (starts ++ [start]) session = some start := by
  have nothing : firstReaching parent starts session = none := by
    unfold firstReaching
    rw [List.find?_eq_none]
    simpa using none_before
  unfold firstReaching at nothing ⊢
  rw [List.find?_append, nothing, Option.none_or]
  simp [here]

structure OriginInv (parent : Int → Option Int) (handled : List BlockingInput) (state : EdgeState) :
    Prop where
  complete : ∀ row ∈ handled, ∀ session blocker, Reaches parent row.sessionId session →
    parent session = some blocker → session ∈ state.edges.map BlockingEdge.blockedSessionId
  origin : ∀ edge ∈ state.edges, ∃ start,
    firstReaching parent (handled.map BlockingInput.sessionId) edge.blockedSessionId = some start ∧
      EdgeOrigin parent start edge
  ordered : Acyclic parent →
    state.edges.Pairwise (fun edge later => later.blockedSessionId ≠ edge.blockerSessionId)

theorem ChainSpec.edgeOrigin {start root : Int} {chain : List ChainStep}
    (spec : ChainSpec (parentOf rows) start root chain) (row : BlockingInput) {step : ChainStep}
    (member : step ∈ chain) : EdgeOrigin (parentOf rows) start (blockingEdge rows row root step) where
  reached := spec.reached step member
  settled := by
    rcases spec.settled with stops | ⟨entry, closing⟩
    · exact Or.inl (stops step member)
    · exact Or.inr ⟨entry, closing step member⟩

theorem OriginInv.emit {handled : List BlockingInput} {state : EdgeState}
    (inv : EdgesInv rows handled state) (origins : OriginInv (parentOf rows) handled state)
    (row : BlockingInput) {root : Int} {chain : List ChainStep}
    (sound : SoundChain rows row.sessionId chain)
    (spec : ChainSpec (parentOf rows) row.sessionId root chain) :
    OriginInv (parentOf rows) (handled ++ [row])
      ⟨state.edges ++ (newSteps state chain).map (blockingEdge rows row root),
        state.seenEdges ∪ (chain.map ChainStep.key).toFinset⟩ where
  complete := by
    intro other member session blocker chained up
    rw [inv.mem_blocked_emit row root sound]
    rcases List.mem_append.mp member with old | new
    · exact Or.inl (origins.complete other old session blocker chained up)
    · rw [List.mem_singleton.mp new] at chained
      exact Or.inr (spec.complete session blocker chained up)
  origin := by
    intro edge member
    rw [List.map_append]
    rcases List.mem_append.mp member with old | new
    · obtain ⟨start, first, origin⟩ := origins.origin edge old
      exact ⟨start, firstReaching_append first _, origin⟩
    · obtain ⟨step, fresh, rfl⟩ := List.mem_map.mp new
      obtain ⟨inChain, unknown⟩ := (inv.mem_newSteps sound).mp fresh
      refine ⟨row.sessionId, ?_, spec.edgeOrigin row inChain⟩
      -- No handled row reaches a session that has no edge yet.
      refine firstReaching_new ?_ (spec.reached step inChain)
      intro start listed reach
      obtain ⟨other, old, rfl⟩ := List.mem_map.mp listed
      exact unknown (origins.complete other old _ _ reach (sound.linked step inChain))
  ordered := by
    intro acyclic
    rw [List.pairwise_append]
    refine ⟨origins.ordered acyclic, ?_, ?_⟩
    · rw [List.pairwise_map]
      refine List.Pairwise.imp_of_mem ?_ (spec.rising.sublist List.filter_sublist)
      intro step later member _ below same
      have up := sound.linked step (List.mem_filter.mp member).1
      have above : later.blockedId = step.blockerId := same
      exact acyclic step.blockedId (onCycle_of_parent_reaches up (above ▸ below))
    · intro edge old later new same
      obtain ⟨step, fresh, rfl⟩ := List.mem_map.mp new
      obtain ⟨inChain, unknown⟩ := (inv.mem_newSteps sound).mp fresh
      obtain ⟨start, first, origin⟩ := origins.origin edge old
      obtain ⟨other, handledRow, rfl⟩ := List.mem_map.mp (List.mem_of_find?_eq_some first)
      have above : step.blockedId = edge.blockerSessionId := same
      have climb := origin.reached.trans (Reaches.of_parent (inv.linked edge old))
      exact unknown (origins.complete other handledRow _ _ (above ▸ climb) (sound.linked step inChain))

theorem emitRow_inv {handled : List BlockingInput} {state : EdgeState} {row : BlockingInput}
    (stored : rows.get? row.sessionId = some row) (inv : EdgesInv rows handled state)
    (origins : (∀ blocker ∈ specialBlockers, rows.get? blocker = none) →
      OriginInv (parentOf rows) handled state) :
    ∃ next, emitRow rows state row = some next ∧ EdgesInv rows (handled ++ [row]) next ∧
      ((∀ blocker ∈ specialBlockers, rows.get? blocker = none) →
        OriginInv (parentOf rows) (handled ++ [row]) next) := by
  have present : row.sessionId ∈ rows.keys := (rows.mem_keys_iff _).mpr ⟨row, stored⟩
  obtain ⟨root, chain, built, sound, spec⟩ := buildChain_returns present
  have folded : emitRow rows state row = some ((normalizeBlocker row.blockerSessionId).elim state fun _ =>
      chain.foldl (emitStep rows row root) state) := by
    cases up : normalizeBlocker row.blockerSessionId <;> simp [emitRow, up, built]
  cases up : normalizeBlocker row.blockerSessionId with
  | some blocker =>
      rw [up, Option.elim_some] at folded
      simp only [foldl_emitStep row root chain state sound.distinct] at folded
      exact ⟨_, folded, inv.emit row root sound, fun ordinary =>
        (origins ordinary).emit inv row sound (spec ordinary)⟩
  | none =>
      -- A session without a blocker has an empty chain, which adds no edge.
      rw [up, Option.elim_none] at folded
      have stopped : parentOf rows row.sessionId = none := by simp [parentOf, stored, up]
      refine ⟨state, folded, ⟨inv.seen, inv.linked, inv.own, inv.distinct, ?_⟩, fun ordinary =>
        ⟨?_, ?_, (origins ordinary).ordered⟩⟩
      · intro other member blocker above
        rcases List.mem_append.mp member with old | new
        · exact inv.covered other old blocker above
        · rw [List.mem_singleton.mp new, stopped] at above
          simp at above
      · intro other member session blocker chained above
        rcases List.mem_append.mp member with old | new
        · exact (origins ordinary).complete other old session blocker chained above
        · rw [List.mem_singleton.mp new] at chained
          rw [chained.eq_of_stopped stopped, stopped] at above
          simp at above
      · intro edge member
        obtain ⟨start, first, origin⟩ := (origins ordinary).origin edge member
        exact ⟨start, by rw [List.map_append]; exact firstReaching_append first _, origin⟩

theorem foldlM_emitRow {pending : List BlockingInput}
    (stored : ∀ row ∈ pending, rows.get? row.sessionId = some row) {handled : List BlockingInput}
    {state : EdgeState} (inv : EdgesInv rows handled state)
    (origins : (∀ blocker ∈ specialBlockers, rows.get? blocker = none) →
      OriginInv (parentOf rows) handled state) :
    ∃ final, pending.foldlM (emitRow rows) state = some final ∧
      EdgesInv rows (handled ++ pending) final ∧
      ((∀ blocker ∈ specialBlockers, rows.get? blocker = none) →
        OriginInv (parentOf rows) (handled ++ pending) final) := by
  induction pending generalizing handled state with
  | nil => exact ⟨state, rfl, by simpa using inv, by simpa using origins⟩
  | cons row rest ih =>
      obtain ⟨next, step, invNext, originsNext⟩ := emitRow_inv (stored row (by simp)) inv origins
      obtain ⟨final, run, invFinal, originsFinal⟩ :=
        ih (fun other member => stored other (List.mem_cons_of_mem _ member)) invNext originsNext
      rw [List.append_assoc, List.singleton_append] at invFinal originsFinal
      exact ⟨final, by simp [List.foldlM_cons, step, run], invFinal, originsFinal⟩

end Emission

theorem get?_of_mem_values {rows : List BlockingInput} {row : BlockingInput}
    (member : row ∈ (rowMap rows).values) : (rowMap rows).get? row.sessionId = some row := by
  obtain ⟨session, found⟩ := ((rowMap rows).mem_values_iff row).mp member
  rw [get?_rowMap] at found
  rw [(sessionId_of_lastRow found).2, get?_rowMap, found]

theorem sessionIds_values (rows : List BlockingInput) :
    (rowMap rows).values.map BlockingInput.sessionId = (rowMap rows).keys := by
  unfold InsertionDict.values InsertionDict.keys
  rw [List.map_map]
  apply List.map_congr_left
  intro entry member
  have found := ((rowMap rows).get?_eq_some_iff entry.1 entry.2).mpr member
  rw [get?_rowMap] at found
  exact (sessionId_of_lastRow found).2

structure EdgeTable (rows : List BlockingInput) (edges : List BlockingEdge) : Prop where
  distinct : (edges.map BlockingEdge.blockedSessionId).Nodup
  blocked_iff : ∀ session, session ∈ edges.map BlockingEdge.blockedSessionId ↔
    ∃ blocker, blockerOf rows session = some blocker
  linked : ∀ edge ∈ edges, blockerOf rows edge.blockedSessionId = some edge.blockerSessionId
  own : ∀ edge ∈ edges, ∃ row, lastRow rows edge.blockedSessionId = some row ∧
    edge.waitType = row.waitType ∧ edge.waitDurationMs = row.waitDurationMs ∧
    edge.resourceDescription = row.resourceDescription

structure EdgeOrigins (rows : List BlockingInput) (edges : List BlockingEdge) : Prop where
  origin : ∀ edge ∈ edges, ∃ start,
    firstReaching (blockerOf rows) (rows.map BlockingInput.sessionId) edge.blockedSessionId = some start ∧
      EdgeOrigin (blockerOf rows) start edge
  ordered : Acyclic (blockerOf rows) →
    edges.Pairwise (fun edge later => later.blockedSessionId ≠ edge.blockerSessionId)

theorem firstReaching_keys (parent : Int → Option Int) (rows : List BlockingInput) (session : Int) :
    firstReaching parent (rowMap rows).keys session =
      firstReaching parent (rows.map BlockingInput.sessionId) session := by
  unfold firstReaching
  rw [rowMap, InsertionDict.find?_keys_ofList, List.map_map]
  rfl

theorem buildBlockingEdges_returns (rows : List BlockingInput) :
    ∃ edges, buildBlockingEdges rows = some edges ∧ EdgeTable rows edges ∧
      ((∀ row ∈ rows, 0 < row.sessionId) → EdgeOrigins rows edges) := by
  have noEdges : EdgesInv (rowMap rows) [] ⟨[], ∅⟩ := ⟨by simp, by simp, by simp, by simp, by simp⟩
  have noOrigins : OriginInv (parentOf (rowMap rows)) [] ⟨[], ∅⟩ := ⟨by simp, by simp, by simp⟩
  obtain ⟨final, run, inv, origins⟩ :=
    foldlM_emitRow (fun row member => get?_of_mem_values member) noEdges (fun _ => noOrigins)
  have up := parentOf_rowMap rows
  refine ⟨final.edges, by simp [buildBlockingEdges, run], ⟨inv.distinct, ?_, ?_, ?_⟩, ?_⟩
  · intro session
    rw [← up]
    constructor
    · intro member
      obtain ⟨edge, kept, rfl⟩ := List.mem_map.mp member
      exact ⟨_, inv.linked edge kept⟩
    · rintro ⟨blocker, above⟩
      obtain ⟨row, found, -⟩ := parentOf_eq_some_iff.mp above
      have value : row ∈ (rowMap rows).values :=
        ((rowMap rows).mem_values_iff row).mpr ⟨session, found⟩
      rw [get?_rowMap] at found
      have same := (sessionId_of_lastRow found).2
      exact same ▸ inv.covered row value blocker (same.symm ▸ above)
  · rw [← up]
    exact inv.linked
  · intro edge kept
    obtain ⟨row, found, fields⟩ := inv.own edge kept
    rw [get?_rowMap] at found
    exact ⟨row, found, fields⟩
  · intro positive
    have ordinary : ∀ blocker ∈ specialBlockers, (rowMap rows).get? blocker = none := by
      intro blocker special
      rw [get?_rowMap, Option.eq_none_iff_forall_ne_some]
      intro row found
      obtain ⟨member, same⟩ := sessionId_of_lastRow found
      have above := positive row member
      simp only [specialBlockers, Finset.mem_insert, Finset.mem_singleton] at special
      omega
    obtain ⟨-, origin, ordered⟩ := origins ordinary
    rw [up] at origin ordered
    refine ⟨?_, ordered⟩
    intro edge kept
    obtain ⟨start, first, from_start⟩ := origin edge kept
    rw [List.nil_append, sessionIds_values, firstReaching_keys] at first
    exact ⟨start, first, from_start⟩

end SqlMonitor.BlockingGraph
