import SqlMonitor.Collector.BlockingImpact
import SqlMonitor.Services.BlockingPages
import SqlMonitor.Services.Kill

set_option autoImplicit false

namespace SqlMonitor.Services

open SnapshotRepository Dmv Collector BlockingGraph

section Impact

/-- The blocking rows of the newest frame are those that the collector made of `rows`. -/
structure NewestBlocking (tables : SnapshotTables) (instanceId : Uuid) (ref : SnapshotFrame)
    (rows : List SessionRequestRow) (waitRows : List WaitRow) : Prop where
  newest : getLatestFrame tables instanceId = some ref
  stored : ∃ snapshots, buildBlockingSnapshots ref.frame rows waitRows = some snapshots ∧
    (tables.blocking.filter (·.frame = ref.frame)).Perm snapshots
  -- The server numbers sessions from one.
  positive : ∀ row ∈ rows, ∀ session ∈ row.sessionId, 0 < session

def ImpactShown (tables : SnapshotTables) (instanceId : Uuid) (inputs : List BlockingInput)
    (session : Int) : Prop :=
  ∃ target, buildKillTarget tables instanceId session = some target ∧
    target.blockingImpactCount = (Behind (blockerOf inputs) session).ncard ∧
    ∀ page, getBlockingChains tables instanceId none = some page →
      ∀ chain ∈ page.chains, chain.rootSessionId = some session →
        chain.blockedCount = target.blockingImpactCount

variable {tables : SnapshotTables} {instanceId : Uuid} {ref : SnapshotFrame}
  {rows : List SessionRequestRow} {waitRows : List WaitRow} {edges : List BlockingEdge}
  {stored : List BlockingSnapshot} {frame : FrameKey} {session : Int}

theorem blockingInputs_positive
    (positive : ∀ row ∈ rows, ∀ session ∈ row.sessionId, 0 < session) :
    ∀ input ∈ blockingInputs rows waitRows, 0 < input.sessionId := by
  intro input member
  obtain ⟨row, inside, made⟩ := List.mem_filterMap.mp member
  obtain ⟨session, named, rfl⟩ := Option.map_eq_some_iff.mp made
  exact positive row inside session named

theorem length_filter_stored (order : stored.Perm (blockingSnapshotsOf frame edges))
    (p : BlockingSnapshot → Bool) :
    (stored.filter p).length = edges.countP fun edge => p (blockingSnapshot frame edges edge) := by
  rw [(order.filter _).length_eq, blockingSnapshotsOf, List.filter_map, List.length_map,
    List.countP_eq_length_filter]
  rfl

theorem length_blockedDirectly (order : stored.Perm (blockingSnapshotsOf frame edges)) :
    (stored.filter (·.blockingSessionId = some session)).length = directCount edges session := by
  rw [length_filter_stored order, directCount]
  simp [blockingSnapshot]

theorem length_rowsOfRoot (order : stored.Perm (blockingSnapshotsOf frame edges)) :
    (rowsOfRoot stored (some session)).length = rootCount edges session := by
  rw [rowsOfRoot, length_filter_stored order, rootCount]
  simp [blockingSnapshot]

theorem root_mem_iff (order : stored.Perm (blockingSnapshotsOf frame edges)) :
    some session ∈ stored.map BlockingSnapshot.rootSessionId ↔ (Rooted edges session).Nonempty := by
  rw [(order.map _).mem_iff, blockingSnapshotsOf, List.map_map, List.mem_map]
  constructor
  · rintro ⟨edge, kept, root⟩
    exact ⟨edge.blockedSessionId, edge, kept, rfl, Option.some.inj root⟩
  · rintro ⟨blocked, edge, kept, -, root⟩
    exact ⟨edge, kept, congrArg some root⟩

theorem chains_of_root {inputs : List BlockingInput} (table : EdgeTable inputs edges)
    (order : stored.Perm (blockingSnapshotsOf frame edges)) (count : Nat) :
    (∀ chain ∈ blockingChains stored, chain.rootSessionId = some session →
        chain.blockedCount = count) ↔
      ((Rooted edges session).Nonempty → rootCount edges session = count) := by
  have sound := (soundRows_of_table table frame).perm order
  have blocked : (blockingChain (some session) (rowsOfRoot stored (some session))).blockedCount =
      rootCount edges session :=
    (chainBlockedCount_eq sound (some session)).trans (length_rowsOfRoot order)
  constructor
  · intro shown rooted
    rw [← blocked]
    exact shown _ ((mem_blockingChains_iff stored _).mpr
      ⟨some session, (root_mem_iff order).mpr rooted, rfl⟩) rfl
  · intro counted chain member root
    obtain ⟨id, present, rfl⟩ := (mem_blockingChains_iff stored chain).mp member
    obtain rfl : id = some session := root
    exact blocked.trans (counted ((root_mem_iff order).mp present))

theorem impactShown_iff_counted {inputs : List BlockingInput} (table : EdgeTable inputs edges)
    (newest : getLatestFrame tables instanceId = some ref)
    (order : (tables.blocking.filter (·.frame = ref.frame)).Perm
      (blockingSnapshotsOf ref.frame edges))
    (present : (getSession tables ref.frame session).isSome) :
    ImpactShown tables instanceId inputs session ↔ ImpactCounted inputs edges session := by
  obtain ⟨row, found⟩ := Option.isSome_iff_exists.mp present
  have listed : (listBlockingRows tables ref.frame).Perm (blockingSnapshotsOf ref.frame edges) :=
    (sortAscending_perm _ _).trans order
  obtain ⟨target, built, impact⟩ : ∃ target, buildKillTarget tables instanceId session =
      some target ∧ target.blockingImpactCount = directCount edges session :=
    ⟨_, by simp [buildKillTarget, Sessions.getSessionDetail, newest, found]; rfl,
      length_blockedDirectly listed⟩
  have page : getBlockingChains tables instanceId none =
      some (blockingOf tables instanceId ref) := by
    rw [getBlockingChains, newest]
    rfl
  have chains : (∀ chain ∈ blockingChains (listBlockingRows tables ref.frame),
      chain.rootSessionId = some session → chain.blockedCount = directCount edges session) ↔ _ :=
    chains_of_root table listed _
  rw [ImpactShown, ImpactCounted, built, page, ← chains]
  simp only [Option.some.injEq, exists_eq_left', forall_eq', impact]
  rfl

theorem killImpact_shown_iff (newest : NewestBlocking tables instanceId ref rows waitRows)
    (present : (getSession tables ref.frame session).isSome) :
    ImpactShown tables instanceId (blockingInputs rows waitRows) session ↔
      FlatBehind (blockingInputs rows waitRows) session := by
  obtain ⟨edges, built, table, origins⟩ := buildBlockingEdges_returns (blockingInputs rows waitRows)
  obtain ⟨snapshots, made, order⟩ := newest.stored
  rw [buildBlockingSnapshots, built] at made
  obtain rfl := Option.some.inj made
  rw [impactShown_iff_counted table newest.newest order present]
  exact impactCounted_iff table (origins (blockingInputs_positive newest.positive)) session

end Impact

section Frames

def framedRows (rows : List SessionRequestRow) : SnapshotTables :=
  let frame := SnapshotTables.emptyFrame 1 7 0
  { SnapshotTables.empty with
    frames := [frame]
    sessions := rows.map (sessionSnapshot ⟨id, id, fun text _ => text⟩ frame.frame)
    blocking := (buildBlockingSnapshots frame.frame rows []).getD [] }

theorem newestBlocking_framedRows (rows : List SessionRequestRow)
    (positive : ∀ row ∈ rows, ∀ session ∈ row.sessionId, 0 < session) :
    NewestBlocking (framedRows rows) 7 (SnapshotTables.emptyFrame 1 7 0) rows [] where
  newest := rfl
  stored := by
    obtain ⟨edges, built, -, made⟩ :=
      buildBlockingSnapshots_returns (SnapshotTables.emptyFrame 1 7 0).frame rows []
    refine ⟨_, made, ?_⟩
    have all : (framedRows rows).blocking.filter
        (·.frame = (SnapshotTables.emptyFrame 1 7 0).frame) = (framedRows rows).blocking := by
      rw [List.filter_eq_self]
      intro row member
      simp only [framedRows, made, Option.getD_some] at member
      obtain ⟨edge, -, rfl⟩ := List.mem_map.mp member
      exact decide_eq_true rfl
    rw [all, framedRows, made]
    exact List.Perm.refl _
  positive := positive

def flatRows : List SessionRequestRow :=
  [{ sessionId := some 51, blockingSessionId := some 53 },
    { sessionId := some 52, blockingSessionId := some 53 }, { sessionId := some 53 }]

theorem flatBehind_flatRows : FlatBehind (blockingInputs flatRows []) 53 where
  notSelf := by decide
  direct := by
    intro blocked behind
    obtain ⟨blocker, up⟩ := behind.2.has_parent behind.1
    obtain ⟨row, found, -⟩ := Option.bind_eq_some_iff.mp up
    obtain ⟨member, rfl⟩ := sessionId_of_lastRow found
    have others : ∀ row ∈ blockingInputs flatRows [], row.sessionId ≠ 53 →
        blockerOf (blockingInputs flatRows []) row.sessionId = some 53 := by decide
    exact others row member behind.1
  cycle := by
    intro cyclic
    obtain ⟨blocker, up⟩ := cyclic.has_parent
    have stopped : blockerOf (blockingInputs flatRows []) 53 = none := by decide
    exact absurd (stopped.symm.trans up) (by simp)

theorem killImpact_shown_iff_flatRows :
    ImpactShown (framedRows flatRows) 7 (blockingInputs flatRows []) 53 :=
  (killImpact_shown_iff (newestBlocking_framedRows flatRows (by decide)) (by decide)).mpr
    flatBehind_flatRows

def steppedRows : List SessionRequestRow :=
  [{ sessionId := some 51, blockingSessionId := some 52 },
    { sessionId := some 52, blockingSessionId := some 53 }, { sessionId := some 53 }]

theorem steppedRows_impact :
    NewestBlocking (framedRows steppedRows) 7 (SnapshotTables.emptyFrame 1 7 0) steppedRows [] ∧
      (getSession (framedRows steppedRows) (SnapshotTables.emptyFrame 1 7 0).frame 53).isSome ∧
      ¬ ImpactShown (framedRows steppedRows) 7 (blockingInputs steppedRows []) 53 := by
  refine ⟨newestBlocking_framedRows steppedRows (by decide), by decide, ?_⟩
  rintro ⟨target, built, impact, -⟩
  have counted : (buildKillTarget (framedRows steppedRows) 7 53).map (·.blockingImpactCount) =
      some 1 := by decide
  rw [built, Option.map_some, Option.some.injEq, impact] at counted
  obtain ⟨only, behind⟩ := Set.ncard_eq_one.mp counted
  have first : (51 : Int) ∈ Behind (blockerOf (blockingInputs steppedRows [])) 53 :=
    ⟨by decide, 2, by decide⟩
  have second : (52 : Int) ∈ Behind (blockerOf (blockingInputs steppedRows [])) 53 :=
    ⟨by decide, 1, by decide⟩
  rw [behind, Set.mem_singleton_iff] at first second
  omega

end Frames

end SqlMonitor.Services
