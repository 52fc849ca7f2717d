import SqlMonitor.Collector.Snapshots

set_option autoImplicit false

namespace SqlMonitor.Collector

open Dmv BlockingGraph

def lastSessionRow (rows : List SessionRequestRow) (session : Int) : Option SessionRequestRow :=
  (rows.filter (fun row => row.sessionId = some session)).getLast?

def blockerOfLastRow (rows : List SessionRequestRow) (session : Int) : Option Int :=
  (lastSessionRow rows session).bind fun row => normalizeBlocker row.blockingSessionId

theorem lastRow_blockingInputs (rows : List SessionRequestRow) (waitRows : List WaitRow)
    (session : Int) :
    (lastRow (blockingInputs rows waitRows) session).map BlockingInput.blockerSessionId =
      (lastSessionRow rows session).map fun row => normalizeBlocker row.blockingSessionId := by
  unfold lastRow lastSessionRow
  rw [← List.getLast?_map, ← List.getLast?_map]
  congr 1
  induction rows with
  | nil => rfl
  | cons row rest ih =>
      cases id : row.sessionId with
      | none => simpa [blockingInputs, id] using ih
      | some other =>
          by_cases same : other = session <;> simpa [blockingInputs, id, same] using ih

theorem blockerOf_blockingInputs (rows : List SessionRequestRow) (waitRows : List WaitRow) :
    blockerOf (blockingInputs rows waitRows) = blockerOfLastRow rows := by
  funext session
  have rowsAgree :=
    congrArg (fun blockers => blockers.bind fun blocker : Option Int => blocker.filter (· ≠ 0))
    (lastRow_blockingInputs rows waitRows session)
  simp only [Option.bind_map, Function.comp_def] at rowsAgree
  rw [blockerOf, rowsAgree, blockerOfLastRow]
  -- The collector has already dropped the zeros that the graph drops.
  simp [normalizeBlocker_eq_filter, Option.filter_filter]

theorem exists_blockingSnapshot_iff {inputs : List BlockingInput} {edges : List BlockingEdge}
    (table : EdgeTable inputs edges) (frame : FrameKey) (blocker session : Int) :
    (∃ snapshot ∈ blockingSnapshotsOf frame edges, snapshot.blockingSessionId = some blocker ∧
      snapshot.blockedSessionId = session) ↔ blockerOf inputs session = some blocker := by
  constructor
  · intro found
    obtain ⟨snapshot, member, above, below⟩ := found
    obtain ⟨edge, kept, rfl⟩ := List.mem_map.mp member
    cases above
    cases below
    exact table.linked edge kept
  · intro up
    obtain ⟨edge, kept, rfl⟩ := List.mem_map.mp ((table.blocked_iff session).mpr ⟨blocker, up⟩)
    have linked := table.linked edge kept
    rw [up, Option.some.injEq] at linked
    exact ⟨_, List.mem_map_of_mem kept, by simp [blockingSnapshot, linked], rfl⟩

theorem exists_requestSnapshot_iff {server : Server} {rows : List SessionRequestRow}
    (returned : server.Returns rows) (texts : SqlTextFunctions) (frame : FrameKey)
    (blocker session : Int) :
    (∃ request ∈ (buildSessionAndRequestSnapshots texts frame rows).2.1,
      request.blockingSessionId = some blocker ∧ request.sessionId = some session) ↔
      ∃ row ∈ rows, row.sessionId = some session ∧
        normalizeBlocker row.blockingSessionId = some blocker := by
  rw [requests_eq]
  constructor
  · intro found
    obtain ⟨request, member, blocked, id⟩ := found
    obtain ⟨row, kept, rfl⟩ := List.mem_map.mp member
    exact ⟨row, (List.mem_filter.mp kept).1, id, blocked⟩
  · intro found
    obtain ⟨row, member, id, blocked⟩ := found
    have column : row.blockingSessionId = some blocker := by
      rw [normalizeBlocker_eq_filter] at blocked
      exact (Option.filter_eq_some_iff.mp blocked).1
    obtain ⟨requestId, request⟩ := returned.requestId_of_blocked member column
    have kept : row ∈ rows.filter (·.requestId.isSome) :=
      List.mem_filter.mpr ⟨member, by simp [request]⟩
    exact ⟨_, List.mem_map_of_mem kept, blocked, id⟩

def SamePairs (requests : List RequestSnapshot) (snapshots : List BlockingSnapshot) : Prop :=
  ∀ blocker session,
    (∃ request ∈ requests, request.blockingSessionId = some blocker ∧
      request.sessionId = some session) ↔
      ∃ snapshot ∈ snapshots, snapshot.blockingSessionId = some blocker ∧
        snapshot.blockedSessionId = session

/-- Every row with a blocker has the blocker of the last row of its session. -/
def LastRowsRepresent (rows : List SessionRequestRow) : Prop :=
  ∀ row ∈ rows, ∀ session, row.sessionId = some session →
    ∀ blocker, normalizeBlocker row.blockingSessionId = some blocker →
      blockerOfLastRow rows session = some blocker

theorem exists_row_of_blockerOfLastRow {rows : List SessionRequestRow} {session blocker : Int}
    (up : blockerOfLastRow rows session = some blocker) :
    ∃ row ∈ rows, row.sessionId = some session ∧
      normalizeBlocker row.blockingSessionId = some blocker := by
  obtain ⟨row, last, blocked⟩ := Option.bind_eq_some_iff.mp up
  have kept := List.mem_filter.mp (List.mem_of_getLast? last)
  exact ⟨row, kept.1, by simpa using kept.2, blocked⟩

theorem blockedRequests_reach_iff (server : Server) (texts : SqlTextFunctions) (frame : FrameKey)
    (rows : List SessionRequestRow) (waitRows : List WaitRow) (returned : server.Returns rows) :
    (∃ snapshots, buildBlockingSnapshots frame rows waitRows = some snapshots ∧
      SamePairs (buildSessionAndRequestSnapshots texts frame rows).2.1 snapshots) ↔
        LastRowsRepresent rows := by
  obtain ⟨edges, -, table, built⟩ := buildBlockingSnapshots_returns frame rows waitRows
  have asRows : SamePairs (buildSessionAndRequestSnapshots texts frame rows).2.1
      (blockingSnapshotsOf frame edges) ↔ ∀ blocker session,
        (∃ row ∈ rows, row.sessionId = some session ∧
          normalizeBlocker row.blockingSessionId = some blocker) ↔
          blockerOfLastRow rows session = some blocker := by
    simp only [SamePairs, exists_requestSnapshot_iff returned, exists_blockingSnapshot_iff table,
      blockerOf_blockingInputs]
  rw [built]
  simp only [Option.some.injEq, exists_eq_left', asRows]
  constructor
  · intro same row member session id blocker blocked
    exact (same blocker session).mp ⟨row, member, id, blocked⟩
  · intro represent blocker session
    constructor
    · intro found
      obtain ⟨row, member, id, blocked⟩ := found
      exact represent row member session id blocker blocked
    · exact exists_row_of_blockerOfLastRow

-- Session 51 runs two requests; the first is blocked by session 60.
def marsServer : Server where
  sessions := [{ sessionId := 60 }, { sessionId := 51 }]
  requests := [{ sessionId := 51, requestId := 0, blockingSessionId := some 60, waitTime := 900 },
    { sessionId := 51, requestId := 1, blockingSessionId := some 0 }]
  databaseName := fun _ => none
  sqlText := fun _ => none
  distinctSessions := by decide
  distinctRequests := by decide

def plainTexts : SqlTextFunctions := ⟨id, id, fun text _ => text⟩

def blockedServer : Server where
  sessions := [{ sessionId := 60 }, { sessionId := 51 }, { sessionId := 52 }]
  requests := [{ sessionId := 51, requestId := 0, blockingSessionId := some 60, waitTime := 900 },
    { sessionId := 52, requestId := 0, blockingSessionId := some 0 }]
  databaseName := fun _ => none
  sqlText := fun _ => none
  distinctSessions := by decide
  distinctRequests := by decide

theorem blockedRequests_reach_iff_blockedServer :
    ∃ snapshots,
      buildBlockingSnapshots ⟨1, 1, 0⟩ blockedServer.sessionRequestQuery [] = some snapshots ∧
      SamePairs
        (buildSessionAndRequestSnapshots plainTexts ⟨1, 1, 0⟩ blockedServer.sessionRequestQuery).2.1
        snapshots := by
  refine (blockedRequests_reach_iff blockedServer plainTexts ⟨1, 1, 0⟩ _ []
    (List.Perm.refl _)).mpr ?_
  have last : ∀ row ∈ blockedServer.sessionRequestQuery, ∀ session ∈ row.sessionId,
      ∀ blocker ∈ normalizeBlocker row.blockingSessionId,
        blockerOfLastRow blockedServer.sessionRequestQuery session = some blocker := by decide
  exact last

theorem blockedRequest_lost :
    marsServer.Returns marsServer.sessionRequestQuery ∧
      ¬ ∃ snapshots,
        buildBlockingSnapshots ⟨1, 1, 0⟩ marsServer.sessionRequestQuery [] = some snapshots ∧
        SamePairs
          (buildSessionAndRequestSnapshots plainTexts ⟨1, 1, 0⟩ marsServer.sessionRequestQuery).2.1
          snapshots := by
  refine ⟨List.Perm.refl _, ?_⟩
  intro found
  obtain ⟨snapshots, built, same⟩ := found
  have none_built :
      buildBlockingSnapshots ⟨1, 1, 0⟩ marsServer.sessionRequestQuery [] = some [] := by decide
  obtain rfl := Option.some.inj (none_built.symm.trans built)
  have requested : ∃ request ∈
      (buildSessionAndRequestSnapshots plainTexts ⟨1, 1, 0⟩ marsServer.sessionRequestQuery).2.1,
      request.blockingSessionId = some 60 ∧ request.sessionId = some 51 := by decide
  obtain ⟨snapshot, member, -⟩ := (same 60 51).mp requested
  simp at member

end SqlMonitor.Collector
