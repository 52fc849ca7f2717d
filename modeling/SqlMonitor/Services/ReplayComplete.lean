import Mathlib.Data.List.Flatten
import SqlMonitor.Services.Replay

set_option autoImplicit false

namespace SqlMonitor.Services

open SnapshotRepository SnapshotTables

section Cuts

variable {A B : Type}

theorem map_take_perm_iff {sorted rows : List A} (perm : sorted.Perm rows) (limit : Nat)
    (item : A → B) :
    ((sorted.take limit).map item).Perm (rows.map item) ↔ rows.length ≤ limit := by
  constructor
  · intro whole
    have lengths := whole.length_eq
    rw [List.length_map, List.length_map, List.length_take, perm.length_eq] at lengths
    omega
  · intro short
    rw [List.take_of_length_le (by rw [perm.length_eq]; exact short)]
    exact perm.map item

end Cuts

theorem chainNodes_perm (groupRows : List BlockingSnapshot) :
    (chainNodes groupRows).Perm (groupRows.map toNode) :=
  (List.perm_insertionSort _ groupRows).map toNode

theorem nodes_perm (rows : List BlockingSnapshot) :
    ((blockingChains rows).flatMap BlockingChain.nodes).Perm (rows.map toNode) := by
  have groups : ((groupedRows rows).entries.flatMap fun entry => chainNodes entry.2).Perm
      ((groupedRows rows).entries.flatMap fun entry => entry.2.map toNode) :=
    List.Perm.flatMap_left _ fun entry _ => chainNodes_perm entry.2
  have flattened : ((groupedRows rows).entries.flatMap fun entry => entry.2.map toNode) =
      (groupedRows rows).values.flatten.map toNode := by
    rw [InsertionDict.values, List.map_flatten, List.map_map, List.flatMap_def]
    rfl
  have chains := (blockingChains_perm rows).flatMap_right BlockingChain.nodes
  rw [List.flatMap_map] at chains
  refine chains.trans (groups.trans ?_)
  rw [flattened]
  exact (InsertionDict.flatten_groupBy_perm _ rows).map toNode

section Complete

variable (tables : SnapshotTables) (frame : FrameKey)

def sessionItem (session : SessionSnapshot) : SessionListItem :=
  Sessions.toItem (sqlPreviewMap tables (listRequests tables frame)) session
    (Sessions.requestOf (listRequests tables frame) session)

def sqlItem (request : RequestSnapshot) : SqlListItem :=
  Sqls.toItem (sqlPreviewMap tables (listRequests tables frame))
    (sqlTextMap tables (listRequests tables frame)) request

structure ShowsAllRows {F : Type} (replay : ReplayFrameOut F) : Prop where
  sessions : replay.sessions.Perm
    ((tables.sessions.filter (·.frame = frame)).map (sessionItem tables frame))
  sqls : replay.sqls.Perm
    ((tables.requests.filter (·.frame = frame)).map (sqlItem tables frame))
  blocking : (replay.blocking.flatMap BlockingChain.nodes).Perm
    ((tables.blocking.filter (·.frame = frame)).map toNode)
  waits : replay.waits.Perm ((tables.waits.filter (·.frame = frame)).map toTopWait)

structure WithinLimits : Prop where
  sessions : (tables.sessions.filter (·.frame = frame)).length ≤ 10000
  requests : (tables.requests.filter (·.frame = frame)).length ≤ 10000
  waits : (tables.waits.filter (·.frame = frame)).length ≤ 5

end Complete

section Shown

variable {F : Type} (floats : Floats F) (tables : SnapshotTables) (instanceId : Uuid)
  (requestedTime : Timestamp) (ref : SnapshotFrame)

theorem filtered_replayPage (sessions : List SessionSnapshot) (requests : List RequestSnapshot) :
    Sessions.filtered replayPage sessions requests =
      sessions.map fun session => (session, Sessions.requestOf requests session) := by
  apply List.filter_eq_self.mpr
  intro pair _
  simp [Sessions.kept, replayPage]

theorem replay_sessions_perm_iff :
    (replayOf floats tables instanceId requestedTime ref).sessions.Perm
        ((tables.sessions.filter (·.frame = ref.frame)).map (sessionItem tables ref.frame)) ↔
      (tables.sessions.filter (·.frame = ref.frame)).length ≤ 10000 := by
  have listed : (listSessions tables ref.frame).Perm
      (tables.sessions.filter (·.frame = ref.frame)) := sortAscending_perm _ _
  have paired := (sortedBy_perm replayPage.sortOrder
    (fun pair => sortValue (replayPage.sortBy.column pair.1))
      ((listSessions tables ref.frame).map fun session =>
        (session, Sessions.requestOf (listRequests tables ref.frame) session))).trans
    (listed.map fun session => (session, Sessions.requestOf (listRequests tables ref.frame) session))
  have cut := map_take_perm_iff paired 10000 fun pair =>
    Sessions.toItem (sqlPreviewMap tables (listRequests tables ref.frame)) pair.1 pair.2
  rw [List.map_map, List.length_map] at cut
  simp only [replayOf, Sessions.sessionListOf, filtered_replayPage]
  rw [show replayPage.page = 1 from rfl, pageOf_first]
  exact cut

theorem replay_sqls_perm_iff :
    (replayOf floats tables instanceId requestedTime ref).sqls.Perm
        ((tables.requests.filter (·.frame = ref.frame)).map (sqlItem tables ref.frame)) ↔
      (tables.requests.filter (·.frame = ref.frame)).length ≤ 10000 := by
  have listed : (listRequests tables ref.frame).Perm
      (tables.requests.filter (·.frame = ref.frame)) := sortAscending_perm _ _
  have sorted := (sortedBy_perm replaySqlPage.sortOrder
    (fun request => sortValue (replaySqlPage.sortBy.column request))
      (listRequests tables ref.frame)).trans listed
  have cut := map_take_perm_iff sorted 10000 (sqlItem tables ref.frame)
  simp only [replayOf, Sqls.sqlListOf]
  rw [show replaySqlPage.page = 1 from rfl, pageOf_first]
  exact cut

theorem replay_waits_perm_iff :
    (replayOf floats tables instanceId requestedTime ref).waits.Perm
        ((tables.waits.filter (·.frame = ref.frame)).map toTopWait) ↔
      (tables.waits.filter (·.frame = ref.frame)).length ≤ 5 :=
  map_take_perm_iff ((sortDescending_perm _ _).trans (sortDescending_perm _ _)) topLimit toTopWait

theorem replay_nodes_perm :
    ((replayOf floats tables instanceId requestedTime ref).blocking.flatMap
        BlockingChain.nodes).Perm
      ((tables.blocking.filter (·.frame = ref.frame)).map toNode) :=
  (nodes_perm _).trans ((sortAscending_perm _ _).map toNode)

variable {tables instanceId requestedTime ref}

theorem replay_complete_iff {maxDelaySeconds : Int}
    (chosen : getFrameBefore tables instanceId requestedTime maxDelaySeconds = some ref) :
    ∃ replay, getReplayFrame floats tables instanceId requestedTime maxDelaySeconds = some replay ∧
      (ShowsAllRows tables ref.frame replay ↔ WithinLimits tables ref.frame) := by
  refine ⟨replayOf floats tables instanceId requestedTime ref, ?_, ?_, ?_⟩
  · rw [getReplayFrame_eq, chosen]
    rfl
  · intro complete
    exact
      { sessions := (replay_sessions_perm_iff ..).mp complete.sessions
        requests := (replay_sqls_perm_iff ..).mp complete.sqls
        waits := (replay_waits_perm_iff ..).mp complete.waits }
  · intro limits
    exact
      { sessions := (replay_sessions_perm_iff ..).mpr limits.sessions
        sqls := (replay_sqls_perm_iff ..).mpr limits.requests
        blocking := replay_nodes_perm ..
        waits := (replay_waits_perm_iff ..).mpr limits.waits }

end Shown

section Waits

def waitsAtOnce (waitTypes : List String) : SnapshotTables :=
  { SnapshotTables.empty with
    frames := [emptyFrame 1 7 0]
    waits := waitTypes.map fun waitType =>
      { frame := ⟨1, 7, 0⟩
        waitType
        waitCategory := .other
        waitingTasksCount := 1
        totalWaitTimeMs := 20
        maxWaitTimeMs := 20 } }

theorem wellFormed_waitsAtOnce (waitTypes : List String) : (waitsAtOnce waitTypes).WellFormed := by
  refine ⟨List.nodup_singleton _, ?_, ?_, ?_, ?_⟩ <;>
    simp [waitsAtOnce, SnapshotTables.empty, BelongsToOne, emptyFrame]

def fiveWaits : SnapshotTables :=
  waitsAtOnce ["WAITFOR", "BACKUPIO", "OLEDB", "SLEEP_TASK", "CLR_SEMAPHORE"]

def sixWaits : SnapshotTables :=
  waitsAtOnce ["WAITFOR", "BACKUPIO", "OLEDB", "SLEEP_TASK", "CLR_SEMAPHORE", "XE_TIMER_EVENT"]

theorem replay_complete_iff_fiveWaits :
    ∃ replay, getReplayFrame rationalFloats fiveWaits 7 0 10 = some replay ∧
      ShowsAllRows fiveWaits ⟨1, 7, 0⟩ replay := by
  have chosen : getFrameBefore fiveWaits 7 0 10 = some (emptyFrame 1 7 0) := rfl
  obtain ⟨replay, shown, complete⟩ := replay_complete_iff rationalFloats chosen
  exact ⟨replay, shown, complete.mpr ⟨by decide, by decide, by decide⟩⟩

theorem sixth_wait_lost :
    sixWaits.WellFormed ∧ getFrameBefore sixWaits 7 0 10 = some (emptyFrame 1 7 0) ∧
      ∃ replay, getReplayFrame rationalFloats sixWaits 7 0 10 = some replay ∧
        replay.waits.length = 5 ∧ ¬ ShowsAllRows sixWaits ⟨1, 7, 0⟩ replay := by
  refine ⟨wellFormed_waitsAtOnce _, rfl,
    replayOf rationalFloats sixWaits 7 0 (emptyFrame 1 7 0), rfl, by decide, ?_⟩
  intro complete
  exact absurd complete.waits.length_eq (by decide)

end Waits

end SqlMonitor.Services
