import SqlMonitor.Collector.BlockedRequests
import SqlMonitor.Services.CollectedPages
import SqlMonitor.Shared.TopRows

set_option autoImplicit false

namespace SqlMonitor.Services

open SnapshotRepository Collector Dmv BlockingGraph TransitionSystem

section Figures

def requestRows (rows : List SessionRequestRow) : List SessionRequestRow :=
  rows.filter (·.requestId.isSome)

-- Of several rows of a session, only the last says whether it is blocked.
def blockedSessions (rows : List SessionRequestRow) : List Int :=
  (rows.filterMap SessionRequestRow.sessionId).dedup.filter fun session =>
    (blockerOfLastRow rows session).isSome

def blockedFor (rows : List SessionRequestRow) (session : Int) : Int :=
  ((lastSessionRow rows session).bind SessionRequestRow.waitTimeMs).getD 0

def waitTypesOf (waitRows : List WaitRow) : List String :=
  (waitRows.filterMap fun row => row.waitType.filter (· ≠ "")).dedup

def durationsOf (waitRows : List WaitRow) (waitType : String) : List Int :=
  (waitRows.filter (·.waitType = some waitType)).map (·.waitDurationMs.getD 0)

def topWaitOf (waitRows : List WaitRow) (waitType : String) : TopWait where
  waitType := waitType
  waitCategory := categorizeWait waitType
  waitingTasksCount := (durationsOf waitRows waitType).length
  totalWaitTimeMs := (durationsOf waitRows waitType).sum
  maxWaitTimeMs := maxOrZero (durationsOf waitRows waitType)

def topSqlOf (env : Environment) (row : SessionRequestRow) : TopSql where
  sessionId := row.sessionId
  requestId := row.requestId
  databaseName := row.databaseName
  status := row.requestStatus
  command := row.command
  durationMs := row.totalElapsedTimeMs
  cpuTimeMs := row.requestCpuTimeMs
  logicalReads := row.requestLogicalReads
  reads := row.requestReads
  writes := row.requestWrites
  waitType := row.waitType
  waitTimeMs := row.waitTimeMs
  blockingSessionId := Collector.normalizeBlocker row.blockingSessionId
  sqlHash := (rowSqlText row).map env.texts.sqlHash
  normalizedSqlHash := (rowSqlText row).map env.texts.normalizedSqlHash
  sqlPreview := (rowSqlText row).map fun text => (shownOf env text).1
  sqlText := rowSqlText row

structure TellsServer {F : Type} (env : Environment) (rows : List SessionRequestRow)
    (waitRows : List WaitRow) (out : DashboardOut F) : Prop where
  sessionCount : out.metrics.sessionCount = rows.length
  activeRequestCount : out.metrics.activeRequestCount = (requestRows rows).length
  waitingRequestCount : out.metrics.waitingRequestCount =
    ((requestRows rows).filter fun row => hasText row.waitType).length
  blockedSessionCount : out.metrics.blockedSessionCount = (blockedSessions rows).length
  maxBlockingDurationMs : out.metrics.maxBlockingDurationMs =
    maxOrZero ((blockedSessions rows).map (blockedFor rows))
  topWaits : TopRows topLimit TopWait.totalWaitTimeMs
    ((waitTypesOf waitRows).map (topWaitOf waitRows)) out.topWaits
  topCpuSqls : TopRows topLimit (fun sql => sql.cpuTimeMs.getD 0)
    ((requestRows rows).map (topSqlOf env)) out.topCpuSqls
  topIoSqls : TopRows topLimit (fun sql => coalesce sql.logicalReads sql.reads 0)
    ((requestRows rows).map (topSqlOf env)) out.topIoSqls

end Figures

section Waits

variable {waitRows : List WaitRow} {waitType : String}

theorem mem_waitTypesOf : waitType ∈ waitTypesOf waitRows ↔
    waitType ∈ (waitDurations waitRows).map Prod.fst := by
  simp [waitTypesOf, waitDurations, List.mem_filterMap]

theorem ne_empty_of_mem_waitTypesOf (member : waitType ∈ waitTypesOf waitRows) : waitType ≠ "" := by
  obtain ⟨row, -, named⟩ := List.mem_filterMap.mp (List.mem_dedup.mp member)
  exact of_decide_eq_true (Option.filter_eq_some_iff.mp named).2

theorem durationsOf_eq (named : waitType ≠ "") :
    ((waitDurations waitRows).filter (·.1 = waitType)).map Prod.snd =
      durationsOf waitRows waitType := by
  induction waitRows with
  | nil => rfl
  | cons row rest ih =>
      simp only [durationsOf, waitDurations] at ih ⊢
      rw [List.filterMap_cons, List.filter_cons]
      cases stated : row.waitType with
      | none => simpa using ih
      | some other =>
          by_cases unnamed : other = ""
          · have apart : other ≠ waitType := fun same => named (same ▸ unnamed)
            simpa [Option.filter_some, unnamed, Ne.symm named] using ih
          · by_cases same : other = waitType <;> simpa [Option.filter_some, unnamed, same, named] using ih

theorem waits_perm (frame : FrameKey) (waitRows : List WaitRow) :
    ((buildWaitSnapshots frame waitRows).map toTopWait).Perm
      ((waitTypesOf waitRows).map (topWaitOf waitRows)) := by
  let groups := InsertionDict.groupBy Prod.fst (waitDurations waitRows)
  have inGroups : ∀ waitType, waitType ∈ groups.keys ↔ waitType ∈ waitTypesOf waitRows := by
    intro waitType
    rw [InsertionDict.mem_keys_iff, mem_waitTypesOf]
    simp only [groups, InsertionDict.get?_groupBy]
    split <;> simp_all
  have each : (buildWaitSnapshots frame waitRows).map toTopWait =
      groups.keys.map (topWaitOf waitRows) := by
    rw [buildWaitSnapshots, List.map_map, InsertionDict.keys, List.map_map]
    refine List.map_congr_left fun entry member => ?_
    obtain ⟨waitType, group⟩ := entry
    have held := (InsertionDict.get?_eq_some_iff groups waitType group).mpr member
    have listed : waitType ∈ waitTypesOf waitRows :=
      (inGroups waitType).mp ((InsertionDict.mem_keys_iff groups waitType).mpr ⟨group, held⟩)
    simp only [groups, InsertionDict.get?_groupBy, if_pos (mem_waitTypesOf.mp listed),
      Option.some.injEq] at held
    have durations : group.map Prod.snd = durationsOf waitRows waitType := by
      rw [← held, durationsOf_eq (ne_empty_of_mem_waitTypesOf listed)]
    simp only [Function.comp_apply, toTopWait, topWaitOf, ← durations, List.length_map]
  rw [each]
  exact ((List.perm_ext_iff_of_nodup groups.keys_nodup (List.nodup_dedup _)).mpr inGroups).map _

end Waits

section Blocked

variable {rows : List SessionRequestRow} {waitRows : List WaitRow} {edges : List BlockingEdge}

theorem lastRow_wait (rows : List SessionRequestRow) (waitRows : List WaitRow) (session : Int) :
    (lastRow (blockingInputs rows waitRows) session).map BlockingInput.waitDurationMs =
      (lastSessionRow rows session).map SessionRequestRow.waitTimeMs := by
  unfold lastRow lastSessionRow
  rw [← List.getLast?_map, ← List.getLast?_map]
  congr 1
  induction rows with
  | nil => rfl
  | cons row rest ih =>
      cases id : row.sessionId with
      | none => simpa [blockingInputs, id] using ih
      | some other =>
          by_cases same : other = session <;> simpa [blockingInputs, id, same] using ih

theorem mem_blockedSessions {session : Int} :
    session ∈ blockedSessions rows ↔ ∃ blocker, blockerOfLastRow rows session = some blocker := by
  rw [blockedSessions, List.mem_filter, List.mem_dedup, Option.isSome_iff_exists]
  constructor
  · exact And.right
  · rintro ⟨blocker, blocked⟩
    obtain ⟨row, member, own, -⟩ := exists_row_of_blockerOfLastRow blocked
    exact ⟨List.mem_filterMap.mpr ⟨row, member, own⟩, blocker, blocked⟩

theorem blockedSessions_perm (table : EdgeTable (blockingInputs rows waitRows) edges) :
    (edges.map BlockingEdge.blockedSessionId).Perm (blockedSessions rows) := by
  refine (List.perm_ext_iff_of_nodup table.distinct ((List.nodup_dedup _).filter _)).mpr ?_
  intro session
  rw [table.blocked_iff, blockerOf_blockingInputs]
  exact mem_blockedSessions.symm

theorem waits_of_edges (table : EdgeTable (blockingInputs rows waitRows) edges) :
    edges.map (fun edge => edge.waitDurationMs.getD 0) =
      (edges.map BlockingEdge.blockedSessionId).map (blockedFor rows) := by
  rw [List.map_map]
  refine List.map_congr_left fun edge member => ?_
  obtain ⟨row, last, -, wait, -⟩ := table.own edge member
  have found := lastRow_wait rows waitRows edge.blockedSessionId
  rw [last, Option.map_some, ← wait] at found
  obtain ⟨kept, own, same⟩ := Option.map_eq_some_iff.mp found.symm
  simp [blockedFor, own, same]

end Blocked

section Frames

variable {env : Environment} {id : Uuid} {attempt : Attempt} {row : Instance}
  {collected : Collected} {rows : List SessionRequestRow} {waitRows : List WaitRow}

def Answered (attempt : Attempt) (row : Instance) (rows : List SessionRequestRow)
    (waitRows : List WaitRow) : Prop :=
  ∃ connectionString client, attempt.decryptConnectionString row.encryptedCollectDsn =
      some connectionString ∧ attempt.clientFactory connectionString = some client ∧
    client.sessionRequestRows = some rows ∧ client.waitRows = some waitRows

theorem answered_collectFrame (gathered : collectFrame env id attempt row = some collected) :
    ∃ rows waitRows, Answered attempt row rows waitRows ∧ BuiltFrom env attempt collected rows ∧
      collected.frame.waits = buildWaitSnapshots (collectedKey collected) waitRows ∧
      buildBlockingSnapshots (collectedKey collected) rows waitRows =
        some collected.frame.blocking := by
  simp only [collectFrame, Option.bind_eq_bind, Option.bind_eq_some_iff,
    Option.some.injEq] at gathered
  obtain ⟨connectionString, decrypted, client, reached, rows, answered, waitRows, waited, blocking,
    built, rfl⟩ := gathered
  refine ⟨rows, waitRows, ⟨connectionString, client, decrypted, reached, answered, waited⟩,
    ⟨?_, sessions_eq rows, requests_eq rows, rfl⟩, rfl, built⟩
  intro row member text runs
  exact ⟨connectionString, client, rows, row, reached, answered, member, runs⟩

theorem filter_eq_self_of_key {A : Type} {rows : List A} {keyOf : A → FrameKey} {frame : FrameKey}
    (shares : ∀ row ∈ rows, keyOf row = frame) :
    rows.filter (fun row => keyOf row = frame) = rows :=
  List.filter_eq_self.mpr fun row member => decide_eq_true (shares row member)

section Alone

variable (shares : SharesKey collected.frame)
include shares

theorem listSessions_alone :
    (listSessions (storeCollected .empty collected) (collectedKey collected)).Perm
      collected.frame.sessions :=
  (sortAscending_perm _ _).trans (List.Perm.of_eq (filter_eq_self_of_key shares.sessions))

theorem listRequests_alone :
    (listRequests (storeCollected .empty collected) (collectedKey collected)).Perm
      collected.frame.requests :=
  (sortAscending_perm _ _).trans (List.Perm.of_eq (filter_eq_self_of_key shares.requests))

theorem listWaits_alone :
    (listWaits (storeCollected .empty collected) (collectedKey collected)).Perm
      collected.frame.waits :=
  (sortDescending_perm _ _).trans (List.Perm.of_eq (filter_eq_self_of_key shares.waits))

theorem listBlockingRows_alone :
    (listBlockingRows (storeCollected .empty collected) (collectedKey collected)).Perm
      collected.frame.blocking :=
  (sortAscending_perm _ _).trans (List.Perm.of_eq (filter_eq_self_of_key shares.blocking))

end Alone

theorem shownText_alone {answer : SessionRequestRow} {text : String}
    (built : BuiltFrom env attempt collected rows) (hashed : ∀ text, env.texts.sqlHash text ≠ "")
    (apart : ∀ text other, RunsText attempt text → RunsText attempt other →
      env.texts.sqlHash text = env.texts.sqlHash other → text = other)
    (member : answer ∈ rows) (runs : rowSqlText answer = some text) :
    shownText (storeCollected .empty collected) (env.texts.sqlHash text) =
      some (shownOf env text) := by
  rcases sqlTexts_storeCollected .empty built hashed (env.texts.sqlHash text) with
    ⟨-, other, ran, same, stored⟩ | ⟨unrelated, -⟩
  · obtain rfl := apart other text ran (built.returned answer member text runs) same
    rw [shownText, stored]
    rfl
  · have refers := (refersTo_iff built).mpr ⟨answer, member, text, runs, rfl⟩
    rw [unrelated] at refers
    simp at refers

theorem toTopSql_alone {answer : SessionRequestRow} (shares : SharesKey collected.frame)
    (built : BuiltFrom env attempt collected rows) (hashed : ∀ text, env.texts.sqlHash text ≠ "")
    (apart : ∀ text other, RunsText attempt text → RunsText attempt other →
      env.texts.sqlHash text = env.texts.sqlHash other → text = other)
    (member : answer ∈ requestRows rows) :
    let tables := storeCollected .empty collected
    let requests := listRequests tables (collectedKey collected)
    toTopSql (sqlPreviewMap tables requests) (sqlTextMap tables requests)
        (requestSnapshot env.texts (collectedKey collected) answer) = topSqlOf env answer := by
  intro tables requests
  have hash : (requestSnapshot env.texts (collectedKey collected) answer).sqlHash =
      (rowSqlText answer).map env.texts.sqlHash := rowHashes_fst
  have normalized : (requestSnapshot env.texts (collectedKey collected) answer).normalizedSqlHash =
      (rowSqlText answer).map env.texts.normalizedSqlHash := by
    cases runs : rowSqlText answer with
    | none => simp [requestSnapshot, rowHashes, runs]
    | some text => exact rowHashes_snd runs (hashed text)
  have previews : sqlPreviewMap tables requests ((rowSqlText answer).map env.texts.sqlHash) =
      (rowSqlText answer).map (fun text => (shownOf env text).1) ∧
      (sqlTextMap tables requests ((rowSqlText answer).map env.texts.sqlHash)).filter (· ≠ "") =
        rowSqlText answer := by
    cases runs : rowSqlText answer with
    | none => exact ⟨rfl, rfl⟩
    | some text =>
        have listed : requestSnapshot env.texts (collectedKey collected) answer ∈ requests := by
          refine (listRequests_alone shares).mem_iff.mpr ?_
          rw [built.requests]
          exact List.mem_map_of_mem member
        have asked : env.texts.sqlHash text ∈ sqlHashesOf requests :=
          mem_sqlHashesOf.mpr ⟨_, listed, by rw [hash, runs]; rfl, hashed text⟩
        have shown := shownText_alone built hashed apart (List.mem_filter.mp member).1 runs
        obtain ⟨stored, held, same⟩ := Option.map_eq_some_iff.mp shown
        obtain ⟨preview, full⟩ := Prod.mk.inj same
        have nonempty : text ≠ "" := of_decide_eq_true (Option.filter_eq_some_iff.mp runs).2
        have read : ∀ column : SqlText → String,
            readTexts tables column (sqlHashesOf requests) (some (env.texts.sqlHash text)) =
              some (column stored) := by
          intro column
          simp [readTexts, Option.filter_some, asked, hashed text, tables, held]
        refine ⟨(read previewOrText).trans (congrArg some preview), ?_⟩
        have whole := (read SqlText.sqlText).trans (congrArg some full)
        rw [Option.map_some, sqlTextMap, getSqlTextMap, whole]
        simp [nonempty]
  simp only [toTopSql, topSqlOf, hash, normalized, previews.1, previews.2]
  simp [requestSnapshot]

theorem tellsServer_alone {F : Type} (floats : Floats F) (instanceId : Uuid) (window : Nat)
    (shares : SharesKey collected.frame) (built : BuiltFrom env attempt collected rows)
    (waited : collected.frame.waits = buildWaitSnapshots (collectedKey collected) waitRows)
    (blocked : buildBlockingSnapshots (collectedKey collected) rows waitRows =
      some collected.frame.blocking)
    (hashed : ∀ text, env.texts.sqlHash text ≠ "")
    (apart : ∀ text other, RunsText attempt text → RunsText attempt other →
      env.texts.sqlHash text = env.texts.sqlHash other → text = other) :
    TellsServer env rows waitRows (dashboardOf floats (storeCollected .empty collected) instanceId
      topLimit window collected.frame.snapshotFrame) := by
  have requests := listRequests_alone shares
  rw [built.requests] at requests
  obtain ⟨edges, -, table, same⟩ :=
    buildBlockingSnapshots_returns (collectedKey collected) rows waitRows
  have stored := listBlockingRows_alone shares
  rw [Option.some.inj (blocked.symm.trans same), blockingSnapshotsOf] at stored
  have blockedIds := stored.map BlockingSnapshot.blockedSessionId
  rw [List.map_map] at blockedIds
  have blockedIds := blockedIds.trans (blockedSessions_perm table)
  let tables := storeCollected .empty collected
  let listed := listRequests tables (collectedKey collected)
  let toSql := toTopSql (sqlPreviewMap tables listed) (sqlTextMap tables listed)
  have sqls : (listed.map toSql).Perm ((requestRows rows).map (topSqlOf env)) := by
    refine (requests.map toSql).trans (List.Perm.of_eq ?_)
    rw [List.map_map]
    exact List.map_congr_left fun answer member =>
      toTopSql_alone shares built hashed apart member
  refine ⟨?_, ?_, ?_, ?_, ?_, ?_, ?_, ?_⟩
  · refine (listSessions_alone shares).length_eq.trans ?_
    rw [built.sessions, List.length_map]
  · exact requests.length_eq.trans (List.length_map _)
  · refine (requests.filter _).length_eq.trans ?_
    rw [List.filter_map, List.length_map]
    rfl
  · have distinct := blockedIds.nodup_iff.mpr ((List.nodup_dedup _).filter _)
    exact (List.toFinset_card_of_nodup distinct).trans blockedIds.length_eq
  · refine maxOrZero_congr fun wait => ?_
    have waits := (stored.map fun row => coalesce row.maxWaitTimeMs (waitDurationMs row) 0)
    rw [List.map_map] at waits
    have own : edges.map ((fun row => coalesce row.maxWaitTimeMs (waitDurationMs row) 0) ∘
        blockingSnapshot (collectedKey collected) edges) =
          (edges.map BlockingEdge.blockedSessionId).map (blockedFor rows) := by
      rw [← waits_of_edges table]
      refine List.map_congr_left fun edge _ => ?_
      simp [coalesce, blockingSnapshot, waitDurationMs]
    rw [own] at waits
    exact (waits.trans ((blockedSessions_perm table).map _)).mem_iff
  · have waits := (listWaits_alone shares).map toTopWait
    rw [waited] at waits
    refine TopRows.perm ?_ (waits.trans (waits_perm (collectedKey collected) waitRows))
    exact (topRows_take_sortDescending _ _ _).map fun _ _ => rfl
  · exact ((topRows_take_sortDescending _ _ listed).map fun _ _ => rfl).perm sqls
  · exact ((topRows_take_sortDescending _ _ listed).map fun _ _ => rfl).perm sqls

end Frames

section LastSuccess

theorem dashboard_tells_server {F : Type} (floats : Floats F) (env : Environment)
    (start final : CollectorState) (calls : List Call) (instanceId : Uuid) (window : Nat)
    (empty : start.tables = .empty) (begins : start.history = [])
    (hashed : ∀ text, env.texts.sqlHash text ≠ "")
    (apart : ∀ text other, RunInCalls calls text → RunInCalls calls other →
      env.texts.sqlHash text = env.texts.sqlHash other → text = other)
    (rise : TimesRise instanceId calls) (ran : run (collectCall env) start calls = some final) :
    ∀ record, (successesOf instanceId final.history).getLast? = some record →
      ∃ rows waitRows out, Answered record.call.attempt record.row rows waitRows ∧
        routePage floats final.tables (.dashboard instanceId window) = .ok (.dashboard out) ∧
        out.instanceId = instanceId ∧ out.snapshotTime = record.snapshotTime ∧
        TellsServer env rows waitRows out := by
  intro record last
  have stores := storesSuccesses_run empty begins ran
  obtain ⟨collected, gathered, latest⟩ := latest_run stores (successes_rise begins ran rise) last
  obtain ⟨made, -, succeeded⟩ := mem_successesOf (List.mem_of_getLast? last)
  have member : collected ∈ successfulFrames env final.history :=
    List.mem_filterMap.mpr ⟨record, List.mem_filter.mpr ⟨made, succeeded⟩, gathered⟩
  have same := sameFrame_alone stores (gathered_run begins ran hashed) apart member
  have called : record.call ∈ calls := by
    rw [← calls_recorded begins ran]
    exact List.mem_map_of_mem made
  obtain ⟨rows, waitRows, answered, built, waited, blocked⟩ := answered_collectFrame gathered
  have tells := tellsServer_alone floats instanceId window (sharesKey_collectFrame gathered) built
    waited blocked hashed fun text other runs runsOther =>
      apart text other ⟨record.call, called, runs⟩ ⟨record.call, called, runsOther⟩
  rw [same.dashboardOf floats instanceId] at tells
  refine ⟨rows, waitRows, dashboardOf floats final.tables instanceId topLimit window
    collected.frame.snapshotFrame, answered, ?_, rfl, ?_, ?_⟩
  · rw [routePage, getDashboard, latest]
    rfl
  · exact congrArg FrameKey.snapshotTime (key_collected gathered)
  · exact ⟨tells.sessionCount, tells.activeRequestCount, tells.waitingRequestCount,
      tells.blockedSessionCount, tells.maxBlockingDurationMs, tells.topWaits, tells.topCpuSqls,
      tells.topIoSqls⟩

theorem dashboard_tells_server_twoInstances :
    ∃ final record rows waitRows out,
      run (collectCall digestEnvironment) twoInstances twoInstanceCalls = some final ∧
      (successesOf 1 final.history).getLast? = some record ∧
      Answered record.call.attempt record.row rows waitRows ∧
      routePage rationalFloats final.tables (.dashboard 1 5) = .ok (.dashboard out) ∧
      out.snapshotTime = 9 ∧ TellsServer digestEnvironment rows waitRows out := by
  obtain ⟨final, ran⟩ := exists_run_twoInstanceCalls
  have times : (run (collectCall digestEnvironment) twoInstances twoInstanceCalls).map
      (fun state => (successesOf 1 state.history).getLast?.map (·.snapshotTime)) =
        some (some 9) := by decide +kernel
  rw [ran] at times
  obtain ⟨record, last, nine⟩ := Option.map_eq_some_iff.mp (Option.some.inj times)
  obtain ⟨rows, waitRows, out, answered, page, -, time, tells⟩ :=
    dashboard_tells_server rationalFloats digestEnvironment twoInstances final twoInstanceCalls 1 5
      rfl rfl digestEnvironment_hashed
      (fun text other known knownOther _ => by
        rw [runInCalls_twoInstanceCalls known, runInCalls_twoInstanceCalls knownOther])
      timesRise_twoInstanceCalls ran record last
  exact ⟨final, record, rows, waitRows, out, ran, last, answered, page, time.trans nine, tells⟩

end LastSuccess

end SqlMonitor.Services
