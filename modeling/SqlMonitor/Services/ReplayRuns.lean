import SqlMonitor.Services.CollectedPages
import SqlMonitor.Services.ReplayFuture

set_option autoImplicit false

namespace SqlMonitor.Services

open SnapshotRepository Collector TransitionSystem

section Windows

variable {rows : List SnapshotFrame} {since : Timestamp}

theorem latestOf_filter_since :
    latestOf (rows.filter (since ≤ snapshotTime ·)) =
      (latestOf rows).filter (since ≤ snapshotTime ·) := by
  cases found : latestOf rows with
  | none =>
      rw [latestOf_eq_none.mp found]
      rfl
  | some newest =>
      rw [Option.filter_some]
      by_cases within : since ≤ snapshotTime newest
      · obtain ⟨rest, sorted⟩ : ∃ rest, sortDescending snapshotTime rows = newest :: rest :=
          List.head?_eq_some_iff.mp found
        rw [if_pos (decide_eq_true within), latestOf, ← filter_sortDescending, sorted,
          List.filter_cons, if_pos (decide_eq_true within)]
        rfl
      · rw [if_neg (by simpa using within), latestOf_eq_none, List.filter_eq_nil_iff]
        intro row member inside
        exact within ((of_decide_eq_true inside).trans (le_of_latestOf found member))

end Windows

section Stores

variable {tables other third : SnapshotTables} {frame : FrameKey}

theorem SameFrame.symm (same : SameFrame tables other frame) : SameFrame other tables frame where
  sessions := same.sessions.symm
  requests := same.requests.symm
  waits := same.waits.symm
  blocking := same.blocking.symm
  texts := fun request member hash named =>
    (same.texts request (same.requests ▸ member) hash named).symm

theorem SameFrame.trans (same : SameFrame tables other frame)
    (next : SameFrame other third frame) : SameFrame tables third frame where
  sessions := same.sessions.trans next.sessions
  requests := same.requests.trans next.requests
  waits := same.waits.trans next.waits
  blocking := same.blocking.trans next.blocking
  texts := fun request member hash named =>
    (same.texts request member hash named).trans
      (next.texts request (same.requests ▸ member) hash named)

theorem SameInstance.through {instanceId : Uuid} (same : SameInstance instanceId tables other)
    (next : SameInstance instanceId third other) : SameInstance instanceId tables third where
  frames := same.frames.trans next.frames.symm
  rows := fun frame own => (same.rows frame own).trans (next.rows frame own).symm

/-- A later store of an instance: what it holds up to a time is the earlier one. -/
structure ContinuedAfter (instanceId : Uuid) (time : Timestamp) (tables later : SnapshotTables) :
    Prop where
  past : ∀ frame ∈ framesOf tables instanceId, snapshotTime frame ≤ time
  frames : (framesOf later instanceId).filter (snapshotTime · ≤ time) = framesOf tables instanceId
  rows : ∀ frame ∈ framesOf tables instanceId, SameFrame tables later frame.frame

variable {F : Type} (floats : Floats F) {later : SnapshotTables} {instanceId : Uuid}
  {time : Timestamp} (continued : ContinuedAfter instanceId time tables later)
include continued

theorem ContinuedAfter.getFrameBefore (maxDelaySeconds : Int) :
    getFrameBefore later instanceId time maxDelaySeconds =
      (getLatestFrame tables instanceId).filter
        (time - seconds maxDelaySeconds ≤ snapshotTime ·) := by
  rw [getLatestFrame, ← latestOf_filter_since, ← continued.frames,
    SnapshotRepository.getFrameBefore, List.filter_filter]
  refine congrArg latestOf (List.filter_congr fun row _ => ?_)
  simp [Bool.and_comm]

theorem ContinuedAfter.resourceTrends {ref : SnapshotFrame}
    (member : ref ∈ framesOf tables instanceId) (window : Nat) :
    resourceTrends floats later instanceId ref window =
      resourceTrends floats tables instanceId ref window ++
        laterReadings floats later instanceId time := by
  have before := continued.past ref member
  have started := sinceTime_le ref window
  have kept : ref ∈ framesOf later instanceId := by
    have early : ref ∈ (framesOf later instanceId).filter (snapshotTime · ≤ time) := by
      rw [continued.frames]
      exact member
    exact List.mem_of_mem_filter early
  have nothing : laterReadings floats tables instanceId time = [] :=
    (laterReadings_eq_nil_iff floats).mpr continued.past
  have previous : getResourceFrameBefore later instanceId (sinceTime ref window) =
      getResourceFrameBefore tables instanceId (sinceTime ref window) := by
    rw [getResourceFrameBefore, getResourceFrameBefore, ← continued.frames, List.filter_filter]
    refine congrArg latestOf (List.filter_congr fun row _ => ?_)
    rw [← Bool.decide_and, decide_eq_decide]
    exact ⟨fun early => ⟨early, early.le.trans (started.trans before)⟩, And.left⟩
  have inWindow : ((framesOf later instanceId).filter (sinceTime ref window ≤ snapshotTime ·)).filter
        (snapshotTime · ≤ time) =
      ((framesOf tables instanceId).filter (sinceTime ref window ≤ snapshotTime ·)).filter
        (snapshotTime · ≤ time) := by
    rw [← continued.frames]
    simp only [List.filter_filter]
    refine List.filter_congr fun row _ => ?_
    cases decide (snapshotTime row ≤ time) <;> simp
  rw [resourceTrends_eq floats kept before, resourceTrends_eq floats member before, nothing,
    List.append_nil, previous, inWindow]

theorem ContinuedAfter.replayOf {ref : SnapshotFrame} (member : ref ∈ framesOf tables instanceId) :
    replayOf floats later instanceId time ref =
      { instanceId
        requestedTime := time
        snapshotTime := snapshotTime ref
        frameId := ref.frame.frameId
        dashboard :=
          { dashboardOf floats tables instanceId topLimit metricsWindowMinutes ref with
            resourceTrends :=
              Services.resourceTrends floats tables instanceId ref metricsWindowMinutes ++
                laterReadings floats later instanceId time }
        sessions := (Sessions.sessionListOf tables instanceId replayPage ref).items
        sqls := (Sqls.sqlListOf tables instanceId replaySqlPage ref).items
        blocking := (blockingOf tables instanceId ref).chains
        waits := (dashboardOf floats tables instanceId topLimit metricsWindowMinutes ref).topWaits } := by
  have same := continued.rows ref member
  simp only [Services.replayOf, same.dashboardOf, same.sessionListOf, same.sqlListOf,
    same.blockingOf, continued.resourceTrends floats member]
  rfl

end Stores

section Runs

variable {env : Environment} {start middle final : CollectorState} {before after : List Call}
  {instanceId : Uuid} {time : Timestamp}

theorem successfulFrames_append (history added : List CallRecord) :
    successfulFrames env (history ++ added) =
      successfulFrames env history ++ successfulFrames env added := by
  rw [successfulFrames, List.filter_append, List.filterMap_append]
  rfl

theorem times_successfulFrames {added : List CallRecord} {calls : List Call}
    (made : added.map CallRecord.call = calls) {collected : Collected}
    (member : collected ∈ successfulFrames env added)
    (own : (collectedKey collected).instanceId = instanceId) :
    ∃ call ∈ calls, call.instanceId = instanceId ∧
      (collectedKey collected).snapshotTime = call.attempt.snapshotTime := by
  obtain ⟨record, inside, gathered⟩ := mem_successfulFrames member
  have key := key_collected gathered
  refine ⟨record.call, made ▸ List.mem_map_of_mem inside, ?_, by rw [key]; rfl⟩
  rw [key] at own
  exact own

theorem continuedAfter_run (empty : start.tables = .empty) (begins : start.history = [])
    (hashed : ∀ text, env.texts.sqlHash text ≠ "")
    (apart : ∀ text other, RunInCalls (before ++ after) text → RunInCalls (before ++ after) other →
      env.texts.sqlHash text = env.texts.sqlHash other → text = other)
    (past : ∀ call ∈ before, call.instanceId = instanceId → call.attempt.snapshotTime ≤ time)
    (since : ∀ call ∈ after, call.instanceId = instanceId → time < call.attempt.snapshotTime)
    (ran : run (collectCall env) start before = some middle)
    (ranOn : run (collectCall env) middle after = some final) :
    ContinuedAfter instanceId time middle.tables final.tables := by
  have ranAll : run (collectCall env) start (before ++ after) = some final := by
    rw [run_append, ran]
    exact ranOn
  obtain ⟨first, history, made⟩ := exists_history_append ran
  obtain ⟨added, continued, madeOn⟩ := exists_history_append ranOn
  rw [begins, List.nil_append] at history
  have earlier : ∀ collected ∈ successfulFrames env middle.history,
      (collectedKey collected).instanceId = instanceId →
        (collectedKey collected).snapshotTime ≤ time := by
    intro collected member own
    rw [history] at member
    obtain ⟨call, inside, about, same⟩ := times_successfulFrames made member own
    exact same.trans_le (past call inside about)
  have later : ∀ collected ∈ successfulFrames env added,
      (collectedKey collected).instanceId = instanceId →
        time < (collectedKey collected).snapshotTime := by
    intro collected member own
    obtain ⟨call, inside, about, same⟩ := times_successfulFrames madeOn member own
    exact (since call inside about).trans_eq same.symm
  have stores := (storesSuccesses_run empty begins ran).tables
  have storesOn := (storesSuccesses_run empty begins ranAll).tables
  rw [continued, successfulFrames_append] at storesOn
  have gathered := gathered_run begins ranAll hashed
  rw [continued, successfulFrames_append] at gathered
  have ownPast : ∀ frame ∈ framesOf middle.tables instanceId, snapshotTime frame ≤ time := by
    intro frame member
    rw [stores, framesOf_foldl] at member
    obtain ⟨collected, listed, rfl⟩ := List.mem_map.mp member
    obtain ⟨inside, own⟩ := List.mem_filter.mp listed
    exact earlier collected inside (of_decide_eq_true own)
  refine ⟨ownPast, ?_, ?_⟩
  · have none : (framesOf ((successfulFrames env added).foldl storeCollected .empty)
        instanceId).filter (snapshotTime · ≤ time) = [] := by
      rw [List.filter_eq_nil_iff, framesOf_foldl]
      intro frame member early
      obtain ⟨collected, listed, rfl⟩ := List.mem_map.mp member
      obtain ⟨inside, own⟩ := List.mem_filter.mp listed
      exact absurd (of_decide_eq_true early)
        (not_le_of_gt (later collected inside (of_decide_eq_true own)))
    rw [framesOf_foldl] at none
    rw [storesOn, framesOf_foldl, List.filter_append, List.map_append, List.filter_append, none,
      List.append_nil, ← framesOf_foldl, ← stores]
    exact List.filter_eq_self.mpr fun frame member => decide_eq_true (ownPast frame member)
  · intro frame member
    have about := (mem_framesOf.mp member).2
    -- Both stores are compared with the one of the instance's collections up to the time.
    have selected : (successfulFrames env middle.history ++ successfulFrames env added).filter
        (fun collected => (collectedKey collected).instanceId = instanceId ∧
          (collectedKey collected).snapshotTime ≤ time) =
        (successfulFrames env middle.history).filter
          fun collected => (collectedKey collected).instanceId = instanceId := by
      rw [List.filter_append, List.append_right_eq_self.mpr ?_]
      · refine List.filter_congr fun collected inside => ?_
        rw [decide_eq_decide]
        exact ⟨And.left, fun own => ⟨own, earlier collected inside own⟩⟩
      · refine List.filter_eq_nil_iff.mpr fun collected inside both => ?_
        obtain ⟨own, early⟩ := of_decide_eq_true both
        exact absurd early (not_le_of_gt (later collected inside own))
    have whole := @sameFrame_foldl env (RunInCalls (before ++ after)) _ frame.frame
      (fun collected => (collectedKey collected).instanceId = instanceId ∧
        (collectedKey collected).snapshotTime ≤ time) gathered apart fun collected _ same =>
          decide_eq_true (by rw [same]; exact ⟨about, ownPast frame member⟩)
    have part := (sameInstance_foldl instanceId (fun collected inside =>
      gathered collected (List.mem_append_left _ inside)) apart).rows frame.frame about
    rw [selected, ← storesOn] at whole
    rw [← stores] at part
    exact part.trans whole.symm

section Underway

variable {F : Type} (floats : Floats F)

def SameLivePages (instanceId : Uuid) (tables other : SnapshotTables) : Prop :=
  (∀ request : PageRequest, request.isLive = true → request.instanceId = instanceId →
      routePage floats other request = routePage floats tables request) ∧
    getBlockingChains other instanceId none = getBlockingChains tables instanceId none

variable {live settled : CollectorState} {committed underway : List Call}

theorem sameLivePages_of_successes (empty : start.tables = .empty) (begins : start.history = [])
    (hashed : ∀ text, env.texts.sqlHash text ≠ "")
    (apart : ∀ text other, RunInCalls (committed ++ underway) text →
      RunInCalls (committed ++ underway) other →
        env.texts.sqlHash text = env.texts.sqlHash other → text = other)
    (ran : run (collectCall env) start committed = some live)
    (settles : run (collectCall env) start (committed ++ underway) = some settled)
    (same : successesOf instanceId settled.history = successesOf instanceId live.history) :
    SameLivePages floats instanceId live.tables settled.tables := by
  have early : ∀ {text}, RunInCalls committed text → RunInCalls (committed ++ underway) text := by
    rintro text ⟨call, member, runs⟩
    exact ⟨call, List.mem_append_left _ member, runs⟩
  have alone :=
    sameInstance_run instanceId empty begins ran hashed fun text other known knownOther =>
    apart text other (early known) (early knownOther)
  have aloneLater := sameInstance_run instanceId empty begins settles hashed apart
  have collections : collectedAlone env instanceId settled.history =
      collectedAlone env instanceId live.history := by
    have frames : successfulFrames env (callsTo instanceId settled.history) =
        successfulFrames env (callsTo instanceId live.history) :=
      congrArg (List.filterMap (CallRecord.collected env)) same
    rw [collectedAlone, collectedAlone, frames]
  rw [collections] at aloneLater
  have stores := alone.through aloneLater
  exact ⟨fun request _ about => stores.routePage floats request about, stores.getBlockingChains⟩

theorem successes_of_sameLivePages (empty : start.tables = .empty) (begins : start.history = [])
    (rise : TimesRise instanceId (committed ++ underway))
    (ran : run (collectCall env) start committed = some live)
    (settles : run (collectCall env) live underway = some settled)
    (same : SameLivePages floats instanceId live.tables settled.tables) :
    successesOf instanceId settled.history = successesOf instanceId live.history := by
  have ranAll : run (collectCall env) start (committed ++ underway) = some settled := by
    rw [run_append, ran]
    exact settles
  obtain ⟨added, history, -⟩ := exists_history_append settles
  have split : successesOf instanceId settled.history =
      successesOf instanceId live.history ++ successesOf instanceId added := by
    simp only [successesOf, callsTo, history, List.filter_append]
  rw [split, List.append_right_eq_self]
  by_contra present
  obtain ⟨record, last⟩ := Option.isSome_iff_exists.mp (List.getLast?_isSome.mpr present)
  have rising := successes_rise begins ranAll rise
  obtain ⟨collected, gathered, latest⟩ := latest_run (storesSuccesses_run empty begins ranAll)
    rising (by rw [split, List.getLast?_append, last]; rfl)
  have shown := same.1 (.dashboard instanceId metricsWindowMinutes) rfl rfl
  simp only [routePage, getDashboard, latest] at shown
  cases found : getLatestFrame live.tables instanceId with
  | none => simp [found, orNotFound] at shown
  | some ref =>
      rw [found] at shown
      have times : snapshotTime collected.frame.snapshotFrame = snapshotTime ref :=
        congrArg DashboardOut.snapshotTime (Page.dashboard.inj (Except.ok.inj shown))
      have member := mem_of_latestOf found
      rw [framesOf_run instanceId (storesSuccesses_run empty begins ran)] at member
      obtain ⟨earlier, listed, rfl⟩ := List.mem_map.mp member
      obtain ⟨before, success, collects⟩ := List.mem_filterMap.mp listed
      rw [split] at rising
      have ordered := (List.pairwise_append.mp rising).2.2 before success record
        (List.mem_of_getLast? last)
      have time : snapshotTime collected.frame.snapshotFrame = record.snapshotTime :=
        congrArg FrameKey.snapshotTime (key_collected gathered)
      have timeBefore : snapshotTime earlier.frame.snapshotFrame = before.snapshotTime :=
        congrArg FrameKey.snapshotTime (key_collected collects)
      exact absurd ordered (not_lt_of_ge (by rw [← time, times, timeBefore]))

end Underway

theorem replay_shows_past_pages {F : Type} (floats : Floats F) (env : Environment)
    (start live settled final : CollectorState) (committed underway after : List Call)
    (instanceId : Uuid) (time : Timestamp) (empty : start.tables = .empty)
    (begins : start.history = []) (hashed : ∀ text, env.texts.sqlHash text ≠ "")
    (apart : ∀ text other, RunInCalls (committed ++ underway ++ after) text →
      RunInCalls (committed ++ underway ++ after) other →
        env.texts.sqlHash text = env.texts.sqlHash other → text = other)
    (rise : TimesRise instanceId (committed ++ underway))
    (begun : ∀ call ∈ committed ++ underway, call.instanceId = instanceId →
      call.attempt.snapshotTime ≤ time)
    (since : ∀ call ∈ after, call.instanceId = instanceId → time < call.attempt.snapshotTime)
    (ran : run (collectCall env) start committed = some live)
    (settles : run (collectCall env) live underway = some settled)
    (ranOn : run (collectCall env) settled after = some final) :
    (SameLivePages floats instanceId live.tables settled.tables ↔
      successesOf instanceId settled.history = successesOf instanceId live.history) ∧
    (∀ dashboard,
      routePage floats settled.tables (.dashboard instanceId metricsWindowMinutes) =
        .ok (.dashboard dashboard) →
      time - seconds maxDelaySeconds ≤ dashboard.snapshotTime →
      ∃ sessions sqls blocking,
        routePage floats settled.tables (.sessions instanceId replayPage) =
          .ok (.sessions sessions) ∧
        routePage floats settled.tables (.sqls instanceId replaySqlPage) = .ok (.sqls sqls) ∧
        getBlockingChains settled.tables instanceId none = some blocking ∧
        routePage floats final.tables (.replay instanceId time) = .ok (.replay
          { instanceId
            requestedTime := time
            snapshotTime := dashboard.snapshotTime
            frameId := dashboard.frameId
            dashboard :=
              { dashboard with
                resourceTrends := dashboard.resourceTrends ++
                  laterReadings floats final.tables instanceId time }
            sessions := sessions.items
            sqls := sqls.items
            blocking := blocking.chains
            waits := dashboard.topWaits })) ∧
    ((∀ dashboard,
      routePage floats settled.tables (.dashboard instanceId metricsWindowMinutes) =
        .ok (.dashboard dashboard) →
      dashboard.snapshotTime < time - seconds maxDelaySeconds) →
      routePage floats final.tables (.replay instanceId time) = .error replayFrameNotFound) := by
  have ranAll : run (collectCall env) start (committed ++ underway) = some settled := by
    rw [run_append, ran]
    exact settles
  have soFar : ∀ {text}, RunInCalls (committed ++ underway) text →
      RunInCalls (committed ++ underway ++ after) text := by
    rintro text ⟨call, member, runs⟩
    exact ⟨call, List.mem_append_left _ member, runs⟩
  refine ⟨⟨successes_of_sameLivePages floats empty begins rise ran settles,
    sameLivePages_of_successes floats empty begins hashed
      (fun text other known knownOther => apart text other (soFar known) (soFar knownOther))
      ran ranAll⟩, ?_⟩
  have continued := continuedAfter_run empty begins hashed apart begun since ranAll ranOn
  have chosen := continued.getFrameBefore maxDelaySeconds
  simp only [routePage, getReplayFrame_eq, chosen, getDashboard, Sessions.listSessions,
    Sqls.listSqls, getBlockingChains, Option.none_or]
  cases found : getLatestFrame settled.tables instanceId with
  | none =>
      constructor
      · intro dashboard shown
        simp [orNotFound] at shown
      · intro _
        rfl
  | some ref =>
      have member : ref ∈ framesOf settled.tables instanceId := mem_of_latestOf found
      constructor
      · intro dashboard shown recent
        obtain rfl := Page.dashboard.inj (Except.ok.inj shown)
        have within : time - seconds maxDelaySeconds ≤ snapshotTime ref := recent
        refine ⟨_, _, _, rfl, rfl, rfl, ?_⟩
        rw [Option.filter_some, if_pos (decide_eq_true within), Option.map_some,
          continued.replayOf floats member]
        rfl
      · intro old
        have stale : snapshotTime ref < time - seconds maxDelaySeconds := old _ rfl
        rw [Option.filter_some, decide_eq_false (not_le_of_gt stale)]
        rfl

theorem replay_shows_past_pages_twoInstances :
    ∃ live settled final sessions replay,
      run (collectCall digestEnvironment) twoInstances (twoInstanceCalls.take 2) = some live ∧
      run (collectCall digestEnvironment) live [statementCallAt 7 false] = some settled ∧
      run (collectCall digestEnvironment) settled (twoInstanceCalls.drop 3) = some final ∧
      routePage rationalFloats live.tables (.sessions 1 replayPage) = .ok (.sessions sessions) ∧
      routePage rationalFloats final.tables (.replay 1 8) = .ok (.replay replay) ∧
      replay.snapshotTime = 5 ∧ replay.sessions = sessions.items := by
  obtain ⟨final, ran⟩ := exists_run_twoInstanceCalls
  have split : twoInstanceCalls =
      twoInstanceCalls.take 2 ++ [statementCallAt 7 false] ++ twoInstanceCalls.drop 3 := rfl
  rw [split] at ran
  obtain ⟨settled, begun, rest⟩ := run_append_eq_some ran
  obtain ⟨live, first, second⟩ := run_append_eq_some begun
  have early : (run (collectCall digestEnvironment) twoInstances (twoInstanceCalls.take 2)).map
      (fun state => ((successesOf 1 state.history).length,
        (getLatestFrame state.tables 1).map snapshotTime)) = some (1, some 5) := by decide +kernel
  have later : (run (collectCall digestEnvironment) twoInstances
      (twoInstanceCalls.take 2 ++ [statementCallAt 7 false])).map
        (fun state => ((successesOf 1 state.history).length,
          (getLatestFrame state.tables 1).map snapshotTime)) = some (1, some 5) := by
    decide +kernel
  rw [first] at early
  rw [begun] at later
  obtain ⟨one, -⟩ := Prod.mk.inj (Option.some.inj early)
  obtain ⟨stillOne, latest⟩ := Prod.mk.inj (Option.some.inj later)
  obtain ⟨ref, found, five⟩ := Option.map_eq_some_iff.mp latest
  have same : successesOf 1 settled.history = successesOf 1 live.history := by
    obtain ⟨added, history, -⟩ := exists_history_append second
    refine (List.IsPrefix.eq_of_length ?_ (one.trans stillOne.symm)).symm
    exact ⟨successesOf 1 added, by simp only [successesOf, callsTo, history, List.filter_append]⟩
  have shown : routePage rationalFloats settled.tables (.dashboard 1 metricsWindowMinutes) =
      .ok (.dashboard
        (dashboardOf rationalFloats settled.tables 1 topLimit metricsWindowMinutes ref)) := by
    simp [routePage, getDashboard, found, orNotFound]
  obtain ⟨atTheTime, past, -⟩ := replay_shows_past_pages rationalFloats digestEnvironment
    twoInstances live settled final (twoInstanceCalls.take 2) [statementCallAt 7 false]
    (twoInstanceCalls.drop 3) 1 8 rfl rfl digestEnvironment_hashed
    (fun text other known knownOther _ => by
      rw [← split] at known knownOther
      rw [runInCalls_twoInstanceCalls known, runInCalls_twoInstanceCalls knownOther])
    (by simp [TimesRise, twoInstanceCalls, statementCallAt, callAt])
    (by simp [twoInstanceCalls, statementCallAt, callAt])
    (by simp [twoInstanceCalls, statementCallAt, callAt]) first second rest
  have recent : (8 : Timestamp) - seconds maxDelaySeconds ≤ snapshotTime ref := by
    rw [five]
    decide
  obtain ⟨sessions, sqls, blocking, listed, -, -, replayed⟩ := past _ shown recent
  have unchanged := (atTheTime.mpr same).1 (.sessions 1 replayPage) rfl rfl
  exact ⟨live, settled, final, sessions, _, first, second, rest, unchanged.symm.trans listed,
    replayed, five, rfl⟩

end Runs

end SqlMonitor.Services
