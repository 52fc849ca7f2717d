import SqlMonitor.Services.Replay

set_option autoImplicit false

namespace SqlMonitor.Services

open SnapshotRepository SnapshotTables

section Agreement

def upTo (time : Timestamp) {A : Type} (frame : A → FrameKey) (rows : List A) : List A :=
  rows.filter fun row => (frame row).snapshotTime ≤ time

/-- Two stores that differ only in frames after a time, their rows and their texts. -/
structure AgreeUpTo (time : Timestamp) (tables other : SnapshotTables) : Prop where
  frames : upTo time SnapshotFrame.frame tables.frames = upTo time SnapshotFrame.frame other.frames
  sessions : upTo time SessionSnapshot.frame tables.sessions =
    upTo time SessionSnapshot.frame other.sessions
  requests : upTo time RequestSnapshot.frame tables.requests =
    upTo time RequestSnapshot.frame other.requests
  waits : upTo time WaitSnapshot.frame tables.waits = upTo time WaitSnapshot.frame other.waits
  blocking : upTo time BlockingSnapshot.frame tables.blocking =
    upTo time BlockingSnapshot.frame other.blocking
  sqlTexts : ∀ request ∈ upTo time RequestSnapshot.frame tables.requests,
    ∀ hash, request.sqlHash = some hash → tables.sqlTexts hash = other.sqlTexts hash

theorem filter_of_upTo {A : Type} {frame : A → FrameKey} {time : Timestamp} {rows rows' : List A}
    {keep : A → Bool} (early : ∀ row, keep row = true → (frame row).snapshotTime ≤ time)
    (same : upTo time frame rows = upTo time frame rows') :
    rows.filter keep = rows'.filter keep := by
  have within : ∀ list : List A, (upTo time frame list).filter keep = list.filter keep := by
    intro list
    rw [upTo, List.filter_filter]
    apply List.filter_congr
    intro row _
    by_cases kept : keep row = true
    · simp [kept, early row kept]
    · simp [kept]
  rw [← within rows, same, within rows']

theorem ownRows_of_upTo {A : Type} {owner : A → FrameKey} {time : Timestamp} {rows rows' : List A}
    {frame : FrameKey} (early : frame.snapshotTime ≤ time)
    (same : upTo time owner rows = upTo time owner rows') :
    rows.filter (fun row => owner row = frame) = rows'.filter (fun row => owner row = frame) := by
  refine filter_of_upTo ?_ same
  intro row kept
  rw [of_decide_eq_true kept]
  exact early

variable {tables other : SnapshotTables} {time : Timestamp} {instanceId : Uuid}

theorem AgreeUpTo.sameFrames (agree : AgreeUpTo time tables other) {keep : SnapshotFrame → Bool}
    (early : ∀ row, keep row = true → snapshotTime row ≤ time) :
    (framesOf tables instanceId).filter keep = (framesOf other instanceId).filter keep := by
  simp only [framesOf, List.filter_filter]
  refine filter_of_upTo ?_ agree.frames
  intro row kept
  exact early row (Bool.and_eq_true_iff.mp kept).1

theorem AgreeUpTo.sameChosen (agree : AgreeUpTo time tables other) (maxDelaySeconds : Int) :
    getFrameBefore tables instanceId time maxDelaySeconds =
      getFrameBefore other instanceId time maxDelaySeconds := by
  unfold getFrameBefore
  rw [agree.sameFrames]
  intro row kept
  exact (of_decide_eq_true kept).1

variable {frame : FrameKey} (early : frame.snapshotTime ≤ time)
include early

theorem AgreeUpTo.sameSessions (agree : AgreeUpTo time tables other) :
    listSessions tables frame = listSessions other frame :=
  congrArg (sortAscending _) (ownRows_of_upTo early agree.sessions)

theorem AgreeUpTo.sameRequests (agree : AgreeUpTo time tables other) :
    listRequests tables frame = listRequests other frame :=
  congrArg (sortAscending _) (ownRows_of_upTo early agree.requests)

theorem AgreeUpTo.sameWaits (agree : AgreeUpTo time tables other) :
    listWaits tables frame = listWaits other frame :=
  congrArg (sortDescending _) (ownRows_of_upTo early agree.waits)

theorem AgreeUpTo.sameBlockingRows (agree : AgreeUpTo time tables other) :
    listBlockingRows tables frame = listBlockingRows other frame :=
  congrArg (sortAscending _) (ownRows_of_upTo early agree.blocking)

omit early in
theorem readTexts_congr {column : SqlText → String} {hashes : List String}
    (same : ∀ hash ∈ hashes, tables.sqlTexts hash = other.sqlTexts hash) :
    readTexts tables column hashes = readTexts other column hashes := by
  funext hash
  cases hash with
  | none => rfl
  | some hash =>
      by_cases asked : hash ≠ "" ∧ hash ∈ hashes
      · simp [readTexts, Option.filter_some, asked, same hash asked.2]
      · simp [readTexts, Option.filter_some, asked]

theorem AgreeUpTo.sameTexts (agree : AgreeUpTo time tables other)
    (column : SqlText → String) :
    readTexts tables column (sqlHashesOf (listRequests tables frame)) =
      readTexts other column (sqlHashesOf (listRequests tables frame)) := by
  apply readTexts_congr
  intro hash asked
  obtain ⟨request, listed, hashed⟩ := List.mem_filterMap.mp asked
  have stored := List.mem_filter.mp ((mem_sortAscending _ _).mp listed)
  have owner : request.frame = frame := of_decide_eq_true stored.2
  have within : request ∈ upTo time RequestSnapshot.frame tables.requests := by
    simp [upTo, stored.1, owner, early]
  exact agree.sqlTexts request within hash (Option.filter_eq_some_iff.mp hashed).1

end Agreement

section Trends

variable {F : Type} (floats : Floats F) (tables : SnapshotTables) (instanceId : Uuid)
  (time : Timestamp)

def laterFrames : List SnapshotFrame :=
  sortAscending snapshotTime ((framesOf tables instanceId).filter (time < snapshotTime ·))

def lastUpTo : Option SnapshotFrame :=
  (sortAscending snapshotTime ((framesOf tables instanceId).filter (snapshotTime · ≤ time))).getLast?

def laterReadings : List (ResourceTrendPoint F) :=
  trendPoints floats (lastUpTo tables instanceId time) (laterFrames tables instanceId time)

variable {tables instanceId time}

theorem lastUpTo_eq {since : Timestamp} {ref : SnapshotFrame}
    (member : ref ∈ framesOf tables instanceId)
    (after : since ≤ snapshotTime ref) (before : snapshotTime ref ≤ time)
    (previousFrame : Option SnapshotFrame) :
    ((sortAscending snapshotTime (((framesOf tables instanceId).filter
        (since ≤ snapshotTime ·)).filter (snapshotTime · ≤ time))).getLast?).or previousFrame =
      lastUpTo tables instanceId time := by
  have split := sortAscending_split snapshotTime (fun row => decide (snapshotTime row < since))
    (fun a b early late => lt_of_lt_of_le (of_decide_eq_true early)
      (le_of_not_gt (of_decide_eq_false late)))
    ((framesOf tables instanceId).filter (snapshotTime · ≤ time))
  have window : ((framesOf tables instanceId).filter (snapshotTime · ≤ time)).filter
      (fun row => ! decide (snapshotTime row < since)) =
        ((framesOf tables instanceId).filter (since ≤ snapshotTime ·)).filter
          (snapshotTime · ≤ time) := by
    rw [List.filter_filter, List.filter_filter]
    apply List.filter_congr
    intro row _
    simp [Bool.and_comm, ← decide_not]
  rw [lastUpTo, split, window, List.getLast?_append]
  have inside : ref ∈ sortAscending snapshotTime (((framesOf tables instanceId).filter
      (since ≤ snapshotTime ·)).filter (snapshotTime · ≤ time)) := by
    simp [member, after, before]
  have found := List.getLast?_eq_some_getLast (List.ne_nil_of_mem inside)
  rw [found]
  rfl

theorem sinceTime_le (ref : SnapshotFrame) (metricsWindowMinutes : Nat) :
    sinceTime ref metricsWindowMinutes ≤ snapshotTime ref := by
  have long : 0 ≤ minutes (max metricsWindowMinutes 1) := by
    unfold minutes seconds
    omega
  exact Int.sub_le_self _ long

theorem resourceTrends_eq {ref : SnapshotFrame} (member : ref ∈ framesOf tables instanceId)
    (before : snapshotTime ref ≤ time) (metricsWindowMinutes : Nat) :
    resourceTrends floats tables instanceId ref metricsWindowMinutes =
      trendPoints floats
          (getResourceFrameBefore tables instanceId (sinceTime ref metricsWindowMinutes))
          (sortAscending snapshotTime (((framesOf tables instanceId).filter
            (sinceTime ref metricsWindowMinutes ≤ snapshotTime ·)).filter
              (snapshotTime · ≤ time))) ++
        laterReadings floats tables instanceId time := by
  have started := sinceTime_le ref metricsWindowMinutes
  have later : ((framesOf tables instanceId).filter
      (sinceTime ref metricsWindowMinutes ≤ snapshotTime ·)).filter
        (fun row => ! decide (snapshotTime row ≤ time)) =
          (framesOf tables instanceId).filter (time < snapshotTime ·) := by
    rw [List.filter_filter]
    apply List.filter_congr
    intro row _
    simp only [← decide_not, ← Bool.decide_and, decide_eq_decide, not_le]
    constructor
    · exact And.left
    · intro past
      exact ⟨past, (started.trans before).trans past.le⟩
  unfold resourceTrends listResourceFrames
  simp only [sortAscending_sortAscending]
  rw [sortAscending_split snapshotTime (fun row => decide (snapshotTime row ≤ time))
    (fun a b early late => lt_of_le_of_lt (of_decide_eq_true early)
      (lt_of_not_ge (of_decide_eq_false late))), later, trendPoints_append,
    lastUpTo_eq member started before]
  rfl

theorem AgreeUpTo.resourceTrends_eq_iff {other : SnapshotTables}
    (agree : AgreeUpTo time tables other) {ref : SnapshotFrame}
    (member : ref ∈ framesOf tables instanceId) (before : snapshotTime ref ≤ time)
    (metricsWindowMinutes : Nat) :
    resourceTrends floats other instanceId ref metricsWindowMinutes =
        resourceTrends floats tables instanceId ref metricsWindowMinutes ↔
      laterReadings floats other instanceId time = laterReadings floats tables instanceId time := by
  have started := sinceTime_le ref metricsWindowMinutes
  have present : ref ∈ framesOf other instanceId := by
    have early : ref ∈ (framesOf tables instanceId).filter (snapshotTime · ≤ time) := by
      simp [member, before]
    rw [agree.sameFrames (fun row kept => of_decide_eq_true kept)] at early
    exact List.mem_of_mem_filter early
  have previous : getResourceFrameBefore other instanceId (sinceTime ref metricsWindowMinutes) =
      getResourceFrameBefore tables instanceId (sinceTime ref metricsWindowMinutes) := by
    unfold getResourceFrameBefore
    rw [agree.sameFrames]
    intro row kept
    exact (of_decide_eq_true kept).le.trans (started.trans before)
  have window : ((framesOf other instanceId).filter
      (sinceTime ref metricsWindowMinutes ≤ snapshotTime ·)).filter (snapshotTime · ≤ time) =
        ((framesOf tables instanceId).filter
          (sinceTime ref metricsWindowMinutes ≤ snapshotTime ·)).filter
            (snapshotTime · ≤ time) := by
    simp only [List.filter_filter]
    rw [agree.sameFrames]
    intro row kept
    exact of_decide_eq_true (Bool.and_eq_true_iff.mp kept).1
  rw [resourceTrends_eq floats present before, resourceTrends_eq floats member before, previous,
    window, List.append_cancel_left_eq]

end Trends

section Replay

variable {F : Type} (floats : Floats F) {tables other : SnapshotTables} {instanceId : Uuid}
  {time : Timestamp}

theorem AgreeUpTo.replayOf_eq (agree : AgreeUpTo time tables other) {ref : SnapshotFrame}
    (before : snapshotTime ref ≤ time) :
    replayOf floats other instanceId time ref =
      { replayOf floats tables instanceId time ref with
        dashboard :=
          { dashboardOf floats tables instanceId topLimit metricsWindowMinutes ref with
            resourceTrends :=
              resourceTrends floats other instanceId ref metricsWindowMinutes } } := by
  have early : ref.frame.snapshotTime ≤ time := before
  have requests := agree.sameRequests early
  have previews : sqlPreviewMap tables (listRequests tables ref.frame) =
      sqlPreviewMap other (listRequests tables ref.frame) := agree.sameTexts early previewOrText
  have texts : sqlTextMap tables (listRequests tables ref.frame) =
      sqlTextMap other (listRequests tables ref.frame) := agree.sameTexts early SqlText.sqlText
  have page : Sessions.sessionListOf other instanceId replayPage ref =
      Sessions.sessionListOf tables instanceId replayPage ref := by
    simp only [Sessions.sessionListOf, agree.sameSessions early, ← requests, previews]
  have sqls : Sqls.sqlListOf other instanceId replaySqlPage ref =
      Sqls.sqlListOf tables instanceId replaySqlPage ref := by
    simp only [Sqls.sqlListOf, ← requests, previews, texts]
  have blocking : blockingOf other instanceId ref = blockingOf tables instanceId ref := by
    simp only [blockingOf, agree.sameBlockingRows early]
  have dashboard : dashboardOf floats other instanceId topLimit metricsWindowMinutes ref =
      { dashboardOf floats tables instanceId topLimit metricsWindowMinutes ref with
        resourceTrends := resourceTrends floats other instanceId ref metricsWindowMinutes } := by
    simp only [dashboardOf, agree.sameSessions early, ← requests, previews, texts,
      agree.sameWaits early, agree.sameBlockingRows early]
  simp only [replayOf, page, sqls, blocking, dashboard]

theorem AgreeUpTo.replayOf_eq_iff (agree : AgreeUpTo time tables other) {ref : SnapshotFrame}
    (member : ref ∈ framesOf tables instanceId) (before : snapshotTime ref ≤ time) :
    replayOf floats other instanceId time ref = replayOf floats tables instanceId time ref ↔
      laterReadings floats other instanceId time = laterReadings floats tables instanceId time := by
  rw [← agree.resourceTrends_eq_iff floats member before metricsWindowMinutes]
  constructor
  · intro same
    exact congrArg (fun replay => replay.dashboard.resourceTrends) same
  · intro same
    rw [agree.replayOf_eq floats before, same]
    rfl

def NothingInReach (tables : SnapshotTables) (instanceId : Uuid) (time : Timestamp)
    (maxDelaySeconds : Int) : Prop :=
  ∀ frame ∈ framesOf tables instanceId, snapshotTime frame ≤ time →
    snapshotTime frame < time - seconds maxDelaySeconds

def NothingLater (tables : SnapshotTables) (instanceId : Uuid) (time : Timestamp) : Prop :=
  ∀ frame ∈ framesOf tables instanceId, snapshotTime frame ≤ time

theorem getFrameBefore_eq_none_iff {maxDelaySeconds : Int} :
    getFrameBefore tables instanceId time maxDelaySeconds = none ↔
      NothingInReach tables instanceId time maxDelaySeconds := by
  rw [getFrameBefore, latestOf_eq_none, List.filter_eq_nil_iff, NothingInReach]
  simp only [decide_eq_true_eq, not_and, not_le]

theorem trends_within_iff {maxDelaySeconds : Int} {ref : SnapshotFrame}
    (chosen : getFrameBefore tables instanceId time maxDelaySeconds = some ref) (window : Nat) :
    (∀ point ∈ resourceTrends floats tables instanceId ref window,
        sinceTime ref window ≤ point.snapshotTime ∧ point.snapshotTime ≤ snapshotTime ref) ↔
      NothingLater tables instanceId time := by
  obtain ⟨-, before, latest⟩ := getFrameBefore_spec chosen
  constructor
  · intro within frame member
    by_contra late
    have after : time < snapshotTime frame := lt_of_not_ge late
    have shown : snapshotTime frame ∈ (resourceTrends floats tables instanceId ref window).map
        ResourceTrendPoint.snapshotTime :=
      mem_resourceTrends_times.mpr ⟨frame, member,
        ((sinceTime_le ref window).trans before).trans after.le, rfl⟩
    obtain ⟨point, listed, same⟩ := List.mem_map.mp shown
    have bounded := (within point listed).2
    rw [same] at bounded
    exact late (bounded.trans before)
  · intro nothing point listed
    obtain ⟨frame, member, started, same⟩ :=
      mem_resourceTrends_times.mp (List.mem_map_of_mem (f := ResourceTrendPoint.snapshotTime) listed)
    rw [← same]
    exact ⟨started, latest frame member (nothing frame member)⟩

theorem laterReadings_eq_nil_iff :
    laterReadings floats tables instanceId time = [] ↔ NothingLater tables instanceId time := by
  have times : (trendPoints floats (lastUpTo tables instanceId time)
      (laterFrames tables instanceId time)).map ResourceTrendPoint.snapshotTime =
        (laterFrames tables instanceId time).map snapshotTime := snapshotTimes_trendPoints _ _
  rw [laterReadings, ← List.map_eq_nil_iff (f := ResourceTrendPoint.snapshotTime), times,
    List.map_eq_nil_iff, ← List.length_eq_zero_iff, laterFrames, length_sortAscending,
    List.length_eq_zero_iff, List.filter_eq_nil_iff, NothingLater]
  simp only [decide_eq_true_eq, not_lt]

end Replay

section OtherStores

variable {tables : SnapshotTables} {instanceId : Uuid} {time : Timestamp}

theorem upTo_upTo {A : Type} (owner : A → FrameKey) (rows : List A) :
    upTo time owner (upTo time owner rows) = upTo time owner rows := by
  simp [upTo, List.filter_filter]

def forgetAfter (time : Timestamp) (tables : SnapshotTables) : SnapshotTables where
  frames := upTo time SnapshotFrame.frame tables.frames
  sessions := upTo time SessionSnapshot.frame tables.sessions
  requests := upTo time RequestSnapshot.frame tables.requests
  waits := upTo time WaitSnapshot.frame tables.waits
  blocking := upTo time BlockingSnapshot.frame tables.blocking
  sqlTexts := tables.sqlTexts

theorem forgetAfter_agrees : AgreeUpTo time tables (forgetAfter time tables) where
  frames := (upTo_upTo _ _).symm
  sessions := (upTo_upTo _ _).symm
  requests := (upTo_upTo _ _).symm
  waits := (upTo_upTo _ _).symm
  blocking := (upTo_upTo _ _).symm
  sqlTexts := fun _ _ _ _ => rfl

theorem nothingLater_forgetAfter : NothingLater (forgetAfter time tables) instanceId time := by
  intro frame member
  have kept := List.mem_filter.mp (mem_framesOf.mp member).1
  exact of_decide_eq_true kept.2

theorem belongsToOne_upTo {frames : List SnapshotFrame} {key : FrameKey}
    (early : key.snapshotTime ≤ time) (belongs : BelongsToOne frames key) :
    BelongsToOne (upTo time SnapshotFrame.frame frames) key := by
  have idle : upTo time SnapshotFrame.frame (upTo time SnapshotFrame.frame frames) =
      upTo time SnapshotFrame.frame frames := upTo_upTo SnapshotFrame.frame frames
  have same := ownRows_of_upTo early idle
  rw [BelongsToOne, same]
  exact belongs

theorem wellFormed_forgetAfter (wellFormed : tables.WellFormed) :
    (forgetAfter time tables).WellFormed where
  distinct := wellFormed.distinct.sublist (List.filter_sublist.map _)
  sessions := fun row member => belongsToOne_upTo (of_decide_eq_true (List.mem_filter.mp member).2)
    (wellFormed.sessions row (List.mem_of_mem_filter member))
  requests := fun row member => belongsToOne_upTo (of_decide_eq_true (List.mem_filter.mp member).2)
    (wellFormed.requests row (List.mem_of_mem_filter member))
  waits := fun row member => belongsToOne_upTo (of_decide_eq_true (List.mem_filter.mp member).2)
    (wellFormed.waits row (List.mem_of_mem_filter member))
  blocking := fun row member => belongsToOne_upTo (of_decide_eq_true (List.mem_filter.mp member).2)
    (wellFormed.blocking row (List.mem_of_mem_filter member))

def onlyOneLater (instanceId : Uuid) (time : Timestamp) (tables : SnapshotTables) :
    SnapshotTables :=
  { forgetAfter time tables with
    frames := (forgetAfter time tables).frames ++ [emptyFrame 0 instanceId (time + 1)] }

theorem onlyOneLater_agrees : AgreeUpTo time tables (onlyOneLater instanceId time tables) where
  frames := by
    simp [onlyOneLater, forgetAfter, upTo, emptyFrame, List.filter_append, List.filter_filter]
  sessions := forgetAfter_agrees.sessions
  requests := forgetAfter_agrees.requests
  waits := forgetAfter_agrees.waits
  blocking := forgetAfter_agrees.blocking
  sqlTexts := forgetAfter_agrees.sqlTexts

theorem not_nothingLater_onlyOneLater :
    ¬ NothingLater (onlyOneLater instanceId time tables) instanceId time := by
  intro nothing
  have late := nothing (emptyFrame 0 instanceId (time + 1))
    (by simp [framesOf, onlyOneLater, emptyFrame])
  exact absurd late (not_le_of_gt (Int.lt_succ time))

theorem wellFormed_onlyOneLater (wellFormed : tables.WellFormed) :
    (onlyOneLater instanceId time tables).WellFormed := by
  have kept : (forgetAfter time tables).WellFormed := wellFormed_forgetAfter wellFormed
  have fresh : primaryKey (emptyFrame 0 instanceId (time + 1)) ∉
      (forgetAfter time tables).frames.map primaryKey := by
    intro taken
    obtain ⟨frame, member, same⟩ := List.mem_map.mp taken
    have early : frame.frame.snapshotTime ≤ time := of_decide_eq_true (List.mem_filter.mp member).2
    have late : frame.frame.snapshotTime = time + 1 := congrArg Prod.snd same
    exact absurd (late ▸ early) (not_le_of_gt (Int.lt_succ time))
  refine ⟨?_, ?_, ?_, ?_, ?_⟩
  · rw [onlyOneLater, List.map_append, List.map_singleton, List.nodup_append]
    refine ⟨kept.distinct, List.nodup_singleton _, ?_⟩
    intro key member other single
    rw [List.mem_singleton.mp single]
    exact fun same => fresh (same ▸ member)
  · exact fun row member => belongsToOne_append (kept.sessions row member) fresh
  · exact fun row member => belongsToOne_append (kept.requests row member) fresh
  · exact fun row member => belongsToOne_append (kept.waits row member) fresh
  · exact fun row member => belongsToOne_append (kept.blocking row member) fresh

theorem exists_other_readings {F : Type} (floats : Floats F) (wellFormed : tables.WellFormed)
    (instanceId : Uuid) (time : Timestamp) :
    ∃ other : SnapshotTables, other.WellFormed ∧ AgreeUpTo time tables other ∧
      laterReadings floats other instanceId time ≠ laterReadings floats tables instanceId time := by
  by_cases nothing : NothingLater tables instanceId time
  · refine ⟨onlyOneLater instanceId time tables, wellFormed_onlyOneLater wellFormed,
      onlyOneLater_agrees, ?_⟩
    rw [(laterReadings_eq_nil_iff floats).mpr nothing]
    exact fun none_left => not_nothingLater_onlyOneLater ((laterReadings_eq_nil_iff floats).mp none_left)
  · refine ⟨forgetAfter time tables, wellFormed_forgetAfter wellFormed, forgetAfter_agrees, ?_⟩
    rw [(laterReadings_eq_nil_iff floats).mpr nothingLater_forgetAfter]
    exact fun none_left => nothing ((laterReadings_eq_nil_iff floats).mp none_left.symm)

end OtherStores

section Blindness

variable {F : Type} (floats : Floats F) {tables : SnapshotTables} (instanceId : Uuid)
  (time : Timestamp) (maxDelaySeconds : Int)

def TrendsWithinWindow (tables : SnapshotTables) : Prop :=
  ∀ replay, getReplayFrame floats tables instanceId time maxDelaySeconds = some replay →
    ∀ point ∈ replay.dashboard.resourceTrends,
      replay.snapshotTime - minutes replay.dashboard.metricsWindowMinutes ≤ point.snapshotTime ∧
        point.snapshotTime ≤ replay.snapshotTime

theorem replay_eq_iff {other : SnapshotTables} (agree : AgreeUpTo time tables other) :
    getReplayFrame floats other instanceId time maxDelaySeconds =
        getReplayFrame floats tables instanceId time maxDelaySeconds ↔
      NothingInReach tables instanceId time maxDelaySeconds ∨
        laterReadings floats other instanceId time =
          laterReadings floats tables instanceId time := by
  rw [getReplayFrame_eq, getReplayFrame_eq, ← agree.sameChosen, ← getFrameBefore_eq_none_iff]
  cases chosen : getFrameBefore tables instanceId time maxDelaySeconds with
  | none => simp
  | some ref =>
      obtain ⟨member, before, -⟩ := getFrameBefore_spec chosen
      simp [agree.replayOf_eq_iff floats member before]

theorem trendsWithinWindow_iff : TrendsWithinWindow floats instanceId time maxDelaySeconds tables ↔
    NothingInReach tables instanceId time maxDelaySeconds ∨ NothingLater tables instanceId time := by
  rw [TrendsWithinWindow, getReplayFrame_eq, ← getFrameBefore_eq_none_iff]
  cases chosen : getFrameBefore tables instanceId time maxDelaySeconds with
  | none => simp
  | some ref =>
      rw [← trends_within_iff floats chosen metricsWindowMinutes]
      simp only [Option.map_some, Option.some.injEq, forall_eq', reduceCtorEq, false_or]
      exact Iff.rfl

theorem replay_blind_to_future_iff (wellFormed : tables.WellFormed) :
    ((∀ other : SnapshotTables, other.WellFormed → AgreeUpTo time tables other →
        getReplayFrame floats other instanceId time maxDelaySeconds =
          getReplayFrame floats tables instanceId time maxDelaySeconds) ↔
      NothingInReach tables instanceId time maxDelaySeconds) ∧
    (∀ other : SnapshotTables, AgreeUpTo time tables other →
      (getReplayFrame floats other instanceId time maxDelaySeconds =
          getReplayFrame floats tables instanceId time maxDelaySeconds ↔
        NothingInReach tables instanceId time maxDelaySeconds ∨
          laterReadings floats other instanceId time =
            laterReadings floats tables instanceId time)) ∧
    (TrendsWithinWindow floats instanceId time maxDelaySeconds tables ↔
      NothingInReach tables instanceId time maxDelaySeconds ∨
        NothingLater tables instanceId time) := by
  refine ⟨⟨?_, ?_⟩, ?_, ?_⟩
  · intro blind
    obtain ⟨other, sound, agree, apart⟩ := exists_other_readings floats wellFormed instanceId time
    have same := blind other sound agree
    exact ((replay_eq_iff floats instanceId time maxDelaySeconds agree).mp same).resolve_right apart
  · intro nothing other _ agree
    exact (replay_eq_iff floats instanceId time maxDelaySeconds agree).mpr (Or.inl nothing)
  · intro other agree
    exact replay_eq_iff floats instanceId time maxDelaySeconds agree
  · exact trendsWithinWindow_iff floats instanceId time maxDelaySeconds

end Blindness

section OneFrame

def oneFrame : SnapshotTables := { SnapshotTables.empty with frames := [emptyFrame 1 7 0] }

def twoFrames : SnapshotTables :=
  { SnapshotTables.empty with frames := [emptyFrame 1 7 0, emptyFrame 2 7 1000000] }

theorem wellFormed_oneFrame : oneFrame.WellFormed := by
  refine ⟨by decide, ?_, ?_, ?_, ?_⟩ <;> simp [oneFrame, SnapshotTables.empty]

theorem wellFormed_twoFrames : twoFrames.WellFormed := by
  refine ⟨by decide, ?_, ?_, ?_, ?_⟩ <;> simp [twoFrames, SnapshotTables.empty]

theorem replay_blind_to_future_iff_oneFrame :
    TrendsWithinWindow rationalFloats 7 0 10 oneFrame ∧
      ¬ ∀ other : SnapshotTables, other.WellFormed → AgreeUpTo 0 oneFrame other →
        getReplayFrame rationalFloats other 7 0 10 =
          getReplayFrame rationalFloats oneFrame 7 0 10 := by
  obtain ⟨blind, -, within⟩ := replay_blind_to_future_iff rationalFloats 7 0 10 wellFormed_oneFrame
  refine ⟨within.mpr (Or.inr ?_), ?_⟩
  · unfold NothingLater
    decide
  · rw [blind]
    unfold NothingInReach
    decide

theorem next_frame_in_replay :
    oneFrame.WellFormed ∧ twoFrames.WellFormed ∧ AgreeUpTo 0 oneFrame twoFrames ∧
      getReplayFrame rationalFloats twoFrames 7 0 10 ≠
        getReplayFrame rationalFloats oneFrame 7 0 10 ∧
      ¬ TrendsWithinWindow rationalFloats 7 0 10 twoFrames := by
  refine ⟨wellFormed_oneFrame, wellFormed_twoFrames, ?_, ?_, ?_⟩
  · exact ⟨by decide, rfl, rfl, rfl, rfl, fun _ _ _ _ => rfl⟩
  · intro same
    have trends := congrArg (Option.map fun replay =>
      replay.dashboard.resourceTrends.map ResourceTrendPoint.snapshotTime) same
    exact absurd trends (by decide)
  · intro within
    have late := within (replayOf rationalFloats twoFrames 7 0 (emptyFrame 1 7 0)) rfl
      (trendPoint rationalFloats (some (emptyFrame 1 7 0)) (emptyFrame 2 7 1000000))
      (List.mem_cons_of_mem _ (List.mem_cons_self ..))
    exact absurd late.2 (by decide)

end OneFrame

end SqlMonitor.Services
