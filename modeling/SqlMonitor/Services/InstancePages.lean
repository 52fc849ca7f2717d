import SqlMonitor.Services.Blocking
import SqlMonitor.Services.RealtimeRoutes

set_option autoImplicit false

namespace SqlMonitor.Services

open SnapshotRepository

section SameFrames

variable {tables other : SnapshotTables}

def shownText (tables : SnapshotTables) (hash : String) : Option (String × String) :=
  (tables.sqlTexts hash).map fun row => (previewOrText row, row.sqlText)

variable (tables other) in
structure SameFrame (frame : FrameKey) : Prop where
  sessions : tables.sessions.filter (·.frame = frame) = other.sessions.filter (·.frame = frame)
  requests : tables.requests.filter (·.frame = frame) = other.requests.filter (·.frame = frame)
  waits : tables.waits.filter (·.frame = frame) = other.waits.filter (·.frame = frame)
  blocking : tables.blocking.filter (·.frame = frame) = other.blocking.filter (·.frame = frame)
  texts : ∀ request ∈ tables.requests.filter (·.frame = frame), ∀ hash,
    request.sqlHash = some hash → shownText tables hash = shownText other hash

variable {frame : FrameKey} (same : SameFrame tables other frame)
include same

theorem SameFrame.listSessions : listSessions other frame = listSessions tables frame :=
  congrArg (sortAscending _) same.sessions.symm

theorem SameFrame.listRequests : listRequests other frame = listRequests tables frame :=
  congrArg (sortAscending _) same.requests.symm

theorem SameFrame.listWaits : listWaits other frame = listWaits tables frame :=
  congrArg (sortDescending _) same.waits.symm

theorem SameFrame.listBlockingRows : listBlockingRows other frame = listBlockingRows tables frame :=
  congrArg (sortAscending _) same.blocking.symm

theorem SameFrame.getSession (sessionId : Int) :
    getSession other frame sessionId = getSession tables frame sessionId := by
  have among : ∀ rows : List SessionSnapshot,
      rows.find? (fun row => row.frame = frame ∧ row.sessionId = some sessionId) =
        (rows.filter (·.frame = frame)).find? (·.sessionId = some sessionId) := by
    intro rows
    rw [List.find?_filter]
    simp only [Bool.decide_and, decide_eq_true_eq]
  rw [SnapshotRepository.getSession, SnapshotRepository.getSession, among, among, same.sessions]

theorem SameFrame.getRequestBySqlHash (hash : String) :
    getRequestBySqlHash other frame hash = getRequestBySqlHash tables frame hash := by
  have among : ∀ rows : List RequestSnapshot,
      rows.find? (fun row => row.frame = frame ∧ row.sqlHash = some hash) =
        (rows.filter (·.frame = frame)).find? (·.sqlHash = some hash) := by
    intro rows
    rw [List.find?_filter]
    simp only [Bool.decide_and, decide_eq_true_eq]
  rw [SnapshotRepository.getRequestBySqlHash, SnapshotRepository.getRequestBySqlHash, among, among,
    same.requests]

theorem SameFrame.getRequestBySession (sessionId : Int) :
    getRequestBySession other frame sessionId = getRequestBySession tables frame sessionId := by
  have among : ∀ rows : List RequestSnapshot,
      rows.filter (fun row => row.frame = frame ∧ row.sessionId = some sessionId) =
        (rows.filter (·.frame = frame)).filter (·.sessionId = some sessionId) := by
    intro rows
    rw [List.filter_filter]
    exact List.filter_congr fun row _ => by simp [Bool.and_comm]
  rw [SnapshotRepository.getRequestBySession, SnapshotRepository.getRequestBySession, among, among,
    same.requests]

omit same in
theorem readTexts_of_column {column : SqlText → String} {hashes : List String}
    (alike : ∀ hash ∈ hashes, (tables.sqlTexts hash).map column = (other.sqlTexts hash).map column) :
    readTexts other column hashes = readTexts tables column hashes := by
  funext sqlHash
  unfold readTexts
  cases asked : sqlHash.filter fun hash => hash ≠ "" ∧ hash ∈ hashes with
  | none => rfl
  | some hash =>
      have wanted := of_decide_eq_true (Option.filter_eq_some_iff.mp asked).2
      exact (alike hash wanted.2).symm

variable {requests : List RequestSnapshot}
  (within : ∀ request ∈ requests, request ∈ tables.requests.filter (·.frame = frame))
include within

theorem SameFrame.shownText_eq {hash : String} (asked : hash ∈ sqlHashesOf requests) :
    shownText tables hash = shownText other hash := by
  obtain ⟨request, member, hashed, -⟩ := mem_sqlHashesOf.mp asked
  exact same.texts request (within request member) hash hashed

theorem SameFrame.sqlPreviewMap : sqlPreviewMap other requests = sqlPreviewMap tables requests := by
  refine readTexts_of_column fun hash asked => ?_
  simpa only [shownText, Option.map_map, Function.comp_def] using
    congrArg (Option.map Prod.fst) (same.shownText_eq within asked)

theorem SameFrame.sqlTextMap : sqlTextMap other requests = sqlTextMap tables requests := by
  refine readTexts_of_column fun hash asked => ?_
  simpa only [shownText, Option.map_map, Function.comp_def] using
    congrArg (Option.map Prod.snd) (same.shownText_eq within asked)

end SameFrames

section FramePages

variable {F : Type} (floats : Floats F) {tables other : SnapshotTables} {ref : SnapshotFrame}
  (same : SameFrame tables other ref.frame) (instanceId : Uuid)

theorem mem_filter_of_mem_listRequests {frame : FrameKey} {request : RequestSnapshot}
    (member : request ∈ listRequests tables frame) :
    request ∈ tables.requests.filter (·.frame = frame) :=
  (mem_sortAscending _ _).mp member

include same

theorem SameFrame.dashboardOf (topLimit window : Nat) :
    dashboardOf floats other instanceId topLimit window ref =
      { dashboardOf floats tables instanceId topLimit window ref with
        resourceTrends := resourceTrends floats other instanceId ref window } := by
  simp only [Services.dashboardOf, same.listSessions, same.listRequests, same.listWaits,
    same.listBlockingRows, same.sqlPreviewMap fun _ => mem_filter_of_mem_listRequests,
    same.sqlTextMap fun _ => mem_filter_of_mem_listRequests]

theorem SameFrame.sessionListOf (query : SessionQuery) :
    Sessions.sessionListOf other instanceId query ref =
      Sessions.sessionListOf tables instanceId query ref := by
  simp only [Sessions.sessionListOf, same.listSessions, same.listRequests,
    same.sqlPreviewMap fun _ => mem_filter_of_mem_listRequests]

theorem SameFrame.sqlListOf (query : SqlQuery) :
    Sqls.sqlListOf other instanceId query ref = Sqls.sqlListOf tables instanceId query ref := by
  simp only [Sqls.sqlListOf, same.listRequests,
    same.sqlPreviewMap fun _ => mem_filter_of_mem_listRequests,
    same.sqlTextMap fun _ => mem_filter_of_mem_listRequests]

theorem SameFrame.blockingOf : blockingOf other instanceId ref = blockingOf tables instanceId ref := by
  simp only [Services.blockingOf, same.listBlockingRows]

theorem SameFrame.getSqlDetail (hash : String) :
    Sqls.getSqlDetail other instanceId hash (some ref) =
      Sqls.getSqlDetail tables instanceId hash (some ref) := by
  unfold Sqls.getSqlDetail
  simp only [Option.some_or, Option.bind_eq_bind, Option.bind_some, same.getRequestBySqlHash]
  cases found : SnapshotRepository.getRequestBySqlHash tables ref.frame hash with
  | none => rfl
  | some request =>
      have stored : ∀ row ∈ [request], row ∈ tables.requests.filter (·.frame = ref.frame) := by
        intro row single
        rw [List.mem_singleton.mp single]
        unfold SnapshotRepository.getRequestBySqlHash at found
        have matched := List.find?_some found
        simp only [decide_eq_true_eq] at matched
        exact List.mem_filter.mpr ⟨List.mem_of_find?_eq_some found, by simp [matched.1]⟩
      simp only [Option.bind_some, same.sqlPreviewMap stored, same.sqlTextMap stored]

theorem SameFrame.getSessionDetail (sessionId : Int) :
    Sessions.getSessionDetail other instanceId sessionId (some ref) =
      Sessions.getSessionDetail tables instanceId sessionId (some ref) := by
  have stored : ∀ row ∈ (SnapshotRepository.getRequestBySession tables ref.frame sessionId).toList,
      row ∈ tables.requests.filter (·.frame = ref.frame) := by
    intro row single
    obtain ⟨inside, matched⟩ := List.mem_filter.mp
      ((mem_sortAscending _ _).mp (List.mem_of_head? (Option.mem_toList.mp single)))
    exact List.mem_filter.mpr ⟨inside, by simpa using (of_decide_eq_true matched).1⟩
  simp only [Sessions.getSessionDetail, Option.some_or, Option.bind_eq_bind, Option.bind_some,
    same.getSession, same.getRequestBySession, same.sqlPreviewMap stored]

end FramePages

section InstancePages

def PageRequest.instanceId : PageRequest → Uuid
  | .dashboard instanceId _ => instanceId
  | .sqls instanceId _ => instanceId
  | .sql instanceId _ => instanceId
  | .sessions instanceId _ => instanceId
  | .session instanceId _ => instanceId
  | .replay instanceId _ => instanceId

structure SameInstance (instanceId : Uuid) (tables other : SnapshotTables) : Prop where
  frames : framesOf tables instanceId = framesOf other instanceId
  rows : ∀ frame : FrameKey, frame.instanceId = instanceId → SameFrame tables other frame

variable {F : Type} (floats : Floats F) {tables other : SnapshotTables} {instanceId : Uuid}
  (same : SameInstance instanceId tables other)
include same

theorem SameInstance.getLatestFrame :
    getLatestFrame other instanceId = getLatestFrame tables instanceId :=
  congrArg latestOf same.frames.symm

theorem SameInstance.getFrameBefore (time : Timestamp) (maxDelaySeconds : Int) :
    getFrameBefore other instanceId time maxDelaySeconds =
      getFrameBefore tables instanceId time maxDelaySeconds := by
  rw [SnapshotRepository.getFrameBefore, SnapshotRepository.getFrameBefore, same.frames]

theorem SameInstance.resourceTrends (ref : SnapshotFrame) (window : Nat) :
    resourceTrends floats other instanceId ref window =
      resourceTrends floats tables instanceId ref window := by
  simp only [Services.resourceTrends, getResourceFrameBefore, listResourceFrames, same.frames]

theorem SameInstance.sameFrame {ref : SnapshotFrame} (member : ref ∈ framesOf tables instanceId) :
    SameFrame tables other ref.frame :=
  same.rows ref.frame (mem_framesOf.mp member).2

theorem SameInstance.dashboardOf {ref : SnapshotFrame} (member : ref ∈ framesOf tables instanceId)
    (topLimit window : Nat) :
    dashboardOf floats other instanceId topLimit window ref =
      dashboardOf floats tables instanceId topLimit window ref := by
  rw [(same.sameFrame member).dashboardOf, same.resourceTrends]
  rfl

theorem SameInstance.replayOf {ref : SnapshotFrame} (member : ref ∈ framesOf tables instanceId)
    (time : Timestamp) :
    replayOf floats other instanceId time ref = replayOf floats tables instanceId time ref := by
  have own := same.sameFrame member
  simp only [Services.replayOf, same.dashboardOf floats member, own.sessionListOf, own.sqlListOf,
    own.blockingOf]

theorem SameInstance.routePage (request : PageRequest) (about : request.instanceId = instanceId) :
    routePage floats other request = routePage floats tables request := by
  have latest : ∀ {A : Type} {body body' : SnapshotFrame → A},
      (∀ ref ∈ framesOf tables instanceId, body' ref = body ref) →
      (SnapshotRepository.getLatestFrame tables instanceId).map body' =
        (SnapshotRepository.getLatestFrame tables instanceId).map body := by
    intro A body body' alike
    cases found : SnapshotRepository.getLatestFrame tables instanceId with
    | none => rfl
    | some ref => exact congrArg some (alike ref (mem_of_latestOf found))
  have reading : ∀ {read read' : SnapshotFrame → Except HttpError (Page F)},
      (∀ ref ∈ framesOf tables instanceId, read' ref = read ref) →
      ofLatestFrame other instanceId read' = ofLatestFrame tables instanceId read := by
    intro read read' alike
    rw [ofLatestFrame, ofLatestFrame, same.getLatestFrame]
    cases found : SnapshotRepository.getLatestFrame tables instanceId with
    | none => rfl
    | some ref => exact alike ref (mem_of_latestOf found)
  cases request with
  | dashboard id window =>
      obtain rfl : id = instanceId := about
      refine congrArg (orNotFound _ _) ?_
      rw [getDashboard, getDashboard, same.getLatestFrame]
      exact latest fun ref member => same.dashboardOf floats member topLimit window
  | sqls id query =>
      obtain rfl : id = instanceId := about
      refine congrArg (orNotFound _ _) ?_
      rw [Sqls.listSqls, Sqls.listSqls, same.getLatestFrame]
      exact latest fun ref member => (same.sameFrame member).sqlListOf id query
  | sql id hash =>
      obtain rfl : id = instanceId := about
      exact reading fun ref member =>
        congrArg (orNotFound _ _) ((same.sameFrame member).getSqlDetail id hash)
  | sessions id query =>
      obtain rfl : id = instanceId := about
      refine congrArg (orNotFound _ _) ?_
      rw [Sessions.listSessions, Sessions.listSessions, same.getLatestFrame]
      exact latest fun ref member => (same.sameFrame member).sessionListOf id query
  | session id sessionId =>
      obtain rfl : id = instanceId := about
      exact reading fun ref member =>
        congrArg (orNotFound _ _) ((same.sameFrame member).getSessionDetail id sessionId)
  | replay id time =>
      obtain rfl : id = instanceId := about
      refine congrArg (orNotFound _ _) ?_
      rw [getReplayFrame_eq, getReplayFrame_eq, same.getFrameBefore]
      cases chosen : SnapshotRepository.getFrameBefore tables id time maxDelaySeconds with
      | none => rfl
      | some ref => exact congrArg some (same.replayOf floats (getFrameBefore_spec chosen).1 time)

theorem SameInstance.getBlockingChains :
    getBlockingChains other instanceId none = getBlockingChains tables instanceId none := by
  rw [Services.getBlockingChains, Services.getBlockingChains, same.getLatestFrame]
  cases found : SnapshotRepository.getLatestFrame tables instanceId with
  | none => rfl
  | some ref => exact congrArg some ((same.sameFrame (mem_of_latestOf found)).blockingOf instanceId)

end InstancePages

end SqlMonitor.Services
