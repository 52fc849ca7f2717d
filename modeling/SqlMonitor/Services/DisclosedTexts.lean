import SqlMonitor.Services.RealtimeRoutes

set_option autoImplicit false

namespace SqlMonitor.Services

open SnapshotRepository

section Stores

/-- Two stores that are equal except in the full texts. -/
structure SameButTexts (tables other : SnapshotTables) : Prop where
  frames : other.frames = tables.frames
  sessions : other.sessions = tables.sessions
  requests : other.requests = tables.requests
  waits : other.waits = tables.waits
  blocking : other.blocking = tables.blocking
  sqlTexts : ∀ hash, (other.sqlTexts hash).map (fun row => { row with sqlText := "" }) =
    (tables.sqlTexts hash).map fun row => { row with sqlText := "" }

def withTexts (tables : SnapshotTables) (texts : String → String) : SnapshotTables :=
  { tables with
    sqlTexts := fun hash => (tables.sqlTexts hash).map fun row => { row with sqlText := texts hash } }

variable {tables other : SnapshotTables}

def textsOf (tables : SnapshotTables) (hash : String) : String :=
  ((tables.sqlTexts hash).map SqlText.sqlText).getD ""

theorem sameButTexts_withTexts (texts : String → String) :
    SameButTexts tables (withTexts tables texts) := by
  refine ⟨rfl, rfl, rfl, rfl, rfl, ?_⟩
  intro hash
  simp only [withTexts, Option.map_map]
  rfl

theorem SameButTexts.eq_withTexts (same : SameButTexts tables other) :
    other = withTexts tables (textsOf other) := by
  obtain ⟨frames, sessions, requests, waits, blocking, texts⟩ := same
  have sqlTexts : other.sqlTexts = (withTexts tables (textsOf other)).sqlTexts := by
    funext hash
    have here := texts hash
    simp only [withTexts, textsOf]
    cases found : other.sqlTexts hash with
    | none =>
        cases stored : tables.sqlTexts hash with
        | none => rfl
        | some row => simp [found, stored] at here
    | some text =>
        cases stored : tables.sqlTexts hash with
        | none => simp [found, stored] at here
        | some row =>
            simp only [found, stored, Option.map_some, Option.some.injEq, SqlText.mk.injEq] at here
            obtain ⟨hashes, normalized, -, preview, first, last⟩ := here
            cases text
            simp_all
  cases other with
  | mk frames' sessions' requests' waits' blocking' sqlTexts' =>
      subst frames sessions requests waits blocking
      exact congrArg (SnapshotTables.mk _ _ _ _ _) sqlTexts

end Stores

section Texts

variable (tables : SnapshotTables) (texts : String → String)

/-- Where the hash has a text, the other one is the same. -/
def SameTextAt (hash : String) : Prop :=
  ∀ row, tables.sqlTexts hash = some row → texts hash = row.sqlText

def unpreviewed (hash : String) : Bool :=
  (tables.sqlTexts hash).any fun row => (row.sqlPreview.filter (· ≠ "")).isNone

variable {tables texts} {asked : List String} {hash : String}

theorem readTexts_asked {column : SqlText → String} (nonempty : hash ≠ "") (member : hash ∈ asked) :
    readTexts tables column asked (some hash) = (tables.sqlTexts hash).map column := by
  simp [readTexts, Option.filter_some, nonempty, member]

theorem sqlTextMap_eq_iff (nonempty : hash ≠ "") (member : hash ∈ asked) :
    ((getSqlTextMap (withTexts tables texts) asked (some hash)).filter (· ≠ "") =
        (getSqlTextMap tables asked (some hash)).filter (· ≠ "")) ↔
      SameTextAt tables texts hash := by
  unfold getSqlTextMap SameTextAt
  rw [readTexts_asked nonempty member, readTexts_asked nonempty member]
  cases stored : tables.sqlTexts hash with
  | none => simp [withTexts, stored]
  | some row =>
      by_cases empty : row.sqlText = "" <;> by_cases empty' : texts hash = "" <;>
        simp [withTexts, stored, Option.filter_some, empty, empty', Ne.symm]

theorem sqlPreviewMap_eq_iff (nonempty : hash ≠ "") (member : hash ∈ asked) :
    getSqlPreviewMap (withTexts tables texts) asked (some hash) =
        getSqlPreviewMap tables asked (some hash) ↔
      (unpreviewed tables hash = true → SameTextAt tables texts hash) := by
  unfold getSqlPreviewMap SameTextAt unpreviewed
  rw [readTexts_asked nonempty member, readTexts_asked nonempty member]
  cases stored : tables.sqlTexts hash with
  | none => simp [withTexts, stored]
  | some row =>
      cases preview : row.sqlPreview.filter (· ≠ "") with
      | none =>
          simp only [withTexts, stored, Option.map_some, previewOrText, preview, Option.getD_none,
            Option.any_some, Option.isNone_none, Option.some.injEq, forall_eq', true_implies]
      | some text =>
          simp only [withTexts, stored, Option.map_some, previewOrText, preview, Option.getD_some,
            Option.any_some, Option.isNone_some, Bool.false_eq_true, false_implies]

theorem readTexts_unasked {column : SqlText → String} (tables : SnapshotTables)
    {sqlHash : Option String} (unasked : ∀ hash, sqlHash = some hash → hash ≠ "" → hash ∉ asked) :
    readTexts tables column asked sqlHash = none := by
  unfold readTexts
  rw [Option.bind_eq_none_iff]
  intro hash found
  obtain ⟨named, wanted⟩ := Option.filter_eq_some_iff.mp found
  obtain ⟨nonempty, member⟩ := of_decide_eq_true wanted
  exact absurd member (unasked hash named nonempty)

end Texts

section Items

variable {tables : SnapshotTables} {texts : String → String} {requests : List RequestSnapshot}

def requestHashes (request : RequestSnapshot) : List String :=
  (request.sqlHash.filter (· ≠ "")).toList

theorem requestTexts_eq_iff {request : RequestSnapshot} (member : request ∈ requests) :
    (sqlPreviewMap (withTexts tables texts) requests request.sqlHash =
          sqlPreviewMap tables requests request.sqlHash ∧
        (sqlTextMap (withTexts tables texts) requests request.sqlHash).filter (· ≠ "") =
          (sqlTextMap tables requests request.sqlHash).filter (· ≠ "")) ↔
      ∀ hash ∈ requestHashes request, SameTextAt tables texts hash := by
  cases hashed : request.sqlHash.filter (· ≠ "") with
  | none =>
      have unasked : ∀ hash, request.sqlHash = some hash → hash ≠ "" →
          hash ∉ sqlHashesOf requests := by
        intro hash named nonempty
        simp [named, Option.filter_some, nonempty] at hashed
      simp only [sqlPreviewMap, sqlTextMap, getSqlPreviewMap, getSqlTextMap,
        readTexts_unasked _ unasked, requestHashes, hashed, Option.toList_none, List.not_mem_nil,
        false_implies, implies_true, and_self]
  | some hash =>
      obtain ⟨named, nonempty⟩ := Option.filter_eq_some_iff.mp hashed
      have nonempty : hash ≠ "" := of_decide_eq_true nonempty
      have asked : hash ∈ sqlHashesOf requests := mem_sqlHashesOf.mpr ⟨request, member, named, nonempty⟩
      rw [named, sqlPreviewMap, sqlPreviewMap, sqlTextMap, sqlTextMap,
        sqlTextMap_eq_iff nonempty asked, sqlPreviewMap_eq_iff nonempty asked]
      simp only [requestHashes, hashed, Option.toList_some, List.forall_mem_singleton]
      constructor
      · exact And.right
      · intro same
        exact ⟨fun _ => same, same⟩

theorem toTopSql_eq_iff {request : RequestSnapshot} (member : request ∈ requests) :
    toTopSql (sqlPreviewMap (withTexts tables texts) requests)
          (sqlTextMap (withTexts tables texts) requests) request =
        toTopSql (sqlPreviewMap tables requests) (sqlTextMap tables requests) request ↔
      ∀ hash ∈ requestHashes request, SameTextAt tables texts hash := by
  rw [← requestTexts_eq_iff member]
  simp [toTopSql]

theorem sqlItem_eq_iff {request : RequestSnapshot} (member : request ∈ requests) :
    Sqls.toItem (sqlPreviewMap (withTexts tables texts) requests)
          (sqlTextMap (withTexts tables texts) requests) request =
        Sqls.toItem (sqlPreviewMap tables requests) (sqlTextMap tables requests) request ↔
      ∀ hash ∈ requestHashes request, SameTextAt tables texts hash := by
  rw [← requestTexts_eq_iff member]
  simp [Sqls.toItem]

def shownHash (pair : SessionSnapshot × Option RequestSnapshot) : Option String :=
  (pair.1.currentSqlHash.filter (· ≠ "")).or (pair.2.bind RequestSnapshot.sqlHash)

def sessionHashes (tables : SnapshotTables) (requests : List RequestSnapshot)
    (pair : SessionSnapshot × Option RequestSnapshot) : List String :=
  ((shownHash pair).filter fun hash =>
    hash ≠ "" ∧ hash ∈ sqlHashesOf requests ∧ unpreviewed tables hash).toList

theorem sessionItem_eq_iff (pair : SessionSnapshot × Option RequestSnapshot) :
    Sessions.toItem (sqlPreviewMap (withTexts tables texts) requests) pair.1 pair.2 =
        Sessions.toItem (sqlPreviewMap tables requests) pair.1 pair.2 ↔
      ∀ hash ∈ sessionHashes tables requests pair, SameTextAt tables texts hash := by
  have preview : Sessions.toItem (sqlPreviewMap (withTexts tables texts) requests) pair.1 pair.2 =
        Sessions.toItem (sqlPreviewMap tables requests) pair.1 pair.2 ↔
      getSqlPreviewMap (withTexts tables texts) (sqlHashesOf requests) (shownHash pair) =
        getSqlPreviewMap tables (sqlHashesOf requests) (shownHash pair) := by
    simp [Sessions.toItem, shownHash, sqlPreviewMap]
  rw [preview]
  unfold sessionHashes
  cases shown : shownHash pair with
  | none => simp [getSqlPreviewMap, readTexts]
  | some hash =>
      by_cases asked : hash ≠ "" ∧ hash ∈ sqlHashesOf requests
      · rw [sqlPreviewMap_eq_iff asked.1 asked.2]
        by_cases bare : unpreviewed tables hash = true
        · simp [Option.filter_some, asked, bare]
        · simp [Option.filter_some, asked, bare]
      · have unasked : ∀ other, some hash = some other → other ≠ "" →
            other ∉ sqlHashesOf requests := by
          intro other same nonempty member
          obtain rfl := Option.some.inj same
          exact asked ⟨nonempty, member⟩
        have hidden : ¬ (hash ≠ "" ∧ hash ∈ sqlHashesOf requests ∧ unpreviewed tables hash) :=
          fun all => asked ⟨all.1, all.2.1⟩
        simp only [getSqlPreviewMap, readTexts_unasked _ unasked, Option.filter_some, hidden,
          decide_false, Bool.false_eq_true, if_false, Option.toList_none, List.not_mem_nil,
          false_implies, implies_true]

theorem map_items_eq_iff {R A : Type} {item item' : R → A} {hashes : R → List String} {shown : List R}
    (alike : ∀ row ∈ shown, item' row = item row ↔ ∀ hash ∈ hashes row, SameTextAt tables texts hash) :
    shown.map item' = shown.map item ↔
      ∀ hash ∈ shown.flatMap hashes, SameTextAt tables texts hash := by
  rw [List.map_inj_left]
  constructor
  · intro same hash member
    obtain ⟨row, listed, inside⟩ := List.mem_flatMap.mp member
    exact (alike row listed).mp (same row listed) hash inside
  · intro same row listed
    refine (alike row listed).mpr ?_
    intro hash inside
    exact same hash (List.mem_flatMap.mpr ⟨row, listed, inside⟩)

end Items

section Pages

variable (tables : SnapshotTables) (ref : SnapshotFrame)

def topCpuRequests : List RequestSnapshot :=
  topBy topLimit (fun request => request.cpuTimeMs.getD 0) (listRequests tables ref.frame)

def topIoRequests : List RequestSnapshot :=
  topBy topLimit (fun request => coalesce request.logicalReads request.reads 0)
    (listRequests tables ref.frame)

def shownRequests (query : SqlQuery) : List RequestSnapshot :=
  pageOf query.page query.pageSize
    (sortedBy query.sortOrder (fun request => sortValue (query.sortBy.column request))
      (listRequests tables ref.frame))

def shownSessions (query : SessionQuery) : List (SessionSnapshot × Option RequestSnapshot) :=
  pageOf query.page query.pageSize
    (sortedBy query.sortOrder (fun pair => sortValue (query.sortBy.column pair.1))
      (Sessions.filtered query (SnapshotRepository.listSessions tables ref.frame)
        (listRequests tables ref.frame)))

def dashboardHashes : List String :=
  (topCpuRequests tables ref ++ topIoRequests tables ref).flatMap requestHashes

def sqlListHashes (query : SqlQuery) : List String :=
  (shownRequests tables ref query).flatMap requestHashes

def sessionListHashes (query : SessionQuery) : List String :=
  (shownSessions tables ref query).flatMap (sessionHashes tables (listRequests tables ref.frame))

def replayHashes : List String :=
  dashboardHashes tables ref ++ sqlListHashes tables ref replaySqlPage ++
    sessionListHashes tables ref replayPage

variable {tables ref} {texts : String → String} {F : Type} {floats : Floats F} {instanceId : Uuid}

theorem mem_of_mem_topBy {A : Type} {key : A → Int} {rows : List A} {row : A} {limit : Nat}
    (member : row ∈ topBy limit key rows) : row ∈ rows :=
  (mem_sortDescending _ _).mp (List.mem_of_mem_take member)

theorem mem_of_mem_shownRequests {query : SqlQuery} {request : RequestSnapshot}
    (member : request ∈ shownRequests tables ref query) : request ∈ listRequests tables ref.frame :=
  (sortedBy_perm _ _ _).mem_iff.mp (List.mem_of_mem_drop (List.mem_of_mem_take member))

theorem topSqls_eq_iff {shown : List RequestSnapshot}
    (within : ∀ request ∈ shown, request ∈ listRequests tables ref.frame) :
    shown.map (toTopSql (sqlPreviewMap (withTexts tables texts) (listRequests tables ref.frame))
          (sqlTextMap (withTexts tables texts) (listRequests tables ref.frame))) =
        shown.map (toTopSql (sqlPreviewMap tables (listRequests tables ref.frame))
          (sqlTextMap tables (listRequests tables ref.frame))) ↔
      ∀ hash ∈ shown.flatMap requestHashes, SameTextAt tables texts hash :=
  map_items_eq_iff fun request member => toTopSql_eq_iff (within request member)

theorem dashboardOf_eq_iff (window : Nat) :
    dashboardOf floats (withTexts tables texts) instanceId topLimit window ref =
        dashboardOf floats tables instanceId topLimit window ref ↔
      ∀ hash ∈ dashboardHashes tables ref, SameTextAt tables texts hash := by
  have parts : dashboardOf floats (withTexts tables texts) instanceId topLimit window ref =
        dashboardOf floats tables instanceId topLimit window ref ↔
      (dashboardOf floats (withTexts tables texts) instanceId topLimit window ref).topCpuSqls =
          (dashboardOf floats tables instanceId topLimit window ref).topCpuSqls ∧
        (dashboardOf floats (withTexts tables texts) instanceId topLimit window ref).topIoSqls =
          (dashboardOf floats tables instanceId topLimit window ref).topIoSqls := by
    refine ⟨fun same => by rw [same]; exact ⟨rfl, rfl⟩, ?_⟩
    rintro ⟨cpu, io⟩
    exact congrArg₂ (DashboardOut.mk _ _ _ _ _ _ _) cpu io
  have cpu := @topSqls_eq_iff tables ref texts (topCpuRequests tables ref) fun request member =>
    mem_of_mem_topBy member
  have io := @topSqls_eq_iff tables ref texts (topIoRequests tables ref) fun request member =>
    mem_of_mem_topBy member
  rw [parts, dashboardHashes, List.flatMap_append, List.forall_mem_append, ← cpu, ← io]
  rfl

theorem sqlListOf_eq_iff (query : SqlQuery) :
    Sqls.sqlListOf (withTexts tables texts) instanceId query ref =
        Sqls.sqlListOf tables instanceId query ref ↔
      ∀ hash ∈ sqlListHashes tables ref query, SameTextAt tables texts hash := by
  have items : Sqls.sqlListOf (withTexts tables texts) instanceId query ref =
        Sqls.sqlListOf tables instanceId query ref ↔
      (Sqls.sqlListOf (withTexts tables texts) instanceId query ref).items =
        (Sqls.sqlListOf tables instanceId query ref).items :=
    ⟨congrArg _, fun same => congrArg (SqlListOut.mk _ _ _ _ _ _) same⟩
  rw [items, sqlListHashes]
  exact map_items_eq_iff fun request member => sqlItem_eq_iff (mem_of_mem_shownRequests member)

theorem sessionListOf_eq_iff (query : SessionQuery) :
    Sessions.sessionListOf (withTexts tables texts) instanceId query ref =
        Sessions.sessionListOf tables instanceId query ref ↔
      ∀ hash ∈ sessionListHashes tables ref query, SameTextAt tables texts hash := by
  have items : Sessions.sessionListOf (withTexts tables texts) instanceId query ref =
        Sessions.sessionListOf tables instanceId query ref ↔
      (Sessions.sessionListOf (withTexts tables texts) instanceId query ref).items =
        (Sessions.sessionListOf tables instanceId query ref).items :=
    ⟨congrArg _, fun same => congrArg (SessionListOut.mk _ _ _ _ _ _) same⟩
  rw [items, sessionListHashes]
  exact map_items_eq_iff fun pair _ => sessionItem_eq_iff pair

theorem replayOf_eq_iff (requestedTime : Timestamp) :
    replayOf floats (withTexts tables texts) instanceId requestedTime ref =
        replayOf floats tables instanceId requestedTime ref ↔
      ∀ hash ∈ replayHashes tables ref, SameTextAt tables texts hash := by
  have parts : replayOf floats (withTexts tables texts) instanceId requestedTime ref =
        replayOf floats tables instanceId requestedTime ref ↔
      (dashboardOf floats (withTexts tables texts) instanceId topLimit metricsWindowMinutes ref =
            dashboardOf floats tables instanceId topLimit metricsWindowMinutes ref ∧
          Sqls.sqlListOf (withTexts tables texts) instanceId replaySqlPage ref =
            Sqls.sqlListOf tables instanceId replaySqlPage ref) ∧
        Sessions.sessionListOf (withTexts tables texts) instanceId replayPage ref =
          Sessions.sessionListOf tables instanceId replayPage ref := by
    constructor
    · intro same
      refine ⟨⟨congrArg ReplayFrameOut.dashboard same, ?_⟩, ?_⟩
      · exact congrArg (SqlListOut.mk _ _ _ _ _ _) (congrArg ReplayFrameOut.sqls same)
      · exact congrArg (SessionListOut.mk _ _ _ _ _ _) (congrArg ReplayFrameOut.sessions same)
    · rintro ⟨⟨dashboard, sqls⟩, sessions⟩
      simp only [replayOf, dashboard, sqls, sessions]
      rfl
  rw [parts, dashboardOf_eq_iff, sqlListOf_eq_iff, sessionListOf_eq_iff, replayHashes,
    List.forall_mem_append, List.forall_mem_append]

end Pages

section Disclosed

variable (tables : SnapshotTables)

def ofFrame (frame : Option SnapshotFrame) (hashes : SnapshotFrame → List String) : List String :=
  (frame.map hashes).getD []

def sqlHashesAt (sqlHash : String) (ref : SnapshotFrame) : List String :=
  ((getRequestBySqlHash tables ref.frame sqlHash).map requestHashes).getD []

def sessionHashesAt (sessionId : Int) (ref : SnapshotFrame) : List String :=
  let request := getRequestBySession tables ref.frame sessionId
  ((getSession tables ref.frame sessionId).map fun session =>
    sessionHashes tables request.toList (session, request)).getD []

/-- The hashes of the texts that the answer to a request shows. -/
def disclosedHashes : PageRequest → List String
  | .dashboard instanceId _ => ofFrame (getLatestFrame tables instanceId) (dashboardHashes tables)
  | .sqls instanceId query =>
    ofFrame (getLatestFrame tables instanceId) fun ref => sqlListHashes tables ref query
  | .sql instanceId sqlHash => ofFrame (getLatestFrame tables instanceId) (sqlHashesAt tables sqlHash)
  | .sessions instanceId query =>
    ofFrame (getLatestFrame tables instanceId) fun ref => sessionListHashes tables ref query
  | .session instanceId sessionId =>
    ofFrame (getLatestFrame tables instanceId) (sessionHashesAt tables sessionId)
  | .replay instanceId requestedTime =>
    ofFrame (getFrameBefore tables instanceId requestedTime maxDelaySeconds) (replayHashes tables)

variable {tables} {texts : String → String} {F : Type} {floats : Floats F}

theorem orNotFound_eq_iff {A : Type} {error : HttpError} {page : A → Page F}
    (injective : Function.Injective page) {frame : Option SnapshotFrame} {body body' : SnapshotFrame → A}
    {hashes : SnapshotFrame → List String}
    (alike : ∀ ref, body' ref = body ref ↔ ∀ hash ∈ hashes ref, SameTextAt tables texts hash) :
    orNotFound error page (frame.map body') = orNotFound error page (frame.map body) ↔
      ∀ hash ∈ ofFrame frame hashes, SameTextAt tables texts hash := by
  cases frame with
  | none => simp [ofFrame, orNotFound]
  | some ref => simp [ofFrame, orNotFound, injective.eq_iff, alike ref]

theorem sqlDetail_eq_iff (instanceId : Uuid) (sqlHash : String) (ref : SnapshotFrame) :
    orNotFound (F := F) sqlNotFound .sql
          (Sqls.getSqlDetail (withTexts tables texts) instanceId sqlHash (some ref)) =
        orNotFound sqlNotFound .sql (Sqls.getSqlDetail tables instanceId sqlHash (some ref)) ↔
      ∀ hash ∈ sqlHashesAt tables sqlHash ref, SameTextAt tables texts hash := by
  have found : getRequestBySqlHash (withTexts tables texts) ref.frame sqlHash =
      getRequestBySqlHash tables ref.frame sqlHash := rfl
  unfold Sqls.getSqlDetail sqlHashesAt
  cases listed : getRequestBySqlHash tables ref.frame sqlHash with
  | none => simp [found, listed, orNotFound]
  | some request =>
      have alike := @sqlItem_eq_iff tables texts [request] request (List.mem_singleton.mpr rfl)
      simp [found, listed, orNotFound, alike]

theorem sessionDetail_eq_iff (instanceId : Uuid) (sessionId : Int) (ref : SnapshotFrame) :
    orNotFound (F := F) sessionNotFound .session
          (Sessions.getSessionDetail (withTexts tables texts) instanceId sessionId (some ref)) =
        orNotFound sessionNotFound .session
          (Sessions.getSessionDetail tables instanceId sessionId (some ref)) ↔
      ∀ hash ∈ sessionHashesAt tables sessionId ref, SameTextAt tables texts hash := by
  have found : getSession (withTexts tables texts) ref.frame sessionId =
      getSession tables ref.frame sessionId := rfl
  have requested : getRequestBySession (withTexts tables texts) ref.frame sessionId =
      getRequestBySession tables ref.frame sessionId := rfl
  unfold Sessions.getSessionDetail sessionHashesAt
  cases listed : getSession tables ref.frame sessionId with
  | none => simp [found, listed, orNotFound]
  | some session =>
      have alike := @sessionItem_eq_iff tables texts
        (getRequestBySession tables ref.frame sessionId).toList
        (session, getRequestBySession tables ref.frame sessionId)
      simp [found, requested, listed, orNotFound, alike]

theorem ofLatestFrame_eq_iff {instanceId : Uuid}
    {read read' : SnapshotFrame → Except HttpError (Page F)} {hashes : SnapshotFrame → List String}
    (alike : ∀ ref, read' ref = read ref ↔ ∀ hash ∈ hashes ref, SameTextAt tables texts hash) :
    ofLatestFrame (withTexts tables texts) instanceId read' = ofLatestFrame tables instanceId read ↔
      ∀ hash ∈ ofFrame (getLatestFrame tables instanceId) hashes, SameTextAt tables texts hash := by
  have latest : getLatestFrame (withTexts tables texts) instanceId =
      getLatestFrame tables instanceId := rfl
  unfold ofLatestFrame
  rw [latest]
  cases getLatestFrame tables instanceId with
  | none => simp [ofFrame]
  | some ref => simp [ofFrame, alike ref]

theorem routePage_eq_iff (request : PageRequest) :
    routePage floats (withTexts tables texts) request = routePage floats tables request ↔
      ∀ hash ∈ disclosedHashes tables request, SameTextAt tables texts hash := by
  cases request with
  | dashboard instanceId window =>
      exact orNotFound_eq_iff (fun _ _ => Page.dashboard.inj) fun _ => dashboardOf_eq_iff window
  | sqls instanceId query =>
      exact orNotFound_eq_iff (fun _ _ => Page.sqls.inj) fun _ => sqlListOf_eq_iff query
  | sql instanceId sqlHash => exact ofLatestFrame_eq_iff (sqlDetail_eq_iff instanceId sqlHash)
  | sessions instanceId query =>
      exact orNotFound_eq_iff (fun _ _ => Page.sessions.inj) fun _ => sessionListOf_eq_iff query
  | session instanceId sessionId =>
      exact ofLatestFrame_eq_iff (sessionDetail_eq_iff instanceId sessionId)
  | replay instanceId requestedTime =>
      simp only [routePage, getReplayFrame_eq]
      exact orNotFound_eq_iff (fun _ _ => Page.replay.inj) fun _ => replayOf_eq_iff requestedTime

end Disclosed

section Viewers

variable {F : Type} {floats : Floats F} {tables other : SnapshotTables} {users : UserTable}
  {userId : Uuid} {user : UserRow}

theorem sameTextAt_iff (same : SameButTexts tables other) (hash : String) :
    SameTextAt tables (textsOf other) hash ↔ tables.sqlTexts hash = other.sqlTexts hash := by
  have stored : other.sqlTexts hash =
      (tables.sqlTexts hash).map fun row => { row with sqlText := textsOf other hash } :=
    congrFun (congrArg SnapshotTables.sqlTexts same.eq_withTexts) hash
  rw [stored]
  unfold SameTextAt
  cases tables.sqlTexts hash with
  | none => simp
  | some row =>
      simp only [Option.some.injEq, forall_eq', Option.map_some]
      constructor
      · intro text
        rw [text]
      · intro row'
        exact (congrArg SqlText.sqlText row').symm

theorem getPage_of_active (known : activeUser users userId = .ok user) (request : PageRequest) :
    getPage floats tables users userId request = routePage floats tables request := by
  rw [getPage, known]
  rfl

theorem texts_hidden_iff (known : activeUser users userId = .ok user) (request : PageRequest) :
    (∀ other, SameButTexts tables other →
      (getPage floats other users userId request = getPage floats tables users userId request ↔
        ∀ hash ∈ disclosedHashes tables request, tables.sqlTexts hash = other.sqlTexts hash)) ∧
      ((∀ other, SameButTexts tables other →
          getPage floats other users userId request = getPage floats tables users userId request) ↔
        ∀ hash ∈ disclosedHashes tables request, tables.sqlTexts hash = none) := by
  have each : ∀ other, SameButTexts tables other →
      (getPage floats other users userId request = getPage floats tables users userId request ↔
        ∀ hash ∈ disclosedHashes tables request, tables.sqlTexts hash = other.sqlTexts hash) := by
    intro other same
    rw [getPage_of_active known, getPage_of_active known]
    have alike := @routePage_eq_iff tables (textsOf other) F floats request
    rw [← same.eq_withTexts] at alike
    rw [alike]
    exact forall₂_congr fun hash _ => sameTextAt_iff same hash
  refine ⟨each, ?_, ?_⟩
  · intro hidden hash shown
    -- Any stored text can be replaced by a longer one.
    have longer := @sameButTexts_withTexts tables fun hash => textsOf tables hash ++ "."
    have agree := (each _ longer).mp (hidden _ longer) hash shown
    cases stored : tables.sqlTexts hash with
    | none => rfl
    | some row =>
        simp only [withTexts, stored, Option.map_some, Option.some.injEq] at agree
        have length := congrArg String.length (congrArg SqlText.sqlText agree)
        simp [textsOf, stored] at length
  · intro nothing other same
    refine (each other same).mpr ?_
    intro hash shown
    have here := same.sqlTexts hash
    rw [nothing hash shown] at here
    rw [nothing hash shown, Option.map_eq_none_iff.mp here]

end Viewers

section Salaries

def salaryRequest : RequestSnapshot where
  frame := ⟨1, 7, 0⟩
  sessionId := some 60
  requestId := some 0
  databaseName := some "payroll"
  status := some "running"
  command := some "SELECT"
  startTime := none
  durationMs := some 5
  cpuTimeMs := some 5
  totalElapsedTimeMs := some 5
  reads := none
  writes := none
  logicalReads := none
  rowCount := none
  waitType := none
  waitTimeMs := none
  blockingSessionId := none
  percentComplete := none
  sqlHash := some "f1"
  normalizedSqlHash := some "f2"
  planHandle := none
  statementStartOffset := none
  statementEndOffset := none

def salarySession : SessionSnapshot where
  frame := ⟨1, 7, 0⟩
  sessionId := some 60
  loginName := some "payroll"
  hostName := none
  programName := none
  databaseName := some "payroll"
  status := some "running"
  openTransactionCount := 0
  loginTime := none
  lastRequestStartTime := none
  lastRequestEndTime := none
  cpuTime := none
  reads := none
  writes := none
  logicalReads := none
  currentSqlHash := some "f1"

-- The preview ends before the value in which the texts differ.
def salaryStore (text : String) : SnapshotTables where
  frames := [SnapshotTables.emptyFrame 1 7 0]
  sessions := [salarySession]
  requests := [salaryRequest]
  waits := []
  blocking := []
  sqlTexts := fun hash =>
    if hash = "f1" then some ⟨"f1", some "f2", text, some "UPDATE staff SET salary = ...", 0, 0⟩
    else none

def raisedSalary : SnapshotTables := salaryStore "UPDATE staff SET salary = 9000"

def cutSalary : SnapshotTables := salaryStore "UPDATE staff SET salary = 3000"

theorem raised_cut : SameButTexts raisedSalary cutSalary := by
  refine ⟨rfl, rfl, rfl, rfl, rfl, ?_⟩
  intro hash
  by_cases same : hash = "f1"
  · simp [raisedSalary, cutSalary, salaryStore, same]
  · simp [raisedSalary, cutSalary, salaryStore, same]

def viewers : UserTable := .ofList [(3, ⟨⟨3, "eve", none, .viewer⟩, "", .active⟩)]

def askedBy (tables : SnapshotTables) (request : PageRequest) : Except HttpError (Page Rat) :=
  getPage rationalFloats tables viewers 3 request

def listedTexts : Except HttpError (Page Rat) → List (Option String)
  | .ok (.sqls body) => body.items.map SqlListItem.sqlText
  | _ => []

theorem texts_hidden_iff_sessions :
    askedBy cutSalary (.sessions 7 {}) = askedBy raisedSalary (.sessions 7 {}) := by
  have hidden := @texts_hidden_iff Rat rationalFloats raisedSalary viewers 3 _ rfl (.sessions 7 {})
  refine (hidden.1 cutSalary raised_cut).mpr ?_
  have nothing : disclosedHashes raisedSalary (.sessions 7 {}) = [] := by decide +kernel
  simp [nothing]

theorem viewer_reads_text :
    SameButTexts raisedSalary cutSalary ∧ askedBy cutSalary (.sqls 7 {}) ≠ askedBy raisedSalary (.sqls 7 {}) := by
  refine ⟨raised_cut, ?_⟩
  intro same
  have raised : listedTexts (askedBy raisedSalary (.sqls 7 {})) = [some "UPDATE staff SET salary = 9000"] := by
    decide +kernel
  have shown : listedTexts (askedBy cutSalary (.sqls 7 {})) = [some "UPDATE staff SET salary = 3000"] := by
    decide +kernel
  rw [same, raised] at shown
  simp at shown

end Salaries

end SqlMonitor.Services
