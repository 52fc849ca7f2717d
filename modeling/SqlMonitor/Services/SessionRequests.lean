import SqlMonitor.Services.SessionPages

set_option autoImplicit false

namespace SqlMonitor.Services

open SnapshotRepository

section Representatives

variable (tables : SnapshotTables) (frame : FrameKey) (sessionId : Int)

theorem getRequestBySession_eq_head? :
    getRequestBySession tables frame sessionId =
      (requestsOf tables frame (some sessionId)).head? := by
  have filtered : (tables.requests.filter (·.frame = frame)).filter
      (·.sessionId = some sessionId) =
      tables.requests.filter fun row => row.frame = frame ∧ row.sessionId = some sessionId := by
    rw [List.filter_filter]
    refine List.filter_congr fun row _ => ?_
    simp [Bool.and_comm]
  have agree : ∀ row ∈ tables.requests.filter fun row => row.frame = frame ∧
      row.sessionId = some sessionId,
      ∀ later ∈ tables.requests.filter fun row => row.frame = frame ∧
        row.sessionId = some sessionId,
      toLex (nullsLast row.sessionId, nullsLast row.requestId) ≤
          toLex (nullsLast later.sessionId, nullsLast later.requestId) ↔
        nullsLast row.requestId ≤ nullsLast later.requestId := by
    intro row member later inside
    have here := (of_decide_eq_true (List.mem_filter.mp member).2).2
    have there := (of_decide_eq_true (List.mem_filter.mp inside).2).2
    simp [here, there, Prod.Lex.toLex_le_toLex]
  rw [getRequestBySession, requestsOf, listRequests, filter_sortAscending, filtered,
    sortAscending_congr _ agree]

end Representatives

section Items

structure SessionColumns where
  loginName : Option String
  hostName : Option String
  programName : Option String
  databaseName : Option String
  status : Option String
  openTransactionCount : Int
  cpuTime : Option Int
  reads : Option Int
  writes : Option Int
  logicalReads : Option Int
deriving DecidableEq

def sessionColumns (session : SessionSnapshot) : SessionColumns where
  loginName := session.loginName
  hostName := session.hostName
  programName := session.programName
  databaseName := session.databaseName
  status := session.status
  openTransactionCount := session.openTransactionCount
  cpuTime := session.cpuTime
  reads := session.reads
  writes := session.writes
  logicalReads := session.logicalReads

def ownHash (session : SessionSnapshot) : Option String := session.currentSqlHash.filter (· ≠ "")

-- `current_sql_hash or request_sql_hash`
def hashOf (session : SessionSnapshot) (request : Option RequestSnapshot) : Option String :=
  (ownHash session).or (request.bind RequestSnapshot.sqlHash)

def waitColumns (request : Option RequestSnapshot) : Option String × Option Int × Option Int :=
  (request.bind RequestSnapshot.waitType, request.bind RequestSnapshot.waitTimeMs,
    request.bind RequestSnapshot.blockingSessionId)

variable {previewMap otherMap : Option String → Option String} {session other : SessionSnapshot}
  {request first : Option RequestSnapshot}

theorem hashOf_eq_iff : hashOf session request = hashOf session first ↔
    ownHash session ≠ none ∨
      request.bind RequestSnapshot.sqlHash = first.bind RequestSnapshot.sqlHash := by
  cases own : ownHash session with
  | none => simp [hashOf, own]
  | some hash => simp [hashOf, own]

theorem toItem_eq_iff (same : session.sessionId = other.sessionId) :
    Sessions.toItem previewMap session request = Sessions.toItem otherMap other first ↔
      sessionColumns session = sessionColumns other ∧ waitColumns request = waitColumns first ∧
        hashOf session request = hashOf other first ∧
        previewMap (hashOf session request) = otherMap (hashOf other first) := by
  simp only [Sessions.toItem, sessionColumns, waitColumns, hashOf, ownHash,
    SessionListItem.mk.injEq, SessionColumns.mk.injEq, Prod.mk.injEq, same, true_and, and_assoc]

end Items

section Previews

variable {tables : SnapshotTables} {requests : List RequestSnapshot}
  {first : Option RequestSnapshot}

theorem mem_sqlHashesOf_toList {hash : String} : hash ∈ sqlHashesOf first.toList ↔
    first.bind RequestSnapshot.sqlHash = some hash ∧ hash ≠ "" := by
  cases first with
  | none => simp [mem_sqlHashesOf]
  | some request => simp [mem_sqlHashesOf]

theorem ne_empty_of_mem_sqlHashesOf {hash : String} (asked : hash ∈ sqlHashesOf requests) :
    hash ≠ "" := by
  obtain ⟨request, -, -, named⟩ := mem_sqlHashesOf.mp asked
  exact named

theorem sqlPreviewMap_some (hash : String) :
    sqlPreviewMap tables requests (some hash) =
      if hash ∈ sqlHashesOf requests then (tables.sqlTexts hash).map previewOrText else none := by
  rw [sqlPreviewMap, getSqlPreviewMap, readTexts, Option.filter_some]
  by_cases asked : hash ∈ sqlHashesOf requests
  · have named := ne_empty_of_mem_sqlHashesOf asked
    simp [asked, named]
  · simp [asked]

theorem preview_eq_iff (among : ∀ request, first = some request → request ∈ requests)
    (hash : Option String) :
    sqlPreviewMap tables requests hash = sqlPreviewMap tables first.toList hash ↔
      ∀ shown, hash = some shown → shown ∈ sqlHashesOf requests →
        tables.sqlTexts shown ≠ none → first.bind RequestSnapshot.sqlHash = some shown := by
  cases hash with
  | none => exact iff_of_true rfl (by simp)
  | some hash =>
      simp only [Option.some.injEq, forall_eq', sqlPreviewMap_some, mem_sqlHashesOf_toList]
      by_cases asked : hash ∈ sqlHashesOf requests
      · have named := ne_empty_of_mem_sqlHashesOf asked
        by_cases own : first.bind RequestSnapshot.sqlHash = some hash
        · simp [asked, named, own]
        · simp [asked, own]
      · have apart : first.bind RequestSnapshot.sqlHash ≠ some hash ∨ hash = "" := by
          by_contra both
          simp only [not_or, not_not] at both
          obtain ⟨request, chosen, found⟩ := Option.bind_eq_some_iff.mp both.1
          exact asked (mem_sqlHashesOf.mpr ⟨request, among request chosen, found, both.2⟩)
        rcases apart with other | empty
        · simp [asked, other]
        · subst empty
          simp [asked]

end Previews

section Agreement

variable {tables : SnapshotTables} {instanceId : Uuid} {frame : Option SnapshotFrame}
  {ref : SnapshotFrame} {sessionId : Int} {session : SessionSnapshot}

/-- All rows of the session agree with the one found, and its last request with its first. -/
structure RowsAgree (tables : SnapshotTables) (frame : FrameKey) (sessionId : Int)
    (session : SessionSnapshot) (first last : Option RequestSnapshot) : Prop where
  columns : ∀ row ∈ frameSessions tables frame, row.sessionId = some sessionId →
    sessionColumns row = sessionColumns session ∧ hashOf row last = hashOf session last
  waits : waitColumns last = waitColumns first
  hashes : ownHash session ≠ none ∨
    last.bind RequestSnapshot.sqlHash = first.bind RequestSnapshot.sqlHash
  previews : ∀ shown, hashOf session first = some shown →
    shown ∈ sqlHashesOf (listRequests tables frame) → tables.sqlTexts shown ≠ none →
    first.bind RequestSnapshot.sqlHash = some shown

def listedItem (tables : SnapshotTables) (frame : FrameKey) (row : SessionSnapshot) :
    SessionListItem :=
  Sessions.toItem (sqlPreviewMap tables (listRequests tables frame)) row
    (requestsOf tables frame row.sessionId).getLast?

theorem mem_listed_iff {query : SessionQuery} {listed : SessionListOut}
    (found : frame.or (getLatestFrame tables instanceId) = some ref)
    (answered : Sessions.listSessions tables instanceId query frame = some listed)
    {item : SessionListItem} (member : item ∈ listed.items) :
    ∃ row ∈ frameSessions tables ref.frame, item = listedItem tables ref.frame row := by
  rw [Sessions.listSessions, found, Option.map_some, Option.some.injEq] at answered
  subst answered
  obtain ⟨pair, inside, rfl⟩ := List.mem_map.mp member
  have kept : pair ∈ Sessions.filtered query (listSessions tables ref.frame)
      (listRequests tables ref.frame) :=
    (sortedBy_perm _ _ _).mem_iff.mp (List.mem_of_mem_drop (List.mem_of_mem_take inside))
  obtain ⟨row, stored, rfl⟩ := List.mem_map.mp (List.mem_of_mem_filter kept)
  refine ⟨row, (mem_sortAscending _ _).mp stored, ?_⟩
  rw [listedItem, requestsOf, ← requestOf_eq_getLast?]

theorem exists_listed (found : frame.or (getLatestFrame tables instanceId) = some ref)
    {row : SessionSnapshot} (member : row ∈ frameSessions tables ref.frame) :
    ∃ query listed, Sessions.listSessions tables instanceId query frame = some listed ∧
      listedItem tables ref.frame row ∈ listed.items := by
  let query : SessionQuery := { pageSize := (listSessions tables ref.frame).length }
  have unfiltered : Sessions.filtered query (listSessions tables ref.frame)
      (listRequests tables ref.frame) = (listSessions tables ref.frame).map fun session =>
        (session, Sessions.requestOf (listRequests tables ref.frame) session) := by
    refine List.filter_eq_self.mpr fun pair _ => ?_
    simp [query, Sessions.kept]
  have all : (sortedSessions tables ref query).Perm (Sessions.filtered query
      (listSessions tables ref.frame) (listRequests tables ref.frame)) := sortedBy_perm _ _ _
  refine ⟨query, _, by rw [Sessions.listSessions, found, Option.map_some], ?_⟩
  refine List.mem_map.mpr ⟨(row, Sessions.requestOf (listRequests tables ref.frame) row), ?_, ?_⟩
  · have one : (sortedSessions tables ref query).length ≤ query.pageSize := by
      rw [all.length_eq, unfiltered, List.length_map]
    rw [← sortedSessions, pageOf_first, List.take_of_length_le one]
    refine all.mem_iff.mpr ?_
    rw [unfiltered]
    exact List.mem_map.mpr ⟨row, (mem_sortAscending _ _).mpr member, rfl⟩
  · rw [listedItem, requestsOf, ← requestOf_eq_getLast?]

theorem mem_of_getSession {frame : FrameKey}
    (present : getSession tables frame sessionId = some session) :
    session ∈ frameSessions tables frame ∧ session.sessionId = some sessionId := by
  rw [getSession] at present
  have both := List.find?_some present
  rw [decide_eq_true_eq] at both
  exact ⟨List.mem_filter.mpr ⟨List.mem_of_find?_eq_some present, decide_eq_true both.1⟩, both.2⟩

theorem getSessionDetail_eq (found : frame.or (getLatestFrame tables instanceId) = some ref)
    (present : getSession tables ref.frame sessionId = some session) :
    Sessions.getSessionDetail tables instanceId sessionId frame =
      some (Sessions.toItem (sqlPreviewMap tables
        (requestsOf tables ref.frame (some sessionId)).head?.toList) session
          (requestsOf tables ref.frame (some sessionId)).head?) := by
  rw [Sessions.getSessionDetail, found]
  simp only [Option.bind_eq_bind, Option.bind_some, present, getRequestBySession_eq_head?]
  rfl

theorem every_listed_iff (found : frame.or (getLatestFrame tables instanceId) = some ref)
    (detail : Option SessionListItem) :
    (∀ query listed, Sessions.listSessions tables instanceId query frame = some listed →
      ∀ item ∈ listed.items, item.sessionId = some sessionId → detail = some item) ↔
      ∀ row ∈ frameSessions tables ref.frame, row.sessionId = some sessionId →
        detail = some (listedItem tables ref.frame row) := by
  constructor
  · intro every row member named
    obtain ⟨query, listed, answered, inside⟩ := exists_listed found member
    exact every query listed answered _ inside named
  · intro every query listed answered item inside named
    obtain ⟨row, member, rfl⟩ := mem_listed_iff found answered inside
    exact every row member named

theorem listed_session_is_detail_iff
    (found : frame.or (getLatestFrame tables instanceId) = some ref)
    (present : getSession tables ref.frame sessionId = some session) :
    (∀ query listed, Sessions.listSessions tables instanceId query frame = some listed →
      ∀ item ∈ listed.items, item.sessionId = some sessionId →
        Sessions.getSessionDetail tables instanceId sessionId frame = some item) ↔
      RowsAgree tables ref.frame sessionId session
        (requestsOf tables ref.frame (some sessionId)).head?
        (requestsOf tables ref.frame (some sessionId)).getLast? := by
  obtain ⟨stored, own⟩ := mem_of_getSession present
  rw [every_listed_iff found, getSessionDetail_eq found present]
  have among : ∀ request, (requestsOf tables ref.frame (some sessionId)).head? = some request →
      request ∈ listRequests tables ref.frame :=
    fun request first => List.mem_of_mem_filter (List.mem_of_mem_head? first)
  have asListed : ∀ row : SessionSnapshot, row.sessionId = some sessionId →
      listedItem tables ref.frame row =
        Sessions.toItem (sqlPreviewMap tables (listRequests tables ref.frame)) row
          (requestsOf tables ref.frame (some sessionId)).getLast? := by
    intro row named
    rw [listedItem, named]
  generalize (requestsOf tables ref.frame (some sessionId)).head? = first at *
  generalize (requestsOf tables ref.frame (some sessionId)).getLast? = last at *
  have same : ∀ row : SessionSnapshot, row.sessionId = some sessionId →
      (some (Sessions.toItem (sqlPreviewMap tables first.toList) session first) =
          some (listedItem tables ref.frame row) ↔
        sessionColumns row = sessionColumns session ∧ waitColumns last = waitColumns first ∧
          hashOf row last = hashOf session first ∧
          ∀ shown, hashOf session first = some shown →
            shown ∈ sqlHashesOf (listRequests tables ref.frame) → tables.sqlTexts shown ≠ none →
            first.bind RequestSnapshot.sqlHash = some shown) := by
    intro row named
    rw [Option.some.injEq, eq_comm, asListed row named, toItem_eq_iff (named.trans own.symm),
      ← preview_eq_iff among]
    refine and_congr_right fun _ => and_congr_right fun _ => and_congr_right fun hashes => ?_
    rw [hashes]
  constructor
  · intro every
    obtain ⟨-, waits, hashes, previews⟩ := (same session own).mp (every session stored own)
    refine ⟨fun row member named => ?_, waits, hashOf_eq_iff.mp hashes, previews⟩
    obtain ⟨columns, -, rowHashes, -⟩ := (same row named).mp (every row member named)
    exact ⟨columns, rowHashes.trans hashes.symm⟩
  · rintro ⟨rows, waits, hashes, previews⟩ row member named
    obtain ⟨columns, rowHashes⟩ := rows row member named
    exact (same row named).mpr
      ⟨columns, waits, rowHashes.trans (hashOf_eq_iff.mpr hashes), previews⟩

theorem detail_of_other_request :
    ((Sessions.listSessions (concurrentStore (some 51) none) 7 {} none).map fun listed =>
        listed.items.map fun item => (item.sessionId, item.blockingSessionId)) =
        some [(some 60, none)] ∧
      (Sessions.getSessionDetail (concurrentStore (some 51) none) 7 60 none).map
        SessionListItem.blockingSessionId = some (some 51) := by
  decide

theorem listed_session_is_detail_iff_equal :
    ∃ listed, Sessions.listSessions (concurrentStore (some 51) (some 51)) 7 {} none = some listed ∧
      ∀ item ∈ listed.items, item.sessionId = some 60 →
        Sessions.getSessionDetail (concurrentStore (some 51) (some 51)) 7 60 none = some item := by
  have found : (none : Option SnapshotFrame).or
      (getLatestFrame (concurrentStore (some 51) (some 51)) 7) =
      some (SnapshotTables.emptyFrame 1 7 0) := rfl
  refine ⟨_, rfl, (@listed_session_is_detail_iff _ _ _ _ _ salesSession found rfl).mpr ?_ {} _ rfl⟩
  refine ⟨by decide, by decide, by decide, ?_⟩
  intro shown noneShown
  exact nomatch noneShown

end Agreement

end SqlMonitor.Services
