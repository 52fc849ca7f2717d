import SqlMonitor.Services.Sqls
import SqlMonitor.Shared.Pages

set_option autoImplicit false

namespace SqlMonitor.Services

open SnapshotRepository

section Sorting

variable {A : Type} (sortOrder : SortOrder) (key : A → Int) (rows : List A)

end Sorting

section Listing

variable {Row Item : Type}

def allItems (pageSize : Nat) (page : Nat → Option (Nat × List Item)) : List Item :=
  let total := ((page 1).map Prod.fst).getD 0
  (List.range (Pages.pageCount total pageSize)).flatMap fun n =>
    ((page (n + 1)).map Prod.snd).getD []

theorem pageOf_eq_slice (pageSize n : Nat) (rows : List Row) :
    pageOf (n + 1) pageSize rows = Pages.slice pageSize rows n := rfl

theorem allItems_of_slices {pageSize : Nat} (positive : 0 < pageSize) {sorted : List Row}
    {toItem : Row → Item} {page : Nat → Option (Nat × List Item)}
    (pages : ∀ n, page (n + 1) =
      some (sorted.length, (pageOf (n + 1) pageSize sorted).map toItem)) :
    allItems pageSize page = sorted.map toItem := by
  simp only [allItems, pages, Option.map_some, Option.getD_some, pageOf_eq_slice]
  rw [← List.map_flatMap, ← Pages.upTo, Pages.upTo_pageCount positive]

end Listing

section Pages

variable (tables : SnapshotTables) (instanceId : Uuid) (frame : Option SnapshotFrame)

def sessionPage (query : SessionQuery) (page : Nat) : Option (Nat × List SessionListItem) :=
  (Sessions.listSessions tables instanceId { query with page } frame).map fun listed =>
    (listed.total, listed.items)

variable {tables instanceId frame} {ref : SnapshotFrame}

def sortedSessions (tables : SnapshotTables) (ref : SnapshotFrame) (query : SessionQuery) :
    List (SessionSnapshot × Option RequestSnapshot) :=
  sortedBy query.sortOrder (fun pair => sortValue (query.sortBy.column pair.1))
    (Sessions.filtered query (listSessions tables ref.frame) (listRequests tables ref.frame))

theorem sessionPage_eq (found : frame.or (getLatestFrame tables instanceId) = some ref)
    (query : SessionQuery) (n : Nat) :
    sessionPage tables instanceId frame query (n + 1) =
      some ((sortedSessions tables ref query).length,
        (pageOf (n + 1) query.pageSize (sortedSessions tables ref query)).map fun pair =>
          Sessions.toItem (sqlPreviewMap tables (listRequests tables ref.frame)) pair.1 pair.2) := by
  rw [sessionPage, Sessions.listSessions, found]
  rfl

theorem requestOf_eq_getLast? (requests : List RequestSnapshot) (session : SessionSnapshot) :
    Sessions.requestOf requests session =
      (requests.filter (·.sessionId = session.sessionId)).getLast? := by
  rw [Sessions.requestOf, Sessions.requestBySession, InsertionDict.get?_ofList, List.filter_map,
    List.getLast?_map, Option.map_map]
  simp [Function.comp_def]

end Pages

section Blocked

def requestsOf (tables : SnapshotTables) (frame : FrameKey) (sessionId : Option Int) :
    List RequestSnapshot :=
  (listRequests tables frame).filter (·.sessionId = sessionId)

def isBlocked (request : RequestSnapshot) : Bool := request.blockingSessionId.isSome

-- The filters but for `only_blocked`.
def passesOthers (query : SessionQuery) (session : SessionSnapshot) : Bool :=
  query.status.all (fun status => session.status = some status) &&
    (! query.onlyOpenTransaction || 0 < session.openTransactionCount)

def frameSessions (tables : SnapshotTables) (frame : FrameKey) : List SessionSnapshot :=
  tables.sessions.filter (·.frame = frame)

theorem filter_map_perm_iff {A B : Type} {p q : A → Bool} {rows : List A}
    (implies : ∀ row ∈ rows, p row = true → q row = true) (f : A → B) :
    ((rows.filter p).map f).Perm ((rows.filter q).map f) ↔
      ∀ row ∈ rows, q row = true → p row = true := by
  have nested : (rows.filter q).filter p = rows.filter p := by
    rw [List.filter_filter]
    refine List.filter_congr fun row member => ?_
    cases kept : p row with
    | true => simp [implies row member kept]
    | false => rfl
  constructor
  · intro same row member wanted
    have lengths := same.length_eq
    rw [List.length_map, List.length_map, ← nested, List.length_filter_eq_length_iff] at lengths
    exact lengths row (List.mem_filter.mpr ⟨member, wanted⟩)
  · intro all
    have equal : rows.filter p = rows.filter q := by
      refine List.filter_congr fun row member => ?_
      exact Bool.eq_iff_iff.mpr ⟨implies row member, all row member⟩
    rw [equal]

variable {tables : SnapshotTables} {instanceId : Uuid} {frame : Option SnapshotFrame}
  {ref : SnapshotFrame}

theorem allItems_sessions_perm (found : frame.or (getLatestFrame tables instanceId) = some ref)
    (query : SessionQuery) (positive : 1 ≤ query.pageSize) :
    ((allItems query.pageSize (sessionPage tables instanceId frame query)).map
        SessionListItem.sessionId).Perm
      (((frameSessions tables ref.frame).filter fun session =>
        Sessions.kept query (session, Sessions.requestOf (listRequests tables ref.frame) session)).map
          SessionSnapshot.sessionId) := by
  have sorted : (sortedSessions tables ref query).Perm (Sessions.filtered query
      (listSessions tables ref.frame) (listRequests tables ref.frame)) := sortedBy_perm _ _ _
  have stored : (listSessions tables ref.frame).Perm (frameSessions tables ref.frame) :=
    sortAscending_perm _ _
  rw [allItems_of_slices positive (sessionPage_eq found query), List.map_map]
  refine (sorted.map _).trans ?_
  rw [Sessions.filtered, List.filter_map, List.map_map]
  exact (stored.filter _).map _

theorem only_blocked_complete_iff
    (found : frame.or (getLatestFrame tables instanceId) = some ref) (query : SessionQuery)
    (positive : 1 ≤ query.pageSize) :
    ((allItems query.pageSize (sessionPage tables instanceId frame
        { query with onlyBlocked := true })).map SessionListItem.sessionId).Perm
      (((frameSessions tables ref.frame).filter fun session => passesOthers query session &&
        (requestsOf tables ref.frame session.sessionId).any isBlocked).map
          SessionSnapshot.sessionId) ↔
      ∀ session ∈ frameSessions tables ref.frame, passesOthers query session = true →
        (∃ request ∈ requestsOf tables ref.frame session.sessionId, isBlocked request = true) →
        ∃ last, (requestsOf tables ref.frame session.sessionId).getLast? = some last ∧
          isBlocked last = true := by
  have keeps : ∀ session, Sessions.kept { query with onlyBlocked := true }
        (session, Sessions.requestOf (listRequests tables ref.frame) session) =
      (passesOthers query session &&
        (requestsOf tables ref.frame session.sessionId).getLast?.any isBlocked) := by
    intro session
    rw [requestOf_eq_getLast?, Sessions.kept, passesOthers, requestsOf]
    cases (List.filter _ (listRequests tables ref.frame)).getLast? with
    | none => simp
    | some last => simp [isBlocked, Bool.and_right_comm]
  have listed := allItems_sessions_perm found { query with onlyBlocked := true } positive
  simp only [keeps] at listed
  rw [listed.congr_left, filter_map_perm_iff]
  · refine forall₂_congr fun session _ => ?_
    simp only [Bool.and_eq_true, List.any_eq_true, Option.any_eq_true, and_imp]
    constructor
    · exact fun shown passes blocked => (shown passes blocked).2
    · exact fun shown passes blocked => ⟨passes, shown passes blocked⟩
  · intro session _ kept
    simp only [Bool.and_eq_true, List.any_eq_true, Option.any_eq_true] at kept ⊢
    obtain ⟨passes, last, found, blocked⟩ := kept
    exact ⟨passes, last, List.mem_of_getLast? found, blocked⟩

end Blocked

section TwoRequests

def concurrentRequest (requestId : Int) (blockingSessionId : Option Int) : RequestSnapshot where
  frame := ⟨1, 7, 0⟩
  sessionId := some 60
  requestId := some requestId
  databaseName := some "Sales"
  status := some "running"
  command := some "UPDATE"
  startTime := none
  durationMs := some 5
  cpuTimeMs := some 5
  totalElapsedTimeMs := some 5
  reads := none
  writes := none
  logicalReads := none
  rowCount := none
  waitType := none
  waitTimeMs := none
  blockingSessionId := blockingSessionId
  percentComplete := none
  sqlHash := none
  normalizedSqlHash := none
  planHandle := none
  statementStartOffset := none
  statementEndOffset := none

def salesSession : SessionSnapshot where
  frame := ⟨1, 7, 0⟩
  sessionId := some 60
  loginName := some "sales"
  hostName := none
  programName := none
  databaseName := some "Sales"
  status := some "running"
  openTransactionCount := 1
  loginTime := none
  lastRequestStartTime := none
  lastRequestEndTime := none
  cpuTime := some 5
  reads := none
  writes := none
  logicalReads := none
  currentSqlHash := none

-- A session with two requests at once.
def concurrentStore (first last : Option Int) : SnapshotTables where
  frames := [SnapshotTables.emptyFrame 1 7 0]
  sessions := [salesSession]
  requests := [concurrentRequest 0 first, concurrentRequest 1 last]
  waits := []
  blocking := []
  sqlTexts := fun _ => none

theorem blocked_session_hidden :
    (requestsOf (concurrentStore (some 51) none) ⟨1, 7, 0⟩ (some 60)).any isBlocked = true ∧
      (sessionPage (concurrentStore (some 51) none) 7 none { onlyBlocked := true } 1) =
        some (0, []) := by
  decide

theorem only_blocked_complete_iff_last :
    ((allItems 50 (sessionPage (concurrentStore none (some 51)) 7 none
      { onlyBlocked := true })).map SessionListItem.sessionId).Perm [some 60] := by
  have found : (none : Option SnapshotFrame).or
      (getLatestFrame (concurrentStore none (some 51)) 7) =
      some (SnapshotTables.emptyFrame 1 7 0) := rfl
  refine (only_blocked_complete_iff found {} (by decide)).mpr ?_
  decide

end TwoRequests

end SqlMonitor.Services
