import Mathlib.Data.Prod.Lex
import Mathlib.Order.WithBot
import SqlMonitor.Db.SnapshotTables
import SqlMonitor.Shared.StableSort

set_option autoImplicit false

namespace SqlMonitor.SnapshotRepository

section Queries

variable (tables : SnapshotTables)

def snapshotTime (row : SnapshotFrame) : Timestamp := row.frame.snapshotTime

def nullsLast (value : Option Int) : WithTop Int := value

def framesOf (instanceId : Uuid) : List SnapshotFrame :=
  tables.frames.filter (·.frame.instanceId = instanceId)

def latestOf (rows : List SnapshotFrame) : Option SnapshotFrame :=
  (sortDescending snapshotTime rows).head?

def getLatestFrame (instanceId : Uuid) : Option SnapshotFrame :=
  latestOf (framesOf tables instanceId)

def seconds (count : Int) : Int := 1000000 * count

def getFrameBefore (instanceId : Uuid) (targetTime : Timestamp) (maxDelaySeconds : Int) :
    Option SnapshotFrame :=
  latestOf ((framesOf tables instanceId).filter fun row =>
    snapshotTime row ≤ targetTime ∧ targetTime - seconds maxDelaySeconds ≤ snapshotTime row)

variable (frame : FrameKey)

def listSessions : List SessionSnapshot :=
  sortAscending (fun row => nullsLast row.sessionId) (tables.sessions.filter (·.frame = frame))

def getSession (sessionId : Int) : Option SessionSnapshot :=
  tables.sessions.find? fun row => row.frame = frame ∧ row.sessionId = some sessionId

def listRequests : List RequestSnapshot :=
  sortAscending (fun row => toLex (nullsLast row.sessionId, nullsLast row.requestId))
    (tables.requests.filter (·.frame = frame))

def getRequestBySqlHash (sqlHash : String) : Option RequestSnapshot :=
  tables.requests.find? fun row => row.frame = frame ∧ row.sqlHash = some sqlHash

def getRequestBySession (sessionId : Int) : Option RequestSnapshot :=
  (sortAscending (fun row => nullsLast row.requestId)
    (tables.requests.filter fun row => row.frame = frame ∧ row.sessionId = some sessionId)).head?

def listWaits : List WaitSnapshot :=
  sortDescending WaitSnapshot.totalWaitTimeMs (tables.waits.filter (·.frame = frame))

def listBlockingRows : List BlockingSnapshot :=
  sortAscending (fun row => toLex (nullsLast row.rootSessionId, row.chainDepth))
    (tables.blocking.filter (·.frame = frame))

def listResourceFrames (instanceId : Uuid) (sinceTime : Timestamp) : List SnapshotFrame :=
  sortAscending snapshotTime ((framesOf tables instanceId).filter (sinceTime ≤ snapshotTime ·))

def getResourceFrameBefore (instanceId : Uuid) (beforeTime : Timestamp) : Option SnapshotFrame :=
  latestOf ((framesOf tables instanceId).filter (snapshotTime · < beforeTime))

-- Only the texts of the given hashes are read, and an empty hash asks for nothing.
def readTexts (column : SqlText → String) (sqlHashes : List String) (sqlHash : Option String) :
    Option String :=
  (sqlHash.filter fun hash => hash ≠ "" ∧ hash ∈ sqlHashes).bind fun hash =>
    (tables.sqlTexts hash).map column

-- `row.sql_preview or row.sql_text`
def previewOrText (row : SqlText) : String := (row.sqlPreview.filter (· ≠ "")).getD row.sqlText

def getSqlPreviewMap (sqlHashes : List String) : Option String → Option String :=
  readTexts tables previewOrText sqlHashes

def getSqlTextMap (sqlHashes : List String) : Option String → Option String :=
  readTexts tables SqlText.sqlText sqlHashes

end Queries

section Latest

variable {rows : List SnapshotFrame} {frame other : SnapshotFrame}

theorem mem_of_latestOf (found : latestOf rows = some frame) : frame ∈ rows :=
  mem_of_head?_sortDescending found

theorem le_of_latestOf (found : latestOf rows = some frame) (member : other ∈ rows) :
    snapshotTime other ≤ snapshotTime frame :=
  le_of_head?_sortDescending found member

theorem latestOf_eq_none : latestOf rows = none ↔ rows = [] := head?_sortDescending_eq_none

variable {tables : SnapshotTables} {instanceId : Uuid} {targetTime : Timestamp}
  {maxDelaySeconds : Int}

theorem mem_framesOf : frame ∈ framesOf tables instanceId ↔
    frame ∈ tables.frames ∧ frame.frame.instanceId = instanceId := by
  simp [framesOf]

theorem getFrameBefore_spec
    (found : getFrameBefore tables instanceId targetTime maxDelaySeconds = some frame) :
    frame ∈ framesOf tables instanceId ∧ snapshotTime frame ≤ targetTime ∧
      ∀ other ∈ framesOf tables instanceId, snapshotTime other ≤ targetTime →
        snapshotTime other ≤ snapshotTime frame := by
  obtain ⟨member, window⟩ := List.mem_filter.mp (mem_of_latestOf found)
  obtain ⟨before, within⟩ := of_decide_eq_true window
  refine ⟨member, before, ?_⟩
  intro other inside early
  by_cases recent : targetTime - seconds maxDelaySeconds ≤ snapshotTime other
  · exact le_of_latestOf found (List.mem_filter.mpr ⟨inside, by simp [early, recent]⟩)
  · exact ((lt_of_not_ge recent).trans_le within).le

end Latest

end SqlMonitor.SnapshotRepository
