import SqlMonitor.Services.Replay
import SqlMonitor.Services.Users

set_option autoImplicit false

namespace SqlMonitor.Services

open SnapshotRepository

inductive PageRequest where
  | dashboard (instanceId : Uuid) (metricsWindowMinutes : Nat)
  | sqls (instanceId : Uuid) (query : SqlQuery)
  | sql (instanceId : Uuid) (sqlHash : String)
  | sessions (instanceId : Uuid) (query : SessionQuery)
  | session (instanceId : Uuid) (sessionId : Int)
  | replay (instanceId : Uuid) (requestedTime : Timestamp)

inductive Page (F : Type) where
  | dashboard (body : DashboardOut F)
  | sqls (body : SqlListOut)
  | sql (body : SqlListItem)
  | sessions (body : SessionListOut)
  | session (body : SessionListItem)
  | replay (body : ReplayFrameOut F)

def latestFrameNotFound : HttpError := ⟨409, "LATEST_FRAME_NOT_FOUND"⟩

def sqlNotFound : HttpError := ⟨404, "SQL_NOT_FOUND"⟩

def sessionNotFound : HttpError := ⟨404, "SESSION_NOT_FOUND"⟩

def replayFrameNotFound : HttpError := ⟨409, "REPLAY_FRAME_NOT_FOUND"⟩

def maxDelaySeconds : Int := 10

section Routes

variable {F : Type} (floats : Floats F) (tables : SnapshotTables)

def orNotFound {A : Type} (error : HttpError) (page : A → Page F) :
    Option A → Except HttpError (Page F)
  | none => .error error
  | some body => .ok (page body)

-- The routes of a single statement or session look for the frame themselves.
def ofLatestFrame (instanceId : Uuid) (read : SnapshotFrame → Except HttpError (Page F)) :
    Except HttpError (Page F) :=
  match getLatestFrame tables instanceId with
  | none => .error latestFrameNotFound
  | some frame => read frame

def routePage : PageRequest → Except HttpError (Page F)
  | .dashboard instanceId window =>
    orNotFound latestFrameNotFound .dashboard
      (getDashboard floats tables instanceId none topLimit window)
  | .sqls instanceId query =>
    orNotFound latestFrameNotFound .sqls (Sqls.listSqls tables instanceId query none)
  | .sql instanceId sqlHash =>
    ofLatestFrame tables instanceId fun frame =>
      orNotFound sqlNotFound .sql (Sqls.getSqlDetail tables instanceId sqlHash (some frame))
  | .sessions instanceId query =>
    orNotFound latestFrameNotFound .sessions (Sessions.listSessions tables instanceId query none)
  | .session instanceId sessionId =>
    ofLatestFrame tables instanceId fun frame =>
      orNotFound sessionNotFound .session
        (Sessions.getSessionDetail tables instanceId sessionId (some frame))
  | .replay instanceId requestedTime =>
    orNotFound replayFrameNotFound .replay
      (getReplayFrame floats tables instanceId requestedTime maxDelaySeconds)

def getPage (users : UserTable) (userId : Uuid) (request : PageRequest) :
    Except HttpError (Page F) := do
  let _ ← activeUser users userId
  routePage floats tables request

end Routes

end SqlMonitor.Services
