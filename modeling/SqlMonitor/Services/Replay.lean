import SqlMonitor.Services.Blocking
import SqlMonitor.Services.Sqls

set_option autoImplicit false

namespace SqlMonitor.Services

open SnapshotRepository

structure ReplayFrameOut (F : Type) where
  instanceId : Uuid
  requestedTime : Timestamp
  snapshotTime : Timestamp
  frameId : Uuid
  dashboard : DashboardOut F
  sessions : List SessionListItem
  sqls : List SqlListItem
  blocking : List BlockingChain
  waits : List TopWait

section Replay

variable {F : Type} (floats : Floats F) (tables : SnapshotTables) (instanceId : Uuid)
  (requestedTime : Timestamp)

def replayPage : SessionQuery := { page := 1, pageSize := 10000 }

def replaySqlPage : SqlQuery := { page := 1, pageSize := 10000 }

def topLimit : Nat := 5

def metricsWindowMinutes : Nat := 5

def getReplayFrame (maxDelaySeconds : Int) : Option (ReplayFrameOut F) := do
  let ref ← getFrameBefore tables instanceId requestedTime maxDelaySeconds
  let dashboard ← getDashboard floats tables instanceId (some ref) topLimit metricsWindowMinutes
  let sessions ← Sessions.listSessions tables instanceId replayPage (some ref)
  let sqls ← Sqls.listSqls tables instanceId replaySqlPage (some ref)
  let blocking ← getBlockingChains tables instanceId (some ref)
  return {
    instanceId
    requestedTime
    snapshotTime := ref.frame.snapshotTime
    frameId := ref.frame.frameId
    dashboard
    sessions := sessions.items
    sqls := sqls.items
    blocking := blocking.chains
    waits := dashboard.topWaits }

def replayOf (ref : SnapshotFrame) : ReplayFrameOut F :=
  let dashboard := dashboardOf floats tables instanceId topLimit metricsWindowMinutes ref
  { instanceId
    requestedTime
    snapshotTime := ref.frame.snapshotTime
    frameId := ref.frame.frameId
    dashboard
    sessions := (Sessions.sessionListOf tables instanceId replayPage ref).items
    sqls := (Sqls.sqlListOf tables instanceId replaySqlPage ref).items
    blocking := (blockingOf tables instanceId ref).chains
    waits := dashboard.topWaits }

theorem getReplayFrame_eq (maxDelaySeconds : Int) :
    getReplayFrame floats tables instanceId requestedTime maxDelaySeconds =
      (getFrameBefore tables instanceId requestedTime maxDelaySeconds).map
        (replayOf floats tables instanceId requestedTime) := by
  unfold getReplayFrame
  cases getFrameBefore tables instanceId requestedTime maxDelaySeconds with
  | none => rfl
  | some ref => rfl

end Replay

end SqlMonitor.Services
