import SqlMonitor.Services.SnapshotRepository

set_option autoImplicit false

namespace SqlMonitor.Services

open SnapshotRepository

structure Floats (F : Type) where
  ofDecimal : Rat → F
  zero : F
  -- A difference of counters over microseconds.
  perSecond : Int → Int → F

-- Exact arithmetic in place of rounding.
def rationalFloats : Floats Rat where
  ofDecimal := id
  zero := 0
  perSecond := fun delta elapsed => delta * 1000000 / elapsed

structure ResourceTrendPoint (F : Type) where
  snapshotTime : Timestamp
  cpuLoadPercent : Option F
  memoryUsagePercent : Option F
  networkSendRateBytesPerSec : Option F
  networkReceiveRateBytesPerSec : Option F
deriving DecidableEq

section Points

variable {F : Type} (floats : Floats F)

def networkRate (previousFrame : Option SnapshotFrame) (currentFrame : SnapshotFrame)
    (counter : SnapshotFrame → Option Int) : Option F :=
  match previousFrame with
  | none => none
  | some previousFrame =>
    match counter previousFrame, counter currentFrame with
    | some previousBytes, some currentBytes =>
      let elapsed := snapshotTime currentFrame - snapshotTime previousFrame
      let delta := currentBytes - previousBytes
      if elapsed ≤ 0 then none
      else if delta < 0 then some floats.zero
      else some (floats.perSecond delta elapsed)
    | _, _ => none

def trendPoint (previousFrame : Option SnapshotFrame) (trendFrame : SnapshotFrame) :
    ResourceTrendPoint F where
  snapshotTime := snapshotTime trendFrame
  cpuLoadPercent := trendFrame.cpuLoadPercent.map floats.ofDecimal
  memoryUsagePercent := trendFrame.memoryUsagePercent.map floats.ofDecimal
  networkSendRateBytesPerSec :=
    networkRate floats previousFrame trendFrame SnapshotFrame.networkBytesSentTotal
  networkReceiveRateBytesPerSec :=
    networkRate floats previousFrame trendFrame SnapshotFrame.networkBytesReceivedTotal

def trendPoints : Option SnapshotFrame → List SnapshotFrame → List (ResourceTrendPoint F)
  | _, [] => []
  | previousFrame, trendFrame :: rest =>
    trendPoint floats previousFrame trendFrame :: trendPoints (some trendFrame) rest

def minutes (count : Nat) : Int := seconds (60 * count)

def sinceTime (ref : SnapshotFrame) (metricsWindowMinutes : Nat) : Timestamp :=
  snapshotTime ref - minutes (max metricsWindowMinutes 1)

def resourceTrends (tables : SnapshotTables) (instanceId : Uuid) (ref : SnapshotFrame)
    (metricsWindowMinutes : Nat) : List (ResourceTrendPoint F) :=
  let since := sinceTime ref metricsWindowMinutes
  trendPoints floats (getResourceFrameBefore tables instanceId since)
    (sortAscending snapshotTime (listResourceFrames tables instanceId since))

variable {floats}

theorem trendPoints_append (previousFrame : Option SnapshotFrame)
    (early late : List SnapshotFrame) :
    trendPoints floats previousFrame (early ++ late) =
      trendPoints floats previousFrame early ++
        trendPoints floats (early.getLast?.or previousFrame) late := by
  induction early generalizing previousFrame with
  | nil => simp [trendPoints]
  | cons frame rest ih =>
      have last : (frame :: rest).getLast?.or previousFrame = rest.getLast?.or (some frame) := by
        cases rest with
        | nil => rfl
        | cons next more => simp [List.getLast?_cons]
      simp [trendPoints, ih, last]

theorem snapshotTimes_trendPoints (previousFrame : Option SnapshotFrame)
    (frames : List SnapshotFrame) :
    (trendPoints floats previousFrame frames).map ResourceTrendPoint.snapshotTime =
      frames.map snapshotTime := by
  induction frames generalizing previousFrame with
  | nil => rfl
  | cons frame rest ih => simp [trendPoints, trendPoint, ih]

theorem mem_resourceTrends_times {tables : SnapshotTables} {instanceId : Uuid}
    {ref : SnapshotFrame} {metricsWindowMinutes : Nat} {time : Timestamp} :
    time ∈ (resourceTrends floats tables instanceId ref metricsWindowMinutes).map
        ResourceTrendPoint.snapshotTime ↔
      ∃ frame ∈ framesOf tables instanceId,
        sinceTime ref metricsWindowMinutes ≤ snapshotTime frame ∧ snapshotTime frame = time := by
  rw [resourceTrends, snapshotTimes_trendPoints]
  simp [listResourceFrames, and_assoc]

end Points

end SqlMonitor.Services
