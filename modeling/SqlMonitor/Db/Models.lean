import Mathlib.Data.Rat.Defs

set_option autoImplicit false

namespace SqlMonitor

abbrev Uuid := Nat

-- Microseconds since the epoch.
abbrev Timestamp := Int

structure FrameKey where
  frameId : Uuid
  instanceId : Uuid
  snapshotTime : Timestamp
deriving DecidableEq

structure SessionSnapshot where
  frame : FrameKey
  sessionId : Option Int
  loginName : Option String
  hostName : Option String
  programName : Option String
  databaseName : Option String
  status : Option String
  openTransactionCount : Int
  loginTime : Option Timestamp
  lastRequestStartTime : Option Timestamp
  lastRequestEndTime : Option Timestamp
  cpuTime : Option Int
  reads : Option Int
  writes : Option Int
  logicalReads : Option Int
  currentSqlHash : Option String
deriving DecidableEq

structure RequestSnapshot where
  frame : FrameKey
  sessionId : Option Int
  requestId : Option Int
  databaseName : Option String
  status : Option String
  command : Option String
  startTime : Option Timestamp
  durationMs : Option Int
  cpuTimeMs : Option Int
  totalElapsedTimeMs : Option Int
  reads : Option Int
  writes : Option Int
  logicalReads : Option Int
  rowCount : Option Int
  waitType : Option String
  waitTimeMs : Option Int
  blockingSessionId : Option Int
  percentComplete : Option Rat
  sqlHash : Option String
  normalizedSqlHash : Option String
  planHandle : Option (List UInt8)
  statementStartOffset : Option Int
  statementEndOffset : Option Int
deriving DecidableEq

inductive WaitCategory where
  | lock
  | io
  | log
  | cpu
  | parallelism
  | memory
  | tempdb
  | network
  | other
deriving DecidableEq

structure WaitSnapshot where
  frame : FrameKey
  waitType : String
  waitCategory : WaitCategory
  waitingTasksCount : Nat
  totalWaitTimeMs : Int
  maxWaitTimeMs : Int
deriving DecidableEq

structure BlockingSnapshot where
  frame : FrameKey
  rootSessionId : Option Int
  blockingSessionId : Option Int
  blockedSessionId : Int
  chainDepth : Nat
  blockedCount : Nat
  maxWaitTimeMs : Option Int
  waitType : Option String
  resourceDescription : Option String
  cycleDetected : Bool
  specialBlockerCode : Option Int
deriving DecidableEq

structure SqlText where
  sqlHash : String
  normalizedSqlHash : Option String
  sqlText : String
  sqlPreview : Option String
  firstSeenAt : Timestamp
  lastSeenAt : Timestamp
deriving DecidableEq

structure SnapshotFrame where
  frame : FrameKey
  collectDurationMs : Int
  status : String
  cpuLoadPercent : Option Rat
  memoryUsagePercent : Option Rat
  networkBytesSentTotal : Option Int
  networkBytesReceivedTotal : Option Int
deriving DecidableEq

inductive InstanceStatus where
  | online
  | offline
  | collectError
  | disabled
deriving DecidableEq, Inhabited

structure Instance where
  id : Uuid
  encryptedCollectDsn : String
  status : InstanceStatus
  createdAt : Timestamp
deriving DecidableEq, Inhabited

structure InstanceRecord extends Instance where
  name : String
  host : String
  port : Int
  databaseName : Option String
  encryptedKillDsn : Option String
  missingIndexCollectIntervalSeconds : Int
  indexFragmentationCollectIntervalSeconds : Int
  indexOperationTimeoutSeconds : Int
  sqlserverVersion : Option String
deriving DecidableEq, Inhabited

inductive CollectState where
  | unknown
  | success
  | failed
deriving DecidableEq

structure InstanceCollectStatus where
  instanceId : Uuid
  lastSuccessAt : Option Timestamp
  lastFailureAt : Option Timestamp
  lastDurationMs : Option Int
  consecutiveFailures : Int
  status : CollectState
  errorCode : Option String
  errorMessage : Option String
  capabilities : List (String × Bool)
  updatedAt : Option Timestamp
deriving DecidableEq

inductive IndexType where
  | missing
  | fragmentation
deriving DecidableEq

structure IndexCollectionKey where
  instanceId : Uuid
  databaseName : String
  indexType : IndexType
deriving DecidableEq

structure IndexCollectionStatus where
  lastSuccessAt : Option Timestamp
  lastFailureAt : Option Timestamp
  status : CollectState
  errorMessage : Option String
  itemCount : Nat
  updatedAt : Option Timestamp
deriving DecidableEq

structure MissingIndexSnapshot where
  instanceId : Uuid
  databaseName : String
  schemaName : String
  tableName : String
  equalityColumns : List String
  inequalityColumns : List String
  includeColumns : List String
  userSeeks : Int
  userScans : Int
  avgTotalUserCost : Rat
  avgUserImpact : Rat
  recommendedIndexName : String
  collectedAt : Timestamp
deriving DecidableEq

inductive MaintenanceAction where
  | none
  | reorganize
  | rebuild
deriving DecidableEq

structure IndexFragmentationSnapshot where
  instanceId : Uuid
  databaseName : String
  schemaName : String
  tableName : String
  indexName : String
  indexType : String
  partitionNumber : Int
  avgFragmentationInPercent : Rat
  pageCount : Int
  recommendedAction : MaintenanceAction
  onlineRebuildSupported : Bool
  collectedAt : Timestamp
deriving DecidableEq

end SqlMonitor
