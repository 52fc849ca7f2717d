import Mathlib.Data.List.Sort
import SqlMonitor.Shared.InsertionDict
import SqlMonitor.Services.Dashboard

set_option autoImplicit false

namespace SqlMonitor.Services

structure BlockingNode where
  blockingSessionId : Option Int
  blockedSessionId : Int
  chainDepth : Nat
  waitType : Option String
  waitTimeMs : Option Int
  resourceDescription : Option String
  cycleDetected : Bool
  specialBlockerCode : Option Int
deriving DecidableEq

inductive RiskLevel where
  | low
  | medium
  | high
deriving DecidableEq

structure BlockingChain where
  rootSessionId : Option Int
  blockedCount : Nat
  maxWaitTimeMs : Int
  riskLevel : RiskLevel
  nodes : List BlockingNode
deriving DecidableEq

-- `first or second`, which passes over a zero as well as over `None`.
def orElse (first second : Option Int) : Option Int :=
  match first with
  | none => second
  | some value => if value = 0 then second else some value

def toNode (row : BlockingSnapshot) : BlockingNode where
  blockingSessionId := row.blockingSessionId
  blockedSessionId := row.blockedSessionId
  chainDepth := row.chainDepth
  waitType := row.waitType
  waitTimeMs := orElse row.maxWaitTimeMs (waitDurationMs row)
  resourceDescription := row.resourceDescription
  cycleDetected := row.cycleDetected
  specialBlockerCode := row.specialBlockerCode

def riskLevel (blockedCount : Nat) : RiskLevel :=
  if 5 ≤ blockedCount then .high else if 2 ≤ blockedCount then .medium else .low

def waitOrZero (row : BlockingSnapshot) : Int :=
  (orElse row.maxWaitTimeMs (orElse (waitDurationMs row) (some 0))).getD 0

def chainBlockedCount (groupRows : List BlockingSnapshot) : Nat :=
  max (groupRows.map BlockingSnapshot.blockedSessionId).toFinset.card
    (maxOrZero (groupRows.map BlockingSnapshot.blockedCount))

-- Inserting from the back keeps the order of rows of equal depth, as `sorted` does.
def chainNodes (groupRows : List BlockingSnapshot) : List BlockingNode :=
  (groupRows.insertionSort (fun row later => row.chainDepth ≤ later.chainDepth)).map toNode

def blockingChain (rootSessionId : Option Int) (groupRows : List BlockingSnapshot) :
    BlockingChain where
  rootSessionId := rootSessionId
  blockedCount := chainBlockedCount groupRows
  maxWaitTimeMs := maxOrZero (groupRows.map waitOrZero)
  riskLevel := riskLevel (chainBlockedCount groupRows)
  nodes := chainNodes groupRows

def listedBefore (chain later : BlockingChain) : Prop :=
  later.blockedCount < chain.blockedCount ∨
    later.blockedCount = chain.blockedCount ∧ later.maxWaitTimeMs ≤ chain.maxWaitTimeMs

instance : DecidableRel listedBefore := fun _ _ => inferInstanceAs (Decidable (_ ∨ _))

def groupedRows (rows : List BlockingSnapshot) :
    InsertionDict (Option Int) (List BlockingSnapshot) :=
  .groupBy BlockingSnapshot.rootSessionId rows

def blockingChains (rows : List BlockingSnapshot) : List BlockingChain :=
  ((groupedRows rows).entries.map fun (root, groupRows) => blockingChain root groupRows).insertionSort
    listedBefore

structure BlockingOut where
  instanceId : Uuid
  frameId : Uuid
  snapshotTime : Timestamp
  chains : List BlockingChain

def blockingOf (tables : SnapshotTables) (instanceId : Uuid) (ref : SnapshotFrame) :
    BlockingOut where
  instanceId := instanceId
  frameId := ref.frame.frameId
  snapshotTime := ref.frame.snapshotTime
  chains := blockingChains (SnapshotRepository.listBlockingRows tables ref.frame)

def getBlockingChains (tables : SnapshotTables) (instanceId : Uuid)
    (frame : Option SnapshotFrame) : Option BlockingOut :=
  (frame.or (SnapshotRepository.getLatestFrame tables instanceId)).map
    (blockingOf tables instanceId)

def rowsOfRoot (rows : List BlockingSnapshot) (root : Option Int) : List BlockingSnapshot :=
  rows.filter (fun row => row.rootSessionId = root)

theorem blockingChains_perm (rows : List BlockingSnapshot) :
    (blockingChains rows).Perm
      ((groupedRows rows).entries.map fun entry => blockingChain entry.1 entry.2) :=
  List.perm_insertionSort _ _

theorem mem_entries_iff (rows : List BlockingSnapshot) (root : Option Int)
    (groupRows : List BlockingSnapshot) :
    (root, groupRows) ∈ (groupedRows rows).entries ↔
      root ∈ rows.map BlockingSnapshot.rootSessionId ∧ groupRows = rowsOfRoot rows root := by
  rw [← InsertionDict.get?_eq_some_iff, groupedRows, InsertionDict.get?_groupBy]
  by_cases present : root ∈ rows.map BlockingSnapshot.rootSessionId
  · simp [present, rowsOfRoot, eq_comm]
  · simp [present]

theorem mem_blockingChains_iff (rows : List BlockingSnapshot) (chain : BlockingChain) :
    chain ∈ blockingChains rows ↔ ∃ root ∈ rows.map BlockingSnapshot.rootSessionId,
      chain = blockingChain root (rowsOfRoot rows root) := by
  rw [(blockingChains_perm rows).mem_iff, List.mem_map]
  constructor
  · intro found
    obtain ⟨⟨root, groupRows⟩, entry, rfl⟩ := found
    obtain ⟨present, rfl⟩ := (mem_entries_iff rows root groupRows).mp entry
    exact ⟨root, present, rfl⟩
  · intro found
    obtain ⟨root, present, rfl⟩ := found
    exact ⟨(root, rowsOfRoot rows root), (mem_entries_iff rows root _).mpr ⟨present, rfl⟩, rfl⟩

theorem mem_chainNodes_iff (groupRows : List BlockingSnapshot) (node : BlockingNode) :
    node ∈ chainNodes groupRows ↔ ∃ row ∈ groupRows, toNode row = node := by
  simp [chainNodes]

theorem mem_nodes_iff {rows : List BlockingSnapshot} {chain : BlockingChain}
    (member : chain ∈ blockingChains rows) (node : BlockingNode) :
    node ∈ chain.nodes ↔ ∃ row ∈ rows, row.rootSessionId = chain.rootSessionId ∧
      toNode row = node := by
  obtain ⟨root, -, rfl⟩ := (mem_blockingChains_iff rows chain).mp member
  simp [blockingChain, mem_chainNodes_iff, rowsOfRoot, and_assoc]

theorem eq_of_root_eq {rows : List BlockingSnapshot} {chain other : BlockingChain}
    (member : chain ∈ blockingChains rows) (member' : other ∈ blockingChains rows)
    (same : chain.rootSessionId = other.rootSessionId) : chain = other := by
  obtain ⟨root, -, rfl⟩ := (mem_blockingChains_iff rows chain).mp member
  obtain ⟨root', -, rfl⟩ := (mem_blockingChains_iff rows other).mp member'
  have roots : root = root' := same
  rw [roots]

theorem roots_perm (rows : List BlockingSnapshot) :
    ((blockingChains rows).map BlockingChain.rootSessionId).Perm (groupedRows rows).keys := by
  refine ((blockingChains_perm rows).map _).trans ?_
  rw [List.map_map]
  exact List.Perm.refl _

theorem roots_nodup (rows : List BlockingSnapshot) :
    ((blockingChains rows).map BlockingChain.rootSessionId).Nodup :=
  (roots_perm rows).nodup_iff.mpr (groupedRows rows).keys_nodup

theorem waitOrZero_eq (row : BlockingSnapshot) :
    waitOrZero row = coalesce row.maxWaitTimeMs (waitDurationMs row) 0 := by
  unfold waitOrZero coalesce waitDurationMs
  cases row.maxWaitTimeMs with
  | none => rfl
  | some value => by_cases zero : value = 0 <;> simp [orElse, zero]

end SqlMonitor.Services
