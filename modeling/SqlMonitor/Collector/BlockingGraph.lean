import Mathlib.Data.Finset.Card
import SqlMonitor.Shared.InsertionDict

set_option autoImplicit false

namespace SqlMonitor.BlockingGraph

structure BlockingInput where
  sessionId : Int
  blockerSessionId : Option Int
  waitType : Option String := none
  waitDurationMs : Option Int := none
  resourceDescription : Option String := none
deriving DecidableEq

structure BlockingEdge where
  rootSessionId : Int
  blockerSessionId : Int
  blockedSessionId : Int
  chainDepth : Nat
  waitType : Option String := none
  waitDurationMs : Option Int := none
  resourceDescription : Option String := none
  cycleDetected : Bool := false
deriving DecidableEq

structure ChainLink where
  blockerId : Int
  blockedId : Int
  cycleDetected : Bool
deriving DecidableEq

structure ChainStep where
  blockerId : Int
  blockedId : Int
  chainDepth : Nat
  cycleDetected : Bool
deriving DecidableEq

-- Orphaned distributed transaction, deferred recovery, undetermined latch owner.
def specialBlockers : Finset Int := {-2, -3, -4}

def normalizeBlocker (blockerSessionId : Option Int) : Option Int :=
  match blockerSessionId with
  | none => none
  | some blocker =>
      if blocker ∈ specialBlockers then some blocker
      else if blocker = 0 then none
      else some blocker

def rowMap (rows : List BlockingInput) : InsertionDict Int BlockingInput :=
  .ofList (rows.map fun row => (row.sessionId, row))

/--
The `while` loop of `build_chain`. It has no result when the fuel runs out or a session
without a row is looked up.
-/
def buildChainLoop (rows : InsertionDict Int BlockingInput) :
    Nat → Int → Finset Int → List ChainLink → Option (Int × List ChainLink)
  | 0, _, _, _ => none
  | fuel + 1, current, visited, links =>
    match rows.get? current with
    | none => none
    | some row =>
      match normalizeBlocker row.blockerSessionId with
      | none => some (current, links)
      | some blocker =>
        if blocker ∈ specialBlockers then
          some (blocker, links ++ [ChainLink.mk blocker current false])
        else
          let links := links ++ [ChainLink.mk blocker current false]
          if blocker ∈ visited then
            some (blocker, links.dropLast ++ [ChainLink.mk blocker current true])
          else
            match rows.get? blocker with
            | none => some (blocker, links)
            | some _ => buildChainLoop rows fuel blocker (insert blocker visited) links

def enumerateChain (links : List ChainLink) : List ChainStep :=
  (links.reverse.zipIdx 1).map fun (link, chainDepth) =>
    ⟨link.blockerId, link.blockedId, chainDepth, link.cycleDetected⟩

def buildChain (rows : InsertionDict Int BlockingInput) (sessionId : Int) :
    Option (Int × List ChainStep) :=
  (buildChainLoop rows rows.keys.length sessionId {sessionId} []).map fun (rootSessionId, links) =>
    (rootSessionId, enumerateChain links)

structure EdgeState where
  edges : List BlockingEdge
  seenEdges : Finset (Int × Int)

def blockingEdge (rows : InsertionDict Int BlockingInput) (row : BlockingInput)
    (rootSessionId : Int)
    (step : ChainStep) : BlockingEdge :=
  let source := (rows.get? step.blockedId).getD row
  { rootSessionId
    blockerSessionId := step.blockerId
    blockedSessionId := step.blockedId
    chainDepth := step.chainDepth
    waitType := source.waitType
    waitDurationMs := source.waitDurationMs
    resourceDescription := source.resourceDescription
    cycleDetected := step.cycleDetected }

def emitStep (rows : InsertionDict Int BlockingInput) (row : BlockingInput) (rootSessionId : Int)
    (state : EdgeState) (step : ChainStep) : EdgeState :=
  if (step.blockerId, step.blockedId) ∈ state.seenEdges then state
  else
    { edges := state.edges ++ [blockingEdge rows row rootSessionId step]
      seenEdges := insert (step.blockerId, step.blockedId) state.seenEdges }

def emitRow (rows : InsertionDict Int BlockingInput) (state : EdgeState) (row : BlockingInput) :
    Option EdgeState :=
  match normalizeBlocker row.blockerSessionId with
  | none => some state
  | some _ =>
    (buildChain rows row.sessionId).map fun (rootSessionId, chain) =>
      chain.foldl (emitStep rows row rootSessionId) state

def buildBlockingEdges (rows : List BlockingInput) : Option (List BlockingEdge) :=
  let rows := rowMap rows
  (rows.values.foldlM (emitRow rows) ⟨[], ∅⟩).map EdgeState.edges

end SqlMonitor.BlockingGraph
