import Harness.Lib.CycleSearch
import Harness.Lib.Json
import Mathlib.Data.List.Sort
import Mathlib.Data.String.Basic

/-! The workflow engine that keeps its graph in memory. A tick starts the nodes whose dependencies
are completed; what they end with is reported from outside. The conflict resolver, the approval
gate and the aggregation of results are given, and so is the budget's word on each cost. -/

namespace Harness.Engine

open Lib

structure WorkflowNode (F : Type) where
  (nodeId status : String)
  (outputRef error startedAt completedAt : Option String)
  costIncurred : F

structure WorkflowEdge where
  (fromNodeId toNodeId edgeType : String)

structure WorkflowGraph (F : Type) where
  nodes : List (WorkflowNode F)
  edges : List WorkflowEdge
  (status updatedAt : String)
  (startedAt completedAt : Option String)
  result : Option Json

structure ConflictRecord where
  conflictType : String
  (resolutionStrategy resolutionResult : Option String)

structure Collaborators (F : Type) where
  detectConflicts : WorkflowGraph F → List ConflictRecord
  resolve : ConflictRecord → ConflictRecord
  requiresApproval : WorkflowGraph F → WorkflowNode F → Bool
  aggregate : WorkflowGraph F → Json
  positive : F → Bool

def terminal (status : String) : Bool :=
  status = "completed" || status = "failed" || status = "cancelled"

variable {F : Type}

namespace WorkflowGraph

variable (g : WorkflowGraph F) (nodeId : String)

def findNode : Option (WorkflowNode F) := g.nodes.find? fun n => n.nodeId = nodeId

def replaceNode (replacement : WorkflowNode F) : WorkflowGraph F :=
  { g with nodes := g.nodes.map fun n => if n.nodeId = nodeId then replacement else n }

/-- Every operation of the queue on one node: find it and put another in its place. -/
def rewrite (f : WorkflowNode F → WorkflowNode F) : WorkflowGraph F :=
  match g.findNode nodeId with
  | none => g
  | some node => g.replaceNode nodeId (f node)

def updateNode (status : String) : WorkflowGraph F :=
  g.rewrite nodeId fun node => { node with
    status := status
    startedAt := if status = "running" && node.startedAt.isNone then some "now" else node.startedAt
    completedAt :=
      if status = "completed" || status = "failed" then some "now" else node.completedAt }

def start : WorkflowGraph F := g.updateNode nodeId "running"

def complete (outputRef : String) : WorkflowGraph F :=
  g.rewrite nodeId fun node => { node with
    status := "completed"
    outputRef := some outputRef
    completedAt := some "now" }

def fail (error : String) : WorkflowGraph F :=
  g.rewrite nodeId fun node => { node with
    status := "failed"
    error := some error
    completedAt := some "now" }

/-- `WorkQueue::cancel`. -/
def cancelNode : WorkflowGraph F :=
  match g.findNode nodeId with
  | none => g
  | some node => if terminal node.status then g else g.updateNode nodeId "cancelled"

def dependenciesOf : List String :=
  (g.edges.filter fun e => e.toNodeId = nodeId && e.edgeType = "dependency").map (·.fromNodeId)

def readyNodes : List String :=
  let completed := (g.nodes.filter fun n => n.status = "completed").map (·.nodeId)
  let ready := g.nodes.filter fun n =>
    n.status = "pending" && (g.dependenciesOf n.nodeId).all (· ∈ completed)
  (ready.map (·.nodeId)).insertionSort (· ≤ ·)

/-- `DependencyResolver::has_cycle`, with the nodes in the order of its map of colors. Edges of any
type count. -/
def hasCycle (order : List String) : Bool :=
  CycleSearch.dfsAll (fun nid => (g.edges.filter fun e => e.fromNodeId = nid).map (·.toNodeId))
    (g.nodes.map (·.nodeId)) order

def setStatus (status : String) : WorkflowGraph F :=
  { g with
    status := status
    updatedAt := "now"
    startedAt := if status = "running" && g.startedAt.isNone then some "now" else g.startedAt
    completedAt := if terminal status then some "now" else none }

def isComplete : Bool := g.nodes.all fun n => terminal n.status

def startReadyNodes : WorkflowGraph F := g.readyNodes.foldl start g

variable (c : Collaborators F)

def checkApprovalNeeded : Bool :=
  g.nodes.any fun node =>
    (node.status = "completed" || node.status = "failed" || node.status = "waiting_human") &&
      c.requiresApproval g node

def handleFailedNodes : WorkflowGraph F :=
  if (g.nodes.filter fun n => n.status = "failed" || n.status = "cancelled").any
    (c.requiresApproval g) then g.setStatus "waiting_human" else g

def resolveConflicts (conflicts : List ConflictRecord) : WorkflowGraph F :=
  if conflicts.any fun r => (c.resolve r).resolutionResult = some "workflow_cancelled" then
    g.setStatus "cancelled"
  else g

/-- The part of a tick for a graph without open nodes. -/
def finish : WorkflowGraph F :=
  let hasFailed := g.nodes.any fun n => n.status = "failed" || n.status = "cancelled"
  let g := if hasFailed then g.handleFailedNodes c else g
  let unresolved := (c.detectConflicts g).filter (·.resolutionStrategy.isNone)
  let g := if unresolved.isEmpty then g else g.resolveConflicts c unresolved
  if !unresolved.isEmpty && g.status = "cancelled" then g
  else if g.checkApprovalNeeded c then g.setStatus "waiting_human"
  else if hasFailed && g.status ≠ "failed" && g.status ≠ "cancelled" then g.setStatus "failed"
  else { g with
    status := "completed"
    completedAt := some "now"
    result := some (c.aggregate g) }

def tick : WorkflowGraph F :=
  if terminal g.status then g
  else
    let g := g.startReadyNodes
    if g.isComplete then g.finish c
    else if g.status = "created" || g.status = "decomposed" then g.setStatus "running"
    else g

/-- `WorkflowEngine::cancel`. -/
def cancel : WorkflowGraph F :=
  let nodeIds := (g.nodes.filter fun n => !terminal n.status).map (·.nodeId)
  (nodeIds.foldl cancelNode g).setStatus "cancelled"

def updateNodeField (costIncurred : F) : WorkflowGraph F :=
  { g with nodes := g.nodes.map fun n =>
    if n.nodeId = nodeId then { n with costIncurred := costIncurred } else n }

def completeNode (outputRef : String) (cost : F) (withinBudget : Bool) : WorkflowGraph F :=
  let g := g.complete nodeId outputRef
  if c.positive cost then
    if (g.findNode nodeId).isSome && !withinBudget then g.setStatus "failed"
    else g.updateNodeField nodeId cost
  else g

inductive Call (F : Type) where
  | tick
  | completeNode (nodeId outputRef : String) (cost : F) (withinBudget : Bool)
  | failNode (nodeId error : String)
  | cancel

def call : Call F → WorkflowGraph F
  | .tick => g.tick c
  | .completeNode nodeId outputRef cost withinBudget =>
    g.completeNode nodeId c outputRef cost withinBudget
  | .failNode nodeId error => g.fail nodeId error
  | .cancel => g.cancel

def run (calls : List (Call F)) : WorkflowGraph F := calls.foldl (call · c) g

end WorkflowGraph

end Harness.Engine
