import Harness.Spec.TreeSave
import Mathlib.Data.Prod.Lex
import Mathlib.Data.String.Lemmas

/-! The rows of a workflow run and the queries of the tick engine over them: which node is
ready, which nodes a failure blocks, and whether the run is done. Timestamps and reasons
that no query reads are left out. -/

namespace Harness

open Lib

/-- `workflow_run_nodes.status`, a text column. `other` is a text the engine gives no
meaning to. -/
inductive NodeStatus where
  | pending
  | running
  | completed
  | failed
  | cancelled
  | blocked
  | recovered
  | ready
  | leased
  | awaitingApproval
  | other (text : String)
deriving DecidableEq

def NodeStatus.ofText (text : String) : NodeStatus :=
  if text = "pending" then .pending
  else if text = "running" then .running
  else if text = "completed" then .completed
  else if text = "failed" then .failed
  else if text = "cancelled" then .cancelled
  else if text = "blocked" then .blocked
  else if text = "recovered" then .recovered
  else if text = "ready" then .ready
  else if text = "leased" then .leased
  else if text = "awaiting_approval" then .awaitingApproval
  else .other text

def NodeStatus.asStr : NodeStatus → String
  | .pending => "pending"
  | .running => "running"
  | .completed => "completed"
  | .failed => "failed"
  | .cancelled => "cancelled"
  | .blocked => "blocked"
  | .recovered => "recovered"
  | .ready => "ready"
  | .leased => "leased"
  | .awaitingApproval => "awaiting_approval"
  | .other text => text

def NodeStatus.blocks (s : NodeStatus) : Bool := s = .failed || s = .cancelled || s = .blocked

def NodeStatus.done (s : NodeStatus) : Bool :=
  s = .completed || s = .failed || s = .cancelled || s = .blocked || s = .recovered

/-- A value under a key of a JSON object. -/
inductive Marker where
  | absent
  | null
  | text (value : String)
  | other
deriving DecidableEq

namespace Marker

def asStr : Marker → Option String
  | text value => some value
  | _ => none

def isPresent (m : Marker) : Bool := m ≠ absent

/-- Absent, or a text that is not empty. -/
def wellTyped : Marker → Bool
  | absent => true
  | text value => value ≠ ""
  | _ => false

/-- `json_extract(..) IS NOT NULL`. -/
def notNull : Marker → Bool
  | text _ | other => true
  | absent | null => false

end Marker

/-- The members of a node's JSON object that the engine reads or writes. -/
structure NodeMetadata where
  (recursiveNodeId recursiveRootNodeId : Marker)
  (status completedAt result productManagedUsage taskType agentId agentObjective
    creationReceiptSha256 : Option String)
  authority : Option (Option RecursiveRootAuthority)
deriving DecidableEq

/-- `node_json`: text that does not parse, JSON that is not an object, or an object. -/
inductive NodeJson where
  | malformed (text : String)
  | scalar (text : String)
  | object (metadata : NodeMetadata)
deriving DecidableEq

namespace NodeJson

def recursiveNodeId : NodeJson → Marker
  | object m => m.recursiveNodeId
  | _ => .absent

def recursiveRootNodeId : NodeJson → Marker
  | object m => m.recursiveRootNodeId
  | _ => .absent

def parses : NodeJson → Bool
  | malformed _ => false
  | _ => true

def isObject : NodeJson → Bool
  | object _ => true
  | _ => false

/-- What a tree's binding reads of the root's row. -/
def rootMetadata : NodeJson → Option RootMetadata
  | malformed _ => none
  | scalar _ => some ⟨none, none, none, none, none, none⟩
  | object m => some
    { recursiveRootNodeId := m.recursiveRootNodeId.asStr
      taskType := m.taskType
      agentId := m.agentId
      agentObjective := m.agentObjective
      creationReceiptSha256 := m.creationReceiptSha256
      authority := m.authority }

end NodeJson

structure NodeRow where
  (runId nodeId taskType : String)
  status : NodeStatus
  attemptCount : ℕ
  leasedAt : Option String
  nodeJson : NodeJson
deriving DecidableEq

namespace NodeRow

def key (r : NodeRow) : String ×ₗ String := toLex (r.runId, r.nodeId)

def isAgentStep (r : NodeRow) : Bool := r.taskType = "agent_step"

end NodeRow

structure EdgeRow where
  (runId fromNodeId toNodeId : String)
deriving DecidableEq

/-- The two tables a run's graph is kept in. -/
structure WorkflowGraph where
  nodes : Table NodeRow.key
  edges : List EdgeRow
deriving DecidableEq

namespace WorkflowGraph

variable (g : WorkflowGraph) (runId : String)

def find? (nodeId : String) : Option NodeRow := g.nodes.find? (toLex (runId, nodeId))

/-- The rows of a run, in the order of their node ids. -/
def rowsOf : List NodeRow := g.nodes.rows.filter (·.runId = runId)

/-- The rows that the edges into a node come from. -/
def predecessors (nodeId : String) : List NodeRow :=
  (g.edges.filter fun e => e.runId = runId ∧ e.toNodeId = nodeId).filterMap
    fun e => g.find? runId e.fromNodeId

/-- Ordinary work waits for completed predecessors; a fix also runs on what failed. -/
def predecessorAllows (taskType : String) (status : NodeStatus) : Bool :=
  status = .completed || (taskType = "fix" && (status = .failed || status = .recovered))

def isReady (r : NodeRow) : Bool :=
  r.status = .pending &&
    (g.predecessors runId r.nodeId).all fun p => predecessorAllows r.taskType p.status

def findReadyNode (skip : List String) (agentExecutor : Option Bool) : Option NodeRow :=
  (g.rowsOf runId).find? fun r =>
    !skip.contains r.nodeId && agentExecutor.all (· = r.isAgentStep) && g.isReady runId r

def isBlocked (r : NodeRow) : Bool :=
  r.runId = runId && r.status = .pending &&
    (g.predecessors runId r.nodeId).any fun p => p.status.blocks

/-- One turn of the loop of `propagate_failed_dependencies`. -/
def blockOnce : WorkflowGraph :=
  { g with nodes := g.nodes.map fun r => if g.isBlocked runId r then { r with status := .blocked } else r }

def blockAll : ℕ → WorkflowGraph → WorkflowGraph
  | 0, g => g
  | fuel + 1, g =>
    if g.nodes.rows.any (g.isBlocked runId) then blockAll fuel (g.blockOnce runId) else g

/-- Each turn takes a pending node away, so there are at most as many turns as nodes. -/
def propagateFailedDependencies : WorkflowGraph := blockAll runId (g.nodes.size + 1) g

def checkRunCompletion : Bool × Bool :=
  let statuses := (g.rowsOf runId).map NodeRow.status
  if statuses = [] then (true, false)
  else (statuses.all NodeStatus.done, statuses.any fun s => s = .failed || s = .blocked)

end WorkflowGraph

end Harness
