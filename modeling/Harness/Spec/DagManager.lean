import Harness.Lib.CycleSearch
import Harness.Lib.Json
import Harness.Lib.Refusal
import Mathlib.Data.List.Sort
import Mathlib.Data.String.Basic

/-! The DAG manager: a graph in memory, and the six ways in which a proposal changes it. A proposal
is either applied as a whole or leaves the graph as it was. The graphs before each mutation are kept
for a rollback. -/

namespace Harness

open Lib

structure DAGNode where
  nodeId : String
  taskId : Option String
  (nodeType status tier : String)
  metadata : List (String × Json)

structure DAGEdge where
  (edgeId fromNode toNode dependencyType status : String)
deriving DecidableEq

structure DAGState where
  dagId : String
  version : ℕ
  nodes : List DAGNode
  edges : List DAGEdge
  (createdAt updatedAt : String)

inductive MutationType where
  | addNode
  | removeNode
  | addEdge
  | removeEdge
  | rewireEdge
  | updateNode
  | other (text : String)
deriving DecidableEq

def MutationType.asStr : MutationType → String
  | .addNode => "add_node"
  | .removeNode => "remove_node"
  | .addEdge => "add_edge"
  | .removeEdge => "remove_edge"
  | .rewireEdge => "rewire_edge"
  | .updateNode => "update_node"
  | .other text => text

structure DAGMutationProposal where
  (proposalId dagId : String)
  mutationType : MutationType
  (targetNodeId targetEdgeId : Option String)
  payload : List (String × Json)
  reason : String
  requiresApproval : Bool
  status : String := "pending"

def DAGMutationProposal.text (p : DAGMutationProposal) (key : String) : Option String :=
  (Json.obj p.payload).text key

def DAGMutationProposal.metadata (p : DAGMutationProposal) : Option (List (String × Json)) :=
  (p.payload.lookup "metadata").bind Json.asObject

variable (nodes : List DAGNode)

def findNode (nodeId : String) : Option DAGNode :=
  nodes.find? fun n => n.nodeId = nodeId

def findEdge (edges : List DAGEdge) (edgeId : String) : Option DAGEdge :=
  edges.find? fun e => e.edgeId = edgeId

/-- The targets of the edges from a node, if the node is there. -/
def adjacent (edges : List DAGEdge) (nodeId : String) : List String :=
  if nodeId ∈ nodes.map DAGNode.nodeId then
    (edges.filter fun e => e.fromNode = nodeId).map DAGEdge.toNode
  else []

def hasCycle (edges : List DAGEdge) : Bool :=
  CycleSearch.search (adjacent nodes edges) (nodes.map DAGNode.nodeId)
    ((nodes.map DAGNode.nodeId).insertionSort (· ≤ ·))

def requiresApproval (p : DAGMutationProposal) (st : DAGState) : Bool :=
  p.requiresApproval ||
    (p.mutationType = .removeNode &&
      (p.targetNodeId.bind (findNode st.nodes)).any fun n =>
        n.status = "running" || n.status = "completed") ||
    (p.mutationType = .rewireEdge &&
      ((p.targetEdgeId.bind (findEdge st.edges)).bind fun e => findNode st.nodes e.fromNode).any
        fun n => n.status = "completed")

namespace DAGState

variable (st : DAGState)

def next (p : DAGMutationProposal) (nodes : List DAGNode) (edges : List DAGEdge) : DAGState :=
  { st with version := st.version + 1, nodes := nodes, edges := edges, updatedAt := p.proposalId }

def newNode (nodeId : String) (p : DAGMutationProposal) : DAGNode where
  nodeId := nodeId
  taskId := p.text "task_id"
  nodeType := (p.text "node_type").getD "task"
  status := (p.text "status").getD "pending"
  tier := (p.text "tier").getD "cheap_executor"
  metadata := p.metadata.getD []

def applyAddNode (p : DAGMutationProposal) : Except String DAGState := do
  let nodeId ← required (p.text "node_id") "missing node_id"
  refuse (findNode st.nodes nodeId).isSome ("node " ++ nodeId ++ " already exists")
  pure (st.next p (st.nodes ++ [newNode nodeId p]) st.edges)

def applyRemoveNode (p : DAGMutationProposal) : Except String DAGState := do
  let nodeId ← required p.targetNodeId "missing target_node_id"
  refuse (findNode st.nodes nodeId).isNone ("node " ++ nodeId ++ " not found")
  let connected := st.edges.filter fun e => e.fromNode = nodeId || e.toNode = nodeId
  refuse (!connected.isEmpty) ("node " ++ nodeId ++ " has " ++ toString connected.length ++
    " connected edges; remove them first")
  pure (st.next p (st.nodes.filter fun n => n.nodeId ≠ nodeId) st.edges)

def newEdge (edgeId fromNode toNode : String) (p : DAGMutationProposal) : DAGEdge where
  edgeId := edgeId
  fromNode := fromNode
  toNode := toNode
  dependencyType := (p.text "dependency_type").getD "hard"
  status := (p.text "status").getD "pending"

def applyAddEdge (p : DAGMutationProposal) : Except String DAGState := do
  let edgeId ← required (p.text "edge_id") "missing edge_id"
  let fromNode ← required (p.text "from_node") "missing from_node"
  let toNode ← required (p.text "to_node") "missing to_node"
  refuse (findNode st.nodes fromNode).isNone ("from_node " ++ fromNode ++ " not found")
  refuse (findNode st.nodes toNode).isNone ("to_node " ++ toNode ++ " not found")
  refuse (findEdge st.edges edgeId).isSome ("edge " ++ edgeId ++ " already exists")
  let edges := st.edges ++ [newEdge edgeId fromNode toNode p]
  refuse (hasCycle st.nodes edges) ("adding edge " ++ edgeId ++ " would create a cycle")
  pure (st.next p st.nodes edges)

def applyRemoveEdge (p : DAGMutationProposal) : Except String DAGState := do
  let edgeId ← required p.targetEdgeId "missing target_edge_id"
  refuse (findEdge st.edges edgeId).isNone ("edge " ++ edgeId ++ " not found")
  pure (st.next p st.nodes (st.edges.filter fun e => e.edgeId ≠ edgeId))

/-- The edge that the proposal makes of the one it names. -/
def rewired (e : DAGEdge) (p : DAGMutationProposal) : DAGEdge :=
  { e with
    fromNode := (p.text "from_node").getD e.fromNode
    toNode := (p.text "to_node").getD e.toNode
    dependencyType := (p.text "dependency_type").getD e.dependencyType }

def applyRewireEdge (p : DAGMutationProposal) : Except String DAGState := do
  let edgeId ← required p.targetEdgeId "missing target_edge_id"
  let edge ← required (findEdge st.edges edgeId) ("edge " ++ edgeId ++ " not found")
  let edge' := rewired edge p
  refuse (findNode st.nodes edge'.fromNode).isNone ("from_node " ++ edge'.fromNode ++ " not found")
  refuse (findNode st.nodes edge'.toNode).isNone ("to_node " ++ edge'.toNode ++ " not found")
  let edges := (st.edges.filter fun e => e.edgeId ≠ edge.edgeId) ++ [edge']
  refuse (hasCycle st.nodes edges) ("rewiring edge " ++ edgeId ++ " would create a cycle")
  pure (st.next p st.nodes edges)

/-- The node that the proposal makes of the one it names. -/
def updated (n : DAGNode) (p : DAGMutationProposal) : DAGNode :=
  { n with
    taskId := ((p.payload.lookup "task_id").map fun v => v.asStr.getD "").or n.taskId
    nodeType := (p.text "node_type").getD n.nodeType
    status := (p.text "status").getD n.status
    tier := (p.text "tier").getD n.tier
    metadata := p.metadata.getD n.metadata }

def applyUpdateNode (p : DAGMutationProposal) : Except String DAGState := do
  let nodeId ← required p.targetNodeId "missing target_node_id"
  let node ← required (findNode st.nodes nodeId) ("node " ++ nodeId ++ " not found")
  pure (st.next p (st.nodes.map fun n => if n.nodeId = nodeId then updated node p else n) st.edges)

def applyMutation (p : DAGMutationProposal) : Except String DAGState := do
  refuse (p.dagId ≠ st.dagId) ("dag_id mismatch: expected " ++ st.dagId ++ ", got " ++ p.dagId)
  let apply ← match p.mutationType with
    | .addNode => .ok applyAddNode
    | .removeNode => .ok applyRemoveNode
    | .addEdge => .ok applyAddEdge
    | .removeEdge => .ok applyRemoveEdge
    | .rewireEdge => .ok applyRewireEdge
    | .updateNode => .ok applyUpdateNode
    | .other text => .error ("unknown mutation_type: " ++ text)
  refuse (Harness.requiresApproval p st) "mutation requires approval; set status=approved to proceed"
  apply st p

/-- The manager goes on with its graph when a proposal fails. -/
def afterMutation (p : DAGMutationProposal) : DAGState :=
  match st.applyMutation p with
  | .ok st' => st'
  | .error _ => st

/-- `DAGManager::new`. -/
def new (dagId timestamp : String) : DAGState where
  dagId := dagId
  version := 0
  nodes := []
  edges := []
  createdAt := timestamp
  updatedAt := timestamp

end DAGState

structure DAGMutationResult where
  proposalId : String
  applied : Bool
  newDagVersion : ℕ
  rolledBack : Bool
  errors : List String

/-- The history has the newest first. The id of the manager is that of its state, which neither a
mutation nor a rollback changes. -/
structure DAGManager where
  state : DAGState
  history : List (DAGState × DAGMutationProposal)

namespace DAGManager

def new (dagId timestamp : String) : DAGManager := ⟨.new dagId timestamp, []⟩

variable (m : DAGManager)

def applyMutation (p : DAGMutationProposal) : DAGManager × DAGMutationResult :=
  match m.state.applyMutation p with
  | .ok st => (⟨st, (m.state, p) :: m.history⟩, ⟨p.proposalId, true, st.version, false, []⟩)
  | .error e => (m, ⟨p.proposalId, false, m.state.version, false, [e]⟩)

/-- The loop of `rollback`. -/
def popTo (toVersion : ℤ) : DAGState → List (DAGState × DAGMutationProposal) → DAGManager
  | st, [] => ⟨st, []⟩
  | st, (prev, p) :: history =>
    if st.version > toVersion then popTo toVersion prev history else ⟨st, (prev, p) :: history⟩

def rollback (toVersion : ℤ) : DAGManager := popTo toVersion m.state m.history

def nodeIds : List String := m.state.nodes.map DAGNode.nodeId

def validateDag : List String :=
  (m.state.edges.flatMap fun e =>
      (if e.fromNode ∈ m.nodeIds then []
        else ["edge " ++ e.edgeId ++ ": from_node " ++ e.fromNode ++ " not found"]) ++
      if e.toNode ∈ m.nodeIds then []
        else ["edge " ++ e.edgeId ++ ": to_node " ++ e.toNode ++ " not found"]) ++
    if hasCycle m.state.nodes m.state.edges then ["DAG contains a cycle"] else []

def nodesReady (completed : Finset String) : List DAGNode :=
  let ready := m.state.nodes.filter fun n =>
    !(n.nodeId ∈ completed || n.status ≠ "pending") &&
      ((m.state.edges.filter fun e => e.toNode = n.nodeId).map DAGEdge.fromNode).all (· ∈ completed)
  ready.insertionSort fun a b => a.nodeId ≤ b.nodeId

inductive Call where
  | applyMutation (p : DAGMutationProposal)
  | rollback (toVersion : ℤ)

def call : Call → DAGManager
  | .applyMutation p => (m.applyMutation p).1
  | .rollback toVersion => m.rollback toVersion

def run (calls : List Call) : DAGManager := calls.foldl call m

end DAGManager

end Harness
