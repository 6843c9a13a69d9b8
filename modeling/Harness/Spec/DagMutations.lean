import Harness.Lib.Table
import Harness.Spec.DagManager

/-! The graph of a run as it is stored, the mutations of it, batches of proposals and the replay of
the events that the mutations leave. Everything is about one run that exists; any other is refused
before anything is read or written. Each mutation is a step of its own, and a batch is a sequence of
them: nothing keeps two batches apart. Actors, reasons and times are left out, as are the columns
that only a tick reads. -/

namespace Harness

open Lib

/-- A row of `workflow_run_nodes`. Its JSON names the node. -/
structure DagNodeRow where
  (nodeId taskType status : String)
  profileId : Option String
  nodeJson : Json
  named : nodeJson.text "node_id" = some nodeId

/-- A row of `workflow_run_edges`. Its JSON names the edge and what it connects. -/
structure DagEdgeRow where
  (edgeId fromNodeId toNodeId edgeType : String)
  edgeJson : Json
  named : edgeJson.text "edge_id" = some edgeId
  namesFrom : edgeJson.text "from_node_id" = some fromNodeId
  namesTo : edgeJson.text "to_node_id" = some toNodeId

structure RunGraph where
  nodes : Table DagNodeRow.nodeId
  edges : Table DagEdgeRow.edgeId

inductive RunEvent where
  | nodeAdded (nodeId : String)
  | nodeRemoved (nodeId : String) (removedEdges : ℕ)
  | nodeStatusUpdated (nodeId newStatus : String)
  | edgeAdded (edgeId : String)
  | edgeRemoved (edgeId : String)
  | edgeRewired (edgeId oldFrom oldTo newFrom newTo : String)
  | applied (proposalId : String) (mutationType : MutationType)
  | tickStarted
  | other (eventType : String)
deriving DecidableEq

structure DagRun extends RunGraph where
  events : List RunEvent

namespace DagRun

variable (r : DagRun)

def record (event : RunEvent) : DagRun := { r with events := r.events ++ [event] }

def insertWorkflowNode (node : Json) : Except String DagRun :=
  match h : node.text "node_id" with
  | none => .error "workflow node missing node_id"
  | some nodeId =>
    if r.nodes.contains nodeId then .error ("duplicate node_id: " ++ nodeId)
    else
      let row : DagNodeRow :=
        { nodeId := nodeId
          taskType := (node.text "task_type").getD "unknown"
          status := (node.text "status").getD "pending"
          profileId := node.text "profile_id"
          nodeJson := node
          named := h }
      .ok (record { r with nodes := r.nodes.insert row } (.nodeAdded nodeId))

/-- The edges of the node go with it, whether or not there is such a node. -/
def removeWorkflowNode (nodeId : String) : DagRun :=
  let connected : DagEdgeRow → Bool := fun e => e.fromNodeId = nodeId || e.toNodeId = nodeId
  record
    { r with
      nodes := r.nodes.filter fun n => n.nodeId ≠ nodeId
      edges := r.edges.filter fun e => !connected e }
    (.nodeRemoved nodeId (r.edges.rows.filter connected).length)

def validStatuses : List String :=
  ["pending", "running", "completed", "failed", "cancelled", "blocked", "waiting_human", "recovered"]

def withStatus (newStatus : String) (n : DagNodeRow) : DagNodeRow :=
  { n with
    status := newStatus
    nodeJson := n.nodeJson.set "status" (.str newStatus)
    named := (Json.text_set_of_ne (by decide)).trans n.named }

def updateWorkflowNodeStatus (nodeId newStatus : String) : Except String DagRun :=
  if newStatus ∉ validStatuses then .error ("invalid node status: " ++ newStatus)
  else if !r.nodes.contains nodeId then .error "Query returned no rows"
  else .ok (record { r with nodes := r.nodes.modify nodeId (withStatus newStatus) }
    (.nodeStatusUpdated nodeId newStatus))

def insertWorkflowEdge (edge : Json) : Except String DagRun :=
  match hedge : edge.text "edge_id" with
  | none => .error "workflow edge missing edge_id"
  | some edgeId =>
    if r.edges.contains edgeId then .error ("duplicate edge_id: " ++ edgeId)
    else
      match hfrom : edge.text "from_node_id" with
      | none => .error ("workflow edge " ++ edgeId ++ " missing from_node_id")
      | some fromNodeId =>
        match hto : edge.text "to_node_id" with
        | none => .error ("workflow edge " ++ edgeId ++ " missing to_node_id")
        | some toNodeId =>
          let row : DagEdgeRow :=
            { edgeId := edgeId
              fromNodeId := fromNodeId
              toNodeId := toNodeId
              edgeType := (edge.text "edge_type").getD "dependency"
              edgeJson := edge
              named := hedge
              namesFrom := hfrom
              namesTo := hto }
          .ok (record { r with edges := r.edges.insert row } (.edgeAdded edgeId))

def removeWorkflowEdge (edgeId : String) : DagRun :=
  record { r with edges := r.edges.filter fun e => e.edgeId ≠ edgeId } (.edgeRemoved edgeId)

def withEnds (newFrom newTo : String) (e : DagEdgeRow) : DagEdgeRow :=
  { e with
    fromNodeId := newFrom
    toNodeId := newTo
    edgeJson := (e.edgeJson.set "from_node_id" (.str newFrom)).set "to_node_id" (.str newTo)
    named := by
      rw [Json.text_set_of_ne (by decide), Json.text_set_of_ne (by decide)]
      exact e.named
    namesFrom := by
      rw [Json.text_set_of_ne (by decide)]
      exact Json.text_set_self e.named _ _
    namesTo := Json.text_set_self (Json.text_set_self e.named _ _) _ _ }

def rewireWorkflowEdge (edgeId : String) (newFrom newTo : Option String) : Except String DagRun :=
  match r.edges.find? edgeId with
  | none => .error "Query returned no rows"
  | some e =>
    let currentFrom := (e.edgeJson.text "from_node_id").getD ""
    let currentTo := (e.edgeJson.text "to_node_id").getD ""
    let finalFrom := newFrom.getD currentFrom
    let finalTo := newTo.getD currentTo
    .ok (record { r with edges := r.edges.modify edgeId (withEnds finalFrom finalTo) }
      (.edgeRewired edgeId currentFrom currentTo finalFrom finalTo))

end DagRun

/-- A node as `workflow_run_nodes_locked` shows it. -/
def DagNodeRow.shown (n : DagNodeRow) : Json :=
  let shown := n.nodeJson.set "db_status" (.str n.status)
  n.profileId.elim shown fun profileId => shown.set "profile_id" (.str profileId)

def shownStatus (n : Json) : Option String := (n.text "db_status").or (n.text "status")

/-- The proposal that loads a node of the stored graph into a manager. -/
def loadNode (runId : String) (n : Json) : DAGMutationProposal where
  proposalId := "load_node_" ++ (n.text "node_id").getD ""
  dagId := runId
  mutationType := .addNode
  targetNodeId := none
  targetEdgeId := none
  payload :=
    [("node_id", .str ((n.text "node_id").getD "")),
      ("node_type", .str ((n.text "task_type").getD "task")),
      ("status", .str ((shownStatus n).getD "pending")),
      ("tier", .str ((n.text "tier").getD "cheap_executor"))]
  reason := ""
  requiresApproval := false

def loadEdge (runId : String) (e : Json) : DAGMutationProposal where
  proposalId := "load_edge_" ++ (e.text "edge_id").getD ""
  dagId := runId
  mutationType := .addEdge
  targetNodeId := none
  targetEdgeId := none
  payload :=
    [("edge_id", .str ((e.text "edge_id").getD "")),
      ("from_node", .str ((e.text "from_node_id").getD "")),
      ("to_node", .str ((e.text "to_node_id").getD ""))]
  reason := ""
  requiresApproval := false

/-- The manager of a batch: it starts empty and takes in the stored graph; what it refuses is
passed over. -/
def loadManager (runId now : String) (g : RunGraph) : DAGState :=
  let proposals := g.nodes.rows.map (fun n => loadNode runId n.shown) ++
    g.edges.rows.map fun e => loadEdge runId e.edgeJson
  proposals.foldl DAGState.afterMutation (.new runId now)

def proposedNode (p : DAGMutationProposal) : Json :=
  match p.payload.lookup "node_id" with
  | none => .null
  | some nodeId =>
    let taskType := (p.payload.lookup "task_type").or (p.payload.lookup "node_type")
    let node := Json.obj
      [("node_id", nodeId),
        ("task_type", .str ((taskType.bind Json.asStr).getD "task")),
        ("status", .str ((p.text "status").getD "pending"))]
    (p.payload.lookup "profile_id").elim node fun profileId => node.set "profile_id" profileId

def proposedEdge (p : DAGMutationProposal) : Json :=
  .obj
    [("edge_id", .str ((p.text "edge_id").getD "")),
      ("from_node_id", .str ((p.text "from_node").getD "")),
      ("to_node_id", .str ((p.text "to_node").getD ""))]

/-- Write a mutation that the manager has applied. -/
def DagRun.persist (r : DagRun) (p : DAGMutationProposal) : Except String DagRun :=
  match p.mutationType with
  | .addNode => r.insertWorkflowNode (proposedNode p)
  | .removeNode => .ok (r.removeWorkflowNode (p.targetNodeId.getD ""))
  | .addEdge => r.insertWorkflowEdge (proposedEdge p)
  | .removeEdge => .ok (r.removeWorkflowEdge (p.targetEdgeId.getD ""))
  | .rewireEdge =>
    r.rewireWorkflowEdge (p.targetEdgeId.getD "") (p.text "from_node") (p.text "to_node")
  | .updateNode =>
    r.updateWorkflowNodeStatus (p.targetNodeId.getD "") ((p.text "status").getD "pending")
  | .other text => .error ("unsupported mutation type: " ++ text)

/-- What a batch reports of a proposal: the version of the manager's graph, or an error. -/
structure BatchResult where
  proposalId : String
  outcome : Except String ℕ

def BatchResult.applied (r : BatchResult) : Bool := r.outcome.isOk

structure BatchState where
  mgr : DAGState
  run : DagRun
  results : List BatchResult

def batchStep (b : BatchState) (p : DAGMutationProposal) : BatchState :=
  match b.mgr.applyMutation p with
  | .error e => { b with results := b.results ++ [⟨p.proposalId, .error e⟩] }
  | .ok mgr =>
    match b.run.persist p with
    | .error e => ⟨mgr, b.run, b.results ++ [⟨p.proposalId, .error e⟩]⟩
    | .ok run => ⟨mgr, run.record (.applied p.proposalId p.mutationType),
        b.results ++ [⟨p.proposalId, .ok mgr.version⟩]⟩

def applyDagMutationsBatch (runId now : String) (r : DagRun)
    (proposals : List DAGMutationProposal) : BatchState :=
  proposals.foldl batchStep ⟨loadManager runId now r.toRunGraph, r, []⟩

structure Replayed where
  (nodes edges : List Json)
  mutationsReplayed : ℕ

/-- Rewrite the first item that a name fits. -/
def updateNamed (key name : String) (f : Json → Json) : List Json → List Json
  | [] => []
  | v :: vs => if v.text key = some name then f v :: vs else v :: updateNamed key name f vs

def Replayed.step (st : Replayed) : RunEvent → Replayed
  | .nodeAdded nodeId =>
    { st with
      nodes :=
        if st.nodes.any fun n => n.text "node_id" = some nodeId then st.nodes
        else st.nodes ++ [.obj [("node_id", .str nodeId), ("status", .str "pending"),
          ("task_type", .str "unknown")]]
      mutationsReplayed := st.mutationsReplayed + 1 }
  | .nodeRemoved nodeId _ =>
    { st with
      nodes := st.nodes.filter fun n => n.text "node_id" ≠ some nodeId
      mutationsReplayed := st.mutationsReplayed + 1 }
  | .nodeStatusUpdated nodeId newStatus =>
    { st with
      nodes := updateNamed "node_id" nodeId (fun n => n.set "status" (.str newStatus)) st.nodes
      mutationsReplayed := st.mutationsReplayed + 1 }
  | .edgeAdded edgeId =>
    { st with
      edges :=
        if st.edges.any fun e => e.text "edge_id" = some edgeId then st.edges
        else st.edges ++ [.obj [("edge_id", .str edgeId)]]
      mutationsReplayed := st.mutationsReplayed + 1 }
  | .edgeRemoved edgeId =>
    { st with
      edges := st.edges.filter fun e => e.text "edge_id" ≠ some edgeId
      mutationsReplayed := st.mutationsReplayed + 1 }
  | .edgeRewired edgeId _ _ newFrom newTo =>
    { st with
      edges := updateNamed "edge_id" edgeId
        (fun e => (e.set "from_node_id" (.str newFrom)).set "to_node_id" (.str newTo)) st.edges
      mutationsReplayed := st.mutationsReplayed + 1 }
  | .applied .. | .tickStarted | .other _ => st

/-- The replay sees the first events of the run, up to this number. -/
def replayLimit : ℕ := 100000

def replayMutationEvents (r : DagRun) : Replayed :=
  (r.events.take replayLimit).foldl Replayed.step
    ⟨r.nodes.rows.map DagNodeRow.shown, r.edges.rows.map DagEdgeRow.edgeJson, 0⟩

end Harness
