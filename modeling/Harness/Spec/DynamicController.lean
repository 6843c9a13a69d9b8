import Harness.Spec.DagMutations
import Harness.Spec.WorkflowStore

/-! The dynamic controller: one tick of a run. It recovers failed nodes and reviews completed ones by
batches of DAG mutations that a decomposer proposes, and lets an executor take one node further. A
controller lives for one tick; its counters are read back from the events of the run. Orchestration
decisions, feedback, pool metrics and queue positions are left out. -/

namespace Harness

open Lib

structure DynamicControllerConfig where
  maxTicksPerRun : ℕ := 100
  maxMutationsPerRun : ℕ := 20
  approvalRequiredForMutation : Bool := false
  autoFixOnFailure : Bool := true
  admissionCheckEnabled : Bool := true

structure NodeProposal where
  (nodeId nodeType taskType : String)
  dependsOn : List String
  reason : String
  profileId : Option String

inductive DecompositionTrigger where
  | testFailure (nodeId error : String)
  | qualityFailure (nodeId reason : String)

/-- The mutations that a proposed node stands for: the node, and an edge from each node it depends
on. -/
def nodeMutations (profileOf : String → String) (runId : String) (proposal : NodeProposal) :
    List DAGMutationProposal :=
  let node : DAGMutationProposal :=
    { proposalId := "decompose_node_" ++ proposal.nodeId
      dagId := runId
      mutationType := .addNode
      targetNodeId := none
      targetEdgeId := none
      payload :=
        [("node_id", .str proposal.nodeId),
          ("node_type", .str proposal.nodeType),
          ("task_type", .str proposal.taskType),
          ("status", .str "pending"),
          ("profile_id", .str (proposal.profileId.getD (profileOf proposal.taskType)))]
      reason := proposal.reason
      requiresApproval := false }
  node :: proposal.dependsOn.map fun dep =>
    { proposalId := "decompose_edge_" ++ dep ++ "_" ++ proposal.nodeId
      dagId := runId
      mutationType := .addEdge
      targetNodeId := none
      targetEdgeId := none
      payload :=
        [("edge_id", .str ("edge-" ++ dep ++ "-" ++ proposal.nodeId)),
          ("from_node", .str dep),
          ("to_node", .str proposal.nodeId)]
      reason := "dependency: " ++ dep ++ " -> " ++ proposal.nodeId
      requiresApproval := false }

def nodeProposalsToDagMutations (profileOf : String → String) (runId : String)
    (proposals : List NodeProposal) : List DAGMutationProposal :=
  proposals.flatMap (nodeMutations profileOf runId)

structure ControlledRun extends DagRun where
  status : String
  pauseReason : Option String

def ControlledRun.record (r : ControlledRun) (event : RunEvent) : ControlledRun :=
  { r with toDagRun := r.toDagRun.record event }

/-- What an executor makes of the run in one tick: statuses and results of nodes that are there, the
run itself, and events of its own. -/
structure ExecutorOutcome where
  status : String → String → String
  result : String → Option Json
  notes : List String
  runStatus : String
  pauseReason : Option String

def withResult (o : ExecutorOutcome) (n : DagNodeRow) : DagNodeRow :=
  match o.result n.nodeId with
  | none => { n with status := o.status n.nodeId n.status }
  | some result =>
    { n with
      status := o.status n.nodeId n.status
      nodeJson := n.nodeJson.set "result" result
      named := (Json.text_set_of_ne (by decide)).trans n.named }

lemma withResult_nodeId {o : ExecutorOutcome} (n : DagNodeRow) :
    (withResult o n).nodeId = n.nodeId := by
  unfold withResult
  split <;> rfl

def ControlledRun.executed (r : ControlledRun) (o : ExecutorOutcome) : ControlledRun :=
  { r with
    nodes := r.nodes.map (withResult o) withResult_nodeId
    events := r.events ++ o.notes.map RunEvent.other
    status := o.runStatus
    pauseReason := o.pauseReason }

def requestWorkflowRunResume (runId : String) (r : ControlledRun) : Except String ControlledRun := do
  requireRunExecutionOwner runId r.pauseReason none
  pure { r.record (.other "workflow_resume_requested") with status := "running" }

def runEventLimit : ℕ := 10000

def RunEvent.isApplied : RunEvent → Bool
  | .applied .. => true
  | _ => false

def RunEvent.isTickStarted : RunEvent → Bool
  | .tickStarted => true
  | _ => false

/-- `workflow_event_count`. -/
def DagRun.eventCount (r : DagRun) (isOfType : RunEvent → Bool) : ℕ :=
  (r.events.take runEventLimit).countP isOfType

def isTerminal (status : String) : Bool :=
  status = "completed" || status = "failed" || status = "cancelled"

def nodeStatus (n : Json) : String := (shownStatus n).getD "unknown"

def qualityPasses (n : Json) : Bool :=
  match n.get? "result" with
  | some (.obj result) =>
    match (Json.obj result).get? "quality" with
    | some (.obj quality) =>
      match (Json.obj quality).get? "passed" with
      | some (.bool passed) => passed
      | _ => true
    | some (.bool false) => false
    | _ => true
  | _ => true

inductive ControllerAction where
  | nodeExecuted (nodeId status : String)
  | nodeRetried (nodeId : String) (attempt : ℤ)
  | graphMutated (proposalId mutationType : String)
  | approvalRequested (nodeId reason : String)
  | runCompleted
  | runFailed (reason : String)
  | noAction (reason : String)

/-- What a tick meets outside the run. -/
structure ControllerWorld where
  now : String
  profileOf : String → String
  decompose : DecompositionTrigger → List String → List NodeProposal
  poolAcquired : Bool
  executor : Except String (ExecutorOutcome × List ControllerAction)

/-- A tick on its way. -/
structure TickState where
  run : ControlledRun
  (mutationsAppliedTotal mutationsThisTick : ℕ)
  actions : List ControllerAction
  recoveredAny : Bool

def appliedResults (results : List BatchResult) : ℕ := results.countP BatchResult.applied

namespace TickState

variable (cfg : DynamicControllerConfig) (w : ControllerWorld) (runId : String)

variable (s : TickState)

def act (action : ControllerAction) : TickState :=
  { s with actions := s.actions ++ [action] }

def applyBatch (proposals : List DAGMutationProposal) : TickState :=
  let b := applyDagMutationsBatch runId w.now s.run.toDagRun proposals
  let appliedCount := appliedResults b.results
  { s with
    run := { s.run with toDagRun := b.run }
    mutationsAppliedTotal := s.mutationsAppliedTotal + appliedCount
    mutationsThisTick := s.mutationsThisTick + appliedCount }

/-- `apply_failed_node_recovery`, over the failed nodes among `nodes`. -/
def applyFailedNodeRecovery (nodes : List Json) : List Json → TickState → TickState × Except String Unit
  | [], s => (s, .ok ())
  | failed :: rest, s =>
    if cfg.maxMutationsPerRun ≤ s.mutationsAppliedTotal then (s, .ok ())
    else
      let failedId := (failed.text "node_id").getD ""
      if failedId = "" then applyFailedNodeRecovery nodes rest s
      else
        let error := ((failed.get? "result").bind fun r => r.text "error_message").getD "unknown error"
        let proposals := w.decompose (.testFailure failedId error)
          (nodes.filterMap fun n => n.text "node_id")
        if proposals.isEmpty then applyFailedNodeRecovery nodes rest s
        else if cfg.approvalRequiredForMutation then
          applyFailedNodeRecovery nodes rest (s.act (.approvalRequested failedId
            ("auto-fix for failed node " ++ failedId ++ " requires approval")))
        else
          let remaining := cfg.maxMutationsPerRun - s.mutationsAppliedTotal
          if remaining < proposals.length then
            (s.act (.approvalRequested failedId "auto-fix would exceed max_mutations_per_run"), .ok ())
          else
            let s' := s.applyBatch w runId (nodeProposalsToDagMutations w.profileOf runId proposals)
            if s.mutationsAppliedTotal < s'.mutationsAppliedTotal then
              match s'.run.toDagRun.updateWorkflowNodeStatus failedId "recovered" with
              | .error e => (s', .error e)
              | .ok run =>
                applyFailedNodeRecovery nodes rest
                  { s'.act (.graphMutated ("auto_fix_" ++ failedId) "add_node") with
                    run := { s'.run with toDagRun := run }
                    recoveredAny := true }
            else applyFailedNodeRecovery nodes rest s'

/-- The recovery, if it is switched on. It reports whether it has recovered a node. -/
def recoverFailedNodes (nodes : List Json) (s : TickState) : TickState × Except String Unit :=
  if cfg.autoFixOnFailure then
    applyFailedNodeRecovery cfg w runId nodes (nodes.filter fun n => nodeStatus n = "failed")
      { s with recoveredAny := false }
  else ({ s with recoveredAny := false }, .ok ())

def qualityReviews (nodes : List Json) : List Json → TickState → TickState
  | [], s => s
  | completed :: rest, s =>
    if cfg.maxMutationsPerRun ≤ s.mutationsAppliedTotal then s
    else
      let nodeId := (completed.text "node_id").getD ""
      if nodeId = "" then qualityReviews nodes rest s
      else if qualityPasses completed then qualityReviews nodes rest s
      else
        let reason := (((completed.get? "result").bind fun r => r.get? "quality").bind
          fun q => q.text "reason").getD "quality check failed"
        let proposals := w.decompose (.qualityFailure nodeId reason)
          (nodes.filterMap fun n => n.text "node_id")
        if proposals.isEmpty then qualityReviews nodes rest s
        else if cfg.approvalRequiredForMutation then
          qualityReviews nodes rest (s.act (.approvalRequested nodeId
            ("quality check failed for node " ++ nodeId ++ "; review node requires approval")))
        else
          let s' := s.applyBatch w runId (nodeProposalsToDagMutations w.profileOf runId proposals)
          qualityReviews nodes rest
            (if s.mutationsAppliedTotal < s'.mutationsAppliedTotal then
              s'.act (.graphMutated ("quality_review_" ++ nodeId) "add_node")
            else s')

def resumeRecovered : TickState × Except String Unit :=
  if s.recoveredAny then
    match requestWorkflowRunResume runId s.run with
    | .error e => (s, .error e)
    | .ok run => ({ s with run := run }, .ok ())
  else (s, .ok ())

def reportEnd : TickState :=
  if s.run.status = "completed" &&
      !s.actions.any fun | .runCompleted => true | _ => false then
    s.act .runCompleted
  else if s.run.status = "failed" &&
      !s.actions.any fun | .runFailed _ => true | _ => false then
    s.act (.runFailed "node_failure")
  else s

/-- The executor takes one node further, and what fails then is recovered at once. -/
def executorPhase : TickState × Except String Unit :=
  match w.executor with
  | .error e => (s, .error e)
  | .ok (outcome, actions) =>
    let s' := { s with run := s.run.executed outcome, actions := s.actions ++ actions }
    if s'.run.status = "failed" && cfg.autoFixOnFailure then
      match recoverFailedNodes cfg w runId (s'.run.nodes.rows.map DagNodeRow.shown) s' with
      | (s'', .error e) => (s'', .error e)
      | (s'', .ok ()) =>
        match s''.resumeRecovered runId with
        | (s'', .error e) => (s'', .error e)
        | (s'', .ok ()) => (s''.reportEnd, .ok ())
    else (s'.reportEnd, .ok ())

/-- Reviews, the limit, and the executor. -/
def laterPhases (nodes : List Json) (s : TickState) : TickState × Except String Unit :=
  let s' := qualityReviews cfg w runId nodes (nodes.filter fun n => nodeStatus n = "completed") s
  if cfg.maxMutationsPerRun ≤ s'.mutationsAppliedTotal &&
      nodes.any fun n => nodeStatus n = "pending" then
    ({ s'.act (.approvalRequested "*"
        "max_mutations_per_run reached; approval required to continue") with
      run := s'.run.record (.other "controller.mutation_limit_reached") }, .ok ())
  else if !w.poolAcquired then
    (s'.act (.noAction "executor pool acquire failed; capacity exhausted"), .ok ())
  else executorPhase cfg w runId s'

end TickState

open TickState

/-- `DynamicWorkflowController::tick`, with the counters as a new controller restores them. -/
def controllerTick (cfg : DynamicControllerConfig) (w : ControllerWorld) (runId : String)
    (r : ControlledRun) : TickState × Except String Unit :=
  let total := r.eventCount RunEvent.isApplied
  let idle (reason : String) : TickState := ⟨r, total, 0, [.noAction reason], false⟩
  let paused := r.pauseReason.getD ""
  if cfg.admissionCheckEnabled && paused ≠ "" then (idle ("run paused: " ++ paused), .ok ())
  else if cfg.maxTicksPerRun ≤ r.eventCount RunEvent.isTickStarted then
    (idle "max_ticks_per_run reached", .ok ())
  else
    let s : TickState := ⟨r.record .tickStarted, total, 0, [], false⟩
    let nodes := r.nodes.rows.map DagNodeRow.shown
    let terminalRepairAllowed := r.status = "failed" && cfg.autoFixOnFailure &&
      nodes.any fun n => nodeStatus n = "failed"
    if isTerminal r.status && !terminalRepairAllowed then
      let s := s.act (.noAction ("run is already terminal: " ++ r.status))
      (if r.status = "completed" then s.act .runCompleted
        else if r.status = "failed" then s.act (.runFailed "node_failure")
        else s, .ok ())
    else
      match recoverFailedNodes cfg w runId nodes s with
      | (s, .error e) => (s, .error e)
      | (s, .ok ()) =>
        if terminalRepairAllowed then
          if s.recoveredAny then
            match s.resumeRecovered runId with
            | (s, .error e) => (s, .error e)
            | (s, .ok ()) => laterPhases cfg w runId nodes s
          else (s, .ok ())
        else laterPhases cfg w runId nodes s

def controllerTicks (cfg : DynamicControllerConfig) (runId : String) (r : ControlledRun)
    (ticks : List ControllerWorld) : ControlledRun :=
  ticks.foldl (fun r w => (controllerTick cfg w runId r).1.run) r

end Harness
