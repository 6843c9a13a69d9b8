import Harness.Spec.Validation

/-! What the store does with a tree: the root it creates for a workflow node and
the tree it would persist after each of its transactions. A transaction that
returns an error writes nothing. -/

namespace Harness

open Lib

def recursiveRootAuthorityVersion : String := "recursive_root_authority.v1"

/-- The part of `RecursiveRootAuthority` a root tree is built from. -/
structure RecursiveRootAuthority where
  schemaVersion : String
  scope : RecursiveScope
  capabilities : Finset String
  (treeBudget childBudget : RecursiveBudget)
deriving DecidableEq

/-- The fields of a workflow node's metadata that the root is built from; an absent
authority and one that does not parse are kept apart. -/
structure RootMetadata where
  (recursiveRootNodeId taskType agentId agentObjective creationReceiptSha256 : Option String)
  authority : Option (Option RecursiveRootAuthority)

/-- The tenant and the workspace of the workflow run. -/
structure RunBoundaries where
  (tenantId workspaceId : Option String)

def requireText (field : Option String) (message : String) : Except String String :=
  match field.filter (· ≠ "") with
  | some value => .ok value
  | none => .error message

def requireAuthority (authority : Option (Option RecursiveRootAuthority)) :
    Except String RecursiveRootAuthority :=
  match authority with
  | none => .error "recursive root authority binding is missing"
  | some none => .error "recursive root authority binding is malformed"
  | some (some authority) => do
    refuse (authority.schemaVersion ≠ recursiveRootAuthorityVersion ||
        authority.capabilities = ∅ || authority.scope.capabilities ≠ authority.capabilities ||
        !authority.treeBudget.canSpend authority.childBudget || !authority.treeBudget.isNonzero ||
        !authority.childBudget.isNonzero)
      "recursive root authority binding is inconsistent"
    pure authority

/-- An operation's failure reason as the error text of its transaction. -/
def reasonText {α : Type} (r : Except RecursiveFailureReason α) : Except String α :=
  r.mapError RecursiveFailureReason.asStr

/-- `mint` is `recursive_root_creation_receipt_sha256` at the root's identity. -/
def recursiveRootTreeFromMetadata (x : Externals)
    (mint : (plan agent : String) → String) (rootRunId workflowId nodeId : String)
    (metadata : RootMetadata) (boundaries : RunBoundaries) : Except String RecursiveTree := do
  refuse (metadata.recursiveRootNodeId ≠ some nodeId || metadata.taskType ≠ some "agent_step")
    "recursive_node_identity_malformed"
  let agentId ← requireText metadata.agentId "recursive root agent identity is missing"
  let objective ← requireText metadata.agentObjective "recursive root objective is missing"
  let planReceipt ← requireText metadata.creationReceiptSha256
    "recursive root plan creation receipt is missing"
  let authority ← requireAuthority metadata.authority
  let tree := RecursiveTree.newWithRootNodeId x rootRunId workflowId nodeId objective
    authority.scope authority.capabilities authority.treeBudget
  let tree := { tree with
    rootChildBudgetLimit := some authority.childBudget
    nodes := tree.nodes.modify nodeId fun root =>
      { root with
        childBudget := authority.childBudget
        childBudgetLimit := authority.childBudget } }
  let tree ← reasonText (tree.bindRootIdentity agentId nodeId (mint planReceipt agentId))
  reasonText (tree.bindRootExecutionScope boundaries.tenantId boundaries.workspaceId)

namespace RecursiveTree

/-- Keep the tree of a successful call. -/
def treeOf {α : Type} (o : Outcome α) : Except RecursiveFailureReason RecursiveTree :=
  o.1.map fun _ => o.2

variable (env : RecursiveEnv) (t : RecursiveTree)

def syncRecursiveLease (nodeId leaseId : String) : Except RecursiveFailureReason RecursiveTree :=
  if !t.nodes.contains nodeId then .error .recursiveNodeMissing
  else treeOf (t.leaseNode env nodeId leaseId)

/-- After an attempt: either the node goes back to the queue and keeps its
reservation, or the reservation returns and the tree may be done. -/
def afterCompletion (t : RecursiveTree) (nodeId : String) (retry : Bool) :
    Except RecursiveFailureReason RecursiveTree :=
  if retry then treeOf (t.retryNode nodeId)
  else
    let t := t.releaseNodeReservationForPersistence nodeId
    let failed := (t.nodes.find? nodeId).any (·.status = .failed)
    .ok (t.finalizeTerminalTree (if failed then some nodeId else none))

def syncRecursiveCompletionWithReceipt (nodeId leaseId usageReceiptId : String)
    (success retry : Bool) (usage : RecursiveBudget) :
    Except RecursiveFailureReason RecursiveTree := do
  if !t.nodes.contains nodeId then throw .recursiveNodeMissing
  let retryAllowed ← if retry then t.retryAllowed env nodeId usage else pure false
  let t ← treeOf (t.completeNodeWithUsageReceipt nodeId leaseId usageReceiptId success usage)
  t.afterCompletion nodeId retryAllowed

def syncRecursiveRootCompletionWithReceipt (leaseId usageReceiptId : String) (success : Bool)
    (usage : RecursiveBudget) : Except RecursiveFailureReason RecursiveTree := do
  let t ← treeOf (t.completeRootWithUsageReceipt leaseId usageReceiptId success usage)
  pure (t.finalizeTerminalTree none)

/-- `retry` is what `recursive_retry_allowed` answered for this node. -/
def syncRecursiveStaleRecovery (nodeId leaseId : String) (retry : Bool) :
    Except RecursiveFailureReason RecursiveTree := do
  let t ← treeOf (t.recoverStaleLease nodeId leaseId retry)
  pure (if retry then t
    else (t.releaseNodeReservationForPersistence nodeId).finalizeTerminalTree (some nodeId))

def recordRecursiveLateUsage (nodeId attemptReceipt : String) (usage : RecursiveBudget) :
    Except RecursiveFailureReason RecursiveTree :=
  if !t.nodes.contains nodeId then .error .recursiveNodeMissing
  else treeOf (t.recordLateUsage nodeId attemptReceipt usage)

/-- The second half of a terminal failure: the node ends with its own reason and
everything else stops. -/
def terminalFailureAt (nodeId : String) (reason : RecursiveFailureReason) : RecursiveTree :=
  let t := { t with
    nodes := t.nodes.modify nodeId fun n =>
      { n with failureReason := some reason, status := .failed, version := n.version + 1 }
    executionState := .terminalFailed }
  (t.terminalizeRemainingNodes (some nodeId) .terminalFailed).bumpVersion

/-! Operator control: `set_recursive_execution_paused` on one tree. -/

def budgetExhausted : Bool :=
  t.executionState = .budgetExhausted ||
    t.nodes.rows.any (·.failureReason = some .treeBudgetExhausted)

def effectiveState (paused : Bool) (terminalReason : Option String) : RecursiveExecutionState :=
  if t.budgetExhausted then .budgetExhausted
  else if t.executionState.settled then t.executionState
  else if paused && terminalReason = some RecursiveFailureReason.recursiveKillSwitchActive.asStr then
    .killStopped
  else if paused then .operatorPaused
  else if t.executionState = .operatorPaused then .running
  else t.executionState

def terminalNodeReason : RecursiveExecutionState → RecursiveFailureReason
  | .killStopped => .recursiveKillSwitchActive
  | .budgetExhausted => .treeBudgetExhausted
  | .terminalFailed => .terminalFailed
  | .running | .completed | .operatorPaused => .operatorPaused

def setRecursiveExecutionPaused (paused : Bool) (terminalReason : Option String) : RecursiveTree :=
  let effective := t.effectiveState paused terminalReason
  let t := if t.executionState ≠ effective then
    { t with executionState := effective, version := t.version + 1 } else t
  if effective = .killStopped ∨ effective = .budgetExhausted ∨ effective = .terminalFailed then
    let terminated := t.liveIds fun n => n.parentNodeId.isSome || n.leaseId.isSome
    if terminated = [] then t
    else (t.closeNodes (terminalNodeReason effective) terminated).bumpVersion
  else t

end RecursiveTree

end Harness
