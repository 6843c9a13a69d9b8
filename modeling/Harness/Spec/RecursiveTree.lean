import Harness.Lib.Table
import Harness.Spec.Budget
import Mathlib.Data.Finset.Basic
import Mathlib.Data.String.Basic

/-! The recursive task tree: its records, its root constructors and the text
identities its nodes are named by. Digests and Unicode classes come from libraries
and enter through `Externals`. -/

namespace Harness

open Lib

def recursiveSchemaVersion : String := "recursive_execution.v1"
def maxRecursiveDepth : ℕ := 2
def maxAcceptedChildrenPerNode : ℕ := 3
def maxRecursiveNodesPerRoot : ℕ := 12
def maxRecursiveLeases : ℕ := 3
def maxRecursiveRetries : ℕ := 1
def maxObjectiveBytes : ℕ := 4096
def maxContextBytes : ℕ := 8192
def maxRecursiveTreeBytes : ℕ := 131072
def maxScopeValueBytes : ℕ := 1024
def maxScopeItems : ℕ := 64
def maxRecursiveDecisionEvidenceRefs : ℕ := 8
def maxRecursiveEvidenceRefBytes : ℕ := 256
def objectiveIdentityVersion : String := "recursive-objective.v2"
def recursiveNonHeritableCapabilities : List String := ["handoff"]

inductive RecursiveExecutionState where
  | running
  | completed
  | operatorPaused
  | budgetExhausted
  | killStopped
  | terminalFailed
deriving DecidableEq, Repr

inductive RecursiveFailureReason where
  | recursiveDisabled
  | depthExceeded
  | childLimitExceeded
  | treeBudgetExhausted
  | duplicateObjective
  | ancestorCycle
  | capabilityEscalation
  | scopeMismatch
  | staleParent
  | proposalConflict
  | receiptConflict
  | schedulerCapacityExhausted
  | recursiveKillSwitchActive
  | operatorPaused
  | terminalFailed
  | executionFailure
  | retryExhausted
  | recursiveTreeMissing
  | recursiveNodeMissing
  | recursiveUsageUnavailable
  | fixtureUsageContractMissing
  | fixtureUsageContractInvalid
  | recursiveNodeIdentityMalformed
deriving DecidableEq, Repr

def RecursiveFailureReason.asStr : RecursiveFailureReason → String
  | .recursiveDisabled => "recursive_disabled"
  | .depthExceeded => "depth_exceeded"
  | .childLimitExceeded => "child_limit_exceeded"
  | .treeBudgetExhausted => "tree_budget_exhausted"
  | .duplicateObjective => "duplicate_objective"
  | .ancestorCycle => "ancestor_cycle"
  | .capabilityEscalation => "capability_escalation"
  | .scopeMismatch => "scope_mismatch"
  | .staleParent => "stale_parent"
  | .proposalConflict => "proposal_conflict"
  | .receiptConflict => "receipt_conflict"
  | .schedulerCapacityExhausted => "scheduler_capacity_exhausted"
  | .recursiveKillSwitchActive => "recursive_kill_switch_active"
  | .operatorPaused => "operator_paused"
  | .terminalFailed => "terminal_failed"
  | .executionFailure => "recursive_node_execution_failed"
  | .retryExhausted => "recursive_retry_exhausted"
  | .recursiveTreeMissing => "recursive_tree_missing"
  | .recursiveNodeMissing => "recursive_node_missing"
  | .recursiveUsageUnavailable => "recursive_usage_unavailable"
  | .fixtureUsageContractMissing => "fixture_usage_contract_missing"
  | .fixtureUsageContractInvalid => "fixture_usage_contract_invalid"
  | .recursiveNodeIdentityMalformed => "recursive_node_identity_malformed"

inductive RecursiveNodeStatus where
  | ready
  | leased
  | completed
  | failed
deriving DecidableEq, Repr

def RecursiveNodeStatus.asStr : RecursiveNodeStatus → String
  | .ready => "ready"
  | .leased => "leased"
  | .completed => "completed"
  | .failed => "failed"

/-- Completed or Failed. -/
def RecursiveNodeStatus.terminal : RecursiveNodeStatus → Bool
  | .completed | .failed => true
  | .ready | .leased => false

structure RecursiveScope where
  repository : Option String
  (allowedPaths capabilities : Finset String)
deriving DecidableEq

def RecursiveScope.isSubsetOf (self parent : RecursiveScope) : Bool :=
  self.repository = parent.repository && self.allowedPaths ⊆ parent.allowedPaths &&
    self.capabilities ⊆ parent.capabilities

structure RecursiveProposal where
  (proposalId parentNodeId : String)
  parentVersion : ℕ
  (objective contextSummary : String)
  requestedScope : RecursiveScope
  requestedCapabilities : Finset String
  budget : RecursiveBudget
  receiptSha256 : String

structure RecursiveNode where
  (nodeId rootRunId : String)
  (parentNodeId proposalId : Option String)
  depth : ℕ
  objectiveFingerprint : String
  ancestorFingerprints : List String
  scope : RecursiveScope
  capabilities : Finset String
  (tenantId workspaceId : Option String)
  (budget budgetLimit childBudget childBudgetLimit reservation actualUsage : RecursiveBudget)
  status : RecursiveNodeStatus
  (acceptedChildren retryCount version : ℕ)
  leaseId : Option String
  failureReason : Option RecursiveFailureReason
  evidenceRefs : List String
deriving DecidableEq

/-- Ready or Leased: the node may still run. -/
def RecursiveNode.live (n : RecursiveNode) : Bool := !n.status.terminal

structure RecursiveDecisionEvidence where
  reasonCode : RecursiveFailureReason
  evidenceRefs : List String
deriving DecidableEq

/-- `BTreeMap<String, RecursiveNode>`; every insertion uses the node's own id as key. -/
abbrev NodeTable := Table RecursiveNode.nodeId

/-- `BTreeMap<String, V>`. -/
abbrev TextMap (V : Type) := Table (Prod.fst : String × V → String)

structure RecursiveTree where
  (schemaVersion rootRunId workflowId rootNodeId rootAgentId rootRecursiveMarker
    rootCreationReceiptSha256 : String)
  rootScope : RecursiveScope
  rootCapabilities : Finset String
  (rootTenantId rootWorkspaceId : Option String)
  rootBudget : RecursiveBudget
  (rootBudgetLimit rootChildBudgetLimit : Option RecursiveBudget)
  (spentBudget reservedBudget : RecursiveBudget)
  executionState : RecursiveExecutionState
  version : ℕ
  nodes : NodeTable
  acceptedProposals : Finset String
  receipts : TextMap String
  activeLeases : Finset String
  rejectedProposals : TextMap RecursiveDecisionEvidence
  usageReceipts : TextMap String
deriving DecidableEq

structure RecursiveAdmission where
  node : RecursiveNode
  parentVersion : ℕ

/-- What the program takes from its libraries: the hex text of a SHA-256 digest and
the two Unicode character classes. -/
structure Externals where
  sha256Hex : String → String
  (isAlphanumeric isWhitespace : Char → Bool)

/-- The two environment switches, read again at every call. -/
structure RecursiveEnv where
  (recursiveEnabled killSwitchActive : Bool)
deriving DecidableEq, Repr

def stripPrefix (pre s : String) : Option String :=
  if pre.toList <+: s.toList then some (String.ofList (s.toList.drop pre.toList.length)) else none

section Identity

variable (x : Externals)

def splitWhitespace (s : String) : List String :=
  ((s.toList.splitOnP x.isWhitespace).filter (· ≠ [])).map String.ofList

def normalizeObjective (objective : String) : String :=
  let spaced := String.ofList (objective.toList.map fun ch =>
    if x.isAlphanumeric ch || x.isWhitespace ch then ch.toLower else ' ')
  let kept := (splitWhitespace x spaced).filter (· ∉ ["a", "an", "the", "to", "please"])
  " ".intercalate (kept.map fun token =>
    if token ∈ ["inspect", "examine", "check"] then "review"
    else if token = "documentation" then "docs" else token)

/-- The tokens hold alphanumeric characters only, so their JSON needs no escapes. -/
def objectiveIdentityJson (intent subject : String) (qualifiers : List String) : String :=
  let quote (s : String) := "\"" ++ s ++ "\""
  "\x7b\"version\":" ++ quote objectiveIdentityVersion ++ ",\"intent\":" ++ quote intent ++
    ",\"subject\":" ++ quote subject ++ ",\"qualifiers\":[" ++
    ",".intercalate (qualifiers.map quote) ++ "]\x7d"

def objectiveFingerprint (objective : String) : String :=
  let tokens := splitWhitespace x (normalizeObjective x objective)
  x.sha256Hex (objectiveIdentityJson (tokens.getD 0 "") (tokens.getD 1 "") (tokens.drop 2))

def derivedNodeId (rootRunId proposalId fingerprint : String) : String :=
  "recursive-" ++ x.sha256Hex (rootRunId ++ "\x00" ++ proposalId ++ "\x00" ++ fingerprint)

def shapeIsValid (proposal : RecursiveProposal) : Bool :=
  proposal.proposalId ≠ "" && proposal.parentNodeId ≠ "" && proposal.receiptSha256 ≠ "" &&
    normalizeObjective x proposal.objective ≠ "" &&
    proposal.objective.utf8ByteSize ≤ maxObjectiveBytes &&
    proposal.contextSummary.utf8ByteSize ≤ maxContextBytes

end Identity

def heritableRecursiveCapabilities (capabilities : Finset String) : Finset String :=
  capabilities.filter (· ∉ recursiveNonHeritableCapabilities)

namespace RecursiveTree

def newWithRootNodeId (x : Externals) (rootRunId workflowId nodeId objective : String)
    (scope : RecursiveScope) (capabilities : Finset String) (budget : RecursiveBudget) :
    RecursiveTree :=
  let scope := { scope with capabilities := capabilities }
  let node : RecursiveNode :=
    { nodeId := nodeId, rootRunId := rootRunId, parentNodeId := none, proposalId := none,
      depth := 0, objectiveFingerprint := objectiveFingerprint x objective,
      ancestorFingerprints := [], scope := scope, capabilities := capabilities, tenantId := none,
      workspaceId := none, budget := budget, budgetLimit := budget, childBudget := budget,
      childBudgetLimit := budget, reservation := .zero, actualUsage := .zero, status := .ready,
      acceptedChildren := 0, retryCount := 0, version := 1, leaseId := none,
      failureReason := none, evidenceRefs := [] }
  { schemaVersion := recursiveSchemaVersion, rootRunId := rootRunId, workflowId := workflowId,
    rootNodeId := nodeId, rootAgentId := "", rootRecursiveMarker := "",
    rootCreationReceiptSha256 := "", rootScope := scope, rootCapabilities := capabilities,
    rootTenantId := none, rootWorkspaceId := none, rootBudget := budget,
    rootBudgetLimit := some budget, rootChildBudgetLimit := some budget, spentBudget := .zero,
    reservedBudget := .zero, executionState := .running, version := 1,
    nodes := Table.empty.insert node, acceptedProposals := ∅, receipts := .empty,
    activeLeases := ∅, rejectedProposals := .empty, usageReceipts := .empty }

def bindRootIdentity (t : RecursiveTree) (agentId recursiveMarker creationReceiptSha256 : String) :
    Except RecursiveFailureReason RecursiveTree :=
  let matchesOrEmpty (existing value : String) := existing = "" || existing = value
  if agentId = "" || recursiveMarker = "" || creationReceiptSha256 = "" then
    .error .receiptConflict
  else if !matchesOrEmpty t.rootAgentId agentId ||
      !matchesOrEmpty t.rootRecursiveMarker recursiveMarker ||
      !matchesOrEmpty t.rootCreationReceiptSha256 creationReceiptSha256 then
    .error .receiptConflict
  else
    .ok { t with
      rootAgentId := agentId
      rootRecursiveMarker := recursiveMarker
      rootCreationReceiptSha256 := creationReceiptSha256 }

def bindRootExecutionScope (t : RecursiveTree) (tenantId workspaceId : Option String) :
    Except RecursiveFailureReason RecursiveTree :=
  if (t.rootTenantId.isSome && t.rootTenantId ≠ tenantId) ||
      (t.rootWorkspaceId.isSome && t.rootWorkspaceId ≠ workspaceId) then
    .error .receiptConflict
  else if t.nodes.contains t.rootNodeId then
    .ok { t with
      rootTenantId := tenantId
      rootWorkspaceId := workspaceId
      nodes := t.nodes.modify t.rootNodeId fun root =>
        { root with tenantId := tenantId, workspaceId := workspaceId } }
  else .error .recursiveNodeMissing

end RecursiveTree

end Harness
