import Harness.Lib.Refusal
import Harness.Spec.TreeJson
import Harness.Spec.TreeOps

/-! `validate_tree_for_persistence`: the checks every tree passes on its way
into and out of the store. `validateTree` is everything up to the byte cap. -/

namespace Harness

open Lib

def validateScope (scope : RecursiveScope) : Except String Unit := do
  refuse (maxScopeItems < scope.allowedPaths.card || maxScopeItems < scope.capabilities.card)
    "recursive scope exceeds bounded item cap"
  refuse (scope.repository.any (maxScopeValueBytes < ·.utf8ByteSize) ||
      (∃ v ∈ scope.allowedPaths, maxScopeValueBytes < v.utf8ByteSize) ||
      ∃ v ∈ scope.capabilities, maxScopeValueBytes < v.utf8ByteSize)
    "recursive scope value exceeds byte cap"

/-- At most eight references of at most 256 bytes. -/
def evidenceExceedsShape (refs : List String) : Bool :=
  maxRecursiveDecisionEvidenceRefs < refs.length ||
    refs.any (maxRecursiveEvidenceRefBytes < ·.utf8ByteSize)

/-- What the loop over the nodes adds up. -/
structure Tally where
  childCounts : String → ℕ
  childAuthority : String → Option RecursiveBudget
  (totalActualUsage totalReservations : RecursiveBudget)
  (fingerprints proposalIds : Finset String)

namespace Tally

def empty : Tally where
  childCounts _ := 0
  childAuthority _ := none
  totalActualUsage := .zero
  totalReservations := .zero
  fingerprints := ∅
  proposalIds := ∅

def record (tally : Tally) (node : RecursiveNode) : Tally where
  childCounts p := if node.parentNodeId = some p then tally.childCounts p + 1
    else tally.childCounts p
  childAuthority p := if node.parentNodeId = some p then
      some ((((tally.childAuthority p).getD .zero).add node.actualUsage).add node.reservation)
    else tally.childAuthority p
  totalActualUsage := tally.totalActualUsage.add node.actualUsage
  totalReservations := tally.totalReservations.add node.reservation
  fingerprints := insert node.objectiveFingerprint tally.fingerprints
  proposalIds := node.proposalId.elim tally.proposalIds (insert · tally.proposalIds)

end Tally

namespace RecursiveTree

variable (x : Externals) (t : RecursiveTree)

/-- Some usage did not fit the budget it was charged to. -/
def recordedOverrun : Bool := t.usageReceipts.rows.any fun receipt => "0:".toList <+: receipt.2.toList

def validateAggregate : Except String Unit :=
  match t.rootBudgetLimit with
  | none => .ok ()
  | some limit => do
    let total := t.spentBudget.add t.reservedBudget
    refuse (!limit.canSpend t.rootBudget || (!limit.canSpend total && !t.recordedOverrun))
      "recursive tree aggregate budget is inconsistent"
    refuse (!t.recordedOverrun && t.rootBudget.add total ≠ limit)
      "recursive tree aggregate budget is not conserved"

def validateRoot : Except String Unit :=
  match t.nodes.find? t.rootNodeId with
  | none => .error "recursive tree root node is missing"
  | some root =>
    refuse (root.rootRunId ≠ t.rootRunId || root.parentNodeId.isSome || root.depth ≠ 0 ||
        root.scope ≠ t.rootScope || root.capabilities ≠ t.rootCapabilities ||
        root.tenantId ≠ t.rootTenantId || root.workspaceId ≠ t.rootWorkspaceId)
      "recursive tree root identity is inconsistent"

variable (node : RecursiveNode)

def validateNodeBudget : Except String Unit :=
  let accounted := node.budget.add node.actualUsage
  let isRecordedOverrun := t.recordedOverrun && accounted ≠ node.budgetLimit &&
    accounted.canSpend node.budgetLimit
  refuse (!node.budgetLimit.canSpend node.budget ||
      !node.childBudgetLimit.canSpend node.childBudget ||
      (accounted ≠ node.budgetLimit && !isRecordedOverrun))
    "recursive node budget authority is inconsistent"

def validateReservation : Except String Unit :=
  if node.nodeId = t.rootNodeId then
    refuse (node.reservation ≠ .zero || t.rootBudgetLimit ≠ some node.budgetLimit ||
        t.rootChildBudgetLimit ≠ some node.childBudgetLimit)
      "recursive root node budget authority is inconsistent"
  else
    refuse ((node.status.terminal && node.reservation ≠ .zero) ||
        (!node.status.terminal && node.reservation ≠ node.budget))
      "recursive node reservation is inconsistent"

def validateLineage : Except String Unit :=
  match node.parentNodeId with
  | none => .ok ()
  | some parentNodeId =>
    match t.nodes.find? parentNodeId with
    | none => .error "recursive node parent is missing"
    | some parent =>
      refuse (node.depth ≠ parent.depth + 1 ||
          node.ancestorFingerprints ≠ parent.ancestorFingerprints ++ [parent.objectiveFingerprint] ||
          ¬node.capabilities ⊆ parent.capabilities || !node.scope.isSubsetOf parent.scope ||
          node.tenantId ≠ parent.tenantId || node.workspaceId ≠ parent.workspaceId)
        "recursive node lineage or authority is inconsistent"

variable (tally : Tally)

def validateProposalIdentity (node : RecursiveNode) : Except String Unit :=
  match node.proposalId with
  | some proposalId => do
    refuse (node.nodeId ≠ derivedNodeId x t.rootRunId proposalId node.objectiveFingerprint)
      "recursive child node identity is not deterministic"
    refuse (proposalId ∈ tally.proposalIds || proposalId ∉ t.acceptedProposals ||
        !t.receipts.contains proposalId)
      "recursive proposal identity is inconsistent"
  | none =>
    refuse (node.nodeId ≠ t.rootNodeId) "recursive child proposal identity is missing"

def validateLease : Except String Unit :=
  match node.leaseId with
  | some leaseId =>
    if node.status = .leased then
      refuse (leaseId ∉ t.activeLeases) "recursive lease identity is inconsistent"
    else .error "non-leased recursive node has a lease"
  | none => refuse (node.status = .leased) "recursive lease identity is inconsistent"

/-- One turn of the loop over the nodes. -/
def validateNode (node : RecursiveNode) : Except String Tally := do
  refuse (maxRecursiveDepth < node.depth || maxAcceptedChildrenPerNode < node.acceptedChildren ||
      node.objectiveFingerprint.utf8ByteSize ≠ 64 ||
      maxRecursiveDepth < node.ancestorFingerprints.length)
    "recursive node exceeds bounded shape"
  refuse (node.rootRunId ≠ t.rootRunId || node.nodeId = "" ||
      (node.nodeId ≠ t.rootNodeId && node.parentNodeId.isNone) ||
      node.scope.capabilities ≠ node.capabilities)
    "recursive node identity is inconsistent"
  t.validateNodeBudget node
  t.validateReservation node
  refuse (node.objectiveFingerprint ∈ tally.fingerprints)
    "recursive objective fingerprint is duplicated"
  refuse (node.nodeId = t.rootNodeId && node.ancestorFingerprints ≠ [])
    "recursive root lineage is not empty"
  t.validateLineage node
  t.validateProposalIdentity x tally node
  t.validateLease node
  validateScope node.scope
  refuse (evidenceExceedsShape node.evidenceRefs) "recursive node evidence exceeds bounded shape"
  pure (tally.record node)

/-- The children's authority is accounted against the parent's. -/
def childAccountingFails (node : RecursiveNode) : Bool :=
  let accounted := (tally.childAuthority node.nodeId).elim node.childBudget node.childBudget.add
  accounted ≠ node.childBudgetLimit &&
    !(t.recordedOverrun && accounted.canSpend node.childBudgetLimit)

/-- The checks after the loop. -/
def validateTotals : Except String Unit := do
  refuse (t.nodes.rows.any fun node => node.acceptedChildren ≠ tally.childCounts node.nodeId)
    "recursive child count is inconsistent"
  refuse (t.nodes.rows.any (t.childAccountingFails tally) ||
      tally.totalActualUsage ≠ t.spentBudget || tally.totalReservations ≠ t.reservedBudget)
    "recursive node accounting is inconsistent"
  refuse (∃ leaseId ∈ t.activeLeases, !t.nodes.rows.any (·.leaseId = some leaseId))
    "recursive active lease index is inconsistent"
  refuse (t.acceptedProposals.card ≠ t.receipts.size ||
      (∃ proposalId ∈ t.acceptedProposals, proposalId ∉ tally.proposalIds ∨
        (t.receipts.find? proposalId).all (·.2 = "")) ||
      ∃ proposalId ∈ t.acceptedProposals, t.rejectedProposals.contains proposalId)
    "recursive accepted proposal receipt set is inconsistent"
  refuse (maxRecursiveNodesPerRoot * 2 < t.usageReceipts.size ||
      t.usageReceipts.rows.any (·.1 = ""))
    "recursive usage receipt set exceeds bounded shape"
  refuse (maxRecursiveNodesPerRoot < t.rejectedProposals.size ||
      t.rejectedProposals.rows.any fun decision =>
        evidenceExceedsShape decision.2.evidenceRefs || 128 < decision.2.reasonCode.asStr.utf8ByteSize)
    "recursive decision evidence exceeds bounded shape"

/-- Every check of `validate_tree_for_persistence` but the byte cap. -/
def validateTree : Except String Unit := do
  refuse (t.schemaVersion ≠ recursiveSchemaVersion) "recursive tree schema version mismatch"
  refuse (maxRecursiveNodesPerRoot < t.nodes.size || maxRecursiveLeases < t.activeLeases.card)
    "recursive tree exceeds bounded node or lease limit"
  validateScope t.rootScope
  refuse (t.rootRunId = "" || t.workflowId = "" || t.rootNodeId = "")
    "recursive tree identity is empty"
  refuse (t.rootAgentId = "" || t.rootRecursiveMarker ≠ t.rootNodeId ||
      t.rootCreationReceiptSha256 = "")
    "recursive root creation identity is incomplete"
  refuse t.rootChildBudgetLimit.isNone "recursive root child budget authority is missing"
  t.validateAggregate
  t.validateRoot
  let tally ← t.nodes.rows.foldlM (t.validateNode x) Tally.empty
  t.validateTotals tally

/-- The JSON text that is stored. -/
def validateTreeForPersistence : Except String (List UInt8) := do
  t.validateTree x
  refuse (maxRecursiveTreeBytes < t.json.length)
    "recursive tree exceeds persistence byte cap"
  pure t.json

end RecursiveTree

end Harness
