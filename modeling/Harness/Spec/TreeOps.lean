import Harness.Spec.RecursiveTree

/-! The operations of `RecursiveTree`. Each takes the tree it is called on and
gives the result together with the tree it leaves behind, so that what a failed
call leaves is part of the model. -/

namespace Harness

open Lib

abbrev Outcome (α : Type) := Except RecursiveFailureReason α × RecursiveTree

/-- The reason of the first check that fails. -/
def firstRefusal {ε : Type} : List (Bool × ε) → Option ε
  | [] => none
  | (true, reason) :: _ => some reason
  | (false, _) :: rest => firstRefusal rest

namespace RecursiveNode

variable (n : RecursiveNode)

/-- Charge measured usage to a node and to the reservation that pays for it. -/
def charge (usage : RecursiveBudget) : RecursiveNode :=
  { n with
    budget := n.budget.spend usage
    actualUsage := n.actualUsage.add usage
    reservation := n.reservation.spend usage }

def chargeRoot (usage : RecursiveBudget) : RecursiveNode :=
  { n with budget := n.budget.spend usage, actualUsage := n.actualUsage.add usage }

/-- Give a new child its budget. -/
def grantChild (budget : RecursiveBudget) : RecursiveNode :=
  { n with
    acceptedChildren := n.acceptedChildren + 1
    childBudget := n.childBudget.spend budget
    version := n.version + 1 }

def lease (leaseId : String) : RecursiveNode :=
  { n with leaseId := some leaseId, status := .leased, version := n.version + 1 }

/-- End the node's current attempt. -/
def finish (completed : Bool) (reason : Option RecursiveFailureReason) : RecursiveNode :=
  { n with
    status := if completed then .completed else .failed
    failureReason := reason
    leaseId := none
    version := n.version + 1 }

/-- Close a node that will not run any more. -/
def fail (reason : RecursiveFailureReason) : RecursiveNode :=
  n.finish false (some reason)

/-- Put the node back in the queue for its next attempt. -/
def requeue : RecursiveNode :=
  { n with
    retryCount := n.retryCount + 1
    status := .ready
    failureReason := none
    version := n.version + 1 }

/-- `retry_node` on a node: without a retry left it stays terminal and the call still succeeds. -/
def retry : RecursiveNode :=
  if maxRecursiveRetries ≤ n.retryCount then
    { n with status := .failed, failureReason := some .retryExhausted, version := n.version + 1 }
  else n.requeue

/-- `recover_stale_lease` on a node. -/
def recover (retry : Bool) : RecursiveNode :=
  if retry && n.retryCount < maxRecursiveRetries then { n.requeue with leaseId := none }
  else n.fail .retryExhausted

@[simp] lemma nodeId_retry (n : RecursiveNode) : n.retry.nodeId = n.nodeId := by
  unfold retry
  split_ifs <;> rfl

@[simp] lemma nodeId_recover (n : RecursiveNode) (retry : Bool) :
    (n.recover retry).nodeId = n.nodeId := by
  unfold recover
  split_ifs <;> rfl

end RecursiveNode

/-- `Completed`, `BudgetExhausted`, `KillStopped` or `TerminalFailed`. -/
def RecursiveExecutionState.closed : RecursiveExecutionState → Bool
  | .completed | .budgetExhausted | .killStopped | .terminalFailed => true
  | .running | .operatorPaused => false

/-- The states an exhausted budget no longer changes. -/
def RecursiveExecutionState.settled : RecursiveExecutionState → Bool
  | .completed | .killStopped | .terminalFailed => true
  | .running | .operatorPaused | .budgetExhausted => false

namespace RecursiveTree

variable (env : RecursiveEnv)

/-- The switches and the state gate shared by admission and leasing. -/
def schedulingRefusal (t : RecursiveTree) : Option RecursiveFailureReason :=
  if !env.recursiveEnabled then some .recursiveDisabled
  else if env.killSwitchActive then some .recursiveKillSwitchActive
  else match t.executionState with
    | .running => none
    | .completed => some .proposalConflict
    | .operatorPaused => some .operatorPaused
    | .budgetExhausted => some .treeBudgetExhausted
    | .killStopped => some .recursiveKillSwitchActive
    | .terminalFailed => some .terminalFailed

variable (x : Externals)

/-- The checks of `admit_child` before the parent is looked up. -/
def proposalRefusal (env : RecursiveEnv) (t : RecursiveTree)
    (proposal : RecursiveProposal) : Option RecursiveFailureReason :=
  (schedulingRefusal env t).or (firstRefusal
    [(!shapeIsValid x proposal, .proposalConflict),
     ((t.receipts.find? proposal.proposalId).any (·.2 ≠ proposal.receiptSha256), .receiptConflict),
     (proposal.proposalId ∈ t.acceptedProposals, .proposalConflict),
     (t.rejectedProposals.contains proposal.proposalId, .proposalConflict)])

variable (t : RecursiveTree)

/-- The proposal is only an upper bound: the parent's and the tree's remaining
authority bound it too. -/
def effectiveBudget (parent : RecursiveNode) (proposal : RecursiveProposal) : RecursiveBudget :=
  (proposal.budget.boundedBy parent.childBudget).boundedBy t.rootBudget

/-- The checks of `admit_child` against the parent and the rest of the tree. -/
def parentRefusal (t : RecursiveTree) (parent : RecursiveNode)
    (proposal : RecursiveProposal) : Option RecursiveFailureReason :=
  let fingerprint := objectiveFingerprint x proposal.objective
  let budget := t.effectiveBudget parent proposal
  firstRefusal
    [(parent.version ≠ proposal.parentVersion, .staleParent),
     (maxRecursiveDepth ≤ parent.depth, .depthExceeded),
     (maxAcceptedChildrenPerNode ≤ parent.acceptedChildren, .childLimitExceeded),
     (maxRecursiveNodesPerRoot ≤ t.nodes.size, .treeBudgetExhausted),
     (¬proposal.requestedCapabilities ⊆ parent.capabilities, .capabilityEscalation),
     (proposal.requestedScope.capabilities ≠ proposal.requestedCapabilities, .scopeMismatch),
     (!proposal.requestedScope.isSubsetOf parent.scope, .scopeMismatch),
     (fingerprint ∈ parent.ancestorFingerprints || parent.objectiveFingerprint = fingerprint,
      .ancestorCycle),
     (t.nodes.rows.any (·.objectiveFingerprint = fingerprint), .duplicateObjective),
     (!budget.isNonzero, .treeBudgetExhausted),
     (t.rootBudgetLimit.any fun limit =>
        !limit.canSpend ((t.spentBudget.add t.reservedBudget).add budget), .treeBudgetExhausted)]

/-- The child an admission creates under `parent`. -/
def admittedNode (t : RecursiveTree) (parent : RecursiveNode)
    (proposal : RecursiveProposal) : RecursiveNode :=
  let fingerprint := objectiveFingerprint x proposal.objective
  let budget := t.effectiveBudget parent proposal
  let capabilities := heritableRecursiveCapabilities proposal.requestedCapabilities
  { nodeId := derivedNodeId x t.rootRunId proposal.proposalId fingerprint
    rootRunId := t.rootRunId
    parentNodeId := some parent.nodeId
    proposalId := some proposal.proposalId
    depth := parent.depth + 1
    objectiveFingerprint := fingerprint
    ancestorFingerprints := parent.ancestorFingerprints ++ [parent.objectiveFingerprint]
    scope := { proposal.requestedScope with capabilities := capabilities }
    capabilities := capabilities
    tenantId := parent.tenantId
    workspaceId := parent.workspaceId
    budget := budget
    budgetLimit := budget
    childBudget := budget
    childBudgetLimit := budget
    reservation := budget
    actualUsage := .zero
    status := .ready
    acceptedChildren := 0
    retryCount := 0
    version := 1
    leaseId := none
    failureReason := none
    evidenceRefs := ["agent_proposal/" ++ proposal.proposalId] }

/-- The tree an accepted admission leaves. -/
def admitUnder (t : RecursiveTree) (parent : RecursiveNode)
    (proposal : RecursiveProposal) : RecursiveTree :=
  let budget := t.effectiveBudget parent proposal
  let nodes := t.nodes.modify parent.nodeId fun entry => entry.grantChild budget
  { t with
    rootBudget := t.rootBudget.spend budget
    reservedBudget := t.reservedBudget.add budget
    nodes := nodes.insert (t.admittedNode x parent proposal)
    acceptedProposals := insert proposal.proposalId t.acceptedProposals
    receipts := t.receipts.insert (proposal.proposalId, proposal.receiptSha256)
    version := t.version + 1 }

def admitChild (env : RecursiveEnv) (t : RecursiveTree)
    (proposal : RecursiveProposal) : Outcome RecursiveAdmission :=
  match t.proposalRefusal x env proposal with
  | some reason => (.error reason, t)
  | none =>
    match t.nodes.find? proposal.parentNodeId with
    | none => (.error .staleParent, t)
    | some parent =>
      match t.parentRefusal x parent proposal with
      | some reason => (.error reason, t)
      | none =>
        (.ok { node := t.admittedNode x parent proposal, parentVersion := parent.version + 1 },
          t.admitUnder x parent proposal)

def leaseNode (t : RecursiveTree) (nodeId leaseId : String) : Outcome Unit :=
  match t.schedulingRefusal env with
  | some reason => (.error reason, t)
  | none =>
    if maxRecursiveLeases ≤ t.activeLeases.card then (.error .schedulerCapacityExhausted, t)
    else match t.nodes.find? nodeId with
      | none => (.error .staleParent, t)
      | some node =>
        if node.leaseId.isSome || node.status ≠ .ready then (.error .proposalConflict, t)
        else
          (.ok (), { t with
            nodes := t.nodes.modify nodeId fun n => n.lease leaseId
            activeLeases := insert leaseId t.activeLeases
            version := t.version + 1 })

lemma nodeId_emptied (n : RecursiveNode) : { n with reservation := .zero }.nodeId = n.nodeId := rfl

lemma nodeId_repaid (remaining : RecursiveBudget) (n : RecursiveNode) :
    { n with childBudget := n.childBudget.add remaining, version := n.version + 1 }.nodeId =
      n.nodeId := rfl

/-- Return what is left of a node's reservation to its parent and to the tree. -/
def releaseNodeReservationForPersistence (nodeId : String) : RecursiveTree :=
  match t.nodes.find? nodeId with
  | none => t
  | some node =>
    let remaining := node.reservation
    let nodes := t.nodes.modify nodeId (fun n => { n with reservation := .zero }) nodeId_emptied
    { t with
      reservedBudget := t.reservedBudget.spend remaining
      rootBudget := t.rootBudget.add remaining
      nodes := match node.parentNodeId with
        | none => nodes
        | some parentNodeId => nodes.modify parentNodeId
            (fun parent => { parent with
              childBudget := parent.childBudget.add remaining
              version := parent.version + 1 })
            (nodeId_repaid remaining)
      version := t.version + 1 }

/-- Close one node and drop its lease. -/
def failNode (reason : RecursiveFailureReason) (t : RecursiveTree) (nodeId : String) :
    RecursiveTree :=
  match t.nodes.find? nodeId with
  | none => t
  | some node =>
    { t with
      activeLeases := node.leaseId.elim t.activeLeases t.activeLeases.erase
      nodes := t.nodes.modify nodeId fun n => n.fail reason }

/-- Close the listed nodes, then return their reservations. -/
def closeNodes (reason : RecursiveFailureReason) (ids : List String) : RecursiveTree :=
  ids.foldl releaseNodeReservationForPersistence (ids.foldl (failNode reason) t)

def liveIds (p : RecursiveNode → Bool) : List String :=
  (t.nodes.rows.filter fun n => n.live && p n).map RecursiveNode.nodeId

/-- The nodes `terminalize_remaining_nodes` closes. -/
def remainingNodes (exceptNodeId : Option String) : List String :=
  t.liveIds fun n => n.parentNodeId.isSome && some n.nodeId ≠ exceptNodeId

def terminalizeRemainingNodes (exceptNodeId : Option String)
    (reason : RecursiveFailureReason) : RecursiveTree :=
  let terminalized := t.remainingNodes exceptNodeId
  let t := t.closeNodes reason terminalized
  if terminalized = [] then t else { t with version := t.version + 1 }

/-- The walk of `finalize_terminal_tree` from a candidate's parent upwards; each
turn goes to the parent of a node of the tree. -/
def descendsFrom (t : RecursiveTree) (nodeId : String) : ℕ → Option String → Bool
  | 0, _ => false
  | _ + 1, none => false
  | fuel + 1, some parentId =>
    parentId = nodeId ||
      t.descendsFrom nodeId fuel ((t.nodes.find? parentId).bind RecursiveNode.parentNodeId)

/-- The live nodes below a failed node. A walk that met no node twice is over
after `size` turns. -/
def liveDescendants (nodeId : String) : List String :=
  t.liveIds fun n => t.descendsFrom nodeId (t.nodes.size + 1) n.parentNodeId

/-- The verdict of a tree with nothing left to run. -/
def finalizeVerdict : RecursiveTree :=
  if t.activeLeases = ∅ ∧ t.nodes.rows.all (·.status.terminal) then
    { t with
      executionState :=
        if t.nodes.rows.all (·.status = .completed) then .completed else .terminalFailed
      version := t.version + 1 }
  else t

def finalizeTerminalTree (failedNodeId : Option String) : RecursiveTree :=
  if t.executionState.closed then t
  else
    match failedNodeId with
    | none => t.finalizeVerdict
    | some nodeId => (t.closeNodes .terminalFailed (t.liveDescendants nodeId)).finalizeVerdict

/-- What a receipt that is already recorded says about a redelivery. -/
def recordedVerdict (previous fingerprint : String) : Except RecursiveFailureReason Bool :=
  if stripPrefix "1:" previous = some fingerprint then .ok true
  else if stripPrefix "0:" previous = some fingerprint then .ok false
  else .error .receiptConflict

/-- Whether the tree's limit covers the usage on top of what is spent and reserved. -/
def withinTreeBudget (usage : RecursiveBudget) (consumesReservation : Bool) : Bool :=
  t.rootBudgetLimit.all fun limit =>
    let afterReserved :=
      if consumesReservation then t.reservedBudget.spend usage else t.reservedBudget
    limit.canSpend ((t.spentBudget.add usage).add afterReserved)

def receiptText (within : Bool) (usage : RecursiveBudget) : String :=
  (if within then "1:" else "0:") ++ usage.toJson

/-- The tree after a receipt is recorded for the first time. -/
def recordFreshUsage (receiptId : String) (usage : RecursiveBudget)
    (consumesReservation : Bool) : RecursiveTree :=
  let within := t.withinTreeBudget usage consumesReservation
  let exhausts := !within && !t.executionState.settled
  { t with
    spentBudget := t.spentBudget.add usage
    reservedBudget :=
      if consumesReservation then t.reservedBudget.spend usage else t.reservedBudget
    usageReceipts := t.usageReceipts.insert (receiptId, receiptText within usage)
    executionState := if exhausts then .budgetExhausted else t.executionState
    version := if exhausts then t.version + 1 else t.version }

def recordUsageInternal (receiptId : String) (usage : RecursiveBudget)
    (consumesReservation : Bool) : Outcome Bool :=
  match t.usageReceipts.find? receiptId with
  | some previous => (recordedVerdict previous.2 usage.toJson, t)
  | none =>
    (.ok (t.withinTreeBudget usage consumesReservation),
      t.recordFreshUsage receiptId usage consumesReservation)

def recordUsage (receiptId : String) (usage : RecursiveBudget) : Outcome Bool :=
  t.recordUsageInternal receiptId usage true

def recordUnreservedUsage (receiptId : String) (usage : RecursiveBudget) : Outcome Bool :=
  t.recordUsageInternal receiptId usage false

/-- Stop the tree on an exhausted budget, sparing the node that exhausted it. -/
def exhaust (nodeId : String) : RecursiveTree :=
  { t with executionState := .budgetExhausted }.terminalizeRemainingNodes (some nodeId)
    .treeBudgetExhausted

def bumpVersion : RecursiveTree := { t with version := t.version + 1 }

def chargeNode (nodeId : String) (usage : RecursiveBudget) : RecursiveTree :=
  { t with nodes := t.nodes.modify nodeId fun n => n.charge usage }

/-- The tree's unreserved budget pays for the root. -/
def chargeRoot (t : RecursiveTree) (usage : RecursiveBudget) : RecursiveTree :=
  { t with
    rootBudget := t.rootBudget.spend usage
    nodes := t.nodes.modify t.rootNodeId fun n => n.chargeRoot usage }

def bumpNode (nodeId : String) : RecursiveTree :=
  { t with nodes := t.nodes.modify nodeId fun n => { n with version := n.version + 1 } }

/-- End the attempt that runs under `leaseId`. -/
def endAttempt (nodeId leaseId : String) (completed : Bool)
    (reason : Option RecursiveFailureReason) : RecursiveTree :=
  { t with
    nodes := t.nodes.modify nodeId fun n => n.finish completed reason
    activeLeases := t.activeLeases.erase leaseId }

/-- Why a node's attempt ended as it did. -/
def nodeFailureReason (node : RecursiveNode) (success withinBudget : Bool) :
    Option RecursiveFailureReason :=
  if !withinBudget then some .treeBudgetExhausted
  else if !success && maxRecursiveRetries ≤ node.retryCount then some .retryExhausted
  else if !success then some .executionFailure else none

def rootFailureReason (success withinBudget : Bool) : Option RecursiveFailureReason :=
  if !withinBudget then some .treeBudgetExhausted
  else if !success then some .executionFailure else none

def completeNodeWithUsageReceipt (nodeId leaseId usageReceiptId : String)
    (success : Bool) (usage : RecursiveBudget) : Outcome Unit :=
  let usagePreviouslyRecorded := t.usageReceipts.contains usageReceiptId
  match t.nodes.find? nodeId with
  | none => (.error .staleParent, t)
  | some node =>
    if node.leaseId ≠ some leaseId then (.error .receiptConflict, t)
    else
      let withinNodeBudget := usagePreviouslyRecorded || node.budget.canSpend usage
      match t.recordUsage usageReceiptId usage with
      | (.error reason, t) => (.error reason, t)
      | (.ok withinTreeBudget, t) =>
        let withinBudget := withinNodeBudget && withinTreeBudget
        let t := if usagePreviouslyRecorded then t else t.chargeNode nodeId usage
        let t := t.endAttempt nodeId leaseId (success && withinBudget)
          (nodeFailureReason node success withinBudget)
        let t := if withinBudget then t else t.exhaust nodeId
        (.ok (), t.bumpVersion)

def completeNodeWithUsage (nodeId leaseId : String) (success : Bool)
    (usage : RecursiveBudget) : Outcome Unit :=
  t.completeNodeWithUsageReceipt nodeId leaseId leaseId success usage

def completeNode (nodeId leaseId : String) (success : Bool) : Outcome Unit :=
  match t.completeNodeWithUsage nodeId leaseId success .zero with
  | (.ok (), t) => (.ok (), t.releaseNodeReservationForPersistence nodeId)
  | (.error reason, t) => (.error reason, t)

/-- A completion of a root that is already done: accepted only as the same delivery again. -/
def rootRedelivery (root : RecursiveNode) (usageReceiptId : String)
    (success : Bool) (usage : RecursiveBudget) : Except RecursiveFailureReason Unit :=
  match t.usageReceipts.find? usageReceiptId with
  | none => .error .receiptConflict
  | some previous =>
    if stripPrefix "1:" previous.2 = some usage.toJson ∧
        ((success ∧ root.status = .completed ∧ root.failureReason = none) ∨
          (!success ∧ root.status = .failed ∧ root.failureReason = some .executionFailure)) then
      .ok ()
    else if stripPrefix "0:" previous.2 = some usage.toJson ∧ root.status = .failed ∧
        root.failureReason = some .treeBudgetExhausted then
      .ok ()
    else .error .receiptConflict

def completeRootWithUsageReceipt (leaseId usageReceiptId : String)
    (success : Bool) (usage : RecursiveBudget) : Outcome Unit :=
  let rootId := t.rootNodeId
  match t.nodes.find? rootId with
  | none => (.error .recursiveNodeMissing, t)
  | some root =>
    if root.parentNodeId.isSome then (.error .receiptConflict, t)
    else if root.status.terminal then (t.rootRedelivery root usageReceiptId success usage, t)
    else if root.leaseId ≠ some leaseId ∨ root.status ≠ .leased then (.error .receiptConflict, t)
    else
      let usagePreviouslyRecorded := t.usageReceipts.contains usageReceiptId
      let withinNodeBudget := usagePreviouslyRecorded || root.budget.canSpend usage
      match t.recordUnreservedUsage usageReceiptId usage with
      | (.error reason, t) => (.error reason, t)
      | (.ok withinTreeBudget, t) =>
        let withinBudget := withinNodeBudget && withinTreeBudget
        let t := if usagePreviouslyRecorded then t else t.chargeRoot usage
        let t := t.endAttempt rootId leaseId (success && withinBudget)
          (rootFailureReason success withinBudget)
        let t := if !withinBudget then t.exhaust rootId
          else if !success then
            { t with executionState := .terminalFailed }.terminalizeRemainingNodes (some rootId)
              .terminalFailed
          else t
        let t := t.bumpVersion
        (.ok (), if success && withinBudget then t.finalizeTerminalTree none else t)

def completeRootWithUsage (leaseId : String) (success : Bool)
    (usage : RecursiveBudget) : Outcome Unit :=
  t.completeRootWithUsageReceipt leaseId leaseId success usage

/-- Usage that did not fit: its receipt is rewritten to an overrun and an open tree stops. -/
def recordOverrun (nodeId receiptId : String) (usage : RecursiveBudget) : RecursiveTree :=
  let t := { t with usageReceipts := t.usageReceipts.insert (receiptId, receiptText false usage) }
  if t.executionState.settled then t else t.exhaust nodeId

def recordRootLateUsage (receiptId : String) (usage : RecursiveBudget) : Outcome Bool :=
  match t.usageReceipts.find? receiptId with
  | some previous => (recordedVerdict previous.2 usage.toJson, t)
  | none =>
    match t.nodes.find? t.rootNodeId with
    | none => (.error .recursiveNodeMissing, t)
    | some root =>
      let withinRootBudget := root.budget.canSpend usage
      match t.recordUnreservedUsage receiptId usage with
      | (.error reason, t) => (.error reason, t)
      | (.ok withinTreeBudget, t) =>
        let withinBudget := withinRootBudget && withinTreeBudget
        let t := (t.chargeRoot usage).bumpNode t.rootNodeId
        let t := if withinBudget then t else t.recordOverrun t.rootNodeId receiptId usage
        (.ok withinBudget, t.bumpVersion)

/-- Charge a result that arrived after its lease was replaced or ended. -/
def recordLateUsage (nodeId attemptReceipt : String) (usage : RecursiveBudget) : Outcome Bool :=
  match t.usageReceipts.find? attemptReceipt with
  | some previous => (recordedVerdict previous.2 usage.toJson, t)
  | none =>
    match t.nodes.find? nodeId with
    | none => (.error .staleParent, t)
    | some node =>
      let withinNodeBudget := node.budget.canSpend usage
      match t.recordUsage attemptReceipt usage with
      | (.error reason, t) => (.error reason, t)
      | (.ok withinTreeBudget, t) =>
        let withinBudget := withinNodeBudget && withinTreeBudget
        let t := (t.chargeNode nodeId usage).bumpNode nodeId
        let t := if withinBudget then t else t.recordOverrun nodeId attemptReceipt usage
        (.ok withinBudget, t.bumpVersion)

/-! Retries, stale leases and operator control. -/

def retryNode (nodeId : String) : Outcome Unit :=
  match t.nodes.find? nodeId with
  | none => (.error .staleParent, t)
  | some _ =>
    let t := { t with nodes := t.nodes.modify nodeId .retry RecursiveNode.nodeId_retry }
    (.ok (), t.bumpVersion)

def retryAllowed (t : RecursiveTree) (nodeId : String)
    (usage : RecursiveBudget) : Except RecursiveFailureReason Bool :=
  match t.nodes.find? nodeId with
  | none => .error .staleParent
  | some node =>
    let currentAttemptFits := node.budget.canSpend usage
    let remaining := if currentAttemptFits then node.budget.spend usage else node.budget
    .ok (env.recursiveEnabled && !env.killSwitchActive && t.executionState = .running &&
      node.retryCount < maxRecursiveRetries && currentAttemptFits && 0 < remaining.callsRemaining)

def recoverStaleLease (nodeId leaseId : String) (retry : Bool) : Outcome String :=
  match t.nodes.find? nodeId with
  | none => (.error .recursiveNodeMissing, t)
  | some node =>
    if node.leaseId ≠ some leaseId then (.error .receiptConflict, t)
    else
      (.ok (node.recover retry).status.asStr, { t with
        nodes := t.nodes.modify nodeId (·.recover retry) (RecursiveNode.nodeId_recover · retry)
        activeLeases := t.activeLeases.erase leaseId
        version := t.version + 1 })

def pause : RecursiveTree :=
  { t with
    executionState := if t.executionState = .running then .operatorPaused else t.executionState
    version := t.version + 1 }

def resume : RecursiveTree :=
  if t.executionState = .operatorPaused then
    { t with executionState := .running, version := t.version + 1 }
  else t

def recordRejectionEvidence (proposalId : String)
    (evidence : RecursiveDecisionEvidence) : RecursiveTree :=
  { t with
    rejectedProposals := t.rejectedProposals.insert (proposalId, evidence)
    version := t.version + 1 }

def recordRejection (proposalId : String) (reason : RecursiveFailureReason) : RecursiveTree :=
  t.recordRejectionEvidence proposalId
    { reasonCode := reason, evidenceRefs := ["agent_proposal/" ++ proposalId] }

end RecursiveTree

end Harness
