import Harness.Spec.RecursiveTree
import Mathlib.Data.List.Sort

/-! The JSON text of a tree in UTF-8, as `serde_json::to_string` writes it: fields in
the order of their declaration, maps and sets in the order of their keys. -/

namespace Harness

open Lib

namespace Json

def bytes (s : String) : List UInt8 := s.toUTF8.data.toList

def hexDigit (b : UInt8) : UInt8 := if b < 10 then 48 + b else 87 + b

/-- Quotes, backslashes and control characters are escaped, byte by byte. -/
def escape (b : UInt8) : List UInt8 :=
  if b = 34 then bytes "\\\""
  else if b = 92 then bytes "\\\\"
  else if b = 8 then bytes "\\b"
  else if b = 9 then bytes "\\t"
  else if b = 10 then bytes "\\n"
  else if b = 12 then bytes "\\f"
  else if b = 13 then bytes "\\r"
  else if b < 32 then bytes "\\u00" ++ [hexDigit (b / 16), hexDigit (b % 16)]
  else [b]

def text (s : String) : List UInt8 := 34 :: ((bytes s).flatMap escape ++ [34])

def textOrNull (s : Option String) : List UInt8 := s.elim (bytes "null") text

def number (n : ℕ) : List UInt8 := bytes n.repr

def commaSeparated : List (List UInt8) → List UInt8
  | [] => []
  | [item] => item
  | item :: rest => item ++ 44 :: commaSeparated rest

def array (items : List (List UInt8)) : List UInt8 := 91 :: (commaSeparated items ++ [93])

def object (fields : List (String × List UInt8)) : List UInt8 :=
  123 :: (commaSeparated (fields.map fun f => text f.1 ++ 58 :: f.2) ++ [125])

/-- A `BTreeSet<String>` in its order. -/
def sorted (s : Finset String) : List String :=
  Quot.liftOn s.1 (fun l => l.insertionSort (· ≤ ·)) fun l l' (h : l.Perm l') =>
    (((l.perm_insertionSort _).trans h).trans (l'.perm_insertionSort _).symm).eq_of_pairwise'
      (l.pairwise_insertionSort _) (l'.pairwise_insertionSort _)

def textSet (s : Finset String) : List UInt8 := array ((sorted s).map text)

end Json

open Json

def RecursiveExecutionState.json : RecursiveExecutionState → List UInt8
  | .running => text "running"
  | .completed => text "completed"
  | .operatorPaused => text "operator_paused"
  | .budgetExhausted => text "budget_exhausted"
  | .killStopped => text "kill_stopped"
  | .terminalFailed => text "terminal_failed"

/-- The variant's own name, which for two variants is not what `as_str` gives. -/
def RecursiveFailureReason.json : RecursiveFailureReason → List UInt8
  | .executionFailure => text "execution_failure"
  | .retryExhausted => text "retry_exhausted"
  | reason => text reason.asStr

def RecursiveScope.json (s : RecursiveScope) : List UInt8 :=
  object
    [("repository", textOrNull s.repository), ("allowed_paths", textSet s.allowedPaths),
     ("capabilities", textSet s.capabilities)]

def RecursiveNode.json (n : RecursiveNode) : List UInt8 :=
  object
    [("node_id", text n.nodeId), ("root_run_id", text n.rootRunId),
     ("parent_node_id", textOrNull n.parentNodeId), ("proposal_id", textOrNull n.proposalId),
     ("depth", number n.depth), ("objective_fingerprint", text n.objectiveFingerprint),
     ("ancestor_fingerprints", array (n.ancestorFingerprints.map text)), ("scope", n.scope.json),
     ("capabilities", textSet n.capabilities), ("tenant_id", textOrNull n.tenantId),
     ("workspace_id", textOrNull n.workspaceId), ("budget", bytes n.budget.toJson),
     ("budget_limit", bytes n.budgetLimit.toJson), ("child_budget", bytes n.childBudget.toJson),
     ("child_budget_limit", bytes n.childBudgetLimit.toJson), ("reservation", bytes n.reservation.toJson),
     ("actual_usage", bytes n.actualUsage.toJson), ("status", text n.status.asStr),
     ("accepted_children", number n.acceptedChildren), ("retry_count", number n.retryCount),
     ("version", number n.version), ("lease_id", textOrNull n.leaseId),
     ("failure_reason", n.failureReason.elim (bytes "null") RecursiveFailureReason.json),
     ("evidence_refs", array (n.evidenceRefs.map text))]

def RecursiveDecisionEvidence.json (e : RecursiveDecisionEvidence) : List UInt8 :=
  object
    [("reason_code", e.reasonCode.json), ("evidence_refs", array (e.evidenceRefs.map text))]

def RecursiveTree.json (t : RecursiveTree) : List UInt8 :=
  object
    [("schema_version", text t.schemaVersion), ("root_run_id", text t.rootRunId),
     ("workflow_id", text t.workflowId), ("root_node_id", text t.rootNodeId),
     ("root_agent_id", text t.rootAgentId), ("root_recursive_marker", text t.rootRecursiveMarker),
     ("root_creation_receipt_sha256", text t.rootCreationReceiptSha256),
     ("root_scope", t.rootScope.json), ("root_capabilities", textSet t.rootCapabilities),
     ("root_tenant_id", textOrNull t.rootTenantId),
     ("root_workspace_id", textOrNull t.rootWorkspaceId), ("root_budget", bytes t.rootBudget.toJson),
     ("root_budget_limit", t.rootBudgetLimit.elim (bytes "null") (bytes ·.toJson)),
     ("root_child_budget_limit", t.rootChildBudgetLimit.elim (bytes "null") (bytes ·.toJson)),
     ("spent_budget", bytes t.spentBudget.toJson), ("reserved_budget", bytes t.reservedBudget.toJson),
     ("execution_state", t.executionState.json), ("version", number t.version),
     ("nodes", object (t.nodes.rows.map fun n => (n.nodeId, n.json))),
     ("accepted_proposals", textSet t.acceptedProposals),
     ("receipts", object (t.receipts.rows.map fun r => (r.1, text r.2))),
     ("active_leases", textSet t.activeLeases),
     ("rejected_proposals", object (t.rejectedProposals.rows.map fun r => (r.1, r.2.json))),
     ("usage_receipts", object (t.usageReceipts.rows.map fun r => (r.1, text r.2)))]

end Harness
