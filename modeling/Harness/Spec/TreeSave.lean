import Harness.Spec.TreeStore
import Mathlib.Data.Finset.Sort

/-! The table of trees: how a tree is loaded, saved under an expected version, and how a
save that came too late leaves its rejections behind. A row is the tree it was written
from, since every writer derives the row's columns and its JSON from that tree. -/

namespace Harness

open Lib

abbrev TreeTable : Type := Table RecursiveTree.rootRunId

/-- A row of `workflow_runs`. Boundaries that do not parse are `none`. -/
structure RunRow where
  workflowId : String
  boundaries : Option RunBoundaries

/-- What a tree's binding is checked against. The inner option of `agentStep` is `none` for
a `node_json` that does not parse. -/
structure WorkflowTables where
  run : String → Option RunRow
  agentStep : (runId nodeId : String) → Option (Option RootMetadata)

/-- `recursive_root_creation_receipt_sha256`. -/
abbrev Mint : Type := (plan runId workflowId nodeId agent : String) → String

variable (x : Externals) (mint : Mint)

def validateRootAuthorityBinding (metadata : RootMetadata) (t : RecursiveTree) :
    Except String Unit := do
  let some childBudget := t.rootChildBudgetLimit
    | throw "recursive root child budget authority is missing"
  let authority ← match metadata.authority with
    | none => throw "recursive root authority binding is missing"
    | some none => throw "recursive root authority binding is malformed"
    | some (some authority) => pure authority
  refuse (authority.schemaVersion ≠ recursiveRootAuthorityVersion ||
      authority.scope ≠ t.rootScope || authority.capabilities ≠ t.rootCapabilities ||
      t.rootBudgetLimit ≠ some authority.treeBudget || childBudget ≠ authority.childBudget)
    "recursive root authority is not bound to workflow run"
  let planReceipt ← requireText metadata.creationReceiptSha256
    "recursive root plan creation receipt is missing"
  refuse (t.rootCreationReceiptSha256 ≠
      mint planReceipt t.rootRunId t.workflowId t.rootNodeId t.rootAgentId)
    "recursive root creation receipt is not run-bound"

variable (tables : WorkflowTables)

def checkWorkflowBinding (t : RecursiveTree) : Except String Unit := do
  let some run := tables.run t.rootRunId | throw "recursive workflow run binding is missing"
  refuse (run.workflowId ≠ t.workflowId) "recursive workflow identity is not bound to workflow run"
  let some boundaries := run.boundaries | throw "recursive workflow boundaries are malformed"
  refuse (boundaries.tenantId ≠ t.rootTenantId || boundaries.workspaceId ≠ t.rootWorkspaceId)
    "recursive tenant or workspace identity is not bound to workflow run"
  let some row := tables.agentStep t.rootRunId t.rootNodeId | throw "Query returned no rows"
  let some metadata := row | throw "recursive root node identity is malformed"
  refuse (metadata.agentId ≠ some t.rootAgentId ||
      metadata.recursiveRootNodeId ≠ some t.rootRecursiveMarker)
    "recursive root node identity is not bound to workflow run"
  validateRootAuthorityBinding mint metadata t

/-- Older snapshots carry no aggregate limit. -/
def normalizeLoadedTree (t : RecursiveTree) : RecursiveTree :=
  if t.rootBudgetLimit.isNone then { t with rootBudgetLimit := some t.rootBudget } else t

def loadRecursiveTree (trees : TreeTable) (runId : String) : Except String (Option RecursiveTree) :=
  match trees.find? runId with
  | none => .ok none
  | some stored => do
    refuse (stored.schemaVersion ≠ recursiveSchemaVersion)
      "recursive tree identity or schema conflict"
    let t := normalizeLoadedTree stored
    checkWorkflowBinding mint tables t
    let _ ← t.validateTreeForPersistence x
    pure (some t)

/-- Version 0 expects that there is no tree yet. -/
def checkExpected (trees : TreeTable) (runId : String) (expectedVersion : ℕ) : Except String Unit :=
  let current := (trees.find? runId).map RecursiveTree.version
  let isMatch := if expectedVersion = 0 then current = none else current = some expectedVersion
  refuse (¬isMatch) "stale_parent"

def persistRecursiveTree (trees : TreeTable) (t : RecursiveTree)
    (expectedVersion : Option ℕ) : Except String TreeTable := do
  let _ ← t.validateTreeForPersistence x
  match expectedVersion with
  | some expectedVersion => checkExpected trees t.rootRunId expectedVersion
  | none => pure ()
  checkWorkflowBinding mint tables t
  pure (trees.insert t)

def saveRecursiveTreeWithExpectedVersion (trees : TreeTable)
    (t : RecursiveTree) (expectedVersion : ℕ) : Except String TreeTable := do
  refuse (t.schemaVersion ≠ recursiveSchemaVersion) "recursive tree schema version mismatch"
  persistRecursiveTree x mint tables trees t (some expectedVersion)

/-- What `record_recursive_cas_rejection` takes over from the candidate: its new acceptances
as stale ones, in the order of a set, then its rejections that are news. -/
def casRejections (candidate current : RecursiveTree) : List (String × RecursiveDecisionEvidence) :=
  let stale := ((candidate.acceptedProposals \ current.acceptedProposals).sort (· ≤ ·)).map
    fun p => (p, RecursiveDecisionEvidence.mk .staleParent ["agent_proposal/" ++ p])
  stale ++ candidate.rejectedProposals.rows.filter fun entry =>
    !current.rejectedProposals.contains entry.1 && !(stale.any fun s => s.1 = entry.1) &&
      entry.1 ∉ current.acceptedProposals

def recordRecursiveCasRejection (trees : TreeTable)
    (candidate : RecursiveTree) :
    Except String (List (String × RecursiveDecisionEvidence) × TreeTable) := do
  let some current ← loadRecursiveTree x mint tables trees candidate.rootRunId
    | throw "recursive_tree_missing"
  let rejected := casRejections candidate current
  let recorded := rejected.foldl (fun t entry => t.recordRejectionEvidence entry.1 entry.2) current
  if rejected = [] then pure ([], trees)
  else
    let trees ← persistRecursiveTree x mint tables trees recorded (some current.version)
    pure (rejected, trees)

/-- `AgentMutationOp::PersistRecursiveTree`: the rejections are empty when the tree was saved. -/
def persistTreeMutation (trees : TreeTable) (t : RecursiveTree)
    (expectedVersion : Option ℕ) :
    Except String (Option (List (String × RecursiveDecisionEvidence)) × TreeTable) :=
  match persistRecursiveTree x mint tables trees t expectedVersion with
  | .ok trees => .ok (none, trees)
  | .error reason =>
    if reason = "stale_parent" then do
      let (rejected, trees) ← recordRecursiveCasRejection x mint tables trees t
      pure (some rejected, trees)
    else .error reason

end Harness
