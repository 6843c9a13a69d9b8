import Harness.Lib.Trace
import Harness.Spec.WorkflowStore

/-! Authorization of a tool call of a workflow node: one row per node, which the gate asks an
operator about, which an operator resolves, and which is consumed by the one call it allows. A
tool that needs no approval claims the row outright. Audit entries are left out. -/

namespace Harness.ToolPolicy

open Lib

inductive AuthorizationStatus where
  | requested
  | approved
  | rejected
  | consumed
deriving DecidableEq, Repr

structure ToolAuthorization where
  (runId nodeId actionSha256 toolName profileId : String)
  status : AuthorizationStatus
  requestedApprovalId : String
  resolvedBy : Option String
  (createdAt updatedAt : String)
deriving DecidableEq

def ToolAuthorization.key (r : ToolAuthorization) : String ×ₗ String := toLex (r.runId, r.nodeId)

inductive Decision where
  | requested
  | approved
  | rejected
deriving DecidableEq, Repr

def Decision.ofText (text : String) : Option Decision :=
  if text = "requested" then some .requested
  else if text = "approved" then some .approved
  else if text = "rejected" then some .rejected
  else none

/-- What `approval_json` says besides the columns. -/
structure ApprovalJson where
  (approvalKind toolName profileId policySha256 actionSha256 resolvedRequestId : Option String)
  metadataOnly : Bool
  executionAuthority : String
deriving DecidableEq

structure Approval where
  approvalSequence : ℕ
  (approvalId runId nodeId : String)
  decision : Decision
  actor : String
  reason : Option String
  createdAt : String
  json : ApprovalJson
deriving DecidableEq

/-- `policy` is the hash of the current policy for a profile and a tool. -/
structure Store where
  workflow : WorkflowStore
  policy : (profileId toolName : String) → Except String String
  approvals : Table Approval.approvalSequence
  authorizations : Table ToolAuthorization.key

variable (s : Store)

def Store.find? (runId nodeId : String) : Option ToolAuthorization :=
  s.authorizations.find? (toLex (runId, nodeId))

inductive ToolExecutionGate where
  | awaitingApproval (approvalId : String)
  | authorized
  | rejected
  | consumedOutcomeUnknown
deriving DecidableEq, Repr

def identifierChar (c : Char) : Bool :=
  c.isAlphanum || c = '-' || c = '_' || c = '.' || c = ':'

def validateIdentifier (field value : String) : Except String Unit := do
  refuse (value = "" || 256 < value.utf8ByteSize) (field ++ " must contain 1..=256 bytes")
  refuse (!value.toList.all identifierChar) (field ++ " contains unsupported characters")

def hexDigit (c : Char) : Bool := c.isDigit || ('a' ≤ c && c ≤ 'f') || ('A' ≤ c && c ≤ 'F')

def validateActionHash (actionSha256 : String) : Except String Unit :=
  refuse (actionSha256.utf8ByteSize ≠ 64 || !actionSha256.toList.all hexDigit)
    "action_sha256 must be a 64-character hexadecimal digest"

/-- A tool call of a node under a policy. -/
structure Invocation where
  (runId nodeId toolName profileId policySha256 actionSha256 : String)
deriving DecidableEq

def Invocation.validate (c : Invocation) : Except String Unit := do
  validateIdentifier "run_id" c.runId
  validateIdentifier "node_id" c.nodeId
  validateIdentifier "tool_name" c.toolName
  validateIdentifier "profile_id" c.profileId
  validateActionHash c.policySha256
  validateActionHash c.actionSha256

def requirePolicySnapshot (current expectedSha256 : String) : Except String Unit := do
  validateActionHash expectedSha256
  refuse (current ≠ expectedSha256) "tool execution policy changed before authorization claim"

/-- The checks both entries begin with. -/
def checkInvocation (c : Invocation) (what : String) : Except String Unit := do
  c.validate
  let policy ← s.policy c.profileId c.toolName
  requirePolicySnapshot policy c.policySha256
  refuse (s.workflow.find? c.runId c.nodeId).isNone
    ("workflow node not found for tool " ++ what ++ ": " ++ c.runId ++ "/" ++ c.nodeId)

/-- The row is for this action, tool and profile. -/
def ToolAuthorization.binds (r : ToolAuthorization) (c : Invocation) : Bool :=
  r.actionSha256 = c.actionSha256 && r.toolName = c.toolName && r.profileId = c.profileId

def Store.nextSequence : ℕ :=
  s.approvals.rows.foldl (fun n a => max n a.approvalSequence) 0 + 1

/-- At least four digits. -/
def approvalIdOf (sequence : ℕ) : String :=
  let digits := toString sequence
  "workflow-approval-" ++ String.ofList (List.replicate (4 - digits.length) '0') ++ digits

def insertApproval (a : Approval) : Except String Store := do
  refuse (s.approvals.rows.any fun b => b.approvalId = a.approvalId)
    "UNIQUE constraint failed: workflow_run_approvals.approval_id"
  pure { s with approvals := s.approvals.insert a }

def insertAuthorization (r : ToolAuthorization) : Except String Store := do
  refuse (s.authorizations.rows.any fun b => b.requestedApprovalId = r.requestedApprovalId)
    "UNIQUE constraint failed: tool_execution_authorizations.requested_approval_id"
  pure { s with authorizations := s.authorizations.insert r }

def Store.setStatus (runId nodeId : String) (status : AuthorizationStatus)
    (resolvedBy : Option String) (now : String) : Store :=
  { s with authorizations := s.authorizations.modify (toLex (runId, nodeId)) fun r =>
      { r with status := status, resolvedBy := resolvedBy.or r.resolvedBy, updatedAt := now } }

def gateFromStatus (status : AuthorizationStatus) (approvalId : String) :
    Except String ToolExecutionGate :=
  match status with
  | .requested => .ok (.awaitingApproval approvalId)
  | .rejected => .ok .rejected
  | .consumed => .ok .consumedOutcomeUnknown
  | .approved => .error "unsupported tool execution authorization status: approved"

def gateExisting (c : Invocation) (r : ToolAuthorization) (now : String) :
    Except String (ToolExecutionGate × Store) := do
  refuse (!r.binds c) "tool authorization binding changed for leased node"
  if r.status = .approved then
    pure (.authorized, s.setStatus c.runId c.nodeId .consumed none now)
  else do
    let gate ← gateFromStatus r.status r.requestedApprovalId
    pure (gate, s)

def requestedApproval (c : Invocation) (sequence : ℕ) (reason now : String) : Approval where
  approvalSequence := sequence
  approvalId := approvalIdOf sequence
  runId := c.runId
  nodeId := c.nodeId
  decision := .requested
  actor := "tool-policy"
  reason := some reason
  createdAt := now
  json :=
    { approvalKind := some "tool_execution"
      toolName := some c.toolName
      profileId := some c.profileId
      policySha256 := some c.policySha256
      actionSha256 := some c.actionSha256
      resolvedRequestId := none
      metadataOnly := false
      executionAuthority := "single_tool_invocation" }

def Invocation.row (c : Invocation) (status : AuthorizationStatus) (approvalId : String)
    (resolvedBy : Option String) (now : String) : ToolAuthorization :=
  ⟨c.runId, c.nodeId, c.actionSha256, c.toolName, c.profileId, status, approvalId, resolvedBy, now,
    now⟩

def gateToolExecution (c : Invocation) (reason now : String) :
    Except String (ToolExecutionGate × Store) := do
  checkInvocation s c "authorization"
  match s.find? c.runId c.nodeId with
  | some r => gateExisting s c r now
  | none => do
    let approval := requestedApproval c s.nextSequence reason now
    let s ← insertApproval s approval
    let s ← insertAuthorization s (c.row .requested approval.approvalId none now)
    pure (.awaitingApproval approval.approvalId, s)

def claimExisting (c : Invocation) (r : ToolAuthorization) (receiptId : String) :
    Except String (ToolExecutionGate × Store) := do
  refuse (!r.binds c) "tool execution receipt binding changed for leased node"
  refuse (r.requestedApprovalId ≠ receiptId || r.status ≠ .consumed)
    "existing tool execution requires its explicit approval workflow"
  pure (.consumedOutcomeUnknown, s)

variable (sha256 : String → String)

/-- `sha256` is the hash of a text in hexadecimal digits. -/
def Invocation.receiptId (c : Invocation) : String :=
  "implicit-" ++ sha256 ("\x00".intercalate
    [c.runId, c.nodeId, c.toolName, c.profileId, c.actionSha256])

def claimToolExecutionWithoutApproval (s : Store) (c : Invocation)
    (now : String) : Except String (ToolExecutionGate × Store) := do
  checkInvocation s c "receipt"
  match s.find? c.runId c.nodeId with
  | some r => claimExisting s c r (c.receiptId sha256)
  | none => do
    let s ← insertAuthorization s
      (c.row .consumed (c.receiptId sha256) (some "tool-policy:implicit") now)
    pure (.authorized, s)

structure Resolution where
  (runId requestedApprovalId resolution actor : String)
  reason : Option String
  now : String
deriving DecidableEq

def parseResolution (resolution : String) : Except String (Decision × AuthorizationStatus) :=
  if resolution = "approved" then .ok (.approved, .approved)
  else if resolution = "rejected" then .ok (.rejected, .rejected)
  else .error ("invalid workflow approval resolution: " ++ resolution)

def ensureRunExists (runId : String) : Except String Unit :=
  refuse (s.workflow.runs.find? runId).isNone ("workflow run not found: " ++ runId)

def latestSequence (runId nodeId : String) : ℕ :=
  (s.approvals.rows.filter fun a => a.runId = runId && a.nodeId = nodeId).foldl
    (fun n a => max n a.approvalSequence) 0

def Approval.isToolExecution (a : Approval) : Bool := a.json.approvalKind = some "tool_execution"

/-- The row that a request for a tool call is about, unless something has changed. -/
def checkBinding (requested : Approval) : Except String Unit := do
  let r ← required ((s.find? requested.runId requested.nodeId).filter fun r =>
    r.requestedApprovalId = requested.approvalId) "tool execution approval binding is missing"
  refuse (r.status ≠ .requested || requested.json.actionSha256 ≠ some r.actionSha256 ||
      requested.json.toolName ≠ some r.toolName || requested.json.profileId ≠ some r.profileId)
    "tool execution approval binding changed"

def checkToolBinding (requested : Approval) : Except String Unit :=
  if requested.isToolExecution then checkBinding s requested else .ok ()

def resolvedJson (requested : Approval) (requestedApprovalId : String) : ApprovalJson :=
  if requested.isToolExecution then
    { approvalKind := some "tool_execution"
      toolName := requested.json.toolName
      profileId := requested.json.profileId
      policySha256 := none
      actionSha256 := requested.json.actionSha256
      resolvedRequestId := some requestedApprovalId
      metadataOnly := false
      executionAuthority := "single_tool_invocation" }
  else
    { approvalKind := none
      toolName := none
      profileId := none
      policySha256 := none
      actionSha256 := none
      resolvedRequestId := some requestedApprovalId
      metadataOnly := true
      executionAuthority := "disabled" }

def resolvedApproval (requested : Approval) (r : Resolution) (decision : Decision)
    (sequence : ℕ) : Approval where
  approvalSequence := sequence
  approvalId := approvalIdOf sequence
  runId := r.runId
  nodeId := requested.nodeId
  decision := decision
  actor := r.actor
  reason := r.reason
  createdAt := r.now
  json := resolvedJson requested r.requestedApprovalId

def NodeJson.setStatus (json : NodeJson) (status : String) : NodeJson :=
  match json with
  | .object m => .object { m with status := some status }
  | json => json

/-- The node of a resolved request waits to be leased again. -/
def releaseNode (runId nodeId : String) : Except String Store := do
  let row ← required ((s.workflow.find? runId nodeId).filter fun r => r.status = .awaitingApproval)
    "tool approval node is no longer awaiting approval"
  refuse (!row.nodeJson.parses) "invalid workflow node JSON"
  pure { s with workflow := s.workflow.modifyNode runId nodeId fun r =>
    { r with status := .pending, nodeJson := NodeJson.setStatus r.nodeJson "pending" } }

def resolveToolRequest (r : Resolution) (requested : Approval)
    (status : AuthorizationStatus) : Except String Store :=
  if requested.isToolExecution then
    releaseNode (s.setStatus r.runId requested.nodeId status (some r.actor) r.now) r.runId
      requested.nodeId
  else .ok s

def resolveRequestedWorkflowRunApproval (r : Resolution) :
    Except String (Approval × Store) := do
  let outcome ← parseResolution r.resolution
  ensureRunExists s r.runId
  let requested ← required (s.approvals.rows.find? fun a => a.runId = r.runId &&
      a.approvalId = r.requestedApprovalId && a.decision = .requested)
    ("requested workflow approval is no longer current: " ++ r.requestedApprovalId)
  refuse (latestSequence s r.runId requested.nodeId ≠ requested.approvalSequence)
    ("requested workflow approval has been superseded: " ++ r.requestedApprovalId)
  checkToolBinding s requested
  let approval := resolvedApproval requested r outcome.1 s.nextSequence
  let s ← insertApproval s approval
  let s ← resolveToolRequest s r requested outcome.2
  pure (approval, s)

/-- Approvals that are not about a tool call. `bindings` and expiry are left out. -/
def recordWorkflowRunApproval (runId nodeId decision actor : String)
    (reason : Option String) (now : String) : Except String (Approval × Store) := do
  let decision ← required (Decision.ofText decision)
    ("invalid workflow approval decision: " ++ decision)
  ensureRunExists s runId
  let approval : Approval :=
    ⟨s.nextSequence, approvalIdOf s.nextSequence, runId, nodeId, decision, actor, reason, now,
      ⟨none, none, none, none, none, none, true, "disabled"⟩⟩
  let s ← insertApproval s approval
  pure (approval, s)

inductive Op where
  | gate (c : Invocation) (reason now : String)
  | claim (c : Invocation) (now : String)
  | resolve (r : Resolution)
  | record (runId nodeId decision actor : String) (reason : Option String) (now : String)
  /-- Whatever the engine does with runs and nodes, and operators with the policy. -/
  | elsewhere (workflow : WorkflowStore)
      (policy : (profileId toolName : String) → Except String String)

inductive Reply where
  | gate (result : Except String ToolExecutionGate)
  | approval (result : Except String Approval)
  | nothing

/-- An operation with its reply. -/
structure Entry where
  op : Op
  reply : Reply

/-- A transaction that fails is rolled back. -/
def commit {α : Type} (s : Store) : Except String (α × Store) → Except String α × Store
  | .ok (a, s') => (.ok a, s')
  | .error e => (.error e, s)

def answer (s : Store) : Op → Reply × Store
  | .gate c reason now => (commit s (gateToolExecution s c reason now)).map .gate id
  | .claim c now => (commit s (claimToolExecutionWithoutApproval sha256 s c now)).map .gate id
  | .resolve r => (commit s (resolveRequestedWorkflowRunApproval s r)).map .approval id
  | .record runId nodeId decision actor reason now =>
    (commit s (recordWorkflowRunApproval s runId nodeId decision actor reason now)).map .approval id
  | .elsewhere workflow policy => (.nothing, { s with workflow := workflow, policy := policy })

def step (s : Store) (op : Op) : Entry × Store :=
  (⟨op, (answer sha256 s op).1⟩, (answer sha256 s op).2)

end Harness.ToolPolicy
