import Harness.Spec.WorkflowGraph

/-! The transactions of the tick engine: leasing a node, settling its result and recovering
stale leases. Each one either commits the store it returns or, on an error, leaves the store
as it was. Events and audit entries are left out, and so is what an executor does between a
lease and its settlement. -/

namespace Harness

open Lib

/-- `workflow_runs.status`. -/
inductive RunStatus where
  | created
  | running
  | completed
  | failed
  | cancelled
  | other (text : String)
deriving DecidableEq

def RunStatus.text : RunStatus → String
  | created => "created"
  | running => "running"
  | completed => "completed"
  | failed => "failed"
  | cancelled => "cancelled"
  | other text => text

def RunStatus.isTerminal (s : RunStatus) : Bool := s = .completed || s = .failed || s = .cancelled

structure RunRecord where
  (runId workflowId : String)
  status : RunStatus
  pauseReason : Option String
  boundaries : Option RunBoundaries

lemma runId_paused (reason : Option String) (r : RunRecord) :
    { r with pauseReason := reason }.runId = r.runId := rfl

structure WorkflowStore extends WorkflowGraph where
  runs : Table RunRecord.runId
  trees : TreeTable

/-- What an executor hands back. `usage` is what `recursive_usage_from_output` makes of it
and `retryableDomain` says that its error domain is not one of those that forbid a retry. -/
structure NodeExecutionOutput where
  (status value : String)
  retryableDomain : Bool
  usage : Except String (RecursiveBudget × Option String)
  productManagedUsage : Option String

def apiOwnedSupervisedPatch : String := "api_owned_supervised_patch"

def requireRunExecutionOwner (runId : String) (currentOwner expectedOwner : Option String) :
    Except String Unit :=
  if currentOwner = some apiOwnedSupervisedPatch then
    refuse (expectedOwner ≠ some apiOwnedSupervisedPatch)
      ("workflow run execution owner conflict: " ++ runId ++ " is owned by the supervised-patch API")
  else
    refuse (expectedOwner = some apiOwnedSupervisedPatch)
      ("workflow run execution owner conflict: " ++ runId ++
        " is no longer owned by the supervised-patch API")

/-- `n as i64` for a `usize`. -/
def asI64 (n : ℕ) : ℤ := if n < 2 ^ 63 then n else n - 2 ^ 64

structure RecursiveCompletionIdentity where
  recursiveNodeId : Option String
  root : Bool
  terminalReason : Option RecursiveFailureReason
  metadataWritable : Bool

/-- Whether the markers of a row fit what the index of tree nodes says about it. -/
def markerValid (nodeId : String) (json : NodeJson) (indexedRoot : Option String)
    (recursiveEnabled : Bool) : Bool :=
  let child := json.recursiveNodeId
  let root := json.recursiveRootNodeId
  if !json.parses then false
  else if !(child.wellTyped && root.wellTyped) || (child.isPresent && root.isPresent) then false
  else if indexedRoot = some nodeId then !child.asStr.isSome && root.asStr = some nodeId
  else if indexedRoot.isSome then child.asStr = some nodeId && !root.asStr.isSome
  else if !recursiveEnabled then !(child.asStr.isSome && root.asStr.isSome)
  else !child.isPresent && !root.isPresent

def resolveRecursiveCompletionIdentity (nodeId : String) (json : NodeJson)
    (indexedRoot : Option String) (recursiveEnabled : Bool) :
    Except String RecursiveCompletionIdentity :=
  let valid := markerValid nodeId json indexedRoot recursiveEnabled
  if indexedRoot.isNone && !valid then .error "recursive_node_identity_malformed"
  else
    let malformed := indexedRoot.isSome && (!json.isObject || !valid)
    .ok
      { recursiveNodeId := if indexedRoot.isSome then some nodeId else none
        root := indexedRoot = some nodeId
        terminalReason := if malformed then some .recursiveNodeIdentityMalformed else none
        metadataWritable := !malformed && json.isObject }

def recursiveMarkerFromNodeJson (json : NodeJson) : Except String Bool :=
  let child := json.recursiveNodeId
  let root := json.recursiveRootNodeId
  if !json.parses || (child.isPresent && root.isPresent) then
    .error "recursive_node_identity_malformed"
  else
    let marker := if child.isPresent then child else root
    if !marker.isPresent then .ok false
    else if (marker.asStr.filter (· ≠ "")).isNone then .error "recursive_node_identity_malformed"
    else .ok true

def recursiveIdentityForClaim (nodeId : String) (json : NodeJson) (indexedRoot : Option String) :
    Except String Bool :=
  if !json.parses then .error "recursive_node_identity_malformed"
  else
    let child := json.recursiveNodeId.asStr
    let root := json.recursiveRootNodeId.asStr
    match indexedRoot with
    | some indexedRoot =>
      let exact :=
        if indexedRoot = nodeId then child = none ∧ root = some nodeId
        else child = some nodeId ∧ root = none
      if exact then .ok true else .error "recursive_node_identity_malformed"
    | none => do
      let marked ← recursiveMarkerFromNodeJson json
      if !marked then .ok false
      else if child = some nodeId || root = some nodeId then .ok true
      else .error "recursive_node_identity_malformed"

def recursiveUsageFailureReason (error : String) : Option RecursiveFailureReason :=
  if error = "fixture_usage_contract_missing" then some .fixtureUsageContractMissing
  else if error = "fixture_usage_contract_invalid" then some .fixtureUsageContractInvalid
  else if error = "recursive_usage_unavailable" then some .recursiveUsageUnavailable
  else if error = "recursive_node_identity_malformed" then some .recursiveNodeIdentityMalformed
  else none

namespace WorkflowStore

variable (x : Externals) (mint : Mint)
  (s : WorkflowStore)

def tables : WorkflowTables where
  run runId := (s.runs.find? runId).map fun r => ⟨r.workflowId, r.boundaries⟩
  agentStep runId nodeId := ((s.find? runId nodeId).filter NodeRow.isAgentStep).map
    fun r => r.nodeJson.rootMetadata

/-- The index of tree nodes has a row for every node of the stored tree. -/
def indexedRecursiveRoot (runId nodeId : String) : Option String :=
  (s.trees.find? runId).bind fun t => if t.nodes.contains nodeId then some t.rootNodeId else none

def modifyNode (runId nodeId : String) (f : NodeRow → NodeRow)
    (hf : ∀ r, (f r).key = r.key := by as_aux_lemma => (intro _; rfl)) : WorkflowStore :=
  { s with nodes := s.nodes.modify (toLex (runId, nodeId)) f hf }

def updateRunStatus (runId : String) (status : RunStatus) : WorkflowStore :=
  { s with runs := s.runs.modify runId fun r => { r with status := status } }

/-! The recursive tree of a run, inside a transaction. -/

def loadTree (runId : String) : Except String RecursiveTree := do
  let some t ← loadRecursiveTree x mint s.tables s.trees runId
    | throw "recursive_tree_missing"
  pure t

variable (t : RecursiveTree)

def persistTree (expectedVersion : Option ℕ) : Except String WorkflowStore := do
  let trees ← persistRecursiveTree x mint s.tables s.trees t expectedVersion
  pure { s with trees := trees }

def requireTreeNode (nodeId : String) : Except String Unit :=
  refuse (!t.nodes.contains nodeId) "recursive_node_missing"

variable (env : RecursiveEnv)

def syncRecursiveLease (runId nodeId leaseId : String) :
    Except String WorkflowStore := do
  let t ← s.loadTree x mint runId
  requireTreeNode t nodeId
  let t' ← reasonText (RecursiveTree.treeOf (t.leaseNode env nodeId leaseId))
  s.persistTree x mint t' (some t.version)

def recursiveRetryAllowed (runId nodeId : String) (usage : RecursiveBudget) :
    Except String Bool := do
  let t ← s.loadTree x mint runId
  requireTreeNode t nodeId
  reasonText (t.retryAllowed env nodeId usage)

/-- The failed children whose workflow rows end with them. -/
def endsRow (n : RecursiveNode) : Bool :=
  n.parentNodeId.isSome && n.status = .failed &&
    (n.failureReason = some .treeBudgetExhausted || n.failureReason = some .terminalFailed ||
      n.failureReason = some .recursiveUsageUnavailable)

lemma key_ended (now : String) (m : NodeMetadata) (r : NodeRow) :
    { r with
      status := .failed
      leasedAt := none
      nodeJson := .object { m with status := some "failed", completedAt := some now } }.key =
        r.key := rfl

def endRow (now : String) (runId : String) (s : WorkflowStore) (n : RecursiveNode) :
    Except String WorkflowStore :=
  match s.find? runId n.nodeId with
  | none => .ok s
  | some row =>
    if row.status ≠ .pending ∧ row.status ≠ .running then .ok s
    else match row.nodeJson with
      | .malformed _ => .error "recursive workflow node binding is malformed"
      | .scalar _ => .error "recursive workflow node binding is missing"
      | .object m =>
        if m.recursiveNodeId.asStr ≠ some n.nodeId then
          .error "recursive workflow node binding is missing"
        else .ok (s.modifyNode runId n.nodeId
          (fun r => { r with
            status := .failed
            leasedAt := none
            nodeJson := .object { m with status := some "failed", completedAt := some now } })
          (key_ended now m))

/-- Row after row; the rows before a failure are written. -/
def endRows (now runId : String) : List RecursiveNode → WorkflowStore →
    Except String Unit × WorkflowStore
  | [], s => (.ok (), s)
  | n :: rest, s =>
    match endRow now runId s n with
    | .ok s => endRows now runId rest s
    | .error reason => (.error reason, s)

def syncTerminalWorkflowNodes (now : String) (t : RecursiveTree) : Except String WorkflowStore :=
  let ended := endRows now t.rootRunId (t.nodes.rows.filter endsRow) s
  ended.1.map fun _ => ended.2

/-- Keep the tree a transaction made of the one it loaded, and the rows in step with it. -/
def syncTree (now : String) (t : RecursiveTree) (expectedVersion : ℕ) :
    Except String WorkflowStore := do
  let s ← s.syncTerminalWorkflowNodes now t
  s.persistTree x mint t (some expectedVersion)

def nodeStatusText (nodeId : String) : Except String String :=
  match t.nodes.find? nodeId with
  | some n => .ok n.status.asStr
  | none => .error "recursive_node_missing"

def syncRecursiveCompletion (now runId nodeId leaseId usageReceiptId : String)
    (success retry : Bool) (usage : RecursiveBudget) : Except String (String × WorkflowStore) := do
  let t ← s.loadTree x mint runId
  requireTreeNode t nodeId
  let t' ← reasonText
    (t.syncRecursiveCompletionWithReceipt env nodeId leaseId usageReceiptId success retry usage)
  let status ← nodeStatusText t' nodeId
  let s ← s.syncTree x mint now t' t.version
  pure (status, s)

def syncRecursiveRootCompletion (now runId leaseId usageReceiptId : String) (success : Bool)
    (usage : RecursiveBudget) : Except String (String × WorkflowStore) := do
  let t ← s.loadTree x mint runId
  let t' ← reasonText (t.syncRecursiveRootCompletionWithReceipt leaseId usageReceiptId success usage)
  let status ← nodeStatusText t' t'.rootNodeId
  let s ← s.syncTree x mint now t' t.version
  pure (status, s)

def syncRecursiveTerminalFailure (now runId nodeId leaseId : String)
    (reason : RecursiveFailureReason) : Except String (String × WorkflowStore) := do
  let (_, s) ← s.syncRecursiveCompletion x mint env now runId nodeId leaseId leaseId false
    false .zero
  let t ← s.loadTree x mint runId
  requireTreeNode t nodeId
  let s ← s.syncTree x mint now (t.terminalFailureAt nodeId reason) t.version
  pure ("failed", s)

/-- The root's row does not parse or names another node: the tree is ended without the
check that binds it to that row. -/
def syncCorruptRecursiveRootTerminalFailure (now runId : String) (reason : RecursiveFailureReason) :
    Except String (String × WorkflowStore) := do
  let some stored := s.trees.find? runId | throw "Query returned no rows"
  let t := normalizeLoadedTree stored
  requireTreeNode t t.rootNodeId
  let t := RecursiveTree.failNode reason t t.rootNodeId
  let t := { t with executionState := .terminalFailed }
  let t := (t.terminalizeRemainingNodes (some t.rootNodeId) .terminalFailed).bumpVersion
  let s ← s.syncTerminalWorkflowNodes now t
  let _ ← t.validateTreeForPersistence x
  pure ("failed", { s with trees := s.trees.insert t })

def syncRecursiveRootTerminalFailure (now runId receiptId : String)
    (reason : RecursiveFailureReason) : Except String (String × WorkflowStore) :=
  if reason = .recursiveNodeIdentityMalformed then
    s.syncCorruptRecursiveRootTerminalFailure x now runId reason
  else do
    let (_, s) ← s.syncRecursiveRootCompletion x mint now runId receiptId receiptId false
      .zero
    let t ← s.loadTree x mint runId
    requireTreeNode t t.rootNodeId
    let s ← s.syncTree x mint now (t.terminalFailureAt t.rootNodeId reason) t.version
    pure ("failed", s)

def syncRecursiveStaleRecovery (now runId nodeId leaseId : String) (retry : Bool) :
    Except String WorkflowStore := do
  let t ← s.loadTree x mint runId
  let t' ← reasonText (t.syncRecursiveStaleRecovery nodeId leaseId retry)
  s.syncTree x mint now t' t.version

/-- Charge the result of an attempt that is over. The settlement that calls it commits even
when this fails, with the rows it has ended by then. -/
def recordRecursiveLateUsage (now runId nodeId usageReceiptId : String) (root : Bool)
    (usage : RecursiveBudget) : Except String Bool × WorkflowStore :=
  match s.loadTree x mint runId with
  | .error reason => (.error reason, s)
  | .ok t =>
    if !root && !t.nodes.contains nodeId then (.error "recursive_node_missing", s)
    else
      let charged := if root then t.recordRootLateUsage usageReceiptId usage
        else t.recordLateUsage nodeId usageReceiptId usage
      match charged with
      | (.error reason, _) => (.error reason.asStr, s)
      | (.ok within, t') =>
        match endRows now t'.rootRunId (t'.nodes.rows.filter endsRow) s with
        | (.error reason, s) => (.error reason, s)
        | (.ok (), s) =>
          match s.persistTree x mint t' (some t.version) with
          | .error reason => (.error reason, s)
          | .ok s => (.ok within, s)

def runningAgentSteps : List NodeRow :=
  s.nodes.rows.filter fun r => r.isAgentStep && r.status = .running

def countRunningAgentSteps : ℕ := s.runningAgentSteps.length

def countRunningAgentStepsForRun (runId : String) : ℕ :=
  (s.runningAgentSteps.filter (·.runId = runId)).length

def workflowNodeIsRecursive (r : NodeRow) : Except String Bool :=
  recursiveIdentityForClaim r.nodeId r.nodeJson (s.indexedRecursiveRoot r.runId r.nodeId)

def countRunningRecursiveSteps : Except String ℕ := do
  let recursive ← s.runningAgentSteps.mapM s.workflowNodeIsRecursive
  pure (recursive.filter id).length

/-- The count in the guard of a recursive claim. `json_extract` fails on text that does not
parse, and is only evaluated for rows outside the index. -/
def countRecursiveClaims : Except String ℕ := do
  let recursive ← s.runningAgentSteps.mapM fun r =>
    if (s.indexedRecursiveRoot r.runId r.nodeId).isSome then .ok true
    else if !r.nodeJson.parses then .error "malformed JSON"
    else .ok (r.nodeJson.recursiveNodeId.notNull || r.nodeJson.recursiveRootNodeId.notNull)
  pure (recursive.filter id).length

structure LeaseRequest where
  runId : String
  agentExecutor : Bool
  caps : Option (ℕ × ℕ)
  expectedOwner : Option String
  env : RecursiveEnv
  now : String

inductive LeaseResult where
  | terminal (status : RunStatus)
  | noReadyNode
  | leased (nodeId taskType : String) (attempt : ℕ)
deriving DecidableEq

/-- Whether three recursive steps run already. -/
def recursiveCapped (r : NodeRow) : Except String Bool := do
  if !env.recursiveEnabled then pure false
  else if !(← s.workflowNodeIsRecursive r) then pure false
  else pure (maxRecursiveLeases ≤ (← s.countRunningRecursiveSteps))

variable (q : LeaseRequest)

/-- Whether a cap keeps this node from being leased now. -/
def capped (r : NodeRow) : Except String Bool := do
  if !r.isAgentStep then pure false
  else if ← s.recursiveCapped q.env r then pure true
  else match q.caps with
    | none => pure false
    | some (globalCap, perRunCap) =>
      pure (asI64 globalCap ≤ s.countRunningAgentSteps ||
        asI64 perRunCap ≤ s.countRunningAgentStepsForRun q.runId)

/-- The loop of the lease phase; each turn skips one more node of the run. -/
def selectNode (q : LeaseRequest) : ℕ → List String → Except String (Option NodeRow)
  | 0, _ => .ok none
  | fuel + 1, skip =>
    let candidate := (s.findReadyNode q.runId skip (some q.agentExecutor)).or
      (if skip = [] then s.findReadyNode q.runId skip none else none)
    match candidate with
    | none => .ok none
    | some r => do
      if ← s.capped q r then selectNode q fuel (skip ++ [r.nodeId]) else .ok (some r)

/-- The condition of the `UPDATE` that takes the node. -/
def claimAllowed (r : NodeRow) : Except String Bool :=
  match q.caps with
  | some (globalCap, perRunCap) =>
    .ok (!r.isAgentStep || (s.countRunningAgentSteps < asI64 globalCap &&
      s.countRunningAgentStepsForRun q.runId < asI64 perRunCap))
  | none => do
    if q.env.recursiveEnabled && r.isAgentStep then
      if ← s.workflowNodeIsRecursive r then pure ((← s.countRecursiveClaims) < maxRecursiveLeases)
      else pure true
    else pure true

def finishRun (runId : String) : Option RunStatus × WorkflowStore :=
  let s := { s with toWorkflowGraph := s.propagateFailedDependencies runId }
  match s.checkRunCompletion runId with
  | (true, hasFailure) =>
    let status := if hasFailure then .failed else .completed
    (some status, s.updateRunStatus runId status)
  | (false, _) => (none, s)

def ensureRecursiveRootTree (runId workflowId nodeId : String) (json : NodeJson) :
    Except String WorkflowStore := do
  match ← loadRecursiveTree x mint s.tables s.trees runId with
  | some t =>
    refuse (t.rootNodeId ≠ nodeId) "recursive root conflicts with persisted tree"
    pure s
  | none =>
    let some run := s.runs.find? runId | throw "Query returned no rows"
    let some boundaries := run.boundaries | throw "recursive workflow boundaries are malformed"
    let some metadata := json.rootMetadata | throw "recursive_node_identity_malformed"
    let t ← recursiveRootTreeFromMetadata x
      (fun plan agent => mint plan runId workflowId nodeId agent) runId workflowId nodeId
      metadata boundaries
    s.persistTree x mint t (some 0)

def workflowReceipt (runId nodeId : String) (attempt : ℕ) : String :=
  "workflow:" ++ runId ++ ":" ++ nodeId ++ ":" ++ toString attempt

/-- The tree side of a lease, on the store in which the row is running. -/
def leaseRecursive (workflowId : String) (r : NodeRow) (attempt : ℕ) :
    Except String WorkflowStore := do
  refuse (!r.nodeJson.isObject) "recursive_node_identity_malformed"
  let leaseId := workflowReceipt q.runId r.nodeId attempt
  match r.nodeJson.recursiveNodeId.asStr, r.nodeJson.recursiveRootNodeId.asStr with
  | some marker, _ =>
    refuse (marker ≠ r.nodeId) "recursive_node_identity_malformed"
    s.syncRecursiveLease x mint q.env q.runId marker leaseId
  | none, some root =>
    if !q.env.recursiveEnabled then pure s
    else
      refuse (root ≠ r.nodeId) "recursive_node_identity_malformed"
      let s ← s.ensureRecursiveRootTree x mint q.runId workflowId r.nodeId r.nodeJson
      s.syncRecursiveLease x mint q.env q.runId root leaseId
  | none, none => pure s

/-- The first transaction of a tick. -/
def leasePhase : Except String (LeaseResult × WorkflowStore) := do
  let some run := s.runs.find? q.runId | throw ("workflow run not found: " ++ q.runId)
  requireRunExecutionOwner q.runId run.pauseReason q.expectedOwner
  refuse run.status.isTerminal
    ("workflow run " ++ q.runId ++ " is terminal: " ++ run.status.text)
  let s := if run.status = .created then s.updateRunStatus q.runId .running else s
  match ← s.selectNode q (s.nodes.size + 1) [] with
  | none =>
    match s.finishRun q.runId with
    | (some status, s) => pure (.terminal status, s)
    | (none, s) => pure (.noReadyNode, s)
  | some r =>
    if !(← s.claimAllowed q r) then pure (.noReadyNode, s)
    else
      let attempt := r.attemptCount + 1
      let s := s.modifyNode q.runId r.nodeId fun r =>
        { r with status := .running, leasedAt := some q.now, attemptCount := r.attemptCount + 1 }
      let s ← s.leaseRecursive x mint q run.workflowId r attempt
      pure (.leased r.nodeId r.taskType attempt, s)

structure Settlement where
  (runId nodeId : String)
  attempt : ℕ
  maxRetries : ℤ
  output : NodeExecutionOutput
  env : RecursiveEnv
  now : String

/-- The usage of a recursive node's attempt, or why the node fails for want of it. -/
def recursiveUsage (identity : RecursiveCompletionIdentity) (json : NodeJson)
    (output : NodeExecutionOutput) :
    Except String ((RecursiveBudget × Option String) × Option RecursiveFailureReason) :=
  if identity.terminalReason.isSome || identity.recursiveNodeId.isNone then
    .ok ((.zero, none), identity.terminalReason)
  else
    let bound := !identity.root ||
      match json with
      | .object m => m.authority.isSome
      | _ => false
    match if bound then output.usage else .error "recursive_node_identity_malformed" with
    | .ok usage => .ok (usage, none)
    | .error reason =>
      match recursiveUsageFailureReason reason with
      | some reason => .ok ((.zero, none), some reason)
      | none => .error reason

/-- The tree side of a settlement: the text of the node's new status in the tree. -/
def settleRecursive (q : Settlement) (identity : RecursiveCompletionIdentity)
    (usage : RecursiveBudget × Option String) (reason : Option RecursiveFailureReason)
    (shouldRetry : Bool) : Except String (String × WorkflowStore) :=
  let receipt := workflowReceipt q.runId q.nodeId q.attempt
  let usageReceipt := usage.2.getD receipt
  let success := q.output.status = "completed"
  match identity.root, reason with
  | true, some reason =>
    s.syncRecursiveRootTerminalFailure x mint q.now q.runId receipt reason
  | true, none =>
    s.syncRecursiveRootCompletion x mint q.now q.runId receipt usageReceipt success usage.1
  | false, some reason =>
    s.syncRecursiveTerminalFailure x mint q.env q.now q.runId q.nodeId receipt reason
  | false, none =>
    s.syncRecursiveCompletion x mint q.env q.now q.runId q.nodeId receipt usageReceipt
      success shouldRetry usage.1

/-- The result of an attempt that is over: only its usage is taken. -/
def settleStale (q : Settlement) (identity : RecursiveCompletionIdentity)
    (usage : RecursiveBudget × Option String) (reason : Option RecursiveFailureReason) :
    WorkflowStore :=
  if identity.recursiveNodeId.isNone || reason.isSome then s
  else
    let usageReceipt := usage.2.getD (workflowReceipt q.runId q.nodeId q.attempt)
    (s.recordRecursiveLateUsage x mint q.now q.runId q.nodeId usageReceipt identity.root
      usage.1).2

/-- The row of a settled node: its status is the tree's word where there is one. -/
def settledRow (q : Settlement) (writable : Bool) (json : NodeJson) (status : NodeStatus)
    (r : NodeRow) : NodeRow :=
  { r with
    status := status
    nodeJson :=
      match writable, json with
      | true, .object m => .object
        { m with
          status := some status.asStr
          result := some q.output.value
          productManagedUsage := q.output.productManagedUsage.or m.productManagedUsage
          completedAt := if status = .completed then some q.now else m.completedAt }
      | _, _ => r.nodeJson }

/-- The second transaction of a tick. -/
def settlePhase (q : Settlement) : Except String WorkflowStore := do
  let some row := s.find? q.runId q.nodeId | throw "Query returned no rows"
  let identity ← resolveRecursiveCompletionIdentity q.nodeId row.nodeJson
    (s.indexedRecursiveRoot q.runId q.nodeId) q.env.recursiveEnabled
  let (usage, reason) ← recursiveUsage identity row.nodeJson q.output
  let isRecursive := identity.recursiveNodeId.isSome
  let requestedRetry := reason.isNone && q.output.status = "failed" && q.output.retryableDomain &&
    (q.attempt : ℤ) ≤ if isRecursive then 1 else q.maxRetries
  let shouldRetry ←
    if requestedRetry && isRecursive then
      s.recursiveRetryAllowed x mint q.env q.runId q.nodeId usage.1
    else pure requestedRetry
  let actual := if reason.isSome then .failed else if shouldRetry then .pending
    else NodeStatus.ofText q.output.status
  if row.status ≠ .running ∨ row.attemptCount ≠ q.attempt then
    pure (s.settleStale x mint q identity usage reason)
  else
    let s := s.modifyNode q.runId q.nodeId fun r => { r with status := actual, leasedAt := none }
    let (status, s) ←
      if isRecursive then do
        let (text, s) ← s.settleRecursive x mint q identity usage reason shouldRetry
        let _ ← loadRecursiveTree x mint s.tables s.trees q.runId
        pure (NodeStatus.ofText text, s)
      else pure (actual, s)
    let s := s.modifyNode q.runId q.nodeId
      (settledRow q identity.metadataWritable row.nodeJson status)
    pure (s.finishRun q.runId).2

structure Recovery where
  env : RecursiveEnv
  now : String
  /-- Whether a lease of this time has expired. -/
  expired : String → Bool

/-- What `chrono` makes of timestamps written as `%Y-%m-%dT%H:%M:%SZ`. -/
structure Chrono (Time : Type) where
  parseFromStr : String → Option Time
  /-- The milliseconds of the signed difference. -/
  numMilliseconds : (later earlier : Time) → Int64

def staleLeaseIsExpired {Time : Type} (chrono : Chrono Time) (leasedAt now : String)
    (leaseTimeoutMs : UInt64) : Bool :=
  match chrono.parseFromStr leasedAt, chrono.parseFromStr now with
  | some leaseTime, some nowTime =>
    leaseTimeoutMs < (chrono.numMilliseconds nowTime leaseTime).toUInt64
  | _, _ => false

def Recovery.ofClock {Time : Type} (chrono : Chrono Time) (env : RecursiveEnv) (now : String)
    (leaseTimeoutMs : UInt64) : Recovery :=
  { env, now, expired := fun leasedAt => staleLeaseIsExpired chrono leasedAt now leaseTimeoutMs }

/-- Whether the recovery of a recursive node lets it run again; `none` is a tree or a node
that is missing. -/
def recoveryRetry (q : Recovery) (row : NodeRow) (malformed : Bool) : Except String (Option Bool) :=
  if malformed then .ok (some false)
  else
    match s.recursiveRetryAllowed x mint q.env row.runId row.nodeId .zero with
    | .ok allowed => .ok (some (row.attemptCount ≤ maxRecursiveRetries && allowed))
    | .error reason =>
      if reason = "recursive_tree_missing" ∨ reason = "recursive_node_missing" then .ok none
      else .error reason

def recoveredRow (q : Recovery) (writable : Bool) (status : NodeStatus) (r : NodeRow) : NodeRow :=
  { r with
    status := status
    leasedAt := none
    nodeJson :=
      match writable, r.nodeJson with
      | true, .object m => .object
        { m with
          status := some status.asStr
          completedAt := if status = .failed then some q.now else none }
      | _, _ => r.nodeJson }

def recoverNode (q : Recovery) (s : WorkflowStore) (stale : NodeRow) : Except String WorkflowStore := do
  let some row := s.find? stale.runId stale.nodeId | pure s
  let identity ← resolveRecursiveCompletionIdentity row.nodeId row.nodeJson
    (s.indexedRecursiveRoot row.runId row.nodeId) q.env.recursiveEnabled
  let malformed := identity.terminalReason.isSome
  let retry ← if identity.recursiveNodeId.isSome then
      s.recoveryRetry x mint q row malformed
    else pure (some true)
  let status := if retry = some true then .pending else .failed
  let writable := identity.recursiveNodeId.isSome && identity.metadataWritable
  if row.status ≠ .running ∨ row.leasedAt ≠ stale.leasedAt then pure s
  else
    let s := s.modifyNode row.runId row.nodeId (recoveredRow q writable status)
    let leaseId := workflowReceipt row.runId row.nodeId row.attemptCount
    if identity.recursiveNodeId.isNone then pure s
    else if malformed then
      if identity.root then do
        let (_, s) ← s.syncRecursiveRootTerminalFailure x mint q.now row.runId leaseId
          .recursiveNodeIdentityMalformed
        pure s
      else do
        let (_, s) ← s.syncRecursiveTerminalFailure x mint q.env q.now row.runId row.nodeId
          leaseId .recursiveNodeIdentityMalformed
        pure s
    else
      match retry with
      | none => pure s
      | some retry =>
        s.syncRecursiveStaleRecovery x mint q.now row.runId row.nodeId leaseId retry

def recoverStaleLeases (q : Recovery) : Except String WorkflowStore :=
  (s.nodes.rows.filter fun r => r.status = .running && r.leasedAt.any q.expired).foldlM
    (recoverNode x mint q) s

def updateRunStatusWithEvent (runId : String) (status : RunStatus) : Except String WorkflowStore := do
  let some run := s.runs.find? runId | throw ("workflow run not found: " ++ runId)
  requireRunExecutionOwner runId run.pauseReason none
  pure (s.updateRunStatus runId status)

def requestWorkflowRunCancel (runId : String) : Except String WorkflowStore :=
  s.updateRunStatusWithEvent runId .cancelled

end WorkflowStore

end Harness
