import Harness.Lib.Table
import Harness.Spec.Principal
import Harness.Spec.ProviderJournal
import Mathlib.Data.String.Basic

/-! Delegations: one row holds the delegation, its spend, its attempt, the provider journal and
the terminal receipt. Each operation is one transaction on that row. -/

namespace Harness.Delegated

open Lib

variable {F : Type} [DecidableEq F]

inductive DelegationStatus where
  | active
  | revoked
  | expired
deriving DecidableEq, Repr

inductive SpendStatus where
  | active
  | consumed
  | revoked
  | expired
deriving DecidableEq, Repr

inductive AttemptStatus where
  | admitted
  | closed
deriving DecidableEq, Repr

/-- The statuses that `validate_attempt_terminal_status` lets through. -/
inductive TerminalStatus where
  | succeeded
  | failed
  | cancelled
  | outcomeUnknown
  | replayed
deriving DecidableEq, Repr

def TerminalStatus.text : TerminalStatus → String
  | succeeded => "succeeded"
  | failed => "failed"
  | cancelled => "cancelled"
  | outcomeUnknown => "outcome_unknown"
  | replayed => "replayed"

inductive ReceiptValue (F : Type) where
  | text (s : String)
  | flag (b : Bool)
  /-- `none` stands for `null`. -/
  | cost (c : Option F)
  /-- A value that the store does not look into. -/
  | given (json : String)
deriving DecidableEq

/-- The fields of a JSON object. -/
abbrev Receipt (F : Type) := List (String × ReceiptValue F)

structure DelegationContract (F : Type) where
  (schemaVersion delegationId : String)
  (createdAt expiresAt : ℤ)
  executions : U64
  (repositories taskClasses allowedPaths : List String)
  (maxChangedFiles maxChangedLines : U64)
  (maxCostUsdPerRun maxTotalCostUsd : F)
  protocol : String
  models : Models
  /-- Whether `output` allows a draft pull request and nothing else. -/
  outputIsDraftOnly : Bool
  forbidden : List String
deriving DecidableEq

structure ManifestApproval where
  (delegationId delegationSha256 manifestSha256 approverId : String)
  (createdAt expiresAt : ℤ)
deriving DecidableEq

structure SpendBody (F : Type) where
  (spendAuthorizationId delegationId approvalReceiptSha256 issuedBy : String)
  createdAt : ℤ
  manifest : Manifest F
deriving DecidableEq

structure DelegationRow (F : Type) where
  (delegationId tenantId : String)
  productTaskId : Option String
  (principalId manifestApproverId artifactConfirmerId : String)
  attemptActivatorId : Option String
  delegationSha256 : String
  body : DelegationContract F
  /-- The approved proposal with its hash. -/
  proposal : Option (String × Manifest F)
  status : DelegationStatus
  executionsUsed : ℕ
  (maxTotalCostUsd totalCostUsd : F)
  spendAuthorizationId : Option String
  manifestApproval : Option (String × ManifestApproval)
  spendBodySha256 : Option String
  spendStatus : Option SpendStatus
  spendBody : Option (SpendBody F)
  manifest : Option (Manifest F)
  (attemptId attemptLeaseId attemptLeaseToken : Option String)
  attemptStatus : Option AttemptStatus
  artifactConfirmationSha256 : Option String
  journal : Journal F
  terminalReceipt : Option (Receipt F)
  expiresAt : ℤ
deriving DecidableEq

abbrev Delegations (F : Type) := Table (DelegationRow.delegationId (F := F))

structure Hashes (F : Type) where
  delegation : DelegationContract F → String
  approval : ManifestApproval → String
  spend : SpendBody F → String
  request : ManagedProviderCallRequest F → String
  receipt : Receipt F → String
  journal : Journal F → String
  leaseId : String → String

variable (float : Float64 F) (isWhitespace : Char → Bool) (frozen : Frozen F) (hash : Hashes F)

/-! The delegation, its approvals and its spend. -/

def delegationSchemaVersion : String := "managed_autonomous_delegation.v1"

def codexSubscriptionModels : List String := ["gpt-5.6-luna", "gpt-5.6-terra"]

def delegationForbidden : List String :=
  ["credential changes", "authentication or permission changes", "schema or database migrations",
   "dependency changes", "executable or workflow changes", "destructive operations", "release",
   "deployment"]

namespace DelegationContract

variable (d : DelegationContract F)

def costIs (c : F) : Bool :=
  !float.lt float.epsilon (float.absDiff d.maxCostUsdPerRun c) &&
    !float.lt float.epsilon (float.absDiff d.maxTotalCostUsd c)

def docsScope : Bool :=
  d.repositories = ["Igzela/alters-lab"] && d.taskClasses = ["documentation"] &&
    d.allowedPaths = ["docs/USER_GUIDE.md"] && d.maxChangedFiles = 1 && d.maxChangedLines = 100 &&
    d.costIs float frozen.half

def rweScope : Bool :=
  d.repositories = ["Igzela/alters-lab"] && d.taskClasses = ["rwe"] &&
    frozen.isRweAllowedPaths d.allowedPaths && d.maxChangedFiles = frozen.rweMaxPatchLimits.1 &&
    d.maxChangedLines = frozen.rweMaxPatchLimits.2 && frozen.rweCellCost.any (d.costIs float)

def validModels : Bool :=
  d.models = ⟨"deepseek-v4-pro", "deepseek-v4-flash", "deepseek-v4-pro"⟩ ||
    (["deepseek-v4-pro", "deepseek-v4-flash"] ++ codexSubscriptionModels).any fun m =>
      d.models = ⟨m, m, m⟩

/-- The instants are in seconds. -/
def validate (now : ℤ) : Except String Unit := do
  refuse (d.schemaVersion ≠ delegationSchemaVersion) "unsupported delegation schema_version"
  refuse (isBlank isWhitespace d.delegationId || d.executions ≠ 1)
    "delegation must contain one execution and an id"
  refuse (!d.docsScope float frozen && !d.rweScope float frozen)
    "delegation scope is outside the bounded documentation or exact frozen RWE policy"
  refuse (d.protocol ≠ "openai_compatible") "delegation spend policy is invalid"
  refuse (!d.validModels || !d.outputIsDraftOnly) "delegation model or output policy is invalid"
  refuse (d.forbidden ≠ delegationForbidden) "delegation forbidden-action policy is invalid"
  refuse (d.expiresAt ≤ now || d.expiresAt ≤ d.createdAt)
    "delegation expiry is not finite and future-dated"
  refuse (d.expiresAt - d.createdAt ≠ 86400)
    "delegation expiry must be exactly 24 hours after creation"
  refuse (!float.isFinite d.maxCostUsdPerRun || !float.isFinite d.maxTotalCostUsd)
    "delegation cost limits must be finite"

end DelegationContract

def registeredRow (p : AuthenticatedPrincipal) (d : DelegationContract F) (productTaskId : Option String) :
    DelegationRow F where
  delegationId := d.delegationId
  tenantId := p.tenantId
  productTaskId := productTaskId
  principalId := p.principalId
  manifestApproverId := p.principalId
  artifactConfirmerId := ""
  attemptActivatorId := none
  delegationSha256 := hash.delegation d
  body := d
  proposal := none
  status := .active
  executionsUsed := 0
  maxTotalCostUsd := d.maxTotalCostUsd
  totalCostUsd := float.zero
  spendAuthorizationId := none
  manifestApproval := none
  spendBodySha256 := none
  spendStatus := none
  spendBody := none
  manifest := none
  attemptId := none
  attemptLeaseId := none
  attemptLeaseToken := none
  attemptStatus := none
  artifactConfirmationSha256 := none
  journal := []
  terminalReceipt := none
  expiresAt := d.expiresAt

variable (s : Delegations F)

/-- `taskTenant` is the tenant of the task, if the store has it. -/
def persistDelegationWithProductTask (p : AuthenticatedPrincipal)
    (d : DelegationContract F) (productTaskId : Option String) (taskTenant : Option String)
    (now : ℤ) : Except String (Delegations F) := do
  p.requireScope scopeDelegatedAutonomy
  refuse p.fixture "delegation requires an authenticated non-fixture operator"
  d.validate float isWhitespace frozen now
  p.requireScope scopeDelegatedManifestApprove
  p.requireScope scopeSpendAuthorize
  match s.find? d.delegationId with
  | some existing =>
    refuse (existing.delegationSha256 ≠ hash.delegation d || existing.body ≠ d ||
        existing.manifestApproverId ≠ p.principalId || existing.artifactConfirmerId ≠ "" ||
        existing.productTaskId ≠ productTaskId)
      "delegation replay conflicts with persisted immutable body"
    pure s
  | none =>
    refuse (productTaskId.isSome && taskTenant ≠ some p.tenantId)
      "ProductTask is missing or does not match delegation principal"
    -- the insert is ignored on a second contract with one hash, and there is no row to compare
    refuse (s.rows.any fun r => r.tenantId = p.tenantId && r.delegationSha256 = hash.delegation d)
      "Query returned no rows"
    pure (s.insert (registeredRow float hash p d productTaskId))

variable (r : DelegationRow F)

/-- The columns that are still empty before a proposal is approved. -/
def DelegationRow.untouched : Bool :=
  r.status = .active && r.executionsUsed = 0 && r.totalCostUsd = float.zero &&
    r.proposal.isNone && r.spendAuthorizationId.isNone && r.manifestApproval.isNone &&
    r.spendBodySha256.isNone && r.spendStatus.isNone && r.spendBody.isNone &&
    r.manifest.isNone && r.attemptId.isNone && r.attemptLeaseId.isNone &&
    r.attemptLeaseToken.isNone && r.attemptStatus.isNone && r.attemptActivatorId.isNone &&
    r.artifactConfirmationSha256.isNone && r.journal = [] && r.terminalReceipt.isNone &&
    r.artifactConfirmerId = ""

/-- The reviewer was authenticated for `tenantId` before. -/
def rebindUnadmittedDelegationForBootstrap (tenantId taskId reviewer : String)
    (now : ℤ) : Except String (DelegationRow F) := do
  refuse (r.tenantId ≠ tenantId) "delegation tenant does not match ProductTask tenant"
  refuse (r.status ≠ .active)
    "bootstrap delegation recovery only permits active pre-admission state"
  refuse (r.expiresAt ≤ now) "bootstrap delegation recovery refuses an expired delegation"
  refuse (r.productTaskId ≠ some taskId)
    "bootstrap recovery requires an existing immutable ProductTask binding"
  refuse (!r.untouched float)
    "bootstrap delegation recovery requires an untouched pre-admission operation"
  refuse (r.manifestApproverId ≠ reviewer && r.manifestApproverId ≠ r.principalId)
    "bootstrap recovery cannot replace an already rebound reviewer"
  pure { r with manifestApproverId := reviewer }

def persistApprovedDelegatedProposal (proposal : Manifest F)
    (expectedSha256 : String) : Except String (DelegationRow F) := do
  refuse (proposal.manifestSha256 ≠ some expectedSha256 ||
      frozen.manifestSha256 proposal ≠ expectedSha256)
    "delegated proposal does not match the owner-approved manifest"
  match r.proposal with
  | some stored =>
    refuse (stored ≠ (expectedSha256, proposal))
      "delegated proposal conflicts with persisted immutable proposal"
    pure r
  | none =>
    refuse (r.status ≠ .active) "delegation is not active for proposal binding"
    pure { r with proposal := some (expectedSha256, proposal) }

def requireManifestProductTaskBinding (tenantId : String) (m : Manifest F) :
    Except String Unit := do
  let taskId ← required (m.productTaskId.filter fun id => !isBlank isWhitespace id)
    "delegated manifest ProductTask identity is missing"
  let manifestTenant ← required (m.tenantId.filter fun id => !isBlank isWhitespace id)
    "delegated manifest tenant identity is missing"
  refuse (manifestTenant ≠ tenantId)
    "delegated manifest tenant does not match authenticated principal"
  refuse (r.tenantId ≠ tenantId) "delegation tenant does not match authenticated principal"
  let stored ← required r.productTaskId "delegation ProductTask binding is missing"
  refuse (stored ≠ taskId) "delegation ProductTask binding is stale or mismatched"

def validateExistingManifestApproval (sha256 : String) (approval : ManifestApproval)
    (delegationId manifestSha256 approverId : String) : Except String Unit :=
  refuse (hash.approval approval ≠ sha256 || approval.delegationId ≠ delegationId ||
      approval.manifestSha256 ≠ manifestSha256 || approval.approverId ≠ approverId)
    "persisted delegated manifest approval receipt is stale or malformed"

def approveDelegatedManifest (p : AuthenticatedPrincipal) (m : Manifest F) (now : ℤ) :
    Except String (DelegationRow F) := do
  p.requireScope scopeDelegatedManifestApprove
  p.requireScope scopeSpendAuthorize
  refuse p.fixture "fixture principal cannot approve a production delegated manifest"
  validateDelegatedManifestPolicy isWhitespace frozen m
  let manifestSha256 := m.manifestSha256.getD ""
  requireManifestProductTaskBinding isWhitespace r p.tenantId m
  let approved ← required r.proposal "Invalid column type Null at index: 0, name: proposal_sha256"
  refuse (m.proposalManifestSha256 ≠ some approved.1)
    "final manifest is not derived from the approved proposal"
  refuse (r.status ≠ .active || r.expiresAt ≤ now) "delegation is not active"
  refuse (m.delegationSha256 ≠ some r.delegationSha256 || r.manifestApproverId ≠ p.principalId)
    "delegated manifest approver authority is stale or mismatched"
  match r.manifestApproval with
  | some (sha256, approval) =>
    validateExistingManifestApproval hash sha256 approval r.delegationId manifestSha256
      r.manifestApproverId
    pure r
  | none =>
    let approval := ManifestApproval.mk r.delegationId r.delegationSha256 manifestSha256
      r.manifestApproverId now r.expiresAt
    pure { r with manifestApproval := some (hash.approval approval, approval) }

def replayDelegatedSpend (approvalSha256 : String) (m : Manifest F) :
    Except String Unit := do
  refuse (r.spendStatus ≠ some .active) "delegation execution budget is already reserved"
  let spendId ← required r.spendAuthorizationId
    "reserved delegation is missing spend authorization id"
  let bodySha256 ← required r.spendBodySha256 "reserved delegation is missing spend body hash"
  let body ← required r.spendBody "reserved delegation is missing spend body"
  let existing ← required r.manifest "reserved delegation is missing final manifest"
  refuse (existing ≠ m || body.manifest ≠ m || body.approvalReceiptSha256 ≠ approvalSha256 ||
      body.spendAuthorizationId ≠ spendId || hash.spend body ≠ bodySha256)
    "delegation execution budget is reserved for a conflicting request"

/-- `spendId` is the fresh id that the store draws. -/
def issueDelegatedSpend (p : AuthenticatedPrincipal) (approvalSha256 : String)
    (m : Manifest F) (spendId : String) (now : ℤ) : Except String (DelegationRow F) := do
  p.requireScope scopeDelegatedManifestApprove
  p.requireScope scopeSpendAuthorize
  validateDelegatedManifestPolicy isWhitespace frozen m
  requireManifestProductTaskBinding isWhitespace r p.tenantId m
  refuse (r.status ≠ .active || r.spendStatus = some .revoked || r.spendStatus = some .expired ||
      r.expiresAt ≤ now)
    "delegation is not active"
  refuse (m.delegationSha256 ≠ some r.delegationSha256)
    "manifest delegation hash does not match persisted delegation"
  refuse (r.manifestApproverId ≠ p.principalId ||
      r.manifestApproval.map Prod.fst ≠ some approvalSha256)
    "delegated spend requires the exact separated manifest approval"
  let approval ← required r.manifestApproval "delegated manifest approval receipt missing"
  validateExistingManifestApproval hash approvalSha256 approval.2 r.delegationId
    (m.manifestSha256.getD "") r.manifestApproverId
  if 1 ≤ r.executionsUsed then do
    replayDelegatedSpend hash r approvalSha256 m
    pure r
  else
    let body := SpendBody.mk spendId r.delegationId approvalSha256 p.principalId now m
    pure { r with
      executionsUsed := 1
      spendAuthorizationId := some spendId
      spendBodySha256 := some (hash.spend body)
      spendStatus := some .active
      spendBody := some body
      manifest := some m }

structure AttemptLease where
  attemptId : String
  (attemptLeaseId attemptLeaseToken : Option String)
  replayed : Bool
deriving DecidableEq

/-- `leaseToken` is the fresh token that the store draws. -/
def admitDelegatedAttempt (p : AuthenticatedPrincipal) (attemptId : String)
    (manifest : Manifest F) (leaseToken : String) (now : ℤ) :
    Except String (AttemptLease × DelegationRow F) := do
  p.requireScope scopeDelegatedExecute
  p.requireScope scopeAttemptAdmit
  refuse p.fixture "fixture principal cannot activate a production delegated attempt"
  refuse manifest.manifestSha256.isNone "final manifest hash is required"
  refuse (manifest.manifestSha256 ≠ some (frozen.manifestSha256 manifest))
    "final manifest hash mismatch"
  requireManifestProductTaskBinding isWhitespace r p.tenantId manifest
  refuse (r.status ≠ .active || r.manifestApproverId = p.principalId || r.expiresAt ≤ now ||
      r.manifest ≠ some manifest || manifest.delegationSha256 ≠ some r.delegationSha256)
    "delegated attempt authority is stale or mismatched"
  match r.attemptId with
  | some existing =>
    refuse (!(existing = attemptId && r.attemptActivatorId = some p.principalId))
      "delegated attempt already leased by another attempt"
    pure (⟨existing, r.attemptLeaseId, r.attemptLeaseToken, true⟩, r)
  | none =>
    refuse (r.spendStatus ≠ some .active) "delegated spend is not active"
    let leaseId := hash.leaseId leaseToken
    pure (⟨attemptId, some leaseId, some leaseToken, false⟩,
      { r with
        attemptId := some attemptId
        attemptLeaseId := some leaseId
        attemptLeaseToken := some leaseToken
        attemptStatus := some .admitted
        spendStatus := some .consumed
        attemptActivatorId := some p.principalId })

def Manifest.isBoundTo (m : Manifest F) (b : ManagedCallBinding) : Bool :=
  m.manifestSha256 = some (frozen.manifestSha256 m) && m.productTaskId = some b.productTaskId &&
    m.workflowId = some b.workflowId && m.attemptId = some b.attemptId &&
    m.workflowNodeIds.any fun nodes => b.nodeId ∈ nodes

/-- Whether a row gives a call the right to run. -/
def DelegationRow.isCurrentFor (b : ManagedCallBinding) (now : ℤ) : Bool :=
  r.status = .active && r.spendStatus = some .consumed && r.attemptStatus = some .admitted &&
    r.spendAuthorizationId = some b.spendAuthorizationId &&
    r.attemptLeaseToken.map hash.leaseId = some b.attemptLeaseId && now < r.expiresAt

/-- `s` holds the row that the manifest names. -/
def currentDelegatedProviderAuthority (r : DelegationRow F)
    (b : ManagedCallBinding) (now : ℤ) : Except String Unit := do
  let m ← required r.manifest "delegated manifest is missing"
  let leaseId ← required r.attemptLeaseId "delegated lease identity is missing"
  let delegationId ← required m.delegationId "delegated manifest delegation_id is missing"
  let tenantId ← required m.tenantId "delegated manifest tenant_id is missing"
  let named ← required (s.find? delegationId) "delegation is not persisted"
  requireManifestProductTaskBinding isWhitespace named tenantId m
  refuse (r.status ≠ .active || r.expiresAt ≤ now)
    "delegated provider authority is expired or revoked"
  refuse (!r.isCurrentFor hash b now || isBlank isWhitespace leaseId || !m.isBoundTo frozen b ||
      m.delegationSha256 ≠ some r.delegationSha256)
    "delegated provider authority is stale or mismatched"
  discard (delegatedExecutionContract isWhitespace frozen m b.nodeId)

def validateProviderJournalAuthority (request : ManagedProviderCallRequest F) (now : ℤ)
    (r : DelegationRow F) : Except String Unit := do
  refuse (!r.isCurrentFor hash request.binding now)
    "durable provider request authority is stale or closed"
  let m ← required r.manifest "durable provider request manifest is invalid"
  let contract ← delegatedExecutionContract isWhitespace frozen m request.binding.nodeId
  refuse (contract.providerIdentity ≠ request.providerIdentity ||
      contract.providerKind ≠ request.providerKind || contract.protocol ≠ request.protocol ||
      contract.host ≠ request.host || contract.baseUrl ≠ request.baseUrl ||
      contract.endpointPath ≠ request.endpointPath ||
      contract.credentialReference ≠ request.credentialReference ||
      contract.requestedModel ≠ request.requestedModel ||
      contract.requestSchemaVersion ≠ request.schemaVersion || contract.limits ≠ request.limits ||
      contract.priceProfile ≠ request.priceProfile)
    "durable provider request binding is not the persisted execution contract"
  refuse (!m.isBoundTo frozen request.binding)
    "durable provider request manifest binding is stale or mismatched"

/-- `scheduler` is the lease that the store finds for the node. -/
def claimDelegatedProviderRequest (r : DelegationRow F)
    (request : ManagedProviderCallRequest F)
    (scheduler : Except String ManagedSchedulerLeaseAuthority) (now : ℤ) :
    Except String (DelegationRow F) := do
  currentDelegatedProviderAuthority isWhitespace frozen hash s r request.binding now
  validateProviderJournalAuthority isWhitespace frozen hash request now r
  let scheduler ← scheduler
  let journal ←
    claimProviderJournalEntry float isWhitespace hash.request r.journal request scheduler now
  pure { r with journal := journal }

def reconcileDelegatedProviderRequest (request : ManagedProviderCallRequest F)
    (response : Option (ManagedProviderResponse F)) (effect : ManagedFailureEffect) (now : ℤ) :
    Except String (DelegationRow F) := do
  refuse (r.spendAuthorizationId ≠ some request.binding.spendAuthorizationId ||
      r.attemptStatus ≠ some .admitted)
    "Query returned no rows"
  let journal ← reconcileProviderJournalEntry float hash.request r.journal request response effect now
  pure { r with journal := journal }

/-- `written` is the hash of the receipt, if the files could be written. -/
def applyManagedWorkspaceAction (r : DelegationRow F) (b : ManagedCallBinding)
    (scheduler : Except String ManagedSchedulerLeaseAuthority) (written : Except String String)
    (now : ℤ) : Except String (DelegationRow F) := do
  currentDelegatedProviderAuthority isWhitespace frozen hash s r b now
  let scheduler ← scheduler
  refuse (!r.isCurrentFor hash b now)
    "managed workspace delegated attempt lease is stale or closed"
  let m ← required r.manifest "managed workspace final manifest is invalid"
  refuse (!m.isBoundTo frozen b)
    "managed workspace final manifest binding is stale or mismatched"
  validateWorkspaceProviderJournal r.journal b scheduler m
  let receiptSha256 ← written
  let journal ← recordWorkspaceActionInJournal r.journal b receiptSha256
  pure { r with journal := journal }

/-- The store does not ask whether the attempt is still open. -/
def recordManagedWorkspaceActionFailure (b : ManagedCallBinding)
    (failureClass : String) (failureSha256 : String) : Except String (DelegationRow F) := do
  refuse (isBlank isWhitespace failureClass) "workspace action failure class is missing"
  let journal ← recordWorkspaceActionFailureInJournal r.journal b failureSha256
  pure { r with journal := journal }

/-- `confirmation` is the hash of what the checks of the artifact confirm. -/
def confirmDelegatedArtifact (p : AuthenticatedPrincipal) (m : Manifest F)
    (confirmation : Except String String) (now : ℤ) : Except String (DelegationRow F) := do
  p.requireScope scopeDelegatedArtifactConfirm
  refuse p.fixture "fixture principal cannot confirm a production delegated artifact"
  validateDelegatedManifestPolicy isWhitespace frozen m
  requireManifestProductTaskBinding isWhitespace r p.tenantId m
  refuse (r.status ≠ .active || r.expiresAt ≤ now || r.manifest ≠ some m ||
      r.attemptStatus ≠ some .admitted || m.delegationSha256 ≠ some r.delegationSha256 ||
      r.attemptActivatorId.isNone || r.attemptActivatorId = some p.principalId ||
      r.manifestApproverId = p.principalId ||
      (r.artifactConfirmerId ≠ "" && r.artifactConfirmerId ≠ p.principalId))
    "delegated artifact confirmer authority is stale or mismatched"
  r.body.validate float isWhitespace frozen now
  let sha256 ← confirmation
  if r.artifactConfirmationSha256.isSome then pure r
  else pure { r with artifactConfirmationSha256 := some sha256, artifactConfirmerId := p.principalId }

def storeOwnedFields : List String :=
  ["terminal_class", "spend_authorization_state", "attempt_lease_state", "delegation_state",
   "realized_cost_usd", "cost_unavailable", "cost_evidence"]

/-- A completion as the caller submits it; `receipt` is `none` when it is not an object. -/
structure CompletionRequest (F : Type) where
  (attemptId leaseToken : String)
  status : TerminalStatus
  receipt : Option (Receipt F)
  realizedCostUsd : Option F
  costUnavailable : Bool
deriving DecidableEq

/-- The receipt with the fields that the store adds. -/
def CompletionRequest.terminalReceipt (c : CompletionRequest F) (fields : Receipt F) : Receipt F :=
  fields ++
    [("terminal_class", .text c.status.text),
     ("spend_authorization_state", .text "expired"),
     ("attempt_lease_state", .text "closed"),
     ("delegation_state", .text "expired"),
     ("realized_cost_usd", .cost c.realizedCostUsd),
     ("cost_unavailable", .flag c.costUnavailable),
     ("cost_evidence", .text (if c.status = .outcomeUnknown then "conservative_reservation"
        else if c.costUnavailable then "unavailable" else "reconciled"))]

/-- The answer; its other fields are the same in every one. -/
structure Completion where
  terminalClass : TerminalStatus
  receiptSha256 : String
  replayed : Bool
deriving DecidableEq

def Receipt.costUnavailable (receipt : Receipt F) : Bool :=
  match receipt.lookup "cost_unavailable" with
  | some (.flag b) => b
  | _ => false

def completeDelegatedAttemptWithCostEvidence (c : CompletionRequest F) :
    Except String (Completion × DelegationRow F) := do
  refuse ((!c.costUnavailable && c.realizedCostUsd.isNone) ||
      (c.costUnavailable && c.realizedCostUsd.isSome) ||
      c.realizedCostUsd.any fun cost => !float.isFinite cost || float.lt cost float.zero)
    "realized delegated cost is invalid"
  let stored := c.realizedCostUsd.getD float.zero
  let fields ← required c.receipt "delegated terminal receipt must be an object"
  refuse (fields.any fun field => field.1 ∈ storeOwnedFields)
    "delegated terminal receipt contains store-owned state fields"
  let receipt := c.terminalReceipt fields
  refuse (r.attemptId ≠ some c.attemptId || r.attemptLeaseToken ≠ some c.leaseToken)
    "delegated attempt lease ownership mismatch"
  match r.terminalReceipt with
  | some existing =>
    refuse (!(existing = receipt && r.status = .expired &&
        !float.lt float.tolerance (float.absDiff r.totalCostUsd stored) &&
        Receipt.costUnavailable existing = c.costUnavailable))
      "late or conflicting delegated terminal write"
    pure (⟨c.status, hash.receipt receipt, true⟩, r)
  | none =>
    refuse (float.lt r.maxTotalCostUsd stored) "delegated cumulative cost ceiling exceeded"
    pure (⟨c.status, hash.receipt receipt, false⟩,
      { r with
        status := if r.status = .revoked then .revoked else .expired
        totalCostUsd := stored
        spendStatus := some (if r.status = .revoked then .revoked else .expired)
        attemptStatus := some .closed
        terminalReceipt := some receipt })

/-- The first transaction of `revoke_delegation`. -/
def revokeDelegation (p : AuthenticatedPrincipal) : Except String (DelegationRow F) := do
  p.requireScope scopeRevoke
  p.requireScope scopeDelegatedAutonomy
  refuse p.fixture "fixture principal cannot revoke production delegation"
  refuse (r.tenantId ≠ p.tenantId || r.principalId ≠ p.principalId)
    "delegation revocation ownership mismatch"
  match r.status with
  | .revoked => pure r
  | .expired => throw "delegation is not revocable in its current state"
  | .active => pure { r with status := .revoked, spendStatus := some .revoked }

/-- What `revoke_delegation` does next, on a transaction of its own. `journal` is the journal as
it was read before the cleanup; `cleanup` is what the cleanup reports and whether it is done. -/
def closeRevokedDelegationAttempt (journal : Journal F)
    (cleanup : Except String (Bool × String)) : Except String (DelegationRow F) :=
  if r.status = .revoked && r.attemptStatus = some .admitted then do
    let m ← required r.manifest "revoked delegation final manifest is invalid"
    let productTaskId ← required m.productTaskId
      "revoked delegation ProductTask binding is missing"
    let (cleaned, report) ← cleanup
    refuse (!cleaned) "revoked delegation workspace cleanup is incomplete"
    pure { r with
      attemptStatus := some .closed
      spendStatus := some .revoked
      terminalReceipt := some
        [("schema_version", .text "managed_delegated_revocation_terminal_evidence.v1"),
         ("delegation_id", .text r.delegationId),
         ("attempt_id", .text (r.attemptId.getD "")),
         ("product_task_id", .text productTaskId),
         ("manifest_sha256", .text (m.manifestSha256.getD "")),
         ("provider_request_journal_sha256", .text (hash.journal journal)),
         ("cleanup", .given report),
         ("rollback_evidence",
           .given "\x7b\"target_main_write\":false,\"workspace_status\":\"cleaned\"\x7d"),
         ("terminal_class", .text "revoked")] }
  else .ok r

/-- The row that holds an attempt; the index on `attempt_id` allows one. -/
def findAttempt (attemptId : String) : Option (DelegationRow F) :=
  s.rows.find? fun r => r.attemptId = some attemptId

/-- The unique indexes on `spend_authorization_id`, `attempt_id` and `attempt_lease_id`. -/
def requireUnique (r : DelegationRow F) : Except String (DelegationRow F) := do
  refuse (s.rows.any fun r' => r'.delegationId ≠ r.delegationId &&
      ((r.spendAuthorizationId.isSome && r'.spendAuthorizationId = r.spendAuthorizationId) ||
        (r.attemptId.isSome && r'.attemptId = r.attemptId) ||
        (r.attemptLeaseId.isSome && r'.attemptLeaseId = r.attemptLeaseId)))
    "UNIQUE constraint failed"
  pure r

/-- A completion at the store: its answer and the store after it. -/
def completeAttempt (delegationId : String) (c : CompletionRequest F) :
    Except String (Completion × Delegations F) := do
  let r ← required (s.find? delegationId) "Query returned no rows"
  let (answer, r') ← completeDelegatedAttemptWithCostEvidence float hash r c
  pure (answer, s.insert r')

inductive Op (F : Type) where
  | persist (p : AuthenticatedPrincipal) (d : DelegationContract F) (productTaskId taskTenant : Option String)
      (now : ℤ)
  | rebind (delegationId tenantId taskId reviewer : String) (now : ℤ)
  | propose (delegationId : String) (proposal : Manifest F) (expectedSha256 : String)
  | approve (delegationId : String) (p : AuthenticatedPrincipal) (manifest : Manifest F) (now : ℤ)
  | issueSpend (delegationId : String) (p : AuthenticatedPrincipal) (approvalSha256 : String)
      (manifest : Manifest F) (spendId : String) (now : ℤ)
  | activate (delegationId : String) (p : AuthenticatedPrincipal) (attemptId : String) (manifest : Manifest F)
      (leaseToken : String) (now : ℤ)
  | claim (request : ManagedProviderCallRequest F)
      (scheduler : Except String ManagedSchedulerLeaseAuthority) (now : ℤ)
  | reconcile (request : ManagedProviderCallRequest F)
      (response : Option (ManagedProviderResponse F)) (effect : ManagedFailureEffect) (now : ℤ)
  | workspaceAction (b : ManagedCallBinding)
      (scheduler : Except String ManagedSchedulerLeaseAuthority) (written : Except String String)
      (now : ℤ)
  | workspaceFailure (b : ManagedCallBinding) (failureClass failureSha256 : String)
  | confirmArtifact (delegationId : String) (p : AuthenticatedPrincipal) (manifest : Manifest F)
      (confirmation : Except String String) (now : ℤ)
  | complete (delegationId : String) (c : CompletionRequest F)
  | revoke (delegationId : String) (p : AuthenticatedPrincipal)
  | closeRevoked (delegationId : String) (journal : Journal F)
      (cleanup : Except String (Bool × String))

/-- What an operation makes of the row that it is about. -/
def rowStep (op : Op F) (r : DelegationRow F) : Except String (DelegationRow F) :=
  match op with
  | .persist .. => .ok r
  | .rebind _ tenantId taskId reviewer now =>
    rebindUnadmittedDelegationForBootstrap float r tenantId taskId reviewer now
  | .propose _ proposal sha256 => persistApprovedDelegatedProposal frozen r proposal sha256
  | .approve _ p m now => approveDelegatedManifest isWhitespace frozen hash r p m now
  | .issueSpend _ p approvalSha256 m spendId now =>
    issueDelegatedSpend isWhitespace frozen hash r p approvalSha256 m spendId now >>= requireUnique s
  | .activate _ p attemptId m leaseToken now =>
    admitDelegatedAttempt isWhitespace frozen hash r p attemptId m leaseToken now >>=
      fun answer => requireUnique s answer.2
  | .claim request scheduler now =>
    claimDelegatedProviderRequest float isWhitespace frozen hash s r request scheduler now
  | .reconcile request response effect now =>
    reconcileDelegatedProviderRequest float hash r request response effect now
  | .workspaceAction b scheduler written now =>
    applyManagedWorkspaceAction isWhitespace frozen hash s r b scheduler written now
  | .workspaceFailure b failureClass failureSha256 =>
    recordManagedWorkspaceActionFailure isWhitespace r b failureClass failureSha256
  | .confirmArtifact _ p m confirmation now =>
    confirmDelegatedArtifact float isWhitespace frozen r p m confirmation now
  | .complete _ c => (completeDelegatedAttemptWithCostEvidence float hash r c).map Prod.snd
  | .revoke _ p => revokeDelegation r p
  | .closeRevoked _ journal cleanup => closeRevokedDelegationAttempt hash r journal cleanup

/-- The row that an operation is about. -/
def Op.target (op : Op F) (s : Delegations F) : Option (DelegationRow F) :=
  match op with
  | persist .. => none
  | rebind id .. | propose id .. | approve id .. | issueSpend id .. | activate id ..
  | confirmArtifact id .. | complete id _ | revoke id _ | closeRevoked id .. => s.find? id
  | claim request .. | reconcile request .. => findAttempt s request.binding.attemptId
  | workspaceAction b .. | workspaceFailure b .. => findAttempt s b.attemptId

/-- One operation; a refused one leaves the store as it was. -/
def step (op : Op F) : Delegations F :=
  match op with
  | .persist p d productTaskId taskTenant now =>
    match persistDelegationWithProductTask float isWhitespace frozen hash s p d productTaskId
        taskTenant now with
    | .error _ => s
    | .ok s' => s'
  | op =>
    match op.target s with
    | none => s
    | some r =>
      match rowStep float isWhitespace frozen hash s op r with
      | .error _ => s
      | .ok r' => s.insert r'

def run (ops : List (Op F)) : Delegations F :=
  ops.foldl (step float isWhitespace frozen hash) s

end Harness.Delegated
