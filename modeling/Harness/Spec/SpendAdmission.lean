import Harness.Spec.AcceptanceStore

/-! One-use spends for a trial: issuing one, admitting an attempt with it and completing the
attempt. -/

namespace Harness.Acceptance

open Lib
open Delegated (isBlank SpendStatus TerminalStatus)

variable {C : Type} [AddCommMonoid C] [LinearOrder C] (prim : Primitives C)

structure SpendAuthorizationRequest (C : Type) where
  (riskAuthorizationId productTaskId : String)
  (workflowId workflowNodeId : Option String)
  (executionId attemptId binaryPath binaryVersion binarySha256 : String)
  (runtimeProfileSha256 capabilityProbeSha256 : Option String)
  (providerKind providerHost providerBaseUrl : String)
  admittedEndpointPaths : List String
  (model targetRepo targetMainSha outputBranchPrefix : String)
  draftPrOnly : Bool
  (maxProviderRequests maxRetries maxInputTokens maxOutputTokens maxTotalTokens maxWallTimeMs : ℕ)
  costAuthority : CostAuthority C
  (cancellationIdentity rollbackIdentity : String)
deriving DecidableEq

def FieldValue.ofOption (value : Option String) : FieldValue C := value.elim .null .text

def SpendAuthorizationRequest.terms (r : SpendAuthorizationRequest C) : Fields C :=
  [("product_task_id", .text r.productTaskId), ("workflow_id", .ofOption r.workflowId),
   ("workflow_node_id", .ofOption r.workflowNodeId), ("execution_id", .text r.executionId),
   ("attempt_id", .text r.attemptId), ("binary_path", .text r.binaryPath),
   ("binary_version", .text r.binaryVersion), ("binary_sha256", .text r.binarySha256),
   ("runtime_profile_sha256", .ofOption r.runtimeProfileSha256),
   ("capability_probe_sha256", .ofOption r.capabilityProbeSha256),
   ("provider_kind", .text r.providerKind), ("provider_host", .text r.providerHost),
   ("provider_base_url", .text r.providerBaseUrl),
   ("admitted_endpoint_paths", .array (r.admittedEndpointPaths.map .text)),
   ("model", .text r.model), ("target_repo", .text r.targetRepo),
   ("target_main_sha", .text r.targetMainSha), ("output_branch_prefix", .text r.outputBranchPrefix),
   ("draft_pr_only", .bool r.draftPrOnly),
   ("max_provider_requests", .number r.maxProviderRequests), ("max_retries", .number r.maxRetries),
   ("max_input_tokens", .number r.maxInputTokens), ("max_output_tokens", .number r.maxOutputTokens),
   ("max_total_tokens", .number r.maxTotalTokens), ("max_wall_time_ms", .number r.maxWallTimeMs),
   ("cost_authority", .cost r.costAuthority),
   ("cancellation_identity", .text r.cancellationIdentity),
   ("rollback_identity", .text r.rollbackIdentity)]

/-- What `from_json` refuses of what `to_json` writes. -/
def CostAuthority.validate : CostAuthority C → Except String Unit
  | .providerReported maxCost _ =>
    refuse (maxCost ≤ 0) "provider_reported max_cost must be positive"
  | .localEstimate maxCost _ provider model pricingTableVersion estimateSemantics => do
    refuse (maxCost ≤ 0) "local_estimate max_cost must be positive"
    let _ ← requiredStr provider "provider"
    let _ ← requiredStr model "model"
    let _ ← requiredStr pricingTableVersion "pricing_table_version"
    let _ ← requiredStr estimateSemantics "estimate_semantics"
    pure ()
  | .costUnavailable => .ok ()

def validateRiskForSpend (a : AuthorizationRow C) (p : AuthenticatedPrincipal) (now : ℤ) :
    Except String Unit := do
  refuse (a.tenantId ≠ p.tenantId) "risk authorization tenant mismatch"
  refuse (a.principalId ≠ p.principalId) "risk authorization principal mismatch"
  refuse (a.status ≠ .active) "risk authorization is not active"
  refuse (a.expiresAt ≤ now) "risk authorization expired"
  refuse (p.fixture ≠ a.body.fixtureOnly) "fixture_only mismatch between principal and risk auth"

section Trial

variable (trial : Fields C)

def eqU64Field (field : String × ℕ) : Except String Unit := do
  let (key, observed) := field
  let expected ← required ((trial.lookup key).bind FieldValue.asU64)
    ("trial_envelope." ++ key ++ " required")
  refuse (expected ≠ observed)
    s!"spend {key}={observed} mismatches decision trial envelope {key}={expected}"

def eqStrField (field : String × String) : Except String Unit := do
  let (key, observed) := field
  let expected ← required ((trial.lookup key).bind FieldValue.asStr)
    ("trial_envelope." ++ key ++ " required")
  refuse (expected ≠ observed) ("spend " ++ key ++ " mismatches decision trial envelope")

def eqValueField (field : String × FieldValue C) : Except String Unit := do
  let (key, observed) := field
  let expected ← required (trial.lookup key) ("trial_envelope." ++ key ++ " required")
  refuse (expected ≠ observed) ("spend " ++ key ++ " mismatches decision trial envelope")

variable (r : SpendAuthorizationRequest C)

def requireTrialBudgets : Except String Unit := do
  [("max_provider_requests", r.maxProviderRequests), ("max_retries", r.maxRetries),
    ("max_input_tokens", r.maxInputTokens), ("max_output_tokens", r.maxOutputTokens),
    ("max_total_tokens", r.maxTotalTokens), ("max_wall_time_ms", r.maxWallTimeMs)].forM
      (eqU64Field trial)
  refuse (0 < r.maxRetries) "max_retries must be 0 under residual_admission_no_go"
  refuse (r.maxProviderRequests = 0) "max_provider_requests must be positive"
  refuse (r.maxTotalTokens = 0 || r.maxInputTokens = 0 || r.maxOutputTokens = 0 ||
    r.maxWallTimeMs = 0) "token and wall-time budgets must be positive"

def requireTrialPaths : Except String Unit := do
  let paths ← required ((trial.lookup "admitted_endpoint_paths").bind FieldValue.asArray)
    "trial_envelope.admitted_endpoint_paths required"
  refuse (paths.filterMap ArrayItem.asStr ≠ r.admittedEndpointPaths)
    "admitted_endpoint_paths mismatch vs decision trial envelope"

def requireTrialProfile : Except String Unit :=
  match r.runtimeProfileSha256 with
  | none => .ok ()
  | some profile => do
    eqStrField trial ("runtime_profile_sha256", profile)
    let capability ← required r.capabilityProbeSha256
      "runtime-profile spend requires capability_probe_sha256"
    eqStrField trial ("capability_probe_sha256", capability)

def requireTrialIdentities : Except String Unit := do
  [("provider_kind", r.providerKind), ("provider_host", r.providerHost),
    ("provider_base_url", r.providerBaseUrl), ("model", r.model),
    ("product_task_id", r.productTaskId)].forM (eqStrField trial)
  [("workflow_id", .ofOption r.workflowId),
    ("workflow_node_id", .ofOption r.workflowNodeId)].forM (eqValueField trial)
  [("execution_id", r.executionId), ("attempt_id", r.attemptId), ("target_repo", r.targetRepo),
    ("target_main_sha", r.targetMainSha), ("exact_codex_path", r.binaryPath),
    ("exact_codex_sha256", r.binarySha256), ("cancellation_identity", r.cancellationIdentity),
    ("rollback_identity", r.rollbackIdentity),
    ("output_branch_prefix", r.outputBranchPrefix)].forM (eqStrField trial)
  eqValueField trial ("cost_authority", .cost r.costAuthority)
  requireTrialPaths trial r
  eqStrField trial ("exact_codex_version", r.binaryVersion)
  requireTrialProfile trial r

def containsText (part text : String) : Bool :=
  text.toList.tails.any fun rest => part.toList.isPrefixOf rest

/-- A provider's own cost figure is refused while the trial calls the cost unresolved. -/
def requireResolvedCost : Except String Unit :=
  match r.costAuthority with
  | .providerReported .. =>
    refuse (((trial.lookup "max_cost_usd_estimate").bind FieldValue.asStr).any fun estimate =>
        containsText "unresolved" estimate || containsText "estimate_only" estimate)
      "cost_authority provider_reported rejected while trial marks cost estimate unresolved"
  | _ => .ok ()

end Trial

def validateSpendAgainstDecision (r : SpendAuthorizationRequest C) (body : DecisionBody C) :
    Except String Unit := do
  let embedded ← required body.trialEnvelope "decision missing trial_envelope"
  let trial ← validateTrialEnvelopeShape embedded
  requireTrialBudgets trial r
  requireTrialIdentities trial r
  refuse ((trial.lookup "exact_codex_sha_required").bind FieldValue.asBool ≠ some true ||
      !isHexOfLength 64 r.binarySha256)
    "binary_sha256 must be 64 hex chars when exact_codex_sha_required"
  refuse (isBlank prim.isWhitespace r.binaryPath || r.binaryPath.toList.head? ≠ some '/')
    "binary_path must be absolute"
  refuse ((trial.lookup "draft_pr_only").bind FieldValue.asBool ≠ some r.draftPrOnly ||
    !r.draftPrOnly) "spend draft_pr_only mismatches decision trial envelope"
  refuse ((trial.lookup "auto_merge_disabled").bind FieldValue.asBool ≠ some true)
    "trial_envelope.auto_merge_disabled must be true"
  refuse (r.targetMainSha.utf8ByteSize ≠ 40 && r.targetMainSha.utf8ByteSize ≠ 64)
    "target_main_sha invalid"
  refuse (isBlank prim.isWhitespace r.targetRepo) "target_repo required"
  refuse (!"acp/".toList.isPrefixOf r.outputBranchPrefix.toList)
    "output_branch_prefix must be acp/*"
  refuse (isBlank prim.isWhitespace r.productTaskId || isBlank prim.isWhitespace r.executionId ||
    isBlank prim.isWhitespace r.attemptId) "product_task_id/execution_id/attempt_id required"
  refuse (isBlank prim.isWhitespace r.cancellationIdentity ||
    isBlank prim.isWhitespace r.rollbackIdentity)
    "cancellation_identity and rollback_identity required"
  r.costAuthority.validate
  requireResolvedCost trial r

def buildSpendBody (spendId : String) (p : AuthenticatedPrincipal)
    (r : SpendAuthorizationRequest C) (a : AuthorizationRow C) (createdAt : Option ℤ)
    (logical : Option String) : SpendBody C where
  spendAuthorizationId := spendId
  decisionId := a.decisionId
  riskAuthorizationId := r.riskAuthorizationId
  riskAuthorizationSha256 := a.authorizationSha256
  decisionBodySha256 := a.decisionBodySha256
  residualFindingSha256 := a.residualFindingSha256
  tenantId := p.tenantId
  principalKind := p.kind
  principalId := p.principalId
  logicalAuthorizationSha256 := logical
  fixtureOnly := p.fixture
  createdAt := createdAt
  expiresAt := a.expiresAt
  terms := .trial r.terms

variable (b : SpendBody C)

def spendRow (sha256 : String) (now : ℤ) : SpendRow C where
  spendAuthorizationId := b.spendAuthorizationId
  decisionId := b.decisionId
  riskAuthorizationId := b.riskAuthorizationId
  tenantId := b.tenantId
  principalKind := b.principalKind
  principalId := b.principalId
  spendBodySha256 := sha256
  riskAuthorizationSha256 := b.riskAuthorizationSha256
  logicalAuthorizationSha256 := b.logicalAuthorizationSha256
  decisionBodySha256 := b.decisionBodySha256
  residualFindingSha256 := b.residualFindingSha256
  fixtureOnly := b.fixtureOnly
  status := .active
  body := b
  createdAt := now
  updatedAt := now
  expiresAt := b.expiresAt
  consumedAt := none
  consumedByAttemptId := none
  revokedAt := none

variable (s : Store C)

/-- The primary key and the two unique indexes of the spends. -/
def spendConflicts (row : SpendRow C) : Bool :=
  s.spends.rows.any fun r => r.spendAuthorizationId = row.spendAuthorizationId ||
    (r.tenantId = row.tenantId && (r.spendBodySha256 = row.spendBodySha256 ||
      (r.status = .active && r.logicalAuthorizationSha256 = row.logicalAuthorizationSha256)))

def findActiveSpend (tenantId logical : String) :
    Except String (Option (SpendRow C)) := do
  refuse (s.spends.rows.any fun r => r.tenantId = tenantId && r.status = .active &&
    r.logicalAuthorizationSha256.isNone)
    "active spend is missing mandatory logical authorization identity"
  pure (s.spends.rows.find? fun r => r.tenantId = tenantId &&
    r.logicalAuthorizationSha256 = some logical && r.status = .active)

/-- The insert does nothing on a conflict, and the active spend of the same identity answers. -/
def insertIssuedSpend (row : SpendRow C) (logical : String) :
    Except String (SpendRow C × Store C) :=
  if spendConflicts s row then do
    let found ← findActiveSpend s row.tenantId logical
    let existing ← required found
      "spend issuance conflict did not resolve to an active logical receipt"
    let loaded ← loadSpend prim s existing.spendAuthorizationId
    pure (loaded, s)
  else do
    let s' := { s with spends := s.spends.insert row }
    let loaded ← loadSpend prim s' row.spendAuthorizationId
    pure (loaded, s')

def issueSpend (p : AuthenticatedPrincipal) (r : SpendAuthorizationRequest C)
    (fresh : String) (now : ℤ) : Except String (SpendRow C × Store C) := do
  let a ← loadAuthorization prim s r.riskAuthorizationId
  validateRiskForSpend a p now
  refuse a.executionGranted
    "risk acknowledgement execution_granted must be a persisted false boolean"
  let d ← loadDecision prim s a.decisionId
  validateSpendAgainstDecision prim r d.body
  let logical := stableSpendAuthorizationIdentity prim (buildSpendBody "" p r a none none)
  match ← findActiveSpend s p.tenantId logical with
  | some existing => do
    let loaded ← loadSpend prim s existing.spendAuthorizationId
    pure (loaded, s)
  | none =>
    let body := buildSpendBody ("mas-" ++ fresh) p r a (some now) (some logical)
    insertIssuedSpend prim s (spendRow body (prim.spendSha256 body) now) logical

def issueManagedAcceptanceSpendAuthorization (p : AuthenticatedPrincipal)
    (r : SpendAuthorizationRequest C) (fresh : String) (now : ℤ) :
    Except String (SpendRow C × Store C) := do
  p.requireScope scopeSpendAuthorize
  refuse (!p.fixture && !p.mayAuthorizeProductionLiveStart)
    "principal cannot issue production spend authorization"
  issueSpend prim s p r fresh now

/-- A field of a spend's body; no column of a spend has one of the names asked for. -/
def SpendBody.field? (key : String) : Option (FieldValue C) :=
  match b.terms with
  | .trial fields => fields.lookup key
  | .effect child => if key = "target_main_sha" then some (.text child.targetMainSha) else none

def spendBoundFields : List String :=
  ["product_task_id", "workflow_id", "workflow_node_id", "execution_id", "binary_path",
   "binary_version", "binary_sha256", "runtime_profile_sha256", "capability_probe_sha256",
   "provider_kind", "provider_host", "provider_base_url", "admitted_endpoint_paths", "model",
   "target_repo", "target_main_sha", "output_branch_prefix", "draft_pr_only",
   "max_provider_requests", "max_retries", "max_input_tokens", "max_output_tokens",
   "max_total_tokens", "max_wall_time_ms", "cost_authority", "cancellation_identity",
   "rollback_identity"]

def manifestFields : List (String × Bool) :=
  (spendBoundFields.take 4 ++ "attempt_id" :: spendBoundFields.drop 4).map fun key => (key, key ∉
    ["workflow_id", "workflow_node_id", "runtime_profile_sha256", "capability_probe_sha256"])

def manifestField (field : String × Bool) : Except String (String × FieldValue C) :=
  match b.field? field.1 with
  | some value => .ok (field.1, value)
  | none =>
    if field.2 then .error ("spend body missing " ++ field.1 ++ " for attempt manifest")
    else .ok (field.1, .null)

def computeAttemptManifestSha256 (manifest : Fields C) : String :=
  prim.manifestSha256 (manifest.filter fun field => field.1 ≠ "manifest_sha256")

def buildAttemptAuthorityManifest : Except String (Fields C) := do
  let bound ← manifestFields.mapM (manifestField b)
  let manifest := ("schema_version", .text "managed_acceptance_attempt_manifest.v1") :: bound ++
    [("decision_body_sha256", .text b.decisionBodySha256),
     ("spend_authorization_id", .text b.spendAuthorizationId)]
  pure (manifest ++ [("manifest_sha256", .text (computeAttemptManifestSha256 prim manifest))])

def requireBoundField (body : AdmissionBody C) (b : SpendBody C) (key : String) :
    Except String Unit := do
  let expected ← required (b.field? key) ("spend missing bound field " ++ key)
  let observed ← required (body.fields.lookup key)
    ("attempt body missing required spend-bound field " ++ key)
  refuse (expected ≠ observed)
    ("attempt body " ++ key ++ " mismatch vs spend authorization (attempt=" ++
      prim.renderValue observed ++ ", spend=" ++ prim.renderValue expected ++ ")")

def requireManifestField (manifest expected : Fields C) (key : String) : Except String Unit := do
  let value ← required (expected.lookup key) ("canonical manifest missing " ++ key)
  let observed ← required (manifest.lookup key)
    ("attempt manifest missing authority field " ++ key)
  refuse (value ≠ observed) ("manifest." ++ key ++ " mismatches spend-bound authority")

def validateAttemptBodyMatchesSpend (attemptId : String) (body : AdmissionBody C)
    (b : SpendBody C) : Except String Unit := do
  spendBoundFields.forM (requireBoundField prim body b)
  let spendAttempt ← required ((b.field? "attempt_id").bind FieldValue.asStr)
    "spend missing attempt_id"
  refuse (spendAttempt ≠ attemptId) "attempt_id mismatch vs spend authorization"
  let manifest ← required body.manifest "attempt body requires complete canonical manifest"
  let expected ← buildAttemptAuthorityManifest prim b
  (manifestFields.map Prod.fst).forM (requireManifestField manifest expected)
  let recomputed := computeAttemptManifestSha256 prim manifest
  let declared ← required ((body.fields.lookup "manifest_sha256").bind FieldValue.asStr)
    "attempt body requires manifest_sha256"
  refuse (declared ≠ recomputed)
    "manifest_sha256 does not match recomputed complete canonical manifest hash"
  refuse (((manifest.lookup "manifest_sha256").bind FieldValue.asStr).any (· ≠ recomputed))
    "embedded manifest.manifest_sha256 mismatches recomputed hash"

def validateSpendForAdmit (r : SpendRow C) (p : AuthenticatedPrincipal)
    (allowFixtureDryRun : Bool) (now : ℤ) : Except String Unit := do
  refuse (r.tenantId ≠ p.tenantId) "spend tenant mismatch"
  refuse (r.principalId ≠ p.principalId) "spend principal mismatch"
  refuse (r.status ≠ .active) "spend authorization is not active"
  refuse (r.expiresAt ≤ now) "spend authorization expired"
  refuse (r.principalKind ≠ p.kind) "spend principal kind mismatch"
  refuse (r.fixtureOnly ≠ (r.principalKind = .fixturePrincipal : Bool))
    "spend fixture_only boolean is inconsistent with principal kind"
  refuse (r.principalKind = .fixturePrincipal && !allowFixtureDryRun)
    "fixture principal cannot admit production live attempt"
  refuse (r.principalKind ≠ .fixturePrincipal && !p.mayAuthorizeProductionLiveStart)
    "principal cannot admit production live attempt"

def SpendRow.consumed (r : SpendRow C) (attemptId : String) (now : ℤ) : SpendRow C :=
  { r with
    status := .consumed
    consumedAt := some now
    consumedByAttemptId := some attemptId
    updatedAt := now }

/-- The primary key and the unique index on the body's hash within a tenant. -/
def requireUniqueAttempt (row : AttemptRow C) : Except String Unit := do
  refuse (s.attempts.contains row.attemptId) "UNIQUE constraint failed: attempt_id"
  refuse (s.attempts.rows.any fun t => t.tenantId = row.tenantId &&
    t.attemptBodySha256 = row.attemptBodySha256)
    "UNIQUE constraint failed: tenant_id, attempt_body_sha256"

def recordAttempt (r : SpendRow C) (row : AttemptRow C) (now : ℤ) :
    Except String (Store C) := do
  requireUniqueAttempt s row
  pure { s with
    spends := s.spends.insert (r.consumed row.attemptId now)
    attempts := s.attempts.insert row }

def admittedRow (r : SpendRow C) (p : AuthenticatedPrincipal) (attemptId : String)
    (body : AdmissionBody C) (sha256 manifestSha256 fresh : String) (now : ℤ) :
    AttemptRow C where
  attemptId := attemptId
  tenantId := p.tenantId
  productTaskId := (body.fields.lookup "product_task_id").bind FieldValue.asStr
  workflowNodeId := (body.fields.lookup "workflow_node_id").bind FieldValue.asStr
  executionId := ((body.fields.lookup "execution_id").bind FieldValue.asStr).getD attemptId
  decisionId := r.decisionId
  authorizationId := r.riskAuthorizationId
  spendAuthorizationId := r.spendAuthorizationId
  manifestSha256 := manifestSha256
  attemptBodySha256 := sha256
  status := .admitted
  terminalClass := none
  body := .admission body
  receipt := none
  receiptSha256 := none
  leaseToken := some ("lease-" ++ fresh)
  createdAt := now
  updatedAt := now

def findAttempt (tenantId attemptId : String) : Option (AttemptRow C) :=
  (s.attempts.find? attemptId).filter fun t => t.tenantId = tenantId

/-- An attempt as an operation returns it, and whether it was there before. -/
structure AttemptReply (C : Type) where
  row : AttemptRow C
  idempotentReplay : Bool
deriving DecidableEq

def admitNew (p : AuthenticatedPrincipal) (attemptId : String)
    (body : AdmissionBody C) (spendId : String) (allowFixtureDryRun : Bool) (fresh : String)
    (now : ℤ) : Except String (AttemptReply C × Store C) := do
  let sha256 := prim.attemptSha256 (.admission body)
  refuse (s.attempts.rows.any fun t => t.tenantId = p.tenantId && t.attemptBodySha256 = sha256)
    "attempt body already admitted under another attempt_id"
  let r ← loadSpend prim s spendId
  validateSpendForAdmit r p allowFixtureDryRun now
  validateAttemptBodyMatchesSpend prim attemptId body r.body
  let a ← loadAuthorization prim s r.riskAuthorizationId
  validateSpendRiskOwner r a
  let d ← loadDecision prim s r.decisionId
  validateRiskDecisionOwner a d
  refuse (r.status ≠ .active) "spend authorization not active or already consumed"
  refuse a.executionGranted "risk ack execution_granted must be a persisted false boolean"
  let manifestSha256 ← required ((body.fields.lookup "manifest_sha256").bind FieldValue.asStr)
    "attempt body requires manifest_sha256"
  let row := admittedRow r p attemptId body sha256 manifestSha256 fresh now
  let s' ← recordAttempt s r row now
  pure (⟨row, false⟩, s')

/-- The lease token is read after the transaction. -/
def admitManagedAcceptanceAttemptInternal (p : AuthenticatedPrincipal)
    (attemptId : String) (body : AdmissionBody C) (spendId : String) (allowFixtureDryRun : Bool)
    (fresh : String) (now : ℤ) : Except String (AttemptReply C × Store C) :=
  match findAttempt s p.tenantId attemptId with
  | some existing => do
    refuse (existing.attemptBodySha256 ≠ prim.attemptSha256 (.admission body))
      "conflicting managed acceptance attempt body"
    refuse existing.leaseToken.isNone "Invalid column type Null at index: 0, name: lease_token"
    pure (⟨existing, true⟩, s)
  | none => admitNew prim s p attemptId body spendId allowFixtureDryRun fresh now

/-- The public entry. -/
def admitManagedAcceptanceAttempt (p : AuthenticatedPrincipal)
    (attemptId : String) (body : AdmissionBody C) (spendId : String) (fresh : String) (now : ℤ) :
    Except String (AttemptReply C × Store C) := do
  refuse p.fixture "fixture principal cannot use production admission API"
  p.requireScope scopeAttemptAdmit
  admitManagedAcceptanceAttemptInternal prim s p attemptId body spendId false fresh now

def AttemptRow.completed (t : AttemptRow C) (status : TerminalStatus) (terminalClass : String)
    (receipt : AttemptReceipt) (sha256 : String) (now : ℤ) : AttemptRow C :=
  { t with
    status := .ended status
    terminalClass := some terminalClass
    receipt := some receipt
    receiptSha256 := some sha256
    updatedAt := now }

def completeManagedAcceptanceAttempt (attemptId leaseToken : String)
    (status : TerminalStatus) (terminalClass receipt : String) (now : ℤ) :
    Except String (AttemptRow C × Store C) := do
  let sha256 := prim.receiptSha256 (.given receipt)
  let t ← required (s.attempts.find? attemptId) "Query returned no rows"
  refuse (t.leaseToken ≠ some leaseToken) "lease_token mismatch; ownership lost or cancelled"
  match t.status with
  | .ended current => do
    refuse (!(current = status && t.terminalClass = some terminalClass &&
      t.receiptSha256 = some sha256)) "late terminal write after attempt already terminal"
    pure (t, s)
  | .admitted =>
    let t' := t.completed status terminalClass (.given receipt) sha256 now
    pure (t', { s with attempts := s.attempts.insert t' })

end Harness.Acceptance
