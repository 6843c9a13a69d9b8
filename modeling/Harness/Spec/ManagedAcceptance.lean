import Harness.Spec.Delegation
import Mathlib.Algebra.Group.Defs

/-! Managed acceptance: the decisions that an operator accepts, the risk authorizations that
follow from them, the one-use spends and the attempts. This module has the bodies, the rows of
the four tables and the checks that look at them. -/

namespace Harness.Acceptance

open Lib
open Delegated (isBlank SpendStatus TerminalStatus)

variable {C : Type}

inductive DecisionStatus where
  | draftPendingOperator
  | operatorAccepted
  | operatorRejected
  | invalidated
  | revoked
  | expired
deriving DecidableEq, Repr

def DecisionStatus.text : DecisionStatus → String
  | draftPendingOperator => "draft_pending_operator"
  | operatorAccepted => "operator_accepted"
  | operatorRejected => "operator_rejected"
  | invalidated => "invalidated"
  | revoked => "revoked"
  | expired => "expired"

inductive AuthorizationStatus where
  | active
  | revoked
  | expired
  | consumed
deriving DecidableEq, Repr

inductive AttemptStatus where
  | admitted
  | ended (status : TerminalStatus)
deriving DecidableEq, Repr

/-! JSON objects, as far as the store looks into them. -/

inductive CostAuthority (C : Type) where
  | providerReported (maxCost : C) (currency : String)
  | localEstimate (maxCost : C)
      (currency provider model pricingTableVersion estimateSemantics : String)
  | costUnavailable
deriving DecidableEq

inductive ArrayItem where
  | text (s : String)
  | other (json : String)
deriving DecidableEq

inductive FieldValue (C : Type) where
  | null
  | bool (b : Bool)
  | number (n : ℕ)
  | text (s : String)
  | array (items : List ArrayItem)
  /-- What `CostAuthority::to_json` writes. -/
  | cost (authority : CostAuthority C)
  | other (json : String)
deriving DecidableEq

/-- The members of an object. -/
abbrev Fields (C : Type) := List (String × FieldValue C)

namespace FieldValue

def asStr : FieldValue C → Option String
  | text s => some s
  | _ => none

def asU64 : FieldValue C → Option ℕ
  | number n => some n
  | _ => none

def asBool : FieldValue C → Option Bool
  | bool b => some b
  | _ => none

def asArray : FieldValue C → Option (List ArrayItem)
  | array items => some items
  | _ => none

end FieldValue

def ArrayItem.asStr : ArrayItem → Option String
  | text s => some s
  | other _ => none

/-! Effect envelopes and the children derived from them. Instants are in seconds. -/

structure EffectEnvelopeContract (C : Type) where
  (schemaVersion decisionId envelopeId ownerPrincipalId effectKind targetRepository
    targetMainSha : String)
  maxTotalCostUsd : C
  maxChildAuthorizations : ℕ
  (createdAt expiresAt : ℤ)
deriving DecidableEq

/-- An `effect_envelope` as it stands in a body: what it deserializes to, and what serializing
that again would not give back. -/
structure EnvelopeJson (C : Type) where
  contract : Option (EffectEnvelopeContract C)
  rest : String
deriving DecidableEq

def EffectEnvelopeContract.body (e : EffectEnvelopeContract C) : EnvelopeJson C := ⟨some e, ""⟩

structure EffectChildAuthorizationRequest (C : Type) where
  (childAuthorizationId operationId effectKind targetRepository targetMainSha : String)
  maxCostUsd : C
  expiresAt : ℤ
deriving DecidableEq

/-- `none` is a field that is absent or not of its type; `some none` an embedded value that is
there but not of its type. -/
structure DecisionBody (C : Type) where
  (schemaVersion decisionId status : Option String)
  /-- `/acknowledgement/required_phrase`. -/
  requiredPhrase : Option String
  invalidationState : Option (Option String)
  effectEnvelope : Option (EnvelopeJson C)
  trialEnvelope : Option (Option (Fields C))
  rest : String
deriving DecidableEq

/-- The scope of an authorization, which comes from the decision alone. -/
structure RiskScope (C : Type) where
  trialEnvelope : Option (Option (Fields C))
  effectEnvelope : Option (EnvelopeJson C)
  (decisionId decisionBodySha256 residualFindingSha256 : String)
  expiresAt : ℤ
deriving DecidableEq

structure RiskAuthBody (C : Type) where
  (authorizationId decisionId tenantId : String)
  principalKind : PrincipalKind
  (principalId decisionBodySha256 residualFindingSha256 : String)
  scope : RiskScope C
  expiresAt : ℤ
  (executionGranted fixtureOnly : Bool)
deriving DecidableEq

structure EffectChild (C : Type) where
  (childAuthorizationId parentEnvelopeId parentEnvelopeSha256 : String)
  parentEnvelope : EnvelopeJson C
  (effectKind operationId targetRepository targetMainSha : String)
  maxCostUsd : C
  (oneUse outcomeUnknownRetry : Bool)
deriving DecidableEq

/-- The two schemas of a spend body. -/
inductive SpendTerms (C : Type) where
  | trial (fields : Fields C)
  | effect (child : EffectChild C)
deriving DecidableEq

structure SpendBody (C : Type) where
  (spendAuthorizationId decisionId riskAuthorizationId riskAuthorizationSha256
    decisionBodySha256 residualFindingSha256 tenantId : String)
  principalKind : PrincipalKind
  principalId : String
  logicalAuthorizationSha256 : Option String
  fixtureOnly : Bool
  /-- `none` stands for the empty text. -/
  createdAt : Option ℤ
  expiresAt : ℤ
  terms : SpendTerms C
deriving DecidableEq

structure AdmissionBody (C : Type) where
  fields : Fields C
  manifest : Option (Fields C)
deriving DecidableEq

structure EffectAttemptBody (C : Type) where
  (attemptId childAuthorizationId spendAuthorizationId decisionId riskAuthorizationId
    operationId effectKind targetRepository targetMainSha : String)
  maxCostUsd : C
  status : TerminalStatus
  (terminalClass receiptSha256 : String)
deriving DecidableEq

inductive AttemptBody (C : Type) where
  | admission (body : AdmissionBody C)
  | effect (body : EffectAttemptBody C)
deriving DecidableEq

structure OutcomePayload where
  (kind childAuthorizationId : String)
  effectExecuted : Bool
deriving DecidableEq

structure OutcomeEvidence where
  evidence : OutcomePayload
  evidenceSha256 : String
deriving DecidableEq

structure EffectOutcomeReceipt where
  (childAuthorizationId spendAuthorizationId parentEnvelopeId attemptId operationId : String)
  outcome : TerminalStatus
  evidence : OutcomeEvidence
deriving DecidableEq

/-- The content of a receipt for a change of status, without its hash. -/
structure TransitionBody where
  (schemaVersion decisionId tenantId decisionBodySha256 residualFindingSha256 : String)
  sequence : ℤ
  previousTransitionSequence : Option ℤ
  previousTransitionSha256 : Option String
  (fromStatus toStatus : DecisionStatus)
  actorPrincipalKind : PrincipalKind
  actorPrincipalId : String
  atTime : ℤ
  reason : String
deriving DecidableEq

inductive AttemptReceipt where
  | outcome (receipt : EffectOutcomeReceipt)
  /-- A receipt that the store does not look into. -/
  | given (json : String)
deriving DecidableEq

structure DecisionRow (C : Type) where
  (decisionId tenantId decisionBodySha256 residualFindingSha256 : String)
  status : DecisionStatus
  principalKind : PrincipalKind
  principalId : Option String
  body : DecisionBody C
  (createdAt updatedAt expiresAt : ℤ)
  revokedAt : Option ℤ
deriving DecidableEq

structure AuthorizationRow (C : Type) where
  (authorizationId decisionId tenantId : String)
  principalKind : PrincipalKind
  (principalId decisionBodySha256 residualFindingSha256 authorizationSha256 : String)
  scope : RiskScope C
  status : AuthorizationStatus
  executionGranted : Bool
  body : RiskAuthBody C
  (createdAt updatedAt expiresAt : ℤ)
  revokedAt : Option ℤ
deriving DecidableEq

structure SpendRow (C : Type) where
  (spendAuthorizationId decisionId riskAuthorizationId tenantId : String)
  principalKind : PrincipalKind
  (principalId spendBodySha256 riskAuthorizationSha256 : String)
  logicalAuthorizationSha256 : Option String
  (decisionBodySha256 residualFindingSha256 : String)
  fixtureOnly : Bool
  status : SpendStatus
  body : SpendBody C
  (createdAt updatedAt expiresAt : ℤ)
  consumedAt : Option ℤ
  consumedByAttemptId : Option String
  revokedAt : Option ℤ
deriving DecidableEq

structure AttemptRow (C : Type) where
  (attemptId tenantId : String)
  (productTaskId workflowNodeId : Option String)
  (executionId decisionId authorizationId spendAuthorizationId manifestSha256
    attemptBodySha256 : String)
  status : AttemptStatus
  terminalClass : Option String
  body : AttemptBody C
  receipt : Option AttemptReceipt
  (receiptSha256 leaseToken : Option String)
  (createdAt updatedAt : ℤ)
deriving DecidableEq

/-! What the store takes from its libraries. -/

/-- The hashes are of the canonical JSON text of their arguments. -/
structure Primitives (C : Type) where
  isWhitespace : Char → Bool
  /-- `f64::EPSILON`. -/
  epsilon : C
  renderValue : FieldValue C → String
  payloadJson : OutcomePayload → String
  containsSensitivePatterns : String → Bool
  sha256Text : String → String
  decisionSha256 : DecisionBody C → String → ℤ → String → String
  authorizationSha256 : RiskAuthBody C → String
  envelopeSha256 : EffectEnvelopeContract C → String
  spendSha256 : SpendBody C → String
  /-- The hash of what `stable_spend_authorization_identity` leaves of a body. -/
  identitySha256 : SpendBody C → String
  manifestSha256 : Fields C → String
  attemptSha256 : AttemptBody C → String
  receiptSha256 : AttemptReceipt → String
  transitionSha256 : TransitionBody → String

def isHexDigit (c : Char) : Bool :=
  ('0' ≤ c && c ≤ '9') || ('a' ≤ c && c ≤ 'f') || ('A' ≤ c && c ≤ 'F')

def isHexOfLength (n : ℕ) (s : String) : Bool := s.toList.length = n && s.toList.all isHexDigit

def requiredStr (value key : String) : Except String String :=
  if value = "" then .error (key ++ " required") else .ok value

def requireFiniteExpiry (expiresAt : Option ℤ) : Except String ℤ := do
  let t ← required expiresAt "finite expires_at is mandatory for managed acceptance decisions"
  -- the years 2099, 2100 and 9999
  refuse ((4070908800 ≤ t && t < 4133980800) || (253370764800 ≤ t && t < 253402300800))
    "expires_at far-future placeholder is not a finite expiry"
  -- the years 2020 to 2036
  refuse (t < 1577836800 || 2114380800 ≤ t) "expires_at year out of bounded finite range"
  pure t

/-- A named text must be there and not too long. -/
def requireText (isWhitespace : Char → Bool) (what : String) (field : String × String) :
    Except String Unit := do
  refuse (isBlank isWhitespace field.2) (what ++ " " ++ field.1 ++ " is required")
  refuse (256 < field.2.toList.length) (what ++ " " ++ field.1 ++ " is too long")

def effectEnvelopeSchemaVersion : String := "managed_effect_envelope.v1"

def effectEnvelopeApprovalPhrase : String := "APPROVE_MANAGED_EFFECT_ENVELOPE_V1"

def effectOutcomeUnknown : String := "outcome_unknown"

def maxEffectChildAuthorizations : ℕ := 64

def maxEffectOutcomeEvidenceBytes : ℕ := 2048

section Checks

variable [AddCommMonoid C] [LinearOrder C] (prim : Primitives C)

def EffectEnvelopeContract.validate (e : EffectEnvelopeContract C) (now : ℤ) :
    Except String Unit := do
  refuse (e.schemaVersion ≠ effectEnvelopeSchemaVersion)
    "unsupported effect envelope schema_version"
  [("decision_id", e.decisionId), ("envelope_id", e.envelopeId),
    ("owner_principal_id", e.ownerPrincipalId), ("effect_kind", e.effectKind),
    ("target_repository", e.targetRepository)].forM
      (requireText prim.isWhitespace "effect envelope")
  refuse (e.effectKind = effectOutcomeUnknown)
    "effect envelope effect_kind cannot be outcome_unknown"
  refuse (!isHexOfLength 40 e.targetMainSha && !isHexOfLength 64 e.targetMainSha)
    "effect envelope target_main_sha must be a 40- or 64-hex identity"
  refuse (e.maxTotalCostUsd < 0)
    "effect envelope max_total_cost_usd must be finite and non-negative"
  refuse (e.maxChildAuthorizations = 0 || maxEffectChildAuthorizations < e.maxChildAuthorizations)
    "effect envelope max_child_authorizations must be between 1 and 64"
  let expiresAt ← requireFiniteExpiry (some e.expiresAt)
  refuse (now < e.createdAt) "effect envelope created_at cannot be after store time"
  refuse (expiresAt ≤ e.createdAt) "effect envelope expires_at must be after created_at"
  refuse (expiresAt ≤ now) "effect envelope is expired"

def EffectChildAuthorizationRequest.validateAgainst (r : EffectChildAuthorizationRequest C)
    (parent : EffectEnvelopeContract C) (now : ℤ) : Except String ℤ := do
  [("child_authorization_id", r.childAuthorizationId), ("operation_id", r.operationId),
    ("effect_kind", r.effectKind), ("target_repository", r.targetRepository)].forM
      (requireText prim.isWhitespace "effect child")
  refuse (r.effectKind ≠ parent.effectKind)
    "effect child kind exceeds or differs from parent envelope"
  refuse (r.targetRepository ≠ parent.targetRepository || r.targetMainSha ≠ parent.targetMainSha)
    "effect child target does not exactly match parent envelope"
  refuse (r.maxCostUsd < 0 || parent.maxTotalCostUsd < r.maxCostUsd)
    "effect child cost exceeds parent envelope"
  let expiresAt ← requireFiniteExpiry (some r.expiresAt)
  let parentExpiresAt ← requireFiniteExpiry (some parent.expiresAt)
  refuse (parentExpiresAt < expiresAt) "effect child expiry exceeds parent envelope"
  refuse (expiresAt ≤ now) "effect child is expired"
  pure expiresAt

/-- The principal that submits or accepts an envelope owns it. -/
def requireEnvelopeOwner (e : EffectEnvelopeContract C) (tenantId : String)
    (p : AuthenticatedPrincipal) : Except String Unit := do
  refuse (p.tenantId ≠ tenantId) "effect envelope principal tenant does not match decision tenant"
  refuse (p.principalId ≠ e.ownerPrincipalId)
    "effect envelope owner principal does not match authenticated owner"

def validateEffectEnvelopeBody (body : DecisionBody C) (tenantId : String)
    (principal : Option AuthenticatedPrincipal) (now : ℤ) :
    Except String (EffectEnvelopeContract C) := do
  refuse (body.schemaVersion ≠ some effectEnvelopeSchemaVersion)
    "effect envelope body schema_version is invalid"
  refuse (body.status ≠ some "draft_pending_operator")
    "effect envelope body must be a draft before owner acceptance"
  let embedded ← required body.effectEnvelope "effect envelope body is missing effect_envelope"
  let e ← required embedded.contract "effect envelope body is malformed"
  e.validate prim now
  refuse (body.decisionId ≠ some e.decisionId)
    "effect envelope decision_id is not bound to its decision body"
  principal.forM (requireEnvelopeOwner e tenantId)
  pure e

def trialEnvelopeKeys : List String :=
  ["max_retries", "max_provider_requests", "max_input_tokens", "max_output_tokens",
   "max_total_tokens", "max_wall_time_ms", "provider_kind", "provider_host", "provider_base_url",
   "model", "admitted_endpoint_paths", "draft_pr_only", "auto_merge_disabled", "product_task_id",
   "workflow_id", "workflow_node_id", "execution_id", "attempt_id", "target_repo",
   "target_main_sha", "exact_codex_path", "exact_codex_sha256", "cancellation_identity",
   "rollback_identity", "output_branch_prefix", "cost_authority"]

def validateTrialEnvelopeShape (trial : Option (Fields C)) : Except String (Fields C) := do
  let fields ← required trial "trial_envelope must be an object"
  trialEnvelopeKeys.forM fun key =>
    refuse (fields.lookup key).isNone ("trial_envelope." ++ key ++ " required")
  pure fields

/-! What a row must agree with when it is read. -/

def canonicalDecisionAuthorityHash (body : DecisionBody C) (residual : String) (expiresAt : ℤ)
    (invalidationState : String) : Except String String := do
  let expiresAt ← requireFiniteExpiry (some expiresAt)
  pure (prim.decisionSha256 body residual expiresAt invalidationState)

def persistedBodyStr (value : Option String) (owner field : String) : Except String String := do
  let text ← required value (owner ++ " body_json missing " ++ field)
  refuse (text = "") (owner ++ " body_json " ++ field ++ " must be a non-empty string")
  pure text

/-- A field of a body and the column of its row. -/
def requireSameField (owner : String) (field : String × String × String) : Except String Unit := do
  let (name, body, column) := field
  let body ← persistedBodyStr (some body) owner name
  let column ← requiredStr column name
  refuse (body ≠ column) (owner ++ " body_json " ++ name ++ " does not match the owner row")

def persistedInvalidationState (state : Option (Option String)) : Except String String :=
  match state with
  | none => .ok "none"
  | some (some value) => .ok value
  | some none =>
    .error "managed acceptance decision body invalidation_state must be a string"

def DecisionRow.validateOwnerIntegrity (d : DecisionRow C) : Except String Unit := do
  let decisionId ← requiredStr d.decisionId "decision_id"
  let bodyId ← persistedBodyStr d.body.decisionId "managed acceptance decision" "decision_id"
  refuse (bodyId ≠ decisionId)
    "managed acceptance decision body decision_id does not match the owner row"
  let status ← persistedBodyStr d.body.status "managed acceptance decision" "status"
  refuse (status ≠ "draft_pending_operator")
    "managed acceptance decision body status is not the immutable draft status"
  let residual ← requiredStr d.residualFindingSha256 "residual_finding_sha256"
  let invalidationState ← persistedInvalidationState d.body.invalidationState
  let recomputed ← canonicalDecisionAuthorityHash prim d.body residual d.expiresAt invalidationState
  let sha256 ← requiredStr d.decisionBodySha256 "decision_body_sha256"
  refuse (sha256 ≠ recomputed)
    "managed acceptance decision decision_body_sha256 does not match body_json"

def AuthorizationRow.validateOwnerIntegrity (a : AuthorizationRow C) : Except String Unit := do
  let b := a.body
  [("authorization_id", b.authorizationId, a.authorizationId),
    ("decision_id", b.decisionId, a.decisionId), ("tenant_id", b.tenantId, a.tenantId),
    ("principal_kind", b.principalKind.asStr, a.principalKind.asStr),
    ("principal_id", b.principalId, a.principalId),
    ("decision_body_sha256", b.decisionBodySha256, a.decisionBodySha256),
    ("residual_finding_sha256", b.residualFindingSha256, a.residualFindingSha256)].forM
      (requireSameField "managed acceptance authorization")
  refuse (b.expiresAt ≠ a.expiresAt)
    "managed acceptance authorization body_json expires_at does not match the owner row"
  refuse (b.scope ≠ a.scope) "managed acceptance authorization scope does not match body_json"
  refuse (b.executionGranted ≠ a.executionGranted)
    "managed acceptance authorization execution_granted is not a persisted boolean match"
  refuse (b.fixtureOnly ≠ (a.principalKind = .fixturePrincipal : Bool))
    "managed acceptance authorization fixture_only is not a persisted boolean match"
  refuse (a.authorizationSha256 = "") "authorization_sha256 required"
  refuse (a.authorizationSha256 ≠ prim.authorizationSha256 b)
    "managed acceptance authorization authorization_sha256 does not match body_json"

/-- What is left of a body without the ids of its receipts and its timestamp. -/
def SpendBody.identity (b : SpendBody C) : SpendBody C :=
  { b with
    spendAuthorizationId := ""
    createdAt := none
    logicalAuthorizationSha256 := none
    riskAuthorizationId := ""
    riskAuthorizationSha256 := "" }

def stableSpendAuthorizationIdentity (b : SpendBody C) : String := prim.identitySha256 b.identity

/-- An effect child says of itself that it is for one use; a trial spend always does. -/
def SpendBody.oneUse (b : SpendBody C) : Bool :=
  match b.terms with
  | .trial _ => true
  | .effect child => child.oneUse

def requireLogicalIdentity (r : SpendRow C) : Except String Unit := do
  let logical ← required (r.logicalAuthorizationSha256.filter (· ≠ ""))
    "managed acceptance spend authorization logical_authorization_sha256 is invalid"
  refuse (r.body.logicalAuthorizationSha256 ≠ some logical)
    "managed acceptance spend authorization logical_authorization_sha256 does not match body_json"
  refuse (stableSpendAuthorizationIdentity prim r.body ≠ logical)
    ("managed acceptance spend authorization logical_authorization_sha256 does not match " ++
      "the stable body identity")

def SpendRow.validateOwnerIntegrity (r : SpendRow C) : Except String Unit := do
  let b := r.body
  [("spend_authorization_id", b.spendAuthorizationId, r.spendAuthorizationId),
    ("decision_id", b.decisionId, r.decisionId),
    ("risk_authorization_id", b.riskAuthorizationId, r.riskAuthorizationId),
    ("tenant_id", b.tenantId, r.tenantId),
    ("principal_kind", b.principalKind.asStr, r.principalKind.asStr),
    ("principal_id", b.principalId, r.principalId),
    ("risk_authorization_sha256", b.riskAuthorizationSha256, r.riskAuthorizationSha256),
    ("decision_body_sha256", b.decisionBodySha256, r.decisionBodySha256),
    ("residual_finding_sha256", b.residualFindingSha256, r.residualFindingSha256)].forM
      (requireSameField "managed acceptance spend authorization")
  refuse (b.expiresAt ≠ r.expiresAt)
    "managed acceptance spend authorization body_json expires_at does not match the owner row"
  refuse (r.fixtureOnly ≠ b.fixtureOnly ||
      b.fixtureOnly ≠ (r.principalKind = .fixturePrincipal : Bool))
    "managed acceptance spend authorization fixture_only is not a persisted boolean match"
  refuse (!b.oneUse)
    "managed acceptance spend authorization body one_use must be the persisted true boolean"
  refuse (r.spendBodySha256 = "") "spend_body_sha256 required"
  refuse (r.spendBodySha256 ≠ prim.spendSha256 b)
    "managed acceptance spend authorization spend_body_sha256 does not match body_json"
  requireLogicalIdentity prim r

/-! The owners of a spend: its risk authorization and that one's decision. -/

def requireOwnerField (what owner : String) (field : String × String × String) :
    Except String Unit := do
  let (name, mine, theirs) := field
  let mine ← requiredStr mine name
  let theirs ← requiredStr theirs name
  refuse (mine ≠ theirs) (what ++ " " ++ name ++ " does not match its " ++ owner ++ " owner")

def validateSpendRiskOwner (r : SpendRow C) (a : AuthorizationRow C) : Except String Unit := do
  [("risk_authorization_id", r.riskAuthorizationId, a.authorizationId),
    ("risk_authorization_sha256", r.riskAuthorizationSha256, a.authorizationSha256),
    ("decision_id", r.decisionId, a.decisionId), ("tenant_id", r.tenantId, a.tenantId),
    ("principal_kind", r.principalKind.asStr, a.principalKind.asStr),
    ("principal_id", r.principalId, a.principalId),
    ("decision_body_sha256", r.decisionBodySha256, a.decisionBodySha256),
    ("residual_finding_sha256", r.residualFindingSha256, a.residualFindingSha256)].forM
      (requireOwnerField "spend" "risk authorization")
  refuse a.executionGranted
    "risk authorization execution_granted must be a persisted false boolean"

def validateRiskDecisionOwner (a : AuthorizationRow C) (d : DecisionRow C) : Except String Unit :=
  [("decision_id", a.decisionId, d.decisionId), ("tenant_id", a.tenantId, d.tenantId),
    ("decision_body_sha256", a.decisionBodySha256, d.decisionBodySha256),
    ("residual_finding_sha256", a.residualFindingSha256, d.residualFindingSha256)].forM
      (requireOwnerField "risk" "decision")

end Checks

end Harness.Acceptance
