import Harness.Spec.DecisionTransitions

/-! The store of managed acceptance and the operations on decisions: drafting one, accepting it
and revoking its authorization. Each operation is one transaction: it commits the store that it
returns or, on an error, leaves the store as it was. The audit log is left out. A `fresh`
argument is the random part of an id or a token. -/

namespace Harness.Acceptance

open Lib

variable {C : Type}

structure Store (C : Type) where
  decisions : Table (DecisionRow.decisionId (C := C))
  authorizations : Table (AuthorizationRow.authorizationId (C := C))
  spends : Table (SpendRow.spendAuthorizationId (C := C))
  attempts : Table (AttemptRow.attemptId (C := C))
  receipts : List TransitionReceipt

def Store.empty : Store C := ⟨.empty, .empty, .empty, .empty, []⟩

variable [AddCommMonoid C] [LinearOrder C] (prim : Primitives C)

/-! Reading a row checks it against its body. -/

variable (s : Store C)

def loadDecision (decisionId : String) : Except String (DecisionRow C) := do
  let d ← required (s.decisions.find? decisionId) "Query returned no rows"
  d.validateOwnerIntegrity prim
  pure d

def loadAuthorization (authorizationId : String) :
    Except String (AuthorizationRow C) := do
  let a ← required (s.authorizations.find? authorizationId) "Query returned no rows"
  a.validateOwnerIntegrity prim
  pure a

def loadSpend (spendId : String) : Except String (SpendRow C) := do
  let r ← required (s.spends.find? spendId) "Query returned no rows"
  r.validateOwnerIntegrity prim
  pure r

def validateDecisionEnvelope (body : DecisionBody C) (tenantId : String)
    (principal : Option AuthenticatedPrincipal) (now : ℤ) : Except String Unit :=
  match body.effectEnvelope with
  | some _ => do
    let _ ← validateEffectEnvelopeBody prim body tenantId principal now
    pure ()
  | none => do
    let trial ← required body.trialEnvelope "decision body must embed trial_envelope"
    let _ ← validateTrialEnvelopeShape trial
    pure ()

def requireEnvelopeExpiry (body : DecisionBody C) (expiresAt : ℤ) : Except String Unit :=
  match body.effectEnvelope with
  | none => .ok ()
  | some embedded => do
    let effectExpiresAt ← requireFiniteExpiry (embedded.contract.map fun e => e.expiresAt)
    refuse (effectExpiresAt ≠ expiresAt) "effect envelope expiry does not match decision expiry"

def invalidationStates : List String := ["none", "invalidated", "revoked", "expired"]

def draftRow (tenantId : String) (body : DecisionBody C) (residual : String)
    (principal : Option AuthenticatedPrincipal) (decisionId sha256 : String) (expiresAt now : ℤ) :
    DecisionRow C where
  decisionId := decisionId
  tenantId := tenantId
  decisionBodySha256 := sha256
  residualFindingSha256 := residual
  status := .draftPendingOperator
  principalKind := (principal.map fun p => p.kind).getD .operatorApiKey
  principalId := principal.map fun p => p.principalId
  body := body
  createdAt := now
  updatedAt := now
  expiresAt := expiresAt
  revokedAt := none

def upsertManagedAcceptanceDecision (tenantId : String) (body : DecisionBody C)
    (residual : String) (status : DecisionStatus) (principal : Option AuthenticatedPrincipal)
    (expiresAt : Option ℤ) (fresh : String) (now : ℤ) :
    Except String (DecisionRow C × Store C) := do
  refuse (status ≠ .draftPendingOperator)
    ("managed acceptance decisions must be created in draft_pending_operator; " ++
      "transitions are receipt-owned")
  refuse (!isHexOfLength 64 residual) "residual_finding_sha256 must be 64 hex chars"
  let expiresAt ← requireFiniteExpiry expiresAt
  refuse (body.status ≠ some "draft_pending_operator")
    ("managed acceptance decision body status must be draft_pending_operator; " ++
      "it is not transition evidence")
  refuse (body.requiredPhrase.getD "" = "")
    "decision body must embed acknowledgement.required_phrase"
  validateDecisionEnvelope prim body tenantId principal now
  let invalidationState := body.invalidationState.join.getD "none"
  refuse (invalidationState ∉ invalidationStates)
    ("invalid invalidation_state " ++ invalidationState)
  let sha256 ← canonicalDecisionAuthorityHash prim body residual expiresAt invalidationState
  let decisionId := (body.decisionId.filter (· ≠ "")).getD ("mad-" ++ fresh)
  refuse (expiresAt ≤ now) "decision expires_at must be strictly after store clock now"
  requireEnvelopeExpiry body expiresAt
  refuse (principal.any fun p => p.tenantId ≠ tenantId) "principal tenant_id mismatch"
  match s.decisions.find? decisionId with
  | some existing => do
    refuse (existing.decisionBodySha256 ≠ sha256)
      "managed acceptance decision body conflict for decision_id"
    let row ← loadDecision prim s decisionId
    pure (row, s)
  | none => do
    refuse (s.decisions.rows.any fun d => d.tenantId = tenantId && d.decisionBodySha256 = sha256)
      "UNIQUE constraint failed: tenant_id, decision_body_sha256"
    let row := draftRow tenantId body residual principal decisionId sha256 expiresAt now
    let s' := { s with decisions := s.decisions.insert row }
    let row ← loadDecision prim s' decisionId
    pure (row, s')

def EffectEnvelopeContract.decisionBody (e : EffectEnvelopeContract C) : DecisionBody C where
  schemaVersion := some effectEnvelopeSchemaVersion
  decisionId := some e.decisionId
  status := some "draft_pending_operator"
  requiredPhrase := some effectEnvelopeApprovalPhrase
  invalidationState := some (some "none")
  effectEnvelope := some e.body
  trialEnvelope := none
  rest := ""

def persistEffectEnvelope (p : AuthenticatedPrincipal)
    (e : EffectEnvelopeContract C) (residual : String) (fresh : String) (now : ℤ) :
    Except String (DecisionRow C × Store C) := do
  p.requireScope scopeRiskAcknowledge
  p.requireScope scopeSpendAuthorize
  refuse p.fixture "fixture principal cannot persist a production effect envelope"
  refuse (e.ownerPrincipalId ≠ p.principalId) "effect envelope owner principal mismatch"
  e.validate prim now
  upsertManagedAcceptanceDecision prim s p.tenantId e.decisionBody residual .draftPendingOperator
    (some p) (some e.expiresAt) fresh now

structure RiskAcknowledgementRequest where
  (decisionId expectedDecisionBodySha256 expectedResidualFindingSha256 submittedPhrase : String)
  explicitGo : Bool
deriving DecidableEq

variable (d : DecisionRow C)

/-- An envelope that is accepted is bound to its decision and to the principal. -/
def requireAcceptableEnvelope (p : AuthenticatedPrincipal) (now : ℤ) : Except String Unit :=
  match d.body.effectEnvelope with
  | none => .ok ()
  | some _ => do
    let e ← validateEffectEnvelopeBody prim d.body p.tenantId (some p) now
    refuse (d.decisionId ≠ e.decisionId) "effect envelope decision owner is mismatched"
    refuse (d.expiresAt ≠ e.expiresAt) "effect envelope decision expiry is mismatched"

def validateAcceptPreconditions (p : AuthenticatedPrincipal) (r : RiskAcknowledgementRequest)
    (d : DecisionRow C) (now : ℤ) : Except String ℤ := do
  refuse (d.tenantId ≠ p.tenantId) "decision tenant mismatch"
  refuse (d.status ≠ .draftPendingOperator && d.status ≠ .operatorAccepted)
    ("decision status " ++ d.status.text ++ " cannot be accepted")
  refuse (d.decisionBodySha256 ≠ r.expectedDecisionBodySha256) "decision_body_sha256 mismatch"
  refuse (d.residualFindingSha256 ≠ r.expectedResidualFindingSha256)
    "residual_finding_sha256 mismatch"
  refuse (d.expiresAt ≤ now) "decision expired"
  let phrase ← required d.body.requiredPhrase "decision missing acknowledgement.required_phrase"
  refuse (r.submittedPhrase ≠ phrase) "operator risk-acceptance phrase mismatch"
  requireAcceptableEnvelope prim d p now
  let expiresAt ← requireFiniteExpiry (some d.expiresAt)
  refuse (expiresAt ≤ now) "decision expired"
  pure expiresAt

def riskScope (r : RiskAcknowledgementRequest) (d : DecisionRow C) (expiresAt : ℤ) :
    RiskScope C where
  trialEnvelope := d.body.trialEnvelope
  effectEnvelope := d.body.effectEnvelope
  decisionId := r.decisionId
  decisionBodySha256 := r.expectedDecisionBodySha256
  residualFindingSha256 := r.expectedResidualFindingSha256
  expiresAt := expiresAt

def buildRiskAuthBody (authorizationId : String) (p : AuthenticatedPrincipal)
    (r : RiskAcknowledgementRequest) (scope : RiskScope C) (expiresAt : ℤ) : RiskAuthBody C where
  authorizationId := authorizationId
  decisionId := r.decisionId
  tenantId := p.tenantId
  principalKind := p.kind
  principalId := p.principalId
  decisionBodySha256 := r.expectedDecisionBodySha256
  residualFindingSha256 := r.expectedResidualFindingSha256
  scope := scope
  expiresAt := expiresAt
  executionGranted := false
  fixtureOnly := p.fixture

def authorizationRow (b : RiskAuthBody C) (sha256 : String) (now : ℤ) : AuthorizationRow C where
  authorizationId := b.authorizationId
  decisionId := b.decisionId
  tenantId := b.tenantId
  principalKind := b.principalKind
  principalId := b.principalId
  decisionBodySha256 := b.decisionBodySha256
  residualFindingSha256 := b.residualFindingSha256
  authorizationSha256 := sha256
  scope := b.scope
  status := .active
  executionGranted := false
  body := b
  createdAt := now
  updatedAt := now
  expiresAt := b.expiresAt
  revokedAt := none

def DecisionRow.accepted (p : AuthenticatedPrincipal) (now : ℤ) : DecisionRow C :=
  { d with
    status := .operatorAccepted
    principalKind := p.kind
    principalId := some p.principalId
    updatedAt := now }

/-- The authorization that an earlier acceptance by the same principal left. -/
def findAuthorization (p : AuthenticatedPrincipal) (r : RiskAcknowledgementRequest) :
    Option (AuthorizationRow C) :=
  s.authorizations.rows.find? fun a => a.decisionId = r.decisionId &&
    a.principalId = p.principalId && a.decisionBodySha256 = r.expectedDecisionBodySha256

def acceptOn (p : AuthenticatedPrincipal) (r : RiskAcknowledgementRequest)
    (d : DecisionRow C) (fresh : String) (now : ℤ) :
    Except String (AuthorizationRow C × Store C) := do
  let expiresAt ← validateAcceptPreconditions prim p r d now
  let scope := riskScope r d expiresAt
  match findAuthorization s p r with
  | some existing => do
    let existing ← loadAuthorization prim s existing.authorizationId
    refuse (existing.authorizationSha256 ≠ prim.authorizationSha256
        (buildRiskAuthBody existing.authorizationId p r scope expiresAt))
      "conflicting risk acknowledgement replay"
    pure (existing, s)
  | none => do
    refuse (d.status ≠ .draftPendingOperator)
      ("decision status " ++ d.status.text ++ " cannot receive first acceptance")
    let body := buildRiskAuthBody ("maa-" ++ fresh) p r scope expiresAt
    refuse (s.authorizations.contains body.authorizationId)
      "UNIQUE constraint failed: authorization_id"
    let row := authorizationRow body (prim.authorizationSha256 body) now
    let receipts ← persistTransition prim.transitionSha256 s.receipts d .draftPendingOperator
      .operatorAccepted p now "risk_acknowledgement_accepted"
    let s' := { s with
      decisions := s.decisions.insert (d.accepted p now)
      authorizations := s.authorizations.insert row
      receipts := receipts }
    let row ← loadAuthorization prim s' body.authorizationId
    pure (row, s')

def acceptManagedAcceptanceDecision (p : AuthenticatedPrincipal)
    (r : RiskAcknowledgementRequest) (fresh : String) (now : ℤ) :
    Except String (AuthorizationRow C × Store C) := do
  p.requireScope scopeRiskAcknowledge
  refuse (!r.explicitGo) "explicit_go required"
  refuse (isForbiddenPrincipalId p.principalId && !p.fixture) "forbidden principal"
  let d ← loadDecision prim s r.decisionId
  acceptOn prim s p r d fresh now

def AuthorizationRow.revoked (a : AuthorizationRow C) (now : ℤ) : AuthorizationRow C :=
  { a with status := .revoked, revokedAt := some now, updatedAt := now }

/-- What revoking an authorization does to a spend: the active ones under it go too. -/
def SpendRow.revokedUnder (authorizationId : String) (now : ℤ) (r : SpendRow C) : SpendRow C :=
  if r.riskAuthorizationId = authorizationId ∧ r.status = .active then
    { r with status := .revoked, revokedAt := some now, updatedAt := now }
  else r

def DecisionRow.withdrawn (now : ℤ) : DecisionRow C :=
  { d with status := .revoked, revokedAt := some now, updatedAt := now }

omit [AddCommMonoid C] [LinearOrder C] in
lemma SpendRow.revokedUnder_id {authorizationId : String} {now : ℤ} (r : SpendRow C) :
    (r.revokedUnder authorizationId now).spendAuthorizationId = r.spendAuthorizationId := by
  unfold revokedUnder
  split_ifs <;> rfl

def revokeManagedAcceptanceAuthorization (p : AuthenticatedPrincipal)
    (authorizationId : String) (now : ℤ) : Except String (AuthorizationRow C × Store C) := do
  p.requireScope scopeRevoke
  let a ← loadAuthorization prim s authorizationId
  refuse (a.principalId ≠ p.principalId && !p.hasScope "team:admin")
    "principal cannot revoke this authorization"
  let d ← loadDecision prim s a.decisionId
  let receipts ← persistTransition prim.transitionSha256 s.receipts d d.status .revoked p now
    "risk_authorization_revoked"
  let s' := { s with
    decisions := s.decisions.insert (d.withdrawn now)
    authorizations := s.authorizations.insert (a.revoked now)
    spends := s.spends.map (SpendRow.revokedUnder authorizationId now)
      SpendRow.revokedUnder_id
    receipts := receipts }
  let row ← loadAuthorization prim s' authorizationId
  pure (row, s')

end Harness.Acceptance
