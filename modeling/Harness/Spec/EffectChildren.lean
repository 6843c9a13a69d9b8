import Harness.Spec.SpendAdmission

/-! Effect envelopes at work: deriving a one-use child from an accepted envelope and settling
its outcome. -/

namespace Harness.Acceptance

open Lib
open Delegated (isBlank SpendStatus TerminalStatus)

variable {C : Type} [AddCommMonoid C] [LinearOrder C] (prim : Primitives C)

def effectParentFromAuthority (a : AuthorizationRow C) (d : DecisionRow C)
    (p : AuthenticatedPrincipal) (now : ℤ) : Except String (EffectEnvelopeContract C) := do
  refuse (a.status ≠ .active) "effect parent authorization is not active"
  refuse (a.tenantId ≠ p.tenantId) "effect parent authorization tenant mismatch"
  refuse (a.principalKind ≠ .operatorApiKey || a.executionGranted)
    "effect parent authorization is not an owner risk receipt"
  refuse (d.status ≠ .operatorAccepted) "effect parent decision is not owner accepted"
  validateRiskDecisionOwner a d
  let e ← validateEffectEnvelopeBody prim d.body p.tenantId none now
  refuse (d.decisionId ≠ e.decisionId || d.principalId ≠ some e.ownerPrincipalId ||
      a.principalId ≠ e.ownerPrincipalId || p.principalId ≠ e.ownerPrincipalId)
    "effect parent owner binding is stale or mismatched"
  refuse (d.expiresAt ≠ e.expiresAt) "effect parent expiry is stale or mismatched"
  refuse (a.scope.effectEnvelope ≠ some e.body)
    "effect parent authorization scope is stale or mismatched"
  pure e

/-- The body of a child before its logical identity is put in. -/
def effectChildTerms (p : AuthenticatedPrincipal) (a : AuthorizationRow C) (d : DecisionRow C)
    (e : EffectEnvelopeContract C) (r : EffectChildAuthorizationRequest C) (expiresAt now : ℤ) :
    SpendBody C where
  spendAuthorizationId := r.childAuthorizationId
  decisionId := d.decisionId
  riskAuthorizationId := a.authorizationId
  riskAuthorizationSha256 := a.authorizationSha256
  decisionBodySha256 := d.decisionBodySha256
  residualFindingSha256 := d.residualFindingSha256
  tenantId := p.tenantId
  principalKind := p.kind
  principalId := p.principalId
  logicalAuthorizationSha256 := none
  fixtureOnly := false
  createdAt := some now
  expiresAt := expiresAt
  terms := .effect
    { childAuthorizationId := r.childAuthorizationId
      parentEnvelopeId := e.envelopeId
      parentEnvelopeSha256 := prim.envelopeSha256 e
      parentEnvelope := e.body
      effectKind := r.effectKind
      operationId := r.operationId
      targetRepository := r.targetRepository
      targetMainSha := r.targetMainSha
      maxCostUsd := r.maxCostUsd
      oneUse := true
      outcomeUnknownRetry := false }

def effectChildBody (p : AuthenticatedPrincipal) (a : AuthorizationRow C) (d : DecisionRow C)
    (e : EffectEnvelopeContract C) (r : EffectChildAuthorizationRequest C) (expiresAt now : ℤ) :
    Except String (SpendBody C) := do
  refuse (a.authorizationId = "") "authorization_id required"
  refuse (a.authorizationSha256 = "") "authorization_sha256 required"
  refuse (d.decisionId = "") "decision_id required"
  refuse (d.decisionBodySha256 = "") "decision_body_sha256 required"
  refuse (d.residualFindingSha256 = "") "residual_finding_sha256 required"
  pure (effectChildTerms prim p a d e r expiresAt now)

def SpendBody.withIdentity (b : SpendBody C) : SpendBody C :=
  { b with logicalAuthorizationSha256 := some (stableSpendAuthorizationIdentity prim b) }

/-- What two requests for one child must agree on. -/
def SpendBody.replayIdentity (b : SpendBody C) : SpendBody C :=
  { b with spendAuthorizationId := "", logicalAuthorizationSha256 := none, createdAt := none }

structure EffectChildReceipt (C : Type) where
  child : EffectChild C
  expiresAt : ℤ
  (spendAuthorizationId spendBodySha256 : String)
  status : SpendStatus
  replayed : Bool
deriving DecidableEq

variable (r : SpendRow C)

def effectChildReceipt (child : EffectChild C) (b : SpendBody C)
    (replayed : Bool) : EffectChildReceipt C :=
  ⟨child, b.expiresAt, r.spendAuthorizationId, r.spendBodySha256, r.status, replayed⟩

def SpendRow.childOf? (envelopeId : String) : Option (EffectChild C) :=
  match r.body.terms with
  | .trial _ => none
  | .effect child => if child.parentEnvelopeId = envelopeId then some child else none

variable (s : Store C)

/-- The spends under an authorization, whatever their status. -/
def siblings (a : AuthorizationRow C) : List (SpendRow C) :=
  s.spends.rows.filter fun r => r.riskAuthorizationId = a.authorizationId &&
    r.decisionId = a.decisionId

/-- The loop over the spends under the parent: the stored child that the request repeats, or
how many children there are and what they cost together. -/
def scanChildren (envelopeId childId : String) (body : SpendBody C) :
    List (SpendRow C) → (childCount : ℕ) → (reservedCost : C) →
      Except String ((SpendRow C × EffectChild C) ⊕ (ℕ × C))
  | [], childCount, reservedCost => .ok (.inr (childCount, reservedCost))
  | r :: rest, childCount, reservedCost =>
    match r.childOf? envelopeId with
    | none => scanChildren envelopeId childId body rest childCount reservedCost
    | some child =>
      if child.maxCostUsd < 0 then .error "persisted effect child cost is invalid"
      else if child.childAuthorizationId = childId then
        if r.body.replayIdentity ≠ body.replayIdentity then
          .error "effect child id is bound to a conflicting request"
        else if r.status ≠ .active then .error "effect child is already consumed or terminal"
        else .ok (.inl (r, child))
      else
        scanChildren envelopeId childId body rest (childCount + 1) (reservedCost + child.maxCostUsd)

def unknownAttempt (authorizationId : String) : Option (AttemptRow C) :=
  s.attempts.rows.find? fun t => t.status = .ended .outcomeUnknown &&
    (s.spends.find? t.spendAuthorizationId).any fun r => r.riskAuthorizationId = authorizationId

def requireRoom (a : AuthorizationRow C) (e : EffectEnvelopeContract C)
    (childCount : ℕ) (reservedCost maxCostUsd : C) : Except String Unit := do
  (unknownAttempt s a.authorizationId).forM fun t =>
    .error ("effect parent has outcome_unknown attempt " ++ t.attemptId ++
      "; child derivation is not retryable")
  refuse (e.maxChildAuthorizations ≤ childCount)
    "effect parent child-authorization limit exhausted"
  refuse (e.maxTotalCostUsd + prim.epsilon < reservedCost + maxCostUsd)
    "effect parent total budget would be exceeded"

def deriveEffectChildAuthorization (p : AuthenticatedPrincipal)
    (parentId : String) (r : EffectChildAuthorizationRequest C) (now : ℤ) :
    Except String (EffectChildReceipt C × Store C) := do
  p.requireScope scopeDelegatedExecute
  p.requireScope scopeAttemptAdmit
  refuse p.fixture "fixture principal cannot derive a production effect child"
  let a ← loadAuthorization prim s parentId
  let d ← loadDecision prim s a.decisionId
  let e ← effectParentFromAuthority prim a d p now
  let expiresAt ← r.validateAgainst prim e now
  let draft ← effectChildBody prim p a d e r expiresAt now
  let body := draft.withIdentity prim
  match ← scanChildren e.envelopeId r.childAuthorizationId body (siblings s a) 0 0 with
  | .inl (existing, child) => do
    let loaded ← loadSpend prim s existing.spendAuthorizationId
    pure (effectChildReceipt loaded child existing.body true, s)
  | .inr (childCount, reservedCost) => do
    requireRoom prim s a e childCount reservedCost r.maxCostUsd
    let row := spendRow body (prim.spendSha256 body) now
    refuse (spendConflicts s row) "UNIQUE constraint failed"
    let s' := { s with spends := s.spends.insert row }
    let loaded ← loadSpend prim s' r.childAuthorizationId
    let child ← required (loaded.childOf? e.envelopeId) "effect child body is missing"
    pure (effectChildReceipt loaded child body false, s')

/-- The part of the check that is about the child's own terms. -/
def requireSettledTerms (b : SpendBody C) (child : EffectChild C) (e : EffectEnvelopeContract C)
    (p : AuthenticatedPrincipal) : Except String Unit := do
  [("effect_kind", child.effectKind, e.effectKind),
    ("target_repository", child.targetRepository, e.targetRepository),
    ("target_main_sha", child.targetMainSha, e.targetMainSha)].forM fun field =>
      refuse (field.2.1 ≠ field.2.2) ("effect child " ++ field.1 ++ " is stale or mismatched")
  refuse (child.maxCostUsd < 0 || e.maxTotalCostUsd < child.maxCostUsd)
    "effect child max_cost_usd exceeds parent envelope"
  let expiresAt ← requireFiniteExpiry (some b.expiresAt)
  refuse (e.expiresAt < expiresAt) "effect child expiry exceeds parent envelope"
  refuse (!child.oneUse || child.outcomeUnknownRetry || b.fixtureOnly)
    "effect child one-use or no-retry binding is invalid"
  refuse (b.principalId ≠ p.principalId || b.principalKind ≠ p.kind)
    "effect child owner binding is stale or mismatched"

/-- The clock of the envelope's check is its own creation: settling is allowed after the window
has closed. -/
def validateEffectChildForSettlement (a : AuthorizationRow C) (d : DecisionRow C)
    (p : AuthenticatedPrincipal) : Except String (EffectChild C) := do
  refuse (r.tenantId ≠ p.tenantId || r.principalId ≠ p.principalId || r.principalKind ≠ p.kind)
    "effect child settlement principal binding is invalid"
  refuse r.fixtureOnly "effect child settlement cannot use fixture authority"
  refuse (a.status = .consumed) "effect parent authorization has an invalid terminal state"
  validateSpendRiskOwner r a
  validateRiskDecisionOwner a d
  match r.body.terms with
  | .trial _ => throw "effect child body schema_version is invalid"
  | .effect child => do
    refuse (child.childAuthorizationId ≠ r.spendAuthorizationId)
      "effect child id is not bound to its spend row"
    refuse (r.body.spendAuthorizationId ≠ r.spendAuthorizationId)
      "effect child spend id is not self-bound"
    let embedded ← required d.body.effectEnvelope "effect parent decision has no effect envelope"
    let hint ← required embedded.contract "effect parent envelope is malformed"
    let e ← validateEffectEnvelopeBody prim d.body p.tenantId none hint.createdAt
    refuse (a.principalId ≠ e.ownerPrincipalId || d.principalId ≠ some e.ownerPrincipalId ||
      p.principalId ≠ e.ownerPrincipalId) "effect parent owner binding is stale or mismatched"
    refuse (d.decisionId ≠ e.decisionId || r.body.decisionId ≠ e.decisionId)
      "effect child decision binding is stale or mismatched"
    refuse (r.body.riskAuthorizationId ≠ a.authorizationId)
      "effect child parent authorization binding is stale"
    refuse (child.parentEnvelope ≠ e.body || child.parentEnvelopeSha256 ≠ prim.envelopeSha256 e)
      "effect child parent envelope hash binding is invalid"
    refuse (a.scope.effectEnvelope ≠ some e.body)
      "effect parent authorization scope is stale or mismatched"
    requireSettledTerms r.body child e p
    pure child

/-- Evidence for an outcome is a digest of the child's id: it never says that the effect ran. -/
def validateEffectOutcomeEvidence (evidence : OutcomeEvidence) : Except String Unit := do
  let payload := evidence.evidence
  refuse (payload.kind ≠ "provider_free_canary")
    "effect outcome evidence kind is not provider_free_canary"
  refuse (isBlank prim.isWhitespace payload.childAuthorizationId ||
      256 < payload.childAuthorizationId.toList.length || payload.effectExecuted)
    "effect outcome evidence metadata values are invalid"
  refuse (maxEffectOutcomeEvidenceBytes < (prim.payloadJson payload).utf8ByteSize ||
      prim.containsSensitivePatterns (prim.payloadJson payload))
    "effect outcome evidence metadata is oversized or sensitive"
  refuse (!isHexOfLength 64 evidence.evidenceSha256)
    "effect outcome evidence_sha256 must be 64 hex chars"
  refuse (evidence.evidenceSha256 ≠ prim.sha256Text (prim.payloadJson payload))
    "effect outcome evidence_sha256 does not match evidence metadata"

def effectTerminalClass : TerminalStatus → String
  | .succeeded => "effect_succeeded"
  | .failed => "effect_failed"
  | .outcomeUnknown => "effect_outcome_unknown"
  | _ => "effect_invalid"

def effectOutcomeReceipt (child : EffectChild C) (attemptId : String)
    (status : TerminalStatus) (evidence : OutcomeEvidence) : AttemptReceipt :=
  .outcome
    { childAuthorizationId := child.childAuthorizationId
      spendAuthorizationId := r.spendAuthorizationId
      parentEnvelopeId := child.parentEnvelopeId
      attemptId := attemptId
      operationId := child.operationId
      outcome := status
      evidence := evidence }

def effectAttemptBody (child : EffectChild C) (attemptId : String)
    (status : TerminalStatus) (receiptSha256 : String) : AttemptBody C :=
  .effect
    { attemptId := attemptId
      childAuthorizationId := child.childAuthorizationId
      spendAuthorizationId := r.spendAuthorizationId
      decisionId := r.decisionId
      riskAuthorizationId := r.riskAuthorizationId
      operationId := child.operationId
      effectKind := child.effectKind
      targetRepository := child.targetRepository
      targetMainSha := child.targetMainSha
      maxCostUsd := child.maxCostUsd
      status := status
      terminalClass := effectTerminalClass status
      receiptSha256 := receiptSha256 }

def settledRow (child : EffectChild C) (p : AuthenticatedPrincipal)
    (attemptId : String) (status : TerminalStatus) (evidence : OutcomeEvidence) (now : ℤ) :
    AttemptRow C :=
  let receipt := effectOutcomeReceipt r child attemptId status evidence
  let body := effectAttemptBody r child attemptId status (prim.receiptSha256 receipt)
  { attemptId := attemptId
    tenantId := p.tenantId
    productTaskId := none
    workflowNodeId := none
    executionId := child.operationId
    decisionId := r.decisionId
    authorizationId := r.riskAuthorizationId
    spendAuthorizationId := r.spendAuthorizationId
    manifestSha256 := r.spendBodySha256
    attemptBodySha256 := prim.attemptSha256 body
    status := .ended status
    terminalClass := some (effectTerminalClass status)
    body := body
    receipt := some receipt
    receiptSha256 := some (prim.receiptSha256 receipt)
    leaseToken := none
    createdAt := now
    updatedAt := now }

/-- A second settlement of an attempt only repeats the first. -/
def settleAgain (r : SpendRow C) (existing row : AttemptRow C) :
    Except String (AttemptReply C × Store C) := do
  refuse (existing.spendAuthorizationId ≠ row.spendAuthorizationId)
    "attempt_id is already bound to another effect child"
  refuse (!(existing.status = row.status && existing.terminalClass = row.terminalClass &&
    existing.receiptSha256 = row.receiptSha256)) "late or conflicting effect child settlement"
  refuse (r.status ≠ .consumed || r.consumedByAttemptId ≠ some row.attemptId)
    "effect child attempt replay has inconsistent spend state"
  pure (⟨existing, true⟩, s)

def settleEffectChildAuthorization (p : AuthenticatedPrincipal)
    (childId attemptId : String) (status : TerminalStatus) (evidence : OutcomeEvidence)
    (now : ℤ) : Except String (AttemptReply C × Store C) := do
  p.requireScope scopeDelegatedExecute
  p.requireScope scopeAttemptAdmit
  refuse p.fixture "fixture principal cannot settle a production effect child"
  refuse (status ∉ [TerminalStatus.succeeded, .failed, .outcomeUnknown])
    "effect child outcome must be succeeded, failed, or outcome_unknown"
  validateEffectOutcomeEvidence prim evidence
  let r ← loadSpend prim s childId
  let a ← loadAuthorization prim s r.riskAuthorizationId
  let d ← loadDecision prim s r.decisionId
  let child ← validateEffectChildForSettlement prim r a d p
  refuse (evidence.evidence.childAuthorizationId ≠ childId)
    "effect outcome evidence child binding is invalid"
  let row := settledRow prim r child p attemptId status evidence now
  match findAttempt s p.tenantId attemptId with
  | some existing => settleAgain s r existing row
  | none => do
    refuse (r.status ≠ .active) "effect child is not active and cannot be settled"
    let s' ← recordAttempt s r row now
    pure (⟨row, false⟩, s')

end Harness.Acceptance
