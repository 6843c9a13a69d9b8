import Harness.Spec.EffectChildren

/-! Runs of the store: any operations in any order, each at a clock of its own. -/

namespace Harness.Acceptance

open Delegated (TerminalStatus)

variable {C : Type} [AddCommMonoid C] [LinearOrder C] (prim : Primitives C)

inductive Op (C : Type) where
  | upsert (tenantId : String) (body : DecisionBody C) (residual : String)
      (status : DecisionStatus) (principal : Option AuthenticatedPrincipal)
      (expiresAt : Option ℤ) (fresh : String) (now : ℤ)
  | persistEnvelope (p : AuthenticatedPrincipal) (e : EffectEnvelopeContract C)
      (residual fresh : String) (now : ℤ)
  | accept (p : AuthenticatedPrincipal) (r : RiskAcknowledgementRequest) (fresh : String) (now : ℤ)
  | issue (p : AuthenticatedPrincipal) (r : SpendAuthorizationRequest C) (fresh : String) (now : ℤ)
  | derive (p : AuthenticatedPrincipal) (parentId : String)
      (r : EffectChildAuthorizationRequest C) (now : ℤ)
  | settle (p : AuthenticatedPrincipal) (childId attemptId : String) (status : TerminalStatus)
      (evidence : OutcomeEvidence) (now : ℤ)
  /-- The public entry, and the internal one with its flag for dry runs. -/
  | admitAttempt (p : AuthenticatedPrincipal) (attemptId : String) (body : AdmissionBody C)
      (spendId fresh : String) (now : ℤ)
  | admitInternal (p : AuthenticatedPrincipal) (attemptId : String) (body : AdmissionBody C)
      (spendId : String) (allowFixtureDryRun : Bool) (fresh : String) (now : ℤ)
  | complete (attemptId leaseToken : String) (status : TerminalStatus)
      (terminalClass receipt : String) (now : ℤ)
  | revoke (p : AuthenticatedPrincipal) (authorizationId : String) (now : ℤ)

/-- What an operation makes of the store, if it is not refused. -/
def Op.apply (op : Op C) (s : Store C) : Except String (Store C) :=
  match op with
  | .upsert tenantId body residual status principal expiresAt fresh now =>
    Prod.snd <$> upsertManagedAcceptanceDecision prim s tenantId body residual status principal
      expiresAt fresh now
  | .persistEnvelope p e residual fresh now =>
    Prod.snd <$> persistEffectEnvelope prim s p e residual fresh now
  | .accept p r fresh now => Prod.snd <$> acceptManagedAcceptanceDecision prim s p r fresh now
  | .issue p r fresh now =>
    Prod.snd <$> issueManagedAcceptanceSpendAuthorization prim s p r fresh now
  | .derive p parentId r now => Prod.snd <$> deriveEffectChildAuthorization prim s p parentId r now
  | .settle p childId attemptId status evidence now =>
    Prod.snd <$> settleEffectChildAuthorization prim s p childId attemptId status evidence now
  | .admitAttempt p attemptId body spendId fresh now =>
    Prod.snd <$> admitManagedAcceptanceAttempt prim s p attemptId body spendId fresh now
  | .admitInternal p attemptId body spendId allowFixtureDryRun fresh now =>
    Prod.snd <$> admitManagedAcceptanceAttemptInternal prim s p attemptId body spendId
      allowFixtureDryRun fresh now
  | .complete attemptId leaseToken status terminalClass receipt now =>
    Prod.snd <$> completeManagedAcceptanceAttempt prim s attemptId leaseToken status terminalClass
      receipt now
  | .revoke p authorizationId now =>
    Prod.snd <$> revokeManagedAcceptanceAuthorization prim s p authorizationId now

def step (s : Store C) (op : Op C) : Store C :=
  match op.apply prim s with
  | .error _ => s
  | .ok s' => s'

def run (s : Store C) (ops : List (Op C)) : Store C := ops.foldl (step prim) s

end Harness.Acceptance
