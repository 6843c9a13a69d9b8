import Harness.Lib.TableGrowth
import Harness.Spec.AcceptanceRuns

/-! What an operation on the acceptance store can do, as one relation with the checks that were
passed, and what it leaves of each row: a row keeps its terms, a spend that is no longer active
and an attempt that has ended stay as they are. -/

namespace Harness.Acceptance

open Lib
open Delegated (SpendStatus TerminalStatus)

variable {C : Type}

/-- A decision without the columns that change. -/
def DecisionRow.terms (d : DecisionRow C) : DecisionRow C :=
  { d with
    status := .draftPendingOperator
    principalKind := .operatorApiKey
    principalId := none
    updatedAt := 0
    revokedAt := none }

def AuthorizationRow.terms (a : AuthorizationRow C) : AuthorizationRow C :=
  { a with status := .active, updatedAt := 0, revokedAt := none }

def SpendRow.terms (r : SpendRow C) : SpendRow C :=
  { r with
    status := .active
    updatedAt := 0
    consumedAt := none
    consumedByAttemptId := none
    revokedAt := none }

def AttemptRow.terms (t : AttemptRow C) : AttemptRow C :=
  { t with
    status := .admitted
    terminalClass := none
    receipt := none
    receiptSha256 := none
    updatedAt := 0 }

structure DecisionFollows (d d' : DecisionRow C) : Prop where
  terms : d'.terms = d.terms
  decided : d.status ≠ .draftPendingOperator →
    d'.status ≠ .draftPendingOperator ∧ d'.principalId = d.principalId
  staysRevoked : d.status = .revoked → d'.status = .revoked

structure AuthorizationFollows (a a' : AuthorizationRow C) : Prop where
  terms : a'.terms = a.terms
  staysRevoked : a.status = .revoked → a'.status = .revoked

structure SpendFollows (r r' : SpendRow C) : Prop where
  terms : r'.terms = r.terms
  closed : r.status ≠ .active → r' = r

structure AttemptFollows (t t' : AttemptRow C) : Prop where
  terms : t'.terms = t.terms
  ended : t.status ≠ .admitted → t' = t

lemma DecisionFollows.refl (d : DecisionRow C) : DecisionFollows d d :=
  ⟨rfl, fun h => ⟨h, rfl⟩, id⟩

lemma DecisionFollows.trans {a b c : DecisionRow C} (h1 : DecisionFollows a b)
    (h2 : DecisionFollows b c) : DecisionFollows a c where
  terms := h2.terms.trans h1.terms
  decided h := by
    obtain ⟨hb, hp⟩ := h1.decided h
    obtain ⟨hc, hp'⟩ := h2.decided hb
    exact ⟨hc, hp'.trans hp⟩
  staysRevoked h := h2.staysRevoked (h1.staysRevoked h)

lemma AuthorizationFollows.refl (a : AuthorizationRow C) : AuthorizationFollows a a := ⟨rfl, id⟩

variable {a a' : AuthorizationRow C} {t t' : AttemptRow C}

lemma AuthorizationFollows.trans {b c : AuthorizationRow C} (h1 : AuthorizationFollows a b)
    (h2 : AuthorizationFollows b c) : AuthorizationFollows a c :=
  ⟨h2.terms.trans h1.terms, fun h => h2.staysRevoked (h1.staysRevoked h)⟩

lemma SpendFollows.refl (r : SpendRow C) : SpendFollows r r := ⟨rfl, fun _ => rfl⟩

lemma SpendFollows.trans {a b c : SpendRow C} (h1 : SpendFollows a b) (h2 : SpendFollows b c) :
    SpendFollows a c where
  terms := h2.terms.trans h1.terms
  closed h := by
    have hb := h1.closed h
    rw [← hb] at h
    exact (h2.closed h).trans hb

lemma AttemptFollows.refl (t : AttemptRow C) : AttemptFollows t t := ⟨rfl, fun _ => rfl⟩

lemma AttemptFollows.trans {a b c : AttemptRow C} (h1 : AttemptFollows a b)
    (h2 : AttemptFollows b c) : AttemptFollows a c where
  terms := h2.terms.trans h1.terms
  ended h := by
    have hb := h1.ended h
    rw [← hb] at h
    exact (h2.ended h).trans hb

lemma DecisionFollows.accepted {d : DecisionRow C} {p : AuthenticatedPrincipal} {now : ℤ}
    (h : d.status = .draftPendingOperator) : DecisionFollows d (d.accepted p now) := by
  refine ⟨rfl, fun hd => absurd h hd, fun hd => ?_⟩
  rw [h] at hd
  cases hd

variable {d : DecisionRow C} {r r' : SpendRow C} {now : ℤ}

lemma DecisionFollows.withdrawn : DecisionFollows d (d.withdrawn now) :=
  ⟨rfl, fun _ => ⟨nofun, rfl⟩, fun _ => rfl⟩

lemma AuthorizationFollows.revoked {a : AuthorizationRow C} {now : ℤ} :
    AuthorizationFollows a (a.revoked now) :=
  ⟨rfl, fun _ => rfl⟩

lemma SpendFollows.consumed {attemptId : String} (h : r.status = .active) :
    SpendFollows r (r.consumed attemptId now) :=
  ⟨rfl, fun hr => absurd h hr⟩

lemma SpendFollows.revokedUnder {id : String} (r : SpendRow C) :
    SpendFollows r (r.revokedUnder id now) := by
  unfold SpendRow.revokedUnder
  split_ifs with h
  · exact ⟨rfl, fun hr => absurd h.2 hr⟩
  · exact .refl r

lemma AttemptFollows.completed {status : TerminalStatus} {terminalClass sha256 : String}
    {receipt : AttemptReceipt} (h : t.status = .admitted) :
    AttemptFollows t (t.completed status terminalClass receipt sha256 now) :=
  ⟨rfl, fun ht => absurd h ht⟩

lemma DecisionFollows.decisionId {d' : DecisionRow C} (h : DecisionFollows d d') :
    d'.decisionId = d.decisionId := (congrArg DecisionRow.decisionId h.terms :)

lemma DecisionFollows.body {d' : DecisionRow C} (h : DecisionFollows d d') : d'.body = d.body :=
  (congrArg DecisionRow.body h.terms :)

namespace AuthorizationFollows

variable (h : AuthorizationFollows a a')
include h

lemma authorizationId : a'.authorizationId = a.authorizationId :=
  (congrArg AuthorizationRow.authorizationId h.terms :)

lemma decisionId : a'.decisionId = a.decisionId := (congrArg AuthorizationRow.decisionId h.terms :)

lemma principalId : a'.principalId = a.principalId :=
  (congrArg AuthorizationRow.principalId h.terms :)

lemma scope : a'.scope = a.scope :=
  (congrArg AuthorizationRow.scope h.terms :)

lemma executionGranted : a'.executionGranted = a.executionGranted :=
  (congrArg AuthorizationRow.executionGranted h.terms :)

end AuthorizationFollows

namespace SpendFollows

variable (h : SpendFollows r r')
include h

lemma spendAuthorizationId : r'.spendAuthorizationId = r.spendAuthorizationId :=
  (congrArg SpendRow.spendAuthorizationId h.terms :)

lemma decisionId : r'.decisionId = r.decisionId :=
  (congrArg SpendRow.decisionId h.terms :)

lemma riskAuthorizationId : r'.riskAuthorizationId = r.riskAuthorizationId :=
  (congrArg SpendRow.riskAuthorizationId h.terms :)

lemma body : r'.body = r.body :=
  (congrArg SpendRow.body h.terms :)

end SpendFollows

namespace AttemptFollows

variable (h : AttemptFollows t t')
include h

lemma attemptId : t'.attemptId = t.attemptId :=
  (congrArg AttemptRow.attemptId h.terms :)

lemma authorizationId : t'.authorizationId = t.authorizationId :=
  (congrArg AttemptRow.authorizationId h.terms :)

lemma spendAuthorizationId : t'.spendAuthorizationId = t.spendAuthorizationId :=
  (congrArg AttemptRow.spendAuthorizationId h.terms :)

lemma attemptBodySha256 : t'.attemptBodySha256 = t.attemptBodySha256 :=
  (congrArg AttemptRow.attemptBodySha256 h.terms :)

lemma body : t'.body = t.body :=
  (congrArg AttemptRow.body h.terms :)

end AttemptFollows

/-- Every row of `s` is in `s'` and follows from what it was. -/
structure Follows (s s' : Store C) : Prop where
  decisions : s.decisions.Grows DecisionFollows s'.decisions
  authorizations : s.authorizations.Grows AuthorizationFollows s'.authorizations
  spends : s.spends.Grows SpendFollows s'.spends
  attempts : s.attempts.Grows AttemptFollows s'.attempts

lemma Follows.refl (s : Store C) : Follows s s :=
  ⟨.refl .refl _, .refl .refl _, .refl .refl _, .refl .refl _⟩

lemma Follows.trans {a b c : Store C} (h1 : Follows a b) (h2 : Follows b c) : Follows a c where
  decisions := h1.decisions.trans (fun _ _ _ => .trans) h2.decisions
  authorizations := h1.authorizations.trans (fun _ _ _ => .trans) h2.authorizations
  spends := h1.spends.trans (fun _ _ _ => .trans) h2.spends
  attempts := h1.attempts.trans (fun _ _ _ => .trans) h2.attempts

section Changes

variable [AddCommMonoid C] [LinearOrder C] (prim : Primitives C)

/-- How an attempt's row names its body. -/
structure Recorded (t : AttemptRow C) : Prop where
  sha256 : t.attemptBodySha256 = prim.attemptSha256 t.body
  effect : ∀ b, t.body = .effect b → b.attemptId = t.attemptId

/-- A new spend under an active authorization: the row of an issued or a derived body. -/
structure NewSpend (s : Store C) (a : AuthorizationRow C) (row : SpendRow C) : Prop where
  authorization : s.authorizations.find? row.riskAuthorizationId = some a
  active : a.status = .active
  fresh : s.spends.find? row.spendAuthorizationId = none
  status : row.status = .active
  unused : row.consumedByAttemptId = none
  owner : validateSpendRiskOwner row a = .ok ()
  intact : row.validateOwnerIntegrity prim = .ok ()

structure Derivation (s : Store C) (a : AuthorizationRow C) (d : DecisionRow C)
    (p : AuthenticatedPrincipal) (e : EffectEnvelopeContract C)
    (request : EffectChildAuthorizationRequest C) (now : ℤ) (body : SpendBody C) : Prop where
  decision : s.decisions.find? a.decisionId = some d
  production : p.fixture = false
  parent : effectParentFromAuthority prim a d p now = .ok e
  requested : ∃ expiresAt, request.validateAgainst prim e now = .ok expiresAt ∧
    body = (effectChildTerms prim p a d e request expiresAt now).withIdentity prim
  room : ∃ childCount reservedCost,
    scanChildren e.envelopeId request.childAuthorizationId body (siblings s a) 0 0 =
      .ok (.inr (childCount, reservedCost)) ∧
    requireRoom prim s a e childCount reservedCost request.maxCostUsd = .ok ()

/-- What an operation makes of the store, and what it checked before. -/
inductive Change (s : Store C) : Store C → Prop where
  | drafted {d : DecisionRow C} (fresh : s.decisions.find? d.decisionId = none)
      (draft : d.status = .draftPendingOperator)
      (intact : d.validateOwnerIntegrity prim = .ok ())
      (envelope : ∃ principal now, validateDecisionEnvelope prim d.body d.tenantId principal now =
        .ok ()) :
      Change s { s with decisions := s.decisions.insert d }
  | accepted {p : AuthenticatedPrincipal} {r : RiskAcknowledgementRequest} {d : DecisionRow C}
      {body : RiskAuthBody C} {fresh : String} {now expiresAt : ℤ}
      {receipts : List TransitionReceipt}
      (decision : s.decisions.find? r.decisionId = some d)
      (checked : validateAcceptPreconditions prim p r d now = .ok expiresAt)
      (draft : d.status = .draftPendingOperator)
      (built : body = buildRiskAuthBody ("maa-" ++ fresh) p r (riskScope r d expiresAt) expiresAt)
      (unused : s.authorizations.find? body.authorizationId = none)
      (recorded : persistTransition prim.transitionSha256 s.receipts d .draftPendingOperator
        .operatorAccepted p now "risk_acknowledgement_accepted" = .ok receipts)
      (intact : (authorizationRow body (prim.authorizationSha256 body) now).validateOwnerIntegrity
        prim = .ok ()) :
      Change s { s with
        decisions := s.decisions.insert (d.accepted p now)
        authorizations := s.authorizations.insert
          (authorizationRow body (prim.authorizationSha256 body) now)
        receipts := receipts }
  | issued {a : AuthorizationRow C} {row : SpendRow C} {fields : Fields C}
      (spend : NewSpend prim s a row) (trial : row.body.terms = .trial fields) :
      Change s { s with spends := s.spends.insert row }
  | derived {a : AuthorizationRow C} {d : DecisionRow C} {p : AuthenticatedPrincipal}
      {e : EffectEnvelopeContract C} {request : EffectChildAuthorizationRequest C} {now : ℤ}
      {body : SpendBody C} (spend : NewSpend prim s a (spendRow body (prim.spendSha256 body) now))
      (checked : Derivation prim s a d p e request now body) :
      Change s { s with spends := s.spends.insert (spendRow body (prim.spendSha256 body) now) }
  | attempted {r : SpendRow C} {t : AttemptRow C} {now : ℤ}
      (spend : s.spends.find? t.spendAuthorizationId = some r) (active : r.status = .active)
      (authorization : t.authorizationId = r.riskAuthorizationId)
      (fresh : s.attempts.find? t.attemptId = none) (recorded : Recorded prim t) :
      Change s { s with
        spends := s.spends.insert (r.consumed t.attemptId now)
        attempts := s.attempts.insert t }
  | completed {t : AttemptRow C} {status : TerminalStatus} {terminalClass sha256 : String}
      {receipt : AttemptReceipt} {now : ℤ} (attempt : s.attempts.find? t.attemptId = some t)
      (running : t.status = .admitted) :
      Change s { s with
        attempts := s.attempts.insert (t.completed status terminalClass receipt sha256 now) }
  | revoked {a : AuthorizationRow C} {d : DecisionRow C} {p : AuthenticatedPrincipal} {now : ℤ}
      {receipts : List TransitionReceipt}
      (authorization : s.authorizations.find? a.authorizationId = some a)
      (decision : s.decisions.find? a.decisionId = some d)
      (recorded : persistTransition prim.transitionSha256 s.receipts d d.status .revoked p now
        "risk_authorization_revoked" = .ok receipts) :
      Change s { s with
        decisions := s.decisions.insert (d.withdrawn now)
        authorizations := s.authorizations.insert (a.revoked now)
        spends := s.spends.map (SpendRow.revokedUnder a.authorizationId now)
          SpendRow.revokedUnder_id
        receipts := receipts }

variable {prim} {s s' : Store C}

/-- Every change leaves the rows that there were. -/
lemma Change.follows (h : Change prim s s') : Follows s s' := by
  cases h with
  | drafted fresh =>
    exact ⟨.insert_new .refl fresh, .refl .refl _, .refl .refl _, .refl .refl _⟩
  | accepted decision checked draft built unused =>
    refine ⟨?_, .insert_new .refl unused, .refl .refl _, .refl .refl _⟩
    exact .insert_update .refl decision (.accepted draft) rfl
  | issued spend =>
    exact ⟨.refl .refl _, .refl .refl _, .insert_new .refl spend.fresh, .refl .refl _⟩
  | derived spend =>
    exact ⟨.refl .refl _, .refl .refl _, .insert_new .refl spend.fresh, .refl .refl _⟩
  | attempted spend active authorization fresh =>
    refine ⟨.refl .refl _, .refl .refl _, ?_, .insert_new .refl fresh⟩
    exact .insert_update .refl spend (.consumed active) rfl
  | completed attempt running =>
    refine ⟨.refl .refl _, .refl .refl _, .refl .refl _, ?_⟩
    exact .insert_update .refl attempt (.completed running) rfl
  | revoked authorization decision =>
    refine ⟨?_, ?_, ?_, .refl .refl _⟩
    · exact .insert_update .refl decision .withdrawn rfl
    · exact .insert_update .refl authorization .revoked rfl
    · exact .map SpendRow.revokedUnder_id fun r _ => .revokedUnder r

end Changes

end Harness.Acceptance
