import Harness.Sanity.AcceptanceOwners
import Harness.Sanity.TransitionChain

/-! The audit chain of a decision: the validator accepts the receipts that a run leaves, unless a
revocation was repeated. -/

namespace Harness.Acceptance

open Lib Table List

section Runs

variable {C : Type} {prim : Primitives C} {s s' : Store C}

/-- Every decision has a chain, and every receipt a decision. -/
structure Audited (prim : Primitives C) (s : Store C) : Prop where
  chains : ∀ id d, s.decisions.find? id = some d →
    Chain prim.transitionSha256 d (receiptsOf s.receipts id)
  decided : ∀ r ∈ s.receipts, ∃ d, s.decisions.find? r.body.decisionId = some d
  hashed : ∀ r ∈ s.receipts, r.transitionSha256 = prim.transitionSha256 r.body

lemma Audited.empty : Audited prim (Store.empty : Store C) where
  chains _ _ h := by cases h
  decided _ h := by cases h
  hashed _ h := by cases h

variable {p : AuthenticatedPrincipal} {d : DecisionRow C} {op : Op C} {now : ℤ}

/-- What a transition of one decision leaves, if it leaves that decision a chain. -/
lemma Audited.transition (hs : Audited prim s) {d' : DecisionRow C}
    {receipts : List TransitionReceipt} {fromStatus toStatus : DecisionStatus} {reason : String}
    (hd : s.decisions.find? d.decisionId = some d) (hid : d'.decisionId = d.decisionId)
    (h : persistTransition prim.transitionSha256 s.receipts d fromStatus toStatus p now reason =
      .ok receipts) (hc : Chain prim.transitionSha256 d' (receiptsOf receipts d.decisionId))
    (hdecisions : s'.decisions = s.decisions.insert d') (hreceipts : s'.receipts = receipts) :
    Audited prim s' := by
  obtain ⟨-, hwritten⟩ := persistTransition_cases h
  have hmem : ∀ r ∈ receipts, r ∈ s.receipts ∨ r = decisionStatusTransitionReceipt
      prim.transitionSha256 (nextTransition s.receipts d fromStatus toStatus p now reason) := by
    intro r hr
    rcases hwritten with ⟨-, rfl⟩ | rfl
    · exact .inl hr
    · exact (mem_append.mp hr).imp_right mem_singleton.mp
  have hother : ∀ id, id ≠ d.decisionId → receiptsOf receipts id = receiptsOf s.receipts id := by
    intro id hne
    rcases hwritten with ⟨-, rfl⟩ | rfl
    · rfl
    · simp [receiptsOf, decisionStatusTransitionReceipt, nextTransition, hne.symm]
  refine ⟨fun id d₀ hd₀ => ?_, fun r hr => ?_, fun r hr => ?_⟩
  · rw [hdecisions, find?_insert, hid] at hd₀
    rw [hreceipts]
    split_ifs at hd₀ with hk
    · cases hd₀
      exact hk ▸ hc
    · rw [hother id hk]
      exact hs.chains id d₀ hd₀
  · have hstored : ∃ d₀, s.decisions.find? r.body.decisionId = some d₀ := by
      rcases hmem r (hreceipts ▸ hr) with hold | rfl
      · exact hs.decided r hold
      · exact ⟨d, hd⟩
    rw [hdecisions, find?_insert]
    split_ifs
    · exact ⟨d', rfl⟩
    · exact hstored
  · rcases hmem r (hreceipts ▸ hr) with hold | rfl
    · exact hs.hashed r hold
    · rfl

variable [AddCommMonoid C] [LinearOrder C]
  (hinj : ∀ b b', prim.transitionSha256 b = prim.transitionSha256 b' →
    b.fromStatus = b'.fromStatus)

include hinj in
lemma Audited.change (ho : Owned prim s) (hs : Audited prim s)
    (h : Change prim s s') : Audited prim s' := by
  cases h with
  | @drafted d fresh draft =>
    refine ⟨fun id d₀ hd₀ => ?_, fun r hr => ?_, hs.hashed⟩
    · rw [find?_insert] at hd₀
      split_ifs at hd₀ with hk
      · cases hd₀
        refine .draft draft (eq_nil_iff_forall_not_mem.mpr fun r hr => ?_)
        obtain ⟨hr, hrid⟩ := mem_receiptsOf.mp hr
        obtain ⟨d₁, hd₁⟩ := hs.decided r hr
        rw [hrid, hk, fresh] at hd₁
        cases hd₁
      · exact hs.chains id d₀ hd₀
    · rw [find?_insert]
      split_ifs
      · exact ⟨d, rfl⟩
      · exact hs.decided r hr
  | @accepted p r d body fresh now expiresAt receipts decision checked draft built unused recorded =>
    have hid : d.decisionId = r.decisionId := key_of_find? decision
    rw [← hid] at decision
    have hc := hs.chains _ d decision
    have hkept : (d.accepted p now).decisionId = d.decisionId := rfl
    exact hs.transition decision hkept recorded
      (hc.accept (by decide) draft recorded) rfl rfl
  | @revoked a d p now receipts authorization decision recorded =>
    obtain ⟨-, d₀, hd₀, hdecided⟩ := ho.authorizations _ a authorization
    cases decision.symm.trans hd₀
    have hid : d.decisionId = a.decisionId := key_of_find? decision
    rw [← hid] at decision
    have hc := hs.chains _ d decision
    have hkept : (d.withdrawn now).decisionId = d.decisionId := rfl
    exact hs.transition decision hkept recorded
      (hc.revoke hinj (by decide) hs.hashed hdecided.decided recorded) rfl rfl
  | issued | derived | attempted | completed => exact ⟨hs.chains, hs.decided, hs.hashed⟩

include hinj in
lemma Audited.run (ops : List (Op C)) : Audited prim (run prim .empty ops) := by
  have hboth : Inv prim (Acceptance.run prim .empty ops) ∧
      Audited prim (Acceptance.run prim .empty ops) :=
    run_induction (P := fun s => Inv prim s ∧ Audited prim s)
      (fun _ _ hs hc => ⟨hs.1.change hc, hs.2.change hinj hs.1.owned hc⟩)
      ⟨Inv.empty, Audited.empty⟩
  exact hboth.2

/-- A revocation in the run found the decision revoked already, and went through. -/
def RevokedAgain (prim : Primitives C) (s : Store C) (ops : List (Op C)) (id : String) : Prop :=
  ∃ before p authorizationId now after, ops = before ++ Op.revoke p authorizationId now :: after ∧
    ∃ a d s', (run prim s before).authorizations.find? authorizationId = some a ∧
      a.decisionId = id ∧ (run prim s before).decisions.find? id = some d ∧
      d.status = .revoked ∧
      (Op.revoke p authorizationId now).apply prim (run prim s before) = .ok s'

def LeavesRevoked (s : Store C) (id : String) : Prop :=
  ∃ r ∈ s.receipts, r.body.decisionId = id ∧ r.body.fromStatus = .revoked

lemma receipts_subset_step : s.receipts ⊆ (step prim s op).receipts := by
  unfold step
  split
  · exact List.Subset.refl _
  · next s' h =>
    rcases apply_cases h with rfl | ⟨-, hrecords⟩
    · exact List.Subset.refl _
    have hpersist : ∀ {d : DecisionRow C} {fromStatus toStatus p now reason},
        persistTransition prim.transitionSha256 s.receipts d fromStatus toStatus p now reason =
          .ok s'.receipts → s.receipts ⊆ s'.receipts := by
      intro d fromStatus toStatus p now reason h
      rcases (persistTransition_cases h).2 with ⟨-, hsame⟩ | happend
      · exact hsame ▸ List.Subset.refl _
      · exact happend ▸ subset_append_left _ _
    cases op with
    | accept =>
      obtain ⟨d, hrecords⟩ := hrecords
      exact hpersist hrecords
    | revoke =>
      obtain ⟨a, d, -, -, hrecords⟩ := hrecords
      exact hpersist hrecords
    | _ => exact (hrecords : s'.receipts = s.receipts) ▸ List.Subset.refl _

/-- Only the revocation of a revoked decision leaves the mark. -/
lemma leavesRevoked_apply {id : String} (h : op.apply prim s = .ok s')
    (hmark : LeavesRevoked s' id) :
    LeavesRevoked s id ∨
      ∃ p authorizationId now a d, op = .revoke p authorizationId now ∧
        s.authorizations.find? authorizationId = some a ∧ a.decisionId = id ∧
        s.decisions.find? id = some d ∧ d.status = .revoked := by
  rcases apply_cases h with rfl | ⟨-, hrecords⟩
  · exact .inl hmark
  obtain ⟨r, hr, hid, hfrom⟩ := hmark
  cases op with
  | accept =>
    obtain ⟨d, hrecords⟩ := hrecords
    rcases (persistTransition_cases hrecords).2 with ⟨-, hsame⟩ | happend
    · exact .inl ⟨r, hsame ▸ hr, hid, hfrom⟩
    · rw [happend, mem_append, mem_singleton] at hr
      rcases hr with hr | rfl
      · exact .inl ⟨r, hr, hid, hfrom⟩
      · cases hfrom
  | revoke p authorizationId now =>
    obtain ⟨a, d, ha, hd, hrecords⟩ := hrecords
    rcases (persistTransition_cases hrecords).2 with ⟨-, hsame⟩ | happend
    · exact .inl ⟨r, hsame ▸ hr, hid, hfrom⟩
    · rw [happend, mem_append, mem_singleton] at hr
      rcases hr with hr | rfl
      · exact .inl ⟨r, hr, hid, hfrom⟩
      · have hdid : a.decisionId = id := (key_of_find? hd).symm.trans hid
        exact .inr ⟨p, authorizationId, now, a, d, rfl, ha, hdid, hdid ▸ hd, hfrom⟩
  | _ => exact .inl ⟨r, (hrecords : s'.receipts = s.receipts) ▸ hr, hid, hfrom⟩

include hinj in
lemma leavesRevoked_of_revoke (hs : Audited prim s) {authorizationId : String}
    {a : AuthorizationRow C} (h : (Op.revoke p authorizationId now).apply prim s = .ok s')
    (ha : s.authorizations.find? authorizationId = some a)
    (hd : s.decisions.find? a.decisionId = some d) (hrevoked : d.status = .revoked) :
    LeavesRevoked s' a.decisionId := by
  obtain ⟨reply, hreply, rfl⟩ := map_eq_ok.mp h
  obtain ⟨-, a', d', ha', hd', hrecords⟩ := revoke_change hreply
  cases ha.symm.trans ha'
  cases hd.symm.trans hd'
  have hid : d.decisionId = a.decisionId := key_of_find? hd
  rcases (persistTransition_cases hrecords).2 with ⟨⟨r, hr, hrid, hsha⟩, hsame⟩ | happend
  · -- a receipt with that hash is there already, and it starts from `revoked` too
    refine ⟨r, hsame ▸ hr, hrid.trans hid, ?_⟩
    exact (hinj _ _ ((hs.hashed r hr).symm.trans hsha)).trans hrevoked
  · exact ⟨_, happend ▸ mem_append_right _ (mem_singleton_self _), hid, hrevoked⟩

include hinj in
lemma leavesRevoked_run (hi : Inv prim s) (hs : Audited prim s) (ops : List (Op C))
    (id : String) :
    LeavesRevoked (run prim s ops) id ↔ LeavesRevoked s id ∨ RevokedAgain prim s ops id := by
  induction ops generalizing s with
  | nil =>
    refine ⟨.inl, ?_⟩
    rintro (h | ⟨before, p, authorizationId, now, after, h, -⟩)
    · exact h
    · simp at h
  | cons op ops ih =>
    have hstep : Inv prim (step prim s op) ∧ Audited prim (step prim s op) := by
      have hchange : step prim s op = s ∨ Change prim s (step prim s op) := step_change
      rcases hchange with h | h
      · rw [h]
        exact ⟨hi, hs⟩
      · exact ⟨hi.change h, hs.change hinj hi.owned h⟩
    change LeavesRevoked (run prim (step prim s op) ops) id ↔ _
    rw [ih hstep.1 hstep.2]
    constructor
    · rintro (hmark | ⟨before, p, authorizationId, now, after, rfl, hagain⟩)
      · unfold step at hmark
        split at hmark
        · exact .inl hmark
        · next s' h =>
          rcases leavesRevoked_apply h hmark with hold | ⟨p, authorizationId, now, a, d, rfl, hrest⟩
          · exact .inl hold
          · obtain ⟨ha, hid, hd, hrevoked⟩ := hrest
            exact .inr ⟨[], p, authorizationId, now, ops, rfl, a, d, s', ha, hid, hd, hrevoked, h⟩
      · exact .inr ⟨op :: before, p, authorizationId, now, after, rfl, hagain⟩
    · rintro (⟨r, hr, hmark⟩ | ⟨before, p, authorizationId, now, after, hops, hagain⟩)
      · exact .inl ⟨r, receipts_subset_step hr, hmark⟩
      · cases before with
        | nil =>
          cases hops
          obtain ⟨a, d, s', ha, rfl, hd, hrevoked, h⟩ := hagain
          refine .inl ?_
          unfold step
          change (Op.revoke p authorizationId now).apply prim s = .ok s' at h
          rw [h]
          exact leavesRevoked_of_revoke hinj hs h ha hd hrevoked
        | cons op' before =>
          cases hops
          exact .inr ⟨before, p, authorizationId, now, after, rfl, hagain⟩

/-- The chain of a decision that is no longer a draft is accepted as long as no revocation of it
was repeated. -/
theorem decision_chain_accepted_iff (prim : Primitives C)
    (hhex : ∀ b, isHexOfLength 64 (prim.transitionSha256 b) = true)
    (hinj : ∀ b b', prim.transitionSha256 b = prim.transitionSha256 b' →
      b.fromStatus = b'.fromStatus)
    (ops : List (Op C)) (id : String) (d : DecisionRow C)
    (hd : (run prim .empty ops).decisions.find? id = some d)
    (hdecided : d.status ≠ .draftPendingOperator) :
    validateManagedAcceptanceDecisionTransitionChain prim.transitionSha256 d
        (decisionReceipts (run prim .empty ops).receipts id) = .ok () ↔
      ¬RevokedAgain prim .empty ops id := by
  have hmark := leavesRevoked_run hinj Inv.empty Audited.empty ops id
  rw [or_iff_right (by rintro ⟨r, hr, -⟩; cases hr)] at hmark
  rw [← hmark]
  have hchain := (Audited.run hinj ops).chains id d hd
  have hreceipts : decisionReceipts (run prim .empty ops).receipts id =
      (receiptsOf (run prim .empty ops).receipts id).insertionSort
        fun r r' => r.body.sequence ≤ r'.body.sequence := rfl
  rw [hreceipts]
  -- no receipt of a chain that went through once starts from `revoked`
  have hnone : (∀ r ∈ receiptsOf (run prim .empty ops).receipts id, r.body.fromStatus ≠ .revoked) →
      ¬LeavesRevoked (run prim .empty ops) id := by
    rintro h ⟨r, hr, hid, hfrom⟩
    exact h r (mem_receiptsOf.mpr ⟨hr, hid⟩) hfrom
  cases hchain with
  | draft status => exact absurd status hdecided
  | @accepted b status named first one =>
    refine iff_of_true ?_ (hnone ?_)
    · rw [one]
      exact first.accepted hhex named status
    · rw [one]
      simp [decisionStatusTransitionReceipt, first.fromStatus]
  | @revoked b b' status named first second two =>
    refine iff_of_true ?_ (hnone ?_)
    · have hne : prim.transitionSha256 b ≠ prim.transitionSha256 b' := by
        intro h
        have := hinj b b' h
        rw [first.fromStatus, second.fromStatus] at this
        cases this
      rw [two]
      have hsorted : (decisionStatusTransitionReceipt prim.transitionSha256 b).body.sequence ≤
          (decisionStatusTransitionReceipt prim.transitionSha256 b').body.sequence := by
        simp [decisionStatusTransitionReceipt, first.sequence, second.sequence]
      rw [insertionSort_cons, insertionSort_cons, insertionSort_nil,
        orderedInsert_nil, orderedInsert_cons, if_pos hsorted]
      exact second.accepted hhex named status hne first
    · rw [two]
      simp [decisionStatusTransitionReceipt, first.fromStatus, second.fromStatus]
  | @again r status mem fromStatus =>
    refine iff_of_false ?_ (not_not.mpr ?_)
    · exact chain_refused ((mem_insertionSort _).mpr mem) fromStatus
    · obtain ⟨hr, hid⟩ := mem_receiptsOf.mp mem
      exact ⟨r, hr, hid, fromStatus⟩

end Runs

def sampleOwner : AuthenticatedPrincipal where
  tenantId := "tenant-1"
  principalId := "operator-1"
  kind := .operatorApiKey
  scopes := [scopeRiskAcknowledge, scopeSpendAuthorize, scopeRevoke, scopeDelegatedExecute,
    scopeAttemptAdmit]
  role := "operator"
  named := by decide

def hexText (c : Char) (n : ℕ) : String := String.ofList (replicate n c)

/-- Hashes that tell apart what a run tells apart by them; amounts are in units of `f64::EPSILON`. -/
def samplePrimitives : Primitives ℤ where
  isWhitespace c := c = ' '
  epsilon := 1
  renderValue _ := ""
  payloadJson payload := payload.childAuthorizationId
  containsSensitivePatterns _ := false
  sha256Text _ := hexText 'a' 64
  decisionSha256 _ _ _ _ := "decision"
  authorizationSha256 _ := "authorization"
  envelopeSha256 _ := "envelope"
  spendSha256 b := b.spendAuthorizationId
  identitySha256 b :=
    match b.terms with
    | .trial _ => "trial"
    | .effect child => child.childAuthorizationId
  manifestSha256 _ := "manifest"
  attemptSha256
    | .admission _ => "admission"
    | .effect b => "effect" ++ b.attemptId
  receiptSha256 _ := "receipt"
  transitionSha256 b :=
    match b.fromStatus with
    | .draftPendingOperator => hexText 'a' 64
    | .operatorAccepted => hexText 'b' 64
    | .operatorRejected => hexText 'c' 64
    | .invalidated => hexText 'd' 64
    | .revoked => hexText 'e' 64
    | .expired => hexText 'f' 64

def sampleEnvelope : EffectEnvelopeContract ℤ where
  schemaVersion := effectEnvelopeSchemaVersion
  decisionId := "decision-1"
  envelopeId := "envelope-1"
  ownerPrincipalId := "operator-1"
  effectKind := "deploy"
  targetRepository := "repository-1"
  targetMainSha := hexText '0' 40
  maxTotalCostUsd := 10
  maxChildAuthorizations := 4
  createdAt := 1700000000
  expiresAt := 1800000000

def sampleAcknowledgement : RiskAcknowledgementRequest where
  decisionId := "decision-1"
  expectedDecisionBodySha256 := "decision"
  expectedResidualFindingSha256 := hexText '0' 64
  submittedPhrase := effectEnvelopeApprovalPhrase
  explicitGo := true

/-- An envelope that its owner submits and accepts. -/
def sampleAccepted : List (Op ℤ) :=
  [.persistEnvelope sampleOwner sampleEnvelope (hexText '0' 64) "1" 1700000001,
   .accept sampleOwner sampleAcknowledgement "1" 1700000002]

def sampleRevoke : Op ℤ := .revoke sampleOwner "maa-1" 1700000003

/-- The second revocation goes through and leaves a chain that the validator refuses. -/
theorem revoked_twice_refused :
    ∃ d, (run samplePrimitives .empty
        (sampleAccepted ++ [sampleRevoke, sampleRevoke])).decisions.find? "decision-1" = some d ∧
      d.status = .revoked ∧
      validateManagedAcceptanceDecisionTransitionChain samplePrimitives.transitionSha256 d
          (decisionReceipts (run samplePrimitives .empty
            (sampleAccepted ++ [sampleRevoke, sampleRevoke])).receipts "decision-1") =
        .error "managed Codex decision transition edge is invalid" :=
  ⟨_, rfl, rfl, rfl⟩

lemma hexText_isHex (c : Char) (h : isHexDigit c = true) :
    isHexOfLength 64 (hexText c 64) = true := by
  simp [isHexOfLength, hexText, h]

lemma samplePrimitives_hex (b : TransitionBody) :
    isHexOfLength 64 (samplePrimitives.transitionSha256 b) = true := by
  simp only [samplePrimitives]
  split <;> exact hexText_isHex _ (by decide)

lemma hexText_injective {c c' : Char} (h : hexText c 64 = hexText c' 64) : c = c' := by
  have := congrArg String.toList h
  simpa [hexText, replicate_succ] using this

lemma samplePrimitives_fromStatus (b b' : TransitionBody)
    (h : samplePrimitives.transitionSha256 b = samplePrimitives.transitionSha256 b') :
    b.fromStatus = b'.fromStatus := by
  simp only [samplePrimitives] at h
  cases hb : b.fromStatus <;> cases hb' : b'.fromStatus <;> rw [hb, hb'] at h <;>
    first | rfl | exact absurd (hexText_injective h) (by decide)

/-- Revoked once, the chain is accepted. -/
theorem revoked_once_accepted :
    ∃ d, (run samplePrimitives .empty (sampleAccepted ++ [sampleRevoke])).decisions.find?
        "decision-1" = some d ∧
      validateManagedAcceptanceDecisionTransitionChain samplePrimitives.transitionSha256 d
        (decisionReceipts (run samplePrimitives .empty
          (sampleAccepted ++ [sampleRevoke])).receipts "decision-1") = .ok () ∧
      ¬RevokedAgain samplePrimitives .empty (sampleAccepted ++ [sampleRevoke]) "decision-1" :=
  ⟨_, rfl, rfl, (decision_chain_accepted_iff samplePrimitives samplePrimitives_hex
    samplePrimitives_fromStatus _ _ _ rfl (by decide)).mp rfl⟩

end Harness.Acceptance
