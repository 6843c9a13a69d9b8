import Harness.Sanity.EffectLedger
import Harness.Proofs.DecisionChain
import Harness.Proofs.OneUseSpends

/-! Effect envelopes: the limits of an envelope hold over any run, an unknown outcome stops it,
and a settlement or a derivation that is repeated finds what is stored. -/

namespace Harness.Acceptance

open Lib Table List Option SpendRow SpendBody AuthorizationRow
open Delegated (isBlank SpendStatus TerminalStatus)

variable {p : AuthenticatedPrincipal}
variable {C : Type} [AddCommMonoid C] [LinearOrder C] {prim : Primitives C} {s s' : Store C}

/-- Number and cost of a decision's children are within its envelope. -/
def Within (prim : Primitives C) (s : Store C) : Prop :=
  ∀ id d embedded e, s.decisions.find? id = some d → d.body.effectEnvelope = some embedded →
    embedded.contract = some e →
    (effectChildren s id).length ≤ e.maxChildAuthorizations ∧
      ((effectChildren s id).map EffectChild.maxCostUsd).sum ≤ e.maxTotalCostUsd + prim.epsilon

variable {a : AuthorizationRow C} {d : DecisionRow C} {id k : String}

/-- What a derivation found before it added a child. -/
lemma Derivation.room_left (hi : Inv prim s) (hl : Ledger prim s) {e : EffectEnvelopeContract C}
    {request : EffectChildAuthorizationRequest C} {now : ℤ} {body : SpendBody C}
    (hspend : NewSpend prim s a (spendRow body (prim.spendSha256 body) now))
    (h : Derivation prim s a d p e request now body) :
    d.body.effectEnvelope = some e.body ∧ unknownAttempt s a.authorizationId = none ∧
      (effectChildren s a.decisionId).length < e.maxChildAuthorizations ∧
      ((effectChildren s a.decisionId).map EffectChild.maxCostUsd).sum + request.maxCostUsd ≤
        e.maxTotalCostUsd + prim.epsilon := by
  obtain ⟨-, d', hd', hdecided⟩ := hi.owned.authorizations _ a hspend.authorization
  cases h.decision.symm.trans hd'
  have henvelope := (h.derived hdecided.scope hspend).envelope
  have ha : s.authorizations.find? a.authorizationId = some a := by
    have hauth := hspend.authorization
    rw [← key_of_find? hauth] at hauth
    exact hauth
  obtain ⟨n, c, hscan, hroom⟩ := h.room
  obtain ⟨rfl, rfl⟩ := scanChildren_counted hscan
  rw [hl.siblings_eq hi ha h.decision henvelope, zero_add, zero_add] at hroom
  obtain ⟨hunknown, hroom⟩ := seq_ok hroom
  obtain ⟨hcount, hcost⟩ := seq_ok hroom
  refine ⟨henvelope, ?_, not_le.mp (of_decide_eq_false (refuse_ok hcount)),
    not_lt.mp (of_decide_eq_false (refuse_ok hcost))⟩
  refine eq_none_iff_forall_ne_some.mpr fun t ht => ?_
  have := option_forM_eq_ok.mp hunknown t ht
  cases this

lemma effectChildren_eq_nil (hl : Ledger prim s) (h : s.decisions.find? id = none) :
    effectChildren s id = [] := by
  refine eq_nil_iff_forall_not_mem.mpr fun child hchild => ?_
  obtain ⟨k, r, hr, rfl, hterms⟩ := mem_effectChildren.mp hchild
  obtain ⟨a, d, e, -, hd, -⟩ := hl.derived k r child hr hterms
  rw [h] at hd
  cases hd

lemma Within.change [IsOrderedAddMonoid C] (hε : 0 ≤ prim.epsilon) (hi : Inv prim s)
    (hl : Ledger prim s) (hw : Within prim s) (h : Change prim s s') : Within prim s' := by
  intro id d embedded e hd hembedded hcontract
  have htotal := (hl.change hi.owned h).total id d embedded e hd hembedded hcontract
  rcases h.effectChildren_perm id with
    hperm | ⟨a, d₀, p, e', request, now, body, hspend, hchecked, rfl, hperm⟩
  · rw [hperm.length_eq, (hperm.map _).sum_eq]
    rcases h.decisions_came id d hd with ⟨d₀, hd₀, hf⟩ | ⟨hnone, -⟩
    · rw [hf.body] at hembedded
      exact hw id d₀ embedded e hd₀ hembedded hcontract
    · rw [effectChildren_eq_nil hl hnone]
      exact ⟨Nat.zero_le _, by simpa using add_nonneg htotal hε⟩
  · obtain ⟨henvelope, -, hcount, hcost⟩ := hchecked.room_left hi hl hspend
    obtain ⟨d', hd', hf⟩ := h.follows.decisions _ d₀ hchecked.decision
    cases hd.symm.trans hd'
    rw [hf.body, henvelope] at hembedded
    cases hembedded
    cases hcontract
    rw [hperm.length_eq, (hperm.map _).sum_eq, length_cons, map_cons, sum_cons,
      add_comm _ (sum _)]
    exact ⟨hcount, hcost⟩

lemma Within.run [IsOrderedAddMonoid C] (hε : 0 ≤ prim.epsilon) (ops : List (Op C)) :
    Within prim (run prim .empty ops) := by
  have hall : Inv prim (Acceptance.run prim .empty ops) ∧
      Ledger prim (Acceptance.run prim .empty ops) ∧
      Within prim (Acceptance.run prim .empty ops) := by
    refine run_induction (P := fun s => Inv prim s ∧ Ledger prim s ∧ Within prim s) ?_
      ⟨Inv.empty, Ledger.empty, fun _ _ _ _ h => nomatch h⟩
    rintro s s' ⟨hi, hl, hw⟩ hc
    exact ⟨hi.change hc, hl.change hi.owned hc, hw.change hε hi hl hc⟩
  exact hall.2.2

/-- An unknown outcome of a child of the decision. -/
def Unknown (s : Store C) (id : String) : Prop :=
  ∃ k t r child, s.attempts.find? k = some t ∧ t.status = .ended .outcomeUnknown ∧
    s.spends.find? t.spendAuthorizationId = some r ∧ r.body.terms = .effect child ∧
    r.decisionId = id

omit [AddCommMonoid C] [LinearOrder C] in
lemma Unknown.follows (h : Unknown s id) (hf : Follows s s') : Unknown s' id := by
  obtain ⟨k, t, r, child, ht, hunknown, hr, hterms, hid⟩ := h
  obtain ⟨r', hr', hrf⟩ := hf.spends _ r hr
  refine ⟨k, t, r', child, hf.ended_attempt ht (by simp [hunknown]), hunknown, hr', ?_, ?_⟩
  · rw [hrf.body, hterms]
  · rw [hrf.decisionId, hid]

variable {r : SpendRow C} {child : EffectChild C}

/-- After that, a change adds no child of the decision. -/
lemma Unknown.change (hi : Inv prim s) (hl : Ledger prim s) (hu : Unknown s id)
    (h : Change prim s s') (hr : s'.spends.find? k = some r) (hterms : r.body.terms = .effect child)
    (hid : r.decisionId = id) :
    ∃ r₀, s.spends.find? k = some r₀ ∧ r₀.body.terms = .effect child ∧ r₀.decisionId = id := by
  rcases h.spends_came k r hr with ⟨r₀, hr₀, hf⟩ | ⟨-, a, hspend, ⟨fields, htrial⟩ | hderived⟩
  · exact ⟨r₀, hr₀, by rw [← hf.body, hterms], by rw [← hf.decisionId, hid]⟩
  · rw [htrial] at hterms
    cases hterms
  · obtain ⟨d, p, e, request, now, body, rfl, hchecked⟩ := hderived
    obtain ⟨henvelope, hnone, -⟩ := hchecked.room_left hi hl hspend
    obtain ⟨k', t, r', child', ht, hunknown, hr', hterms', hid'⟩ := hu
    have ha : s.authorizations.find? a.authorizationId = some a := by
      have hauth := hspend.authorization
      rw [← key_of_find? hauth] at hauth
      exact hauth
    have hdecision : r'.decisionId = a.decisionId := by
      rw [hid', ← hid, decisionId_of_owner hspend.owner]
    have hr'' := hr'
    rw [← key_of_find? hr'] at hr''
    obtain ⟨hrisk, -⟩ := hl.child_of hi ha hchecked.decision henvelope hr'' hdecision hterms'
    have hmem := find?_eq_none.mp hnone t (mem_of_find? ht)
    simp [hunknown, hr', hrisk] at hmem

lemma run_no_child_after_unknown (hi : Inv prim s) (hl : Ledger prim s) (hu : Unknown s id)
    {ops : List (Op C)} (hr : (run prim s ops).spends.find? k = some r)
    (hterms : r.body.terms = .effect child) (hid : r.decisionId = id) :
    ∃ r₀, s.spends.find? k = some r₀ := by
  have hrun : Inv prim (run prim s ops) ∧ Ledger prim (run prim s ops) ∧
      Unknown (run prim s ops) id ∧
      ∀ k r child, (run prim s ops).spends.find? k = some r → r.body.terms = .effect child →
        r.decisionId = id → ∃ r₀, s.spends.find? k = some r₀ := by
    refine run_induction (P := fun s₁ => Inv prim s₁ ∧ Ledger prim s₁ ∧ Unknown s₁ id ∧
      ∀ k r child, s₁.spends.find? k = some r → r.body.terms = .effect child →
        r.decisionId = id → ∃ r₀, s.spends.find? k = some r₀) ?_
      ⟨hi, hl, hu, fun k r _ hr _ _ => ⟨r, hr⟩⟩
    rintro s₁ s₂ ⟨hi₁, hl₁, hu₁, hold⟩ hc
    refine ⟨hi₁.change hc, hl₁.change hi₁.owned hc, hu₁.follows hc.follows, ?_⟩
    intro k r child hr hterms hid
    obtain ⟨r₁, hr₁, hterms₁, hid₁⟩ := hu₁.change hi₁ hl₁ hc hr hterms hid
    exact hold k r₁ child hr₁ hterms₁ hid₁
  exact hrun.2.2.2 k r child hr hterms hid

/-- A stored child passes the check of settlement for its principal, whatever became of its
parent. -/
lemma Ledger.settles (hi : Inv prim s) (hl : Ledger prim s) (hr : s.spends.find? k = some r)
    (hterms : r.body.terms = .effect child) (htenant : p.tenantId = r.tenantId)
    (hid : p.principalId = r.principalId) (hkind : p.kind = r.principalKind) :
    ∃ a d, loadAuthorization prim s r.riskAuthorizationId = .ok a ∧
      loadDecision prim s r.decisionId = .ok d ∧
      validateEffectChildForSettlement prim r a d p = .ok child := by
  obtain ⟨a, d, e, ha, hd, hderived⟩ := hl.derived k r child hr hterms
  have hconsumed : a.status ≠ .consumed := by
    rcases hi.oneOwner.status _ a ha with h | ⟨h, -⟩ <;> rw [h] <;> decide
  refine ⟨a, d, loadAuthorization_eq_ok.mpr ⟨ha, (hi.owned.authorizations _ a ha).1⟩,
    loadDecision_eq_ok.mpr ⟨hd, hi.owned.decisions _ d hd⟩, ?_⟩
  rw [validateEffectChildForSettlement_frame hconsumed]
  exact hderived.settles p htenant hid hkind

lemma validateEffectChildForSettlement_spec
    (h : validateEffectChildForSettlement prim r a d p = .ok child) :
    p.tenantId = r.tenantId ∧ p.principalId = r.principalId ∧ p.kind = r.principalKind ∧
      r.body.terms = .effect child := by
  obtain ⟨hprincipal, h⟩ := seq_ok h
  iterate 4 obtain ⟨-, h⟩ := seq_ok h
  simp only [refuse_eq_ok, Bool.or_eq_false_iff, decide_eq_false_iff_not, ne_eq,
    not_not] at hprincipal
  obtain ⟨⟨htenant, hid⟩, hkind⟩ := hprincipal
  refine ⟨htenant.symm, hid.symm, hkind.symm, ?_⟩
  split at h
  · cases h
  · next child' hterms =>
    iterate 2 obtain ⟨-, h⟩ := seq_ok h
    iterate 3 obtain ⟨_, -, h⟩ := bind_ok h
    iterate 6 obtain ⟨-, h⟩ := seq_ok h
    cases h
    exact hterms

/-- A settlement's checks pass in any later store. -/
lemma Settlement.follows (hi : Inv prim s') (hl : Ledger prim s') {childId : String}
    {status : TerminalStatus} {evidence : OutcomeEvidence} {r' : SpendRow C}
    (h : Settlement prim s p childId status evidence r child)
    (hr : s'.spends.find? childId = some r') (hf : SpendFollows r r') :
    Settlement prim s' p childId status evidence r' child := by
  obtain ⟨a, d, -, -, hvalid⟩ := h.child
  obtain ⟨htenant, hid, hkind, hterms⟩ := validateEffectChildForSettlement_spec hvalid
  refine ⟨h.scopes, h.production, h.status, h.validEvidence, hr, (hi.owned.spends _ r' hr).1, ?_,
    h.bound⟩
  refine hl.settles hi hr (by rw [hf.body, hterms]) (htenant.trans ?_) (hid.trans ?_)
    (hkind.trans ?_)
  · exact (congrArg SpendRow.tenantId hf.terms).symm
  · exact (congrArg SpendRow.principalId hf.terms).symm
  · exact (congrArg SpendRow.principalKind hf.terms).symm

structure SettledAs (prim : Primitives C) (s : Store C) (p : AuthenticatedPrincipal)
    (childId attemptId : String) (status : TerminalStatus) (evidence : OutcomeEvidence)
    (r : SpendRow C) (child : EffectChild C) (t : AttemptRow C) : Prop where
  settlement : Settlement prim s p childId status evidence r child
  attempt : findAttempt s p.tenantId attemptId = some t
  repeated : ∀ now, settleAgain s r t (settledRow prim r child p attemptId status evidence now) =
    .ok (⟨t, true⟩, s)

section Settling

variable {p : AuthenticatedPrincipal} {childId attemptId : String} {status : TerminalStatus}
  {evidence : OutcomeEvidence} {r : SpendRow C} {child : EffectChild C} {t : AttemptRow C}

lemma SettledAs.again (h : SettledAs prim s p childId attemptId status evidence r child t)
    (now : ℤ) :
    settleEffectChildAuthorization prim s p childId attemptId status evidence now =
      .ok (⟨t, true⟩, s) :=
  settle_eq_ok.mpr ⟨r, child, h.settlement, .inl ⟨t, h.attempt, h.repeated now⟩⟩

/-- What a settlement leaves, whether it was the first or a repeated one. -/
lemma settle_settledAs (hi : Inv prim s) (hl : Ledger prim s) {now : ℤ} {reply : AttemptReply C}
    (h : settleEffectChildAuthorization prim s p childId attemptId status evidence now =
      .ok (reply, s')) :
    ∃ r child, SettledAs prim s' p childId attemptId status evidence r child reply.row := by
  have hboth : Inv prim s' ∧ Ledger prim s' := by
    rcases settle_change h with rfl | ⟨hc, -⟩
    · exact ⟨hi, hl⟩
    · exact ⟨hi.change hc, hl.change hi.owned hc⟩
  obtain ⟨r, child, hsettlement, ⟨existing, hexisting, hagain⟩ | ⟨-, hactive, hrecord, rfl⟩⟩ :=
    settle_eq_ok.mp h
  · obtain ⟨h1, h2, h3, h4, h5, h6, rfl, rfl⟩ := settleAgain_eq_ok.mp hagain
    exact ⟨r, child, hsettlement, hexisting,
      fun now' => settleAgain_eq_ok.mpr ⟨h1, h2, h3, h4, h5, h6, rfl, rfl⟩⟩
  · obtain ⟨-, -, rfl⟩ := recordAttempt_eq_ok.mp hrecord
    have hkey : r.spendAuthorizationId = childId := key_of_find? hsettlement.spend
    have hr' : (s.spends.insert (r.consumed attemptId now)).find? childId =
        some (r.consumed attemptId now) := by
      rw [← hkey]
      exact find?_insert_self
    have ht : (s.attempts.insert (settledRow prim r child p attemptId status evidence now)).find?
        attemptId = some (settledRow prim r child p attemptId status evidence now) :=
      find?_insert_self
    refine ⟨r.consumed attemptId now, child,
      hsettlement.follows hboth.1 hboth.2 hr' (.consumed hactive), ?_,
      fun now' => settleAgain_eq_ok.mpr ⟨rfl, rfl, rfl, rfl, rfl, rfl, rfl, rfl⟩⟩
    change ((s.attempts.insert _).find? attemptId).filter _ = _
    rw [ht]
    exact filter_some_pos (decide_eq_true rfl)

lemma SettledAs.run (hi : Inv prim s) (hl : Ledger prim s)
    (h : SettledAs prim s p childId attemptId status evidence r child t) (ops : List (Op C)) :
    SettledAs prim (run prim s ops) p childId attemptId status evidence r child t := by
  obtain ⟨h1, h2, h3, h4, h5, h6, -, -⟩ := settleAgain_eq_ok.mp (h.repeated 0)
  obtain ⟨ht, htenant⟩ := filter_eq_some_iff.mp h.attempt
  have hf : Follows s (Acceptance.run prim s ops) := run_follows
  have hboth : Inv prim (Acceptance.run prim s ops) ∧ Ledger prim (Acceptance.run prim s ops) :=
    run_induction (P := fun s => Inv prim s ∧ Ledger prim s)
      (fun _ _ hs hc => ⟨hs.1.change hc, hs.2.change hs.1.owned hc⟩) ⟨hi, hl⟩
  have hr := hf.closed_spend h.settlement.spend (by simp [h5])
  refine ⟨h.settlement.follows hboth.1 hboth.2 hr (.refl r), ?_,
    fun now => settleAgain_eq_ok.mpr ⟨h1, h2, h3, h4, h5, h6, rfl, rfl⟩⟩
  rw [findAttempt, hf.ended_attempt ht (by rw [h2]; exact AttemptStatus.noConfusion)]
  exact filter_some_pos htenant

end Settling

section Deriving

variable {p : AuthenticatedPrincipal} {parentId : String}
  {request : EffectChildAuthorizationRequest C} {a a' : AuthorizationRow C} {d d' : DecisionRow C}
  {e : EffectEnvelopeContract C} {now now' : ℤ}

/-- A parent that stayed active stays a parent until its envelope expires. -/
lemma EffectParent.later (h : EffectParent prim a d p now e) (ha : AuthorizationFollows a a')
    (hd : DecisionFollows d d') (hactive : a'.status = .active)
    (haccepted : d'.status = .operatorAccepted) (hle : now ≤ now') (hlt : now' < e.expiresAt) :
    EffectParent prim a' d' p now' e := by
  have hdecided : d.status ≠ .draftPendingOperator := by
    rw [h.accepted]
    decide
  have hdid := hd.decisionId
  have hexpires := congrArg DecisionRow.expiresAt hd.terms
  have htenant := congrArg AuthorizationRow.tenantId ha.terms
  have hkind := congrArg AuthorizationRow.principalKind ha.terms
  obtain ⟨hschema, hstatus, hembedded, hvalid, hdecision, -⟩ :=
    validateEffectEnvelopeBody_eq_ok.mp h.envelope
  obtain ⟨hmade, hcreated, -⟩ := EffectEnvelopeContract.validate_eq_ok.mp hvalid
  refine ⟨hactive, htenant.trans h.tenant, hkind.trans h.kind, ha.executionGranted.trans h.granted,
    haccepted, ?_, ?_, hdid.trans h.decisionId, ?_, ha.principalId.trans h.authorizationOwner,
    h.principal, hexpires.trans h.expiresAt, ha.scope ▸ h.scope⟩
  · change validateRiskDecisionOwner a'.terms d'.terms = .ok ()
    rw [ha.terms, hd.terms]
    exact h.decision
  · rw [hd.body]
    exact validateEffectEnvelopeBody_eq_ok.mpr ⟨hschema, hstatus, hembedded,
      EffectEnvelopeContract.validate_eq_ok.mpr ⟨hmade, hcreated.trans hle, hlt⟩, hdecision, rfl⟩
  · rw [(hd.decided hdecided).2]
    exact h.decisionOwner

variable (prim s p parentId request now) in
/-- A stored child that a request asks for again, and what the request was checked against. -/
structure DerivedAs
    (a : AuthorizationRow C) (d : DecisionRow C) (e : EffectEnvelopeContract C) (r : SpendRow C) :
    Prop where
  scopes : p.hasScope scopeDelegatedExecute = true ∧ p.hasScope scopeAttemptAdmit = true
  production : p.fixture = false
  authorization : s.authorizations.find? parentId = some a
  decision : s.decisions.find? a.decisionId = some d
  parent : EffectParent prim a d p now e
  requested : request.validateAgainst prim e now = .ok request.expiresAt
  body : effectChildBody prim p a d e request request.expiresAt now =
    .ok (effectChildTerms prim p a d e request request.expiresAt now)
  spend : s.spends.find? request.childAuthorizationId = some r
  terms : r.body.terms = .effect (request.child prim e)
  identity : r.body.replayIdentity =
    (effectChildTerms prim p a d e request request.expiresAt now).replayIdentity

variable (prim request e) in
def childReceipt (r : SpendRow C) (replayed : Bool) : EffectChildReceipt C :=
  ⟨request.child prim e, request.expiresAt, r.spendAuthorizationId, r.spendBodySha256, .active,
    replayed⟩

/-- What a derivation leaves, whether it was the first or a repeated one. -/
lemma derive_derivedAs (hl : Ledger prim s) {receipt : EffectChildReceipt C}
    (h : deriveEffectChildAuthorization prim s p parentId request now = .ok (receipt, s')) :
    ∃ a d e r b, DerivedAs prim s' p parentId request now a d e r ∧
      receipt = childReceipt prim request e r b := by
  obtain ⟨hscope, h⟩ := seq_ok h
  obtain ⟨hscope', h⟩ := seq_ok h
  obtain ⟨hfixture, h⟩ := seq_ok h
  obtain ⟨a, ha, h⟩ := bind_ok h
  obtain ⟨d, hd, h⟩ := bind_ok h
  obtain ⟨e, he, h⟩ := bind_ok h
  obtain ⟨expiresAt, hrequest, h⟩ := bind_ok h
  obtain ⟨-, rfl, -⟩ := EffectChildAuthorizationRequest.validateAgainst_eq_ok hrequest
  obtain ⟨draft, hdraft, h⟩ := bind_ok h
  obtain rfl := effectChildBody_eq_ok hdraft
  obtain ⟨scanned, hscan, hreply⟩ := bind_ok h
  obtain ⟨hauth, -⟩ := loadAuthorization_eq_ok.mp ha
  obtain ⟨hdecision, -⟩ := loadDecision_eq_ok.mp hd
  have hparent := effectParentFromAuthority_eq_ok.mp he
  split at hreply
  · next existing child =>
    obtain ⟨loaded, hloaded, hreply⟩ := bind_ok hreply
    obtain ⟨hreceipt, rfl⟩ := Prod.mk.inj (Except.ok.inj hreply)
    obtain ⟨hmem, hchild, hid, hidentity, hactive⟩ := scanChildren_stopped hscan
    have hfind := s.spends.find?_key (mem_filter.mp hmem).1
    cases (hfind.symm.trans (loadSpend_eq_ok.mp hloaded).1)
    obtain ⟨hterms, -⟩ := childOf?_eq_some.mp hchild
    obtain ⟨_, _, _, -, -, hderived⟩ := hl.derived _ existing child hfind hterms
    have hkey : existing.spendAuthorizationId = request.childAuthorizationId :=
      hderived.id.symm.trans hid
    have hsame : existing.body.terms = .effect (request.child prim e) :=
      (congrArg SpendBody.terms hidentity :)
    obtain rfl : request.child prim e = child := by
      simpa using hsame.symm.trans hterms
    have hexpires : existing.body.expiresAt = request.expiresAt :=
      (congrArg SpendBody.expiresAt hidentity :)
    refine ⟨a, d, e, existing, true, ⟨⟨requireScope_eq_ok.mp hscope, requireScope_eq_ok.mp hscope'⟩,
      refuse_ok hfixture, hauth, hdecision, hparent, hrequest, hdraft, hkey ▸ hfind, hsame,
      hidentity⟩, ?_⟩
    rw [← hreceipt, effectChildReceipt, childReceipt, hexpires, hactive]
  · next childCount reservedCost =>
    iterate 2 obtain ⟨-, hreply⟩ := seq_ok hreply
    obtain ⟨loaded, hloaded, hreply⟩ := bind_ok hreply
    obtain ⟨child, hchild, hreply⟩ := bind_ok hreply
    obtain ⟨hreceipt, rfl⟩ := Prod.mk.inj (Except.ok.inj hreply)
    obtain ⟨hfind, -⟩ := loadSpend_eq_ok.mp hloaded
    cases (find?_insert_self.symm.trans hfind)
    obtain ⟨hterms, -⟩ := SpendRow.childOf?_eq_some.mp (required_eq_ok.mp hchild)
    obtain rfl : request.child prim e = child := SpendTerms.effect.inj hterms
    exact ⟨a, d, e, _, false, ⟨⟨requireScope_eq_ok.mp hscope, requireScope_eq_ok.mp hscope'⟩,
      refuse_ok hfixture, hauth, hdecision, hparent, hrequest, hdraft, hfind, rfl, rfl⟩,
      hreceipt.symm⟩

variable {expiresAt : ℤ}

omit [AddCommMonoid C] [LinearOrder C] in
lemma effectChildBody_follows {b : SpendBody C}
    (h : effectChildBody prim p a d e request expiresAt now = .ok b)
    (ha : AuthorizationFollows a a') (hd : DecisionFollows d d') :
    effectChildBody prim p a' d' e request expiresAt now' =
      .ok (effectChildTerms prim p a' d' e request expiresAt now') := by
  have hsha := congrArg authorizationSha256 ha.terms
  have hdsha := congrArg DecisionRow.decisionBodySha256 hd.terms
  have hresidual := congrArg DecisionRow.residualFindingSha256 hd.terms
  obtain ⟨h1, h⟩ := seq_ok h
  obtain ⟨h2, h⟩ := seq_ok h
  obtain ⟨h3, h⟩ := seq_ok h
  obtain ⟨h4, h⟩ := seq_ok h
  obtain ⟨h5, -⟩ := seq_ok h
  refine seq_eq_ok.mpr ⟨ha.authorizationId ▸ h1, ?_⟩
  refine seq_eq_ok.mpr ⟨(hsha : a'.authorizationSha256 = _) ▸ h2, ?_⟩
  refine seq_eq_ok.mpr ⟨hd.decisionId ▸ h3, ?_⟩
  refine seq_eq_ok.mpr ⟨(hdsha : d'.decisionBodySha256 = _) ▸ h4, ?_⟩
  exact seq_eq_ok.mpr ⟨(hresidual : d'.residualFindingSha256 = _) ▸ h5, rfl⟩

omit [AddCommMonoid C] [LinearOrder C] in
lemma effectChildTerms_follows (now' : ℤ) (ha : AuthorizationFollows a a')
    (hd : DecisionFollows d d') :
    (effectChildTerms prim p a' d' e request expiresAt now').replayIdentity =
      (effectChildTerms prim p a d e request expiresAt now).replayIdentity := by
  have hsha := congrArg authorizationSha256 ha.terms
  have hdsha := congrArg DecisionRow.decisionBodySha256 hd.terms
  have hresidual := congrArg DecisionRow.residualFindingSha256 hd.terms
  change a'.authorizationSha256 = a.authorizationSha256 at hsha
  change d'.decisionBodySha256 = d.decisionBodySha256 at hdsha
  change d'.residualFindingSha256 = d.residualFindingSha256 at hresidual
  simp only [effectChildTerms, replayIdentity, ha.authorizationId, hd.decisionId, hsha,
    hdsha, hresidual]

/-- The authorization and the decision of a child that is still active. -/
lemma DerivedAs.parents {s₂ : Store C} {r₂ : SpendRow C} (hi : Inv prim s₂)
    (h : DerivedAs prim s p parentId request now a d e r) (hf : Follows s s₂)
    (hr₂ : s₂.spends.find? request.childAuthorizationId = some r₂) (hactive : r₂.status = .active) :
    ∃ a₂ d₂, s₂.authorizations.find? parentId = some a₂ ∧ AuthorizationFollows a a₂ ∧
      s₂.decisions.find? a₂.decisionId = some d₂ ∧ DecisionFollows d d₂ ∧
      a₂.status = .active ∧ d₂.status = .operatorAccepted ∧
      r₂.riskAuthorizationId = a₂.authorizationId ∧ r₂.decisionId = a₂.decisionId := by
  obtain ⟨a₂, ha₂, haf⟩ := hf.authorizations _ a h.authorization
  obtain ⟨d₂, hd₂, hdf⟩ := hf.decisions _ d h.decision
  obtain ⟨r', hr', hrf⟩ := hf.spends _ r h.spend
  cases hr₂.symm.trans hr'
  rw [← haf.decisionId] at hd₂
  obtain ⟨hintact, a', ha', howner⟩ := hi.owned.spends _ r₂ hr₂
  have hrisk : r₂.riskAuthorizationId = a₂.authorizationId := by
    have hbody := congrArg SpendBody.riskAuthorizationId h.identity
    change r.body.riskAuthorizationId = a.authorizationId at hbody
    rw [← (columns_of_intact hintact).2, hrf.body, hbody, haf.authorizationId]
  have hid : a₂.authorizationId = parentId := key_of_find? ha₂
  rw [hrisk, hid, ha₂] at ha'
  cases ha'
  obtain ⟨a', ha', hstatus⟩ := hi.spent.active _ r₂ hr₂ hactive
  rw [hrisk, hid, ha₂] at ha'
  cases ha'
  refine ⟨a₂, d₂, ha₂, haf, hd₂, hdf, hstatus, ?_, hrisk, decisionId_of_owner howner⟩
  rcases hi.oneOwner.status _ a₂ ha₂ with hrevoked | ⟨-, d', hd', haccepted⟩
  · rw [hrevoked] at hstatus
    cases hstatus
  · cases hd₂.symm.trans hd'
    exact haccepted

/-- A child that is still active is found again. -/
lemma DerivedAs.again {s₂ : Store C} {r r₂ : SpendRow C} (hi : Inv prim s₂) (hl : Ledger prim s₂)
    (h : DerivedAs prim s p parentId request now a d e r) (hf : Follows s s₂) (hle : now ≤ now')
    (hlt : now' < request.expiresAt) (hr₂ : s₂.spends.find? request.childAuthorizationId = some r₂)
    (hactive : r₂.status = .active) :
    deriveEffectChildAuthorization prim s₂ p parentId request now' =
      .ok (childReceipt prim request e r true, s₂) := by
  obtain ⟨a₂, d₂, ha₂, haf, hd₂, hdf, hstatus, haccepted, hrisk, hdecision⟩ :=
    h.parents hi hf hr₂ hactive
  obtain ⟨r', hr', hrf⟩ := hf.spends _ r h.spend
  cases hr₂.symm.trans hr'
  obtain ⟨hfits, -, hlater⟩ := EffectChildAuthorizationRequest.validateAgainst_eq_ok h.requested
  have hparent := h.parent.later haf hdf hstatus haccepted hle (hlt.trans_le hfits.within)
  have hterms : r₂.body.terms = .effect (request.child prim e) := by rw [hrf.body, h.terms]
  have hkey : r₂.spendAuthorizationId = request.childAuthorizationId := key_of_find? hr₂
  have hscan : scanChildren e.envelopeId request.childAuthorizationId
      ((effectChildTerms prim p a₂ d₂ e request request.expiresAt now').withIdentity prim)
      (siblings s₂ a₂) 0 0 = .ok (.inl (r₂, request.child prim e)) := by
    refine scanChildren_found ?_ (childOf?_eq_some.mpr ⟨hterms, rfl⟩) rfl ?_ ?_ hactive
    · exact mem_filter.mpr ⟨mem_of_find? hr₂, by simp [hrisk, hdecision]⟩
    · -- no other spend has the id
      intro r' hr' child' hchild'
      have hrow := (mem_filter.mp hr').1
      obtain ⟨hterms', -⟩ := childOf?_eq_some.mp hchild'
      obtain ⟨_, _, _, -, -, hderived⟩ := hl.derived _ r' child' (s₂.spends.find?_key hrow) hterms'
      refine ⟨hderived.cost, fun hid => ?_⟩
      exact s₂.spends.eq_of_key_eq hrow (mem_of_find? hr₂)
        ((hderived.id.symm.trans hid).trans hkey.symm)
    · rw [hrf.body, h.identity]
      exact (effectChildTerms_follows now' haf hdf).symm
  have hreceipt : effectChildReceipt r₂ (request.child prim e) r₂.body true =
      childReceipt prim request e r true := by
    have hsha := congrArg spendBodySha256 hrf.terms
    have hexpires := congrArg SpendBody.expiresAt h.identity
    change r₂.spendBodySha256 = r.spendBodySha256 at hsha
    change r.body.expiresAt = request.expiresAt at hexpires
    rw [effectChildReceipt, childReceipt, hrf.body, hexpires, hrf.spendAuthorizationId, hsha, hactive]
  refine seq_eq_ok.mpr ⟨requireScope_eq_ok.mpr h.scopes.1, ?_⟩
  refine seq_eq_ok.mpr ⟨requireScope_eq_ok.mpr h.scopes.2, ?_⟩
  refine pass h.production ?_
  refine bind_eq_ok.mpr ⟨a₂, loadAuthorization_eq_ok.mpr
    ⟨ha₂, (hi.owned.authorizations _ a₂ ha₂).1⟩, ?_⟩
  refine bind_eq_ok.mpr ⟨d₂, loadDecision_eq_ok.mpr ⟨hd₂, hi.owned.decisions _ d₂ hd₂⟩, ?_⟩
  refine bind_eq_ok.mpr ⟨e, effectParentFromAuthority_eq_ok.mpr hparent, ?_⟩
  refine bind_eq_ok.mpr ⟨request.expiresAt, hlater now' hlt, ?_⟩
  refine bind_eq_ok.mpr ⟨_, effectChildBody_follows h.body haf hdf, ?_⟩
  refine bind_eq_ok.mpr ⟨_, hscan, ?_⟩
  refine bind_eq_ok.mpr ⟨r₂, loadSpend_eq_ok.mpr ⟨?_, (hi.owned.spends _ r₂ hr₂).1⟩, ?_⟩
  · rw [hkey]
    exact hr₂
  · rw [hreceipt]
    rfl

end Deriving

/-- The limits of effect envelopes, over any run cut into two parts. -/
theorem effect_envelope_limits [IsOrderedAddMonoid C] (prim : Primitives C)
    (hε : 0 ≤ prim.epsilon) (before after : List (Op C)) :
    let s := run prim .empty before
    let s' := run prim s after
    -- number and cost of the children
    (∀ id d embedded e, s.decisions.find? id = some d →
      d.body.effectEnvelope = some embedded → embedded.contract = some e →
        (effectChildren s id).length ≤ e.maxChildAuthorizations ∧
        ((effectChildren s id).map EffectChild.maxCostUsd).sum ≤
          e.maxTotalCostUsd + prim.epsilon) ∧
    -- no child of a decision after one of its children ended with an unknown outcome
    (∀ id, Unknown s id → ∀ k r child, s'.spends.find? k = some r →
      r.body.terms = .effect child → r.decisionId = id → ∃ r₀, s.spends.find? k = some r₀) ∧
    -- one settlement of a child, which stays as it is
    (∀ k t k' t', s'.attempts.find? k = some t → s'.attempts.find? k' = some t' →
      t.spendAuthorizationId = t'.spendAuthorizationId → k = k') ∧
    -- a repeated settlement returns the stored one, at any time
    (∀ p childId attemptId status evidence now reply s₁,
      settleEffectChildAuthorization prim s p childId attemptId status evidence now =
        .ok (reply, s₁) →
      ∀ now', settleEffectChildAuthorization prim (run prim s₁ after) p childId attemptId status
        evidence now' = .ok (⟨reply.row, true⟩, run prim s₁ after)) ∧
    -- a repeated derivation returns the stored child, while that one is active and not expired
    (∀ p parentId request now receipt s₁,
      deriveEffectChildAuthorization prim s p parentId request now = .ok (receipt, s₁) →
      ∀ now' r, now ≤ now' → now' < request.expiresAt →
        (run prim s₁ after).spends.find? request.childAuthorizationId = some r →
        r.status = .active →
        deriveEffectChildAuthorization prim (run prim s₁ after) p parentId request now' =
          .ok ({ receipt with replayed := true }, run prim s₁ after)) := by
  intro s s'
  have hi : Inv prim s := Inv.empty.run before
  have hl : Ledger prim s := Ledger.run before
  refine ⟨Within.run hε before, fun id hu k r child hr hterms hid =>
    run_no_child_after_unknown hi hl hu hr hterms hid,
    fun k t k' t' ht ht' hspend => (hi.run after).consumes_alone ht ht' hspend, ?_, ?_⟩
  · intro p childId attemptId status evidence now reply s₁ h now'
    obtain ⟨r, child, hsettled⟩ := settle_settledAs hi hl h
    have hboth : Inv prim s₁ ∧ Ledger prim s₁ := by
      rcases settle_change h with rfl | ⟨hc, -⟩
      · exact ⟨hi, hl⟩
      · exact ⟨hi.change hc, hl.change hi.owned hc⟩
    exact (hsettled.run hboth.1 hboth.2 after).again now'
  · intro p parentId request now receipt s₁ h now' r hle hlt hr hactive
    obtain ⟨a, d, e, r₁, b, hderived, rfl⟩ := derive_derivedAs hl h
    have hboth : Inv prim s₁ ∧ Ledger prim s₁ := by
      rcases derive_cases h with rfl | ⟨a', d', e', body, hspend, hchecked, rfl⟩
      · exact ⟨hi, hl⟩
      · exact ⟨hi.change (.derived hspend hchecked), hl.change hi.owned (.derived hspend hchecked)⟩
    have hlater : Inv prim (run prim s₁ after) ∧ Ledger prim (run prim s₁ after) :=
      run_induction (P := fun s => Inv prim s ∧ Ledger prim s)
        (fun _ _ hs hc => ⟨hs.1.change hc, hs.2.change hs.1.owned hc⟩) hboth
    exact hderived.again hlater.1 hlater.2 run_follows hle hlt hr hactive

/-! An envelope of ten units, where the tolerance is one. -/

def sampleChild (id : String) (cost : ℤ) : EffectChildAuthorizationRequest ℤ where
  childAuthorizationId := id
  operationId := "operation"
  effectKind := "deploy"
  targetRepository := "repository-1"
  targetMainSha := hexText '0' 40
  maxCostUsd := cost
  expiresAt := 1790000000

def sampleDerive (id : String) (cost : ℤ) : Op ℤ :=
  .derive sampleOwner "maa-1" (sampleChild id cost) 1700000003

def sampleEvidence (id : String) : OutcomeEvidence :=
  ⟨⟨"provider_free_canary", id, false⟩, hexText 'a' 64⟩

/-- Two children cost more than the envelope together, and a derivation is refused when it is
repeated after its child was settled or has expired. -/
theorem effect_envelope_exceeded :
    (∃ d, (run samplePrimitives .empty (sampleAccepted ++
        [sampleDerive "child-1" 10, sampleDerive "child-2" 1])).decisions.find? "decision-1" =
          some d ∧ d.body.effectEnvelope = some sampleEnvelope.body ∧
      sampleEnvelope.maxTotalCostUsd < ((effectChildren (run samplePrimitives .empty
        (sampleAccepted ++ [sampleDerive "child-1" 10, sampleDerive "child-2" 1]))
          "decision-1").map EffectChild.maxCostUsd).sum) ∧
    (deriveEffectChildAuthorization samplePrimitives (run samplePrimitives .empty (sampleAccepted ++
        [sampleDerive "child-1" 10, .settle sampleOwner "child-1" "attempt-1" .succeeded
          (sampleEvidence "child-1") 1700000004])) sampleOwner "maa-1" (sampleChild "child-1" 10)
            1700000005).map Prod.fst = .error "effect child is already consumed or terminal" ∧
    (deriveEffectChildAuthorization samplePrimitives (run samplePrimitives .empty (sampleAccepted ++
        [sampleDerive "child-1" 10])) sampleOwner "maa-1" (sampleChild "child-1" 10)
          1790000000).map Prod.fst = .error "effect child is expired" :=
  ⟨⟨_, rfl, rfl, of_decide_eq_true rfl⟩, rfl, rfl⟩

theorem effect_envelope_limits_sample :
    ((effectChildren (run samplePrimitives .empty (sampleAccepted ++
      [sampleDerive "child-1" 10, sampleDerive "child-2" 1])) "decision-1").map
        EffectChild.maxCostUsd).sum ≤ sampleEnvelope.maxTotalCostUsd + 1 :=
  ((effect_envelope_limits samplePrimitives (by decide) (sampleAccepted ++
    [sampleDerive "child-1" 10, sampleDerive "child-2" 1]) []).1 "decision-1" _ _ _ rfl rfl rfl).2

end Harness.Acceptance
