import Harness.Sanity.AcceptanceRows

/-! Every operation that goes through is one of the changes, or leaves the store as it was. -/

namespace Harness.Acceptance

open Lib Table Except
open Delegated (isBlank SpendStatus TerminalStatus)

variable {p : AuthenticatedPrincipal} {now : ℤ} {attemptId : String}
variable {C : Type} {prim : Primitives C} {s s' : Store C}

lemma requiredStr_eq_ok {value key x : String} :
    requiredStr value key = .ok x ↔ value ≠ "" ∧ value = x := by
  unfold requiredStr
  split_ifs with h
  · exact ⟨fun h' => (by cases h'), fun h' => absurd h h'.1⟩
  · rw [ok.injEq]
    exact ⟨fun h' => ⟨h, h'⟩, fun h' => h'.2⟩

variable {d : DecisionRow C} {e : EffectEnvelopeContract C} {ops : List (Op C)} {op : Op C}
  {evidence : OutcomeEvidence} {r row : SpendRow C}
  {owner id tenantId residual fresh childId : String} {field : String × String × String}
  {status : TerminalStatus} {u : Unit}

lemma requireScope_eq_ok {scope : String} :
    p.requireScope scope = .ok u ↔ p.hasScope scope = true := by
  unfold AuthenticatedPrincipal.requireScope
  rw [refuse_eq_ok, Bool.not_eq_false']

lemma requireSameField_eq_ok :
    requireSameField owner field = .ok u ↔ field.2.1 ≠ "" ∧ field.2.1 = field.2.2 := by
  obtain ⟨name, body, column⟩ := field
  simp only [requireSameField, persistedBodyStr, required, Option.elim, bind_eq_ok,
    refuse_eq_ok, requiredStr_eq_ok]
  constructor
  · rintro ⟨_, ⟨_, h1, -, h2, h3⟩, _, ⟨-, h4⟩, h5⟩
    cases h1
    cases h3
    exact ⟨by simpa using h2, by simpa [h4] using h5⟩
  · rintro ⟨hne, heq⟩
    refine ⟨body, ⟨body, rfl, (), by simpa using hne, rfl⟩, column, ⟨heq ▸ hne, rfl⟩, ?_⟩
    simpa using heq

lemma requireOwnerField_eq_ok {what : String} :
    requireOwnerField what owner field = .ok u ↔ field.2.1 ≠ "" ∧ field.2.1 = field.2.2 := by
  obtain ⟨name, mine, theirs⟩ := field
  simp only [requireOwnerField, bind_eq_ok, refuse_eq_ok, requiredStr_eq_ok]
  constructor
  · rintro ⟨_, ⟨h1, rfl⟩, _, ⟨-, rfl⟩, h2⟩
    exact ⟨h1, by simpa using h2⟩
  · rintro ⟨hne, heq⟩
    exact ⟨mine, ⟨hne, rfl⟩, theirs, ⟨heq ▸ hne, rfl⟩, by simpa using heq⟩

lemma loadDecision_eq_ok :
    loadDecision prim s id = .ok d ↔
      s.decisions.find? id = some d ∧ d.validateOwnerIntegrity prim = .ok () := by
  unfold loadDecision
  rw [bind_eq_ok]
  constructor
  · rintro ⟨d', hd, h⟩
    obtain ⟨hi, h⟩ := seq_ok h
    cases h
    exact ⟨required_eq_ok.mp hd, hi⟩
  · rintro ⟨hd, hi⟩
    exact ⟨d, required_eq_ok.mpr hd, seq_eq_ok.mpr ⟨hi, rfl⟩⟩

lemma loadSpend_eq_ok :
    loadSpend prim s id = .ok r ↔
      s.spends.find? id = some r ∧ r.validateOwnerIntegrity prim = .ok () := by
  unfold loadSpend
  rw [bind_eq_ok]
  constructor
  · rintro ⟨r', hr, h⟩
    obtain ⟨hi, h⟩ := seq_ok h
    cases h
    exact ⟨required_eq_ok.mp hr, hi⟩
  · rintro ⟨hr, hi⟩
    exact ⟨r, required_eq_ok.mpr hr, seq_eq_ok.mpr ⟨hi, rfl⟩⟩

lemma spendConflicts_eq_false (h : spendConflicts s row = false) :
    s.spends.find? row.spendAuthorizationId = none := by
  rw [find?_eq_none]
  intro r hr hid
  have := List.any_eq_false.mp h r hr
  simp [hid] at this

variable {a : AuthorizationRow C} {reply : AttemptReply C}

/-- The owner check of a spend that is read as intact asks that the fields agree. -/
lemma validateSpendRiskOwner_of_intact (hr : r.validateOwnerIntegrity prim = .ok ())
    (hid : r.riskAuthorizationId = a.authorizationId)
    (hsha : r.riskAuthorizationSha256 = a.authorizationSha256)
    (hdecision : r.decisionId = a.decisionId) (htenant : r.tenantId = a.tenantId)
    (hkind : r.principalKind = a.principalKind) (hprincipal : r.principalId = a.principalId)
    (hbody : r.decisionBodySha256 = a.decisionBodySha256)
    (hresidual : r.residualFindingSha256 = a.residualFindingSha256)
    (hgranted : a.executionGranted = false) :
    validateSpendRiskOwner r a = .ok () := by
  obtain ⟨hfields, -⟩ := seq_ok hr
  have hcolumns := fun field hf => requireSameField_eq_ok.mp (forM_eq_ok.mp hfields field hf)
  refine seq_eq_ok.mpr ⟨forM_eq_ok.mpr ?_, refuse_eq_ok.mpr hgranted⟩
  simp only [List.forall_mem_cons, requireOwnerField_eq_ok] at hcolumns ⊢
  obtain ⟨-, ⟨h1, e1⟩, ⟨h2, e2⟩, ⟨h3, e3⟩, ⟨h4, e4⟩, ⟨h5, e5⟩, ⟨h6, e6⟩, ⟨h7, e7⟩, ⟨h8, e8⟩, -⟩ :=
    hcolumns
  exact ⟨⟨e2 ▸ h2, hid⟩, ⟨e6 ▸ h6, hsha⟩, ⟨e1 ▸ h1, hdecision⟩, ⟨e3 ▸ h3, htenant⟩,
    ⟨e4 ▸ h4, congrArg _ hkind⟩, ⟨e5 ▸ h5, hprincipal⟩, ⟨e7 ▸ h7, hbody⟩, ⟨e8 ▸ h8, hresidual⟩,
    fun _ h => absurd h List.not_mem_nil⟩

lemma validateRiskDecisionOwner_eq_ok :
    validateRiskDecisionOwner a d = .ok () ↔
      (a.decisionId ≠ "" ∧ a.decisionId = d.decisionId) ∧
      (a.tenantId ≠ "" ∧ a.tenantId = d.tenantId) ∧
      (a.decisionBodySha256 ≠ "" ∧ a.decisionBodySha256 = d.decisionBodySha256) ∧
      (a.residualFindingSha256 ≠ "" ∧ a.residualFindingSha256 = d.residualFindingSha256) := by
  unfold validateRiskDecisionOwner
  rw [forM_eq_ok]
  simp only [List.forall_mem_cons, requireOwnerField_eq_ok, List.not_mem_nil, false_implies,
    implies_true, and_true]

lemma effectChildBody_eq_ok {r : EffectChildAuthorizationRequest C} {expiresAt : ℤ}
    {b : SpendBody C} (h : effectChildBody prim p a d e r expiresAt now = .ok b) :
    b = effectChildTerms prim p a d e r expiresAt now := by
  iterate 5 obtain ⟨-, h⟩ := seq_ok h
  exact (ok.inj h).symm

lemma PrincipalKind.eq_of_fixture {k k' : PrincipalKind}
    (h : decide (k = .fixturePrincipal) = decide (k' = .fixturePrincipal)) : k = k' := by
  cases k <;> cases k' <;> first | rfl | cases h

lemma insertIssuedSpend_cases {loaded : SpendRow C} {logical : String}
    (h : insertIssuedSpend prim s row logical = .ok (loaded, s')) :
    s' = s ∨ spendConflicts s row = false ∧ row.validateOwnerIntegrity prim = .ok () ∧
      s' = { s with spends := s.spends.insert row } := by
  unfold insertIssuedSpend at h
  split_ifs at h with hconflict
  · obtain ⟨found, -, h⟩ := bind_ok h
    obtain ⟨existing, -, h⟩ := bind_ok h
    obtain ⟨loaded', -, h⟩ := bind_ok h
    cases h
    exact .inl rfl
  · obtain ⟨loaded', hloaded, h⟩ := bind_ok h
    cases h
    obtain ⟨hfind, hintact⟩ := loadSpend_eq_ok.mp hloaded
    cases (find?_insert_self.symm.trans hfind)
    exact .inr ⟨Bool.not_eq_true _ ▸ hconflict, hintact, rfl⟩

lemma recordAttempt_eq_ok {t : AttemptRow C} :
    recordAttempt s r t now = .ok s' ↔ s.attempts.find? t.attemptId = none ∧
      (∀ t' ∈ s.attempts.rows, t'.tenantId = t.tenantId →
        t'.attemptBodySha256 ≠ t.attemptBodySha256) ∧
      s' = { s with
        spends := s.spends.insert (r.consumed t.attemptId now)
        attempts := s.attempts.insert t } := by
  unfold recordAttempt requireUniqueAttempt
  rw [seq_eq_ok, seq_eq_ok, refuse_eq_ok, refuse_eq_ok, and_assoc]
  refine and_congr ?_ (and_congr ?_ ?_)
  · simp [contains]
  · simp
  · exact ⟨fun h => (ok.inj h).symm, fun h => congrArg _ h.symm⟩

lemma findAttempt_eq_none (h : s.attempts.find? attemptId = none) :
    findAttempt s tenantId attemptId = none := by
  unfold findAttempt
  rw [h]
  rfl

lemma settleAgain_eq_ok {existing row : AttemptRow C} :
    settleAgain s r existing row = .ok (reply, s') ↔
      existing.spendAuthorizationId = row.spendAuthorizationId ∧ existing.status = row.status ∧
        existing.terminalClass = row.terminalClass ∧ existing.receiptSha256 = row.receiptSha256 ∧
        r.status = .consumed ∧ r.consumedByAttemptId = some row.attemptId ∧
        reply = ⟨existing, true⟩ ∧ s' = s := by
  unfold settleAgain
  rw [seq_eq_ok, seq_eq_ok, seq_eq_ok, refuse_eq_ok, refuse_eq_ok, refuse_eq_ok]
  simp only [pure, Except.pure, ok.injEq, Prod.mk.injEq, decide_eq_false_iff_not, ne_eq,
    not_not, Bool.not_eq_false', Bool.and_eq_true, decide_eq_true_eq, Bool.or_eq_false_iff]
  constructor
  · rintro ⟨h1, ⟨⟨h2, h3⟩, h4⟩, ⟨h5, h6⟩, rfl, rfl⟩
    exact ⟨h1, h2, h3, h4, h5, h6, rfl, rfl⟩
  · rintro ⟨h1, h2, h3, h4, h5, h6, rfl, rfl⟩
    exact ⟨h1, ⟨⟨h2, h3⟩, h4⟩, ⟨h5, h6⟩, rfl, rfl⟩

variable [LinearOrder C]

lemma loadAuthorization_eq_ok :
    loadAuthorization prim s id = .ok a ↔
      s.authorizations.find? id = some a ∧ a.validateOwnerIntegrity prim = .ok () := by
  unfold loadAuthorization
  rw [bind_eq_ok]
  constructor
  · rintro ⟨a', ha, h⟩
    obtain ⟨hi, h⟩ := seq_ok h
    cases h
    exact ⟨required_eq_ok.mp ha, hi⟩
  · rintro ⟨ha, hi⟩
    exact ⟨a, required_eq_ok.mpr ha, seq_eq_ok.mpr ⟨hi, rfl⟩⟩

lemma fixture_eq_of_intact (h : a.validateOwnerIntegrity prim = .ok ()) :
    a.body.fixtureOnly = decide (a.principalKind = .fixturePrincipal) := by
  iterate 4 obtain ⟨-, h⟩ := seq_ok h
  obtain ⟨h, -⟩ := seq_ok h
  simpa using refuse_ok h

variable [AddCommMonoid C]

lemma upsert_change {body : DecisionBody C} {status : DecisionStatus}
    {principal : Option AuthenticatedPrincipal} {expiresAt : Option ℤ} {row : DecisionRow C}
    (h : upsertManagedAcceptanceDecision prim s tenantId body residual status principal expiresAt
        fresh now = .ok (row, s')) :
    s' = s ∨ Change prim s s' ∧ s'.receipts = s.receipts := by
  iterate 2 obtain ⟨-, h⟩ := seq_ok h
  obtain ⟨expiry, -, h⟩ := bind_ok h
  iterate 2 obtain ⟨-, h⟩ := seq_ok h
  obtain ⟨henvelope, h⟩ := seq_ok h
  obtain ⟨-, h⟩ := seq_ok h
  obtain ⟨sha256, -, h⟩ := bind_ok h
  iterate 3 obtain ⟨-, h⟩ := seq_ok h
  split at h
  · obtain ⟨-, h⟩ := seq_ok h
    obtain ⟨row', -, h⟩ := bind_ok h
    cases h
    exact .inl rfl
  · next hnew =>
    obtain ⟨-, h⟩ := seq_ok h
    obtain ⟨row', hrow, h⟩ := bind_ok h
    cases h
    obtain ⟨hfind, hintact⟩ := loadDecision_eq_ok.mp hrow
    cases (find?_insert_self.symm.trans hfind)
    exact .inr ⟨.drafted hnew rfl hintact ⟨principal, now, henvelope⟩, rfl⟩

lemma accept_change {r : RiskAcknowledgementRequest} {row : AuthorizationRow C}
    (h : acceptManagedAcceptanceDecision prim s p r fresh now = .ok (row, s')) :
    s' = s ∨ Change prim s s' ∧ ∃ d : DecisionRow C,
      persistTransition prim.transitionSha256 s.receipts d .draftPendingOperator
        .operatorAccepted p now "risk_acknowledgement_accepted" = .ok s'.receipts := by
  iterate 3 obtain ⟨-, h⟩ := seq_ok h
  obtain ⟨d, hd, h⟩ := bind_ok h
  obtain ⟨expiresAt, hchecked, h⟩ := bind_ok h
  split at h
  · obtain ⟨existing, -, h⟩ := bind_ok h
    obtain ⟨-, h⟩ := seq_ok h
    cases h
    exact .inl rfl
  · obtain ⟨hdraft, h⟩ := seq_ok h
    obtain ⟨hunused, h⟩ := seq_ok h
    obtain ⟨receipts, hrecorded, h⟩ := bind_ok h
    obtain ⟨row', hrow, h⟩ := bind_ok h
    cases h
    obtain ⟨hfind, hintact⟩ := loadAuthorization_eq_ok.mp hrow
    cases (find?_insert_self.symm.trans hfind)
    refine .inr ⟨.accepted (loadDecision_eq_ok.mp hd).1 hchecked ?_ rfl ?_ hrecorded hintact,
      d, hrecorded⟩
    · simpa using refuse_ok hdraft
    · simpa [contains] using refuse_ok hunused

lemma revoke_change {row : AuthorizationRow C}
    (h : revokeManagedAcceptanceAuthorization prim s p id now = .ok (row, s')) :
    Change prim s s' ∧ ∃ a d, s.authorizations.find? id = some a ∧
      s.decisions.find? a.decisionId = some d ∧
      persistTransition prim.transitionSha256 s.receipts d d.status .revoked p now
        "risk_authorization_revoked" = .ok s'.receipts := by
  obtain ⟨-, h⟩ := seq_ok h
  obtain ⟨a, ha, h⟩ := bind_ok h
  obtain ⟨-, h⟩ := seq_ok h
  obtain ⟨d, hd, h⟩ := bind_ok h
  obtain ⟨receipts, hrecorded, h⟩ := bind_ok h
  obtain ⟨row', -, h⟩ := bind_ok h
  cases h
  obtain ⟨hfind, -⟩ := loadAuthorization_eq_ok.mp ha
  obtain rfl := key_of_find? hfind
  obtain ⟨hdecision, -⟩ := loadDecision_eq_ok.mp hd
  exact ⟨.revoked hfind hdecision hrecorded, a, d, hfind, hdecision, hrecorded⟩

lemma issue_change {r : SpendAuthorizationRequest C}
    (h : issueManagedAcceptanceSpendAuthorization prim s p r fresh now = .ok (row, s')) :
    s' = s ∨ Change prim s s' ∧ s'.receipts = s.receipts := by
  iterate 2 obtain ⟨-, h⟩ := seq_ok h
  obtain ⟨a, ha, h⟩ := bind_ok h
  obtain ⟨hrisk, h⟩ := seq_ok h
  obtain ⟨hgranted, h⟩ := seq_ok h
  obtain ⟨d, -, h⟩ := bind_ok h
  obtain ⟨-, h⟩ := seq_ok h
  obtain ⟨found, -, h⟩ := bind_ok h
  split at h
  · obtain ⟨loaded, -, h⟩ := bind_ok h
    cases h
    exact .inl rfl
  · obtain rfl | ⟨hconflict, hintact, rfl⟩ := insertIssuedSpend_cases h
    · exact .inl rfl
    · obtain ⟨hauth, hauthIntact⟩ := loadAuthorization_eq_ok.mp ha
      obtain ⟨htenant, hrisk⟩ := seq_ok hrisk
      obtain ⟨hprincipal, hrisk⟩ := seq_ok hrisk
      obtain ⟨hactive, hrisk⟩ := seq_ok hrisk
      obtain ⟨-, hfixture⟩ := seq_ok hrisk
      refine .inr ⟨.issued (a := a) ⟨hauth, ?_, spendConflicts_eq_false hconflict, rfl, rfl, ?_,
        hintact⟩ rfl, rfl⟩
      · simpa using refuse_ok hactive
      · refine validateSpendRiskOwner_of_intact hintact (key_of_find? hauth).symm rfl rfl
          ?_ ?_ ?_ rfl rfl (refuse_ok hgranted)
        · exact (by simpa using refuse_ok htenant : a.tenantId = p.tenantId).symm
        · apply PrincipalKind.eq_of_fixture
          rw [← fixture_eq_of_intact hauthIntact]
          change p.fixture = _
          simpa using refuse_ok hfixture
        · exact (by simpa using refuse_ok hprincipal : a.principalId = p.principalId).symm

structure EffectParent (prim : Primitives C) (a : AuthorizationRow C) (d : DecisionRow C)
    (p : AuthenticatedPrincipal) (now : ℤ) (e : EffectEnvelopeContract C) : Prop where
  active : a.status = .active
  tenant : a.tenantId = p.tenantId
  kind : a.principalKind = .operatorApiKey
  granted : a.executionGranted = false
  accepted : d.status = .operatorAccepted
  decision : validateRiskDecisionOwner a d = .ok ()
  envelope : validateEffectEnvelopeBody prim d.body p.tenantId none now = .ok e
  decisionId : d.decisionId = e.decisionId
  decisionOwner : d.principalId = some e.ownerPrincipalId
  authorizationOwner : a.principalId = e.ownerPrincipalId
  principal : p.principalId = e.ownerPrincipalId
  expiresAt : d.expiresAt = e.expiresAt
  scope : a.scope.effectEnvelope = some e.body

lemma effectParentFromAuthority_eq_ok :
    effectParentFromAuthority prim a d p now = .ok e ↔ EffectParent prim a d p now e := by
  constructor
  · intro h
    obtain ⟨h1, h⟩ := seq_ok h
    obtain ⟨h2, h⟩ := seq_ok h
    obtain ⟨h3, h⟩ := seq_ok h
    obtain ⟨h4, h⟩ := seq_ok h
    obtain ⟨h5, h⟩ := seq_ok h
    obtain ⟨e', h6, h⟩ := bind_ok h
    obtain ⟨h7, h⟩ := seq_ok h
    obtain ⟨h8, h⟩ := seq_ok h
    obtain ⟨h9, h⟩ := seq_ok h
    cases h
    simp only [refuse_eq_ok, decide_eq_false_iff_not, not_not, ne_eq, Bool.or_eq_false_iff] at *
    exact ⟨h1, h2, h3.1, h3.2, h4, h5, h6, h7.1.1.1, h7.1.1.2, h7.1.2, h7.2, h8, h9⟩
  · rintro ⟨h1, h2, h3, h4, h5, h6, h7, h8, h9, h10, h11, h12, h13⟩
    refine pass (by simp [h1]) ?_
    refine pass (by simp [h2]) ?_
    refine pass (by simp [h3, h4]) ?_
    refine pass (by simp [h5]) ?_
    refine seq_eq_ok.mpr ⟨h6, ?_⟩
    refine bind_eq_ok.mpr ⟨e, h7, ?_⟩
    refine pass (by simp [h8, h9, h10, h11]) ?_
    refine pass (by simp [h12]) ?_
    exact pass (by simp [h13]) rfl

/-- A derivation either repeats a stored child or adds one. -/
lemma derive_cases {parentId : String} {r : EffectChildAuthorizationRequest C}
    {receipt : EffectChildReceipt C}
    (h : deriveEffectChildAuthorization prim s p parentId r now = .ok (receipt, s')) :
    s' = s ∨ ∃ a d e body, NewSpend prim s a (spendRow body (prim.spendSha256 body) now) ∧
      Derivation prim s a d p e r now body ∧
      s' = { s with spends := s.spends.insert (spendRow body (prim.spendSha256 body) now) } := by
  iterate 2 obtain ⟨-, h⟩ := seq_ok h
  obtain ⟨hfixture, h⟩ := seq_ok h
  obtain ⟨a, ha, h⟩ := bind_ok h
  obtain ⟨d, hd, h⟩ := bind_ok h
  obtain ⟨e, he, h⟩ := bind_ok h
  obtain ⟨expiresAt, hrequest, h⟩ := bind_ok h
  obtain ⟨draft, hdraft, h⟩ := bind_ok h
  obtain rfl := effectChildBody_eq_ok hdraft
  obtain ⟨scanned, hscan, h⟩ := bind_ok h
  split at h
  · obtain ⟨loaded, -, h⟩ := bind_ok h
    cases h
    exact .inl rfl
  · next childCount reservedCost =>
    obtain ⟨hroom, h⟩ := seq_ok h
    obtain ⟨hconflict, h⟩ := seq_ok h
    obtain ⟨loaded, hloaded, h⟩ := bind_ok h
    obtain ⟨child, -, h⟩ := bind_ok h
    cases h
    obtain ⟨hfind, hintact⟩ := loadSpend_eq_ok.mp hloaded
    cases (find?_insert_self.symm.trans hfind)
    obtain ⟨hauth, -⟩ := loadAuthorization_eq_ok.mp ha
    obtain ⟨hdecision, -⟩ := loadDecision_eq_ok.mp hd
    have hparent := effectParentFromAuthority_eq_ok.mp he
    obtain ⟨⟨-, hid⟩, -, ⟨-, hsha⟩, -, hresidual⟩ :=
      validateRiskDecisionOwner_eq_ok.mp hparent.decision
    refine .inr ⟨a, d, e, _, ⟨?_, hparent.active, ?_, rfl, rfl, ?_, hintact⟩,
      ⟨hdecision, refuse_ok hfixture, he, ⟨expiresAt, hrequest, rfl⟩,
        childCount, reservedCost, hscan, hroom⟩, rfl⟩
    · obtain rfl := key_of_find? hauth
      exact hauth
    · exact spendConflicts_eq_false (refuse_ok hconflict)
    · refine validateSpendRiskOwner_of_intact hintact rfl rfl hid.symm hparent.tenant.symm ?_
        (hparent.principal.trans hparent.authorizationOwner.symm) hsha.symm hresidual.symm
        hparent.granted
      rw [hparent.kind]
      have hkind := refuse_ok hfixture
      unfold AuthenticatedPrincipal.fixture at hkind
      change p.kind = _
      cases hp : p.kind with
      | operatorApiKey => rfl
      | fixturePrincipal => simp [hp] at hkind

lemma admitInternal_change {body : AdmissionBody C} {spendId : String} {dryRun : Bool}
    (h : admitManagedAcceptanceAttemptInternal prim s p attemptId body spendId dryRun fresh now =
      .ok (reply, s')) :
    s' = s ∨ Change prim s s' ∧ s'.receipts = s.receipts := by
  unfold admitManagedAcceptanceAttemptInternal at h
  split at h
  · obtain ⟨-, h⟩ := seq_ok h
    obtain ⟨-, h⟩ := seq_ok h
    cases h
    exact .inl rfl
  · obtain ⟨-, h⟩ := seq_ok h
    obtain ⟨r, hr, h⟩ := bind_ok h
    iterate 2 obtain ⟨-, h⟩ := seq_ok h
    obtain ⟨a, -, h⟩ := bind_ok h
    obtain ⟨-, h⟩ := seq_ok h
    obtain ⟨d, -, h⟩ := bind_ok h
    obtain ⟨-, h⟩ := seq_ok h
    obtain ⟨hactive, h⟩ := seq_ok h
    obtain ⟨-, h⟩ := seq_ok h
    obtain ⟨manifestSha256, -, h⟩ := bind_ok h
    obtain ⟨s₁, hrecord, h⟩ := bind_ok h
    cases h
    obtain ⟨hfresh, -, rfl⟩ := recordAttempt_eq_ok.mp hrecord
    obtain ⟨hfind, -⟩ := loadSpend_eq_ok.mp hr
    refine .inr ⟨.attempted (r := r) ?_ ?_ rfl hfresh ⟨rfl, fun b hb => nomatch hb⟩, rfl⟩
    · obtain rfl := key_of_find? hfind
      exact hfind
    · simpa using refuse_ok hactive

lemma complete_change {leaseToken : String} {terminalClass receipt : String} {row : AttemptRow C}
    (h : completeManagedAcceptanceAttempt prim s attemptId leaseToken status terminalClass receipt
        now = .ok (row, s')) :
    s' = s ∨ Change prim s s' ∧ s'.receipts = s.receipts := by
  obtain ⟨t, ht, h⟩ := bind_ok h
  obtain ⟨-, h⟩ := seq_ok h
  split at h
  · obtain ⟨-, h⟩ := seq_ok h
    cases h
    exact .inl rfl
  · next hrunning =>
    cases h
    have hfind := required_eq_ok.mp ht
    obtain rfl := key_of_find? hfind
    exact .inr ⟨.completed hfind hrunning, rfl⟩

/-- What a settlement has checked before it looks for an earlier one. -/
structure Settlement (prim : Primitives C) (s : Store C) (p : AuthenticatedPrincipal)
    (childId : String) (status : TerminalStatus) (evidence : OutcomeEvidence) (r : SpendRow C)
    (child : EffectChild C) : Prop where
  scopes : p.hasScope scopeDelegatedExecute = true ∧ p.hasScope scopeAttemptAdmit = true
  production : p.fixture = false
  status : status ∈ [TerminalStatus.succeeded, .failed, .outcomeUnknown]
  validEvidence : validateEffectOutcomeEvidence prim evidence = .ok ()
  spend : s.spends.find? childId = some r
  intact : r.validateOwnerIntegrity prim = .ok ()
  child : ∃ a d, loadAuthorization prim s r.riskAuthorizationId = .ok a ∧
    loadDecision prim s r.decisionId = .ok d ∧
    validateEffectChildForSettlement prim r a d p = .ok child
  bound : evidence.evidence.childAuthorizationId = childId

/-- A settlement repeats the attempt that is stored under its id or records a new one. -/
lemma settle_eq_ok :
    settleEffectChildAuthorization prim s p childId attemptId status evidence now =
        .ok (reply, s') ↔
      ∃ r child, Settlement prim s p childId status evidence r child ∧
        ((∃ existing, findAttempt s p.tenantId attemptId = some existing ∧
            settleAgain s r existing (settledRow prim r child p attemptId status evidence now) =
              .ok (reply, s')) ∨
          findAttempt s p.tenantId attemptId = none ∧ r.status = .active ∧
            recordAttempt s r (settledRow prim r child p attemptId status evidence now) now =
              .ok s' ∧
            reply = ⟨settledRow prim r child p attemptId status evidence now, false⟩) := by
  constructor
  · intro h
    obtain ⟨h1, h⟩ := seq_ok h
    obtain ⟨h2, h⟩ := seq_ok h
    obtain ⟨h3, h⟩ := seq_ok h
    obtain ⟨h4, h⟩ := seq_ok h
    obtain ⟨h5, h⟩ := seq_ok h
    obtain ⟨r, h6, h⟩ := bind_ok h
    obtain ⟨a, h7, h⟩ := bind_ok h
    obtain ⟨d, h8, h⟩ := bind_ok h
    obtain ⟨child, h9, h⟩ := bind_ok h
    obtain ⟨h10, h⟩ := seq_ok h
    obtain ⟨hfind, hintact⟩ := loadSpend_eq_ok.mp h6
    refine ⟨r, child, ⟨⟨requireScope_eq_ok.mp h1, requireScope_eq_ok.mp h2⟩,
      refuse_ok h3, of_not_not (of_decide_eq_false (refuse_ok h4)), h5, hfind, hintact,
      ⟨a, d, h7, h8, h9⟩, by simpa using refuse_ok h10⟩, ?_⟩
    split at h
    · next existing hexisting => exact .inl ⟨existing, hexisting, h⟩
    · next hnone =>
      obtain ⟨hactive, h⟩ := seq_ok h
      obtain ⟨s₁, hrecord, h⟩ := bind_ok h
      obtain ⟨hreply, rfl⟩ := Prod.mk.inj (ok.inj h)
      exact .inr ⟨hnone, by simpa using refuse_ok hactive, hrecord, hreply.symm⟩
  · rintro ⟨r, child, hs, h⟩
    obtain ⟨a, d, h7, h8, h9⟩ := hs.child
    refine seq_eq_ok.mpr ⟨requireScope_eq_ok.mpr hs.scopes.1, ?_⟩
    refine seq_eq_ok.mpr ⟨requireScope_eq_ok.mpr hs.scopes.2, ?_⟩
    refine pass hs.production ?_
    refine pass (decide_eq_false (not_not.mpr hs.status)) ?_
    refine seq_eq_ok.mpr ⟨hs.validEvidence, ?_⟩
    refine bind_eq_ok.mpr ⟨r, loadSpend_eq_ok.mpr ⟨hs.spend, hs.intact⟩, ?_⟩
    refine bind_eq_ok.mpr ⟨a, h7, bind_eq_ok.mpr ⟨d, h8, bind_eq_ok.mpr ⟨child, h9, ?_⟩⟩⟩
    refine pass (by simpa using hs.bound) ?_
    rcases h with ⟨existing, hexisting, h⟩ | ⟨hnone, hactive, hrecord, rfl⟩
    · simpa [hexisting] using h
    · simp only [hnone]
      refine pass (by simpa using hactive) ?_
      exact bind_eq_ok.mpr ⟨s', hrecord, rfl⟩

lemma settle_change
    (h : settleEffectChildAuthorization prim s p childId attemptId status evidence now =
      .ok (reply, s')) :
    s' = s ∨ Change prim s s' ∧ s'.receipts = s.receipts := by
  obtain ⟨r, child, hs, ⟨existing, -, h⟩ | ⟨-, hactive, hrecord, -⟩⟩ := settle_eq_ok.mp h
  · exact .inl (settleAgain_eq_ok.mp h).2.2.2.2.2.2.2
  · obtain ⟨hfresh, -, rfl⟩ := recordAttempt_eq_ok.mp hrecord
    refine .inr ⟨.attempted (r := r) ?_ hactive rfl hfresh ⟨rfl, ?_⟩, rfl⟩
    · have hfind := hs.spend
      obtain rfl := key_of_find? hfind
      exact hfind
    · rintro b ⟨⟩
      rfl

/-- The receipts that an operation writes: none, unless it accepts or revokes. -/
def Op.Records (prim : Primitives C) (op : Op C) (s s' : Store C) : Prop :=
  match op with
  | .accept p _ _ now => ∃ d : DecisionRow C,
      persistTransition prim.transitionSha256 s.receipts d .draftPendingOperator
        .operatorAccepted p now "risk_acknowledgement_accepted" = .ok s'.receipts
  | .revoke p id now => ∃ a d, s.authorizations.find? id = some a ∧
      s.decisions.find? a.decisionId = some d ∧
      persistTransition prim.transitionSha256 s.receipts d d.status .revoked p now
        "risk_authorization_revoked" = .ok s'.receipts
  | _ => s'.receipts = s.receipts

lemma apply_cases (h : op.apply prim s = .ok s') :
    s' = s ∨ Change prim s s' ∧ op.Records prim s s' := by
  cases op with
  | upsert =>
    obtain ⟨reply, hreply, rfl⟩ := map_eq_ok.mp h
    exact upsert_change hreply
  | persistEnvelope =>
    obtain ⟨reply, hreply, rfl⟩ := map_eq_ok.mp h
    iterate 5 obtain ⟨-, hreply⟩ := seq_ok hreply
    exact upsert_change hreply
  | accept =>
    obtain ⟨reply, hreply, rfl⟩ := map_eq_ok.mp h
    exact accept_change hreply
  | issue =>
    obtain ⟨reply, hreply, rfl⟩ := map_eq_ok.mp h
    exact issue_change hreply
  | derive =>
    obtain ⟨reply, hreply, rfl⟩ := map_eq_ok.mp h
    obtain h | ⟨a, d, e, body, hspend, hchecked, h⟩ := derive_cases hreply
    · exact .inl h
    · rw [h]
      exact .inr ⟨.derived hspend hchecked, rfl⟩
  | settle =>
    obtain ⟨reply, hreply, rfl⟩ := map_eq_ok.mp h
    exact settle_change hreply
  | admitAttempt =>
    obtain ⟨reply, hreply, rfl⟩ := map_eq_ok.mp h
    obtain ⟨-, hreply⟩ := seq_ok hreply
    obtain ⟨-, hinternal⟩ := seq_ok hreply
    exact admitInternal_change hinternal
  | admitInternal =>
    obtain ⟨reply, hreply, rfl⟩ := map_eq_ok.mp h
    exact admitInternal_change hreply
  | complete =>
    obtain ⟨reply, hreply, rfl⟩ := map_eq_ok.mp h
    exact complete_change hreply
  | revoke =>
    obtain ⟨reply, hreply, rfl⟩ := map_eq_ok.mp h
    exact .inr (revoke_change hreply)

lemma step_change : step prim s op = s ∨ Change prim s (step prim s op) := by
  unfold step
  split
  · exact .inl rfl
  · next h => exact (apply_cases h).imp_right And.left

/-- What every change keeps holds along a run. -/
lemma run_induction {P : Store C → Prop} (hP : ∀ s s', P s → Change prim s s' → P s') (hs : P s) :
    P (run prim s ops) := by
  induction ops generalizing s with
  | nil => exact hs
  | cons op ops ih =>
    refine ih ?_
    have hstep : step prim s op = s ∨ Change prim s (step prim s op) := step_change
    rcases hstep with h | h
    · rw [h]
      exact hs
    · exact hP s _ hs h

lemma run_follows : Follows s (run prim s ops) :=
  run_induction (fun _ _ h hc => h.trans hc.follows) (.refl s)

end Harness.Acceptance
