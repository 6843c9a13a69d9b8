import Harness.Sanity.AcceptanceSteps

/-! Who owns what, in every store that a run reaches: an authorization comes from a decision
that has been decided and is the only one to do so, a spend from an authorization, an attempt
from the spend that it consumed. -/

namespace Harness.Acceptance

open Lib Table SpendRow
open Delegated (SpendStatus TerminalStatus)

variable {C : Type} [AddCommMonoid C] [LinearOrder C] {prim : Primitives C} {s s' : Store C}

structure DecidedBy (a : AuthorizationRow C) (d : DecisionRow C) : Prop where
  owner : validateRiskDecisionOwner a d = .ok ()
  decided : d.status ≠ .draftPendingOperator
  principal : d.principalId = some a.principalId
  scope : a.scope.effectEnvelope = d.body.effectEnvelope
  granted : a.executionGranted = false

variable {t : AttemptRow C} {a a' : AuthorizationRow C} {d : DecisionRow C} {r : SpendRow C}
  {k id : String} {now : ℤ}

omit [AddCommMonoid C] [LinearOrder C] in
lemma DecidedBy.follows {d' : DecisionRow C} (h : DecidedBy a d) (ha : AuthorizationFollows a a')
    (hd : DecisionFollows d d') : DecidedBy a' d' := by
  obtain ⟨hdecided, hprincipal⟩ := hd.decided h.decided
  refine ⟨?_, hdecided, ?_, ?_, ?_⟩
  · -- the check reads no column that changes
    change validateRiskDecisionOwner a'.terms d'.terms = .ok ()
    rw [ha.terms, hd.terms]
    exact h.owner
  · rw [hprincipal, h.principal, ha.principalId]
  · rw [ha.scope, hd.body, h.scope]
  · exact ha.executionGranted.trans h.granted

structure NewAuthorization (prim : Primitives C) (s s' : Store C) (a : AuthorizationRow C) :
    Prop where
  intact : a.validateOwnerIntegrity prim = .ok ()
  active : a.status = .active
  draft : ∃ d, s.decisions.find? a.decisionId = some d ∧ d.status = .draftPendingOperator
  accepted : ∃ d, s'.decisions.find? a.decisionId = some d ∧ d.status = .operatorAccepted ∧
    DecidedBy a d

structure Acceptable (prim : Primitives C) (p : AuthenticatedPrincipal)
    (r : RiskAcknowledgementRequest) (d : DecisionRow C) (now : ℤ) : Prop where
  tenant : d.tenantId = p.tenantId
  sha256 : d.decisionBodySha256 = r.expectedDecisionBodySha256
  residual : d.residualFindingSha256 = r.expectedResidualFindingSha256
  envelope : requireAcceptableEnvelope prim d p now = .ok ()

lemma validateAcceptPreconditions_spec {p : AuthenticatedPrincipal} {r : RiskAcknowledgementRequest}
    {expiresAt : ℤ} (h : validateAcceptPreconditions prim p r d now = .ok expiresAt) :
    Acceptable prim p r d now := by
  obtain ⟨h1, h⟩ := seq_ok h
  obtain ⟨-, h⟩ := seq_ok h
  obtain ⟨h2, h⟩ := seq_ok h
  obtain ⟨h3, h⟩ := seq_ok h
  obtain ⟨-, h⟩ := seq_ok h
  obtain ⟨phrase, -, h⟩ := bind_ok h
  obtain ⟨-, h⟩ := seq_ok h
  obtain ⟨h4, -⟩ := seq_ok h
  exact ⟨by simpa using refuse_ok h1, by simpa using refuse_ok h2,
    by simpa using refuse_ok h3, h4⟩

omit [AddCommMonoid C] in
/-- The decision check of an authorization that is read as intact. -/
lemma validateRiskDecisionOwner_of_intact (ha : a.validateOwnerIntegrity prim = .ok ())
    (hid : a.decisionId = d.decisionId) (htenant : a.tenantId = d.tenantId)
    (hsha : a.decisionBodySha256 = d.decisionBodySha256)
    (hresidual : a.residualFindingSha256 = d.residualFindingSha256) :
    validateRiskDecisionOwner a d = .ok () := by
  obtain ⟨hfields, -⟩ := seq_ok ha
  have hcolumns := fun field hf => requireSameField_eq_ok.mp (forM_eq_ok.mp hfields field hf)
  simp only [List.forall_mem_cons] at hcolumns
  obtain ⟨-, ⟨h1, e1⟩, ⟨h2, e2⟩, -, -, ⟨h3, e3⟩, ⟨h4, e4⟩, -⟩ := hcolumns
  exact validateRiskDecisionOwner_eq_ok.mpr
    ⟨⟨e1 ▸ h1, hid⟩, ⟨e2 ▸ h2, htenant⟩, ⟨e3 ▸ h3, hsha⟩, ⟨e4 ▸ h4, hresidual⟩⟩

lemma Change.decisions_came (h : Change prim s s') :
    s.decisions.Came DecisionFollows (fun d => d.status = .draftPendingOperator ∧
      d.validateOwnerIntegrity prim = .ok () ∧ ∃ principal now,
        validateDecisionEnvelope prim d.body d.tenantId principal now = .ok ()) s'.decisions := by
  cases h with
  | drafted fresh draft intact envelope =>
    exact .insert_new .refl fresh ⟨draft, intact, envelope⟩
  | accepted decision _ draft => exact .insert_update .refl decision (.accepted draft) rfl
  | revoked _ decision => exact .insert_update .refl decision .withdrawn rfl
  | issued | derived | attempted | completed => exact .refl .refl _

lemma Change.authorizations_came (h : Change prim s s') :
    s.authorizations.Came AuthorizationFollows (NewAuthorization prim s s') s'.authorizations := by
  cases h with
  | @accepted p r d body fresh now expiresAt receipts decision checked draft built unused recorded
      intact =>
    have hd := key_of_find? decision
    have hok := validateAcceptPreconditions_spec checked
    subst built
    refine .insert_new .refl unused ⟨intact, rfl, ⟨d, decision, draft⟩, d.accepted p now, ?_, rfl, ?_⟩
    · change (s.decisions.insert (d.accepted p now)).find? r.decisionId = _
      rw [← hd]
      exact find?_insert_self
    · exact ⟨validateRiskDecisionOwner_of_intact intact hd.symm hok.tenant.symm hok.sha256.symm
        hok.residual.symm, nofun, rfl, rfl, rfl⟩
  | revoked authorization => exact .insert_update .refl authorization .revoked rfl
  | drafted | issued | derived | attempted | completed => exact .refl .refl _

/-- A new spend: issued for a trial, or derived. -/
def SpendAdded (prim : Primitives C) (s : Store C) (r : SpendRow C) : Prop :=
  ∃ a, NewSpend prim s a r ∧ ((∃ fields, r.body.terms = .trial fields) ∨
    ∃ d p e request now body, r = spendRow body (prim.spendSha256 body) now ∧
      Derivation prim s a d p e request now body)

lemma Change.spends_came (h : Change prim s s') :
    s.spends.Came SpendFollows (SpendAdded prim s) s'.spends := by
  cases h with
  | issued spend trial => exact .insert_new .refl spend.fresh ⟨_, spend, .inl ⟨_, trial⟩⟩
  | derived spend checked =>
    exact .insert_new .refl spend.fresh ⟨_, spend, .inr ⟨_, _, _, _, _, _, rfl, checked⟩⟩
  | attempted spend active => exact .insert_update .refl spend (.consumed active) rfl
  | revoked => exact .map revokedUnder_id fun r _ => .revokedUnder r
  | drafted | accepted | completed => exact .refl .refl _

structure ConsumedBy (r : SpendRow C) (t : AttemptRow C) : Prop where
  status : r.status = .consumed
  attempt : r.consumedByAttemptId = some t.attemptId
  authorization : t.authorizationId = r.riskAuthorizationId

structure NewAttempt (prim : Primitives C) (s s' : Store C) (t : AttemptRow C) : Prop where
  recorded : Recorded prim t
  before : ∃ r, s.spends.find? t.spendAuthorizationId = some r ∧ r.status = .active ∧
    t.authorizationId = r.riskAuthorizationId
  after : ∃ r, s'.spends.find? t.spendAuthorizationId = some r ∧ ConsumedBy r t

lemma Change.attempts_came (h : Change prim s s') :
    s.attempts.Came AttemptFollows (NewAttempt prim s s') s'.attempts := by
  cases h with
  | @attempted r t now spend active authorization fresh recorded =>
    refine .insert_new .refl fresh ⟨recorded, ⟨r, spend, active, authorization⟩,
      r.consumed t.attemptId now, ?_, rfl, rfl, authorization⟩
    rw [← key_of_find? spend]
    exact find?_insert_self
  | completed attempt running => exact .insert_update .refl attempt (.completed running) rfl
  | drafted | accepted | issued | derived | revoked => exact .refl .refl _

/-- Every authorization has its decision, every spend its authorization. -/
structure Owned (prim : Primitives C) (s : Store C) : Prop where
  decisions : ∀ k d, s.decisions.find? k = some d → d.validateOwnerIntegrity prim = .ok ()
  authorizations : ∀ k a, s.authorizations.find? k = some a →
    a.validateOwnerIntegrity prim = .ok () ∧
      ∃ d, s.decisions.find? a.decisionId = some d ∧ DecidedBy a d
  spends : ∀ k r, s.spends.find? k = some r → r.validateOwnerIntegrity prim = .ok () ∧
    ∃ a, s.authorizations.find? r.riskAuthorizationId = some a ∧
      validateSpendRiskOwner r a = .ok ()

omit [AddCommMonoid C] in
lemma Owned.empty : Owned prim (Store.empty : Store C) where
  decisions _ _ h := by cases h
  authorizations _ _ h := by cases h
  spends _ _ h := by cases h

lemma Owned.change (hs : Owned prim s) (h : Change prim s s') : Owned prim s' where
  decisions k d hd := by
    rcases h.decisions_came k d hd with ⟨d₀, hd₀, hf⟩ | ⟨-, -, hintact, -⟩
    · change d.terms.validateOwnerIntegrity prim = .ok ()
      rw [hf.terms]
      exact hs.decisions k d₀ hd₀
    · exact hintact
  authorizations k a ha := by
    rcases h.authorizations_came k a ha with ⟨a₀, ha₀, hf⟩ | ⟨-, hnew⟩
    · obtain ⟨hintact, d₀, hd₀, hdecided⟩ := hs.authorizations k a₀ ha₀
      obtain ⟨d, hd, hdf⟩ := h.follows.decisions _ d₀ hd₀
      refine ⟨?_, d, ?_, hdecided.follows hf hdf⟩
      · change a.terms.validateOwnerIntegrity prim = .ok ()
        rw [hf.terms]
        exact hintact
      · rw [hf.decisionId]
        exact hd
    · obtain ⟨d, hd, -, hdecided⟩ := hnew.accepted
      exact ⟨hnew.intact, d, hd, hdecided⟩
  spends k r hr := by
    rcases h.spends_came k r hr with ⟨r₀, hr₀, hf⟩ | ⟨-, a₀, hnew, -⟩
    · obtain ⟨hintact, a₀, ha₀, howner⟩ := hs.spends k r₀ hr₀
      obtain ⟨a, ha, haf⟩ := h.follows.authorizations _ a₀ ha₀
      refine ⟨?_, a, ?_, ?_⟩
      · change r.terms.validateOwnerIntegrity prim = .ok ()
        rw [hf.terms]
        exact hintact
      · rw [hf.riskAuthorizationId]
        exact ha
      · change validateSpendRiskOwner r.terms a.terms = .ok ()
        rw [hf.terms, haf.terms]
        exact howner
    · obtain ⟨a, ha, haf⟩ := h.follows.authorizations _ a₀ hnew.authorization
      refine ⟨hnew.intact, a, ha, ?_⟩
      change validateSpendRiskOwner r a.terms = .ok ()
      rw [haf.terms]
      exact hnew.owner

/-- One authorization for a decision, and what their statuses say. -/
structure OneOwner (s : Store C) : Prop where
  unique : ∀ k a k' a', s.authorizations.find? k = some a → s.authorizations.find? k' = some a' →
    a.decisionId = a'.decisionId → k = k'
  status : ∀ k a, s.authorizations.find? k = some a → a.status = .revoked ∨
    a.status = .active ∧ ∃ d, s.decisions.find? a.decisionId = some d ∧ d.status = .operatorAccepted

omit [AddCommMonoid C] [LinearOrder C] in
lemma OneOwner.empty : OneOwner (Store.empty : Store C) where
  unique _ _ _ _ h := by cases h
  status _ _ h := by cases h

/-- A change adds one authorization at most. -/
lemma Change.newAuthorization_unique (h : Change prim s s') {k' : String}
    (hk : s.authorizations.find? k = none) (hk' : s.authorizations.find? k' = none)
    (ha : s'.authorizations.find? k = some a) (ha' : s'.authorizations.find? k' = some a') :
    k = k' := by
  cases h with
  | accepted =>
    rw [find?_insert, hk] at ha
    rw [find?_insert, hk'] at ha'
    split_ifs at ha ha' with h1 h2
    rw [h1, h2]
  | revoked authorization =>
    rw [find?_insert, hk] at ha
    split_ifs at ha with h1
    rw [h1] at hk
    exact absurd (hk.symm.trans authorization) (by simp)
  | drafted | issued | derived | attempted | completed =>
    rw [hk] at ha
    cases ha

omit [AddCommMonoid C] in
/-- A draft has no authorization. -/
lemma Owned.no_authorization (ho : Owned prim s) (ha : s.authorizations.find? k = some a) :
    ¬∃ d, s.decisions.find? a.decisionId = some d ∧ d.status = .draftPendingOperator := by
  rintro ⟨d, hd, hdraft⟩
  obtain ⟨-, d', hd', hdecided⟩ := ho.authorizations k a ha
  cases hd.symm.trans hd'
  exact hdecided.decided hdraft

lemma OneOwner.change_unique (ho : Owned prim s) (hs : OneOwner s) (h : Change prim s s')
    {k' : String} (ha : s'.authorizations.find? k = some a)
    (ha' : s'.authorizations.find? k' = some a') (hd : a.decisionId = a'.decisionId) : k = k' := by
  rcases h.authorizations_came k a ha with ⟨a₀, ha₀, hf⟩ | ⟨hk, hnew⟩ <;>
    rcases h.authorizations_came k' a' ha' with ⟨a₁, ha₁, hf'⟩ | ⟨hk', hnew'⟩
  · exact hs.unique k a₀ k' a₁ ha₀ ha₁ (hf.decisionId ▸ hf'.decisionId ▸ hd)
  · have hdraft := hnew'.draft
    rw [← hd, hf.decisionId] at hdraft
    exact absurd hdraft (ho.no_authorization ha₀)
  · have hdraft := hnew.draft
    rw [hd, hf'.decisionId] at hdraft
    exact absurd hdraft (ho.no_authorization ha₁)
  · exact h.newAuthorization_unique hk hk' ha ha'

/-- The decision of an active authorization after a change of other rows. -/
lemma OneOwner.change_status (hs : OneOwner s) (h : Change prim s s')
    (ha : s'.authorizations.find? k = some a) :
    a.status = .revoked ∨
      a.status = .active ∧
        ∃ d, s'.decisions.find? a.decisionId = some d ∧ d.status = .operatorAccepted := by
  cases h with
  | drafted fresh =>
    refine (hs.status k a ha).imp_right fun ⟨hactive, d, hd, haccepted⟩ => ⟨hactive, d, ?_, haccepted⟩
    rw [find?_insert, if_neg, hd]
    intro hk
    rw [hk, fresh] at hd
    cases hd
  | @accepted p r d body fresh now expiresAt receipts decision checked draft built unused =>
    rw [find?_insert] at ha
    split_ifs at ha with hk
    · cases ha
      subst built
      refine .inr ⟨rfl, d.accepted p now, ?_, rfl⟩
      change (s.decisions.insert (d.accepted p now)).find? r.decisionId = _
      rw [← key_of_find? decision]
      exact find?_insert_self
    · refine (hs.status k a ha).imp_right fun ⟨hactive, d', hd', haccepted⟩ =>
        ⟨hactive, d', ?_, haccepted⟩
      rw [find?_insert, if_neg, hd']
      intro hid
      -- the decision that is accepted now was a draft
      have hkey : d.decisionId = r.decisionId := key_of_find? decision
      rw [hid, show (d.accepted p now).decisionId = r.decisionId from hkey, decision] at hd'
      cases hd'
      rw [draft] at haccepted
      cases haccepted
  | @revoked a₁ d p now receipts authorization decision =>
    rw [find?_insert] at ha
    split_ifs at ha with hk
    · cases ha
      exact .inl rfl
    · refine (hs.status k a ha).imp_right fun ⟨hactive, d', hd', haccepted⟩ =>
        ⟨hactive, d', ?_, haccepted⟩
      rw [find?_insert, if_neg, hd']
      intro hid
      -- the revoked authorization is the only one of its decision
      have hkey : d.decisionId = a₁.decisionId := key_of_find? decision
      exact hk (hs.unique k a _ a₁ ha authorization (Eq.trans hid hkey))
  | issued | derived | attempted | completed => exact hs.status k a ha

lemma OneOwner.change (ho : Owned prim s) (hs : OneOwner s) (h : Change prim s s') : OneOwner s' :=
  ⟨fun _ _ _ _ ha ha' hd => hs.change_unique ho h ha ha' hd, fun _ _ ha => hs.change_status h ha⟩

/-- Attempts and spends: an active spend has an active authorization, and what an attempt
consumed it consumed alone. -/
structure Spent (prim : Primitives C) (s : Store C) : Prop where
  active : ∀ k r, s.spends.find? k = some r → r.status = .active →
    ∃ a, s.authorizations.find? r.riskAuthorizationId = some a ∧ a.status = .active
  attempts : ∀ k t, s.attempts.find? k = some t → Recorded prim t ∧
    ∃ r, s.spends.find? t.spendAuthorizationId = some r ∧ ConsumedBy r t
  consumed : ∀ k r id, s.spends.find? k = some r → r.consumedByAttemptId = some id →
    r.status = .consumed ∧ ∃ t, s.attempts.find? id = some t ∧ t.spendAuthorizationId = k

omit [AddCommMonoid C] [LinearOrder C] in
lemma Spent.empty : Spent prim (Store.empty : Store C) where
  active _ _ h := by cases h
  attempts _ _ h := by cases h
  consumed _ _ _ h := by cases h

omit [AddCommMonoid C] [LinearOrder C] in
lemma Recorded.follows {t' : AttemptRow C} (h : Recorded prim t) (hf : AttemptFollows t t') :
    Recorded prim t' where
  sha256 := by rw [hf.attemptBodySha256, hf.body, h.sha256]
  effect b hb := by rw [hf.attemptId, h.effect b (hf.body.symm.trans hb)]

omit [AddCommMonoid C] [LinearOrder C] in
lemma SpendRow.revokedUnder_active (h : (r.revokedUnder id now).status = .active) :
    r.status = .active ∧ r.riskAuthorizationId ≠ id ∧ r.revokedUnder id now = r := by
  unfold revokedUnder at h ⊢
  split_ifs at h ⊢ with hr
  exact ⟨h, fun hid => hr ⟨hid, h⟩, rfl⟩

lemma Spent.change_active (hs : Spent prim s) (h : Change prim s s')
    (hr : s'.spends.find? k = some r) (hactive : r.status = .active) :
    ∃ a, s'.authorizations.find? r.riskAuthorizationId = some a ∧ a.status = .active := by
  cases h with
  | accepted _ _ _ _ unused =>
    obtain ⟨a, ha, hstatus⟩ := hs.active k r hr hactive
    refine ⟨a, ?_, hstatus⟩
    rw [find?_insert, if_neg, ha]
    intro hid
    rw [hid] at ha
    exact absurd (unused.symm.trans ha) (by simp)
  | issued spend =>
    rw [find?_insert] at hr
    split_ifs at hr with hk
    · cases hr
      exact ⟨_, spend.authorization, spend.active⟩
    · exact hs.active k r hr hactive
  | derived spend =>
    rw [find?_insert] at hr
    split_ifs at hr with hk
    · cases hr
      exact ⟨_, spend.authorization, spend.active⟩
    · exact hs.active k r hr hactive
  | attempted =>
    rw [find?_insert] at hr
    split_ifs at hr with hk
    · cases hr
      cases hactive
    · exact hs.active k r hr hactive
  | revoked authorization =>
    rw [find?_map] at hr
    obtain ⟨r₀, hr₀, rfl⟩ := Option.map_eq_some_iff.mp hr
    obtain ⟨hactive₀, hid, heq⟩ := revokedUnder_active hactive
    rw [heq]
    obtain ⟨a, ha, hstatus⟩ := hs.active k r₀ hr₀ hactive₀
    refine ⟨a, ?_, hstatus⟩
    rw [find?_insert, if_neg, ha]
    exact hid
  | drafted | completed => exact hs.active k r hr hactive

lemma Spent.change_attempts (hs : Spent prim s) (h : Change prim s s')
    (ht : s'.attempts.find? k = some t) :
    Recorded prim t ∧ ∃ r, s'.spends.find? t.spendAuthorizationId = some r ∧ ConsumedBy r t := by
  rcases h.attempts_came k t ht with ⟨t₀, ht₀, hf⟩ | ⟨-, hnew⟩
  · obtain ⟨hrecorded, r₀, hr₀, hc⟩ := hs.attempts k t₀ ht₀
    obtain ⟨r, hr, hrf⟩ := h.follows.spends _ r₀ hr₀
    -- a consumed spend stays as it is
    obtain rfl := hrf.closed (by simp [hc.status])
    refine ⟨hrecorded.follows hf, r, ?_, hc.status, ?_, ?_⟩
    · rw [hf.spendAuthorizationId]
      exact hr
    · rw [hf.attemptId]
      exact hc.attempt
    · rw [hf.authorizationId]
      exact hc.authorization
  · exact ⟨hnew.recorded, hnew.after⟩

lemma Spent.change_consumed (hs : Spent prim s) (h : Change prim s s')
    (hr : s'.spends.find? k = some r) (hid : r.consumedByAttemptId = some id) :
    r.status = .consumed ∧ ∃ t, s'.attempts.find? id = some t ∧ t.spendAuthorizationId = k := by
  -- the attempt of a spend that was consumed before is still there
  have hold : ∀ r₀, s.spends.find? k = some r₀ → r₀.consumedByAttemptId = some id →
      r₀.status = .consumed ∧ ∃ t, s'.attempts.find? id = some t ∧ t.spendAuthorizationId = k := by
    intro r₀ hr₀ hid₀
    obtain ⟨hstatus, t, ht, hspend⟩ := hs.consumed k r₀ id hr₀ hid₀
    obtain ⟨t', ht', hf⟩ := h.follows.attempts _ t ht
    exact ⟨hstatus, t', ht', hf.spendAuthorizationId.trans hspend⟩
  cases h with
  | issued spend =>
    rw [find?_insert] at hr
    split_ifs at hr with hk
    · cases hr
      rw [spend.unused] at hid
      cases hid
    · exact hold r hr hid
  | derived spend =>
    rw [find?_insert] at hr
    split_ifs at hr with hk
    · cases hr
      cases hid
    · exact hold r hr hid
  | @attempted r₁ t now spend =>
    rw [find?_insert] at hr
    split_ifs at hr with hk
    · cases hr
      cases hid
      refine ⟨rfl, t, find?_insert_self, ?_⟩
      rw [hk]
      exact (key_of_find? spend).symm
    · exact hold r hr hid
  | revoked =>
    rw [find?_map] at hr
    obtain ⟨r₀, hr₀, rfl⟩ := Option.map_eq_some_iff.mp hr
    unfold revokedUnder at hid ⊢
    split_ifs at hid ⊢ with hc
    · obtain ⟨hstatus, -⟩ := hold r₀ hr₀ hid
      rw [hc.2] at hstatus
      cases hstatus
    · exact hold r₀ hr₀ hid
  | drafted | accepted | completed => exact hold r hr hid

lemma Spent.change (hs : Spent prim s) (h : Change prim s s') : Spent prim s' :=
  ⟨fun _ _ hr ha => hs.change_active h hr ha, fun _ _ ht => hs.change_attempts h ht,
    fun _ _ _ hr hid => hs.change_consumed h hr hid⟩

/-- Everything together, along a run. -/
structure Inv (prim : Primitives C) (s : Store C) : Prop where
  owned : Owned prim s
  oneOwner : OneOwner s
  spent : Spent prim s

omit [AddCommMonoid C] in
lemma Inv.empty : Inv prim (Store.empty : Store C) := ⟨.empty, .empty, .empty⟩

lemma Inv.change (hs : Inv prim s) (h : Change prim s s') : Inv prim s' :=
  ⟨hs.owned.change h, hs.oneOwner.change hs.owned h, hs.spent.change h⟩

lemma Inv.run (hs : Inv prim s) (ops : List (Op C)) : Inv prim (run prim s ops) :=
  run_induction (fun _ _ hs h => hs.change h) hs

end Harness.Acceptance
