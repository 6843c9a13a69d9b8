import Harness.Sanity.AcceptanceOwners
import Mathlib.Algebra.Order.Monoid.Defs

/-! Effect children in the store: what a derived child carries from its parent, that all children
of a decision stand under one authorization, and what the loop over them counts. -/

namespace Harness.Acceptance

open Lib Table Option SpendRow SpendBody
open Delegated (isBlank SpendStatus TerminalStatus)

variable {C : Type}

def DecisionRow.owned (d : DecisionRow C) : DecisionRow C :=
  { d.terms with principalId := d.principalId }

def EffectChildAuthorizationRequest.child (prim : Primitives C)
    (r : EffectChildAuthorizationRequest C) (e : EffectEnvelopeContract C) : EffectChild C where
  childAuthorizationId := r.childAuthorizationId
  parentEnvelopeId := e.envelopeId
  parentEnvelopeSha256 := prim.envelopeSha256 e
  parentEnvelope := e.body
  effectKind := r.effectKind
  operationId := r.operationId
  targetRepository := r.targetRepository
  targetMainSha := r.targetMainSha
  maxCostUsd := r.maxCostUsd
  oneUse := true
  outcomeUnknownRetry := false

variable {d : DecisionRow C} {e : EffectEnvelopeContract C} {r : SpendRow C}
  {a : AuthorizationRow C} {child : EffectChild C}

lemma DecisionFollows.owned {d' : DecisionRow C} (h : DecisionFollows d d')
    (hdecided : d.status ≠ .draftPendingOperator) : d'.owned = d.owned := by
  unfold DecisionRow.owned
  rw [h.terms, (h.decided hdecided).2]

def SpendBody.effect? (b : SpendBody C) : Option (EffectChild C) :=
  match b.terms with
  | .trial _ => none
  | .effect child => some child

lemma SpendBody.effect?_eq_some {b : SpendBody C} :
    b.effect? = some child ↔ b.terms = .effect child := by
  unfold effect?
  cases b.terms with
  | trial => simp
  | effect c => simp

def effectChildren (s : Store C) (decisionId : String) : List (EffectChild C) :=
  s.spends.rows.filterMap fun r => if r.decisionId = decisionId then r.body.effect? else none

lemma mem_effectChildren {s : Store C} {id : String} :
    child ∈ effectChildren s id ↔
      ∃ k r, s.spends.find? k = some r ∧ r.decisionId = id ∧ r.body.terms = .effect child := by
  unfold effectChildren
  rw [List.mem_filterMap]
  constructor
  · rintro ⟨r, hr, h⟩
    split_ifs at h with hid
    exact ⟨_, r, s.spends.find?_key hr, hid, effect?_eq_some.mp h⟩
  · rintro ⟨k, r, hr, hid, h⟩
    exact ⟨r, mem_of_find? hr, by rw [if_pos hid]; exact effect?_eq_some.mpr h⟩

section Envelopes

variable [AddCommMonoid C] [LinearOrder C] {prim : Primitives C}

omit [AddCommMonoid C] [LinearOrder C] in
lemma requireFiniteExpiry_eq {t t' : ℤ} (h : requireFiniteExpiry (some t) = .ok t') : t' = t := by
  obtain ⟨t₀, h0, h⟩ := bind_ok h
  iterate 2 obtain ⟨-, h⟩ := seq_ok h
  cases h
  exact (some.inj (required_eq_ok.mp h0)).symm

variable {p : AuthenticatedPrincipal} {c : C} {rows : List (SpendRow C)} {body : SpendBody C}
  {envelopeId childId k : String} {n : ℕ} {now : ℤ}

/-- The clock only matters for the window of an envelope. -/
lemma EffectEnvelopeContract.validate_eq_ok :
    e.validate prim now = .ok () ↔
      e.validate prim e.createdAt = .ok () ∧ e.createdAt ≤ now ∧ now < e.expiresAt := by
  simp only [validate, seq_eq_ok]
  simp only [bind_eq_ok (β := Unit) (r := requireFiniteExpiry _), seq_eq_ok, refuse_eq_ok,
    decide_eq_false_iff_not, not_lt, not_le]
  constructor
  · rintro ⟨h1, h2, h3, h4, h5, h6, t, h7, h8, h9, h10⟩
    obtain rfl := requireFiniteExpiry_eq h7
    exact ⟨⟨h1, h2, h3, h4, h5, h6, _, h7, le_rfl, h9, h9⟩, h8, h10⟩
  · rintro ⟨⟨h1, h2, h3, h4, h5, h6, t, h7, -, h9, -⟩, h8, h10⟩
    obtain rfl := requireFiniteExpiry_eq h7
    exact ⟨h1, h2, h3, h4, h5, h6, _, h7, h8, h9, h10⟩

lemma EffectEnvelopeContract.total_nonneg (h : e.validate prim now = .ok ()) :
    0 ≤ e.maxTotalCostUsd := by
  simp only [validate, seq_eq_ok, refuse_eq_ok, decide_eq_false_iff_not, not_lt] at h
  exact h.2.2.2.2.1

lemma validateEffectEnvelopeBody_eq_ok {body : DecisionBody C} {tenantId : String}
    {principal : Option AuthenticatedPrincipal} :
    validateEffectEnvelopeBody prim body tenantId principal now = .ok e ↔
      body.schemaVersion = some effectEnvelopeSchemaVersion ∧
      body.status = some "draft_pending_operator" ∧
      (∃ embedded, body.effectEnvelope = some embedded ∧ embedded.contract = some e) ∧
      e.validate prim now = .ok () ∧ body.decisionId = some e.decisionId ∧
      principal.forM (requireEnvelopeOwner e tenantId) = .ok () := by
  simp only [validateEffectEnvelopeBody, seq_eq_ok]
  simp only [bind_eq_ok (r := required _ _), seq_eq_ok, refuse_eq_ok, required_eq_ok,
    decide_eq_false_iff_not, ne_eq, not_not]
  constructor
  · rintro ⟨h1, h2, embedded, h3, e', h4, h5, h6, h7, h8⟩
    cases h8
    exact ⟨h1, h2, ⟨embedded, h3, h4⟩, h5, h6, h7⟩
  · rintro ⟨h1, h2, ⟨embedded, h3, h4⟩, h5, h6, h7⟩
    exact ⟨h1, h2, embedded, h3, e, h4, h5, h6, h7, rfl⟩

structure EffectChildAuthorizationRequest.Fits (prim : Primitives C)
    (r : EffectChildAuthorizationRequest C) (e : EffectEnvelopeContract C) : Prop where
  named : isBlank prim.isWhitespace r.childAuthorizationId = false ∧
    r.childAuthorizationId.toList.length ≤ 256
  kind : r.effectKind = e.effectKind
  target : r.targetRepository = e.targetRepository ∧ r.targetMainSha = e.targetMainSha
  cost : 0 ≤ r.maxCostUsd ∧ r.maxCostUsd ≤ e.maxTotalCostUsd
  finite : requireFiniteExpiry (some r.expiresAt) = .ok r.expiresAt
  within : r.expiresAt ≤ e.expiresAt

lemma EffectChildAuthorizationRequest.validateAgainst_eq_ok {r : EffectChildAuthorizationRequest C}
    {expiresAt : ℤ} (h : r.validateAgainst prim e now = .ok expiresAt) :
    r.Fits prim e ∧ expiresAt = r.expiresAt ∧
      ∀ now' < r.expiresAt, r.validateAgainst prim e now' = .ok r.expiresAt := by
  obtain ⟨h1, h⟩ := seq_ok h
  obtain ⟨h2, h⟩ := seq_ok h
  obtain ⟨h3, h⟩ := seq_ok h
  obtain ⟨h4, h⟩ := seq_ok h
  obtain ⟨t, h5, h⟩ := bind_ok h
  obtain ⟨t', h6, h⟩ := bind_ok h
  obtain ⟨h7, h⟩ := seq_ok h
  obtain ⟨-, h⟩ := seq_ok h
  cases h
  obtain rfl := requireFiniteExpiry_eq h5
  obtain rfl := requireFiniteExpiry_eq h6
  have htext := forM_eq_ok.mp h1 ("child_authorization_id", r.childAuthorizationId) (by simp)
  obtain ⟨hblank, hlength⟩ := seq_ok htext
  refine ⟨⟨⟨refuse_ok hblank, ?_⟩, ?_, ?_, ?_, h5, ?_⟩, rfl, fun now' hnow => ?_⟩
  · exact not_lt.mp (of_decide_eq_false (refuse_ok hlength))
  · simpa using refuse_ok h2
  · simpa using refuse_ok h3
  · simpa using refuse_ok h4
  · exact not_lt.mp (of_decide_eq_false (refuse_ok h7))
  · refine seq_eq_ok.mpr ⟨h1, seq_eq_ok.mpr ⟨h2, seq_eq_ok.mpr ⟨h3, ?_⟩⟩⟩
    refine seq_eq_ok.mpr ⟨h4, bind_eq_ok.mpr ⟨_, h5, bind_eq_ok.mpr ⟨_, h6, ?_⟩⟩⟩
    refine seq_eq_ok.mpr ⟨h7, seq_eq_ok.mpr ⟨?_, rfl⟩⟩
    exact refuse_eq_ok.mpr (decide_eq_false (not_le.mpr hnow))

/-- Settlement looks at the terms of the rows and at who accepted the decision, and at the
principal's tenant, id and kind. -/
lemma validateEffectChildForSettlement_frame (h : a.status ≠ .consumed) :
    validateEffectChildForSettlement prim r a d p =
      validateEffectChildForSettlement prim r.terms a.terms d.owned p := by
  have hstatus : decide (a.status = .consumed) = decide (a.terms.status = .consumed) :=
    decide_eq_false h
  unfold validateEffectChildForSettlement
  rw [hstatus]
  rfl

lemma validateEffectChildForSettlement_principal {p' : AuthenticatedPrincipal}
    (htenant : p'.tenantId = p.tenantId) (hid : p'.principalId = p.principalId)
    (hkind : p'.kind = p.kind) :
    validateEffectChildForSettlement prim r a d p' =
      validateEffectChildForSettlement prim r a d p := by
  unfold validateEffectChildForSettlement requireSettledTerms
  rw [htenant, hid, hkind]

/-- A child, the rows it was derived under and its envelope. -/
structure Derived (prim : Primitives C) (a : AuthorizationRow C) (d : DecisionRow C)
    (e : EffectEnvelopeContract C) (r : SpendRow C) (child : EffectChild C) : Prop where
  terms : r.body.terms = .effect child
  id : child.childAuthorizationId = r.spendAuthorizationId
  named : isBlank prim.isWhitespace r.spendAuthorizationId = false ∧
    r.spendAuthorizationId.toList.length ≤ 256
  envelopeId : child.parentEnvelopeId = e.envelopeId
  envelope : d.body.effectEnvelope = some e.body
  decided : d.status ≠ .draftPendingOperator
  cost : 0 ≤ child.maxCostUsd
  settles : ∀ p : AuthenticatedPrincipal, p.tenantId = r.tenantId →
    p.principalId = r.principalId → p.kind = r.principalKind →
    validateEffectChildForSettlement prim r.terms a.terms d.owned p = .ok child

lemma Derived.follows {a' : AuthorizationRow C} {d' : DecisionRow C} {r' : SpendRow C}
    (h : Derived prim a d e r child) (ha : AuthorizationFollows a a')
    (hd : DecisionFollows d d') (hr : SpendFollows r r') : Derived prim a' d' e r' child where
  terms := by rw [hr.body, h.terms]
  id := by rw [hr.spendAuthorizationId, h.id]
  named := by
    rw [hr.spendAuthorizationId]
    exact h.named
  envelopeId := h.envelopeId
  envelope := by rw [hd.body, h.envelope]
  decided := (hd.decided h.decided).1
  cost := h.cost
  settles p htenant hid hkind := by
    have ht := congrArg SpendRow.tenantId hr.terms
    have hp := congrArg SpendRow.principalId hr.terms
    have hk := congrArg SpendRow.principalKind hr.terms
    rw [hr.terms, ha.terms, hd.owned h.decided]
    exact h.settles p (htenant.trans ht) (hid.trans hp) (hkind.trans hk)

/-- A new child can be settled by the one who derived it. -/
lemma Derivation.settles {s : Store C} {request : EffectChildAuthorizationRequest C}
    (hspend : NewSpend prim s a (spendRow body (prim.spendSha256 body) now))
    (h : Derivation prim s a d p e request now body) :
    validateEffectChildForSettlement prim (spendRow body (prim.spendSha256 body) now) a d p =
      .ok (request.child prim e) := by
  obtain ⟨expiresAt, hrequest, rfl⟩ := h.requested
  obtain ⟨hfits, rfl, -⟩ := EffectChildAuthorizationRequest.validateAgainst_eq_ok hrequest
  have hparent := effectParentFromAuthority_eq_ok.mp h.parent
  obtain ⟨hschema, hstatus, ⟨embedded, hembedded, hcontract⟩, hvalid, hdecision, -⟩ :=
    validateEffectEnvelopeBody_eq_ok.mp hparent.envelope
  have henvelope : validateEffectEnvelopeBody prim d.body p.tenantId none e.createdAt = .ok e :=
    validateEffectEnvelopeBody_eq_ok.mpr ⟨hschema, hstatus, ⟨embedded, hembedded, hcontract⟩,
      (EffectEnvelopeContract.validate_eq_ok.mp hvalid).1, hdecision, rfl⟩
  refine seq_eq_ok.mpr ⟨refuse_eq_ok.mpr ?_, ?_⟩
  · simp [spendRow, withIdentity, effectChildTerms]
  refine pass rfl ?_
  refine pass (by rw [hparent.active]; rfl) ?_
  refine seq_eq_ok.mpr ⟨hspend.owner, seq_eq_ok.mpr ⟨hparent.decision, ?_⟩⟩
  refine pass (decide_eq_false (not_not.mpr rfl)) ?_
  refine pass (decide_eq_false (not_not.mpr rfl)) ?_
  refine bind_eq_ok.mpr ⟨embedded, required_eq_ok.mpr hembedded, ?_⟩
  refine bind_eq_ok.mpr ⟨e, required_eq_ok.mpr hcontract, bind_eq_ok.mpr ⟨e, henvelope, ?_⟩⟩
  refine seq_eq_ok.mpr ⟨refuse_eq_ok.mpr ?_, ?_⟩
  · simp [hparent.authorizationOwner, hparent.decisionOwner, hparent.principal]
  refine seq_eq_ok.mpr ⟨refuse_eq_ok.mpr ?_, ?_⟩
  · simp [spendRow, withIdentity, effectChildTerms, hparent.decisionId]
  refine pass (decide_eq_false (not_not.mpr rfl)) ?_
  refine seq_eq_ok.mpr ⟨refuse_eq_ok.mpr ?_, ?_⟩
  · simp
  refine seq_eq_ok.mpr ⟨refuse_eq_ok.mpr ?_, ?_⟩
  · simp [hparent.scope]
  refine seq_eq_ok.mpr ⟨?_, rfl⟩
  refine seq_eq_ok.mpr ⟨forM_eq_ok.mpr ?_, ?_⟩
  · simp [refuse_eq_ok, hfits.kind, hfits.target]
  refine seq_eq_ok.mpr ⟨refuse_eq_ok.mpr ?_, ?_⟩
  · simp [hfits.cost]
  refine bind_eq_ok.mpr ⟨request.expiresAt, hfits.finite, ?_⟩
  refine pass (decide_eq_false (not_lt.mpr hfits.within)) ?_
  refine seq_eq_ok.mpr ⟨refuse_eq_ok.mpr rfl, refuse_eq_ok.mpr ?_⟩
  simp [spendRow, withIdentity, effectChildTerms]

/-- The child of a new row. -/
lemma Derivation.derived {s : Store C} {a : AuthorizationRow C} {d : DecisionRow C}
    {p : AuthenticatedPrincipal} {e : EffectEnvelopeContract C}
    {request : EffectChildAuthorizationRequest C} {now : ℤ} {body : SpendBody C}
    (hscope : a.scope.effectEnvelope = d.body.effectEnvelope)
    (hspend : NewSpend prim s a (spendRow body (prim.spendSha256 body) now))
    (h : Derivation prim s a d p e request now body) :
    Derived prim a d e (spendRow body (prim.spendSha256 body) now) (request.child prim e) := by
  have hsettles := h.settles hspend
  have hparent := effectParentFromAuthority_eq_ok.mp h.parent
  obtain ⟨expiresAt, hrequest, rfl⟩ := h.requested
  obtain ⟨hfits, rfl, -⟩ := EffectChildAuthorizationRequest.validateAgainst_eq_ok hrequest
  refine ⟨rfl, rfl, hfits.named, rfl, hscope.symm.trans hparent.scope, ?_, hfits.cost.1, ?_⟩
  · rw [hparent.accepted]
    decide
  · intro p' htenant hid hkind
    have hconsumed : a.status ≠ .consumed := by
      rw [hparent.active]
      decide
    rw [← validateEffectChildForSettlement_frame hconsumed,
      validateEffectChildForSettlement_principal htenant hid hkind]
    exact hsettles

omit [AddCommMonoid C] [LinearOrder C] in
lemma SpendRow.childOf?_eq_some :
    r.childOf? envelopeId = some child ↔
      r.body.terms = .effect child ∧ child.parentEnvelopeId = envelopeId := by
  unfold childOf?
  cases r.body.terms with
  | trial => simp
  | effect c =>
    simp only [ite_none_right_eq_some, some.injEq, SpendTerms.effect.injEq]
    constructor
    · rintro ⟨h, rfl⟩
      exact ⟨rfl, h⟩
    · rintro ⟨rfl, h⟩
      exact ⟨h, rfl⟩

/-- What the loop counts, if it finds no child with the id. -/
lemma scanChildren_counted {n' : ℕ} {c' : C}
    (h : scanChildren envelopeId childId body rows n c = .ok (.inr (n', c'))) :
    n' = n + (rows.filterMap fun r => r.childOf? envelopeId).length ∧
      c' =
        c + ((rows.filterMap fun r => r.childOf? envelopeId).map EffectChild.maxCostUsd).sum := by
  induction rows generalizing n c with
  | nil =>
    cases h
    simp
  | cons r rows ih =>
    unfold scanChildren at h
    split at h
    · next hnone =>
      rw [List.filterMap_cons, hnone]
      exact ih h
    · next child hchild =>
      split_ifs at h with hcost hid
      · cases h
      obtain ⟨hn, hc⟩ := ih h
      rw [List.filterMap_cons, hchild, hn, hc]
      refine ⟨?_, ?_⟩
      · rw [List.length_cons]
        omega
      · rw [List.map_cons, List.sum_cons, add_assoc]

/-- What the loop stops at. -/
lemma scanChildren_stopped
    (h : scanChildren envelopeId childId body rows n c = .ok (.inl (r, child))) :
    r ∈ rows ∧ r.childOf? envelopeId = some child ∧ child.childAuthorizationId = childId ∧
      r.body.replayIdentity = body.replayIdentity ∧ r.status = .active := by
  induction rows generalizing n c with
  | nil => cases Except.ok.inj h
  | cons r' rows ih =>
    unfold scanChildren at h
    split at h
    · obtain ⟨hr, hrest⟩ := ih h
      exact ⟨List.mem_cons_of_mem _ hr, hrest⟩
    · next child' hchild' =>
      split_ifs at h with hcost hid hbody hactive
      · cases h
        exact ⟨List.mem_cons_self, hchild', hid, not_not.mp hbody, not_not.mp hactive⟩
      · obtain ⟨hr, hrest⟩ := ih h
        exact ⟨List.mem_cons_of_mem _ hr, hrest⟩

/-- The loop stops at the child with the id, if that one is active and asked for again. -/
lemma scanChildren_found (hr : r ∈ rows)
    (hchild : r.childOf? envelopeId = some child) (hid : child.childAuthorizationId = childId)
    (honly : ∀ r' ∈ rows, ∀ child', r'.childOf? envelopeId = some child' → 0 ≤ child'.maxCostUsd ∧
      (child'.childAuthorizationId = childId → r' = r))
    (hbody : r.body.replayIdentity = body.replayIdentity) (hactive : r.status = .active) :
    scanChildren envelopeId childId body rows n c = .ok (.inl (r, child)) := by
  induction rows generalizing n c with
  | nil => cases hr
  | cons r' rows ih =>
    have htail : r ∈ rows → ∀ n c,
        scanChildren envelopeId childId body rows n c = .ok (.inl (r, child)) :=
      fun hr n c => ih hr fun r'' h => honly r'' (List.mem_cons_of_mem _ h)
    unfold scanChildren
    cases hchild' : r'.childOf? envelopeId with
    | none =>
      rcases List.mem_cons.mp hr with rfl | hr
      · rw [hchild] at hchild'
        cases hchild'
      · exact htail hr _ _
    | some child' =>
      obtain ⟨hcost, hsame⟩ := honly r' List.mem_cons_self child' hchild'
      simp only [if_neg (not_lt.mpr hcost)]
      split_ifs with hid' hbody' hactive'
      · rw [hsame hid'] at hbody'
        exact absurd hbody hbody'
      · rw [hsame hid'] at hactive'
        exact absurd hactive hactive'
      · obtain rfl := hsame hid'
        rw [hchild] at hchild'
        cases hchild'
        rfl
      · rcases List.mem_cons.mp hr with rfl | hr
        · rw [hchild] at hchild'
          cases hchild'
          exact absurd hid hid'
        · exact htail hr _ _

variable {s s' : Store C}

/-- Every child has its rows, and every spend that is not active was consumed or is under a
revoked authorization. -/
structure Ledger (prim : Primitives C) (s : Store C) : Prop where
  derived : ∀ k r child, s.spends.find? k = some r → r.body.terms = .effect child →
    ∃ a d e, s.authorizations.find? r.riskAuthorizationId = some a ∧
      s.decisions.find? r.decisionId = some d ∧ Derived prim a d e r child
  closed : ∀ k r, s.spends.find? k = some r → r.status = .active ∨ r.status = .consumed ∨
    ∃ a, s.authorizations.find? r.riskAuthorizationId = some a ∧ a.status = .revoked
  total : ∀ k d embedded e, s.decisions.find? k = some d →
    d.body.effectEnvelope = some embedded → embedded.contract = some e → 0 ≤ e.maxTotalCostUsd

lemma Ledger.empty : Ledger prim (Store.empty : Store C) where
  derived _ _ _ h := by cases h
  closed _ _ h := by cases h
  total _ _ _ _ h := by cases h

lemma Ledger.change_derived (ho : Owned prim s) (hs : Ledger prim s) (h : Change prim s s')
    (hr : s'.spends.find? k = some r) (hchild : r.body.terms = .effect child) :
    ∃ a d e, s'.authorizations.find? r.riskAuthorizationId = some a ∧
      s'.decisions.find? r.decisionId = some d ∧ Derived prim a d e r child := by
  -- the rows that a child was derived under are still there
  have hkeep : ∀ a d e, s.authorizations.find? r.riskAuthorizationId = some a →
      s.decisions.find? r.decisionId = some d → Derived prim a d e r child →
      ∃ a d e, s'.authorizations.find? r.riskAuthorizationId = some a ∧
        s'.decisions.find? r.decisionId = some d ∧ Derived prim a d e r child := by
    intro a d e ha hd hderived
    obtain ⟨a', ha', haf⟩ := h.follows.authorizations _ a ha
    obtain ⟨d', hd', hdf⟩ := h.follows.decisions _ d hd
    exact ⟨a', d', e, ha', hd', hderived.follows haf hdf (.refl r)⟩
  rcases h.spends_came k r hr with ⟨r₀, hr₀, hrf⟩ | ⟨-, a, hspend, htrial | hderived⟩
  · rw [hrf.body] at hchild
    obtain ⟨a, d, e, ha, hd, hderived⟩ := hs.derived k r₀ child hr₀ hchild
    rw [← hrf.riskAuthorizationId] at ha
    rw [← hrf.decisionId] at hd
    exact hkeep a d e ha hd (hderived.follows (.refl a) (.refl d) hrf)
  · obtain ⟨fields, htrial⟩ := htrial
    rw [htrial] at hchild
    cases hchild
  · obtain ⟨d, p, e, request, now, body, rfl, hchecked⟩ := hderived
    obtain ⟨-, d', hd', hdecided⟩ := ho.authorizations _ a hspend.authorization
    cases hchecked.decision.symm.trans hd'
    have hnew := hchecked.derived hdecided.scope hspend
    obtain rfl : request.child prim e = child := by
      simpa using hnew.terms.symm.trans hchild
    obtain ⟨⟨-, hid⟩, -⟩ := validateRiskDecisionOwner_eq_ok.mp hdecided.owner
    refine hkeep a d e hspend.authorization ?_ hnew
    obtain ⟨expiresAt, -, rfl⟩ := hchecked.requested
    change s.decisions.find? d.decisionId = some d
    rw [← hid]
    exact hchecked.decision

lemma Ledger.change_closed (hs : Ledger prim s) (h : Change prim s s')
    (hr : s'.spends.find? k = some r) :
    r.status = .active ∨ r.status = .consumed ∨
      ∃ a, s'.authorizations.find? r.riskAuthorizationId = some a ∧ a.status = .revoked := by
  have hkeep : ∀ r₀ : SpendRow C, s.spends.find? k = some r₀ → r.status = r₀.status →
      r.riskAuthorizationId = r₀.riskAuthorizationId → r.status = .active ∨ r.status = .consumed ∨
        ∃ a, s'.authorizations.find? r.riskAuthorizationId = some a ∧ a.status = .revoked := by
    intro r₀ hr₀ hstatus hrisk
    rw [hstatus, hrisk]
    refine (hs.closed k r₀ hr₀).imp_right (Or.imp_right ?_)
    rintro ⟨a, ha, hrevoked⟩
    obtain ⟨a', ha', hf⟩ := h.follows.authorizations _ a ha
    exact ⟨a', ha', hf.staysRevoked hrevoked⟩
  cases h with
  | issued spend =>
    rw [find?_insert] at hr
    split_ifs at hr
    · cases hr
      exact .inl spend.status
    · exact hkeep r hr rfl rfl
  | derived spend =>
    rw [find?_insert] at hr
    split_ifs at hr
    · cases hr
      exact .inl spend.status
    · exact hkeep r hr rfl rfl
  | attempted =>
    rw [find?_insert] at hr
    split_ifs at hr
    · cases hr
      exact .inr (.inl rfl)
    · exact hkeep r hr rfl rfl
  | @revoked a d p now receipts authorization =>
    rw [find?_map] at hr
    obtain ⟨r₀, hr₀, rfl⟩ := map_eq_some_iff.mp hr
    by_cases hunder : r₀.riskAuthorizationId = a.authorizationId ∧ r₀.status = .active
    · have hrisk : (r₀.revokedUnder a.authorizationId now).riskAuthorizationId =
          a.authorizationId := by
        rw [revokedUnder, if_pos hunder]
        exact hunder.1
      refine .inr (.inr ⟨a.revoked now, ?_, rfl⟩)
      rw [hrisk]
      exact find?_insert_self
    · have hsame : r₀.revokedUnder a.authorizationId now = r₀ := by
        rw [revokedUnder, if_neg hunder]
      rw [hsame] at hkeep ⊢
      exact hkeep r₀ hr₀ rfl rfl
  | drafted | accepted | completed => exact hkeep r hr rfl rfl

lemma Ledger.change (ho : Owned prim s) (hs : Ledger prim s) (h : Change prim s s') :
    Ledger prim s' where
  derived _ _ _ hr hchild := hs.change_derived ho h hr hchild
  closed _ _ hr := hs.change_closed h hr
  total k d embedded e hd hembedded hcontract := by
    rcases h.decisions_came k d hd with ⟨d₀, hd₀, hf⟩ | ⟨-, -, -, principal, now, henvelope⟩
    · rw [hf.body] at hembedded
      exact hs.total k d₀ embedded e hd₀ hembedded hcontract
    · unfold validateDecisionEnvelope at henvelope
      rw [hembedded] at henvelope
      obtain ⟨e', he', -⟩ := bind_ok henvelope
      obtain ⟨-, -, ⟨embedded', hembedded', hcontract'⟩, hvalid, -⟩ :=
        validateEffectEnvelopeBody_eq_ok.mp he'
      cases hembedded.symm.trans hembedded'
      cases hcontract.symm.trans hcontract'
      exact EffectEnvelopeContract.total_nonneg hvalid

lemma Ledger.run (ops : List (Op C)) : Ledger prim (run prim .empty ops) := by
  have hboth : Inv prim (Acceptance.run prim .empty ops) ∧
      Ledger prim (Acceptance.run prim .empty ops) :=
    run_induction (P := fun s => Inv prim s ∧ Ledger prim s)
      (fun _ _ hs hc => ⟨hs.1.change hc, hs.2.change hs.1.owned hc⟩) ⟨Inv.empty, Ledger.empty⟩
  exact hboth.2

omit [AddCommMonoid C] [LinearOrder C] in
lemma decisionId_of_owner (h : validateSpendRiskOwner r a = .ok ()) :
    r.decisionId = a.decisionId := by
  obtain ⟨hfields, -⟩ := seq_ok h
  have hfield := forM_eq_ok.mp hfields ("decision_id", r.decisionId, a.decisionId) (by simp)
  exact (requireOwnerField_eq_ok.mp hfield).2

omit [AddCommMonoid C] [LinearOrder C] in
lemma SpendRow.columns_of_intact (h : r.validateOwnerIntegrity prim = .ok ()) :
    r.body.decisionId = r.decisionId ∧ r.body.riskAuthorizationId = r.riskAuthorizationId := by
  obtain ⟨hfields, -⟩ := seq_ok h
  have hcolumns := fun field hf => requireSameField_eq_ok.mp (forM_eq_ok.mp hfields field hf)
  simp only [List.forall_mem_cons] at hcolumns
  exact ⟨hcolumns.2.1.2, hcolumns.2.2.1.2⟩

/-- A child of a decision is under its one authorization and in its envelope. -/
lemma Ledger.child_of (hi : Inv prim s) (hs : Ledger prim s)
    (ha : s.authorizations.find? a.authorizationId = some a)
    (hd : s.decisions.find? a.decisionId = some d) (he : d.body.effectEnvelope = some e.body)
    (hr : s.spends.find? r.spendAuthorizationId = some r) (hid : r.decisionId = a.decisionId)
    (hchild : r.body.terms = .effect child) :
    r.riskAuthorizationId = a.authorizationId ∧ Derived prim a d e r child := by
  obtain ⟨a', d', e', ha', hd', hderived⟩ := hs.derived _ r child hr hchild
  obtain ⟨-, a₀, ha₀, howner⟩ := hi.owned.spends _ r hr
  cases ha'.symm.trans ha₀
  have hrisk : r.riskAuthorizationId = a.authorizationId :=
    hi.oneOwner.unique _ a' _ a ha' ha ((decisionId_of_owner howner).symm.trans hid)
  rw [hrisk, ha] at ha'
  cases ha'
  rw [hid, hd] at hd'
  cases hd'
  have henvelope : e' = e := by
    simpa [EffectEnvelopeContract.body] using hderived.envelope.symm.trans he
  exact ⟨hrisk, henvelope ▸ hderived⟩

/-- So the loop of a derivation sees each of them. -/
lemma Ledger.siblings_eq (hi : Inv prim s) (hs : Ledger prim s)
    (ha : s.authorizations.find? a.authorizationId = some a)
    (hd : s.decisions.find? a.decisionId = some d) (he : d.body.effectEnvelope = some e.body) :
    (siblings s a).filterMap (fun r => r.childOf? e.envelopeId) =
      effectChildren s a.decisionId := by
  unfold siblings effectChildren
  rw [List.filterMap_filter]
  refine List.filterMap_congr fun r hr => ?_
  by_cases hid : r.decisionId = a.decisionId
  · cases hterms : r.body.terms with
    | trial fields => simp [childOf?, effect?, hterms]
    | effect child =>
      obtain ⟨hrisk, hderived⟩ := hs.child_of hi ha hd he (s.spends.find?_key hr) hid hterms
      simp [childOf?, effect?, hterms, hid, hrisk, hderived.envelopeId]
  · simp [hid]

/-! The children of a decision, change by change. -/

omit [AddCommMonoid C] [LinearOrder C] in
lemma effectChildren_insert_new {row : SpendRow C} (id : String)
    (h : s.spends.find? row.spendAuthorizationId = none) :
    (effectChildren { s with spends := s.spends.insert row } id).Perm
      ((if row.decisionId = id then row.body.effect? else none).toList ++ effectChildren s id) := by
  unfold effectChildren
  refine ((s.spends.insert_perm h).filterMap _).trans ?_
  rw [List.filterMap_cons]
  split
  · next hnone => simp [hnone]
  · next child hsome => simp [hsome]

/-- Only a derivation adds a child, and to its decision. -/
lemma Change.effectChildren_perm (h : Change prim s s') (id : String) :
    (effectChildren s' id).Perm (effectChildren s id) ∨
      ∃ a d p e request now body, NewSpend prim s a (spendRow body (prim.spendSha256 body) now) ∧
        Derivation prim s a d p e request now body ∧ a.decisionId = id ∧
        (effectChildren s' id).Perm (request.child prim e :: effectChildren s id) :=
    by
  cases h with
  | drafted | accepted | completed => exact .inl (.refl _)
  | issued spend trial =>
    refine .inl ((effectChildren_insert_new _ spend.fresh).trans ?_)
    simp [effect?, trial]
  | @derived a d p e request now body spend checked =>
    have hperm := effectChildren_insert_new id spend.fresh
    have hdecision := decisionId_of_owner spend.owner
    obtain ⟨expiresAt, -, hbody⟩ := checked.requested
    have hchild : (spendRow body (prim.spendSha256 body) now).body.effect? =
        some (request.child prim e) := by
      rw [hbody]
      rfl
    rw [hdecision, hchild] at hperm
    split_ifs at hperm with hid
    · exact .inr ⟨a, d, p, e, request, now, body, spend, checked, hid, hperm⟩
    · exact .inl hperm
  | @attempted r t now spend =>
    have hkey : s.spends.find? (r.consumed t.attemptId now).spendAuthorizationId = some r := by
      obtain hid := key_of_find? spend
      rw [← hid] at spend
      exact spend
    exact .inl (.of_eq (filterMap_insert_of_find? hkey rfl))
  | @revoked a d p now =>
    refine .inl (.of_eq ?_)
    unfold effectChildren
    rw [rows_map, List.filterMap_map]
    refine List.filterMap_congr fun r _ => ?_
    have hf : SpendFollows r (r.revokedUnder a.authorizationId now) := .revokedUnder r
    rw [Function.comp_apply, hf.decisionId, hf.body]

end Envelopes

end Harness.Acceptance
