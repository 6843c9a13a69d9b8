import Harness.Proofs.EffectEnvelopes

/-! Outcomes of effect children: when the principal of a child can still record what became of
it. The window of the parent does not matter, but its revocation does. -/

namespace Harness.Acceptance

open Lib
open Delegated (isBlank SpendStatus TerminalStatus)

variable {C : Type} {prim : Primitives C} {s : Store C}

/-- The evidence that a child's outcome needs. -/
def outcomePayload (childId : String) : OutcomePayload := ⟨"provider_free_canary", childId, false⟩

/-- Evidence with this payload is not turned away. -/
def Presentable (prim : Primitives C) (payload : OutcomePayload) : Prop :=
  (prim.payloadJson payload).utf8ByteSize ≤ maxEffectOutcomeEvidenceBytes ∧
    prim.containsSensitivePatterns (prim.payloadJson payload) = false

lemma validateEffectOutcomeEvidence_spec {evidence : OutcomeEvidence}
    (h : validateEffectOutcomeEvidence prim evidence = .ok ()) :
    evidence.evidence = outcomePayload evidence.evidence.childAuthorizationId ∧
      Presentable prim evidence.evidence := by
  obtain ⟨hkind, h⟩ := seq_ok h
  obtain ⟨hvalues, h⟩ := seq_ok h
  obtain ⟨hsize, -⟩ := seq_ok h
  simp only [refuse_eq_ok, Bool.or_eq_false_iff, decide_eq_false_iff_not, ne_eq, not_not,
    not_lt] at hkind hvalues hsize
  refine ⟨?_, hsize⟩
  obtain ⟨⟨kind, childId, executed⟩, sha256⟩ := evidence
  obtain rfl : kind = _ := hkind
  obtain rfl : executed = false := hvalues.2
  rfl

lemma validateEffectOutcomeEvidence_payload {childId : String}
    (hhex : ∀ text, isHexOfLength 64 (prim.sha256Text text) = true)
    (hnamed : isBlank prim.isWhitespace childId = false ∧ childId.toList.length ≤ 256)
    (hp : Presentable prim (outcomePayload childId)) :
    validateEffectOutcomeEvidence prim
        ⟨outcomePayload childId, prim.sha256Text (prim.payloadJson (outcomePayload childId))⟩ =
      .ok () := by
  refine seq_eq_ok.mpr ⟨rfl, seq_eq_ok.mpr ⟨?_, seq_eq_ok.mpr ⟨?_, ?_⟩⟩⟩
  · rw [refuse_eq_ok, Bool.or_eq_false_iff, Bool.or_eq_false_iff]
    exact ⟨⟨hnamed.1, decide_eq_false (not_lt.mpr hnamed.2)⟩, rfl⟩
  · simpa [refuse_eq_ok, Presentable] using hp
  · refine seq_eq_ok.mpr ⟨by simp [refuse_eq_ok, hhex], by simp [refuse_eq_ok]⟩

variable [AddCommMonoid C] [LinearOrder C]

/-- A child is of production: its principal is no fixture. -/
lemma Ledger.production (hi : Inv prim s) (hl : Ledger prim s) {k : String} {r : SpendRow C}
    {child : EffectChild C} {p : AuthenticatedPrincipal} (hr : s.spends.find? k = some r)
    (hterms : r.body.terms = .effect child) (htenant : p.tenantId = r.tenantId)
    (hid : p.principalId = r.principalId) (hkind : p.kind = r.principalKind) :
    p.fixture = false := by
  obtain ⟨a, d, -, -, hvalid⟩ := hl.settles hi hr hterms htenant hid hkind
  obtain ⟨-, hvalid⟩ := seq_ok hvalid
  obtain ⟨honly, -⟩ := seq_ok hvalid
  have hintact := (hi.owned.spends _ r hr).1
  iterate 2 obtain ⟨-, hintact⟩ := seq_ok hintact
  obtain ⟨hfixture, -⟩ := seq_ok hintact
  simp only [refuse_eq_ok, Bool.or_eq_false_iff, decide_eq_false_iff_not, ne_eq,
    not_not] at honly hfixture
  rw [honly] at hfixture
  rw [AuthenticatedPrincipal.fixture, hkind, ← hfixture.2, ← hfixture.1]

/-- A child that has not been settled can be settled with any outcome, at any time, exactly when
its authorization was not revoked and its id can be presented as evidence. -/
theorem effect_child_settles_iff (prim : Primitives C)
    (hhex : ∀ text, isHexOfLength 64 (prim.sha256Text text) = true)
    (hattempt : ∀ b b', prim.attemptSha256 (.effect b) = prim.attemptSha256 b' →
      ∃ b'', b' = .effect b'' ∧ b''.attemptId = b.attemptId)
    (ops : List (Op C)) (id : String) (r : SpendRow C) (child : EffectChild C)
    (hr : (run prim .empty ops).spends.find? id = some r)
    (hterms : r.body.terms = .effect child) (hopen : r.status ≠ .consumed)
    (p : AuthenticatedPrincipal) (htenant : p.tenantId = r.tenantId)
    (hid : p.principalId = r.principalId) (hkind : p.kind = r.principalKind)
    (hscopes : p.hasScope scopeDelegatedExecute = true ∧ p.hasScope scopeAttemptAdmit = true)
    (attemptId : String) (hfresh : (run prim .empty ops).attempts.find? attemptId = none)
    (status : TerminalStatus)
    (hstatus : status ∈ [TerminalStatus.succeeded, .failed, .outcomeUnknown]) (now : ℤ) :
    (∃ evidence reply s', settleEffectChildAuthorization prim (run prim .empty ops) p id attemptId
        status evidence now = .ok (reply, s')) ↔
      (∃ a, (run prim .empty ops).authorizations.find? r.riskAuthorizationId = some a ∧
        a.status ≠ .revoked) ∧ Presentable prim (outcomePayload id) := by
  have hi : Inv prim (run prim .empty ops) := Inv.empty.run ops
  have hl : Ledger prim (run prim .empty ops) := Ledger.run ops
  constructor
  · rintro ⟨evidence, reply, s', h⟩
    obtain ⟨r', child', hs, ⟨existing, hexisting, -⟩ | ⟨-, hactive, -, -⟩⟩ := settle_eq_ok.mp h
    · rw [findAttempt_eq_none hfresh] at hexisting
      cases hexisting
    cases hr.symm.trans hs.spend
    obtain ⟨a, ha, hactive'⟩ := hi.spent.active _ r hr hactive
    obtain ⟨hpayload, hpresentable⟩ := validateEffectOutcomeEvidence_spec hs.validEvidence
    rw [hpayload, hs.bound] at hpresentable
    refine ⟨⟨a, ha, ?_⟩, hpresentable⟩
    rw [hactive']
    decide
  · rintro ⟨⟨a, ha, hrevoked⟩, hpresentable⟩
    have hactive : r.status = .active := by
      rcases hl.closed _ r hr with h | h | ⟨a', ha', h⟩
      · exact h
      · exact absurd h hopen
      · cases ha.symm.trans ha'
        exact absurd h hrevoked
    obtain ⟨_, _, _, -, -, hderived⟩ := hl.derived _ r child hr hterms
    have hkey : r.spendAuthorizationId = id := Table.key_of_find? hr
    have hnamed := hderived.named
    rw [hkey] at hnamed
    refine ⟨⟨outcomePayload id, prim.sha256Text (prim.payloadJson (outcomePayload id))⟩, _, _,
      settle_eq_ok.mpr ⟨r, child, ⟨hscopes, hl.production hi hr hterms htenant hid hkind, hstatus,
        validateEffectOutcomeEvidence_payload hhex hnamed hpresentable, hr,
        (hi.owned.spends _ r hr).1, hl.settles hi hr hterms htenant hid hkind, rfl⟩,
        .inr ⟨findAttempt_eq_none hfresh, hactive,
          recordAttempt_eq_ok.mpr ⟨hfresh, fun t ht _ hsha => ?_, rfl⟩, rfl⟩⟩⟩
    -- an attempt with the same body would have the same id
    have hfind := (run prim .empty ops).attempts.find?_key ht
    obtain ⟨hrecorded, -⟩ := hi.spent.attempts _ t hfind
    obtain ⟨b, hb, hbid⟩ := hattempt _ t.body (hsha.symm.trans hrecorded.sha256)
    have hsame : t.attemptId = attemptId := (hrecorded.effect b hb).symm.trans hbid
    rw [hsame, hfresh] at hfind
    cases hfind

/-- A child whose parent was revoked can no longer be settled. -/
theorem effect_child_lost_with_parent :
    (∃ r, (run samplePrimitives .empty (sampleAccepted ++
        [sampleDerive "child-1" 10, .revoke sampleOwner "maa-1" 1700000004])).spends.find?
          "child-1" = some r ∧ r.status ≠ .consumed) ∧
    (settleEffectChildAuthorization samplePrimitives (run samplePrimitives .empty (sampleAccepted ++
        [sampleDerive "child-1" 10, .revoke sampleOwner "maa-1" 1700000004])) sampleOwner "child-1"
          "attempt-1" .succeeded (sampleEvidence "child-1") 1700000005).map Prod.fst =
      .error "effect child is not active and cannot be settled" :=
  ⟨⟨_, rfl, by decide⟩, rfl⟩

lemma samplePrimitives_attempt (b : EffectAttemptBody ℤ) (b' : AttemptBody ℤ)
    (h : samplePrimitives.attemptSha256 (.effect b) = samplePrimitives.attemptSha256 b') :
    ∃ b'', b' = .effect b'' ∧ b''.attemptId = b.attemptId := by
  have htext := congrArg String.toList h
  cases b' with
  | admission body => simp [samplePrimitives] at htext
  | effect b'' =>
    simpa [samplePrimitives, String.toList_inj] using htext.symm

theorem effect_child_settles_sample :
    ∃ evidence reply s', settleEffectChildAuthorization samplePrimitives
        (run samplePrimitives .empty (sampleAccepted ++ [sampleDerive "child-1" 10])) sampleOwner
        "child-1" "attempt-1" .outcomeUnknown evidence 1900000000 = .ok (reply, s') :=
  (effect_child_settles_iff samplePrimitives (fun _ => hexText_isHex 'a' rfl)
    samplePrimitives_attempt (sampleAccepted ++ [sampleDerive "child-1" 10]) "child-1" _ _ rfl rfl
    (by decide) sampleOwner rfl rfl rfl (by decide) "attempt-1" rfl .outcomeUnknown (by decide)
    1900000000).mpr ⟨⟨_, rfl, by decide⟩, by decide, rfl⟩

end Harness.Acceptance
