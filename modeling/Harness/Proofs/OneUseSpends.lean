import Harness.Sanity.AcceptanceOwners

/-! One-use spends: over any run, a spend is used once and an attempt uses one spend; a revoked
authorization admits nothing more, and an attempt that has ended stays as it ended. -/

namespace Harness.Acceptance

open Lib
open Delegated (SpendStatus TerminalStatus)

variable {C : Type} {prim : Primitives C} {s s' : Store C} {a : AuthorizationRow C}
  {id aid : String}

lemma Follows.closed_spend (h : Follows s s') {r : SpendRow C} (hr : s.spends.find? id = some r)
    (hclosed : r.status ≠ .active) : s'.spends.find? id = some r := by
  obtain ⟨r', hr', hf⟩ := h.spends id r hr
  rw [hr', hf.closed hclosed]

variable {t : AttemptRow C}

lemma Follows.ended_attempt (h : Follows s s') (ht : s.attempts.find? id = some t)
    (hended : t.status ≠ .admitted) : s'.attempts.find? id = some t := by
  obtain ⟨t', ht', hf⟩ := h.attempts id t ht
  rw [ht', hf.ended hended]

variable [LinearOrder C]

/-- An attempt consumed one spend. -/
lemma Inv.consumes_one (h : Inv prim s) (ht : s.attempts.find? id = some t) :
    ∃! spendId, ∃ r, s.spends.find? spendId = some r ∧ r.consumedByAttemptId = some id := by
  obtain ⟨-, r, hr, hc⟩ := h.spent.attempts id t ht
  obtain rfl := Table.key_of_find? ht
  refine ⟨t.spendAuthorizationId, ⟨r, hr, hc.attempt⟩, ?_⟩
  rintro spendId ⟨r', hr', hid⟩
  -- the attempt that this spend names is the one that is stored under the id
  obtain ⟨-, t', ht', hspend⟩ := h.spent.consumed spendId r' _ hr' hid
  cases ht.symm.trans ht'
  exact hspend.symm

/-- No two attempts consumed the same spend. -/
lemma Inv.consumes_alone (h : Inv prim s) {id' : String} {t' : AttemptRow C}
    (ht : s.attempts.find? id = some t) (ht' : s.attempts.find? id' = some t')
    (hspend : t.spendAuthorizationId = t'.spendAuthorizationId) : id = id' := by
  obtain ⟨-, r, hr, hc⟩ := h.spent.attempts id t ht
  obtain ⟨-, r', hr', hc'⟩ := h.spent.attempts id' t' ht'
  rw [hspend] at hr
  cases hr.symm.trans hr'
  have hid : t.attemptId = t'.attemptId := Option.mem_unique hc.attempt hc'.attempt
  obtain rfl := Table.key_of_find? ht
  obtain rfl := Table.key_of_find? ht'
  exact hid

variable [AddCommMonoid C]

/-- A change under a revoked authorization adds no attempt. -/
lemma Inv.no_attempt_after_revoke (hs : Inv prim s) (h : Change prim s s')
    (ha : s.authorizations.find? aid = some a) (hrevoked : a.status = .revoked)
    (ht : s'.attempts.find? id = some t) (hauth : t.authorizationId = aid) :
    ∃ t₀, s.attempts.find? id = some t₀ ∧ t₀.authorizationId = aid := by
  rcases h.attempts_came id t ht with ⟨t₀, ht₀, hf⟩ | ⟨-, hnew⟩
  · exact ⟨t₀, ht₀, hf.authorizationId.symm.trans hauth⟩
  · obtain ⟨r, hr, hactive, hrisk⟩ := hnew.before
    obtain ⟨a', ha', hactive'⟩ := hs.spent.active _ r hr hactive
    rw [← hrisk, hauth, ha] at ha'
    cases ha'
    rw [hrevoked] at hactive'
    cases hactive'

lemma run_no_attempt_after_revoke (hs : Inv prim s) (ha : s.authorizations.find? aid = some a)
    (hrevoked : a.status = .revoked) {ops : List (Op C)}
    (ht : (run prim s ops).attempts.find? id = some t) (hauth : t.authorizationId = aid) :
    ∃ t₀, s.attempts.find? id = some t₀ := by
  have hrun : Inv prim (run prim s ops) ∧
      (∃ a', (run prim s ops).authorizations.find? aid = some a' ∧ a'.status = .revoked) ∧
      ∀ id t, (run prim s ops).attempts.find? id = some t → t.authorizationId = aid →
        ∃ t₀, s.attempts.find? id = some t₀ := by
    refine run_induction (P := fun s₁ => Inv prim s₁ ∧
      (∃ a', s₁.authorizations.find? aid = some a' ∧ a'.status = .revoked) ∧
      ∀ id t, s₁.attempts.find? id = some t → t.authorizationId = aid →
        ∃ t₀, s.attempts.find? id = some t₀) ?_ ⟨hs, ⟨a, ha, hrevoked⟩, ?_⟩
    · rintro s₁ s₂ ⟨hinv, ⟨a₁, ha₁, hrevoked₁⟩, hattempts⟩ hc
      obtain ⟨a₂, ha₂, hf⟩ := hc.follows.authorizations aid a₁ ha₁
      refine ⟨hinv.change hc, ⟨a₂, ha₂, hf.staysRevoked hrevoked₁⟩, fun id t ht hauth => ?_⟩
      obtain ⟨t₁, ht₁, hauth₁⟩ := hinv.no_attempt_after_revoke hc ha₁ hrevoked₁ ht hauth
      exact hattempts id t₁ ht₁ hauth₁
    · intro id t ht _
      exact ⟨t, ht⟩
  exact hrun.2.2 id t ht hauth

/-- One-use spends, over any run cut into two parts. -/
theorem spends_are_used_once (prim : Primitives C) (before after : List (Op C)) :
    let s := run prim .empty before
    let s' := run prim s after
    -- a spend that has left `active` keeps its row
    (∀ id r, s.spends.find? id = some r → r.status ≠ .active → s'.spends.find? id = some r) ∧
    -- an attempt has consumed one spend, and no other attempt has consumed it
    (∀ id t, s'.attempts.find? id = some t →
      ∃! spendId, ∃ r, s'.spends.find? spendId = some r ∧ r.consumedByAttemptId = some id) ∧
    (∀ id t id' t', s'.attempts.find? id = some t → s'.attempts.find? id' = some t' →
      t.spendAuthorizationId = t'.spendAuthorizationId → id = id') ∧
    -- every attempt under a revoked authorization was there when it was revoked
    (∀ aid a, s.authorizations.find? aid = some a → a.status = .revoked →
      ∀ id t, s'.attempts.find? id = some t → t.authorizationId = aid →
        ∃ t₀, s.attempts.find? id = some t₀) ∧
    -- an attempt that has ended keeps its row
    (∀ id t, s.attempts.find? id = some t → t.status ≠ .admitted →
      s'.attempts.find? id = some t) := by
  intro s s'
  have hs : Inv prim s := Inv.empty.run before
  have hs' : Inv prim s' := hs.run after
  have hf : Follows s s' := run_follows
  refine ⟨fun id r hr hclosed => hf.closed_spend hr hclosed, fun id t ht => hs'.consumes_one ht,
    fun id t id' t' ht ht' hspend => hs'.consumes_alone ht ht' hspend, ?_,
    fun id t ht hended => hf.ended_attempt ht hended⟩
  intro aid a ha hrevoked id t ht hauth
  exact run_no_attempt_after_revoke hs ha hrevoked ht hauth

/-- Every authorization is the only one of a decision that it fits, every spend fits an
authorization, and what is active rests on what is active. -/
theorem authority_chain_holds (prim : Primitives C) (ops : List (Op C)) :
    let s := run prim .empty ops
    (∀ id a, s.authorizations.find? id = some a →
      (∀ id' a', s.authorizations.find? id' = some a' → a'.decisionId = a.decisionId → id' = id) ∧
      ∃ d, s.decisions.find? a.decisionId = some d ∧ validateRiskDecisionOwner a d = .ok () ∧
        d.principalId = some a.principalId ∧ (a.status = .active → d.status = .operatorAccepted)) ∧
    ∀ id r, s.spends.find? id = some r →
      ∃ a, s.authorizations.find? r.riskAuthorizationId = some a ∧
        validateSpendRiskOwner r a = .ok () ∧ (r.status = .active → a.status = .active) := by
  have hs : Inv prim (run prim .empty ops) := Inv.empty.run ops
  refine ⟨fun id a ha => ⟨fun id' a' ha' => hs.oneOwner.unique id' a' id a ha' ha, ?_⟩, ?_⟩
  · obtain ⟨-, d, hd, hby⟩ := hs.owned.authorizations id a ha
    refine ⟨d, hd, hby.owner, hby.principal, fun hactive => ?_⟩
    rcases hs.oneOwner.status id a ha with hrevoked | ⟨-, d', hd', haccepted⟩
    · cases hactive.symm.trans hrevoked
    · cases hd.symm.trans hd'
      exact haccepted
  · intro id r hr
    obtain ⟨-, a, ha, howner⟩ := hs.owned.spends id r hr
    refine ⟨a, ha, howner, fun hactive => ?_⟩
    obtain ⟨a', ha', hactive'⟩ := hs.spent.active id r hr hactive
    cases ha.symm.trans ha'
    exact hactive'

end Harness.Acceptance
