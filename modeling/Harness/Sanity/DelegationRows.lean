import Harness.Sanity.DelegatedJournal

/-! What one operation does to the row that it is about, said once for all operations. -/

namespace Harness.Delegated

open Lib

variable {p : AuthenticatedPrincipal}
variable {F : Type} [DecidableEq F]
variable {float : Float64 F} {isWhitespace : Char → Bool} {frozen : Frozen F} {hash : Hashes F}
variable {r r' : DelegationRow F} {s : Delegations F} {bounded : Prop}

/-- The columns that the attempt and its outcome rest on. -/
structure SameCore (r r' : DelegationRow F) : Prop where
  delegationId : r'.delegationId = r.delegationId
  status : r'.status = r.status
  executionsUsed : r'.executionsUsed = r.executionsUsed
  totalCostUsd : r'.totalCostUsd = r.totalCostUsd
  manifest : r'.manifest = r.manifest
  attemptId : r'.attemptId = r.attemptId
  attemptLeaseToken : r'.attemptLeaseToken = r.attemptLeaseToken
  attemptStatus : r'.attemptStatus = r.attemptStatus
  journal : r'.journal = r.journal
  terminalReceipt : r'.terminalReceipt = r.terminalReceipt

inductive JournalChange (bounded : Prop) (manifest : Option (Manifest F)) (journal : Journal F) :
    Journal F → Prop
  | claimed {m : Manifest F} {e : JournalEntry F} (hm : manifest = some m)
      (h : Claimable m.limits journal e) : JournalChange bounded manifest journal (journal ++ [e])
  | reconciled {i : ℕ} {e e' : JournalEntry F} (he : journal[i]? = some e)
      (h : Reconciles bounded e e') : JournalChange bounded manifest journal (journal.set i e')
  | noted {i : ℕ} {e e' : JournalEntry F} (he : journal[i]? = some e)
      (hstatus : e.status = .succeeded) (h : Notes e e') :
      JournalChange bounded manifest journal (journal.set i e')

inductive Change (bounded : Prop) (r : DelegationRow F) : DelegationRow F → Prop
  | prepared {r' : DelegationRow F} (h : SameCore r r') : Change bounded r r'
  | spent {spendId sha256 : String} {body : SpendBody F} {m : Manifest F}
      (hactive : r.status = .active) (hunspent : r.executionsUsed = 0) :
      Change bounded r
        { r with
          executionsUsed := 1
          spendAuthorizationId := some spendId
          spendBodySha256 := some sha256
          spendStatus := some .active
          spendBody := some body
          manifest := some m }
  | activated {attemptId leaseId leaseToken activator : String} (hactive : r.status = .active)
      (hnew : r.attemptId = none) :
      Change bounded r
        { r with
          attemptId := some attemptId
          attemptLeaseId := some leaseId
          attemptLeaseToken := some leaseToken
          attemptStatus := some .admitted
          spendStatus := some .consumed
          attemptActivatorId := some activator }
  | written {journal : Journal F} (h : JournalChange bounded r.manifest r.journal journal) :
      Change bounded r { r with journal := journal }
  | completed {cost : F} {receipt : Receipt F} (hopen : r.terminalReceipt = none) :
      Change bounded r
        { r with
          status := if r.status = .revoked then .revoked else .expired
          totalCostUsd := cost
          spendStatus := some (if r.status = .revoked then .revoked else .expired)
          attemptStatus := some .closed
          terminalReceipt := some receipt }
  | revoked (hactive : r.status = .active) :
      Change bounded r { r with status := .revoked, spendStatus := some .revoked }
  | closed {receipt : Receipt F} (hrevoked : r.status = .revoked)
      (hopen : r.attemptStatus = some .admitted) :
      Change bounded r
        { r with
          attemptStatus := some .closed
          spendStatus := some .revoked
          terminalReceipt := some receipt }

omit [DecidableEq F] in
lemma Change.refl (r : DelegationRow F) : Change bounded r r :=
  .prepared ⟨rfl, rfl, rfl, rfl, rfl, rfl, rfl, rfl, rfl, rfl⟩

variable {c : CompletionRequest F} {scheduler : Except String ManagedSchedulerLeaseAuthority}
  {b : ManagedCallBinding} {m : Manifest F} {now : ℤ}

lemma rebind_change {tenantId taskId reviewer : String}
    (h : rebindUnadmittedDelegationForBootstrap float r tenantId taskId reviewer now = .ok r') :
    Change bounded r r' := by
  iterate 6 obtain ⟨-, h⟩ := seq_ok h
  cases h
  exact .prepared ⟨rfl, rfl, rfl, rfl, rfl, rfl, rfl, rfl, rfl, rfl⟩

lemma propose_change {proposal : Manifest F} {sha256 : String}
    (h : persistApprovedDelegatedProposal frozen r proposal sha256 = .ok r') :
    Change bounded r r' := by
  obtain ⟨-, h⟩ := seq_ok h
  split at h
  · obtain ⟨-, h⟩ := seq_ok h
    cases h
    exact .refl r
  · obtain ⟨-, h⟩ := seq_ok h
    cases h
    exact .prepared ⟨rfl, rfl, rfl, rfl, rfl, rfl, rfl, rfl, rfl, rfl⟩

lemma approve_change (h : approveDelegatedManifest isWhitespace frozen hash r p m now = .ok r') :
    Change bounded r r' := by
  iterate 5 obtain ⟨-, h⟩ := seq_ok h
  obtain ⟨approved, -, h⟩ := bind_ok h
  iterate 3 obtain ⟨-, h⟩ := seq_ok h
  split at h
  · obtain ⟨-, h⟩ := seq_ok h
    cases h
    exact .refl r
  · cases h
    exact .prepared ⟨rfl, rfl, rfl, rfl, rfl, rfl, rfl, rfl, rfl, rfl⟩

lemma issueSpend_change {approvalSha256 spendId : String}
    (h : issueDelegatedSpend isWhitespace frozen hash r p approvalSha256 m spendId now = .ok r') :
    Change bounded r r' := by
  iterate 4 obtain ⟨-, h⟩ := seq_ok h
  obtain ⟨hactive, h⟩ := seq_ok h
  iterate 2 obtain ⟨-, h⟩ := seq_ok h
  obtain ⟨approval, -, h⟩ := bind_ok h
  obtain ⟨-, h⟩ := seq_ok h
  have hactive := refuse_ok hactive
  simp only [ne_eq, decide_not, Bool.or_eq_false_iff, Bool.not_eq_eq_eq_not, Bool.not_false,
    decide_eq_true_eq] at hactive
  split_ifs at h with hused
  · obtain ⟨-, h⟩ := seq_ok h
    cases h
    exact .refl r
  · cases h
    exact .spent hactive.1.1.1 (by omega)

lemma activate_change {attemptId leaseToken : String} {answer : AttemptLease × DelegationRow F}
    (h : admitDelegatedAttempt isWhitespace frozen hash r p attemptId m leaseToken now =
      .ok answer) :
    Change bounded r answer.2 := by
  iterate 6 obtain ⟨-, h⟩ := seq_ok h
  obtain ⟨hactive, h⟩ := seq_ok h
  have hactive := refuse_ok hactive
  simp only [ne_eq, decide_not, Bool.or_eq_false_iff, Bool.not_eq_eq_eq_not, Bool.not_false,
    decide_eq_true_eq] at hactive
  split at h
  · obtain ⟨-, h⟩ := seq_ok h
    cases h
    exact .refl r
  · next hnew =>
    obtain ⟨-, h⟩ := seq_ok h
    cases h
    exact .activated hactive.1.1.1.1 hnew

omit [DecidableEq F] in
lemma requireUnique_eq_ok (h : requireUnique s r = .ok r') : r' = r := by
  obtain ⟨-, h⟩ := seq_ok h
  exact (Except.ok.inj h).symm

variable {request : ManagedProviderCallRequest F} {answer : Completion × DelegationRow F}

/-- A request that passes is made under the limits of the manifest. -/
lemma limits_of_authority {u : Unit}
    (h : validateProviderJournalAuthority isWhitespace frozen hash request now r = .ok u) :
    ∃ m, r.manifest = some m ∧ request.limits = m.limits ∧
      m.limits.maxCumulativeTokens.toNat < maxWord 64 := by
  obtain ⟨-, h⟩ := seq_ok h
  obtain ⟨m, hm, h⟩ := bind_ok h
  obtain ⟨contract, hcontract, h⟩ := bind_ok h
  obtain ⟨hsame, h⟩ := seq_ok h
  have hsame := refuse_ok hsame
  simp only [ne_eq, decide_not, Bool.or_eq_false_iff, Bool.not_eq_eq_eq_not, Bool.not_false,
    decide_eq_true_eq] at hsame
  obtain ⟨hpolicy, hcontract⟩ := seq_ok hcontract
  obtain ⟨nodes, -, hcontract⟩ := bind_ok hcontract
  iterate 2 obtain ⟨-, hcontract⟩ := seq_ok hcontract
  obtain ⟨models, -, hcontract⟩ := bind_ok hcontract
  obtain ⟨model, -, hcontract⟩ := bind_ok hcontract
  obtain ⟨provider, -, hcontract⟩ := bind_ok hcontract
  obtain ⟨prices, -, hcontract⟩ := bind_ok hcontract
  cases hcontract
  exact ⟨m, required_eq_ok.mp hm, hsame.1.2.symm, limits_of_policy hpolicy⟩

lemma claim_change
    (h : claimDelegatedProviderRequest float isWhitespace frozen hash s r request scheduler now =
      .ok r') :
    Change bounded r r' := by
  obtain ⟨-, h⟩ := seq_ok h
  obtain ⟨hauthority, h⟩ := seq_ok h
  obtain ⟨lease, -, h⟩ := bind_ok h
  obtain ⟨journal, hjournal, h⟩ := bind_ok h
  cases h
  obtain ⟨m, hm, hlimits, hmax⟩ := limits_of_authority hauthority
  obtain ⟨e, he, rfl⟩ := claim_spec (hlimits ▸ hmax) hjournal
  exact .written (.claimed hm (hlimits ▸ he))

omit [DecidableEq F] in
lemma reconcile_change {response : Option (ManagedProviderResponse F)}
    {effect : ManagedFailureEffect}
    (h : reconcileDelegatedProviderRequest float hash r request response effect now = .ok r') :
    Change (UsageWithin hash.request r.journal request response) r r' := by
  obtain ⟨-, h⟩ := seq_ok h
  obtain ⟨journal, hjournal, h⟩ := bind_ok h
  cases h
  obtain ⟨i, e, e', he, hr, rfl⟩ := reconcile_spec hjournal
  exact .written (.reconciled he hr)

lemma workspaceAction_change {written : Except String String}
    (h : applyManagedWorkspaceAction isWhitespace frozen hash s r b scheduler written now =
      .ok r') :
    Change bounded r r' := by
  obtain ⟨-, h⟩ := seq_ok h
  obtain ⟨lease, -, h⟩ := bind_ok h
  obtain ⟨-, h⟩ := seq_ok h
  obtain ⟨m, -, h⟩ := bind_ok h
  iterate 2 obtain ⟨-, h⟩ := seq_ok h
  obtain ⟨sha256, -, h⟩ := bind_ok h
  obtain ⟨journal, hjournal, h⟩ := bind_ok h
  cases h
  obtain ⟨i, e, e', he, hstatus, hn, rfl⟩ := recordWorkspace_spec (.inl hjournal)
  exact .written (.noted he hstatus hn)

omit [DecidableEq F] in
lemma workspaceFailure_change {failureClass failureSha256 : String}
    (h : recordManagedWorkspaceActionFailure isWhitespace r b failureClass failureSha256 = .ok r') :
    Change bounded r r' := by
  obtain ⟨-, h⟩ := seq_ok h
  obtain ⟨journal, hjournal, h⟩ := bind_ok h
  cases h
  obtain ⟨i, e, e', he, hstatus, hn, rfl⟩ := recordWorkspace_spec (.inr hjournal)
  exact .written (.noted he hstatus hn)

lemma confirmArtifact_change {confirmation : Except String String}
    (h : confirmDelegatedArtifact float isWhitespace frozen r p m confirmation now = .ok r') :
    Change bounded r r' := by
  iterate 6 obtain ⟨-, h⟩ := seq_ok h
  obtain ⟨sha256, -, h⟩ := bind_ok h
  split_ifs at h
  · cases h
    exact .refl r
  · cases h
    exact .prepared ⟨rfl, rfl, rfl, rfl, rfl, rfl, rfl, rfl, rfl, rfl⟩

variable (float hash r c) in
/-- A completion that goes through: the request is well formed and owns the attempt, and either
the same completion is on the row already or the row is closed with it now. -/
structure Completes (fields : Receipt F) (answer : Completion × DelegationRow F) : Prop where
  cost : c.costUnavailable = c.realizedCostUsd.isNone
  finite : ∀ cost ∈ c.realizedCostUsd, float.isFinite cost = true ∧ float.lt cost float.zero = false
  receipt : c.receipt = some fields
  free : ∀ field ∈ fields, field.1 ∉ storeOwnedFields
  attemptId : r.attemptId = some c.attemptId
  leaseToken : r.attemptLeaseToken = some c.leaseToken
  outcome :
    (r.terminalReceipt = some (c.terminalReceipt fields) ∧ r.status = .expired ∧
      float.lt float.tolerance
        (float.absDiff r.totalCostUsd (c.realizedCostUsd.getD float.zero)) = false ∧
      (c.terminalReceipt fields).costUnavailable = c.costUnavailable ∧
      answer = (⟨c.status, hash.receipt (c.terminalReceipt fields), true⟩, r)) ∨
    (r.terminalReceipt = none ∧
      float.lt r.maxTotalCostUsd (c.realizedCostUsd.getD float.zero) = false ∧
      answer = (⟨c.status, hash.receipt (c.terminalReceipt fields), false⟩,
        { r with
          status := if r.status = .revoked then .revoked else .expired
          totalCostUsd := c.realizedCostUsd.getD float.zero
          spendStatus := some (if r.status = .revoked then .revoked else .expired)
          attemptStatus := some .closed
          terminalReceipt := some (c.terminalReceipt fields) }))

omit [DecidableEq F] in
lemma validCost_iff {unavailable : Bool} {cost : Option F} :
    ((!unavailable && cost.isNone) || (unavailable && cost.isSome) ||
          cost.any fun cost => !float.isFinite cost || float.lt cost float.zero) = false ↔
      unavailable = cost.isNone ∧
        ∀ c ∈ cost, float.isFinite c = true ∧ float.lt c float.zero = false := by
  cases unavailable <;> cases cost <;> simp

lemma completes_of_eq_ok
    (h : completeDelegatedAttemptWithCostEvidence float hash r c = .ok answer) :
    ∃ fields, Completes float hash r c fields answer := by
  obtain ⟨hcost, h⟩ := seq_ok h
  obtain ⟨fields, hfields, h⟩ := bind_ok h
  obtain ⟨hfree, h⟩ := seq_ok h
  obtain ⟨howner, h⟩ := seq_ok h
  obtain ⟨hcost, hfinite⟩ := validCost_iff.mp (refuse_ok hcost)
  have hfree := refuse_ok hfree
  have howner : r.attemptId = some c.attemptId ∧ r.attemptLeaseToken = some c.leaseToken := by
    simpa using refuse_ok howner
  refine ⟨fields, hcost, hfinite, required_eq_ok.mp hfields, by simpa using hfree, howner.1,
    howner.2, ?_⟩
  split at h
  · next existing hexisting =>
    obtain ⟨hsame, hanswer⟩ := seq_ok h
    have hsame := refuse_ok hsame
    simp only [Bool.not_eq_eq_eq_not, Bool.not_false, Bool.and_eq_true, decide_eq_true_eq,
      Bool.not_true] at hsame
    obtain ⟨⟨⟨rfl, hstatus⟩, hdiff⟩, hunavailable⟩ := hsame
    exact .inl ⟨hexisting, hstatus, hdiff, hunavailable, (Except.ok.inj hanswer).symm⟩
  · next hnone =>
    obtain ⟨hceiling, h⟩ := seq_ok h
    exact .inr ⟨hnone, refuse_ok hceiling, (Except.ok.inj h).symm⟩

lemma Completes.eq_ok {fields : Receipt F} (h : Completes float hash r c fields answer) :
    completeDelegatedAttemptWithCostEvidence float hash r c = .ok answer := by
  refine pass (validCost_iff.mpr ⟨h.cost, h.finite⟩) ?_
  refine bind_eq_ok.mpr ⟨fields, required_eq_ok.mpr h.receipt, ?_⟩
  refine pass (by simpa using h.free) ?_
  refine pass (by simp [h.attemptId, h.leaseToken]) ?_
  rcases h.outcome with ⟨hreceipt, hstatus, hdiff, hunavailable, rfl⟩ | ⟨hnone, hceiling, rfl⟩
  · rw [hreceipt]
    exact pass (by simp [hstatus, hdiff, hunavailable]) rfl
  · rw [hnone]
    exact pass hceiling rfl

lemma complete_change (h : completeDelegatedAttemptWithCostEvidence float hash r c = .ok answer) :
    Change bounded r answer.2 := by
  obtain ⟨fields, hc⟩ := completes_of_eq_ok h
  rcases hc.outcome with ⟨-, -, -, -, rfl⟩ | ⟨hnone, -, rfl⟩
  · exact .refl r
  · exact .completed hnone

omit [DecidableEq F] in
lemma revoke_change (h : revokeDelegation r p = .ok r') : Change bounded r r' := by
  iterate 4 obtain ⟨-, h⟩ := seq_ok h
  cases hstatus : r.status with
  | active =>
    rw [hstatus] at h
    cases h
    exact .revoked hstatus
  | revoked =>
    rw [hstatus] at h
    cases h
    exact .refl r
  | expired =>
    rw [hstatus] at h
    cases h

omit [DecidableEq F] in
lemma closeRevoked_change {journal : Journal F} {cleanup : Except String (Bool × String)}
    (h : closeRevokedDelegationAttempt hash r journal cleanup = .ok r') : Change bounded r r' := by
  unfold closeRevokedDelegationAttempt at h
  split_ifs at h with hopen
  · obtain ⟨m, -, h⟩ := bind_ok h
    obtain ⟨productTaskId, -, h⟩ := bind_ok h
    obtain ⟨report, -, h⟩ := bind_ok h
    obtain ⟨-, h⟩ := seq_ok h
    cases h
    simp only [Bool.and_eq_true, decide_eq_true_eq] at hopen
    exact .closed hopen.1 hopen.2
  · cases h
    exact .refl r

/-- Whether what an operation reconciles was within its reservation. -/
def Op.UsageWithin (requestSha256 : ManagedProviderCallRequest F → String) (op : Op F)
    (r : DelegationRow F) : Prop :=
  match op with
  | reconcile request response .. => Delegated.UsageWithin requestSha256 r.journal request response
  | _ => True

lemma rowStep_change {op : Op F} (h : rowStep float isWhitespace frozen hash s op r = .ok r') :
    Change (op.UsageWithin hash.request r) r r' := by
  cases op with
  | persist =>
    cases h
    exact .refl r
  | rebind => exact rebind_change h
  | propose => exact propose_change h
  | approve => exact approve_change h
  | issueSpend =>
    obtain ⟨r₁, h1, h2⟩ := bind_ok h
    obtain rfl := requireUnique_eq_ok h2
    exact issueSpend_change h1
  | activate =>
    obtain ⟨answer, h1, h2⟩ := bind_ok h
    obtain rfl := requireUnique_eq_ok h2
    exact activate_change h1
  | claim => exact claim_change h
  | reconcile => exact reconcile_change h
  | workspaceAction => exact workspaceAction_change h
  | workspaceFailure => exact workspaceFailure_change h
  | confirmArtifact => exact confirmArtifact_change h
  | complete id c =>
    change (completeDelegatedAttemptWithCostEvidence float hash r c).map Prod.snd = _ at h
    cases hc : completeDelegatedAttemptWithCostEvidence float hash r c with
    | error e => rw [hc] at h; cases h
    | ok answer =>
      rw [hc] at h
      cases h
      exact complete_change hc
  | revoke => exact revoke_change h
  | closeRevoked => exact closeRevoked_change h

end Harness.Delegated
