import Harness.Sanity.DelegationRuns

/-! The provider journal of a delegated attempt stays under the limits of its manifest in every
run, and completing an attempt a second time replays the first completion unless the delegation
was revoked before it. -/

namespace Harness.Delegated

open Lib Table List

variable {F : Type} [DecidableEq F]
variable (float : Float64 F) (isWhitespace : Char → Bool) (frozen : Frozen F) (hash : Hashes F)

/-- Before and after any operations: no more entries than requests are allowed, one for a node,
tokens within the limit where an entry counts its reservation until its outcome is known; and an
entry that is settled is not settled again, so that a lost request never gets its tokens back. -/
theorem provider_journal_within_limits (ops ops' : List (Op F))
    (h : RunWithin float isWhitespace frozen hash empty (ops ++ ops')) :
    (∀ r ∈ (run float isWhitespace frozen hash empty ops).rows,
      (r.manifest = none → r.journal = []) ∧
        ∀ m, r.manifest = some m →
          r.journal.length ≤ m.limits.maxRequests.toNat ∧
          (r.journal.map JournalEntry.nodeId).Nodup ∧
          r.journal.effective ≤ m.limits.maxCumulativeTokens.toNat ∧
          ∀ e ∈ r.journal, Accounted e) ∧
      ∀ id r, (run float isWhitespace frozen hash empty ops).find? id = some r →
        ∃ r', (run float isWhitespace frozen hash empty (ops ++ ops')).find? id = some r' ∧
          (∀ m, r.manifest = some m → r'.manifest = some m) ∧
          ∀ (i : ℕ) (e : JournalEntry F), r.journal[i]? = some e →
            ∃ e', r'.journal[i]? = some e' ∧ SameClaim e e' ∧
              (e.status ≠ .sending → Notes e e') := by
  obtain ⟨hops, hops'⟩ := (runWithin_append float isWhitespace frozen hash).mp h
  have hinv := rowInv_run float isWhitespace frozen hash hops
    (fun r hr => absurd hr not_mem_nil)
  refine ⟨fun r hr => ⟨(hinv r hr).empty, fun m hm => ?_⟩, fun id r hr => ?_⟩
  · have hw := (hinv r hr).within m hm
    exact ⟨hw.requests, hw.nodes, hw.tokens, hw.accounted⟩
  · obtain ⟨r', hr', hf⟩ := rowFollows_run float isWhitespace frozen hash hops' hinv hr
    refine ⟨r', ?_, hf.manifest, hf.journal⟩
    rw [run, foldl_append]
    exact hr'

variable {answer : Completion × DelegationRow F} {fields : Receipt F}

omit [DecidableEq F] in
lemma lookup_append_of_not_mem {rest : Receipt F} {key : String}
    (h : ∀ field ∈ fields, field.1 ≠ key) : (fields ++ rest).lookup key = rest.lookup key := by
  induction fields with
  | nil => rfl
  | cons field fields ih =>
    have hne : (key == field.1) = false := by
      simpa using (h field mem_cons_self).symm
    rw [cons_append, lookup_cons, hne]
    exact ih fun f hf => h f (mem_cons_of_mem _ hf)

omit [DecidableEq F] in
/-- The store reads back the field that it added, not one of the caller's. -/
lemma costUnavailable_terminalReceipt {c : CompletionRequest F}
    (h : ∀ field ∈ fields, field.1 ∉ storeOwnedFields) :
    (c.terminalReceipt fields).costUnavailable = c.costUnavailable := by
  have hne : ∀ field ∈ fields, field.1 ≠ "cost_unavailable" := by
    intro field hf he
    exact h field hf (by rw [he]; decide)
  unfold Receipt.costUnavailable CompletionRequest.terminalReceipt
  rw [lookup_append_of_not_mem hne]
  rfl

variable {float hash} {s : Delegations F} {r : DelegationRow F} {c : CompletionRequest F}
variable {fields : Receipt F} {id : String}

omit [DecidableEq F] in
lemma Completes.closed (h : Completes float hash r c fields answer) : Closed answer.2 := by
  rcases h.outcome with ⟨hreceipt, hstatus, -, -, rfl⟩ | ⟨-, -, rfl⟩
  · exact ⟨by rw [hreceipt]; rfl, .inl hstatus⟩
  · refine ⟨rfl, ?_⟩
    by_cases hr : r.status = .revoked
    · exact .inr ⟨if_pos hr, rfl⟩
    · exact .inl (if_neg hr)

omit [DecidableEq F] in
/-- What a completion leaves, apart from whether the delegation was revoked. -/
lemma Completes.left
    (hself : ∀ x, float.isFinite x = true → float.lt float.tolerance (float.absDiff x x) = false)
    (hzero : float.isFinite float.zero = true) (h : Completes float hash r c fields answer) :
    answer.2.delegationId = r.delegationId ∧ answer.2.attemptId = r.attemptId ∧
      answer.2.attemptLeaseToken = r.attemptLeaseToken ∧
      answer.2.terminalReceipt = some (c.terminalReceipt fields) ∧
      float.lt float.tolerance
          (float.absDiff answer.2.totalCostUsd (c.realizedCostUsd.getD float.zero)) = false ∧
      answer.2.status = (if r.status = .revoked then .revoked else .expired) ∧
      answer.1.terminalClass = c.status ∧
      answer.1.receiptSha256 = hash.receipt (c.terminalReceipt fields) := by
  rcases h.outcome with ⟨hreceipt, hstatus, hdiff, -, rfl⟩ | ⟨-, -, rfl⟩
  · refine ⟨rfl, rfl, rfl, hreceipt, hdiff, ?_, rfl, rfl⟩
    rw [hstatus]
    rfl
  · refine ⟨rfl, rfl, rfl, rfl, hself _ ?_, rfl, rfl, rfl⟩
    cases hcost : c.realizedCostUsd with
    | none => exact hzero
    | some cost => exact (h.finite cost hcost).1

lemma completeAttempt_eq_ok {answer : Completion} {s' : Delegations F}
    (hr : s.find? id = some r) :
    completeAttempt float hash s id c = .ok (answer, s') ↔
      ∃ r', completeDelegatedAttemptWithCostEvidence float hash r c = .ok (answer, r') ∧
        s' = s.insert r' := by
  unfold completeAttempt
  rw [bind_eq_ok]
  constructor
  · rintro ⟨r₁, h1, h⟩
    obtain rfl : r₁ = r := Option.some.inj ((required_eq_ok.mp h1).symm.trans hr)
    obtain ⟨⟨answer₁, r'⟩, hc, h⟩ := bind_ok h
    cases h
    exact ⟨r', hc, rfl⟩
  · rintro ⟨r', hc, rfl⟩
    exact ⟨r, required_eq_ok.mpr hr, bind_eq_ok.mpr ⟨_, hc, rfl⟩⟩

variable (float hash)

/-- A completed attempt, whatever happens next: the same completion succeeds again with the same
result and changes nothing exactly if the delegation was not revoked when it was completed. -/
theorem completion_repeats_iff
    (hself : ∀ x, float.isFinite x = true → float.lt float.tolerance (float.absDiff x x) = false)
    (hzero : float.isFinite float.zero = true) (s s' : Delegations F) (id : String)
    (c : CompletionRequest F) (answer : Completion) (r : DelegationRow F)
    (hr : s.find? id = some r) (h : completeAttempt float hash s id c = .ok (answer, s'))
    (ops : List (Op F)) :
    completeAttempt float hash (run float isWhitespace frozen hash s' ops) id c =
        .ok ({ answer with replayed := true }, run float isWhitespace frozen hash s' ops) ↔
      r.status ≠ .revoked := by
  obtain ⟨r₁, hc, rfl⟩ := (completeAttempt_eq_ok hr).mp h
  obtain ⟨fields, hcomplete⟩ := completes_of_eq_ok hc
  obtain ⟨hid, hattempt, htoken, hreceipt, hdiff, hstatus, hclass, hsha⟩ :=
    hcomplete.left hself hzero
  have hr₁ : (s.insert r₁).find? id = some r₁ := by
    rw [find?_insert, if_pos (hid.trans (key_of_find? hr)).symm]
  obtain ⟨r₂, hr₂, hsame⟩ :=
    sameOutcome_run float isWhitespace frozen hash hr₁ hcomplete.closed
  have hfinal : r₂.status = if r.status = .revoked then .revoked else .expired :=
    hsame.status.trans hstatus
  constructor
  · intro hagain hrevoked
    rw [if_pos hrevoked] at hfinal
    obtain ⟨r₃, hc', -⟩ := (completeAttempt_eq_ok hr₂).mp hagain
    obtain ⟨fields', hcomplete'⟩ := completes_of_eq_ok hc'
    rcases hcomplete'.outcome with ⟨-, hexpired, -⟩ | ⟨hnone, -⟩
    · rw [hfinal] at hexpired
      cases hexpired
    · rw [hsame.terminalReceipt, hreceipt] at hnone
      cases hnone
  · intro hrevoked
    rw [if_neg hrevoked] at hfinal
    have hreplay : Completes float hash r₂ c fields ({ answer with replayed := true }, r₂) := by
      refine ⟨hcomplete.cost, hcomplete.finite, hcomplete.receipt, hcomplete.free,
        hsame.attemptId.trans (hattempt.trans hcomplete.attemptId),
        hsame.attemptLeaseToken.trans (htoken.trans hcomplete.leaseToken), .inl ?_⟩
      refine ⟨hsame.terminalReceipt.trans hreceipt, hfinal, ?_,
        costUnavailable_terminalReceipt hcomplete.free, ?_⟩
      · rw [hsame.totalCostUsd]
        exact hdiff
      · obtain ⟨terminalClass, sha256, replayed⟩ := answer
        obtain rfl := hclass
        obtain rfl := hsha
        rfl
    exact (completeAttempt_eq_ok hr₂).mpr
      ⟨r₂, hreplay.eq_ok, (insert_of_find? hr₂).symm⟩

def centFloat : Float64 ℤ where
  zero := 0
  tolerance := 0
  epsilon := 0
  million := 1000000
  ofU64 n := n.toNat
  add := (· + ·)
  mul := (· * ·)
  div := (· / ·)
  max := max
  absDiff x y := if x ≤ y then y - x else x - y
  lt x y := decide (x < y)
  isFinite _ := true

def samplePrices : DeepSeekPriceProfile ℤ where
  profileId := "prices"
  sourceUrl := pricingSource
  verifiedAt := "today"
  current := true
  flashCacheHit := 1
  flashCacheMiss := 2
  flashOutput := 3
  proCacheHit := 4
  proCacheMiss := 5
  proOutput := 6

def sampleBinding : FrozenProviderExecutionBinding where
  schemaVersion := "v1"
  providerIdentity := "deepseek-live"
  providerKind := deepseekProviderKind
  protocol := "openai_compatible"
  host := "api"
  baseUrl := "base"
  endpointPath := "/chat"
  credentialReference := "key"
  requestSchemaVersion := "request.v1"
  responseSchemaVersion := "response.v1"
  usageParserVersion := "usage.v1"
  pricingIdentity := none
  costUnavailable := false
  admittedModel := "deepseek-v4-flash"
  reasoningEffort := none

def sampleFrozen : Frozen ℤ where
  manifestSha256 _ := "manifest"
  packageBinding _ _ := .error "no package"
  canonicalBinding := sampleBinding
  defaultPriceProfile := samplePrices
  docsVerifier := "docs"
  rweVerifier := "rwe"
  isRweAllowedPaths _ := false
  rweMaxPatchLimits := (0, 0)
  rweCellCost := none
  half := 50

def sampleHashes : Hashes ℤ where
  delegation _ := "delegation"
  approval _ := "approval"
  spend _ := "spend"
  request r := r.binding.nodeId
  receipt _ := "receipt"
  journal _ := "journal"
  leaseId token := token

def sampleManifest : Manifest ℤ where
  manifestSha256 := some "manifest"
  delegationSha256 := some "delegation"
  campaignPackageId := none
  executionPackageId := none
  providerExecutionBinding := none
  models := some ⟨"deepseek-v4-pro", "deepseek-v4-flash", "deepseek-v4-pro"⟩
  provider := some (managedProviderValueForBinding sampleFrozen sampleBinding)
  protocol := some "openai_compatible"
  repository := some "Igzela/alters-lab"
  mutablePaths := ["docs/USER_GUIDE.md"]
  verifier := some "docs"
  maxChangedFiles := some 1
  maxChangedLines := some 100
  maxCostUsd := some 50
  maxTotalCostUsd := some 50
  maxProviderRequests := some 3
  maxRetries := some 0
  maxInputTokens := some 8000
  maxOutputTokens := some 4000
  maxCumulativeTokens := some 24000
  timeoutMs := some 30000
  outputIsDraftOnly := true
  delegationId := some "d"
  delegationExpiresAt := some 86400
  proposalManifestSha256 := some "manifest"
  tenantId := some "t"
  productTaskId := some "task"
  workflowId := some "w"
  attemptId := some "a"
  workflowNodeIds := some ["plan", "code", "verify", "review"]

def sampleContract : DelegationContract ℤ where
  schemaVersion := delegationSchemaVersion
  delegationId := "d"
  createdAt := 0
  expiresAt := 86400
  executions := 1
  repositories := ["Igzela/alters-lab"]
  taskClasses := ["documentation"]
  allowedPaths := ["docs/USER_GUIDE.md"]
  maxChangedFiles := 1
  maxChangedLines := 100
  maxCostUsdPerRun := 50
  maxTotalCostUsd := 50
  protocol := "openai_compatible"
  models := ⟨"deepseek-v4-pro", "deepseek-v4-flash", "deepseek-v4-pro"⟩
  outputIsDraftOnly := true
  forbidden := delegationForbidden

def sampleReviewer : AuthenticatedPrincipal where
  tenantId := "t"
  principalId := "reviewer"
  kind := .operatorApiKey
  scopes := [scopeDelegatedAutonomy, scopeDelegatedManifestApprove, scopeSpendAuthorize, scopeRevoke]
  role := "reviewer"
  named := by decide

def sampleOperator : AuthenticatedPrincipal where
  tenantId := "t"
  principalId := "operator"
  kind := .operatorApiKey
  scopes := [scopeDelegatedExecute, scopeAttemptAdmit]
  role := "operator"
  named := by decide

def sampleOpening : List (Op ℤ) :=
  [.persist sampleReviewer sampleContract (some "task") (some "t") 1,
   .propose "d" sampleManifest "manifest",
   .approve "d" sampleReviewer sampleManifest 2,
   .issueSpend "d" sampleReviewer "approval" sampleManifest "spend-1" 3,
   .activate "d" sampleOperator "a" sampleManifest "lease" 4]

def sampleRequest : ManagedProviderCallRequest ℤ where
  schemaVersion := "request.v1"
  providerIdentity := "deepseek-live"
  providerKind := deepseekProviderKind
  protocol := .openAiCompatible
  host := "api"
  baseUrl := "base"
  endpointPath := "/chat"
  credentialReference := "key"
  role := "implementer"
  requestedModel := "deepseek-v4-flash"
  systemBytes := 10
  messagesBytes := 0
  toolsBytes := 0
  toolChoiceBytes := 0
  maxOutputTokens := 100
  limits := sampleManifest.limits
  priceProfile := samplePrices
  binding := ⟨"task", "w", "code", "a", "spend-1", "lease"⟩
  transportProvenance := .external

def sampleResponse : ManagedProviderResponse ℤ where
  providerIdentity := "deepseek-live"
  providerKind := deepseekProviderKind
  protocol := .openAiCompatible
  requestedModel := "deepseek-v4-flash"
  resolvedModel := "deepseek-v4-flash"
  requestId := "r"
  usage := ⟨10, 50, 0, 0, 0, 10, 60, "deepseek-v4-flash", "r"⟩
  estimatedCostUsd := some 1

def sampleReview : ManagedProviderCallRequest ℤ :=
  { sampleRequest with
    role := "reviewer"
    requestedModel := "deepseek-v4-pro"
    binding := ⟨"task", "w", "review", "a", "spend-1", "lease"⟩ }

def sampleRun (ops : List (Op ℤ)) : Delegations ℤ :=
  run centFloat (fun _ => false) sampleFrozen sampleHashes empty ops

/-- One request is answered, the next one is sent and its outcome unknown. -/
def sampleCalls : List (Op ℤ) :=
  [.claim sampleRequest (.ok ⟨"run", 1, "owner"⟩) 5,
   .reconcile sampleRequest (some sampleResponse) .noExternalEffect 6,
   .claim sampleReview (.ok ⟨"run", 1, "owner"⟩) 7,
   .reconcile sampleReview none .outcomeUnknown 8]

lemma runWithin_sampleCalls :
    RunWithin centFloat (fun _ => false) sampleFrozen sampleHashes empty
      (sampleOpening ++ sampleCalls) := by
  refine ⟨fun _ _ => trivial, fun _ _ => trivial, fun _ _ => trivial, fun _ _ => trivial,
    fun _ _ => trivial, fun _ _ => trivial, ?_, fun _ _ => trivial,
    fun _ _ _ h => absurd h (Option.not_mem_none _), trivial⟩
  change ∀ r ∈ findAttempt (sampleRun (sampleOpening ++ sampleCalls.take 1)) "a",
    UsageWithin sampleHashes.request r.journal sampleRequest (some sampleResponse)
  exact of_decide_eq_true rfl

theorem provider_journal_within_limits_sample :
    (sampleRun (sampleOpening ++ sampleCalls)).rows.map
        (fun r => r.journal.map JournalEntry.status) = [[.succeeded, .outcomeUnknown]] ∧
      ∀ r ∈ (sampleRun (sampleOpening ++ sampleCalls)).rows, ∀ m, r.manifest = some m →
        r.journal.effective ≤ m.limits.maxCumulativeTokens.toNat := by
  refine ⟨rfl, fun r hr m hm => ?_⟩
  have h := provider_journal_within_limits centFloat (fun _ => false) sampleFrozen sampleHashes
    (sampleOpening ++ sampleCalls) [] (by rw [append_nil]; exact runWithin_sampleCalls)
  exact ((h.1 r hr).2 m hm).2.2.1

def sampleCompletion : CompletionRequest ℤ where
  attemptId := "a"
  leaseToken := "lease"
  status := .succeeded
  receipt := some [("draft_pr", .given "1")]
  realizedCostUsd := some 20
  costUnavailable := false

theorem completion_repeats_sample :
    ∃ answer s', completeAttempt centFloat sampleHashes (sampleRun sampleOpening) "d"
        sampleCompletion = .ok (answer, s') ∧
      completeAttempt centFloat sampleHashes
          (run centFloat (fun _ => false) sampleFrozen sampleHashes s' [.revoke "d" sampleReviewer])
          "d" sampleCompletion =
        .ok ({ answer with replayed := true },
          run centFloat (fun _ => false) sampleFrozen sampleHashes s'
            [.revoke "d" sampleReviewer]) := by
  refine ⟨_, _, rfl, ?_⟩
  refine (completion_repeats_iff centFloat (fun _ => false) sampleFrozen sampleHashes ?_ rfl
    (sampleRun sampleOpening) _ "d" sampleCompletion _ _ rfl rfl _).mpr ?_
  · simp [centFloat]
  · decide

/-- The delegation is revoked while the attempt is open. The attempt can still be completed, but
not a second time. -/
theorem completion_not_repeated_after_revoke :
    (completeAttempt centFloat sampleHashes
        (sampleRun (sampleOpening ++ [.revoke "d" sampleReviewer])) "d" sampleCompletion).map
          Prod.fst = .ok ⟨.succeeded, "receipt", false⟩ ∧
    completeAttempt centFloat sampleHashes
        (sampleRun (sampleOpening ++ [.revoke "d" sampleReviewer, .complete "d" sampleCompletion]))
        "d" sampleCompletion = .error "late or conflicting delegated terminal write" :=
  ⟨rfl, rfl⟩

end Harness.Delegated
