import Harness.Sanity.WorkflowSteps
import Harness.Spec.ProductBudget
import Mathlib.Algebra.BigOperators.Group.List.Basic

/-! The attempts of a managed node share one token budget. An attempt that does not say what
it used is not counted; it is not done either, and not tried again. -/

namespace Harness.ProductBudget

open List

variable {r : ProductManagedTokenSettlement}
variable {m m' : NodeMetadata} {o : NodeExecutionOutput} {limit attempt total : ℕ}

/-- A result that is neither done nor tried again. -/
structure Closed (o : NodeExecutionOutput) : Prop where
  open_ended : o.status ≠ "completed"
  final : retryableNodeFailure o = false

variable {outputs : List NodeExecutionOutput} {u : ManagedUsage} {domain message : String}
  {before : ℕ}

lemma closed_refused (h : domain ∈ terminalDomains) : Closed (refused o domain message) where
  open_ended := by
    change "failed" ≠ "completed"
    decide
  final := by
    have hdomain : (refused o domain message).errorDomain.any (· ∈ terminalDomains) = true :=
      decide_eq_true h
    unfold retryableNodeFailure retryableDomain
    rw [hdomain, Bool.not_true, Bool.and_false, Bool.and_false]

lemma closed_refusedIfOpen (h : domain ∈ terminalDomains) :
    Closed (refusedIfOpen o domain message) := by
  unfold refusedIfOpen
  split_ifs with hopen
  · exact closed_refused h
  · rw [Bool.or_eq_true, decide_eq_true_eq, not_or, Bool.not_eq_true] at hopen
    exact ⟨hopen.1, hopen.2⟩

lemma unavailable_terminal : "product_token_usage_unavailable" ∈ terminalDomains := by decide

lemma exhausted_terminal : "product_token_budget_exhausted" ∈ terminalDomains := by decide

/-- The record names this attempt and its total. -/
def Recorded (m : NodeMetadata) (total : ℕ) (usage : Option ManagedUsage) : Prop :=
  ∃ u, usage = some u ∧ u.schemaVersion = some schemaVersion ∧ u.lastAttempt = m.executionAttempt ∧
    u.cumulativeTokens = some total

/-- What the budget makes of a result. -/
inductive Settled (limit : ℕ) (m : NodeMetadata) (o : NodeExecutionOutput) :
    ProductManagedTokenSettlement → Prop
  | broken {r : ProductManagedTokenSettlement} (hprior : priorCumulative m = none)
      (hclosed : Closed r.output) (husage : r.usageState = none) : Settled limit m o r
  | unmeasured {r : ProductManagedTokenSettlement} {prior : ℕ} (hprior : priorCumulative m = some prior)
      (htokens : measured o = none) (hclosed : Closed r.output)
      (husage : Recorded m prior r.usageState) : Settled limit m o r
  | overflow {r : ProductManagedTokenSettlement} {prior tokens : ℕ}
      (hprior : priorCumulative m = some prior) (htokens : measured o = some tokens)
      (hclosed : Closed r.output) (husage : r.usageState = none) : Settled limit m o r
  | exhausted {r : ProductManagedTokenSettlement} {prior tokens : ℕ}
      (hprior : priorCumulative m = some prior) (htokens : measured o = some tokens)
      (hclosed : Closed r.output) (husage : Recorded m (prior + tokens) r.usageState) :
      Settled limit m o r
  | within {r : ProductManagedTokenSettlement} {prior tokens : ℕ}
      (hprior : priorCumulative m = some prior) (htokens : measured o = some tokens)
      (hle : prior + tokens ≤ limit) (husage : Recorded m (prior + tokens) r.usageState) :
      Settled limit m o r

/-- A node that the budget applies to. -/
structure Managed (m : NodeMetadata) (limit : ℕ) : Prop where
  applies : isManagedProductApply m = true
  total : m.totalTokens = some limit
  pos : 0 < limit

lemma settled_enforce (h : Managed m limit) :
    Settled limit m o (enforceProductManagedTokenBudget o m) := by
  have hlimit : m.totalTokens.filter (0 < ·) = some limit := by
    rw [h.total, Option.filter_some, if_pos (by simpa using h.pos)]
  unfold enforceProductManagedTokenBudget
  rw [h.applies, hlimit]
  cases hprior : priorCumulative m with
  | none => exact .broken hprior (closed_refused unavailable_terminal) rfl
  | some prior =>
    cases htokens : measured o with
    | none =>
      exact .unmeasured hprior htokens (closed_refusedIfOpen unavailable_terminal)
        ⟨_, rfl, rfl, rfl, rfl⟩
    | some tokens =>
      dsimp only
      unfold checkedAdd
      by_cases hsum : prior + tokens < 2 ^ 64
      · rw [if_pos hsum]
        dsimp only
        by_cases hle : limit < prior + tokens
        · rw [if_pos hle]
          exact .exhausted hprior htokens (closed_refusedIfOpen exhausted_terminal)
            ⟨_, rfl, rfl, rfl, rfl⟩
        · exact .within hprior htokens (not_lt.mp hle) ⟨_, rfl, rfl, rfl, rfl⟩
      · rw [if_neg hsum]
        exact .overflow hprior htokens (closed_refused exhausted_terminal) rfl

/-- The tokens an attempt says it used. -/
def reported (o : NodeExecutionOutput) : ℕ := (measured o).getD 0

/-- After `attempt` attempts the record says what they used. -/
def Tracks (m : NodeMetadata) (attempt total : ℕ) : Prop :=
  priorCumulative { m with executionAttempt := some (attempt + 1) } = some total

/-- The record has fallen behind, and stays so. -/
def Lost (m : NodeMetadata) (attempt : ℕ) : Prop :=
  ∀ later, attempt ≤ later → priorCumulative { m with executionAttempt := some (later + 1) } = none

lemma priorCumulative_unrecorded (h : m.productManagedUsage = none) :
    priorCumulative { m with executionAttempt := some (before + 1) } =
      if before = 0 then some 0 else none := by
  unfold priorCumulative
  rw [h]
  cases before <;> rfl

lemma priorCumulative_recorded (h : m.productManagedUsage = some u) :
    priorCumulative { m with executionAttempt := some (before + 1) } =
      if u.schemaVersion = some schemaVersion && u.lastAttempt = some before then u.cumulativeTokens
      else none := by
  unfold priorCumulative
  rw [h]
  cases before <;> rfl

lemma tracks_zero (h : m.productManagedUsage = none) : Tracks m 0 0 :=
  priorCumulative_unrecorded h

lemma tracks_of_recorded {usage : Option ManagedUsage}
    (h : Recorded { m with executionAttempt := some attempt } total usage) :
    Tracks { m with
      executionAttempt := some attempt, productManagedUsage := usage } attempt total := by
  obtain ⟨u, rfl, hschema, hlast, htotal⟩ := h
  refine (priorCumulative_recorded rfl).trans ?_
  rw [hschema, hlast, htotal, if_pos (by simp)]

/-- A record that goes up to one attempt does not go up to a later one. -/
lemma lost_of_tracks (h : Tracks m attempt total) : Lost m (attempt + 1) := by
  intro later hlater
  unfold Tracks at h
  rcases husage : m.productManagedUsage with _ | prior
  · rw [← husage, priorCumulative_unrecorded husage, if_neg (by omega)]
  · rw [← husage, priorCumulative_recorded husage]
    rw [priorCumulative_recorded husage] at h
    split_ifs at h with hup
    rw [Bool.and_eq_true, decide_eq_true_eq, decide_eq_true_eq] at hup
    rw [if_neg]
    rw [Bool.and_eq_true, decide_eq_true_eq, decide_eq_true_eq, hup.2]
    rintro ⟨-, hlast⟩
    exact absurd (Option.some.inj hlast) (by omega)

lemma Lost.succ (h : Lost m attempt) : Lost m (attempt + 1) := fun later hlater =>
  h later (Nat.le_of_succ_le hlater)

/-- The node's metadata but for what the attempts write. -/
lemma Managed.congr (h : Managed m limit) (attempt : Option ℕ) (usage : Option ManagedUsage) :
    Managed { m with executionAttempt := attempt, productManagedUsage := usage } limit :=
  ⟨h.applies, h.total, h.pos⟩

lemma settled_attempt (h : Managed m limit) (attempt : ℕ) (o : NodeExecutionOutput) :
    Settled limit { m with executionAttempt := some attempt } o (settleAttempt m attempt o).1 :=
  settled_enforce (h.congr (some attempt) m.productManagedUsage)

lemma managed_settleAttempt (h : Managed m limit) : Managed (settleAttempt m attempt o).2 limit :=
  h.congr (some attempt) _

lemma settleAttempt_keeps (h : (settleAttempt m attempt o).1.usageState = none) :
    (settleAttempt m attempt o).2 = { m with executionAttempt := some attempt } := by
  unfold settleAttempt at h ⊢
  dsimp only at h ⊢
  rw [h]
  rfl

lemma settleAttempt_writes (h : (settleAttempt m attempt o).1.usageState = some u) :
    (settleAttempt m attempt o).2 =
      { m with executionAttempt := some attempt, productManagedUsage := some u } := by
  unfold settleAttempt at h ⊢
  dsimp only at h ⊢
  rw [h]
  rfl

/-- One more attempt: its tokens are counted, or the record is lost. -/
lemma tracks_settleAttempt (h : Managed m limit) (o : NodeExecutionOutput)
    (ht : Tracks m attempt total ∨ Lost m attempt) :
    Tracks (settleAttempt m (attempt + 1) o).2 (attempt + 1) (total + reported o) ∨
      Lost (settleAttempt m (attempt + 1) o).2 (attempt + 1) := by
  have hsettled := settled_attempt h (attempt + 1) o
  -- without a new record the old one stays, which does not go up to this attempt
  have hkeep : (settleAttempt m (attempt + 1) o).1.usageState = none →
      Lost (settleAttempt m (attempt + 1) o).2 (attempt + 1) := by
    intro hnone
    have hold : Lost m (attempt + 1) := ht.elim lost_of_tracks Lost.succ
    rw [settleAttempt_keeps hnone]
    exact fun later hlater => hold later hlater
  have hwrite : ∀ {sum}, Recorded { m with executionAttempt := some (attempt + 1) } sum
      (settleAttempt m (attempt + 1) o).1.usageState →
      Tracks (settleAttempt m (attempt + 1) o).2 (attempt + 1) sum := by
    intro sum hrec
    have htracks := tracks_of_recorded hrec
    obtain ⟨u, hu, -⟩ := hrec
    rw [hu] at htracks
    rw [settleAttempt_writes hu]
    exact htracks
  have hprior : ∀ {prior}, priorCumulative { m with executionAttempt := some (attempt + 1) } =
      some prior → prior = total := by
    intro prior hp
    rcases ht with htr | hlost
    · exact Option.mem_unique hp htr
    · rw [hlost attempt le_rfl] at hp
      cases hp
  cases hsettled with
  | broken _ _ husage => exact .inr (hkeep husage)
  | overflow _ _ _ husage => exact .inr (hkeep husage)
  | unmeasured hp htokens _ husage =>
    obtain rfl := hprior hp
    rw [reported, htokens]
    exact .inl (hwrite husage)
  | exhausted hp htokens _ husage =>
    obtain rfl := hprior hp
    rw [reported, htokens]
    exact .inl (hwrite husage)
  | within hp htokens _ husage =>
    obtain rfl := hprior hp
    rw [reported, htokens]
    exact .inl (hwrite husage)

lemma tracks_settleAttempts (h : Managed m limit) (ht : Tracks m attempt total ∨ Lost m attempt) :
    Managed (settleAttempts m (attempt + 1) outputs).2 limit ∧
      (Tracks (settleAttempts m (attempt + 1) outputs).2 (attempt + outputs.length)
        (total + (outputs.map reported).sum) ∨
      Lost (settleAttempts m (attempt + 1) outputs).2 (attempt + outputs.length)) := by
  induction outputs generalizing m attempt total with
  | nil => exact ⟨h, ht⟩
  | cons o rest ih =>
    have hrest := ih (managed_settleAttempt h) (tracks_settleAttempt h o ht)
    rw [map_cons, sum_cons, length_cons, ← Nat.add_assoc total,
      Nat.add_comm rest.length, ← Nat.add_assoc attempt]
    exact hrest

/-- An attempt that is tried again has said what it used. -/
lemma measured_of_retryable (h : Settled limit m o r)
    (hretry : retryableNodeFailure r.output = true) : (measured o).isSome = true := by
  cases h with
  | broken _ hclosed _ => rw [hclosed.final] at hretry; cases hretry
  | unmeasured _ _ hclosed _ => rw [hclosed.final] at hretry; cases hretry
  | overflow _ htokens _ _ => rw [htokens]; rfl
  | exhausted _ htokens _ _ => rw [htokens]; rfl
  | within _ htokens _ _ => rw [htokens]; rfl

lemma measured_settleAttempts (h : Managed m limit)
    (hretry : ∀ r ∈ (settleAttempts m attempt outputs).1, retryableNodeFailure r.output = true) :
    ∀ a ∈ outputs, (measured a).isSome = true := by
  induction outputs generalizing m attempt with
  | nil => exact fun a ha => by cases ha
  | cons o rest ih =>
    intro a ha
    rcases mem_cons.mp ha with rfl | ha
    · exact measured_of_retryable (settled_attempt h attempt a) (hretry _ mem_cons_self)
    · exact ih (managed_settleAttempt h)
        (fun r hr => hretry r (mem_cons_of_mem _ hr)) a ha

/-- A result that counts as done reported its usage, and the record went up to it. -/
lemma completed_settled (h : Settled limit m o r) (hdone : r.output.status = "completed") :
    ∃ prior tokens, priorCumulative m = some prior ∧ measured o = some tokens ∧
      prior + tokens ≤ limit := by
  cases h with
  | broken _ hclosed _ => exact absurd hdone hclosed.open_ended
  | unmeasured _ _ hclosed _ => exact absurd hdone hclosed.open_ended
  | overflow _ _ hclosed _ => exact absurd hdone hclosed.open_ended
  | exhausted _ _ hclosed _ => exact absurd hdone hclosed.open_ended
  | within hprior htokens hle _ => exact ⟨_, _, hprior, htokens, hle⟩

lemma closed_settled (h : Settled limit m o r)
    (hbad : priorCumulative m = none ∨ measured o = none ∨
      ∃ prior tokens, priorCumulative m = some prior ∧ measured o = some tokens ∧
        limit < prior + tokens) :
    Closed r.output := by
  cases h with
  | broken _ hclosed _ => exact hclosed
  | unmeasured _ _ hclosed _ => exact hclosed
  | overflow _ _ hclosed _ => exact hclosed
  | exhausted _ _ hclosed _ => exact hclosed
  | within hprior htokens hle _ =>
    rcases hbad with hnone | hnone | ⟨p, n, hp, hn, hlt⟩
    · rw [hprior] at hnone
      cases hnone
    · rw [htokens] at hnone
      cases hnone
    · cases hprior.symm.trans hp
      cases htokens.symm.trans hn
      exact absurd hlt (not_lt.mpr hle)

/-- After any attempts, one that is settled as completed has reported its usage, and what was
reported adds up to no more than the limit; if the attempts before it were retried, each of
them has reported its usage too. A result that is over the limit, has no usage or no record
of the attempts before it is neither completed nor retried. -/
theorem completed_within_budget (h : Managed m limit) (hfirst : m.productManagedUsage = none)
    (outputs : List NodeExecutionOutput) (o : NodeExecutionOutput) :
    ((settleAttempt (settleAttempts m 1 outputs).2 (outputs.length + 1) o).1.output.status =
        "completed" →
      (measured o).isSome = true ∧ ((outputs ++ [o]).map reported).sum ≤ limit ∧
        ((∀ r ∈ (settleAttempts m 1 outputs).1, retryableNodeFailure r.output = true) →
          ∀ a ∈ outputs ++ [o], (measured a).isSome = true)) ∧
      ∀ attempt usage,
        let m' := { m with executionAttempt := attempt, productManagedUsage := usage }
        (priorCumulative m' = none ∨ measured o = none ∨
          ∃ prior tokens, priorCumulative m' = some prior ∧ measured o = some tokens ∧
            limit < prior + tokens) →
        (enforceProductManagedTokenBudget o m').output.status ≠ "completed" ∧
          retryableNodeFailure (enforceProductManagedTokenBudget o m').output = false := by
  constructor
  · intro hdone
    obtain ⟨hmanaged, htrack⟩ := tracks_settleAttempts h (.inl (tracks_zero hfirst))
    simp only [Nat.zero_add] at htrack
    obtain ⟨prior, tokens, hprior, htokens, hle⟩ :=
      completed_settled (settled_attempt hmanaged (outputs.length + 1) o) hdone
    have hsome : (measured o).isSome = true := by rw [htokens]; rfl
    refine ⟨hsome, ?_, fun hretry a ha => ?_⟩
    · rcases htrack with htrack | hlost
      · cases htrack.symm.trans hprior
        rw [map_append, sum_append, map_singleton, sum_singleton, reported, htokens]
        exact hle
      · rw [hlost outputs.length le_rfl] at hprior
        cases hprior
    · rcases mem_append.mp ha with ha | ha
      · exact measured_settleAttempts h hretry a ha
      · rw [mem_singleton.mp ha]
        exact hsome
  · intro attempt usage m' hbad
    have hclosed := closed_settled (settled_enforce (o := o) (h.congr attempt usage)) hbad
    exact ⟨hclosed.open_ended, hclosed.final⟩

def fiftyTokens : NodeMetadata where
  executorClass := some "managed_coding"
  operation := some "product_apply"
  totalTokens := some 50
  executionAttempt := none
  productManagedUsage := none

def usedTokens (status : String) (tokens : Option ℤ) : NodeExecutionOutput where
  status := status
  executorType := "codex_cli"
  errorDomain := none
  errorMessage := none
  inputTokens := tokens
  outputTokens := tokens
  processOutcome := none

theorem completed_within_budget_sample :
    (settleAttempts fiftyTokens 1 [usedTokens "failed" (some 10),
        usedTokens "completed" (some 15)]).1.map (·.output.status) = ["failed", "completed"] ∧
      [usedTokens "failed" (some 10), usedTokens "completed" (some 15)].map reported = [20, 30] ∧
      ([20, 30] : List ℕ).sum ≤ 50 :=
  ⟨by decide, by decide, ((@completed_within_budget fiftyTokens 50
    ⟨by decide, rfl, by decide⟩ rfl [usedTokens "failed" (some 10)]
    (usedTokens "completed" (some 15))).1 (by decide)).2.1⟩

/-- The first attempt waits for an approval and reports nothing; the second is completed. -/
theorem unreported_completed_sample :
    (settleAttempts fiftyTokens 1 [usedTokens "awaiting_approval" none,
        usedTokens "completed" (some 25)]).1.map (·.output.status) =
      ["awaiting_approval", "completed"] ∧ measured (usedTokens "awaiting_approval" none) = none :=
  ⟨by decide, by decide⟩

end Harness.ProductBudget
