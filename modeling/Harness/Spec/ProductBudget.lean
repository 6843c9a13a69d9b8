import Harness.Spec.WorkflowStore

/-! The token budget of a managed `product_apply` node. What the attempts of a node have used
so far is kept in the node's metadata from one attempt to the next. -/

namespace Harness.ProductBudget

structure ProcessOutcome where
  (schemaVersion state : String)
  (exitCode signal : Option ℤ)
deriving DecidableEq

structure NodeExecutionOutput where
  (status executorType : String)
  (errorDomain errorMessage : Option String)
  (inputTokens outputTokens : Option ℤ)
  processOutcome : Option ProcessOutcome
deriving DecidableEq

namespace NodeExecutionOutput

def codexNonretryablePreChild (o : NodeExecutionOutput) : Bool :=
  o.executorType = "codex_cli" && o.processOutcome.any fun outcome =>
    outcome.schemaVersion = "process_outcome.v1" &&
      (outcome.state = "admission_refused_before_spawn" ||
        outcome.state = "store_lease_consumed_before_child") &&
      outcome.exitCode.isNone && outcome.signal.isNone

end NodeExecutionOutput

/-- The error domains that forbid a retry. -/
def terminalDomains : List String :=
  ["tool_effect_outcome_unknown", "tool_effect_rejected_after_execution",
   "tool_execution_outcome_unknown", "tool_execution_receipt_invalid",
   "tool_execution_receipt_error", "provider_outcome_unknown", "provider_terminal_failure",
   "product_token_budget_exhausted", "product_call_budget_exhausted",
   "product_token_usage_unavailable", "cli_timeout", "cli_wait_error", "cli_stdout_reader_error",
   "cli_stderr_reader_error", "cli_combined_reader_error", "cli_output_limit_exceeded",
   "cli_process_tree_cleanup_error", "cli_process_tree_containment_unavailable",
   "cli_attempt_terminalization_failed"]

variable (o : NodeExecutionOutput)

def retryableDomain : Bool :=
  !o.codexNonretryablePreChild && !o.errorDomain.any (· ∈ terminalDomains)

def retryableNodeFailure : Bool :=
  o.status = "failed" && retryableDomain o

/-- The value under `product_managed_usage`, as far as it is of the type that is read. -/
structure ManagedUsage where
  schemaVersion : Option String
  (lastAttempt cumulativeTokens currentAttemptTokens limitTokens : Option ℕ)
  status : Option String
deriving DecidableEq

structure NodeMetadata where
  executorClass : Option String
  /-- `/managed_supervised_patch/operation` -/
  operation : Option String
  /-- `/product_budget/total_tokens` -/
  (totalTokens executionAttempt : Option ℕ)
  productManagedUsage : Option ManagedUsage
deriving DecidableEq

structure ProductManagedTokenSettlement where
  output : NodeExecutionOutput
  usageState : Option ManagedUsage
deriving DecidableEq

def isManagedProductApply (m : NodeMetadata) : Bool :=
  m.executorClass = some "managed_coding" && m.operation = some "product_apply"

def schemaVersion : String := "product_managed_usage.v1"

/-- `checked_add` of two `u64`. -/
def checkedAdd (a b : ℕ) : Option ℕ := if a + b < 2 ^ 64 then some (a + b) else none

/-- What the attempts before this one have used, if the record of it goes up to this one. -/
def priorCumulative (m : NodeMetadata) : Option ℕ :=
  match m.executionAttempt.filter (0 < ·), m.productManagedUsage with
  | some 1, none => some 0
  | some attempt, some prior =>
    if prior.schemaVersion = some schemaVersion && prior.lastAttempt = some (attempt - 1) then
      prior.cumulativeTokens
    else none
  | _, _ => none

def measured : Option ℕ :=
  match o.inputTokens, o.outputTokens with
  | some input, some outputTokens =>
    if 0 ≤ input ∧ 0 ≤ outputTokens then checkedAdd input.toNat outputTokens.toNat else none
  | _, _ => none

def refused (domain message : String) : NodeExecutionOutput :=
  { o with status := "failed", errorDomain := some domain, errorMessage := some message }

/-- A result that would count as done, or would be tried again, is refused instead. -/
def refusedIfOpen (domain message : String) : NodeExecutionOutput :=
  if o.status = "completed" || retryableNodeFailure o then refused o domain message else o

def enforceProductManagedTokenBudget (m : NodeMetadata) : ProductManagedTokenSettlement :=
  if !isManagedProductApply m then ⟨o, none⟩
  else
    match m.totalTokens.filter (0 < ·) with
    | none =>
      ⟨refused o "product_token_usage_unavailable"
        "product token budget is unavailable; managed completion cannot be trusted", none⟩
    | some limit =>
      match priorCumulative m with
      | none =>
        ⟨refused o "product_token_usage_unavailable"
          "managed token usage attempt lineage is missing or stale", none⟩
      | some prior =>
        match measured o with
        | none =>
          ⟨refusedIfOpen o "product_token_usage_unavailable"
            "managed executor did not provide authoritative non-negative token usage",
            some
              { schemaVersion := some schemaVersion
                lastAttempt := m.executionAttempt
                cumulativeTokens := some prior
                currentAttemptTokens := none
                limitTokens := none
                status := some "unavailable" }⟩
        | some tokens =>
          match checkedAdd prior tokens with
          | none =>
            ⟨refused o "product_token_budget_exhausted" "budget_exhausted:total_tokens overflow", none⟩
          | some cumulative =>
            ⟨if limit < cumulative then
                refusedIfOpen o "product_token_budget_exhausted"
                  ("budget_exhausted:total_tokens limit=" ++ limit.repr ++ " cumulative=" ++
                    cumulative.repr)
              else o,
              some
                { schemaVersion := some schemaVersion
                  lastAttempt := m.executionAttempt
                  cumulativeTokens := some cumulative
                  currentAttemptTokens := some tokens
                  limitTokens := some limit
                  status := some (if limit < cumulative then "exhausted" else "within_budget") }⟩

/-- One attempt of a node; the settlement writes the new record over the old one, if there is
a new one. -/
def settleAttempt (m : NodeMetadata) (attempt : ℕ) (o : NodeExecutionOutput) :
    ProductManagedTokenSettlement × NodeMetadata :=
  let m := { m with executionAttempt := some attempt }
  let settlement := enforceProductManagedTokenBudget o m
  (settlement, { m with productManagedUsage := settlement.usageState <|> m.productManagedUsage })

/-- The attempts `attempt`, `attempt + 1`, … of a node. -/
def settleAttempts : NodeMetadata → ℕ → List NodeExecutionOutput →
    List ProductManagedTokenSettlement × NodeMetadata
  | m, _, [] => ([], m)
  | m, attempt, o :: rest =>
    let (settlement, m) := settleAttempt m attempt o
    let (settlements, m) := settleAttempts m (attempt + 1) rest
    (settlement :: settlements, m)

end Harness.ProductBudget
