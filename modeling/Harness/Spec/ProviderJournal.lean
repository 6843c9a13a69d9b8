import Harness.Lib.Refusal
import Harness.Lib.Saturating

/-! The provider journal of a delegated attempt: which request a manifest lets through, the
entry a claim appends and what reconciling it leaves. -/

namespace Harness.Delegated

open Lib

abbrev U64 := BitVec 64

/-- What the store does with `f64` values. -/
structure Float64 (F : Type) where
  zero : F
  /-- `1e-12`. -/
  (tolerance epsilon million : F)
  ofU64 : U64 → F
  (add mul div max absDiff : F → F → F)
  lt : F → F → Bool
  isFinite : F → Bool

variable {F : Type} [DecidableEq F]

inductive Protocol where
  | openAiCompatible
  | anthropicCompatible
deriving DecidableEq, Repr

inductive Provenance where
  | injected
  | external
deriving DecidableEq, Repr

structure ManagedCallLimits (F : Type) where
  (maxRequests maxRetries maxInputTokens maxOutputTokens maxCumulativeTokens timeoutMs : U64)
  maxCostUsd : Option F
deriving DecidableEq

structure DeepSeekPriceProfile (F : Type) where
  (profileId sourceUrl verifiedAt : String)
  current : Bool
  (flashCacheHit flashCacheMiss flashOutput proCacheHit proCacheMiss proOutput : F)
deriving DecidableEq

structure ManagedCallBinding where
  (productTaskId workflowId nodeId attemptId spendAuthorizationId attemptLeaseId : String)
deriving DecidableEq

/-- A request; of its content only the length in bytes counts here. -/
structure ManagedProviderCallRequest (F : Type) where
  (schemaVersion providerIdentity providerKind : String)
  protocol : Protocol
  (host baseUrl endpointPath credentialReference role requestedModel : String)
  (systemBytes messagesBytes toolsBytes toolChoiceBytes maxOutputTokens : U64)
  limits : ManagedCallLimits F
  priceProfile : DeepSeekPriceProfile F
  binding : ManagedCallBinding
  transportProvenance : Provenance
deriving DecidableEq

def deepseekProviderKind : String := "deepseek"

def deepseekModels : List String := ["deepseek-v4-flash", "deepseek-v4-pro"]

def pricingSource : String := "https://api-docs.deepseek.com/quick_start/pricing/"

def isBlank (isWhitespace : Char → Bool) (value : String) : Bool := value.toList.all isWhitespace

variable (float : Float64 F) (isWhitespace : Char → Bool)

def DeepSeekPriceProfile.validateFor (p : DeepSeekPriceProfile F) (model : String)
    (requireCurrent : Bool) : Except String Unit := do
  refuse (p.profileId = "" || p.sourceUrl ≠ pricingSource || isBlank isWhitespace p.verifiedAt ||
      (requireCurrent && !p.current))
    "DeepSeek dollar price evidence is missing or stale"
  refuse (model ∉ deepseekModels) "DeepSeek price profile model is not admitted"
  let rates := if model = "deepseek-v4-pro" then [p.proCacheHit, p.proCacheMiss, p.proOutput]
    else [p.flashCacheHit, p.flashCacheMiss, p.flashOutput]
  refuse (rates.any fun v => !float.isFinite v || float.lt v float.zero)
    "DeepSeek price profile contains invalid rates"

namespace ManagedProviderCallRequest

variable (r : ManagedProviderCallRequest F)

def estimatedInputTokens : U64 :=
  saturatingAdd (saturatingAdd (saturatingAdd r.systemBytes r.messagesBytes) r.toolsBytes)
    r.toolChoiceBytes

def reservedTokens : U64 := saturatingAdd r.estimatedInputTokens r.maxOutputTokens

def conservativeReservedCostUsd : Except String F := do
  if r.limits.maxCostUsd.isNone then return float.zero
  if r.providerKind ≠ deepseekProviderKind then
    throw ("cost limits are unsupported for provider: " ++ r.providerKind)
  r.priceProfile.validateFor float isWhitespace r.requestedModel true
  let rate := if r.requestedModel = "deepseek-v4-pro"
    then float.max r.priceProfile.proCacheMiss r.priceProfile.proOutput
    else float.max r.priceProfile.flashCacheMiss r.priceProfile.flashOutput
  return float.div (float.mul (float.ofU64 r.reservedTokens) rate) float.million

end ManagedProviderCallRequest

structure FrozenProviderExecutionBinding where
  (schemaVersion providerIdentity providerKind protocol host baseUrl endpointPath
    credentialReference requestSchemaVersion responseSchemaVersion usageParserVersion : String)
  pricingIdentity : Option String
  costUnavailable : Bool
  admittedModel : String
  reasoningEffort : Option String
deriving DecidableEq

/-- The `provider` object: a binding with its kind and prices; `none` stands for `null`. -/
structure ProviderValue (F : Type) extends FrozenProviderExecutionBinding where
  kind : String
  priceProfile : Option (DeepSeekPriceProfile F)
deriving DecidableEq

structure Models where
  (planner implementer reviewer : String)
deriving DecidableEq

/-- What the store reads of a final execution manifest. -/
structure Manifest (F : Type) where
  (manifestSha256 delegationSha256 campaignPackageId executionPackageId : Option String)
  providerExecutionBinding : Option FrozenProviderExecutionBinding
  models : Option Models
  provider : Option (ProviderValue F)
  (protocol repository : Option String)
  mutablePaths : List String
  verifier : Option String
  (maxChangedFiles maxChangedLines : Option U64)
  (maxCostUsd maxTotalCostUsd : Option F)
  (maxProviderRequests maxRetries maxInputTokens maxOutputTokens maxCumulativeTokens
    timeoutMs : Option U64)
  /-- Whether `output` allows a draft pull request and nothing else. -/
  outputIsDraftOnly : Bool
  delegationId : Option String
  delegationExpiresAt : Option ℤ
  (proposalManifestSha256 tenantId productTaskId workflowId attemptId : Option String)
  workflowNodeIds : Option (List String)
deriving DecidableEq

/-- The frozen campaign data and the hash that a manifest is checked against. -/
structure Frozen (F : Type) where
  manifestSha256 : Manifest F → String
  /-- The package of a campaign, resolved and validated, gives the binding for a model. -/
  packageBinding : String → String → Except String FrozenProviderExecutionBinding
  canonicalBinding : FrozenProviderExecutionBinding
  defaultPriceProfile : DeepSeekPriceProfile F
  (docsVerifier rweVerifier : String)
  isRweAllowedPaths : List String → Bool
  rweMaxPatchLimits : U64 × U64
  rweCellCost : Option F
  /-- `0.50`. -/
  half : F

variable (frozen : Frozen F)

namespace Manifest

variable (m : Manifest F)

def packageId : Option String :=
  (m.campaignPackageId <|> m.executionPackageId).filter fun id => !isBlank isWhitespace id

def expectedBinding (implementer : String) : Except String FrozenProviderExecutionBinding :=
  match m.packageId isWhitespace with
  | some id => frozen.packageBinding id implementer
  | none => .ok frozen.canonicalBinding

def docsLimits : Bool :=
  m.maxProviderRequests = some 3 && m.maxRetries = some 0 && m.maxInputTokens = some 8000 &&
    m.maxOutputTokens = some 4000 && m.maxCumulativeTokens = some 24000 && m.timeoutMs = some 30000

variable (isDeepseek : Bool)

def rweLimits : Bool :=
  m.maxProviderRequests = some 3 && m.maxRetries = some 0 && m.maxInputTokens = some 12000 &&
    ((isDeepseek && m.maxOutputTokens = some 4000 && m.maxCumulativeTokens = some 16000) ||
      (!isDeepseek && m.maxOutputTokens = some 8192 && m.maxCumulativeTokens = some 20192)) &&
    m.timeoutMs = some 900000

def docsPolicy : Bool :=
  m.mutablePaths = ["docs/USER_GUIDE.md"] && m.verifier = some frozen.docsVerifier &&
    m.maxChangedFiles = some 1 && m.maxChangedLines = some 100 &&
    ((isDeepseek && m.maxCostUsd = some frozen.half && m.maxTotalCostUsd = some frozen.half) ||
      (!isDeepseek && m.maxCostUsd.isNone && m.maxTotalCostUsd.isNone))

def rwePolicy : Bool :=
  frozen.isRweAllowedPaths m.mutablePaths && m.verifier = some frozen.rweVerifier &&
    m.maxChangedFiles = some frozen.rweMaxPatchLimits.1 &&
    m.maxChangedLines = some frozen.rweMaxPatchLimits.2 &&
    ((isDeepseek && frozen.rweCellCost.isSome && m.maxCostUsd = frozen.rweCellCost &&
        m.maxTotalCostUsd = frozen.rweCellCost) ||
      (!isDeepseek && m.maxCostUsd.isNone && m.maxTotalCostUsd.isNone))

end Manifest

def managedProviderValueForBinding (b : FrozenProviderExecutionBinding) : ProviderValue F where
  toFrozenProviderExecutionBinding := b
  kind := b.providerKind
  priceProfile := if b.providerKind = deepseekProviderKind && !b.costUnavailable
    then some frozen.defaultPriceProfile else none

def expectedModels (b : FrozenProviderExecutionBinding) (packaged : Bool) : Models :=
  if packaged then ⟨b.admittedModel, b.admittedModel, b.admittedModel⟩
  else ⟨"deepseek-v4-pro", "deepseek-v4-flash", "deepseek-v4-pro"⟩

def validateDelegatedManifestPolicy (m : Manifest F) : Except String Unit := do
  refuse m.manifestSha256.isNone "final manifest hash is required"
  refuse (m.manifestSha256 ≠ some (frozen.manifestSha256 m)) "final manifest hash mismatch"
  let models ← required m.models "final manifest implementer model is required"
  let expected ← m.expectedBinding isWhitespace frozen models.implementer
  refuse (m.providerExecutionBinding.getD expected ≠ expected)
    "final manifest provider execution binding does not exactly match the frozen package"
  let packaged := (m.packageId isWhitespace).isSome
  let isDeepseek := expected.providerKind = deepseekProviderKind
  let docs := m.docsPolicy frozen isDeepseek
  let rwe := m.rwePolicy frozen isDeepseek
  refuse (!(m.repository = some "Igzela/alters-lab" && (docs || rwe) &&
      m.protocol = some expected.protocol && models = expectedModels expected packaged &&
      m.provider = some (managedProviderValueForBinding frozen expected) &&
      (m.providerExecutionBinding.isSome || !packaged) &&
      ((docs && m.docsLimits) || (rwe && m.rweLimits isDeepseek)) && m.outputIsDraftOnly))
    "final manifest is outside the persisted delegation policy"

/-- What a manifest says that the request of a node must be. -/
structure PersistedManagedExecutionContract (F : Type) where
  (providerIdentity providerKind : String)
  protocol : Protocol
  (host baseUrl endpointPath credentialReference requestedModel requestSchemaVersion : String)
  limits : ManagedCallLimits F
  priceProfile : DeepSeekPriceProfile F
deriving DecidableEq

def Manifest.limits (m : Manifest F) : ManagedCallLimits F where
  maxRequests := m.maxProviderRequests.getD 3
  maxRetries := m.maxRetries.getD 0
  maxInputTokens := m.maxInputTokens.getD 8000
  maxOutputTokens := m.maxOutputTokens.getD 4000
  maxCumulativeTokens := m.maxCumulativeTokens.getD 24000
  timeoutMs := m.timeoutMs.getD 30000
  maxCostUsd := m.maxCostUsd

/-- The models of the four stages; the third is the verifier, which calls no provider. -/
def Models.atPosition (models : Models) : ℕ → Except String String
  | 0 => .ok models.planner
  | 1 => .ok models.implementer
  | 2 => .error "deterministic verifier cannot receive provider authority"
  | 3 => .ok models.reviewer
  | _ => .error "delegated provider route position is invalid"

/-- A subscription has no prices; the default ones fill their place. -/
def contractPriceProfile (costUnavailable : Bool) (profile : Option (DeepSeekPriceProfile F)) :
    Except String (DeepSeekPriceProfile F) :=
  match profile with
  | some profile => .ok profile
  | none =>
    if costUnavailable then .ok frozen.defaultPriceProfile
    else .error "delegated manifest price profile is malformed"

def delegatedExecutionContract (m : Manifest F) (nodeId : String) :
    Except String (PersistedManagedExecutionContract F) := do
  validateDelegatedManifestPolicy isWhitespace frozen m
  let binding := m.providerExecutionBinding.getD frozen.canonicalBinding
  let nodes ← required m.workflowNodeIds "delegated manifest workflow_node_ids is missing"
  refuse (nodes.length ≠ 4) "delegated manifest must bind the exact four-stage route"
  refuse (nodeId ∉ nodes) "delegated provider node is not manifest-bound"
  let models ← required m.models "delegated manifest model binding is missing"
  let requestedModel ← models.atPosition (nodes.idxOf nodeId)
  let provider ← required m.provider "delegated manifest price profile is missing"
  let priceProfile ← contractPriceProfile frozen binding.costUnavailable provider.priceProfile
  pure
    { providerIdentity := binding.providerIdentity
      providerKind := provider.kind
      protocol := .openAiCompatible
      host := provider.host
      baseUrl := provider.baseUrl
      endpointPath := provider.endpointPath
      credentialReference := provider.credentialReference
      requestedModel
      requestSchemaVersion := provider.requestSchemaVersion
      limits := m.limits
      priceProfile }

inductive EntryStatus where
  | sending
  | succeeded
  | failedBeforeSend
  | failedKnownOutcome
  | outcomeUnknown
deriving DecidableEq, Repr

structure ManagedUsage where
  (inputTokens outputTokens cacheReadTokens cacheCreationTokens reasoningOutputTokens
    freshInputTokens cumulativeTokens : U64)
  (model requestId : String)
deriving DecidableEq

structure ManagedSchedulerLeaseAuthority where
  runId : String
  attemptCount : ℕ
  leaseOwnerTokenSha256 : String
deriving DecidableEq

structure JournalEntry (F : Type) where
  ordinal : ℕ
  (nodeId providerIdentity providerKind role : String)
  protocol : Protocol
  requestedModel : String
  transportProvenance : Provenance
  requestSha256 : String
  status : EntryStatus
  (productTaskId workflowId : String)
  schedulerLease : ManagedSchedulerLeaseAuthority
  (reservedInputTokens reservedOutputTokens : U64)
  conservativeReservedCostUsd : Option F
  effectiveTokens : U64
  effectiveCostUsd : Option F
  claimedAt : ℤ
  reconciledAt : Option ℤ
  (requestId resolvedModel : Option String)
  usage : Option ManagedUsage
  /-- The hashes of the outcome that the workspace reported for this response. -/
  (workspaceAction workspaceActionFailure : Option String)
deriving DecidableEq

def JournalEntry.reservedTokens (e : JournalEntry F) : U64 :=
  saturatingAdd e.reservedInputTokens e.reservedOutputTokens

abbrev Journal (F : Type) := List (JournalEntry F)

variable (requestSha256 : ManagedProviderCallRequest F → String)

variable (journal : Journal F)

/-- The tokens of all entries, as the store sums them. -/
def Journal.priorTokens : U64 :=
  journal.foldl (fun total e => saturatingAdd total e.effectiveTokens) 0

def Journal.priorCost : Except String F :=
  journal.foldlM (fun total e =>
    match e.effectiveCostUsd with
    | none => .ok (float.add total float.zero)
    | some value =>
      if !float.isFinite value || float.lt value float.zero then
        .error "durable provider journal cost reservation is invalid"
      else .ok (float.add total value)) float.zero

def claimProviderJournalEntry (request : ManagedProviderCallRequest F)
    (scheduler : ManagedSchedulerLeaseAuthority) (now : ℤ) : Except String (Journal F) := do
  let sha := requestSha256 request
  refuse (journal.any fun e => e.nodeId = request.binding.nodeId || e.requestSha256 = sha)
    "durable provider request was already claimed; replay is forbidden"
  refuse (request.limits.maxRequests.toNat ≤ journal.length)
    "durable provider request ceiling exhausted"
  let reservedInput := request.estimatedInputTokens
  let reservedOutput := request.maxOutputTokens
  let reserved := request.reservedTokens
  refuse (reservedInput = 0 || request.limits.maxInputTokens < reservedInput ||
      reservedOutput = 0 || request.limits.maxOutputTokens < reservedOutput ||
      request.limits.maxCumulativeTokens < saturatingAdd journal.priorTokens reserved)
    "durable provider token reservation exceeds the execution manifest"
  let reservedCost ← request.conservativeReservedCostUsd float isWhitespace
  let priorCost ← journal.priorCost float
  refuse (request.limits.maxCostUsd.any fun maximum =>
      float.lt (float.add maximum float.tolerance) (float.add priorCost reservedCost))
    "durable provider cost reservation exceeds the execution manifest"
  let cost := if request.limits.maxCostUsd.isNone then none else some reservedCost
  pure (journal ++
    [{ ordinal := journal.length + 1
       nodeId := request.binding.nodeId
       providerIdentity := request.providerIdentity
       providerKind := request.providerKind
       role := request.role
       protocol := request.protocol
       requestedModel := request.requestedModel
       transportProvenance := request.transportProvenance
       requestSha256 := sha
       status := .sending
       productTaskId := request.binding.productTaskId
       workflowId := request.binding.workflowId
       schedulerLease := scheduler
       reservedInputTokens := reservedInput
       reservedOutputTokens := reservedOutput
       conservativeReservedCostUsd := cost
       effectiveTokens := reserved
       effectiveCostUsd := cost
       claimedAt := now
       reconciledAt := none
       requestId := none
       resolvedModel := none
       usage := none
       workspaceAction := none
       workspaceActionFailure := none }])

inductive ManagedFailureEffect where
  | preSend
  | outcomeUnknown
  | noExternalEffect
deriving DecidableEq, Repr

structure ManagedProviderResponse (F : Type) where
  (providerIdentity providerKind : String)
  protocol : Protocol
  (requestedModel resolvedModel requestId : String)
  usage : ManagedUsage
  estimatedCostUsd : Option F
deriving DecidableEq

def responseCost (limits : ManagedCallLimits F) (cost : Option F) : Except String (Option F) :=
  match cost with
  | some c =>
    if !float.isFinite c || float.lt c float.zero then
      .error "durable provider response cost is invalid"
    else .ok (some c)
  | none =>
    if limits.maxCostUsd.isSome then .error "durable provider response cost is missing" else .ok none

/-- What reconciling makes of an entry. A lost request keeps its reservation. -/
def reconciledEntry (entry : JournalEntry F) (request : ManagedProviderCallRequest F)
    (response : Option (ManagedProviderResponse F)) (effect : ManagedFailureEffect) (now : ℤ) :
    Except String (JournalEntry F) :=
  match response with
  | some response => do
    refuse (effect ≠ .noExternalEffect || response.requestedModel ≠ request.requestedModel ||
        response.resolvedModel ≠ request.requestedModel ||
        response.providerIdentity ≠ request.providerIdentity ||
        response.providerKind ≠ request.providerKind || response.protocol ≠ request.protocol ||
        response.usage.model ≠ request.requestedModel ||
        response.usage.requestId ≠ response.requestId)
      "durable provider response identity is mismatched"
    let cost ← responseCost float request.limits response.estimatedCostUsd
    pure { entry with
      reconciledAt := some now
      status := .succeeded
      requestId := some response.requestId
      resolvedModel := some response.resolvedModel
      usage := some response.usage
      effectiveTokens := response.usage.cumulativeTokens
      effectiveCostUsd := cost }
  | none =>
    let released := { entry with
      reconciledAt := some now
      effectiveTokens := 0
      effectiveCostUsd := if request.limits.maxCostUsd.isNone then none else some float.zero }
    match effect with
    | .preSend => .ok { released with status := .failedBeforeSend }
    | .noExternalEffect => .ok { released with status := .failedKnownOutcome }
    | .outcomeUnknown => .ok { entry with reconciledAt := some now, status := .outcomeUnknown }

def JournalEntry.isFor (request : ManagedProviderCallRequest F) (e : JournalEntry F) : Bool :=
  e.nodeId = request.binding.nodeId && e.requestSha256 = requestSha256 request

def reconcileProviderJournalEntry (request : ManagedProviderCallRequest F)
    (response : Option (ManagedProviderResponse F)) (effect : ManagedFailureEffect) (now : ℤ) :
    Except String (Journal F) := do
  let i := journal.findIdx (JournalEntry.isFor requestSha256 request)
  let entry ← required journal[i]? "durable provider request claim is missing"
  refuse (entry.status ≠ .sending) "durable provider request claim is already reconciled"
  refuse (entry.transportProvenance ≠ request.transportProvenance ||
      entry.providerIdentity ≠ request.providerIdentity || entry.providerKind ≠ request.providerKind)
    "durable provider request transport provenance is mismatched"
  let entry ← reconciledEntry float entry request response effect now
  pure (journal.set i entry)

/-! What the workspace did with a response. -/

def recordWorkspaceActionInJournal (binding : ManagedCallBinding)
    (receiptSha256 : String) : Except String (Journal F) := do
  let i := journal.findIdx fun e => e.nodeId = binding.nodeId
  let entry ← required journal[i]? "managed workspace action provider journal entry is missing"
  refuse (entry.status ≠ .succeeded)
    "managed workspace action requires a successful provider journal entry"
  refuse entry.workspaceActionFailure.isSome
    "managed workspace action already has a failure outcome"
  refuse (entry.workspaceAction.any fun existing => existing ≠ receiptSha256)
    "managed workspace action receipt conflicts with the persisted receipt"
  pure (journal.set i { entry with workspaceAction := some receiptSha256 })

def recordWorkspaceActionFailureInJournal (binding : ManagedCallBinding)
    (failureSha256 : String) : Except String (Journal F) := do
  let i := journal.findIdx fun e => e.nodeId = binding.nodeId
  let entry ← required journal[i]? "managed workspace action provider journal entry is missing"
  refuse (entry.status ≠ .succeeded)
    "managed workspace action failure requires a successful provider journal entry"
  refuse entry.workspaceAction.isSome "managed workspace action already has a successful receipt"
  refuse (entry.workspaceActionFailure.any fun existing => existing ≠ failureSha256)
    "managed workspace action failure conflicts with the persisted outcome"
  pure (journal.set i { entry with workspaceActionFailure := some failureSha256 })

def validateWorkspaceProviderJournal (binding : ManagedCallBinding)
    (scheduler : ManagedSchedulerLeaseAuthority) (m : Manifest F) : Except String Unit := do
  let provider ← required m.provider "managed workspace manifest provider identity is missing"
  match journal.filter fun e => e.nodeId = binding.nodeId with
  | [] => throw "managed workspace provider request claim is missing"
  | [e] =>
    refuse (e.status ≠ .succeeded || e.role ≠ "implementer" ||
        e.providerIdentity ≠ provider.providerIdentity ||
        e.providerKind ≠ provider.providerKind || e.requestedModel ≠ provider.admittedModel ||
        e.productTaskId ≠ binding.productTaskId || e.schedulerLease.runId ≠ scheduler.runId ||
        e.workflowId ≠ binding.workflowId ||
        e.schedulerLease.attemptCount ≠ scheduler.attemptCount ||
        e.schedulerLease.leaseOwnerTokenSha256 ≠ scheduler.leaseOwnerTokenSha256)
      "managed workspace provider response belongs to a stale or replaced scheduler lease"
  | _ => throw "managed workspace provider request claim is duplicated"

end Harness.Delegated
