import Harness.Spec.CodexJournal

/-! The gateway between a Codex process and its provider. Requests are handled one at a time;
each is admitted and reserved in the journal, sent on, and settled with what came back. -/

namespace Harness.Codex

open Lib

def codexBudgetAuthoritySchema : String := "codex_budget_authority.v2"

/-- What `validate_new` asks of `max_cost_usd`. -/
structure CostLimit where
  (finite negative : Bool)
deriving DecidableEq

structure CodexBudgetAuthority where
  (schemaVersion taskId workflowNodeId executionId binarySha256 providerKind providerHost
    providerBaseUrl : String)
  admittedEndpointPaths : List String
  model : String
  (maxProviderRequests maxRetries maxInputTokensPerRequest maxOutputTokensPerRequest
    maxCumulativeTokens : U64)
  maxCostUsd : Option CostLimit
  timeoutMs : U64
  worktreeIsAbsolute : Bool
  expiresUnixMs : U64
deriving DecidableEq

namespace CodexBudgetAuthority

variable (isWhitespace : Char → Bool)

def isBlank (value : String) : Bool := value.toList.all isWhitespace

def validateNew (a : CodexBudgetAuthority) (nowUnixMs : U64) : Except String Unit := do
  refuse (a.schemaVersion ≠ codexBudgetAuthoritySchema)
    "codex budget authority schema version is unsupported"
  for (name, value) in
      [("task_id", a.taskId), ("workflow_node_id", a.workflowNodeId),
       ("execution_id", a.executionId), ("model", a.model), ("provider_kind", a.providerKind),
       ("provider_host", a.providerHost), ("provider_base_url", a.providerBaseUrl)] do
    refuse (isBlank isWhitespace value) ("codex budget authority " ++ name ++ " is required")
  refuse (!"codex-attempt-".toList.isPrefixOf a.executionId.toList)
    "execution_id must be a codex-attempt-* collision-resistant attempt identity"
  refuse (a.admittedEndpointPaths = []) "provider admitted_endpoint_paths must be non-empty"
  refuse (a.maxProviderRequests = 0) "max_provider_requests must be > 0"
  refuse (a.maxInputTokensPerRequest = 0 || a.maxOutputTokensPerRequest = 0)
    "per-request token ceilings must be > 0"
  refuse (a.maxCumulativeTokens = 0) "max_cumulative_tokens must be > 0"
  refuse (a.maxCumulativeTokens < a.maxOutputTokensPerRequest)
    "max_output_tokens_per_request cannot exceed max_cumulative_tokens"
  refuse (a.timeoutMs = 0) "timeout_ms must be > 0"
  refuse (!a.worktreeIsAbsolute) "worktree must be an absolute path"
  refuse (a.expiresUnixMs ≤ nowUnixMs) "codex budget authority has expired"
  refuse (a.maxCostUsd.any fun cost => !cost.finite || cost.negative)
    "max_cost_usd must be finite and non-negative"

def identity (a : CodexBudgetAuthority) : JournalIdentity :=
  { attemptId := a.executionId, taskId := a.taskId, providerKind := a.providerKind,
    providerHost := a.providerHost, model := a.model, binarySha256 := a.binarySha256 }

end CodexBudgetAuthority

structure GatewayState where
  authority : CodexBudgetAuthority
  /-- Whether the upstream is the ChatGPT subscription. -/
  subscription : Bool
  (providerRequests cumulativeInputTokens cumulativeOutputTokens : U64)
  stop : Bool
  journal : CodexUsageJournal
deriving DecidableEq

namespace GatewayState

def cumulativeTokens (g : GatewayState) : U64 :=
  saturatingAdd g.cumulativeInputTokens g.cumulativeOutputTokens

/-- `fetch_add` on both counters, which wraps. -/
def charge (g : GatewayState) (input output : U64) : GatewayState :=
  { g with
    cumulativeInputTokens := g.cumulativeInputTokens + input
    cumulativeOutputTokens := g.cumulativeOutputTokens + output }

/-- A new journal, or the one of this attempt; the counters go on from it. -/
def start (isWhitespace : Char → Bool) (authority : CodexBudgetAuthority) (subscription : Bool)
    (nowUnixMs : U64) (file : Option CodexUsageJournalEntry) (w : Write) :
    Except String GatewayState := do
  authority.validateNew isWhitespace nowUnixMs
  let journal ← match file with
    | some entry => CodexUsageJournal.resumeExactAttempt entry authority.identity w
    | none => CodexUsageJournal.createNew none authority.identity w
  pure
    { authority, subscription
      providerRequests := journal.entry.providerRequests
      cumulativeInputTokens := journal.entry.cumulativeInputTokens
      cumulativeOutputTokens := journal.entry.cumulativeOutputTokens
      stop := false
      journal }

end GatewayState

inductive LimitField where
  | absent
  | null
  | number (n : U64)
  | other
deriving DecidableEq

def LimitField.isPresent (f : LimitField) : Bool := f ≠ .absent

/-- What the gateway reads of a body that is JSON. -/
structure RequestBody where
  isObject : Bool
  /-- Trimmed, and empty unless it is a text. -/
  model : String
  (maxOutputTokens maxTokens : LimitField)
  /-- The length of the body that is sent on, with its model, stream flag and output limit set. -/
  encodedLength : U64
deriving DecidableEq

structure HttpRequest where
  /-- Whether a header carries the session token. -/
  authorized : Bool
  (method path : String)
  body : Option RequestBody
deriving DecidableEq

inductive Reply where
  | models
  | error (status : ℕ) (code message : String)
  | upstream (status : ℕ)
deriving DecidableEq

def eqIgnoreAsciiCase (a b : String) : Bool := a.toList.map Char.toLower = b.toList.map Char.toLower

def endsWith (s ending : String) : Bool := ending.toList.isSuffixOf s.toList

namespace HttpRequest

variable (r : HttpRequest)

def isResponses : Bool :=
  r.path = "/v1/responses" || r.path = "/responses" || endsWith r.path "/responses"

def isChat : Bool :=
  r.path = "/v1/chat/completions" || r.path = "/chat/completions" ||
    endsWith r.path "/chat/completions"

end HttpRequest

inductive Admission where
  | refused (reply : Reply)
  /-- A body that is JSON but not an object ends the gateway's thread. -/
  | panicked
  | reserved
deriving DecidableEq

/-- The checks on the output limit that the client asks for. -/
def limitRefusal (subscription : Bool) (maxOut : U64) (isResponses : Bool) (body : RequestBody) :
    Option Reply :=
  if !subscription then
    match if isResponses then body.maxOutputTokens else body.maxTokens with
    | .absent => none
    | .null => some (.error 403 "output_limit_required"
        "provider-side output token limit removal is not admitted")
    | .number requested =>
      if requested = 0 then some (.error 403 "output_limit_invalid"
        "provider-side output token limit must be positive")
      else if maxOut < requested then some (.error 403 "output_limit_increase"
        "raising the provider-side output token limit is not admitted")
      else none
    | .other => some (.error 403 "output_limit_invalid"
        "provider-side output token limit must be a positive integer")
  else if body.maxOutputTokens.isPresent || body.maxTokens.isPresent then
    some (.error 403 "output_limit_unsupported"
      "ChatGPT subscription Responses route does not support provider output limit fields")
  else none

variable (g : GatewayState)

/-- The checks before the budget is looked at, in their order. -/
def requestRefusal (nowUnixMs : U64) (r : HttpRequest) : Except Admission RequestBody :=
  if g.journal.isHalted then .error (.refused (.error 503 "journal_halted"
    "usage journal halted; no further provider requests admitted"))
  else if g.authority.expiresUnixMs ≤ nowUnixMs then
    .error (.refused (.error 401 "authority_expired" "codex budget authority expired"))
  else if !r.authorized then .error (.refused (.error 401 "session_unbound"
    "request is not bound to the active codex budget session"))
  else if r.path ∉ g.authority.admittedEndpointPaths then
    .error (.refused (.error 403 "path_not_admitted"
      "only authority-bound model endpoints may be mediated"))
  else if eqIgnoreAsciiCase r.method "GET" && (r.path = "/v1/models" || r.path = "/models") then
    .error (.refused .models)
  else if !(eqIgnoreAsciiCase r.method "POST" && (r.isResponses || r.isChat)) then
    .error (.refused (.error 403 "path_not_admitted"
      "only admitted model-generation endpoints may be mediated"))
  else
    match r.body with
    | none => .error (.refused (.error 400 "malformed_body" "provider request body is not valid JSON"))
    | some body =>
      if body.model = "" && !body.isObject then .error .panicked
      else if body.model ≠ "" && body.model ≠ g.authority.model then
        .error (.refused (.error 403 "model_substitution" "model substitution is not admitted"))
      else
        match limitRefusal g.subscription g.authority.maxOutputTokensPerRequest r.isResponses body with
        | some reply => .error (.refused reply)
        | none => .ok body

def budgetRefusal (reservedInput : U64) : Option Reply :=
  let maxOut := g.authority.maxOutputTokensPerRequest
  let prior := g.providerRequests
  if (g.journal.admitsNewRequest).toOption.isNone then
    some (.error 503 "journal_blocks_admit" (match g.journal.admitsNewRequest with
      | .error reason => reason
      | .ok () => ""))
  else if g.authority.maxInputTokensPerRequest < reservedInput then
    some (.error 429 "input_budget_exhausted"
      "conservative input reservation exceeds per-request input ceiling")
  else if g.authority.maxProviderRequests ≤ prior then
    some (.error 429 "request_budget_exhausted" "max_provider_requests exhausted")
  else if 1 ≤ prior && g.authority.maxRetries = 0 then
    some (.error 429 "retry_budget_exhausted"
      "max_retries exhausted; subsequent provider POSTs are not admitted")
  else if 1 ≤ prior && g.authority.maxRetries ≤ saturatingSub prior 1 then
    some (.error 429 "retry_budget_exhausted" "max_retries exhausted")
  else if saturatingSub g.authority.maxCumulativeTokens g.cumulativeTokens <
      saturatingAdd reservedInput maxOut then
    some (.error 429 "cumulative_budget_insufficient"
      "remaining cumulative budget is insufficient for the next bounded request")
  else none

/-- `dispatch_request` up to the call of the provider. -/
def admitRequest (nowUnixMs : U64) (r : HttpRequest) (w : Write) : Admission × GatewayState :=
  match requestRefusal g nowUnixMs r with
  | .error admission => (admission, g)
  | .ok body =>
    match budgetRefusal g body.encodedLength with
    | some reply => (.refused reply, g)
    | none =>
      match g.journal.reserveBeforeForward body.encodedLength
          g.authority.maxOutputTokensPerRequest w with
      | (.error _, journal) =>
        (.refused (.error 503 "journal_reserve_failed" "usage journal reserve failed; gateway halted"),
          { g with journal := journal, stop := true })
      | (.ok (), journal) =>
        (.reserved, { g with journal := journal, providerRequests := g.providerRequests + 1 })

/-- What the provider did with a request. It may have used tokens in each case. -/
inductive Upstream where
  | failed (reason : String) (input output : U64)
  | silent (status : ℕ) (reason : String) (input output : U64)
  | reported (status : ℕ) (responseId : Option String) (input output : U64)
deriving DecidableEq

namespace Upstream

def input : Upstream → U64
  | failed _ i _ | silent _ _ i _ | reported _ _ i _ => i

def output : Upstream → U64
  | failed _ _ o | silent _ _ _ o | reported _ _ _ o => o

end Upstream

/-- Whether a reported usage is more than was reserved, or than is left. -/
def exceedsEnvelope (input output : U64) : Bool :=
  let entry := g.journal.entry
  let prior := saturatingAdd entry.cumulativeInputTokens entry.cumulativeOutputTokens
  entry.reservedOutputTokens < output ||
    g.authority.maxCumulativeTokens < saturatingAdd (saturatingAdd prior input) output

/-- Without a usage the reservation is charged. -/
def settleUnknown (w : Write) : GatewayState :=
  let entry := g.journal.entry
  match g.journal.markOutcomeUnknown w with
  | (.ok (), journal) =>
    { g with journal := journal }.charge entry.reservedInputTokens entry.reservedOutputTokens
  | (.error _, journal) => { g with journal := journal }

def settleExceeded (input output : U64) (w : Write) : Reply × GatewayState :=
  let entry := g.journal.entry
  match g.journal.markOutcomeUnknownWithUsage input output w with
  | (.error _, journal) =>
    (.error 503 "journal_commit_failed" "usage bound journal commit failed; gateway halted",
      { g with journal := journal, stop := true })
  | (.ok (), journal) =>
    (.error 502 "usage_exceeded_envelope"
        "upstream usage exceeded the reserved Codex subscription envelope",
      { { g with journal := journal }.charge
          (CodexUsageJournal.greater entry.reservedInputTokens input)
          (CodexUsageJournal.greater entry.reservedOutputTokens output) with stop := true })

/-- The reply to a request whose usage could not be put on record. -/
def commitFailed : Reply :=
  .error 503 "journal_commit_failed" "usage journal commit failed; gateway halted"

/-- `dispatch_request` from the provider's answer up to the first write of the commit; a reply
is given unless the second is still to come. -/
def settleForward (upstream : Upstream) (w : Write) : Option Reply × GatewayState :=
  match upstream with
  | .failed reason _ _ =>
    (some (.error 502 "upstream_forward_failed" reason), settleUnknown g w)
  | .silent _ reason _ _ => (some (.error 502 "usage_unavailable" reason), settleUnknown g w)
  | .reported _ responseId input output =>
    if exceedsEnvelope g input output then
      let (reply, g) := settleExceeded g input output w
      (some reply, g)
    else
      let g := g.charge input output
      match g.journal.recordCommit input output responseId w with
      | (.error _, journal) => (some commitFailed, { g with journal := journal, stop := true })
      | (.ok (), journal) => (none, { g with journal := journal })

def finishCommit (status : ℕ) (w : Write) : Reply × GatewayState :=
  match g.journal.returnToIdle w with
  | (.error _, journal) => (commitFailed, { g with journal := journal, stop := true })
  | (.ok (), journal) => (.upstream status, { g with journal := journal })

/-- One request without an interruption, given what the provider would do with it. -/
def dispatchRequest (nowUnixMs : U64) (r : HttpRequest) (upstream : Upstream)
    (reserve settle idle : Write) : Option Reply × GatewayState :=
  match admitRequest g nowUnixMs r reserve with
  | (.refused reply, g) => (some reply, g)
  | (.panicked, g) => (none, g)
  | (.reserved, g) =>
    match settleForward g upstream settle, upstream with
    | (none, g), .reported status _ _ _ =>
      let (reply, g) := finishCommit g status idle
      (some reply, g)
    | (reply, g), _ => (reply, g)

/-! The gateway over any number of starts and crashes. -/

/-- A request that was sent to the provider: what was charged before it, what was reserved for
it and what it used. -/
structure Forward where
  (chargedInput chargedOutput reservedInput reservedOutput usedInput usedOutput : U64)
deriving DecidableEq

inductive Phase where
  | down (file : Option CodexUsageJournalEntry)
  | ready (g : GatewayState)
  /-- The reservation is written, the request not yet sent. -/
  | reserved (g : GatewayState)
  | sent (g : GatewayState) (upstream : Upstream)
  /-- The usage is written, the journal not yet idle. -/
  | committed (g : GatewayState) (status : ℕ)
deriving DecidableEq

/-- `settled` and `unsettled` are the requests sent so far: those whose usage is on record,
and the others. -/
structure Machine where
  phase : Phase
  (settled unsettled : List Forward)
deriving DecidableEq

inductive Event where
  | start (nowUnixMs : U64) (w : Write)
  | request (nowUnixMs : U64) (r : HttpRequest) (w : Write)
  | forward (upstream : Upstream)
  | answer (w : Write)
  | idle (w : Write)
  | halt (w : Write)
  | crash
deriving DecidableEq

namespace Machine

def init : Machine := ⟨.down none, [], []⟩

def file (m : Machine) : Option CodexUsageJournalEntry :=
  match m.phase with
  | .down file => file
  | .ready g | .reserved g | .sent g _ | .committed g _ => some g.journal.file

/-- The entry that the gateway goes by, or would if it were started. -/
def entry (m : Machine) : Option CodexUsageJournalEntry :=
  match m.phase with
  | .down file => file
  | .ready g | .reserved g | .sent g _ | .committed g _ => some g.journal.entry

def forwards (m : Machine) : List Forward := m.settled ++ m.unsettled

variable (isWhitespace : Char → Bool) (authority : CodexBudgetAuthority) (subscription : Bool)

def haltGateway (g : GatewayState) (w : Write) : GatewayState := { g with journal := (g.journal.halt w).2 }

/-- One step. The two writes of a commit are made under one lock of the journal, so nothing
but a crash comes between them. -/
def step (m : Machine) (event : Event) : Machine :=
  match event, m.phase with
  | .crash, _ => { m with phase := .down m.file }
  | .start now w, .down file =>
    match GatewayState.start isWhitespace authority subscription now file w with
    | .error _ => m
    | .ok g => { m with phase := .ready g }
  | .request now r w, .ready g =>
    if g.stop then m
    else
      match admitRequest g now r w with
      | (.refused _, g) => { m with phase := .ready g }
      | (.panicked, g) => { m with phase := .down (some g.journal.file) }
      | (.reserved, g) => { m with phase := .reserved g }
  | .forward upstream, .reserved g =>
    let entry := g.journal.entry
    { m with
      phase := .sent g upstream
      unsettled :=
        { chargedInput := entry.cumulativeInputTokens
          chargedOutput := entry.cumulativeOutputTokens
          reservedInput := entry.reservedInputTokens
          reservedOutput := entry.reservedOutputTokens
          usedInput := upstream.input
          usedOutput := upstream.output } :: m.unsettled }
  | .answer w, .sent g upstream =>
    match settleForward g upstream w, upstream with
    | (none, g), .reported status _ _ _ =>
      { phase := .committed g status
        settled := m.unsettled.take 1 ++ m.settled
        unsettled := m.unsettled.drop 1 }
    | (_, g), _ => { m with phase := .ready g }
  | .idle w, .committed g status => { m with phase := .ready (finishCommit g status w).2 }
  | .halt w, .ready g => { m with phase := .ready (haltGateway g w) }
  | .halt w, .reserved g => { m with phase := .reserved (haltGateway g w) }
  | .halt w, .sent g upstream => { m with phase := .sent (haltGateway g w) upstream }
  | _, _ => m

def run (m : Machine) (events : List Event) : Machine :=
  events.foldl (step isWhitespace authority subscription) m

end Machine

end Harness.Codex
