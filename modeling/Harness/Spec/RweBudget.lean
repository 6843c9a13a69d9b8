import Harness.Lib.Json
import Harness.Lib.Table
import Harness.Spec.Principal
import Mathlib.Data.String.Basic
import Mathlib.Logic.Function.Basic

/-! The budget of a live RWE run: claiming a cell reserves its whole envelope before anything is
done, finalizing it puts what was used in the place of the reservation. Both are one transaction
on the table of task attempts. Instants are in seconds. -/

namespace Harness.Rwe

open Lib

structure RweCellBudgetEnvelope where
  (maxProviderRequests maxRetries maxInputTokens maxOutputTokens maxTotalTokens
    maxWallTimeMs : UInt64)
  /-- The text of the number. -/
  maxCost : Option String
deriving DecidableEq

inductive AuthorizationStatus where
  | active
  | consumed
  | revoked
  | expired
deriving DecidableEq, Repr

def AuthorizationStatus.text : AuthorizationStatus → String
  | active => "active"
  | consumed => "consumed"
  | revoked => "revoked"
  | expired => "expired"

structure RweRun where
  (runId tenantId authorizationId principalId status : String)
  evidence : Json

structure RweAuthorization where
  (authorizationId tenantId principalId : String)
  body : Json
  fixtureOnly : Bool
  status : AuthorizationStatus
  expiresAt : ℤ
  consumedByRunId : Option String
  revokedAt : Option ℤ

structure RweTaskAttempt where
  (taskAttemptId runId taskId definitionSha256 classification : String)
  evidence : Json
  evidenceSha256 : String
  createdAt : ℤ

structure Store where
  runs : Table RweRun.runId
  authorizations : Table RweAuthorization.authorizationId
  attempts : Table RweTaskAttempt.taskAttemptId

/-- What the store takes from elsewhere: the hash of a canonical JSON text, `char::is_whitespace`,
the schedule of the frozen operator contracts and the check of an authorization against them. -/
structure Externals where
  sha256 : Json → String
  isWhitespace : Char → Bool
  frozenSchedule : Except String Json
  validateRunAuthorizationV2 : Json → Except String Unit

/-- `checked_add` of two `u64`. -/
def checkedAdd (a b : UInt64) (overflow : String) : Except String UInt64 :=
  if a.toNat + b.toNat < 2 ^ 64 then .ok (a + b) else .error overflow

def dispatched : String := "dispatched"

def u64At (v : Json) (path : List String) : Option UInt64 := (v.pointer path).bind Json.asU64

/-- The requests and the tokens that an attempt counts for. -/
def budgetUsageFromAttemptRow (classification : String) (evidence : Json) : UInt64 × UInt64 :=
  if classification = dispatched then
    (((u64At evidence ["dispatch_reservation", "reserved_provider_requests"]).or
        (u64At evidence ["provider_requests"])).getD 0,
      ((u64At evidence ["dispatch_reservation", "reserved_total_tokens"]).or
        (u64At evidence ["total_tokens"])).getD 0)
  else
    ((u64At evidence ["provider_requests"]).getD 0, (u64At evidence ["total_tokens"]).getD 0)

def addUsage (sum : UInt64 × UInt64) (t : RweTaskAttempt) : Except String (UInt64 × UInt64) := do
  let usage := budgetUsageFromAttemptRow t.classification t.evidence
  let req ← checkedAdd sum.1 usage.1 "provider-request budget sum overflow"
  let tok ← checkedAdd sum.2 usage.2 "token budget sum overflow"
  pure (req, tok)

variable (s : Store)

def attemptsOf (runId : String) : List RweTaskAttempt :=
  s.attempts.rows.filter fun t => t.runId = runId

def sumRweRunBudgetUsage (runId : String) : Except String (UInt64 × UInt64) :=
  (attemptsOf s runId).foldlM addUsage (0, 0)

def embeddedCeilings (run : RweRun) : Option (UInt64 × UInt64) := do
  let at' (path : List String) := u64At run.evidence ("admit_state" :: "run_body" :: path)
  let req ← (at' ["run_level_budget", "max_total_provider_requests"]).or
    (at' ["max_total_provider_requests"])
  let tok := ((at' ["run_level_budget", "max_total_tokens"]).or (at' ["max_total_tokens"])).getD 0
  if 0 < req then some (req, tok) else none

variable (ext : Externals)

def rweRunLevelBudgetCeilingsFromRun (run : RweRun) : Except String (UInt64 × UInt64) :=
  match embeddedCeilings run with
  | some ceilings => .ok ceilings
  | none => do
    let schedule ← ext.frozenSchedule
    let req ← required (u64At schedule ["run_level_budget", "max_total_provider_requests"])
      "frozen schedule run_level_budget.max_total_provider_requests missing"
    pure (req, (u64At schedule ["run_level_budget", "max_total_tokens"]).getD 0)

def validateCurrentRweRunLease (run : RweRun) (runId leaseToken : String) :
    Except String Unit := do
  refuse (run.runId ≠ runId || run.status ≠ "admitted")
    "RWE task-attempt write requires an admitted current run"
  let expectedLease :=
    ((run.evidence.pointer ["admit_state", "lease_token"]).bind Json.asStr).getD ""
  refuse (expectedLease = "" || expectedLease ≠ leaseToken)
    "RWE task-attempt write requires current run lease/owner"

def requireDispatchable (auth : RweAuthorization) (runId : String) : Except String Unit :=
  match auth.status with
  | .consumed => refuse (auth.consumedByRunId ≠ some runId)
      "RWE authorization consumed by a different run"
  | .active => .ok ()
  | status => .error ("RWE authorization status " ++ status.text ++ " is not dispatchable")

def validateRweCellDispatchAuthority (p : AuthenticatedPrincipal) (run : RweRun)
    (auth : RweAuthorization) (runId authorizationId leaseToken : String) (now : ℤ) :
    Except String Unit := do
  validateCurrentRweRunLease run runId leaseToken
  refuse (run.tenantId ≠ p.tenantId) "RWE cell dispatch tenant mismatch"
  refuse (run.principalId ≠ p.principalId) "RWE cell dispatch principal mismatch"
  refuse (run.authorizationId ≠ authorizationId)
    ("RWE cell dispatch authorization mismatch: run bound to " ++ run.authorizationId ++
      ", claim used " ++ authorizationId)
  refuse (auth.authorizationId ≠ authorizationId)
    "RWE cell dispatch authorization row identity mismatch"
  refuse (auth.tenantId ≠ p.tenantId) "RWE authorization tenant mismatch"
  refuse (auth.principalId ≠ p.principalId) "RWE authorization principal mismatch"
  requireDispatchable auth runId
  refuse auth.revokedAt.isSome "RWE authorization revoked"
  refuse (auth.expiresAt ≤ now) "RWE authorization expired between cells"
  refuse auth.fixtureOnly "fixture_only authorization cannot dispatch live RWE cells"
  refuse ((auth.body.get? "schema_version").bind Json.asStr ≠ some "rwe_run_authorization.v2")
    "live RWE cell dispatch requires rwe_run_authorization.v2"
  let _ ← ext.frozenSchedule
  (ext.validateRunAuthorizationV2 auth.body).mapError fun e =>
    "stored v2 authorization failed frozen revalidation at cell fence: " ++ e
  refuse ((auth.body.get? "principal_id").bind Json.asStr ≠ some p.principalId ||
      (auth.body.get? "tenant_id").bind Json.asStr ≠ some p.tenantId)
    "stored v2 authorization principal/tenant binding mismatch"

def dispatchReservation (authorizationId : String) (envelope : RweCellBudgetEnvelope) : Json :=
  .obj
    [("schema_version", .str "rwe_cell_dispatch_reservation.v1"),
     ("authorization_id", .str authorizationId),
     ("reserved_provider_requests", .uint envelope.maxProviderRequests),
     ("reserved_retries", .uint envelope.maxRetries),
     ("reserved_input_tokens", .uint envelope.maxInputTokens),
     ("reserved_output_tokens", .uint envelope.maxOutputTokens),
     ("reserved_total_tokens", .uint envelope.maxTotalTokens),
     ("reserved_wall_time_ms", .uint envelope.maxWallTimeMs),
     ("reserved_max_cost", (envelope.maxCost.map Json.number).getD .null),
     ("monetary_ceiling_available", .bool envelope.maxCost.isSome),
     ("status", .str "dispatched")]

/-- The evidence of a claim. What is no object is left as it is. -/
def withReservation (authorizationId : String) (envelope : RweCellBudgetEnvelope)
    (evidence : Json) : Json :=
  match evidence with
  | .obj m =>
    let m := Json.insertMember m "dispatch_reservation"
      (dispatchReservation authorizationId envelope)
    let m := Json.insertMember m "authorization_id" (.str authorizationId)
    let m := Json.insertMember m "classification" (.str dispatched)
    let m := Json.insertMember m "provider_requests" (.uint envelope.maxProviderRequests)
    .obj (Json.insertMember m "total_tokens" (.uint envelope.maxTotalTokens))
  | v => v

def requirePositiveEnvelope (envelope : RweCellBudgetEnvelope) : Except String Unit := do
  refuse (envelope.maxProviderRequests = 0)
    "cell dispatch reservation requires positive max_provider_requests"
  refuse (envelope.maxTotalTokens = 0)
    "cell dispatch reservation requires positive max_total_tokens"
  refuse (envelope.maxInputTokens = 0 || envelope.maxOutputTokens = 0)
    "cell dispatch reservation requires positive input/output token ceilings"
  refuse (envelope.maxWallTimeMs = 0)
    "cell dispatch reservation requires positive max_wall_time_ms"

structure ClaimReply where
  (taskAttemptId runId authorizationId : String)
  idempotentReplay : Bool
  envelope : RweCellBudgetEnvelope
deriving DecidableEq

/-- The sum with the new reservation against the ceilings of the run. -/
def requireBudget (s : Store) (run : RweRun)
    (envelope : RweCellBudgetEnvelope) : Except String Unit := do
  let used ← sumRweRunBudgetUsage s run.runId
  let ceilings ← rweRunLevelBudgetCeilingsFromRun ext run
  let nextReq ← checkedAdd used.1 envelope.maxProviderRequests "provider-request budget overflow"
  let nextTok ← checkedAdd used.2 envelope.maxTotalTokens "token budget overflow"
  refuse (ceilings.1 < nextReq)
    ("pre-effect cell budget reservation refused: provider requests " ++ toString nextReq ++
      " > run ceiling " ++ toString ceilings.1)
  refuse (0 < ceilings.2 && ceilings.2 < nextTok)
    ("pre-effect cell budget reservation refused: tokens " ++ toString nextTok ++
      " > run ceiling " ++ toString ceilings.2)
  refuse (envelope.maxTotalTokens < envelope.maxInputTokens)
    "pre-effect cell budget reservation refused: input tokens exceed total"
  refuse (envelope.maxTotalTokens < envelope.maxOutputTokens)
    "pre-effect cell budget reservation refused: output tokens exceed total"

/-- A claim that finds its attempt either repeats it or is refused. -/
def claimAgain (existing : RweTaskAttempt) (row : RweTaskAttempt)
    (reply : ClaimReply) : Except String (ClaimReply × Store) := do
  refuse (existing.runId ≠ row.runId || existing.taskId ≠ row.taskId ||
      existing.definitionSha256 ≠ row.definitionSha256) "conflicting RWE cell dispatch identity"
  refuse (existing.classification ≠ row.classification ||
      existing.evidenceSha256 ≠ row.evidenceSha256)
    "duplicate RWE cell dispatch refused: task attempt already claimed or terminal"
  pure ({ reply with idempotentReplay := true }, s)

/-- The arguments of a claim, with the clock it reads. -/
structure Claim where
  principal : AuthenticatedPrincipal
  (runId authorizationId leaseToken taskAttemptId taskId definitionSha256 : String)
  envelope : RweCellBudgetEnvelope
  reservationEvidence : Json
  now : ℤ

def Claim.row (c : Claim) : RweTaskAttempt :=
  let evidence := withReservation c.authorizationId c.envelope c.reservationEvidence
  { taskAttemptId := c.taskAttemptId
    runId := c.runId
    taskId := c.taskId
    definitionSha256 := c.definitionSha256
    classification := dispatched
    evidence := evidence
    evidenceSha256 := ext.sha256 evidence
    createdAt := c.now }

def Store.insertAttempt (t : RweTaskAttempt) : Store :=
  { s with attempts := s.attempts.insert t }

def claimRweCellDispatch (s : Store) (c : Claim) :
    Except String (ClaimReply × Store) := do
  requirePositiveEnvelope c.envelope
  refuse (c.definitionSha256.utf8ByteSize ≠ 64)
    "cell dispatch definition_sha256 must be 64 hex chars"
  refuse (c.authorizationId.toList.all ext.isWhitespace) "cell dispatch requires authorization_id"
  let reply : ClaimReply := ⟨c.taskAttemptId, c.runId, c.authorizationId, false, c.envelope⟩
  let run ← required (s.runs.find? c.runId) "Query returned no rows"
  let auth ← required (s.authorizations.find? c.authorizationId) "Query returned no rows"
  validateRweCellDispatchAuthority ext c.principal run auth c.runId c.authorizationId c.leaseToken
    c.now
  match s.attempts.find? c.taskAttemptId with
  | some existing => claimAgain s existing (c.row ext) reply
  | none => do
    requireBudget ext s run c.envelope
    pure (reply, s.insertAttempt (c.row ext))

structure FinalizeReply where
  (taskAttemptId runId classification : String)
  idempotentReplay : Bool
  /-- Not in the reply to a repeated call. -/
  evidenceSha256 : Option String
deriving DecidableEq

structure Finalize where
  (runId leaseToken taskAttemptId classification : String)
  evidence : Json

/-- The columns that the update sets. -/
def Finalize.close (f : Finalize) (t : RweTaskAttempt) : RweTaskAttempt :=
  { t with
    classification := f.classification
    evidence := f.evidence
    evidenceSha256 := ext.sha256 f.evidence }

def Store.closeAttempt (s : Store) (f : Finalize) : Store :=
  { s with attempts := s.attempts.modify f.taskAttemptId (f.close ext) }

def finalizeRweCellDispatch (s : Store) (f : Finalize) :
    Except String (FinalizeReply × Store) := do
  refuse (f.classification = dispatched)
    "finalize_rwe_cell_dispatch requires a terminal classification"
  refuse (f.classification.toList.all ext.isWhitespace) "finalize classification required"
  let sha256 := ext.sha256 f.evidence
  let run ← required (s.runs.find? f.runId) "Query returned no rows"
  validateCurrentRweRunLease run f.runId f.leaseToken
  let existing ← required (s.attempts.find? f.taskAttemptId)
    "finalize requires a prior claim_rwe_cell_dispatch for this attempt"
  refuse (existing.runId ≠ f.runId) "finalize run_id mismatch"
  if existing.classification ≠ dispatched then do
    refuse (!(existing.classification = f.classification && existing.evidenceSha256 = sha256))
      "conflicting RWE cell finalize identity/evidence"
    pure (⟨f.taskAttemptId, f.runId, f.classification, true, none⟩, s)
  else
    pure (⟨f.taskAttemptId, f.runId, f.classification, false, some sha256⟩, s.closeAttempt ext f)

/-! Runs: the two transactions in any order. Beside the store stands the envelope that each
attempt was granted, as the reply to its claim names it. -/

inductive Op where
  | claim (c : Claim)
  | finalize (f : Finalize)

structure Machine where
  store : Store
  granted : String → Option RweCellBudgetEnvelope

def Machine.start : Machine := ⟨s, fun _ => none⟩

def Machine.step (m : Machine) : Op → Machine
  | .claim c =>
    match claimRweCellDispatch ext m.store c with
    | .error _ => m
    | .ok (reply, store) =>
      ⟨store, if reply.idempotentReplay then m.granted
        else Function.update m.granted reply.taskAttemptId (some reply.envelope)⟩
  | .finalize f =>
    match finalizeRweCellDispatch ext m.store f with
    | .error _ => m
    | .ok (_, store) => { m with store := store }

def Machine.run (m : Machine) (ops : List Op) : Machine :=
  ops.foldl (Machine.step ext) m

end Harness.Rwe
