import Harness.Lib.Trace
import Harness.Spec.Scheduler
import Mathlib.Data.List.DropRight
import Mathlib.Data.Rat.Defs
import Mathlib.Algebra.Order.Ring.Rat

/-! Budget auto-pause: evidence of an anomaly pauses a run, an operator takes the pause back. The
decision is kept in a table of its own, the pause in the run's row. Instants are in nanoseconds;
audit entries and the text of the policy are left out. -/

namespace Harness.BudgetPause

open Lib

inductive EvidenceOutcome where
  | supported
  | insufficientEvidence
  | invalidEvidence
deriving DecidableEq, Repr

inductive ConfidenceLevel where
  | low
  | medium
  | high
deriving DecidableEq, Repr

inductive AnomalyKind where
  | costSpike
  | tokenSpike
  | retrySpike
  | latencySpike
  | contextGrowth
  | modelMixShift
deriving DecidableEq, Repr

def AnomalyKind.text : AnomalyKind → String
  | costSpike => "cost_spike"
  | tokenSpike => "token_spike"
  | retrySpike => "retry_spike"
  | latencySpike => "latency_spike"
  | contextGrowth => "context_growth"
  | modelMixShift => "model_mix_shift"

inductive AnomalySeverity where
  | info
  | warning
  | critical
deriving DecidableEq, Repr

/-- `measured` says whether there is a measurement. -/
structure AnomalyFinding where
  scopeRunId : Option String
  outcome : EvidenceOutcome
  generatedAt : String
  freshnessSeconds : ℕ
  pricingComplete : Bool
  confidenceLevel : ConfidenceLevel
  confidenceScore : ℚ
  reasonCodes : List String
  detected : Bool
  anomalyKind : Option AnomalyKind
  severity : Option AnomalySeverity
  measured : Bool
  evidenceSha256 : String
deriving DecidableEq

structure Artifact where
  artifactKind : String
  evidence : Except String AnomalyFinding

structure AutoPausePolicy where
  schemaVersion : String
  enabled : Bool
  minimumConfidenceScore : ℚ
  maximumFreshnessSeconds : ℕ
  requireCriticalSeverity : Bool
deriving DecidableEq

/-- What the store takes from elsewhere: a hash, RFC 3339, `char::is_whitespace`, the checks that
all evidence has in common with those of a measurement, and the order in which the query for the
latest decision meets decisions of one time. -/
structure Externals where
  sha256 : String → String
  parseRfc3339 : String → Option ℤ
  isWhitespace : Char → Bool
  (validateCommon validateMeasurement : AnomalyFinding → Except String Unit)
  tie : (decisionId : String) → ℕ

def AutoPausePolicy.validate (p : AutoPausePolicy) : Except String Unit := do
  refuse (p.schemaVersion ≠ "budget_auto_pause_policy.v1")
    "unsupported budget auto-pause policy version"
  refuse (!(0 ≤ p.minimumConfidenceScore && p.minimumConfidenceScore ≤ 1))
    "budget auto-pause confidence threshold must be within [0,1]"
  refuse (p.maximumFreshnessSeconds = 0 || 86400 < p.maximumFreshnessSeconds)
    "budget auto-pause freshness must be within 1..=86400 seconds"

namespace AnomalyFinding

variable (ext : Externals) (f : AnomalyFinding)

/-- There is nothing of an anomaly in it. -/
def isBlank : Bool := f.anomalyKind.isNone && f.severity.isNone && !f.measured

def validateDetected : Except String Unit := do
  let kind ← required f.anomalyKind "detected anomaly requires a kind"
  refuse (f.severity.isNone || !f.measured) "detected anomaly requires severity and measurement"
  refuse (kind = .costSpike && !f.pricingComplete) "cost anomaly requires complete pricing"
  ext.validateMeasurement f

def validate : Except String Unit := do
  ext.validateCommon f
  match f.outcome, f.detected with
  | .supported, true => f.validateDetected ext
  | .supported, false =>
    refuse (!f.isBlank) "normal supported evidence must not contain an anomaly finding"
  | _, detected =>
    refuse (detected || !f.isBlank) "unsupported anomaly outcome must not contain a finding"

end AnomalyFinding

def validatePauseEligibility (f : AnomalyFinding) (runId : String) (p : AutoPausePolicy) :
    Except String Unit := do
  refuse (f.scopeRunId ≠ some runId) "budget anomaly run scope does not match pause target"
  refuse (f.outcome ≠ .supported || !f.detected) "budget anomaly does not support a pause"
  refuse (f.confidenceLevel ≠ .high || f.confidenceScore < p.minimumConfidenceScore)
    "budget anomaly confidence is below auto-pause policy"
  refuse (p.maximumFreshnessSeconds < f.freshnessSeconds) "budget anomaly evidence is stale"
  refuse (!f.pricingComplete) "budget anomaly pricing evidence is incomplete"
  refuse (p.requireCriticalSeverity && f.severity ≠ some .critical)
    "budget anomaly severity is below auto-pause policy"

/-- `(current - generated).num_seconds()`. -/
def ageSeconds (current generated : ℤ) : ℤ := (current - generated).tdiv 1000000000

inductive PauseState where
  | paused
  | resume
  | override
deriving DecidableEq, Repr

structure PauseDecision where
  (decisionId runId artifactId evidenceSha256 : String)
  state : PauseState
  (cause actor createdAt updatedAt : String)
  recoveryReason : Option String
deriving DecidableEq

structure Store where
  workflow : WorkflowStore
  artifacts : (artifactId : String) → Except String (Option Artifact)
  decisions : Table PauseDecision.decisionId

def pauseDecisionId (ext : Externals) (runId artifactId evidenceSha256 : String) : String :=
  "budget-pause-" ++ ext.sha256 ("\x00".intercalate [runId, artifactId, evidenceSha256])

def pauseReason (decisionId : String) : String := "budget_auto_pause:" ++ decisionId

def pauseDecision (s : Store) (runId artifactId : String) : Option PauseDecision :=
  s.decisions.rows.find? fun d => d.runId = runId && d.artifactId = artifactId

def pausedDecisions (s : Store) (runId : String) : List PauseDecision :=
  s.decisions.rows.filter fun d => d.runId = runId && d.state = .paused

/-- `ORDER BY created_at DESC LIMIT 1`. -/
def activePauseDecision (ext : Externals) (s : Store) (runId : String) : Option PauseDecision :=
  ((pausedDecisions s runId).insertionSort fun a b =>
    toLex (b.createdAt, ext.tie b.decisionId) ≤ toLex (a.createdAt, ext.tie a.decisionId)).head?

def Store.setPauseReason (s : Store) (runId : String) (reason : Option String) : Store :=
  { s with workflow := { s.workflow with
      runs := s.workflow.runs.modify runId (fun r => { r with pauseReason := reason })
        (runId_paused reason) } }

structure Apply where
  (artifactId runId : String)
  policy : AutoPausePolicy
  (actor now : String)
deriving DecidableEq

def checkApply (ext : Externals) (s : Store) (a : Apply) : Except String AnomalyFinding := do
  a.policy.validate
  refuse (!a.policy.enabled) "budget auto-pause policy is disabled"
  let found ← s.artifacts a.artifactId
  let artifact ← required found ("budget evidence artifact not found: " ++ a.artifactId)
  refuse (artifact.artifactKind ≠ "anomaly") "budget auto-pause requires anomaly evidence"
  let finding ← artifact.evidence.mapError fun e => "invalid budget anomaly evidence: " ++ e
  finding.validate ext
  validatePauseEligibility finding a.runId a.policy
  let generated ← required (ext.parseRfc3339 finding.generatedAt)
    "budget anomaly generated_at is invalid"
  let current ← required (ext.parseRfc3339 a.now) "store clock is not RFC3339"
  let age := ageSeconds current generated
  refuse (age < -1 || (a.policy.maximumFreshnessSeconds : ℤ) < max age 0)
    "budget anomaly is stale at mutation time"
  pure finding

def newDecision (ext : Externals) (a : Apply) (f : AnomalyFinding) : PauseDecision where
  decisionId := pauseDecisionId ext a.runId a.artifactId f.evidenceSha256
  runId := a.runId
  artifactId := a.artifactId
  evidenceSha256 := f.evidenceSha256
  state := .paused
  cause := (f.anomalyKind.elim "" AnomalyKind.text) ++ ":" ++ ",".intercalate f.reasonCodes
  actor := a.actor
  createdAt := a.now
  updatedAt := a.now
  recoveryReason := none

def insertDecision (ext : Externals) (s : Store) (a : Apply) (f : AnomalyFinding) :
    Except String (PauseDecision × Store) := do
  let run ← required (s.workflow.runs.find? a.runId) ("workflow run not found: " ++ a.runId)
  requireRunExecutionOwner a.runId run.pauseReason none
  let decision := newDecision ext a f
  refuse (s.decisions.find? decision.decisionId).isSome
    "UNIQUE constraint failed: budget_pause_decisions.decision_id"
  pure (decision, { s with decisions := s.decisions.insert decision }.setPauseReason a.runId
    (some (pauseReason decision.decisionId)))

def applyBudgetAutoPause (ext : Externals) (s : Store) (a : Apply) :
    Except String (PauseDecision × Store) := do
  let finding ← checkApply ext s a
  match pauseDecision s a.runId a.artifactId with
  | some existing => pure (existing, s)
  | none => insertDecision ext s a finding

structure Recover where
  (runId recovery reason actor now : String)
deriving DecidableEq

def parseRecovery (recovery : String) : Except String PauseState :=
  if recovery = "resume" then .ok .resume
  else if recovery = "override" then .ok .override
  else .error "budget pause recovery must be resume or override"

def trim (isWhitespace : Char → Bool) (text : String) : String :=
  String.ofList ((text.toList.dropWhile isWhitespace).rdropWhile isWhitespace)

def PauseDecision.recovered (d : PauseDecision) (state : PauseState) (reason actor now : String) :
    PauseDecision :=
  { d with state := state, recoveryReason := some reason, actor := actor, updatedAt := now }

def recoverBudgetAutoPause (ext : Externals) (s : Store) (r : Recover) :
    Except String (PauseDecision × Store) := do
  let state ← parseRecovery r.recovery
  let reason := trim ext.isWhitespace r.reason
  refuse (reason = "" || 512 < reason.utf8ByteSize)
    "budget pause recovery requires a bounded operator reason"
  let existing ← required (activePauseDecision ext s r.runId)
    ("active budget pause not found: " ++ r.runId)
  let run ← required (s.workflow.runs.find? r.runId) ("workflow run not found: " ++ r.runId)
  requireRunExecutionOwner r.runId run.pauseReason none
  refuse (run.pauseReason ≠ some (pauseReason existing.decisionId))
    ("workflow run pause owner unavailable: " ++ r.runId)
  pure (existing.recovered state reason r.actor r.now,
    { s with decisions := s.decisions.modify existing.decisionId fun d =>
        d.recovered state reason r.actor r.now }.setPauseReason r.runId none)

def budgetPaused (s : Store) (runId : String) : Bool := (pausedDecisions s runId).length ≠ 0

def updateRunPauseReason (s : Store) (runId : String) (reason : Option String) :
    Except String Store := do
  let workflow ← s.workflow.updateRunPauseReason (budgetPaused s) runId reason
  pure { s with workflow := workflow }

/-! Sequences of the two transactions. A call that fails changes nothing. -/

inductive Op where
  | apply (a : Apply)
  | recover (r : Recover)

def step (ext : Externals) (s : Store) : Op → Store
  | .apply a =>
    match applyBudgetAutoPause ext s a with
    | .ok (_, s') => s'
    | .error _ => s
  | .recover r =>
    match recoverBudgetAutoPause ext s r with
    | .ok (_, s') => s'
    | .error _ => s

def run (ext : Externals) (s : Store) (ops : List Op) : Store := ops.foldl (step ext) s

/-! The same with the lease transactions of ticks in between, whoever makes them. -/

inductive TickOp where
  | pause (op : Op)
  | lease (q : WorkflowStore.LeaseRequest)

variable (x : Harness.Externals)
  (mint : Mint)

def tickStep (ext : Externals) (s : Store) : TickOp → Store
  | .pause op => step ext s op
  | .lease q =>
    match s.workflow.leasePhase x mint q with
    | .ok (_, workflow) => { s with workflow := workflow }
    | .error _ => s

def tickRun (ext : Externals) (s : Store) (ops : List TickOp) : Store :=
  ops.foldl (tickStep x mint ext) s

end Harness.BudgetPause
