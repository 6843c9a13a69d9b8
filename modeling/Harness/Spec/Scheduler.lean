import Harness.Spec.ExecutorPool
import Harness.Spec.WorkflowStore

/-! One call of the workflow scheduler: stale leases are recovered, the runs are ordered,
backpressure may pause some of them, and the first runs of the order are ticked one by one.
Orchestration decisions, feedback modules and audit entries are left out; what the call reads
from other tables, from the clock and from its executors enters through `SchedulerWorld`. -/

namespace Harness

open Lib

structure BackpressureConfig (D : Type) where
  enabled : Bool
  (activationThreshold deactivationThreshold : D)
  (maxPausedRuns cooldownAfterPauseMs : ℕ)

structure BackpressureDecision where
  active : Bool
  action : String
  runsToPause : List String
  degradeMode : Option String

structure Backpressure (D : Type) where
  config : BackpressureConfig D
  pausedRuns : List (String × ℕ)
  isActive : Bool

namespace Backpressure

variable {D : Type} (d : Doubles D) (b : Backpressure D)

def new (config : BackpressureConfig D) : Backpressure D := ⟨config, [], false⟩

def idle : BackpressureDecision := ⟨false, "none", [], none⟩

def cleanupExpiredCooldowns (currentTimestampMs : ℕ) : Backpressure D :=
  { b with pausedRuns := b.pausedRuns.filter fun p =>
      currentTimestampMs - p.2 < b.config.cooldownAfterPauseMs }

def evaluate (poolUtilization : D) (queueDepth maxQueue overdueCount currentTimestampMs : ℕ)
    (overdueRunIds : Option (List String)) : BackpressureDecision × Backpressure D :=
  if !b.config.enabled then (idle, b)
  else
    let queueDepthRatio := if 0 < maxQueue then d.ratio queueDepth maxQueue else d.ratio 0 1
    let shouldActivate := d.lt b.config.activationThreshold poolUtilization ||
      d.lt b.config.activationThreshold queueDepthRatio
    let shouldDeactivate := d.lt poolUtilization b.config.deactivationThreshold &&
      d.lt queueDepthRatio b.config.deactivationThreshold
    let b :=
      if shouldActivate && !b.isActive then { b with isActive := true }
      else if shouldDeactivate && b.isActive then { b with isActive := false, pausedRuns := [] }
      else b
    if !b.isActive then (idle, b)
    else
      let b := b.cleanupExpiredCooldowns currentTimestampMs
      let toPause := min overdueCount (b.config.maxPausedRuns - b.pausedRuns.length)
      let runsToPause :=
        match overdueRunIds with
        | some ids => ids.take toPause
        | none => (List.range toPause).map fun i => "overdue_" ++ toString i
      let degradeMode := if d.lt (d.ratio 19 20) poolUtilization then "severe" else "throttle"
      (⟨true, "pause_and_throttle", runsToPause, some degradeMode⟩, b)

end Backpressure

structure SchedulerConfig (D : Type) where
  maxConcurrent : ℕ
  maxRetries : ℤ
  leaseTimeoutMs : ℕ
  executorType : String
  queueEnabled : Bool
  maxQueued : ℕ
  backpressureEnabled : Bool
  backpressureActivation : D
  (agentMaxConcurrentGlobal agentMaxConcurrentPerRun : ℕ)

/-- The columns of `workflow_runs` that order the runs. `tie` is where a query puts the run
among those that its `ORDER BY` does not tell apart. -/
structure RunColumns where
  (runSequence priority : ℤ)
  createdAt : String
  startedAt : Option String
  tie : ℕ

/-- A node of a run. -/
abbrev NodeRef := String × String

/-- What the dynamic controller makes of one run. -/
structure DynamicTick where
  store : WorkflowStore
  leased : List NodeRef
  /-- Whether it did anything, how many nodes it retried, and the statuses of what it ran. -/
  result : Except String (Bool × ℕ × List String)

structure SchedulerWorld where
  env : RecursiveEnv
  now : String
  nowMs : ℕ
  columns : (runId : String) → RunColumns
  leaseExpired : (timeoutMs : ℕ) → (leasedAt : String) → Bool
  /-- Whether the time is more than 300 seconds ago. -/
  longAgo : String → Bool
  /-- The budget evidence and the replays that are recovered first. -/
  recoverEvidence : WorkflowStore → Except String Unit × WorkflowStore
  budgetPaused : (runId : String) → Bool
  /-- Whether the environment asks for the dynamic scheduler. -/
  dynamicMode : Bool
  /-- The executor the scheduler was started with. -/
  configured : String
  (planDomain boundWorkspace : (runId : String) → Option String)
  /-- `workspace_path` and `executor` of a node's JSON. -/
  (workspacePath nodeExecutor : (runId nodeId : String) → Option String)
  /-- What the feedback suggests after the nodes that were run. -/
  suggestExecutorType : List NodeRef → (taskGroup : String) → Option String
  recordScorecard : (runId : String) → Except String Unit
  /-- What comes of a leased node before its settlement. -/
  work : (runId nodeId executor : String) → (attempt : ℕ) → Except String NodeExecutionOutput
  controller : WorkflowStore → (runId executor : String) → DynamicTick

def RunRecord.isActive (r : RunRecord) : Bool := r.status = .running || r.status = .created

namespace WorkflowStore

variable (s : WorkflowStore) (columns : (runId : String) → RunColumns)

def listActiveWorkflowRunIds : List String :=
  ((s.runs.rows.filter fun r => r.isActive && r.pauseReason.isNone).insertionSort fun a b =>
    (columns a.runId).runSequence ≤ (columns b.runId).runSequence).map RunRecord.runId

def listActiveWorkflowRunsPrioritized : List RunRecord :=
  (s.runs.rows.filter fun r =>
      r.isActive && r.pauseReason.getD "" ≠ apiOwnedSupervisedPatch).insertionSort fun a b =>
    let place (r : RunRecord) : Bool ×ₗ ℤ ×ₗ String ×ₗ ℕ :=
      let c := columns r.runId
      toLex (r.pauseReason.isSome, toLex (c.priority, toLex (c.createdAt, c.tie)))
    place a ≤ place b

/-- The failed ones of the 500 latest runs. -/
def listFailedWorkflowRunIds : List String :=
  (((s.runs.rows.insertionSort fun a b =>
    (columns b.runId).runSequence ≤ (columns a.runId).runSequence).take 500).filter
      (·.status = .failed)).map RunRecord.runId

def updateRunPauseReason (budgetPaused : (runId : String) → Bool) (runId : String)
    (pauseReason : Option String) : Except String WorkflowStore := do
  refuse (pauseReason = some apiOwnedSupervisedPatch)
    "workflow run execution owner conflict: the supervised-patch API owner is reserved"
  let some run := s.runs.find? runId | throw ("workflow run not found: " ++ runId)
  requireRunExecutionOwner runId run.pauseReason none
  refuse (budgetPaused runId) "active budget auto-pause requires explicit audited recovery"
  pure { s with
    runs := s.runs.modify runId (fun r => { r with pauseReason := pauseReason })
      (runId_paused pauseReason) }

def pauseRuns (budgetPaused : (runId : String) → Bool) :
    WorkflowStore → List String → Except String Unit × WorkflowStore
  | s, [] => (.ok (), s)
  | s, runId :: runIds =>
    match s.updateRunPauseReason budgetPaused runId (some "backpressure") with
    | .error reason => (.error reason, s)
    | .ok s => pauseRuns budgetPaused s runIds

/-- The loop of `next_ready_task_type`; each turn skips one more agent step at its cap. -/
def nextReadyTaskTypeFrom (runId : String) (caps : Option (ℕ × ℕ)) :
    ℕ → List String → Bool → Option String
  | 0, _, sawCappedAgent => if sawCappedAgent then some "agent_step" else none
  | fuel + 1, skip, sawCappedAgent =>
    match s.findReadyNode runId skip none with
    | none => if sawCappedAgent then some "agent_step" else none
    | some r =>
      let capped := caps.any fun caps => asI64 caps.1 ≤ s.countRunningAgentSteps ||
        asI64 caps.2 ≤ s.countRunningAgentStepsForRun runId
      if r.isAgentStep && capped then
        nextReadyTaskTypeFrom runId caps fuel (skip ++ [r.nodeId]) true
      else some r.taskType

def nextReadyWorkflowNodeTaskType (runId : String) (caps : Option (ℕ × ℕ)) : Option String :=
  if (s.runs.find? runId).isSome then s.nextReadyTaskTypeFrom runId caps (s.nodes.size + 1) [] false
  else none

/-- Unlike the query of the lease, this one lets no edge from a missing node pass. -/
def readyNodeForTaskType (runId taskType : String) : Option NodeRow :=
  (s.rowsOf runId).find? fun r =>
    r.status = .pending && (r.nodeJson.rootMetadata.bind RootMetadata.taskType) = some taskType &&
    (s.edges.filter fun e => e.runId = runId ∧ e.toNodeId = r.nodeId).all fun e =>
      ((s.find? runId e.fromNodeId).filter (·.nodeJson.isObject)).any fun p =>
        WorkflowGraph.predecessorAllows taskType p.status

end WorkflowStore

def makeTaskGroup (domain intent : String) : String := domain ++ "/" ++ intent

/-- The executor a node's task type, its JSON or the feedback asks for, and whether no other
will do. -/
def suggestedExecutor (w : SchedulerWorld) (ran : List NodeRef) (runId taskType : String)
    (node : Option NodeRow) : Option String × Bool :=
  if taskType = "agent_step" then (some "agent_step", true)
  else if taskType = langgraphExternal then (some langgraphExternal, true)
  else if taskType = opencodeExternal then (some opencodeExternal, true)
  else if taskType ∈ ["adaptive_provider", "managed_deepseek", "claude_code_cli", "codex_cli"] then
    (some taskType, true)
  else
    let named := if taskType = "command" then node.bind fun r => w.nodeExecutor runId r.nodeId else none
    if named = some "claude_code_cli" ∨ named = some "codex_cli" then (named, true)
    else (w.suggestExecutorType ran (makeTaskGroup taskType "execute"), false)

def schedulerRouteForRun {D : Type} (cfg : SchedulerConfig D) (w : SchedulerWorld) (s : WorkflowStore)
    (ran : List NodeRef) (runId : String) : Option SchedulerExecutorRoute :=
  (s.nextReadyWorkflowNodeTaskType runId
    (some (cfg.agentMaxConcurrentGlobal, cfg.agentMaxConcurrentPerRun))).map fun taskType =>
    let node := s.readyNodeForTaskType runId taskType
    let requested := node.bind fun r => w.workspacePath runId r.nodeId
    let suggestion := suggestedExecutor w ran runId taskType node
    { taskType := taskType
      taskDomain := (w.planDomain runId).getD taskType
      suggestedExecutor := suggestion.1
      required := suggestion.2
      cliWorkspaceBound := requested.isSome && requested = w.boundWorkspace runId }

inductive TickAction where
  | terminal (status : RunStatus)
  | noReadyNode
  | nodeExecuted
  | nodeRetry
  | staleCompletionIgnored
deriving DecidableEq

structure SchedulerState (D : Type) where
  store : WorkflowStore
  pool : ExecutorPool D
  /-- The nodes the call has leased. -/
  leased : List NodeRef
  (ticks retries : ℕ)

section Tick

variable (x : Externals) (mint : Mint)
  {D : Type} (d : Doubles D) (cfg : SchedulerConfig D) (w : SchedulerWorld)

def settleAction (s : WorkflowStore) (q : WorkflowStore.Settlement) : Except String TickAction := do
  let some row := s.find? q.runId q.nodeId | throw "Query returned no rows"
  let identity ← resolveRecursiveCompletionIdentity q.nodeId row.nodeJson
    (s.indexedRecursiveRoot q.runId q.nodeId) q.env.recursiveEnabled
  let (usage, reason) ← WorkflowStore.recursiveUsage identity row.nodeJson q.output
  let isRecursive := identity.recursiveNodeId.isSome
  let requestedRetry := reason.isNone && q.output.status = "failed" && q.output.retryableDomain &&
    (q.attempt : ℤ) ≤ if isRecursive then 1 else q.maxRetries
  let shouldRetry ←
    if requestedRetry && isRecursive then
      s.recursiveRetryAllowed x mint q.env q.runId q.nodeId usage.1
    else pure requestedRetry
  if row.status ≠ .running ∨ row.attemptCount ≠ q.attempt then pure .staleCompletionIgnored
  else pure (if shouldRetry then .nodeRetry else .nodeExecuted)

def schedulerLease (runId executor : String) : WorkflowStore.LeaseRequest where
  runId := runId
  agentExecutor := executor = "agent_step"
  caps := some (cfg.agentMaxConcurrentGlobal, cfg.agentMaxConcurrentPerRun)
  expectedOwner := none
  env := w.env
  now := w.now

/-- What a tick of one run did: its report with the status of what was run, the store, and the
node it leased. -/
structure RunTick where
  result : Except String (TickAction × String)
  store : WorkflowStore
  leased : List NodeRef

/-- `tick_with_executor_with_agent_caps`. -/
def tickWithExecutor (s : WorkflowStore) (runId executor : String) : RunTick :=
  match s.leasePhase x mint (schedulerLease cfg w runId executor) with
  | .error reason => ⟨.error reason, s, []⟩
  | .ok (.terminal status, s) => ⟨(w.recordScorecard runId).map fun _ => (.terminal status, ""), s, []⟩
  | .ok (.noReadyNode, s) => ⟨.ok (.noReadyNode, ""), s, []⟩
  | .ok (.leased nodeId _ attempt, s) =>
    let result := do
      let output ← w.work runId nodeId executor attempt
      let q : WorkflowStore.Settlement := ⟨runId, nodeId, attempt, cfg.maxRetries, output, w.env, w.now⟩
      let action ← settleAction x mint s q
      let s ← s.settlePhase x mint q
      pure ((action, output.status), s)
    match result with
    | .error reason => ⟨.error reason, s, [(runId, nodeId)]⟩
    | .ok (report, s) => ⟨.ok report, s, [(runId, nodeId)]⟩

/-- Give a slot back after a tick. -/
def releaseSlot (pool : ExecutorPool D) (acquiredType : Option String)
    (result : Except String (TickAction × String)) : ExecutorPool D :=
  match acquiredType, result with
  | none, _ => pool
  | some executorType, .ok (.nodeExecuted, status) | some executorType, .ok (.nodeRetry, status) =>
    pool.release d executorType (status = "completed")
  | some executorType, _ => pool.releaseWithoutRecording executorType

/-- One turn of the loop over the runs. -/
def tickRun (st : SchedulerState D) (runId : String) : SchedulerState D :=
  match st.pool.selectSchedulerExecutor d cfg.executorType w.configured
      (schedulerRouteForRun cfg w st.store st.leased runId) with
  | none => st
  | some selected =>
    let tick := tickWithExecutor x mint cfg w st.store runId selected.executor
    { store := tick.store
      pool := releaseSlot d selected.pool selected.acquiredType tick.result
      leased := st.leased ++ tick.leased
      ticks := st.ticks + if tick.result.isOk then 1 else 0
      retries := st.retries + match tick.result with
        | .ok (.nodeRetry, _) => 1
        | _ => 0 }

structure TickResult where
  (ticks retries : ℕ)
  pausedRuns : List String
  backpressureActive : Bool
  queueDepth : ℕ

structure RunQueue where
  (activeRuns pausedRuns : List String)
  queueDepth : ℕ

def runQueue (s : WorkflowStore) : RunQueue :=
  if cfg.queueEnabled then
    let prioritized := s.listActiveWorkflowRunsPrioritized w.columns
    { activeRuns := (prioritized.filter (·.pauseReason.isNone)).map RunRecord.runId
      pausedRuns := (prioritized.filter (·.pauseReason.isSome)).map RunRecord.runId
      queueDepth := prioritized.length }
  else ⟨s.listActiveWorkflowRunIds w.columns, [], 0⟩

/-- The active runs that run for more than 300 seconds. -/
def overdueRuns (s : WorkflowStore) (activeRuns : List String) : List String :=
  activeRuns.filter fun runId => (s.runs.find? runId).any fun run =>
    run.status = .running && (w.columns runId).startedAt.any w.longAgo

def backpressureDecision (queue : RunQueue) (overdue : Option (List String)) : BackpressureDecision :=
  if cfg.queueEnabled && cfg.backpressureEnabled then
    ((Backpressure.new
      { enabled := true
        activationThreshold := cfg.backpressureActivation
        deactivationThreshold := d.ratio 1 2
        maxPausedRuns := 10
        cooldownAfterPauseMs := 60000 }).evaluate d
      (d.ratio queue.activeRuns.length (max cfg.maxConcurrent 1)) queue.queueDepth cfg.maxQueued
      (overdue.getD []).length w.nowMs overdue).1
  else Backpressure.idle

def dynamicWorkflowEnabled : Bool := w.dynamicMode || isLegacyDynamic cfg.executorType

/-- What the loop over the runs starts from. -/
structure Preparation where
  store : WorkflowStore
  queue : RunQueue
  decision : BackpressureDecision
  result : Except String Unit

/-- Recover, order and pause. The dynamic scheduler counts no run as overdue. -/
def prepare (s : WorkflowStore) : Except String Preparation × WorkflowStore :=
  match w.recoverEvidence s with
  | (.error reason, s) => (.error reason, s)
  | (.ok (), s) =>
    match s.recoverStaleLeases x mint ⟨w.env, w.now, w.leaseExpired cfg.leaseTimeoutMs⟩ with
    | .error reason => (.error reason, s)
    | .ok s =>
      let queue := runQueue cfg w s
      let overdue := if dynamicWorkflowEnabled cfg w then none
        else some (overdueRuns w s queue.activeRuns)
      let decision := backpressureDecision d cfg w queue overdue
      let (result, s) := s.pauseRuns w.budgetPaused decision.runsToPause
      (.ok ⟨s, queue, decision, result⟩, s)

/-- One turn of the dynamic loop; an error of the controller ends it. -/
def dynamicTickRun (st : SchedulerState D) (runId : String) : Except String Unit × SchedulerState D :=
  match st.pool.selectSchedulerExecutor d cfg.executorType w.configured
      (schedulerRouteForRun cfg w st.store st.leased runId) with
  | none => (.ok (), st)
  | some selected =>
    let tick := w.controller st.store runId selected.executor
    let st := { st with store := tick.store, leased := st.leased ++ tick.leased }
    match tick.result with
    | .error reason =>
      (.error ("dynamic scheduler tick failed for run " ++ runId ++ ": " ++ reason),
        { st with pool := releaseSlot d selected.pool selected.acquiredType (.error reason) })
    | .ok (didWork, retries, statuses) =>
      let report := if statuses = [] then .ok (.noReadyNode, "") else
        .ok (.nodeExecuted, if statuses.all (· = "completed") then "completed" else "failed")
      (.ok (), { st with
        pool := releaseSlot d selected.pool selected.acquiredType report
        ticks := st.ticks + if didWork then 1 else 0
        retries := st.retries + retries })

def dynamicLoop : SchedulerState D → List String → Except String Unit × SchedulerState D
  | st, [] => (.ok (), st)
  | st, runId :: runIds =>
    match dynamicTickRun d cfg w st runId with
    | (.error reason, st) => (.error reason, st)
    | (.ok (), st) => dynamicLoop st runIds

/-- `scheduler_tick_with_limit`. -/
def schedulerTickWithLimit (s : WorkflowStore) (pool : ExecutorPool D) (tickLimit : ℕ) :
    Except String TickResult × SchedulerState D :=
  match prepare x mint d cfg w s with
  | (.error reason, s) => (.error reason, ⟨s, pool, [], 0, 0⟩)
  | (.ok p, _) =>
    let start : SchedulerState D := ⟨p.store, pool, [], 0, 0⟩
    match p.result with
    | .error reason => (.error reason, start)
    | .ok () =>
      let report (st : SchedulerState D) : TickResult :=
        ⟨st.ticks, st.retries, p.queue.pausedRuns ++ p.decision.runsToPause, p.decision.active,
          p.queue.queueDepth⟩
      if dynamicWorkflowEnabled cfg w then
        let failed := (p.store.listFailedWorkflowRunIds w.columns).filter
          fun runId => !p.queue.activeRuns.contains runId
        match dynamicLoop d cfg w start ((p.queue.activeRuns ++ failed).take tickLimit) with
        | (.error reason, st) => (.error reason, st)
        | (.ok (), st) => (.ok (report st), st)
      else
        let st := (p.queue.activeRuns.take tickLimit).foldl (tickRun x mint d cfg w) start
        (.ok (report st), st)

/-! Calls one after another. Nothing but the store and the pool goes from one to the next. -/

structure SchedulerCall where
  world : SchedulerWorld
  tickLimit : ℕ

def afterCall (st : WorkflowStore × ExecutorPool D) (c : SchedulerCall) :
    WorkflowStore × ExecutorPool D :=
  let st := (schedulerTickWithLimit x mint d cfg c.world st.1 st.2 c.tickLimit).2
  (st.store, st.pool)

def afterCalls (st : WorkflowStore × ExecutorPool D) (calls : List SchedulerCall) :
    WorkflowStore × ExecutorPool D :=
  calls.foldl (afterCall x mint d cfg) st

end Tick

end Harness
