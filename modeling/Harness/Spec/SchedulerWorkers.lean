import Harness.Lib.Trace
import Harness.Spec.Scheduler

/-! The workers of the scheduler, which share the store, the executor pool and the control flags.
A worker looks at the control before each call of the scheduler; within the call it takes a slot,
leases, executes, settles and gives the slot back, run after run. Each of these is one step here,
and the steps of several workers interleave. States that are only reported are left out. -/

namespace Harness

open Lib

structure SchedulerControl where
  (running paused killRequested : Bool)
deriving DecidableEq

inductive WorkerControlState where
  | running
  | paused
  | killed
deriving DecidableEq

def observeSchedulerWorkerControl (c : SchedulerControl) (environmentKill environmentPause : Bool) :
    WorkerControlState × SchedulerControl :=
  if c.killRequested || environmentKill then
    (.killed, { c with killRequested := true, running := false })
  else if c.paused || environmentPause then (.paused, c)
  else (.running, c)

/-- The run that a worker ticks, with the executor and the slot it holds for it. -/
structure WorkerTurn where
  (runId executor : String)
  acquiredType : Option String
deriving DecidableEq

/-- What a call of the scheduler keeps: whether it is the dynamic one, the nodes it has leased and
the runs that it has yet to tick. -/
structure TickCall where
  dynamic : Bool
  ran : List NodeRef
  runs : List String
deriving DecidableEq

/-- Where a worker is in `run_scheduler_worker`: at the head of its loop, about to look at the
control, about to call the scheduler, or inside the call. -/
inductive WorkerPhase where
  | top
  | checking
  | ready
  | turning (call : TickCall)
  | holding (turn : WorkerTurn) (call : TickCall)
  | executing (turn : WorkerTurn) (nodeId : String) (attempt : ℕ) (call : TickCall)
  | stopped
deriving DecidableEq

structure WorkerWorld extends SchedulerWorld where
  (environmentKill environmentPause : Bool)
  /-- Whether the cooldown of an executor is over. -/
  cooled : (executorType : String) → Bool
  /-- What the dynamic controller does before it ticks the executor, and whether it does. -/
  before : WorkflowStore → (runId : String) → Except String Bool × WorkflowStore
  /-- What the dynamic controller does after that. -/
  after : WorkflowStore → (runId : String) → Except String Unit × WorkflowStore

structure SchedulerShared (D : Type) where
  store : WorkflowStore
  pool : ExecutorPool D
  control : SchedulerControl

def ExecutorPool.tickCooldowns {D : Type} (pool : ExecutorPool D)
    (cooled : (executorType : String) → Bool) : ExecutorPool D :=
  pool.map fun e =>
    if e.coolingDown && cooled e.executorType then { e with available := true, coolingDown := false }
    else e

section Steps

variable (x : Externals) (mint : Mint)
  {D : Type} (d : Doubles D) (cfg : SchedulerConfig D)

/-- The limit that `start` gives to each worker. -/
def workerTickLimit (supervisedWorkersEnabled : Bool) : ℕ :=
  if supervisedWorkersEnabled then 1 else cfg.maxConcurrent

/-- The beginning of a call, up to its loop over the runs. -/
def beginTick (tickLimit : ℕ) (w : WorkerWorld) (sh : SchedulerShared D) :
    SchedulerShared D × WorkerPhase :=
  let sh := { sh with pool := sh.pool.tickCooldowns w.cooled }
  match prepare x mint d cfg w.toSchedulerWorld sh.store with
  | (.error _, s) => ({ sh with store := s }, .top)
  | (.ok p, _) =>
    let sh := { sh with store := p.store }
    match p.result with
    | .error _ => (sh, .top)
    | .ok () =>
      let dynamic := dynamicWorkflowEnabled cfg w.toSchedulerWorld
      let failed := (p.store.listFailedWorkflowRunIds w.columns).filter
        fun runId => !p.queue.activeRuns.contains runId
      let runs := if dynamic then p.queue.activeRuns ++ failed else p.queue.activeRuns
      (sh, .turning ⟨dynamic, [], runs.take tickLimit⟩)

variable (w : WorkerWorld)

/-- Take a slot for the next run. -/
def beginTurn (sh : SchedulerShared D) (runId : String) (call : TickCall) :
    SchedulerShared D × WorkerPhase :=
  match sh.pool.selectSchedulerExecutor d cfg.executorType w.configured
      (schedulerRouteForRun cfg w.toSchedulerWorld sh.store call.ran runId) with
  | none => (sh, .turning call)
  | some selected => ({ sh with pool := selected.pool },
      .holding ⟨runId, selected.executor, selected.acquiredType⟩ call)

/-- Give the slot back. An error ends the call of the dynamic scheduler, the other one goes on. -/
def endTurn (sh : SchedulerShared D) (turn : WorkerTurn) (call : TickCall)
    (result : Except String (TickAction × String)) : SchedulerShared D × WorkerPhase :=
  ({ sh with pool := releaseSlot d sh.pool turn.acquiredType result },
    if call.dynamic && !result.isOk then .top else .turning call)

/-- The tick of the run is over; the dynamic controller has its say. -/
def finishTurn (sh : SchedulerShared D) (turn : WorkerTurn) (call : TickCall)
    (report : TickAction × String) : SchedulerShared D × WorkerPhase :=
  if call.dynamic then
    match w.after sh.store turn.runId with
    | (.error reason, s) => endTurn d { sh with store := s } turn call (.error reason)
    | (.ok (), s) => endTurn d { sh with store := s } turn call (.ok report)
  else endTurn d sh turn call (.ok report)

def leaseTurn (sh : SchedulerShared D) (turn : WorkerTurn) (call : TickCall) :
    SchedulerShared D × WorkerPhase :=
  match sh.store.leasePhase x mint
      (schedulerLease cfg w.toSchedulerWorld turn.runId turn.executor) with
  | .error reason => endTurn d sh turn call (.error reason)
  | .ok (.terminal status, s) =>
    match w.recordScorecard turn.runId with
    | .error reason => endTurn d { sh with store := s } turn call (.error reason)
    | .ok () => finishTurn d w { sh with store := s } turn call (.terminal status, "")
  | .ok (.noReadyNode, s) => finishTurn d w { sh with store := s } turn call (.noReadyNode, "")
  | .ok (.leased nodeId _ attempt, s) =>
    ({ sh with store := s },
      .executing turn nodeId attempt { call with ran := call.ran ++ [(turn.runId, nodeId)] })

/-- The tick of the run up to its execution. -/
def holdTurn (sh : SchedulerShared D) (turn : WorkerTurn) (call : TickCall) :
    SchedulerShared D × WorkerPhase :=
  if call.dynamic then
    match w.before sh.store turn.runId with
    | (.error reason, s) => endTurn d { sh with store := s } turn call (.error reason)
    | (.ok false, s) => endTurn d { sh with store := s } turn call (.ok (.noReadyNode, ""))
    | (.ok true, s) => leaseTurn x mint d cfg w { sh with store := s } turn call
  else leaseTurn x mint d cfg w sh turn call

/-- The executor hands something back. -/
def executeTurn (sh : SchedulerShared D) (turn : WorkerTurn) (nodeId : String)
    (attempt : ℕ) (call : TickCall) : SchedulerShared D × WorkerPhase :=
  let result := do
    let output ← w.work turn.runId nodeId turn.executor attempt
    let q : WorkflowStore.Settlement :=
      ⟨turn.runId, nodeId, attempt, cfg.maxRetries, output, w.env, w.now⟩
    let action ← settleAction x mint sh.store q
    let s ← sh.store.settlePhase x mint q
    pure ((action, output.status), s)
  match result with
  | .error reason => endTurn d sh turn call (.error reason)
  | .ok (report, s) => finishTurn d w { sh with store := s } turn call report

def workerStep (tickLimit : ℕ) (w : WorkerWorld) (sh : SchedulerShared D) :
    WorkerPhase → SchedulerShared D × WorkerPhase
  | .top => (sh, if sh.control.running then .checking else .stopped)
  | .checking =>
    match observeSchedulerWorkerControl sh.control w.environmentKill w.environmentPause with
    | (.killed, control) => ({ sh with control := control }, .stopped)
    | (.paused, control) => ({ sh with control := control }, .top)
    | (.running, control) => ({ sh with control := control }, .ready)
  | .ready => beginTick x mint d cfg tickLimit w sh
  | .turning ⟨_, _, []⟩ => (sh, .top)
  | .turning ⟨dynamic, ran, runId :: runs⟩ => beginTurn d cfg w sh runId ⟨dynamic, ran, runs⟩
  | .holding turn call => holdTurn x mint d cfg w sh turn call
  | .executing turn nodeId attempt call =>
    executeTurn x mint d cfg w sh turn nodeId attempt call
  | .stopped => (sh, .stopped)

/-- An executor that panics unwinds the call; the loop of the worker catches it. -/
def WorkerPhase.unwound : WorkerPhase → WorkerPhase
  | .executing .. => .top
  | phase => phase

end Steps

structure SchedulerSystem (D : Type) extends SchedulerShared D where
  workers : List WorkerPhase

/-- `set_recursive_execution_paused` goes first in the control calls; its error is theirs. -/
inductive SchedulerOp where
  | worker (i : ℕ) (w : WorkerWorld)
  | panic (i : ℕ)
  | pause (trees : Except String WorkflowStore)
  | resume (trees : Except String WorkflowStore)
  | kill (trees : Except String WorkflowStore)
  | stop
  /-- Whatever else changes the store. -/
  | external (s : WorkflowStore)

section System

variable (x : Externals) (mint : Mint)
  {D : Type} (d : Doubles D) (cfg : SchedulerConfig D) (tickLimit : ℕ)

def WorkerPhase.leasedBy (phase phase' : WorkerPhase) : Option NodeRef :=
  match phase, phase' with
  | .holding .., .executing turn nodeId .. => some (turn.runId, nodeId)
  | _, _ => none

namespace SchedulerSystem

variable (st : SchedulerSystem D)

def setWorker (i : ℕ) (next : SchedulerShared D × WorkerPhase) : SchedulerSystem D :=
  { toSchedulerShared := next.1, workers := st.workers.set i next.2 }

/-- One step, with the worker and the node if it is a lease. -/
def step : SchedulerOp → Option (ℕ × NodeRef) × SchedulerSystem D
  | .worker i w =>
    match st.workers[i]? with
    | none => (none, st)
    | some phase =>
      let next := workerStep x mint d cfg tickLimit w st.toSchedulerShared phase
      ((phase.leasedBy next.2).map fun node => (i, node), st.setWorker i next)
  | .panic i =>
    match st.workers[i]? with
    | none => (none, st)
    | some phase => (none, st.setWorker i (st.toSchedulerShared, phase.unwound))
  | .pause (.error _) | .resume (.error _) | .kill (.error _) => (none, st)
  | .pause (.ok s) => (none, { st with store := s, control := { st.control with paused := true } })
  | .resume (.ok s) =>
    if st.control.killRequested then (none, st)
    else (none, { st with store := s, control := { st.control with paused := false } })
  | .kill (.ok s) =>
    (none, { st with
      store := s
      control := { st.control with killRequested := true, running := false } })
  | .stop => (none, { st with control := { st.control with running := false } })
  | .external s => (none, { st with store := s })

def run (ops : List SchedulerOp) : SchedulerSystem D :=
  after (step x mint d cfg tickLimit) st ops

end SchedulerSystem

end System

section Start

variable {D : Type} (cfg : SchedulerConfig D)

/-- What `start` reads of the configuration and a call does not. -/
structure SupervisedWorkers where
  supervisedWorkersEnabled : Bool
  workerCount : ℕ

def maxSchedulerRetries : ℤ := 10

def supportedExecutors : List String :=
  ["noop", "stub", "fail", "command", "local_runner_validation", "claude_code_cli", "codex_cli",
    "adaptive_provider", "managed_deepseek", "dynamic", "dynamic_noop", "dynamic_workflow", "auto",
    "pool"]

def validateForStart (workers : SupervisedWorkers) : Except String Unit := do
  refuse (cfg.maxRetries < 0 || maxSchedulerRetries < cfg.maxRetries)
    s!"ACP_SCHEDULER_MAX_RETRIES must be between 0 and {maxSchedulerRetries}"
  refuse (!workers.supervisedWorkersEnabled)
    "supervised workers not enabled (ACP_ENABLE_SUPERVISED_WORKERS=1 required)"
  refuse (workers.workerCount = 0) "ACP_SUPERVISED_WORKER_COUNT must be at least 1"
  refuse (cfg.maxConcurrent < workers.workerCount)
    s!"worker count {workers.workerCount} exceeds max concurrency {cfg.maxConcurrent}"
  refuse (32 < workers.workerCount) "ACP_SUPERVISED_WORKER_COUNT must not exceed 32"
  refuse (cfg.agentMaxConcurrentGlobal < cfg.agentMaxConcurrentPerRun)
    "agent_max_concurrent_per_run must not exceed agent_max_concurrent_global"
  refuse (!supportedExecutors.contains cfg.executorType)
    s!"unsupported ACP_SCHEDULER_EXECUTOR: {cfg.executorType}"

/-- What `start` finds around it: old workers that still run, the checks of the injected executors
and of the lease timeout, the kill switch, and the executors it registers. -/
structure StartWorld (D : Type) where
  draining : Bool
  executors : Except String Unit
  environmentKill : Bool
  register : ExecutorPool D → ExecutorPool D

/-- The only place that makes workers. -/
def start (workers : SupervisedWorkers) (w : StartWorld D) (sh : SchedulerShared D) :
    Except String (SchedulerSystem D) := do
  refuse sh.control.running "scheduler already running"
  refuse w.draining "scheduler workers are still draining; call stop before restart"
  validateForStart cfg workers
  w.executors
  refuse w.environmentKill
    "supervised worker kill switch is active (ACP_SUPERVISED_WORKERS_KILL_SWITCH=1)"
  let count := if workers.supervisedWorkersEnabled then workers.workerCount else 1
  pure
    { store := sh.store
      pool := w.register sh.pool
      control := { sh.control with killRequested := false, running := true }
      workers := List.replicate count .top }

end Start

end Harness
