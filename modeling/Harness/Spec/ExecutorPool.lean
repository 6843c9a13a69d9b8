import Harness.Lib.Table
import Mathlib.Data.List.Sort
import Mathlib.Data.String.Basic

/-! The executor pool and how the scheduler picks an executor from it. An executor is known
by what its `executor_type_name` says. The latencies, the costs and the time a cooldown ends
are left out: nothing that picks an executor reads them. -/

namespace Harness

open Lib

/-- Double-precision numbers, as far as the scheduler computes with them. -/
structure Doubles (D : Type) where
  /-- `a as f64 / b as f64`; the literals of the source are such quotients. -/
  ratio : ℕ → ℕ → D
  (add sub mul : D → D → D)
  lt : D → D → Bool

structure ExecutorEntry (D : Type) where
  (executorType executor : String)
  (supportedTaskTypes supportedTaskDomains : List String)
  (requiresCli available : Bool)
  (activeCount concurrencyLimit : ℕ)
  coolingDown : Bool
  failureScore : D
  (totalExecutions successfulExecutions failedExecutions : ℕ)

abbrev ExecutorPool (D : Type) := Table (ExecutorEntry.executorType (D := D))

def langgraphExternal : String := "langgraph_external"

def opencodeExternal : String := "opencode_external"

def taskTypeRequiresExactCapability (taskType : String) : Bool :=
  taskType ∈ ["agent_step", "adaptive_provider", "managed_deepseek", "command", "claude_code_cli",
    "codex_cli", langgraphExternal, opencodeExternal]

namespace ExecutorEntry

variable {D : Type} (d : Doubles D) (e : ExecutorEntry D)

def hasSlot : Bool := e.available && e.activeCount < e.concurrencyLimit && !e.coolingDown

/-- `success_rate * (1.0 - failure_score)`. -/
def score : D :=
  let successRate :=
    if 0 < e.totalExecutions then d.ratio e.successfulExecutions e.totalExecutions else d.ratio 1 1
  d.mul successRate (d.sub (d.ratio 1 1) e.failureScore)

/-- The entry after an execution: its failure score decays, and one that is too high takes the
executor out for a while. -/
def record (success : Bool) : ExecutorEntry D :=
  let score := d.add (d.mul e.failureScore (d.ratio 19 20)) (if success then d.ratio 0 1 else d.ratio 1 5)
  let score := if d.lt score (d.ratio 0 1) then d.ratio 0 1
    else if d.lt (d.ratio 1 1) score then d.ratio 1 1 else score
  let cools := !d.lt score (d.ratio 4 5)
  { e with
    activeCount := e.activeCount - 1
    totalExecutions := e.totalExecutions + 1
    successfulExecutions := e.successfulExecutions + if success then 1 else 0
    failedExecutions := e.failedExecutions + if success then 0 else 1
    failureScore := score
    available := e.available && !cools
    coolingDown := e.coolingDown || cools }

end ExecutorEntry

namespace ExecutorPool

variable {D : Type} (d : Doubles D) (pool : ExecutorPool D)

variable (executorType : String)

def get : Option String :=
  (pool.find? executorType).map ExecutorEntry.executor

/-- Take a slot, if there is one. -/
def acquire : Option (ExecutorPool D) :=
  if (pool.find? executorType).any ExecutorEntry.hasSlot then
    some (pool.modify executorType fun e => { e with activeCount := e.activeCount + 1 })
  else none

def release (success : Bool) : ExecutorPool D :=
  pool.modify executorType (ExecutorEntry.record d · success)

def releaseWithoutRecording : ExecutorPool D :=
  pool.modify executorType fun e => { e with activeCount := e.activeCount - 1 }

/-- The first of the entries in an order; entries the order does not tell apart are taken in
the order of their types. -/
def best (before : ExecutorEntry D → ExecutorEntry D → Bool) (candidates : List (ExecutorEntry D)) :
    Option String :=
  (candidates.insertionSort fun a b => before a b ∨ ¬ before b a ∧ a.executorType ≤ b.executorType).head?.map
    ExecutorEntry.executorType

/-- Entries made for the task type come first, then those made for the domain, then the better
scores. -/
def bestForTask (taskType taskDomain : String) : Option String :=
  best (fun a b =>
      let typed (e : ExecutorEntry D) := e.supportedTaskTypes ≠ []
      let domained (e : ExecutorEntry D) := e.supportedTaskDomains ≠ []
      if typed a ≠ typed b then typed a
      else if domained a ≠ domained b then domained a
      else d.lt (b.score d) (a.score d))
    (pool.rows.filter fun e => e.hasSlot &&
      ((!taskTypeRequiresExactCapability taskType && e.supportedTaskTypes.isEmpty) ||
        e.supportedTaskTypes.contains taskType) &&
      (e.supportedTaskDomains.isEmpty || e.supportedTaskDomains.contains taskDomain))

def supportsTask (executorType taskType taskDomain : String) (allowCliDomainRoute : Bool) : Bool :=
  (pool.find? executorType).any fun e =>
    (e.supportedTaskTypes.isEmpty || e.supportedTaskTypes.contains taskType ||
      (allowCliDomainRoute && e.requiresCli)) &&
    (e.supportedTaskDomains.isEmpty || e.supportedTaskDomains.contains taskDomain)

def bestCliForDomain (taskDomain : String) : Option String :=
  best (fun a b => d.lt (b.score d) (a.score d))
    (pool.rows.filter fun e => e.requiresCli && e.supportedTaskDomains.contains taskDomain && e.hasSlot)

def hasCliForDomain (taskDomain : String) : Bool :=
  pool.rows.any fun e => e.requiresCli && e.supportedTaskDomains.contains taskDomain

end ExecutorPool

structure SchedulerExecutorRoute where
  (taskType taskDomain : String)
  suggestedExecutor : Option String
  (required cliWorkspaceBound : Bool)

/-- The executor of a tick: the slot it holds, if any, and what runs. -/
structure SelectedExecutor (D : Type) where
  acquiredType : Option String
  executor : String
  pool : ExecutorPool D

def isLegacyDynamic (executorType : String) : Bool :=
  executorType ∈ ["dynamic", "dynamic_noop", "dynamic_workflow"]

namespace ExecutorPool

variable {D : Type} (d : Doubles D) (pool : ExecutorPool D)

/-- Run without a slot. -/
def unpooled (executor : String) : SelectedExecutor D := ⟨none, executor, pool⟩

/-- Stand in for an executor that is not there: it fails every node. -/
def unavailable : SelectedExecutor D := pool.unpooled "fail"

/-- Take a slot of an executor of the pool. -/
def acquired (executorType executor : String) : Option (SelectedExecutor D) :=
  (pool.acquire executorType).map fun pool => ⟨some executorType, executor, pool⟩

variable (executorType configured : String)

/-- The executor when no ready node gives a route. -/
def selectUnrouted : Option (SelectedExecutor D) :=
  if isLegacyDynamic executorType then
    match (pool.bestForTask d "scheduler" "auto").bind fun best =>
      (pool.get best).bind (pool.acquired best) with
    | some selected => some selected
    | none => if pool.rows.isEmpty then some (pool.unpooled configured) else none
  else some pool.unavailable

/-- Whether a task of the domain may go to a command-line executor made for it. -/
def allowCliDomainRoute (route : SchedulerExecutorRoute) : Bool :=
  route.cliWorkspaceBound && (route.taskDomain = "code" || route.taskDomain = "architecture") &&
    !(route.taskType ∈ ["agent_step", "adaptive_provider", "command", "claude_code_cli", "codex_cli",
      langgraphExternal, opencodeExternal])

/-- The executor when the route's own suggestion decides nothing. -/
def selectBest (route : SchedulerExecutorRoute) : Option (SelectedExecutor D) :=
  let best :=
    if allowCliDomainRoute route then pool.bestCliForDomain d route.taskDomain
    else if isLegacyDynamic executorType || route.taskType = "command" ||
        route.taskType = "local_runner_validation" then
      pool.bestForTask d route.taskType route.taskDomain
    else none
  match best.bind fun best => (pool.get best).bind (pool.acquired best) with
  | some selected => some selected
  | none =>
    if allowCliDomainRoute route && pool.hasCliForDomain route.taskDomain then none
    else if isLegacyDynamic executorType then
      if pool.rows.isEmpty then some (pool.unpooled configured) else none
    else some pool.unavailable

def selectRouted (route : SchedulerExecutorRoute) : Option (SelectedExecutor D) :=
  match route.suggestedExecutor with
  | none => pool.selectBest d executorType configured route
  | some suggested =>
    let cli := suggested = "claude_code_cli" || suggested = "codex_cli"
    let fixture := suggested = "noop" || suggested = "stub" || suggested = "fail"
    if cli && !route.cliWorkspaceBound then some pool.unavailable
    else
      match if (!fixture || route.taskType = suggested) && pool.supportsTask suggested route.taskType
          route.taskDomain (allowCliDomainRoute route) then pool.get suggested else none with
      | some executor => pool.acquired suggested executor
      | none =>
        if route.required then some pool.unavailable
        else pool.selectBest d executorType configured route

/-- `select_scheduler_executor`. -/
def selectSchedulerExecutor (route : Option SchedulerExecutorRoute) : Option (SelectedExecutor D) :=
  if (route.bind SchedulerExecutorRoute.suggestedExecutor) = some "agent_step" then
    (pool.get "agent_step").bind (pool.acquired "agent_step")
  else if executorType = "adaptive_provider" then some (pool.unpooled configured)
  else if !(isLegacyDynamic executorType || executorType = "auto" || executorType = "pool") then
    match pool.get executorType with
    | some executor => pool.acquired executorType executor
    | none => some (pool.unpooled configured)
  else
    match route with
    | none => pool.selectUnrouted d executorType configured
    | some route => pool.selectRouted d executorType configured route

end ExecutorPool

end Harness
