import Harness.Proofs.Fencing
import Harness.Spec.Scheduler

/-! What a call of the scheduler takes: for each turn at most one slot of the pool, and runs from a
queue in which none comes twice. -/

namespace Harness

open List

open Lib WorkflowStore

variable {D : Type} {d : Doubles D} {cfg : SchedulerConfig D} {w : SchedulerWorld}

/-- What the executor holds of the pool: nothing, or one slot of its type. -/
def SelectedExecutor.From (pool : ExecutorPool D) (selected : SelectedExecutor D) : Prop :=
  (selected.acquiredType = none ∧ selected.pool = pool) ∨
    ∃ executorType, selected.acquiredType = some executorType ∧
      pool.acquire executorType = some selected.pool

namespace ExecutorPool

variable {pool pool' : ExecutorPool D} {executorType configured executor : String}
  {selected : SelectedExecutor D}

lemma from_unpooled : (pool.unpooled executor).From pool :=
  .inl ⟨rfl, rfl⟩

lemma from_acquired (h : pool.acquired executorType executor = some selected) :
    selected.From pool := by
  obtain ⟨pool', hpool, rfl⟩ := Option.map_eq_some_iff.mp h
  exact .inr ⟨executorType, rfl, hpool⟩

/-- The slot of an executor that was looked up first. -/
lemma from_get {best : Option String}
    (h : (best.bind fun best => (pool.get best).bind (pool.acquired best)) = some selected) :
    selected.From pool := by
  obtain ⟨best, -, h⟩ := Option.bind_eq_some_iff.mp h
  obtain ⟨executor, -, h⟩ := Option.bind_eq_some_iff.mp h
  exact from_acquired h

lemma from_selectUnrouted (h : pool.selectUnrouted d executorType configured = some selected) :
    selected.From pool := by
  unfold selectUnrouted at h
  split at h
  · split at h
    · rename_i hbest
      cases h
      exact from_get hbest
    · split_ifs at h
      cases h
      exact from_unpooled
  · cases h
    exact from_unpooled

lemma from_selectBest {route : SchedulerExecutorRoute}
    (h : pool.selectBest d executorType configured route = some selected) : selected.From pool := by
  unfold selectBest at h
  dsimp only at h
  split at h
  · rename_i hbest
    cases h
    exact from_get hbest
  · split_ifs at h
    · cases h
      exact from_unpooled
    · cases h
      exact from_unpooled

lemma from_selectRouted {route : SchedulerExecutorRoute}
    (h : pool.selectRouted d executorType configured route = some selected) :
    selected.From pool := by
  unfold selectRouted at h
  split at h
  · exact from_selectBest h
  · dsimp only at h
    split at h
    · cases h
      exact from_unpooled
    · split at h
      · exact from_acquired h
      · split_ifs at h
        · cases h
          exact from_unpooled
        · exact from_selectBest h

lemma from_select {route : Option SchedulerExecutorRoute}
    (h : pool.selectSchedulerExecutor d executorType configured route = some selected) :
    selected.From pool := by
  unfold selectSchedulerExecutor at h
  split at h
  · obtain ⟨executor, -, h⟩ := Option.bind_eq_some_iff.mp h
    exact from_acquired h
  · split at h
    · cases h
      exact from_unpooled
    · split at h
      · split at h
        · exact from_acquired h
        · cases h
          exact from_unpooled
      · split at h
        · exact from_selectUnrouted h
        · exact from_selectRouted h

end ExecutorPool

lemma nodup_runIds (runs : Table RunRecord.runId) (p : RunRecord → Bool)
    (r : RunRecord → RunRecord → Prop) [DecidableRel r] (p' : RunRecord → Bool) :
    ((((runs.rows.filter p).insertionSort r).filter p').map RunRecord.runId).Nodup := by
  have hperm := (perm_insertionSort r (runs.rows.filter p)).map RunRecord.runId
  refine List.Nodup.sublist (filter_sublist.map RunRecord.runId) (hperm.nodup_iff.mpr ?_)
  exact runs.keys_nodup.sublist (filter_sublist.map RunRecord.runId)

lemma nodup_activeRuns (s : WorkflowStore) : (runQueue cfg w s).activeRuns.Nodup := by
  unfold runQueue
  split_ifs
  · exact nodup_runIds s.runs _ _ _
  · have h := nodup_runIds s.runs (fun r => r.isActive && r.pauseReason.isNone)
      (fun a b => (w.columns a.runId).runSequence ≤ (w.columns b.runId).runSequence) fun _ => true
    rwa [filter_true] at h

lemma runsToPause_of_none {queue : RunQueue} :
    (backpressureDecision d cfg w queue none).runsToPause = [] := by
  unfold backpressureDecision Backpressure.evaluate
  dsimp only [Option.getD_none, length_nil]
  split_ifs <;> rfl

/-! A scheduler with one slot, used in the examples about whole calls. -/

def fractions : Doubles (ℕ × ℕ) where
  ratio a b := (a, b)
  add a b := (a.1 * b.2 + b.1 * a.2, a.2 * b.2)
  sub a b := (a.1 * b.2 - b.1 * a.2, a.2 * b.2)
  mul a b := (a.1 * b.1, a.2 * b.2)
  lt a b := a.1 * b.2 < b.1 * a.2

def sampleMint : Mint := fun _ _ _ _ _ => ""

def smallConfig : SchedulerConfig (ℕ × ℕ) where
  maxConcurrent := 1
  maxRetries := 0
  leaseTimeoutMs := 300000
  executorType := "noop"
  queueEnabled := true
  maxQueued := 100
  backpressureEnabled := true
  backpressureActivation := (4, 5)
  agentMaxConcurrentGlobal := 2
  agentMaxConcurrentPerRun := 1

/-- `longAgo` says whether the runs count as overdue. -/
def smallWorld (longAgo : Bool) : SchedulerWorld where
  env := sampleEnv
  now := "10:00"
  nowMs := 0
  columns runId := ⟨if runId = "run-1" then 1 else 2, 5, "09:00", some "09:00", 0⟩
  leaseExpired _ _ := false
  longAgo _ := longAgo
  recoverEvidence s := (.ok (), s)
  budgetPaused _ := false
  dynamicMode := false
  configured := "noop"
  planDomain _ := none
  boundWorkspace _ := none
  workspacePath _ _ := none
  nodeExecutor _ _ := none
  suggestExecutorType _ _ := none
  recordScorecard _ := .ok ()
  work _ _ _ _ := .ok ⟨"completed", "", true, .error "", none⟩
  controller s _ _ := ⟨s, [], .ok (false, 0, [])⟩

end Harness
