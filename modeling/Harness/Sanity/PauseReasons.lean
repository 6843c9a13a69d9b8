import Harness.Sanity.WorkflowSteps

/-! The pause of a run through the transactions of a tick. Leases and settlements write the status
of their own run only, recoveries that of none, so the reason for a pause stays what it was. -/

namespace Harness

open Lib WorkflowStore

variable {x : Externals} {mint : Mint}
  {s s' s₁ : WorkflowStore} {runId : String}

def WorkflowStore.pauseReasonOf (s : WorkflowStore) (runId : String) : Option String :=
  (s.runs.find? runId).bind RunRecord.pauseReason

def runStatus (s : WorkflowStore) (runId : String) : Option RunStatus :=
  (s.runs.find? runId).map RunRecord.status

lemma pauseReasonOf_congr (h : s'.runs = s.runs) :
    s'.pauseReasonOf runId = s.pauseReasonOf runId := by
  unfold pauseReasonOf
  rw [h]

lemma runStatus_congr (h : s'.runs = s.runs) : runStatus s' runId = runStatus s runId := by
  unfold runStatus
  rw [h]

variable {q : Recovery}

/-- Of the runs nothing is written but the status of one. -/
structure WritesStatus (runId : String) (s s' : WorkflowStore) : Prop where
  pause : ∀ id, s'.pauseReasonOf id = s.pauseReasonOf id
  status : ∀ id, id ≠ runId → runStatus s' id = runStatus s id

namespace WritesStatus

lemma of_runs (h : s'.runs = s.runs) : WritesStatus runId s s' :=
  ⟨fun _ => pauseReasonOf_congr h, fun _ _ => runStatus_congr h⟩

lemma trans (h : WritesStatus runId s s₁) (h' : WritesStatus runId s₁ s') :
    WritesStatus runId s s' :=
  ⟨fun id => (h'.pause id).trans (h.pause id),
    fun id hne => (h'.status id hne).trans (h.status id hne)⟩

lemma updateRunStatus {status : RunStatus} :
    WritesStatus runId s (s.updateRunStatus runId status) := by
  unfold WorkflowStore.updateRunStatus
  refine ⟨fun id => ?_, fun id hne => ?_⟩
  · unfold pauseReasonOf
    rw [Table.find?_modify]
    split_ifs
    · cases s.runs.find? id <;> rfl
    · rfl
  · unfold runStatus
    rw [Table.find?_modify, if_neg hne]

lemma finishRun : WritesStatus runId s (s.finishRun runId).2 := by
  unfold WorkflowStore.finishRun
  dsimp only
  split
  · have hgraph : WritesStatus runId s
        { s with toWorkflowGraph := s.propagateFailedDependencies runId } := of_runs rfl
    exact hgraph.trans updateRunStatus
  · exact of_runs rfl

lemma startedStore {q : LeaseRequest} {run : RunRecord} :
    WritesStatus q.runId s (startedStore s q run) := by
  unfold Harness.startedStore
  split_ifs
  · exact updateRunStatus
  · exact of_runs rfl

lemma leasePhase {q : LeaseRequest} {result : LeaseResult}
    (h : s.leasePhase x mint q = .ok (result, s')) : WritesStatus q.runId s s' := by
  obtain ⟨run, -, -, -, ⟨-, rfl, -⟩ | ⟨r, -, ⟨-, rfl, -⟩ | ⟨-, -, hlease⟩⟩⟩ := leasePhase_cases h
  · exact startedStore.trans finishRun
  · exact startedStore
  · exact startedStore.trans (of_runs (leaseRecursive_eq_ok hlease).2.1)

lemma settlePhase {q : Settlement} (h : s.settlePhase x mint q = .ok s') :
    WritesStatus q.runId s s' := by
  obtain ⟨row, identity, usage, reason, -, hid, -, shouldRetry, -, h⟩ := settlePhase_cases h
  rcases settleDecided_cases h with ⟨-, rfl⟩ | ⟨-, -, status, s₂, hsettled, rfl⟩
  · rcases settleStale_cases reason with h | ⟨-, -, result, h⟩
    · rw [h]
      exact of_runs rfl
    · exact of_runs (lateUsage_synced h).2.1
  · refine trans ?_ finishRun
    rcases hsettled.cases hid with ⟨-, -, rfl⟩ | ⟨outcome, p, t, hended, -⟩
    · exact of_runs rfl
    · exact of_runs hended.moved.synced.runs

end WritesStatus

lemma runs_recoverNode {stale : NodeRow} (h : recoverNode x mint q s stale = .ok s') :
    s'.runs = s.runs := by
  rcases recoverNode_cases h with ⟨rfl, -⟩ | ⟨row, identity, retry, -, hid, hretry, -, -, h⟩
  · rfl
  · rcases recoverTree_cases hid hretry h with ⟨rfl, -⟩ | ⟨outcome, p, t, hended, -⟩
    · rfl
    · exact hended.moved.synced.runs

lemma runs_recoverStaleLeases (h : s.recoverStaleLeases x mint q = .ok s') : s'.runs = s.runs :=
  foldlM_induction (P := fun u => u.runs = s.runs)
    (fun _ _ _ hu hstep => (runs_recoverNode hstep).trans hu) rfl h

end Harness
