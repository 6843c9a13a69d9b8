import Harness.Proofs.RowsRefineTree
import Harness.Sanity.PauseReasons

/-! A cancelled run. A lease does not touch it and a recovery of stale leases never writes the
status of a run, but the settlement of a node that was under way writes it without a look at
what it was, as soon as nothing of the run is left to do. -/

namespace Harness

open Lib NodeRow RecursiveTree WorkflowStore Option WorkflowGraph

variable {x : Externals} {mint : Mint}
  {s s' s₂ : WorkflowStore} {runId : String} {q : Settlement} {row r : NodeRow}

variable {writable : Bool} {json : NodeJson} {status : NodeStatus} {runId' j : String}

lemma runStatus_updateRunStatus {status : RunStatus} :
    runStatus (s.updateRunStatus runId status) runId' =
      if runId' = runId then (runStatus s runId').map fun _ => status else runStatus s runId' := by
  unfold runStatus updateRunStatus
  rw [Table.find?_modify]
  split_ifs
  · cases s.runs.find? runId' <;> rfl
  · rfl

/-- What the end of a transaction makes of the status of the run: nothing as long as a node is
left that is neither done nor cut off by a failure. -/
lemma runStatus_finishRun_of_left (hr : r ∈ s.rowsOf runId) (hopen : r.status.done = false)
    (hsafe : ¬ s.Doomed runId r) : runStatus (s.finishRun runId).2 runId = runStatus s runId := by
  have hnot : ((s.propagateFailedDependencies runId).checkRunCompletion runId).1 ≠ true := by
    rw [Ne, done_propagate_iff]
    intro hall
    rcases hall r hr with hdone | hdoomed
    · rw [hopen] at hdone
      cases hdone
    · exact hsafe hdoomed
  unfold finishRun
  dsimp only
  split
  · rename_i hcheck
    exact absurd (congrArg Prod.fst hcheck) hnot
  · rfl

lemma runStatus_finishRun_of_done
    (hall : ∀ r ∈ s.rowsOf runId, r.status.done = true ∨ s.Doomed runId r) :
    runStatus (s.finishRun runId).2 runId ≠ some .cancelled := by
  have hdone := done_propagate_iff.mpr hall
  unfold finishRun
  dsimp only
  split
  · rename_i failed hcheck
    rw [runStatus_updateRunStatus, if_pos rfl]
    cases runStatus _ runId with
    | none => exact nofun
    | some status => cases failed <;> exact nofun
  · rename_i hcheck
    rw [show (s.propagateFailedDependencies runId).checkRunCompletion runId = _ from hcheck] at hdone
    cases hdone

namespace WorkflowStore.Settlement

/-- The status that the result of a node outside every tree calls for. -/
def plainStatus (q : Settlement) : NodeStatus :=
  if q.output.status = "failed" && q.output.retryableDomain && (q.attempt : ℤ) ≤ q.maxRetries then .pending
  else NodeStatus.ofText q.output.status

/-- The result belongs to an attempt that is over. -/
def Stale (s : WorkflowStore) (q : Settlement) : Prop :=
  ∃ row, s.find? q.runId q.nodeId = some row ∧
    (row.status ≠ .running ∨ row.attemptCount ≠ q.attempt)

/-- With the row of the node at the status of its result, a node of the run is left that is
neither done nor cut off by a failure. -/
def LeavesPlainWork (s : WorkflowStore) (q : Settlement) : Prop :=
  s.indexedRecursiveRoot q.runId q.nodeId = none ∧
    ∃ r ∈ (settlingStore s q q.plainStatus).rowsOf q.runId, r.status.done = false ∧
      ¬ (settlingStore s q q.plainStatus).Doomed q.runId r

/-- Another node of the run is under way outside the tree, or in a status that no settlement
of another node ends. -/
def LeavesOtherWork (s : WorkflowStore) (q : Settlement) : Prop :=
  ∃ r ∈ s.rowsOf q.runId, r.nodeId ≠ q.nodeId ∧ r.status.done = false ∧ r.status ≠ .pending ∧
    (r.status = .running → s.indexedRecursiveRoot q.runId r.nodeId = none)

/-- The run is not done after this result. -/
def LeavesWork (s : WorkflowStore) (q : Settlement) : Prop :=
  q.Stale s ∨ q.LeavesPlainWork s ∨ q.LeavesOtherWork s

end WorkflowStore.Settlement

/-- A node outside the index has the status its result calls for. -/
lemma actualStatus_plain {identity : RecursiveCompletionIdentity}
    {usage : RecursiveBudget × Option String} {reason : Option RecursiveFailureReason}
    {shouldRetry : Bool}
    (hid : resolveRecursiveCompletionIdentity q.nodeId row.nodeJson
        (s.indexedRecursiveRoot q.runId q.nodeId) q.env.recursiveEnabled = .ok identity)
    (husage : recursiveUsage identity row.nodeJson q.output = .ok (usage, reason))
    (hretry : (if requestedRetry q identity reason && identity.recursiveNodeId.isSome then
          s.recursiveRetryAllowed x mint q.env q.runId q.nodeId usage.1
        else .ok (requestedRetry q identity reason)) = .ok shouldRetry)
    (hindex : s.indexedRecursiveRoot q.runId q.nodeId = none) :
    actualStatus q reason shouldRetry = q.plainStatus := by
  have hnone : identity.recursiveNodeId = none ∧ identity.terminalReason = none := by
    unfold resolveRecursiveCompletionIdentity at hid
    rw [hindex] at hid
    dsimp only at hid
    split at hid
    · cases hid
    · cases hid
      exact ⟨rfl, rfl⟩
  unfold recursiveUsage at husage
  rw [hnone.1, hnone.2] at husage
  cases husage
  rw [hnone.1, isSome_none, Bool.and_false, if_neg Bool.false_ne_true] at hretry
  cases hretry
  unfold actualStatus requestedRetry Settlement.plainStatus
  rw [hnone.1]
  rfl

/-- The rows of the settled store have the statuses of the settling one. -/
lemma statuses_plain :
    ((settledStore (settlingStore s q status) q writable json status).find? q.runId j).map
        NodeRow.status = ((settlingStore s q status).find? q.runId j).map NodeRow.status := by
  rw [find?_settledStore]
  split_ifs with hj
  · unfold settlingStore
    rw [find?_modifyNode, if_pos ⟨rfl, hj.2⟩]
    cases s.find? q.runId j <;> rfl
  · rfl

lemma find?_status {a : WorkflowStore} (h : (a.find? q.runId j).map NodeRow.status = some status) :
    ∃ r, a.find? q.runId j = some r ∧ r.status = status := map_eq_some_iff.mp h

/-- A plain settlement finishes the run exactly if it leaves no work. -/
lemma left_plain_iff :
    (∃ r ∈ (settledStore (settlingStore s q status) q writable json status).rowsOf q.runId,
      r.status.done = false ∧
      ¬ (settledStore (settlingStore s q status) q writable json status).Doomed q.runId r) ↔
    ∃ r ∈ (settlingStore s q status).rowsOf q.runId,
      r.status.done = false ∧ ¬ (settlingStore s q status).Doomed q.runId r := by
  have htransfer : ∀ {a b : WorkflowStore}, b.edges = a.edges →
      (∀ j, (b.find? q.runId j).map NodeRow.status = (a.find? q.runId j).map NodeRow.status) →
      (∃ r ∈ a.rowsOf q.runId, r.status.done = false ∧ ¬ a.Doomed q.runId r) →
      ∃ r ∈ b.rowsOf q.runId, r.status.done = false ∧ ¬ b.Doomed q.runId r := by
    rintro a b hedges hstatus ⟨r, hr, hopen, hsafe⟩
    have hfind := mem_rowsOf.mp hr
    obtain ⟨r', hr', hsame⟩ := find?_status (q := q) ((hstatus r.nodeId).trans
      (congrArg (Option.map NodeRow.status) hfind))
    have hid := (find?_run hr').2
    refine ⟨r', mem_rowsOf.mpr (by rw [hid]; exact hr'), by rw [hsame]; exact hopen,
      fun hdoomed => hsafe ?_⟩
    obtain ⟨r'', hr'', hdoomed⟩ := hdoomed.congr a.toWorkflowGraph hedges.symm
      fun j c hc => find?_status (q := q) ((hstatus j).symm.trans
        (congrArg (Option.map NodeRow.status) hc))
    rw [hid] at hr''
    cases hfind.symm.trans hr''
    exact hdoomed
  exact ⟨htransfer rfl fun j => statuses_plain.symm, htransfer rfl fun j => statuses_plain⟩

/-- Work that a settlement does not end. -/
lemma left_settled {outcome : RecursiveNodeStatus} {p t : RecursiveTree} {actual : NodeStatus}
    (hleft : q.LeavesOtherWork s)
    (hended : AttemptEnded x q.nodeId q.runId outcome p (settlingStore s q actual) s₂ t) :
    ∃ r ∈ (settledStore s₂ q writable json status).rowsOf q.runId, r.status.done = false ∧
      ¬ (settledStore s₂ q writable json status).Doomed q.runId r := by
  obtain ⟨r, hr, hne, hopen, hpending, hrunning⟩ := hleft
  have hfind := mem_rowsOf.mp hr
  have hfirst : (settlingStore s q actual).find? q.runId r.nodeId = some r := by
    unfold settlingStore
    rw [find?_modifyNode, if_neg fun h => hne h.2]
    exact hfind
  have hsecond : s₂.find? q.runId r.nodeId = some r := by
    by_cases hrun : r.status = .running
    · rw [hended.moved.outside r.nodeId (find?_of_index_none (hrunning hrun) hended.stored), hfirst]
    · obtain ⟨r', hr', hfailing⟩ := Table.Rel.find?_some' hended.moved.rows
        (fun _ _ h => h.closing.sameAttempt.key) hfirst
      cases hfailing with
      | same => exact hr'
      | failed _ hlive _ =>
        rcases live_eq_true.mp hlive with h | h
        · exact absurd h hpending
        · exact absurd h hrun
  refine ⟨r, mem_rowsOf.mpr ?_, hopen, fun hdoomed => hpending hdoomed.pending⟩
  rw [find?_settledStore, if_neg fun h => hne h.2]
  exact hsecond

lemma left_plain_of_other (hleft : q.LeavesOtherWork s) :
    ∃ r ∈ (settlingStore s q status).rowsOf q.runId, r.status.done = false ∧
      ¬ (settlingStore s q status).Doomed q.runId r := by
  obtain ⟨r, hr, hne, hopen, hpending, -⟩ := hleft
  refine ⟨r, mem_rowsOf.mpr ?_, hopen, fun hdoomed => hpending hdoomed.pending⟩
  unfold settlingStore
  rw [find?_modifyNode, if_neg fun h => hne h.2]
  exact mem_rowsOf.mp hr

/-- What a settlement makes of the status of its run. For a node outside every tree the
condition is exact. -/
lemma runStatus_settlePhase (h : s.settlePhase x mint q = .ok s')
    (hstatus : runStatus s q.runId = some .cancelled) :
    (q.LeavesWork s → runStatus s' q.runId = some .cancelled) ∧
      (s.indexedRecursiveRoot q.runId q.nodeId = none → runStatus s' q.runId = some .cancelled →
        q.LeavesWork s) := by
  obtain ⟨row, identity, usage, reason, hrow, hid, husage, shouldRetry, hretry, h⟩ := settlePhase_cases h
  rcases settleDecided_cases h with ⟨hstale, rfl⟩ | ⟨hrun, hattempt, status, s₂, hsettled, rfl⟩
  · refine ⟨fun _ => ?_, fun _ _ => .inl ⟨row, hrow, hstale⟩⟩
    rcases settleStale_cases reason with h | ⟨-, -, result, h⟩
    · rw [h, hstatus]
    · rw [runStatus_congr (lateUsage_synced h).2.1, hstatus]
  · have hnotStale : ¬ q.Stale s := by
      rintro ⟨row', hrow', hne⟩
      cases hrow.symm.trans hrow'
      rcases hne with hne | hne
      · exact hne hrun
      · exact hne hattempt
    rcases hsettled.cases hid with ⟨hindex, hactual, rfl⟩ | ⟨outcome, p, t, hended, rfl, hsome, -⟩
    · have hplain : status = q.plainStatus :=
        hactual.trans (actualStatus_plain hid husage hretry hindex)
      constructor
      · rintro (hstale | ⟨-, hleft⟩ | hother)
        · exact absurd hstale hnotStale
        · rw [← hplain] at hleft
          obtain ⟨r, hr, hopen, hsafe⟩ := left_plain_iff.mpr hleft
          exact (runStatus_finishRun_of_left hr hopen hsafe).trans hstatus
        · obtain ⟨r, hr, hopen, hsafe⟩ := left_plain_iff.mpr (left_plain_of_other hother)
          exact (runStatus_finishRun_of_left hr hopen hsafe).trans hstatus
      · intro _ hkept
        refine .inr (.inl ⟨hindex, ?_⟩)
        rw [← hplain, ← left_plain_iff]
        by_contra hnone
        refine runStatus_finishRun_of_done (fun r hr => ?_) hkept
        by_contra hboth
        obtain ⟨hopen, hsafe⟩ := not_or.mp hboth
        exact hnone ⟨r, hr, by simpa using hopen, hsafe⟩
    · obtain ⟨rootId, hindex, -⟩ := resolved_index hid hsome
      constructor
      · rintro (hstale | ⟨hnone, -⟩ | hother)
        · exact absurd hstale hnotStale
        · rw [hindex] at hnone
          cases hnone
        · obtain ⟨r, hr, hopen, hsafe⟩ := left_settled
            hother hended
          refine (runStatus_finishRun_of_left hr hopen hsafe).trans ?_
          exact (runStatus_congr hended.moved.synced.runs).trans hstatus
      · intro hnone
        rw [hindex] at hnone
        cases hnone

/-- A lease is refused on a run that is over, and writes no other run's status. -/
lemma runStatus_leasePhase {q : LeaseRequest} {result : LeaseResult}
    (h : s.leasePhase x mint q = .ok (result, s'))
    (hstatus : runStatus s runId = some .cancelled) : runStatus s' runId = some .cancelled := by
  obtain ⟨run, hrun, -, hopen, -⟩ := leasePhase_cases h
  have hne : runId ≠ q.runId := by
    rintro rfl
    rw [runStatus, hrun, map_some, some_inj] at hstatus
    rw [hstatus] at hopen
    cases hopen
  exact ((WritesStatus.leasePhase h).status runId hne).trans hstatus

/-- At each settlement of the run along these transactions there is work left. -/
def WorkLeft (x : Externals)
    (mint : Mint) (runId : String) :
    WorkflowStore → List WorkflowStep → Prop
  | _, [] => True
  | s, step :: steps => (∀ q, step = .settle q → q.runId = runId → q.LeavesWork s) ∧
      WorkLeft x mint runId (step.take x mint s).1 steps

lemma runStatus_take {step : WorkflowStep} (hstatus : runStatus s runId = some .cancelled)
    (hleft : ∀ q, step = .settle q → q.runId = runId → q.LeavesWork s) :
    runStatus (step.take x mint s).1 runId = some .cancelled := by
  rcases step.take_cases x mint s with
    h | ⟨q, result, -, h⟩ | ⟨q, hq, h⟩ | ⟨q, -, h⟩
  · rw [h, hstatus]
  · exact runStatus_leasePhase h hstatus
  · by_cases hne : runId = q.runId
    · subst hne
      exact (runStatus_settlePhase h hstatus).1 (hleft q hq rfl)
    · exact ((WritesStatus.settlePhase h).status runId hne).trans hstatus
  · rw [runStatus_congr (runs_recoverStaleLeases h), hstatus]

lemma runStatus_playSteps {steps : List WorkflowStep}
    (hstatus : runStatus s runId = some .cancelled) (hleft : WorkLeft x mint runId s steps) :
    runStatus (playSteps x mint s steps) runId = some .cancelled := by
  induction steps generalizing s with
  | nil => exact hstatus
  | cons step steps ih => exact ih (runStatus_take hstatus hleft.1) hleft.2

lemma runStatus_cancel (h : s.requestWorkflowRunCancel runId = .ok s') :
    runStatus s' runId = some .cancelled := by
  unfold requestWorkflowRunCancel updateRunStatusWithEvent at h
  cases hrun : s.runs.find? runId with
  | none => simp [hrun] at h
  | some run =>
    rw [hrun] at h
    obtain ⟨-, -, h⟩ := bind_ok h
    cases h
    rw [runStatus_updateRunStatus, if_pos rfl, runStatus, hrun]
    rfl

/-- A cancelled run stays cancelled along every sequence of leases, settlements and recoveries
in which each settlement of the run leaves work. The next settlement of a node outside every
tree keeps it so exactly if it leaves work. -/
theorem cancelled_stays (s₁ : WorkflowStore) (hcancel : s.requestWorkflowRunCancel runId = .ok s₁)
    (steps : List WorkflowStep) (hleft : WorkLeft x mint runId s₁ steps) :
    runStatus (playSteps x mint s₁ steps) runId = some .cancelled ∧
      ∀ q s', q.runId = runId →
        (playSteps x mint s₁ steps).settlePhase x mint q = .ok s' →
        (playSteps x mint s₁ steps).indexedRecursiveRoot runId q.nodeId = none →
        (runStatus s' runId = some .cancelled ↔
          q.LeavesWork (playSteps x mint s₁ steps)) := by
  have hstatus := runStatus_playSteps (runStatus_cancel hcancel) hleft
  refine ⟨hstatus, ?_⟩
  rintro q s' rfl h hindex
  obtain ⟨hkeeps, hexact⟩ := runStatus_settlePhase h hstatus
  exact ⟨hexact hindex, hkeeps⟩

/-! Two nodes under way when the run is cancelled. -/

def busyRow (nodeId : String) : NodeRow :=
  { plainRow nodeId "unit" .running with attemptCount := 1, leasedAt := some "10:00" }

def busyStore (nodeIds : List String) : WorkflowStore := plainStore (nodeIds.map busyRow) []

def cancelled (nodeIds : List String) : WorkflowStore :=
  (busyStore nodeIds).updateRunStatus "run-1" .cancelled

theorem cancelled_stays_sample :
    runStatus (playSteps sampleExternals (fun _ _ _ _ _ => "") (cancelled ["a", "b"])
      [.settle (plainSettlement "a" 1 "completed"), .settle (plainSettlement "a" 1 "failed")])
      "run-1" = some .cancelled := by
  refine (cancelled_stays (s := busyStore ["a", "b"]) (cancelled ["a", "b"]) (by rfl) _ ?_).1
  refine ⟨?_, ?_, trivial⟩
  · rintro q hq -
    cases hq
    exact .inr (.inr ⟨busyRow "b", of_decide_eq_true rfl, by decide, by decide, by decide, fun _ => rfl⟩)
  · rintro q hq -
    cases hq
    refine .inl ?_
    have hrow : (((WorkflowStep.settle (plainSettlement "a" 1 "completed")).take sampleExternals
        (fun _ _ _ _ _ => "") (cancelled ["a", "b"])).1.find? "run-1" "a").map NodeRow.status =
        some .completed := by rfl
    obtain ⟨row, hrow, hstatus⟩ := map_eq_some_iff.mp hrow
    exact ⟨row, hrow, .inl (by rw [hstatus]; decide)⟩

/-- The run is cancelled while its only node is under way; the node completes, and so does
the run. -/
theorem cancelled_completes_sample :
    (busyStore ["a"]).requestWorkflowRunCancel "run-1" = .ok (cancelled ["a"]) ∧
      ((cancelled ["a"]).settlePhase sampleExternals (fun _ _ _ _ _ => "")
        (plainSettlement "a" 1 "completed")).toOption.map (runStatus · "run-1") =
          some (some .completed) ∧
      ((cancelled ["a"]).settlePhase sampleExternals (fun _ _ _ _ _ => "")
        (plainSettlement "a" 1 "failed")).toOption.map (runStatus · "run-1") =
          some (some .failed) :=
  ⟨by rfl, by rfl, by rfl⟩

end Harness
