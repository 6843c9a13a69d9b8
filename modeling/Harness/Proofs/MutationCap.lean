import Harness.Lib.Trace
import Harness.Sanity.StoredGraph
import Harness.Spec.DynamicController

/-! The cap on the mutations of a run. The controller compares it with the number of proposed nodes,
or only with what has been applied before, while a batch writes one event for each node and for each
edge. -/

namespace Harness

open Lib List

def appliedEvents (r : DagRun) : ℕ := r.events.countP RunEvent.isApplied

variable {r r' : DagRun}

lemma appliedEvents_becomes {v : GraphView} {event : RunEvent} (h : r.Becomes v event r')
    (hevent : event.isApplied = false) : appliedEvents r' = appliedEvents r := by
  unfold appliedEvents
  rw [h.events, countP_append, countP_singleton, hevent]
  rfl

lemma appliedEvents_updateStatus {nodeId status : String}
    (h : r.updateWorkflowNodeStatus nodeId status = .ok r') :
    appliedEvents r' = appliedEvents r := by
  rcases r.updateWorkflowNodeStatus_cases nodeId status with ⟨-, -, r'', hok, hr'⟩ | ⟨-, e, herror⟩
  · cases (h.symm.trans hok)
    exact appliedEvents_becomes hr' rfl
  · cases h.symm.trans herror

lemma appliedEvents_persist {p : DAGMutationProposal} (h : r.persist p = .ok r') :
    appliedEvents r' = appliedEvents r := by
  unfold DagRun.persist at h
  split at h
  · rcases r.insertWorkflowNode_cases (proposedNode p) with ⟨_, _, -, -, hok, hr'⟩ | ⟨-, e, herror⟩
    · cases (h.symm.trans hok)
      exact appliedEvents_becomes hr' rfl
    · cases h.symm.trans herror
  · obtain ⟨removedEdges, hr'⟩ := r.removeWorkflowNode_becomes (p.targetNodeId.getD "")
    cases h
    exact appliedEvents_becomes hr' rfl
  · rcases r.insertWorkflowEdge_cases (proposedEdge p) with
      ⟨_, _, _, _, -, -, -, -, hok, hr'⟩ | ⟨-, e, herror⟩
    · cases (h.symm.trans hok)
      exact appliedEvents_becomes hr' rfl
    · cases h.symm.trans herror
  · cases h
    exact appliedEvents_becomes (r.removeWorkflowEdge_becomes (p.targetEdgeId.getD "")) rfl
  · rcases r.rewireWorkflowEdge_cases (p.targetEdgeId.getD "")
        with ⟨_, _, _, -, hok, hr'⟩ | ⟨-, e, herror⟩
    · cases (h.symm.trans hok)
      exact appliedEvents_becomes hr' rfl
    · cases h.symm.trans herror
  · exact appliedEvents_updateStatus h
  · cases h

lemma appliedEvents_batchStep (b : BatchState) (p : DAGMutationProposal) :
    appliedEvents (batchStep b p).run + appliedResults b.results =
        appliedEvents b.run + appliedResults (batchStep b p).results ∧
      appliedResults (batchStep b p).results ≤ appliedResults b.results + 1 := by
  unfold batchStep appliedResults
  split
  · rw [countP_append]
    exact ⟨rfl, Nat.le_succ _⟩
  · split
    · rw [countP_append]
      exact ⟨rfl, Nat.le_succ _⟩
    · next run hrun =>
      have hpersist := appliedEvents_persist hrun
      have hrecord : appliedEvents (run.record (.applied p.proposalId p.mutationType)) =
          appliedEvents run + 1 := by
        unfold appliedEvents DagRun.record
        rw [countP_append]
        rfl
      rw [countP_append, hrecord, hpersist]
      change _ + 1 + _ = _ + (_ + 1) ∧ _ + 1 ≤ _
      exact ⟨by omega, le_rfl⟩

/-- A batch leaves one event for each mutation that it reports as applied, and there are no more of
them than proposals. -/
lemma appliedEvents_batch (runId now : String) (r : DagRun) (proposals : List DAGMutationProposal) :
    appliedEvents (applyDagMutationsBatch runId now r proposals).run =
        appliedEvents r + appliedResults (applyDagMutationsBatch runId now r proposals).results ∧
      appliedResults (applyDagMutationsBatch runId now r proposals).results ≤ proposals.length := by
  have hfold : ∀ (proposals : List DAGMutationProposal) (b : BatchState),
      appliedEvents (proposals.foldl batchStep b).run + appliedResults b.results =
          appliedEvents b.run + appliedResults (proposals.foldl batchStep b).results ∧
        appliedResults (proposals.foldl batchStep b).results ≤
          appliedResults b.results + proposals.length := by
    intro proposals
    induction proposals with
    | nil => exact fun b => ⟨rfl, le_rfl⟩
    | cons p proposals ih =>
      intro b
      obtain ⟨hevents, hresults⟩ := appliedEvents_batchStep b p
      obtain ⟨hevents', hresults'⟩ := ih (batchStep b p)
      rw [foldl_cons, length_cons]
      omega
  obtain ⟨hevents, hresults⟩ := hfold proposals ⟨loadManager runId now r.toRunGraph, r, []⟩
  change _ + 0 = _ at hevents
  change _ ≤ 0 + _ at hresults
  rw [Nat.zero_add] at hresults
  exact ⟨hevents, hresults⟩

section Tick

variable {cfg : DynamicControllerConfig} {w : ControllerWorld} {runId : String}
  {P : TickState → Prop} {s : TickState}

/-- The two states differ in nothing that has to do with the cap. -/
structure SameCount (s s' : TickState) : Prop where
  total : s'.mutationsAppliedTotal = s.mutationsAppliedTotal
  events : appliedEvents s'.run.toDagRun = appliedEvents s.run.toDagRun

variable (cfg w runId P) in
/-- What is kept by the batches of a recovery, by those of a review, and by all that does not count,
is kept by the whole tick. -/
structure TickInvariant : Prop where
  quiet : ∀ s s', P s → SameCount s s' → P s'
  recover : ∀ s nodeId error nodes, P s → s.mutationsAppliedTotal < cfg.maxMutationsPerRun →
    (w.decompose (.testFailure nodeId error) nodes).length ≤
      cfg.maxMutationsPerRun - s.mutationsAppliedTotal →
    P (s.applyBatch w runId (nodeProposalsToDagMutations w.profileOf runId
      (w.decompose (.testFailure nodeId error) nodes)))
  review : ∀ s nodeId reason nodes, P s → s.mutationsAppliedTotal < cfg.maxMutationsPerRun →
    P (s.applyBatch w runId (nodeProposalsToDagMutations w.profileOf runId
      (w.decompose (.qualityFailure nodeId reason) nodes)))

namespace TickInvariant

open TickState

variable (h : TickInvariant cfg w runId P)
include h

lemma acted (hs : P s) (action : ControllerAction) : P (s.act action) :=
  h.quiet s _ hs ⟨rfl, rfl⟩

lemma recovery (nodes failed : List Json) :
    ∀ {s : TickState}, P s → P (applyFailedNodeRecovery cfg w runId nodes failed s).1 := by
  induction failed with
  | nil => exact id
  | cons node failed ih =>
    intro s hs
    unfold applyFailedNodeRecovery
    dsimp only
    split_ifs with hcap hid hempty happroval hremaining happlied
    · exact hs
    · exact ih hs
    · exact ih hs
    · exact ih (h.acted hs _)
    · exact h.acted hs _
    · have hbatch := h.recover s _ _ _ hs (not_le.mp hcap) (not_lt.mp hremaining)
      split
      · exact hbatch
      · next run hrun => exact ih (h.quiet _ _ hbatch ⟨rfl, appliedEvents_updateStatus hrun⟩)
    · exact ih (h.recover s _ _ _ hs (not_le.mp hcap) (not_lt.mp hremaining))

lemma recoverFailedNodes (hs : P s) (nodes : List Json) :
    P (recoverFailedNodes cfg w runId nodes s).1 := by
  unfold TickState.recoverFailedNodes
  have hquiet : P { s with recoveredAny := false } := h.quiet s _ hs ⟨rfl, rfl⟩
  split_ifs
  · exact h.recovery nodes _ hquiet
  · exact hquiet

lemma reviews (nodes completed : List Json) :
    ∀ {s : TickState}, P s → P (qualityReviews cfg w runId nodes completed s) := by
  induction completed with
  | nil => exact id
  | cons node completed ih =>
    intro s hs
    unfold qualityReviews
    dsimp only
    split_ifs with hcap hid hpasses hempty happroval happlied
    · exact hs
    · exact ih hs
    · exact ih hs
    · exact ih hs
    · exact ih (h.acted hs _)
    · exact ih (h.acted (h.review s _ _ _ hs (not_le.mp hcap)) _)
    · exact ih (h.review s _ _ _ hs (not_le.mp hcap))

lemma resumed (hs : P s) : P (s.resumeRecovered runId).1 := by
  unfold resumeRecovered
  split_ifs
  · split
    · exact hs
    · next run hrun =>
      refine h.quiet s _ hs ⟨rfl, ?_⟩
      unfold requestWorkflowRunResume at hrun
      rw [seq_eq_ok] at hrun
      cases hrun.2
      exact (countP_append ..).trans rfl
  · exact hs

lemma reported (hs : P s) : P s.reportEnd := by
  unfold reportEnd
  split_ifs
  · exact h.acted hs _
  · exact h.acted hs _
  · exact hs

lemma executed (hs : P s) (o : ExecutorOutcome) (actions : List ControllerAction) :
    P { s with run := s.run.executed o, actions := s.actions ++ actions } := by
  have hnotes : (o.notes.map RunEvent.other).countP RunEvent.isApplied = 0 := by
    rw [countP_eq_zero]
    intro event hevent
    obtain ⟨note, -, rfl⟩ := mem_map.mp hevent
    exact Bool.false_ne_true
  refine h.quiet s _ hs ⟨rfl, ?_⟩
  change (s.run.events ++ _).countP _ = _
  rw [countP_append, hnotes]
  rfl

lemma executorPhase (hs : P s) : P (executorPhase cfg w runId s).1 := by
  unfold TickState.executorPhase
  split
  · exact hs
  · next outcome actions _ =>
    have hexecuted := h.executed hs outcome actions
    dsimp only
    split_ifs
    · have hrecovered := h.recoverFailedNodes hexecuted
        ((s.run.executed outcome).nodes.rows.map DagNodeRow.shown)
      split
      · next s' e heq =>
        rw [heq] at hrecovered
        exact hrecovered
      · next s' heq =>
        rw [heq] at hrecovered
        have hresumed := h.resumed hrecovered
        split
        · next s'' e heq' =>
          rw [heq'] at hresumed
          exact hresumed
        · next s'' heq' =>
          rw [heq'] at hresumed
          exact h.reported hresumed
    · exact h.reported hexecuted

lemma laterPhases (hs : P s) (nodes : List Json) : P (laterPhases cfg w runId nodes s).1 := by
  have hreviewed := h.reviews nodes (nodes.filter fun n => nodeStatus n = "completed") hs
  unfold TickState.laterPhases
  dsimp only
  split_ifs
  · exact h.quiet _ _ hreviewed ⟨rfl, (countP_append ..).trans rfl⟩
  · exact h.acted hreviewed _
  · exact h.executorPhase hreviewed

lemma tick {r : ControlledRun}
    (hr : ∀ actions, P ⟨r, r.eventCount RunEvent.isApplied, 0, actions, false⟩) :
    P (controllerTick cfg w runId r).1 := by
  have hstart : P ⟨r.record .tickStarted, r.eventCount RunEvent.isApplied, 0, [], false⟩ :=
    h.quiet _ _ (hr []) ⟨rfl, (countP_append ..).trans rfl⟩
  unfold controllerTick
  dsimp only
  split
  · exact hr _
  split
  · exact hr _
  split
  · have hnoted := h.acted hstart (.noAction ("run is already terminal: " ++ r.status))
    split_ifs
    · exact h.acted hnoted _
    · exact h.acted hnoted _
    · exact hnoted
  have hrecovered := h.recoverFailedNodes hstart (r.nodes.rows.map DagNodeRow.shown)
  split
  · next s e heq =>
    rw [heq] at hrecovered
    exact hrecovered
  · next s heq =>
    rw [heq] at hrecovered
    split_ifs
    · have hresumed := h.resumed hrecovered
      split
      · next s' e heq' =>
        rw [heq'] at hresumed
        exact hresumed
      · next s' heq' =>
        rw [heq'] at hresumed
        exact h.laterPhases hresumed _
    · exact hrecovered
    · exact h.laterPhases hrecovered _

end TickInvariant

/-- Recoveries that propose single nodes, and reviews that propose one mutation at most. -/
structure PlainDecomposer (w : ControllerWorld) (runId : String) : Prop where
  recovery : ∀ nodeId error nodes, ∀ proposal ∈ w.decompose (.testFailure nodeId error) nodes,
    proposal.dependsOn = []
  review : ∀ nodeId reason nodes, (nodeProposalsToDagMutations w.profileOf runId
    (w.decompose (.qualityFailure nodeId reason) nodes)).length ≤ 1

lemma length_mutations_of_plain {profileOf : String → String} {proposals : List NodeProposal}
    (h : ∀ proposal ∈ proposals, proposal.dependsOn = []) :
    (nodeProposalsToDagMutations profileOf runId proposals).length = proposals.length := by
  unfold nodeProposalsToDagMutations
  induction proposals with
  | nil => rfl
  | cons proposal proposals ih =>
    have hone : (nodeMutations profileOf runId proposal).length = 1 := by
      unfold nodeMutations
      rw [h proposal mem_cons_self]
      rfl
    rw [flatMap_cons, length_append, hone, length_cons,
      ih fun p hp => h p (mem_cons_of_mem proposal hp), Nat.add_comm]

/-- The counter is the number of events, and the cap is kept. -/
structure Counted (cfg : DynamicControllerConfig) (s : TickState) : Prop where
  total : s.mutationsAppliedTotal = appliedEvents s.run.toDagRun
  within : appliedEvents s.run.toDagRun ≤ cfg.maxMutationsPerRun

lemma counted_applyBatch {proposals : List DAGMutationProposal} (h : Counted cfg s)
    (hfits : s.mutationsAppliedTotal + proposals.length ≤ cfg.maxMutationsPerRun) :
    Counted cfg (s.applyBatch w runId proposals) := by
  obtain ⟨hevents, hresults⟩ := appliedEvents_batch runId w.now s.run.toDagRun proposals
  constructor
  · change s.mutationsAppliedTotal + _ = _
    rw [h.total]
    exact hevents.symm
  · change appliedEvents (applyDagMutationsBatch runId w.now s.run.toDagRun proposals).run ≤ _
    rw [h.total] at hfits
    omega

lemma counted_invariant (hplain : PlainDecomposer w runId) :
    TickInvariant cfg w runId (Counted cfg) where
  quiet s s' h hsame :=
    ⟨by rw [hsame.total, hsame.events, h.total], by rw [hsame.events]; exact h.within⟩
  recover s nodeId error nodes h hcap hremaining := by
    refine counted_applyBatch h ?_
    rw [length_mutations_of_plain (hplain.recovery nodeId error nodes)]
    omega
  review s nodeId reason nodes h hcap := by
    have hone := hplain.review nodeId reason nodes
    exact counted_applyBatch h (by omega)

/-- A tick that sees all the events of the run, with a decomposer of this kind, keeps the cap. -/
lemma tick_keeps_cap (hplain : PlainDecomposer w runId) {r : ControlledRun}
    (hseen : r.events.length ≤ runEventLimit)
    (hr : appliedEvents r.toDagRun ≤ cfg.maxMutationsPerRun) :
    appliedEvents (controllerTick cfg w runId r).1.run.toDagRun ≤ cfg.maxMutationsPerRun := by
  have hcount : r.eventCount RunEvent.isApplied = appliedEvents r.toDagRun := by
    unfold DagRun.eventCount appliedEvents
    rw [take_of_length_le hseen]
  have htick : Counted cfg (controllerTick cfg w runId r).1 :=
    (counted_invariant hplain).tick fun _ => ⟨hcount, hr⟩
  exact htick.within

/-- Over any ticks, the mutations that are applied stay within the cap if recoveries propose single
nodes, reviews propose one mutation at most and no tick starts with more events than it reads. -/
theorem mutation_cap_of_plain_decomposers (cfg : DynamicControllerConfig) (runId : String)
    (r : ControlledRun) (hr : appliedEvents r.toDagRun ≤ cfg.maxMutationsPerRun)
    (ticks : List ControllerWorld) (hplain : ∀ w ∈ ticks, PlainDecomposer w runId)
    (hseen : ∀ n < ticks.length,
      (controllerTicks cfg runId r (ticks.take n)).events.length ≤ runEventLimit)
    (n : ℕ) :
    appliedEvents (controllerTicks cfg runId r (ticks.take n)).toDagRun ≤
      cfg.maxMutationsPerRun := by
  induction n with
  | zero => exact hr
  | succ n ih =>
    cases hw : ticks[n]? with
    | none =>
      rw [take_succ_eq_take hw]
      exact ih
    | some w =>
      obtain ⟨hn, -⟩ := List.getElem?_eq_some_iff.mp hw
      have htick := tick_keeps_cap (hplain w (mem_of_getElem? hw)) (hseen n hn) ih
      unfold controllerTicks
      rw [foldl_take_succ hw]
      exact htick

end Tick

/-! A recovery of two nodes: with the failed node as their dependency, and without. -/

def failedRun : ControlledRun where
  nodes := Table.empty.insert
    { nodeId := "f"
      taskType := "task"
      status := "failed"
      profileId := none
      nodeJson := .obj [("node_id", .str "f")]
      named := rfl }
  edges := Table.empty
  events := []
  status := "running"
  pauseReason := none

def twoStepRecovery (dependsOn : List String) : ControllerWorld where
  now := "now"
  profileOf _ := "worker"
  decompose
    | .testFailure _ _, _ => ["x", "y"].map fun nodeId =>
      ⟨nodeId, "task", "fix", dependsOn, "recover", none⟩
    | _, _ => []
  poolAcquired := false
  executor := .error "no executor"

def tightConfig : DynamicControllerConfig := { maxMutationsPerRun := 3 }

/-- Two proposals pass the check against three remaining mutations, and four are applied. -/
theorem recovery_exceeds_cap :
    appliedEvents (controllerTicks tightConfig "run" failedRun [twoStepRecovery ["f"]]).toDagRun = 4 ∧
      tightConfig.maxMutationsPerRun = 3 := by
  decide

lemma plain_recovery : PlainDecomposer (twoStepRecovery []) "run" where
  recovery _ _ _ proposal hproposal := by
    obtain ⟨nodeId, -, rfl⟩ := mem_map.mp hproposal
    rfl
  review _ _ _ := Nat.zero_le 1

theorem plain_recovery_within_cap :
    appliedEvents (controllerTicks tightConfig "run" failedRun [twoStepRecovery []]).toDagRun = 2 ∧
      appliedEvents (controllerTicks tightConfig "run" failedRun [twoStepRecovery []]).toDagRun ≤ 3 := by
  refine ⟨by decide, mutation_cap_of_plain_decomposers tightConfig "run" failedRun (by decide)
    [twoStepRecovery []] ?_ ?_ 1⟩
  · intro w hw
    rw [mem_singleton.mp hw]
    exact plain_recovery
  · intro n hn
    obtain rfl : n = 0 := Nat.lt_one_iff.mp hn
    exact Nat.zero_le _

end Harness
