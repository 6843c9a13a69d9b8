import Harness.Proofs.Fencing
import Harness.Sanity.Blocking

/-! Readiness, blocking and completion are three queries over the same rows. Whether they
leave a run stuck, and whether blocking takes away work that could still be done. -/

namespace Harness

open Lib List

namespace WorkflowGraph

variable {g g' : WorkflowGraph} {runId : String} {r p : NodeRow}

def precedes (g : WorkflowGraph) (runId : String) (a b : String) : Prop :=
  ∃ e ∈ g.edges, e.runId = runId ∧ e.fromNodeId = a ∧ e.toNodeId = b

variable {status : NodeStatus} {nodeId : String}

lemma precedes_of_mem (h : p ∈ g.predecessors runId nodeId) : g.precedes runId p.nodeId nodeId := by
  obtain ⟨⟨e, he, hrun, hto, hfrom⟩, -⟩ := mem_predecessors.mp h
  exact ⟨e, he, hrun, hfrom, hto⟩

lemma isReady_eq_true :
    g.isReady runId r = true ↔
      r.status = .pending ∧
        ∀ p ∈ g.predecessors runId r.nodeId, predecessorAllows r.taskType p.status = true := by
  unfold isReady
  simp

/-- Some call of `find_ready_node_locked` selects the node. -/
def Selectable (g : WorkflowGraph) (runId nodeId : String) : Prop :=
  ∃ skip agentExecutor r, g.findReadyNode runId skip agentExecutor = some r ∧ r.nodeId = nodeId

lemma Selectable.ready (h : g.Selectable runId nodeId) :
    ∃ r, g.find? runId nodeId = some r ∧ g.isReady runId r = true := by
  obtain ⟨skip, agentExecutor, r, hfound, rfl⟩ := h
  exact ⟨r, mem_of_findReadyNode hfound⟩

def EngineStatus (s : NodeStatus) : Prop :=
  s = .pending ∨ s = .running ∨ s = .completed ∨ s = .failed ∨ s = .blocked ∨ s = .recovered ∨ s = .ready

instance : DecidablePred EngineStatus := fun s => by unfold EngineStatus; infer_instance

/-- In a run where nothing runs and nothing can be selected, a node that is pending and out
of every failure's reach waits for a node that will never be complete: one that is `ready`,
or one that is `recovered` while the waiting node is no fix. -/
lemma waits_for_stuck (hstatus : ∀ r ∈ g.rowsOf runId, EngineStatus r.status)
    (hidle : ∀ r ∈ g.rowsOf runId, r.status ≠ .running) (hacyclic : Acyclic (g.precedes runId))
    (hnone : g.findReadyNode runId [] none = none) (hr : r ∈ g.rowsOf runId)
    (hpending : r.status = .pending) (hdoomed : ¬ Doomed g runId r) :
    ∃ r ∈ g.rowsOf runId, r.status = .pending ∧ ¬ Doomed g runId r ∧
      ∃ p ∈ g.predecessors runId r.nodeId,
        p.status = .ready ∨ (p.status = .recovered ∧ r.taskType ≠ "fix") := by
  -- the first of the pending nodes that no failure reaches
  obtain ⟨-, -, ⟨r, hr, rfl, hpending, hdoomed⟩, hfirst⟩ :=
    hacyclic.exists_first (l := (g.rowsOf runId).map NodeRow.nodeId)
      (P := fun k => ∃ r ∈ g.rowsOf runId, r.nodeId = k ∧ r.status = .pending ∧ ¬ Doomed g runId r)
      (mem_map_of_mem hr) ⟨r, hr, rfl, hpending, hdoomed⟩
  have hnotready : g.isReady runId r ≠ true := by
    intro hready
    have := find?_eq_none.mp hnone r hr
    simp [hready] at this
  rw [Ne, isReady_eq_true] at hnotready
  push Not at hnotready
  obtain ⟨p, hp, hforbids⟩ := hnotready hpending
  refine ⟨r, hr, hpending, hdoomed, p, hp, ?_⟩
  have hprow := (mem_predecessors.mp hp).2
  unfold predecessorAllows at hforbids
  rcases hstatus p hprow with h | h | h | h | h | h | h
  · -- a pending predecessor would come first, or a failure would reach past it
    by_cases hpdoomed : Doomed g runId p
    · exact absurd (.downstream hr hpending hp hpdoomed) hdoomed
    · exact absurd (precedes_of_mem hp) (hfirst p.nodeId (mem_map_of_mem hprow)
        ⟨p, hprow, rfl, h, hpdoomed⟩)
  · exact absurd h (hidle p hprow)
  · simp [h] at hforbids
  · exact absurd (.failed hr hpending hp (by rw [h]; rfl)) hdoomed
  · exact absurd (.failed hr hpending hp (by rw [h]; rfl)) hdoomed
  · refine .inr ⟨h, fun hfix => ?_⟩
    simp [h, hfix] at hforbids
  · exact .inl h

/-- A run in which nothing runs and nothing can be selected is done once failures are
propagated, except for two kinds of node. A node that is `ready` is neither selected nor
done. A node that is no fix does not run on a `recovered` predecessor and is not blocked by
one. -/
theorem run_done_iff (hstatus : ∀ r ∈ g.rowsOf runId, EngineStatus r.status)
    (hidle : ∀ r ∈ g.rowsOf runId, r.status ≠ .running) (hacyclic : Acyclic (g.precedes runId))
    (hnone : g.findReadyNode runId [] none = none) :
    ((g.propagateFailedDependencies runId).checkRunCompletion runId).1 = true ↔
      (∀ r ∈ g.rowsOf runId, r.status ≠ .ready) ∧
      ∀ r ∈ g.rowsOf runId, r.status = .pending → r.taskType ≠ "fix" → ¬ Doomed g runId r →
        ∀ p ∈ g.predecessors runId r.nodeId, p.status ≠ .recovered := by
  rw [done_propagate_iff]
  constructor
  · intro hdone
    refine ⟨fun r hr hready => ?_, fun r hr hpending _ hdoomed p _ _ => ?_⟩
    · rcases hdone r hr with h | h
      · rw [hready] at h
        cases h
      · have := h.pending
        rw [hready] at this
        cases this
    · rcases hdone r hr with h | h
      · rw [hpending] at h
        cases h
      · exact hdoomed h
  · rintro ⟨hready, hrecovered⟩ r hr
    by_cases hdoomed : Doomed g runId r
    · exact .inr hdoomed
    · left
      rcases hstatus r hr with h | h | h | h | h | h | h
      · obtain ⟨r', hr', hpending, hnot, p, hp, hstuck | ⟨hstuck, hfix⟩⟩ :=
          waits_for_stuck hstatus hidle hacyclic hnone hr h hdoomed
        · exact absurd hstuck (hready p (mem_predecessors.mp hp).2)
        · exact absurd hstuck (hrecovered r' hr' hpending hfix hnot p hp)
      · exact absurd h (hidle r hr)
      · rw [h]; rfl
      · rw [h]; rfl
      · rw [h]; rfl
      · rw [h]; rfl
      · exact absurd h (hready r hr)

def failedGraph : WorkflowGraph :=
  (plainStore [plainRow "a" "unit" .failed, plainRow "b" "unit" .pending]
    [⟨"run-1", "a", "b"⟩]).toWorkflowGraph

theorem run_done_iff_sample :
    ((failedGraph.propagateFailedDependencies "run-1").checkRunCompletion "run-1").1 = true := by
  refine (run_done_iff (by decide) (by decide) ?_ (by decide)).mpr
    ⟨by decide, ?_⟩
  · refine Acyclic.of_rank (fun k => if k = "a" then 0 else 1) ?_
    rintro - - ⟨e, he, -, rfl, rfl⟩
    obtain rfl := mem_singleton.mp he
    decide
  · intro r hr hpending hfix hdoomed
    have hnone : ∀ r ∈ failedGraph.rowsOf "run-1", ∀ p ∈ failedGraph.predecessors "run-1" r.nodeId,
      p.status ≠ .recovered := by decide
    exact hnone r hr

/-- Nothing runs, nothing can be selected, and still the run is not done. -/
def Wedged (g : WorkflowGraph) (runId : String) : Prop :=
  (∀ r ∈ g.rowsOf runId, EngineStatus r.status ∧ r.status ≠ .running) ∧ Acyclic (g.precedes runId) ∧
    g.findReadyNode runId [] none = none ∧
    ((g.propagateFailedDependencies runId).checkRunCompletion runId).1 = false

/-- The row a settlement leaves of a recursive node that its tree gives another attempt. -/
def readyGraph : WorkflowGraph := (plainStore [plainRow "a" "agent_step" .ready] []).toWorkflowGraph

def recoveredGraph : WorkflowGraph :=
  (plainStore [plainRow "a" "unit" .recovered, plainRow "b" "unit" .pending]
    [⟨"run-1", "a", "b"⟩]).toWorkflowGraph

theorem wedged_run_sample : Wedged readyGraph "run-1" ∧ Wedged recoveredGraph "run-1" := by
  refine ⟨⟨by decide, ?_, by decide, by decide⟩,
    by decide, ?_, by decide, by decide⟩
  · refine Acyclic.of_rank (fun _ => 0) ?_
    rintro - - ⟨e, he, -⟩
    cases he
  · refine Acyclic.of_rank (fun k => if k = "a" then 0 else 1) ?_
    rintro - - ⟨e, he, -, rfl, rfl⟩
    obtain rfl := mem_singleton.mp he
    decide

def setStatus (g : WorkflowGraph) (runId nodeId : String) (status : NodeStatus) : WorkflowGraph :=
  { g with nodes := g.nodes.modify (toLex (runId, nodeId)) fun r => { r with status := status } }

/-- The run goes on: one node after another that runs, or that could be selected to, ends as
completed or failed. -/
inductive GoesOn (g : WorkflowGraph) (runId : String) : WorkflowGraph → Prop
  | now : GoesOn g runId g
  | ended {g' : WorkflowGraph} {r : NodeRow} {status : NodeStatus} (h : GoesOn g runId g')
      (hr : g'.find? runId r.nodeId = some r)
      (hturn : r.status = .running ∨ g'.Selectable runId r.nodeId)
      (hstatus : status = .completed ∨ status = .failed) :
      GoesOn g runId (g'.setStatus runId r.nodeId status)

/-- The node can be selected, now or later. -/
def CouldRun (g : WorkflowGraph) (runId nodeId : String) : Prop :=
  ∃ g', GoesOn g runId g' ∧ g'.Selectable runId nodeId

lemma find?_setStatus {nodeId' : String} :
    (g.setStatus runId nodeId status).find? runId nodeId' =
      if nodeId' = nodeId then (g.find? runId nodeId').map fun r => { r with status := status }
      else g.find? runId nodeId' := by
  unfold WorkflowGraph.find? setStatus
  rw [Table.find?_modify]
  refine if_congr ?_ rfl rfl
  rw [toLex_inj, Prod.mk.injEq]
  exact ⟨fun h => h.2, fun h => ⟨rfl, h⟩⟩

lemma GoesOn.edges (h : GoesOn g runId g') : g'.edges = g.edges := by
  induction h with
  | now => rfl
  | ended _ _ _ _ ih => exact ih

/-- What became of a row. -/
lemma GoesOn.find? (h : GoesOn g runId g') (hr : g.find? runId nodeId = some r) :
    ∃ r', g'.find? runId nodeId = some r' ∧ r'.nodeId = r.nodeId ∧ r'.taskType = r.taskType ∧
      (r'.status = r.status ∨
        (r.status = .running ∧ (r'.status = .completed ∨ r'.status = .failed)) ∨
        (r.status = .pending ∧ g.CouldRun runId nodeId)) := by
  induction h with
  | now => exact ⟨r, hr, rfl, rfl, .inl rfl⟩
  | @ended g' a status h ha hturn hstatus ih =>
    obtain ⟨r', hr', hnode, htask, hcase⟩ := ih
    rw [find?_setStatus]
    split_ifs with hk
    · subst hk
      obtain rfl := Option.mem_unique hr' ha
      refine ⟨{ r' with status := status }, by rw [hr']; rfl, hnode, htask, ?_⟩
      rcases hcase with hsame | ⟨hrun, -⟩ | hcould
      · rcases hturn with hrun | hsel
        · exact .inr (.inl ⟨hsame ▸ hrun, hstatus⟩)
        · have hpending : r.status = .pending := by
            obtain ⟨b, hb, hready⟩ := hsel.ready
            cases hr'.symm.trans hb
            rw [← hsame]
            exact (isReady_eq_true.mp hready).1
          exact .inr (.inr ⟨hpending, g', h, hsel⟩)
      · exact .inr (.inl ⟨hrun, hstatus⟩)
      · exact .inr (.inr hcould)
    · exact ⟨r', hr', hnode, htask, hcase⟩

lemma GoesOn.predecessors (h : GoesOn g runId g') (hp : p ∈ g.predecessors runId nodeId) :
    ∃ p' ∈ g'.predecessors runId nodeId, g'.find? runId p.nodeId = some p' := by
  obtain ⟨⟨e, he, hrun, hto, hfrom⟩, hp⟩ := mem_predecessors.mp hp
  obtain ⟨p', hp', hnode, -⟩ := h.find? (mem_rowsOf.mp hp)
  refine ⟨p', mem_predecessors.mpr ⟨⟨e, h.edges ▸ he, hrun, hto, hfrom.trans hnode.symm⟩, ?_⟩, hp'⟩
  rw [mem_rowsOf, hnode]
  exact hp'

/-- Once a node can be selected, its predecessors have come to allow it. -/
lemma GoesOn.allows (h : GoesOn g runId g') (hr : r ∈ g.rowsOf runId)
    (hsel : g'.Selectable runId r.nodeId) (hp : p ∈ g.predecessors runId r.nodeId) :
    ∃ p', g'.find? runId p.nodeId = some p' ∧ predecessorAllows r.taskType p'.status = true := by
  obtain ⟨r', hr', hready⟩ := hsel.ready
  obtain ⟨r'', hr'', hnode, htask, -⟩ := h.find? (mem_rowsOf.mp hr)
  cases hr'.symm.trans hr''
  obtain ⟨p', hp', hfind⟩ := h.predecessors hp
  refine ⟨p', hfind, ?_⟩
  rw [← htask]
  exact (isReady_eq_true.mp hready).2 p' (hnode.symm ▸ hp')

lemma allows_of_blocks {taskType : String} (hblocks : status.blocks = true)
    (h : predecessorAllows taskType status = true) : taskType = "fix" ∧ status = .failed := by
  cases status <;> simp_all [NodeStatus.blocks, predecessorAllows]

/-- A node that could run although a failure reaches it: on the way there is a fix with a
failed predecessor that could run. -/
lemma CouldRun.fix (hd : Doomed g runId r) (h : g.CouldRun runId r.nodeId) :
    ∃ r ∈ g.rowsOf runId, r.status = .pending ∧ r.taskType = "fix" ∧
      (∃ p ∈ g.predecessors runId r.nodeId, p.status = .failed) ∧ g.CouldRun runId r.nodeId := by
  induction hd with
  | @failed r p hr hpending hp hblocks =>
    obtain ⟨g', hgo, hsel⟩ := id h
    obtain ⟨p', hp', hallows⟩ := hgo.allows hr hsel hp
    obtain ⟨p'', hp'', -, -, hcase⟩ := hgo.find? (mem_rowsOf.mp (mem_predecessors.mp hp).2)
    cases hp'.symm.trans hp''
    rcases hcase with hsame | ⟨hrun, -⟩ | ⟨hwait, -⟩
    · rw [hsame] at hallows
      obtain ⟨hfix, hfailed⟩ := allows_of_blocks hblocks hallows
      exact ⟨r, hr, hpending, hfix, ⟨p, hp, hfailed⟩, h⟩
    · rw [hrun] at hblocks
      cases hblocks
    · rw [hwait] at hblocks
      cases hblocks
  | @downstream r p hr hpending hp hdoomed ih =>
    obtain ⟨g', hgo, hsel⟩ := h
    obtain ⟨p', hp', hallows⟩ := hgo.allows hr hsel hp
    obtain ⟨p'', hp'', -, -, hcase⟩ := hgo.find? (mem_rowsOf.mp (mem_predecessors.mp hp).2)
    cases hp'.symm.trans hp''
    rcases hcase with hsame | ⟨hrun, -⟩ | ⟨-, hcould⟩
    · rw [hsame, hdoomed.pending] at hallows
      simp [predecessorAllows] at hallows
    · rw [hdoomed.pending] at hrun
      cases hrun
    · exact ih hcould

/-- Blocking takes no work away that could still be done, exactly if no fix could still run
that waits with a failed predecessor. -/
theorem blocks_only_dead_work_iff (g : WorkflowGraph) (runId : String) :
    (∀ r ∈ g.rowsOf runId, r.status = .pending →
      (∃ p ∈ (g.propagateFailedDependencies runId).rowsOf runId,
        p.nodeId = r.nodeId ∧ p.status = .blocked) → ¬ g.CouldRun runId r.nodeId) ↔
    ∀ r ∈ g.rowsOf runId, r.status = .pending → r.taskType = "fix" →
      (∃ p ∈ g.predecessors runId r.nodeId, p.status = .failed) → ¬ g.CouldRun runId r.nodeId := by
  constructor
  · rintro h r hr hpending - ⟨p, hp, hfailed⟩
    have hdoomed : Doomed g runId r := .failed hr hpending hp (by rw [hfailed]; rfl)
    exact h r hr hpending ⟨_, propagate_of_doomed hdoomed, rfl, rfl⟩
  · rintro h r hr hpending ⟨p, hp, hnode, hblocked⟩ hcould
    obtain ⟨r', hr', ⟨rfl, -⟩ | ⟨rfl, hdoomed⟩⟩ := mem_propagate hp
    · have hsame := mem_rowsOf.mp hr'
      rw [hnode, mem_rowsOf.mp hr] at hsame
      rw [← Option.some.inj hsame, hpending] at hblocked
      cases hblocked
    · have hsame := mem_rowsOf.mp hr'
      rw [show r'.nodeId = r.nodeId from hnode, mem_rowsOf.mp hr] at hsame
      cases hsame
      obtain ⟨a, ha, hwaits, hfix, hfailed, hruns⟩ := hcould.fix hdoomed
      exact h a ha hwaits hfix hfailed hruns

/-- A fix that waits for one node that failed and for one that still runs. -/
def fixGraph : WorkflowGraph :=
  (plainStore [plainRow "a" "unit" .failed, plainRow "b" "unit" .running, plainRow "f" "fix" .pending]
    [⟨"run-1", "a", "f"⟩, ⟨"run-1", "b", "f"⟩]).toWorkflowGraph

/-- It is blocked, although it could run as soon as the other node ends. -/
theorem blocked_fix_sample :
    ((fixGraph.propagateFailedDependencies "run-1").find? "run-1" "f").map NodeRow.status =
        some .blocked ∧
      fixGraph.CouldRun "run-1" "f" := by
  refine ⟨by decide, fixGraph.setStatus "run-1" "b" .completed, ?_, [], none,
    plainRow "f" "fix" .pending, by decide, rfl⟩
  exact .ended (r := plainRow "b" "unit" .running) .now (by decide) (.inl rfl) (.inl rfl)

end WorkflowGraph

end Harness
