import Harness.Proofs.DagBatch

/-! Batches on one run at the same time. Each has read the graph into a manager of its own before
its first write, and never reads it again: what it checks is the graph as it was, with its own
mutations. -/

namespace Harness

open Lib List Option Function GraphView

/-- A batch on its way; `mgr` is empty until it has read the graph. -/
structure OpenBatch where
  now : String
  mgr : Option DAGState
  proposals : List DAGMutationProposal
  results : List BatchResult

/-- The stored run and the batches that write to it. -/
structure SharedRun where
  run : DagRun
  batches : List OpenBatch

namespace SharedRun

def start (r : DagRun) (calls : List (String × List DAGMutationProposal)) : SharedRun :=
  ⟨r, calls.map fun call => ⟨call.1, none, call.2, []⟩⟩

/-- A batch reads the graph, or goes on with its next proposal. -/
def step (runId : String) (s : SharedRun) (i : ℕ) : SharedRun :=
  match s.batches[i]? with
  | none => s
  | some b =>
    match b.mgr, b.proposals with
    | none, _ =>
      { s with
        batches := s.batches.set i { b with mgr := some (loadManager runId b.now s.run.toRunGraph) } }
    | some _, [] => s
    | some mgr, p :: proposals =>
      let b' := batchStep ⟨mgr, s.run, b.results⟩ p
      ⟨b'.run, s.batches.set i ⟨b.now, some b'.mgr, proposals, b'.results⟩⟩

def runs (runId : String) (s : SharedRun) (schedule : List ℕ) : SharedRun :=
  schedule.foldl (step runId) s

end SharedRun

namespace GraphView

variable {v : GraphView} {edgeId a b : String}

variable (v edgeId a b) in
/-- Both ends are there, and the other edges lead from the second to the first in no way. -/
def Joins : Prop :=
  v.status a ≠ none ∧ v.status b ≠ none ∧
    ¬ Relation.ReflTransGen (v.setEnds edgeId none).Edge b a

lemma edge_setEnds_iff {c d : String} :
    (v.setEnds edgeId (some (a, b))).Edge c d ↔
      (v.setEnds edgeId none).Edge c d ∨ (c = a ∧ d = b) := by
  constructor
  · rintro ⟨id, hid⟩
    change update v.ends edgeId _ id = _ at hid
    by_cases heq : id = edgeId
    · rw [heq, update_self] at hid
      cases hid
      exact .inr ⟨rfl, rfl⟩
    · rw [update_of_ne heq] at hid
      exact .inl ⟨id, (update_of_ne heq ..).trans hid⟩
  · rintro (⟨id, hid⟩ | ⟨rfl, rfl⟩)
    · change update v.ends edgeId none id = _ at hid
      by_cases heq : id = edgeId
      · rw [heq, update_self] at hid
        cases hid
      · rw [update_of_ne heq] at hid
        exact ⟨id, (update_of_ne heq ..).trans hid⟩
    · exact ⟨edgeId, update_self ..⟩

/-- A way in the graph with the edge goes without it, or up to it and on behind it. -/
lemma way_setEnds {c d : String}
    (h : Relation.TransGen (v.setEnds edgeId (some (a, b))).Edge c d) :
    Relation.TransGen (v.setEnds edgeId none).Edge c d ∨
      Relation.ReflTransGen (v.setEnds edgeId none).Edge c a ∧
        Relation.ReflTransGen (v.setEnds edgeId none).Edge b d := by
  induction h with
  | single hstep =>
    rcases edge_setEnds_iff.mp hstep with hold | ⟨rfl, rfl⟩
    · exact .inl (.single hold)
    · exact .inr ⟨.refl, .refl⟩
  | tail _ hstep ih =>
    rcases edge_setEnds_iff.mp hstep with hold | ⟨rfl, rfl⟩
    · exact ih.imp (·.tail hold) fun h => ⟨h.1, h.2.tail hold⟩
    · exact .inr ⟨ih.elim (·.to_reflTransGen) And.left, .refl⟩

/-- An edge keeps a graph well formed just in case it joins two of its nodes and no way leads
back. -/
lemma WellFormed.setEnds_joins_iff (h : v.WellFormed) :
    (v.setEnds edgeId (some (a, b))).WellFormed ↔ v.Joins edgeId a b := by
  rw [h.setEnds_iff]
  refine and_congr_right fun _ => and_congr_right fun _ => ⟨fun hacyclic hback => ?_, ?_⟩
  · have hkept : Relation.ReflTransGen (v.setEnds edgeId (some (a, b))).Edge b a :=
      Relation.ReflTransGen.mono (fun _ _ he => edge_setEnds_iff.mpr (.inl he)) b a hback
    exact hacyclic a (.head' (edge_setEnds_iff.mpr (.inr ⟨rfl, rfl⟩)) hkept)
  · intro hno c hcycle
    rcases way_setEnds hcycle with hold | ⟨hup, hon⟩
    · exact (h.removeEnds edgeId).acyclic c hold
    · exact hno (hon.trans hup)

variable (v) in
/-- An edge that the proposal writes joins nodes that are stored, and closes no cycle of stored
edges. -/
def Fits (p : DAGMutationProposal) : Prop :=
  match p.mutationType with
  | .addEdge => ∀ edgeId a b, p.text "edge_id" = some edgeId → p.text "from_node" = some a →
      p.text "to_node" = some b → v.Joins edgeId a b
  | .rewireEdge => ∀ edgeId a b, p.targetEdgeId = some edgeId →
      (v.ends edgeId).map (rewiredEnds p) = some (a, b) → v.Joins edgeId a b
  | _ => True

end GraphView

/-- When a batch writes an edge, what it has read is still what is stored, or the edge fits what is
stored by then. -/
def SharedRun.WritesFit (s : SharedRun) (i : ℕ) : Prop :=
  ∀ b mgr p proposals, s.batches[i]? = some b → b.mgr = some mgr → b.proposals = p :: proposals →
    mgr.Accepts p → s.run.view.Stores p → mgr.view.Sync s.run.view ∨ s.run.view.Fits p

variable {p : DAGMutationProposal} {s : SharedRun} {runId : String} {i : ℕ}

lemma persisted_wellFormed_iff {m v : GraphView} (hv : v.WellFormed) (hallows : m.Allows p)
    (hstores : v.Stores p) : (v.persisted p).WellFormed ↔ v.Fits p := by
  unfold GraphView.Allows at hallows
  unfold GraphView.Stores at hstores
  unfold persisted mutated GraphView.Fits
  cases htype : p.mutationType with
  | addNode | updateNode => exact iff_of_true hv.setStatus trivial
  | removeNode => exact iff_of_true (hv.dropNode _) trivial
  | addEdge =>
    rw [htype] at hallows
    obtain ⟨edgeId, a, b, hid, ha, hb, -⟩ := hallows
    simp only [hid, ha, hb, getD_some, some.injEq]
    rw [hv.setEnds_joins_iff]
    refine ⟨?_, fun h => h edgeId a b rfl rfl rfl⟩
    rintro h _ _ _ rfl rfl rfl
    exact h
  | removeEdge => exact iff_of_true (hv.removeEnds _) trivial
  | rewireEdge =>
    rw [htype] at hallows hstores
    obtain ⟨edgeId, -, hid, -⟩ := hallows
    rw [hid] at hstores
    obtain ⟨ends, hends⟩ := ne_none_iff_exists'.mp hstores
    change v.ends edgeId = some ends at hends
    rw [hid, getD_some, hends, map_some]
    obtain ⟨⟨a, b⟩, hrewired⟩ : ∃ ab, rewiredEnds p ends = ab := ⟨_, rfl⟩
    rw [hrewired]
    rw [hv.setEnds_joins_iff]
    constructor
    · rintro h _ a' b' ⟨⟩ heq
      rw [hends, map_some, hrewired] at heq
      cases heq
      exact h
    · exact fun h => h edgeId a b rfl (by rw [hends, map_some, hrewired])
  | other text =>
    rw [htype] at hstores
    exact hstores.elim

/-- What each batch takes the graph for is well formed, whatever is stored. -/
def SharedRun.ManagersValid (s : SharedRun) : Prop :=
  ∀ b ∈ s.batches, ∀ mgr, b.mgr = some mgr → mgr.Valid

lemma managersValid_set {b : OpenBatch} {mgr : DAGState} {run : DagRun} (h : s.ManagersValid)
    (hb : b.mgr = some mgr) (hmgr : mgr.Valid) :
    SharedRun.ManagersValid ⟨run, s.batches.set i b⟩ := by
  intro b' hb' mgr' hmgr'
  rcases mem_or_eq_of_mem_set hb' with hmem | rfl
  · exact h b' hmem mgr' hmgr'
  · cases hb.symm.trans hmgr'
    exact hmgr

lemma batchStep_valid {b : BatchState} (h : b.mgr.Valid) : (batchStep b p).mgr.Valid := by
  rcases batchStep_cases h with ⟨result, -, -, heq⟩ | ⟨result, -, -, -, heq, happlies⟩ |
    ⟨result, run, -, -, -, heq, happlies, -⟩
  · rw [heq]
    exact h
  · rw [heq]
    exact happlies.valid
  · rw [heq]
    exact happlies.valid

lemma managersValid_step (h : s.ManagersValid) : (s.step runId i).ManagersValid := by
  unfold SharedRun.step
  split
  · exact h
  · next b hb =>
    split
    · exact managersValid_set h rfl (valid_loadManager ..).1
    · exact h
    · next mgr p proposals hmgr hproposals =>
      have hvalid : mgr.Valid := h b (mem_of_getElem? hb) mgr hmgr
      exact managersValid_set h rfl (batchStep_valid (b := ⟨mgr, s.run, b.results⟩) hvalid)

lemma managersValid_runs (h : s.ManagersValid) {schedule : List ℕ} :
    (s.runs runId schedule).ManagersValid := by
  induction schedule generalizing s with
  | nil => exact h
  | cons i schedule ih => exact ih (managersValid_step h)

lemma managersValid_start {r : DagRun} (calls : List (String × List DAGMutationProposal)) :
    (SharedRun.start r calls).ManagersValid := by
  intro b hb mgr hmgr
  obtain ⟨call, -, rfl⟩ := mem_map.mp hb
  cases hmgr

/-- One step keeps the graph well formed just in case the edge it writes, if any, fits. -/
lemma wellFormed_step_iff (hvalid : s.ManagersValid) (h : s.run.view.WellFormed) :
    (s.step runId i).run.view.WellFormed ↔ s.WritesFit i := by
  unfold SharedRun.step
  split
  · next hnone =>
    refine iff_of_true h fun b mgr p proposals hb => ?_
    rw [hnone] at hb
    cases hb
  · next b hb =>
    split
    · next hmgr =>
      refine iff_of_true h fun b' mgr p proposals hb' hmgr' => ?_
      cases hb.symm.trans hb'
      rw [hmgr] at hmgr'
      cases hmgr'
    · next mgr hmgr hproposals =>
      refine iff_of_true h fun b' mgr' p proposals hb' _ hproposals' => ?_
      cases hb.symm.trans hb'
      rw [hproposals] at hproposals'
      cases hproposals'
    · next mgr p proposals hmgr hproposals =>
      have hmgrValid : mgr.Valid := hvalid b (mem_of_getElem? hb) mgr hmgr
      have hfit : s.WritesFit i ↔
          (mgr.Accepts p → s.run.view.Stores p →
            mgr.view.Sync s.run.view ∨ s.run.view.Fits p) := by
        constructor
        · exact fun hall => hall b mgr p proposals hb hmgr hproposals
        · intro hfits b' mgr' p' proposals' hb' hmgr' hproposals'
          cases hb.symm.trans hb'
          cases hmgr.symm.trans hmgr'
          obtain ⟨rfl, rfl⟩ := cons.inj (hproposals.symm.trans hproposals')
          exact hfits
      rw [hfit]
      rcases batchStep_cases (b := ⟨mgr, s.run, b.results⟩) hmgrValid with
        ⟨result, hnot, -, heq⟩ | ⟨result, -, hnot, -, heq, -⟩ |
        ⟨result, run, haccepts, hstores, -, heq, happlies, hview⟩
      · rw [heq]
        exact iff_of_true h fun haccepts => absurd haccepts hnot
      · rw [heq]
        exact iff_of_true h fun _ hstores => absurd hstores hnot
      · rw [heq]
        have hwell : run.view.WellFormed ↔ s.run.view.Fits p :=
          hview ▸ persisted_wellFormed_iff h haccepts.allows hstores
        refine ⟨fun hsound _ _ => .inr (hwell.mp hsound), fun hfits => ?_⟩
        rcases hfits haccepts hstores with hsync | hfits
        · have hafter := hsync.step haccepts.allows
          rw [← happlies.view] at hafter
          exact hview ▸ hafter.wellFormed happlies.valid.wellFormed
        · exact hwell.mpr hfits

/-- Whatever the schedule, the stored graph stays well formed just in case each edge is written while
the batch still knows the stored graph, or joins stored nodes with no stored way back. -/
theorem concurrent_batches_wellFormed_iff (runId : String) (r : DagRun)
    (calls : List (String × List DAGMutationProposal)) (schedule : List ℕ) :
    (∀ n, ((SharedRun.start r calls).runs runId (schedule.take n)).run.view.WellFormed) ↔
      r.view.WellFormed ∧ ∀ n i, schedule[n]? = some i →
        ((SharedRun.start r calls).runs runId (schedule.take n)).WritesFit i := by
  have hstep : ∀ (s : SharedRun) (i : ℕ), s.ManagersValid ∧ s.run.view.WellFormed →
      ((s.step runId i).ManagersValid ∧ (s.step runId i).run.view.WellFormed ↔ s.WritesFit i) := by
    intro s i h
    rw [wellFormed_step_iff h.1 h.2]
    exact and_iff_right (managersValid_step h.1)
  have hiff (hr : r.view.WellFormed) :
      (∀ n, ((SharedRun.start r calls).runs runId (schedule.take n)).run.view.WellFormed) ↔
        ∀ n i, schedule[n]? = some i →
          ((SharedRun.start r calls).runs runId (schedule.take n)).WritesFit i := by
    have hruns := foldl_keeps_iff hstep ⟨managersValid_start calls, hr⟩ schedule
    refine Iff.trans (forall_congr' fun n => ?_) hruns
    exact (and_iff_right (managersValid_runs (managersValid_start calls))).symm
  exact ⟨fun hall => ⟨hall 0, (hiff (hall 0)).mp hall⟩, fun h => (hiff h.1).mpr h.2⟩

/-! Two batches that join the same two nodes, one in each direction. -/

def joinedBothWays : SharedRun :=
  (SharedRun.start twoNodes [("t1", [joinNodes "ab" "a" "b"]), ("t2", [joinNodes "ba" "b" "a"])]).runs
    "run" [0, 1, 0, 1]

/-- Both read the graph before either writes, and together they close a cycle. -/
theorem two_batches_close_a_cycle :
    twoNodes.view.WellFormed ∧ ¬joinedBothWays.run.view.Acyclic := by
  refine ⟨wellFormed_twoNodes, fun hacyclic => ?_⟩
  have hab : joinedBothWays.run.view.Edge "a" "b" := ⟨"ab", by decide⟩
  have hba : joinedBothWays.run.view.Edge "b" "a" := ⟨"ba", by decide⟩
  exact hacyclic "a" (.tail (.single hab) hba)

end Harness
