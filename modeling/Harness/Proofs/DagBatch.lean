import Harness.Lib.Trace
import Harness.Sanity.StoredGraph

/-! A batch against the manager it stands for. Each proposal is applied twice, in the memory of the
batch and in the store, and the two read some proposals differently; the nodes and the edges stay
the same all along, the statuses may part. -/

namespace Harness

open Lib List Option Function GraphView DAGState

/-- The same nodes with the same statuses and the same edges with the same ends, in any order. -/
structure SameGraph (st : DAGState) (g : RunGraph) : Prop where
  nodes : (st.nodes.map fun n => (n.nodeId, n.status)).Perm
    (g.nodes.rows.map fun n => (n.nodeId, n.status))
  edges : (st.edges.map fun e => (e.edgeId, e.fromNode, e.toNode)).Perm
    (g.edges.rows.map fun e => (e.edgeId, e.fromNodeId, e.toNodeId))

variable {v : GraphView} {p : DAGMutationProposal}
variable {b : BatchState} {st ref : DAGState} {r : DagRun} {proposals : List DAGMutationProposal}
  {runId now : String}

lemma sameGraph_iff (h : st.Valid) {g : RunGraph} : SameGraph st g ↔ st.view = g.view := by
  have hnodes : (st.nodes.map fun n => (n.nodeId, n.status)).Perm
      (g.nodes.rows.map fun n => (n.nodeId, n.status)) ↔ ∀ id, st.view.status id = g.view.status id :=
    KeyedList.perm_iff_lookup h.nodesKeyed g.nodes.keys_nodup
  have hedges : (st.edges.map fun e => (e.edgeId, e.fromNode, e.toNode)).Perm
      (g.edges.rows.map fun e => (e.edgeId, e.fromNodeId, e.toNodeId)) ↔
        ∀ id, st.view.ends id = g.view.ends id :=
    KeyedList.perm_iff_lookup h.edgesKeyed g.edges.keys_nodup
  constructor
  · intro hsame
    exact GraphView.ext (funext (hnodes.mp hsame.nodes)) (funext (hedges.mp hsame.edges))
  · intro hview
    exact ⟨hnodes.mpr fun id => by rw [hview], hedges.mpr fun id => by rw [hview]⟩

def appliedProposals (proposals : List DAGMutationProposal) (results : List BatchResult) :
    List DAGMutationProposal :=
  ((proposals.zip results).filter fun x => x.2.applied).map Prod.fst

/-- A manager loaded with the graph, after the proposals that the batch reports as applied. -/
def referenceManager (runId now : String) (r : DagRun) (proposals : List DAGMutationProposal) :
    DAGState :=
  (appliedProposals proposals (applyDagMutationsBatch runId now r proposals).results).foldl
    afterMutation (loadManager runId now r.toRunGraph)

/-- The batch leaves the graph of the manager it stands for. -/
def BatchRefines (runId now : String) (r : DagRun) (proposals : List DAGMutationProposal) : Prop :=
  SameGraph (referenceManager runId now r proposals)
    (applyDagMutationsBatch runId now r proposals).run.toRunGraph

variable (v p) in
/-- The proposals that part the store from a manager with its graph: an update without a status,
which the store reads as pending, and what the manager does not do without approval. -/
def GraphView.Parts : Prop :=
  match p.mutationType with
  | .updateNode => p.text "status" = none ∧
      ∃ nodeId, p.targetNodeId = some nodeId ∧ v.status nodeId ≠ some "pending"
  | .removeNode => v.NeedsApproval p
  | .rewireEdge => v.NeedsApproval p ∧ ∃ edgeId ends, p.targetEdgeId = some edgeId ∧
      v.ends edgeId = some ends ∧ rewiredEnds p ends ≠ ends
  | _ => False

/-- Such a proposal, where the batch lets it through. -/
def Diverges (b : BatchState) (p : DAGMutationProposal) : Prop :=
  b.mgr.Accepts p ∧ b.run.view.Parts p

/-- The manager of a batch knows the nodes and the edges that are stored. -/
structure BatchState.Coherent (b : BatchState) (runId : String) : Prop where
  valid : b.mgr.Valid
  dagId : b.mgr.dagId = runId
  sync : b.mgr.view.Sync b.run.view

lemma batchStep_cases (h : b.mgr.Valid) :
    (∃ result, ¬b.mgr.Accepts p ∧ result.applied = false ∧
        batchStep b p = ⟨b.mgr, b.run, b.results ++ [result]⟩) ∨
      (∃ result, b.mgr.Accepts p ∧ ¬b.run.view.Stores p ∧ result.applied = false ∧
        batchStep b p = ⟨b.mgr.afterMutation p, b.run, b.results ++ [result]⟩ ∧
        b.mgr.Applies p (b.mgr.afterMutation p)) ∨
      (∃ result run, b.mgr.Accepts p ∧ b.run.view.Stores p ∧ result.applied = true ∧
        batchStep b p = ⟨b.mgr.afterMutation p, run, b.results ++ [result]⟩ ∧
        b.mgr.Applies p (b.mgr.afterMutation p) ∧ run.view = b.run.view.persisted p) := by
  unfold batchStep
  rcases afterMutation_cases h with
    ⟨haccepts, hok, happlies⟩ | ⟨hnot, ⟨e, herror⟩, -⟩
  · rw [hok]
    rcases persist_cases haccepts.allows with
      ⟨hstores, r', event, hr', hbecomes⟩ | ⟨hnot, e, herror⟩
    · rw [hr']
      exact .inr (.inr ⟨_, _, haccepts, hstores, rfl, rfl, happlies, hbecomes.view⟩)
    · rw [herror]
      exact .inr (.inl ⟨_, haccepts, hnot, rfl, rfl, happlies⟩)
  · rw [herror]
    exact .inl ⟨_, hnot, rfl, rfl⟩

lemma BatchState.Coherent.step (h : b.Coherent runId) (p : DAGMutationProposal) :
    (batchStep b p).Coherent runId := by
  rcases batchStep_cases h.valid with ⟨result, -, -, heq⟩ |
    ⟨result, haccepts, hnot, -, heq, happlies⟩ | ⟨result, run, haccepts, -, -, heq, happlies, hview⟩
  · rw [heq]
    exact ⟨h.valid, h.dagId, h.sync⟩
  · rw [heq]
    refine ⟨happlies.valid, happlies.dagId.trans h.dagId, ?_⟩
    rw [happlies.view]
    exact h.sync.refused haccepts.allows hnot
  · rw [heq]
    refine ⟨happlies.valid, happlies.dagId.trans h.dagId, ?_⟩
    rw [happlies.view, hview]
    exact h.sync.step haccepts.allows

lemma coherent_batch (runId now : String) (hr : r.view.WellFormed)
    (proposals : List DAGMutationProposal) :
    (applyDagMutationsBatch runId now r proposals).Coherent runId := by
  have hload := holds_loadManager runId now hr
  have hstart : BatchState.Coherent ⟨loadManager runId now r.toRunGraph, r, []⟩ runId :=
    ⟨hload.valid, hload.dagId, hload.view ▸ GraphView.Sync.refl _⟩
  unfold applyDagMutationsBatch
  generalize BatchState.mk (loadManager runId now r.toRunGraph) r [] = b at hstart
  induction proposals generalizing b with
  | nil => exact hstart
  | cons p proposals ih => exact ih _ (hstart.step p)

/-- A batch that runs alone leaves a well-formed graph. -/
theorem batch_wellFormed (hr : r.view.WellFormed) :
    (applyDagMutationsBatch runId now r proposals).run.view.WellFormed :=
  (coherent_batch runId now hr proposals).sync.wellFormed
    (coherent_batch runId now hr proposals).valid.wellFormed

/-! What the store makes of a proposal, and what a manager with the stored graph makes of it. -/

lemma setStatus_eq_iff {nodeId : String} {s t : Option String} :
    v.setStatus nodeId s = v.setStatus nodeId t ↔ s = t := by
  constructor
  · intro h
    have hstatus := congrFun (congrArg status h) nodeId
    change update v.status nodeId s nodeId = update v.status nodeId t nodeId
      at hstatus
    rwa [update_self, update_self] at hstatus
  · rintro rfl
    rfl

lemma setEnds_eq_self_iff {edgeId : String} {ends : Option (String × String)} :
    v.setEnds edgeId ends = v ↔ ends = v.ends edgeId := by
  constructor
  · intro h
    have hends := congrFun (congrArg GraphView.ends h) edgeId
    change update v.ends edgeId ends edgeId = v.ends edgeId at hends
    rwa [update_self] at hends
  · rintro rfl
    exact GraphView.ext rfl (update_eq_self edgeId v.ends)

/-- An update without a status is the only mutation that the store and a manager read
differently. -/
lemma mutated_eq_persisted_iff (h : v.Allows p) :
    v.mutated p = v.persisted p ↔ ¬(p.mutationType = .updateNode ∧ p.text "status" = none ∧
      ∃ nodeId, p.targetNodeId = some nodeId ∧ v.status nodeId ≠ some "pending") := by
  unfold GraphView.Allows at h
  unfold persisted mutated
  cases htype : p.mutationType with
  | removeNode =>
    rw [htype] at h
    obtain ⟨nodeId, hid, -, hfree⟩ := h
    rw [hid, getD_some, GraphView.Sync.dropNode_eq hfree]
    exact iff_of_true rfl fun hupdate => (by cases hupdate.1)
  | updateNode =>
    rw [htype] at h
    obtain ⟨nodeId, hid, hthere⟩ := h
    obtain ⟨status, hstatus⟩ := ne_none_iff_exists'.mp hthere
    simp only [hid, getD_some, hstatus, map_some, setStatus_eq_iff, true_and,
      some.injEq, exists_eq_left']
    cases htext : p.text "status" with
    | none => simp
    | some text => simp
  | addNode | addEdge | removeEdge | rewireEdge | other _ =>
    exact iff_of_true rfl fun hupdate => (by cases hupdate.1)

/-- A mutation that needs approval and is stored all the same shows, unless it is a rewiring to the
ends the edge has. -/
lemma persisted_eq_self_iff (h : v.Allows p) (happroval : v.NeedsApproval p) :
    v = v.persisted p ↔
      p.mutationType = .rewireEdge ∧
        ∀ edgeId ends,
          p.targetEdgeId = some edgeId → v.ends edgeId = some ends → rewiredEnds p ends = ends := by
  unfold GraphView.NeedsApproval at happroval
  unfold GraphView.Allows at h
  unfold persisted mutated
  cases htype : p.mutationType with
  | removeNode =>
    rw [htype] at h
    obtain ⟨nodeId, hid, hthere, -⟩ := h
    refine iff_of_false (fun heq => hthere ?_) fun hrewire => (by cases hrewire.1)
    have hstatus := congrFun (congrArg status heq) nodeId
    rw [hid] at hstatus
    exact hstatus.trans (update_self ..)
  | rewireEdge =>
    rw [htype] at h
    obtain ⟨edgeId, ends, hid, hends, -⟩ := h
    simp only [hid, getD_some, hends, map_some, true_and]
    rw [eq_comm, setEnds_eq_self_iff, hends, some.injEq]
    constructor
    · rintro heq _ ends' ⟨⟩ hends'
      rw [hends] at hends'
      cases hends'
      exact heq
    · exact fun hall => hall edgeId ends rfl hends
  | addNode | addEdge | removeEdge | updateNode | other _ =>
    rw [htype] at happroval
    exact happroval.elim

lemma afterMutation_keeps (h : st.Valid) :
    (st.afterMutation p).Valid ∧ (st.afterMutation p).dagId = st.dagId := by
  rcases afterMutation_cases h with ⟨-, -, happlies⟩ | ⟨-, -, hkept⟩
  · exact ⟨happlies.valid, happlies.dagId⟩
  · rw [hkept]
    exact ⟨h, rfl⟩

lemma foldl_afterMutation_keeps (proposals : List DAGMutationProposal) :
    ∀ {st : DAGState}, st.Valid → (proposals.foldl afterMutation st).Valid ∧
      (proposals.foldl afterMutation st).dagId = st.dagId := by
  induction proposals with
  | nil => exact fun h => ⟨h, rfl⟩
  | cons p proposals ih =>
    intro st h
    obtain ⟨hvalid, hdag⟩ := afterMutation_keeps h
    obtain ⟨hvalid', hdag'⟩ := ih hvalid
    exact ⟨hvalid', hdag'.trans hdag⟩

/-- A manager with the stored graph makes of a proposal what the store makes of it, unless the
proposal parts them. -/
lemma reference_view_iff (h : ref.Holds runId v) (hallows : v.Allows p) (hdag : p.dagId = runId)
    (hflag : p.requiresApproval = false) :
    (ref.afterMutation p).view = v.persisted p ↔ ¬v.Parts p := by
  obtain ⟨hvalid, rfl, rfl⟩ := h
  unfold GraphView.Parts
  rcases afterMutation_cases hvalid with ⟨haccepts, -, happlies⟩ | ⟨hnot, -, hkept⟩
  · rw [happlies.view, mutated_eq_persisted_iff hallows]
    refine not_congr ?_
    cases htype : p.mutationType with
    | updateNode => exact ⟨fun h => h.2, fun h => ⟨rfl, h⟩⟩
    | removeNode =>
      exact iff_of_false (fun h => (by cases h.1)) haccepts.noApproval
    | rewireEdge =>
      exact iff_of_false (fun h => (by cases h.1)) fun h => haccepts.noApproval h.1
    | addNode | addEdge | removeEdge | other _ => exact iff_of_false (fun h => (by cases h.1)) id
  · -- it refuses only for want of an approval, and keeps the graph from before
    have happroval : ref.view.NeedsApproval p := by
      by_contra happroval
      exact hnot ⟨hdag, hflag, happroval, hallows⟩
    rw [hkept, persisted_eq_self_iff hallows happroval]
    cases htype : p.mutationType with
    | removeNode => exact iff_of_false (fun h => (by cases h.1)) (not_not.mpr happroval)
    | rewireEdge =>
      simp only [true_and, not_and, not_exists, not_not]
      exact ⟨fun h _ => h, fun h => h happroval⟩
    | addNode | addEdge | removeEdge | updateNode | other _ =>
      rw [GraphView.NeedsApproval, htype] at happroval
      exact happroval.elim

/-! The batch and its reference, proposal by proposal. -/

section Reference

variable {σ : Type} {f : σ → DAGMutationProposal → σ} {x : σ}

variable (f) in
/-- The reference takes up what the batch reports as applied. -/
def refStep (s : BatchState × σ) (p : DAGMutationProposal) : BatchState × σ :=
  let b := batchStep s.1 p
  (b, if b.results.getLast?.any BatchResult.applied then f s.2 p else s.2)

lemma refStep_eq {b' : BatchState} {result : BatchResult} (h : batchStep b p = b')
    (hresults : b'.results = b.results ++ [result]) :
    refStep f (b, x) p = (b', if result.applied then f x p else x) := by
  unfold refStep
  dsimp only
  rw [h, hresults, getLast?_append, getLast?_singleton, some_or, any_some]

lemma results_batchStep : ∃ result, (batchStep b p).results = b.results ++ [result] := by
  unfold batchStep
  split
  · exact ⟨_, rfl⟩
  · split <;> exact ⟨_, rfl⟩

variable (proposals f) in
lemma foldl_refStep (b : BatchState) (x : σ) :
    ∃ results, (proposals.foldl batchStep b).results = b.results ++ results ∧
      proposals.foldl (refStep f) (b, x) =
        (proposals.foldl batchStep b, (appliedProposals proposals results).foldl f x) := by
  induction proposals generalizing b x with
  | nil => exact ⟨[], (append_nil _).symm, rfl⟩
  | cons p proposals ih =>
    obtain ⟨result, hresult⟩ := results_batchStep
    obtain ⟨results, hresults, hfold⟩ := ih (batchStep b p) (if result.applied then f x p else x)
    refine ⟨result :: results, ?_, ?_⟩
    · rw [foldl_cons, hresults, hresult, append_assoc]
      rfl
    · rw [foldl_cons, foldl_cons, refStep_eq rfl hresult, hfold]
      unfold appliedProposals
      rw [zip_cons_cons, filter_cons]
      cases result.applied <;> rfl

/-- A batch and what its applied proposals make of `x`. -/
lemma batch_and_reference :
    proposals.foldl (refStep f) (⟨loadManager runId now r.toRunGraph, r, []⟩, x) =
      (applyDagMutationsBatch runId now r proposals,
        (appliedProposals proposals (applyDagMutationsBatch runId now r proposals).results).foldl
          f x) := by
  obtain ⟨results, hresults, hfold⟩ :=
    foldl_refStep proposals f ⟨loadManager runId now r.toRunGraph, r, []⟩ x
  have hsame : (applyDagMutationsBatch runId now r proposals).results = results := hresults
  rw [hfold, hsame]
  rfl

end Reference

/-- The two have the stored graph. -/
structure Agree (runId : String) (s : BatchState × DAGState) : Prop where
  coherent : s.1.Coherent runId
  holds : s.2.Holds runId s.1.run.view

/-- Only an update is refused by the store, and only for the status it names. -/
lemma not_parts_of_not_stores {m : GraphView} (h : m.Sync v) (hallows : m.Allows p)
    (hnot : ¬v.Stores p) : ¬v.Parts p := by
  rw [h.stores_iff hallows, Classical.not_imp] at hnot
  obtain ⟨htype, hinvalid⟩ := hnot
  rw [GraphView.Parts, htype]
  rintro ⟨hnone, -⟩
  rw [hnone] at hinvalid
  exact hinvalid (by decide)

lemma refStep_agree_iff (s : BatchState × DAGState) (p : DAGMutationProposal) (h : Agree runId s) :
    Agree runId (refStep afterMutation s p) ↔ ¬Diverges s.1 p := by
  obtain ⟨hcoherent, hholds⟩ := h
  have hnext := hcoherent.step p
  rcases batchStep_cases hcoherent.valid with ⟨result, hnot, hresult, heq⟩ |
    ⟨result, haccepts, hnot, hresult, heq, -⟩ | ⟨result, run, haccepts, -, hresult, heq, -, hview⟩
  · rw [refStep_eq heq rfl, hresult]
    rw [heq] at hnext
    exact iff_of_true ⟨hnext, hholds⟩ fun hdiverges => hnot hdiverges.1
  · rw [refStep_eq heq rfl, hresult]
    rw [heq] at hnext
    refine iff_of_true ⟨hnext, hholds⟩ fun hdiverges => ?_
    exact not_parts_of_not_stores hcoherent.sync haccepts.allows hnot hdiverges.2
  · rw [refStep_eq heq rfl, hresult]
    rw [heq] at hnext
    obtain ⟨hvalid, hdag⟩ := afterMutation_keeps hholds.valid
    have hiff := reference_view_iff hholds (hcoherent.sync.allows haccepts.allows)
      (haccepts.dagId.trans hcoherent.dagId) haccepts.noFlag
    constructor
    · intro hagree hdiverges
      exact hiff.mp (hagree.holds.view.trans hview) hdiverges.2
    · intro hnot
      have hsame := hiff.mpr fun hparts => hnot ⟨haccepts, hparts⟩
      exact ⟨hnext, hvalid, hdag.trans hholds.dagId, hsame.trans hview.symm⟩

lemma valid_loadManager (runId now : String) (g : RunGraph) :
    (loadManager runId now g).Valid ∧ (loadManager runId now g).dagId = runId :=
  foldl_afterMutation_keeps _ (holds_new runId now).valid

lemma batchRefines_iff_agree (runId now : String) (hr : r.view.WellFormed) :
    BatchRefines runId now r proposals ↔
      Agree runId
        (applyDagMutationsBatch runId now r proposals, referenceManager runId now r proposals) := by
  obtain ⟨hloaded, hloadedDag⟩ := valid_loadManager runId now r.toRunGraph
  have hkeeps := foldl_afterMutation_keeps
    (appliedProposals proposals (applyDagMutationsBatch runId now r proposals).results) hloaded
  obtain ⟨hvalid, hdag⟩ : (referenceManager runId now r proposals).Valid ∧
      (referenceManager runId now r proposals).dagId = _ := hkeeps
  rw [BatchRefines, sameGraph_iff hvalid]
  constructor
  · exact fun hview => ⟨coherent_batch runId now hr proposals, hvalid, hdag.trans hloadedDag, hview⟩
  · exact fun hagree => hagree.holds.view

/-- A batch leaves the graph of its reference after every one of its proposals just in case the
graph it starts from is well formed and no proposal parts the two. -/
theorem batch_refines_iff (runId now : String) (r : DagRun)
    (proposals : List DAGMutationProposal) :
    (∀ n, BatchRefines runId now r (proposals.take n)) ↔
      r.view.WellFormed ∧ ∀ n p, proposals[n]? = some p →
        ¬Diverges (applyDagMutationsBatch runId now r (proposals.take n)) p := by
  have hwell : (∀ n, BatchRefines runId now r (proposals.take n)) → r.view.WellFormed := by
    intro hall
    have hvalid := (valid_loadManager runId now r.toRunGraph).1
    have hview := (sameGraph_iff hvalid).mp (hall 0)
    exact hview ▸ hvalid.wellFormed
  have hiff (hr : r.view.WellFormed) : (∀ n, BatchRefines runId now r (proposals.take n)) ↔
      ∀ n p, proposals[n]? = some p →
        ¬Diverges (applyDagMutationsBatch runId now r (proposals.take n)) p := by
    have hload := holds_loadManager runId now hr
    have hstart : Agree runId (⟨loadManager runId now r.toRunGraph, r, []⟩,
        loadManager runId now r.toRunGraph) :=
      ⟨coherent_batch runId now hr [], hload⟩
    have hruns := foldl_keeps_iff refStep_agree_iff hstart proposals
    simp only [batch_and_reference] at hruns
    simp only [batchRefines_iff_agree runId now hr]
    exact hruns
  exact ⟨fun hall => ⟨hwell hall, (hiff (hwell hall)).mp hall⟩, fun h => (hiff h.1).mpr h.2⟩

/-! A node that is done, and an update of its tier. -/

def doneRun : DagRun where
  nodes := Table.empty.insert
    { nodeId := "n"
      taskType := "task"
      status := "completed"
      profileId := none
      nodeJson := .obj [("node_id", .str "n")]
      named := rfl }
  edges := Table.empty
  events := []

def tierUpdate : DAGMutationProposal where
  proposalId := "p1"
  dagId := "run"
  mutationType := .updateNode
  targetNodeId := some "n"
  targetEdgeId := none
  payload := [("tier", .str "strong_planner")]
  reason := "escalate"
  requiresApproval := false

/-- The store makes it pending again. -/
theorem tier_update_reopens : ¬BatchRefines "run" "now" doneRun [tierUpdate] := by
  intro h
  have hperm := h.nodes
  revert hperm
  decide

/-! Two nodes, and edges between them. -/

def pendingNode (nodeId : String) : DagNodeRow where
  nodeId := nodeId
  taskType := "task"
  status := "pending"
  profileId := none
  nodeJson := .obj [("node_id", .str nodeId)]
  named := rfl

def twoNodes : DagRun where
  nodes := (Table.empty.insert (pendingNode "a")).insert (pendingNode "b")
  edges := Table.empty
  events := []

def joinNodes (edgeId a b : String) : DAGMutationProposal where
  proposalId := edgeId
  dagId := "run"
  mutationType := .addEdge
  targetNodeId := none
  targetEdgeId := none
  payload := [("edge_id", .str edgeId), ("from_node", .str a), ("to_node", .str b)]
  reason := "order"
  requiresApproval := false

lemma wellFormed_twoNodes : twoNodes.view.WellFormed := by
  refine ⟨nofun, fun a hcycle => ?_⟩
  obtain ⟨b, ⟨edgeId, hab⟩, -⟩ := Relation.TransGen.head'_iff.mp hcycle
  cases hab

def joinedNodes : DagRun :=
  (applyDagMutationsBatch "run" "now" twoNodes [joinNodes "ab" "a" "b"]).run

/-- A second edge beside the first is applied, one against it is not. -/
theorem batch_wellFormed_joinedNodes :
    let b := applyDagMutationsBatch "run" "now" joinedNodes
      [joinNodes "ab2" "a" "b", joinNodes "ba" "b" "a"]
    joinedNodes.view.WellFormed ∧
      joinedNodes.view.Edge "a" "b" ∧
      b.results.map BatchResult.applied = [true, false] ∧
      b.run.view.WellFormed := by
  have hjoined : joinedNodes.view.WellFormed := batch_wellFormed wellFormed_twoNodes
  exact ⟨hjoined, ⟨"ab", by decide⟩, by decide, batch_wellFormed hjoined⟩

end Harness
