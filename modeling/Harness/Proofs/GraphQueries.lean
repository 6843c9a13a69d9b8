import Harness.Proofs.DagHistory

/-! The nodes that a manager says may go next, round after round. -/

namespace Harness.DAGManager

open Lib List DAGState

variable {m : DAGManager}

/-- An edge of the manager's graph. -/
def Leads (m : DAGManager) (a b : String) : Prop := ∃ e ∈ m.state.edges, e.fromNode = a ∧ e.toNode = b

section Valid

variable (h : m.state.Valid)
include h

lemma mem_nodeIds_of_leads {a b : String} (hab : m.Leads a b) : a ∈ m.nodeIds ∧ b ∈ m.nodeIds := by
  obtain ⟨edgeId, hends⟩ := (edge_iff h.edgesKeyed).mpr hab
  obtain ⟨ha, hb⟩ := h.wellFormed.connected edgeId a b hends
  exact ⟨findNode_isNone.mp (status_ne_none_iff.mp ha),
    findNode_isNone.mp (status_ne_none_iff.mp hb)⟩

lemma acyclic_leads (a : String) : ¬Relation.TransGen m.Leads a a := fun hcycle =>
  h.wellFormed.acyclic a
    (Relation.TransGen.mono (fun _ _ => (edge_iff h.edgesKeyed).mpr) a a hcycle)

end Valid

def completeReady (m : DAGManager) (completed : Finset String) : Finset String :=
  completed ∪ ((m.nodesReady completed).map DAGNode.nodeId).toFinset

section Ready

variable {completed : Finset String} (hpending : ∀ n ∈ m.state.nodes, n.status = "pending")
include hpending

lemma mem_nodesReady {n : DAGNode} :
    n ∈ m.nodesReady completed ↔
      n ∈ m.state.nodes ∧ n.nodeId ∉ completed ∧ ∀ a, m.Leads a n.nodeId → a ∈ completed := by
  have hleads : (∀ a, m.Leads a n.nodeId → a ∈ completed) ↔
      ∀ e ∈ m.state.edges, e.toNode = n.nodeId → e.fromNode ∈ completed :=
    ⟨fun hall e he hto => hall e.fromNode ⟨e, he, rfl, hto⟩,
      fun hall a ⟨e, he, hfrom, hto⟩ => hfrom ▸ hall e he hto⟩
  rw [nodesReady, mem_insertionSort, mem_filter, hleads]
  refine and_congr_right fun hn => ?_
  simp [hpending n hn, imp_iff_not_or]

variable (h : m.state.Valid)
include h

/-- Of the nodes that are left, one has nothing before it that is left. -/
lemma nodesReady_ne_nil (hmissing : ∃ n ∈ m.state.nodes, n.nodeId ∉ completed) :
    m.nodesReady completed ≠ [] := by
  obtain ⟨n, hn, hnot⟩ := hmissing
  have hleft : m.nodeIds.filter (· ∉ completed) ≠ [] := ne_nil_of_mem
    (mem_filter.mpr ⟨mem_map_of_mem hn, decide_eq_true hnot⟩)
  obtain ⟨b, hb, hsource⟩ := CycleSearch.exists_source (acyclic_leads h) hleft
  obtain ⟨hb, hbnot⟩ := mem_filter.mp hb
  obtain ⟨n', hn', rfl⟩ := mem_map.mp hb
  refine ne_nil_of_mem ((mem_nodesReady hpending).mpr ⟨hn', of_decide_eq_true hbnot, ?_⟩)
  intro a hab
  by_contra ha
  exact hsource a (mem_filter.mpr ⟨(mem_nodeIds_of_leads h hab).1, decide_eq_true ha⟩) hab

lemma card_left_completeReady :
    (m.nodeIds.toFinset \ m.completeReady completed).card ≤
      (m.nodeIds.toFinset \ completed).card - 1 := by
  have hsub : m.nodeIds.toFinset \ m.completeReady completed ⊆ m.nodeIds.toFinset \ completed :=
    Finset.sdiff_subset_sdiff subset_rfl Finset.subset_union_left
  by_cases hmissing : ∃ n ∈ m.state.nodes, n.nodeId ∉ completed
  · obtain ⟨n, hready⟩ := exists_mem_of_ne_nil _ (nodesReady_ne_nil hpending h hmissing)
    obtain ⟨hn, hnot, -⟩ := (mem_nodesReady hpending).mp hready
    have hleft : n.nodeId ∈ m.nodeIds.toFinset \ completed :=
      Finset.mem_sdiff.mpr ⟨mem_toFinset.mpr (mem_map_of_mem hn), hnot⟩
    have hdone : n.nodeId ∉ m.nodeIds.toFinset \ m.completeReady completed := by
      refine fun hmem => (Finset.mem_sdiff.mp hmem).2 (Finset.mem_union_right _ ?_)
      exact mem_toFinset.mpr (mem_map_of_mem hready)
    exact Nat.le_sub_one_of_lt (Finset.card_lt_card ⟨hsub, fun hback => hdone (hback hleft)⟩)
  · have hnone : m.nodeIds.toFinset \ completed = ∅ := by
      refine Finset.sdiff_eq_empty_iff_subset.mpr fun id hid => ?_
      obtain ⟨n, hn, rfl⟩ := mem_map.mp (mem_toFinset.mp hid)
      by_contra hnot
      exact hmissing ⟨n, hn, hnot⟩
    rw [hnone] at hsub ⊢
    rw [Finset.subset_empty.mp hsub]
    exact Nat.zero_le _

lemma card_left_rounds (k : ℕ) :
    (m.nodeIds.toFinset \ m.completeReady^[k] completed).card ≤
      (m.nodeIds.toFinset \ completed).card - k := by
  induction k with
  | zero => exact le_rfl
  | succ k ih =>
    rw [Function.iterate_succ_apply']
    have hround := @card_left_completeReady m (m.completeReady^[k] completed) hpending h
    omega

end Ready

/-- As long as nodes are left, some are ready and may go next; one round for each node is enough
for all. -/
theorem ready_sets_progress (dagId timestamp : String) (calls : List Call)
    (hpending : ∀ n ∈ ((new dagId timestamp).run calls).state.nodes, n.status = "pending")
    (completed : Finset String) :
    let m := (new dagId timestamp).run calls
    ((∃ n ∈ m.state.nodes, n.nodeId ∉ completed) → m.nodesReady completed ≠ []) ∧
      (∀ n ∈ m.nodesReady completed, n ∈ m.state.nodes ∧ n.nodeId ∉ completed ∧
        ∀ a, m.Leads a n.nodeId → a ∈ completed) ∧
      ∀ id ∈ m.nodeIds, id ∈ m.completeReady^[m.nodeIds.length] completed := by
  intro m
  have h : m.state.Valid := (stacked_run dagId timestamp calls).valid
  refine ⟨nodesReady_ne_nil hpending h, fun n => (mem_nodesReady hpending).mp, fun id hid => ?_⟩
  have hleft := @card_left_rounds m completed hpending h m.nodeIds.length
  have hcard : (m.nodeIds.toFinset \ completed).card ≤ m.nodeIds.length :=
    (Finset.card_le_card Finset.sdiff_subset).trans (toFinset_card_le _)
  rw [Nat.sub_eq_zero_of_le hcard, Nat.le_zero, Finset.card_eq_zero,
    Finset.sdiff_eq_empty_iff_subset] at hleft
  exact hleft (mem_toFinset.mpr hid)

def nodeProposal (nodeId : String) : DAGMutationProposal where
  proposalId := nodeId
  dagId := "dag"
  mutationType := .addNode
  targetNodeId := none
  targetEdgeId := none
  payload := [("node_id", .str nodeId)]
  reason := ""
  requiresApproval := false

def twoNodes : List Call :=
  [.applyMutation (nodeProposal "a"), .applyMutation (nodeProposal "b"),
    .applyMutation { nodeProposal "ab" with
      mutationType := .addEdge
      payload := [("edge_id", .str "ab"), ("from_node", .str "a"), ("to_node", .str "b")] }]

theorem ready_sets_progress_two :
    (∀ n ∈ ((new "dag" "t0").run twoNodes).state.nodes, n.status = "pending") ∧
      "b" ∈ ((new "dag" "t0").run twoNodes).completeReady^[2] ∅ :=
  ⟨by decide, (ready_sets_progress "dag" "t0" twoNodes (by decide) ∅).2.2 "b" (by decide)⟩

end Harness.DAGManager
