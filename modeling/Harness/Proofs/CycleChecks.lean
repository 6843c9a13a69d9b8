import Harness.Sanity.GraphViews
import Harness.Spec.WorkflowEngine

/-! The DAG manager looks for a cycle with a stack, the dependency resolver by recursion. -/

namespace Harness

open Lib

variable {F : Type} {nodes : List DAGNode} {edges : List DAGEdge} {g : Engine.WorkflowGraph F}
  {order : List String}

/-- An edge between two nodes that are there. -/
def Arc (nodes : List DAGNode) (edges : List DAGEdge) (a b : String) : Prop :=
  a ∈ nodes.map DAGNode.nodeId ∧ b ∈ nodes.map DAGNode.nodeId ∧
    ∃ e ∈ edges, e.fromNode = a ∧ e.toNode = b

/-- Both searches are exact, in whatever order the resolver's map of colors has the nodes. -/
theorem cycle_checks_exact (hnodes : g.nodes.map (·.nodeId) = nodes.map DAGNode.nodeId)
    (hedges : g.edges.map (fun e => (e.fromNodeId, e.toNodeId)) =
      edges.map fun e => (e.fromNode, e.toNode))
    (horder : ∀ a, a ∈ order ↔ a ∈ nodes.map DAGNode.nodeId) :
    (hasCycle nodes edges = true ↔ ∃ a, Relation.TransGen (Arc nodes edges) a a) ∧
      (g.hasCycle order = true ↔ ∃ a, Relation.TransGen (Arc nodes edges) a a) ∧
        g.hasCycle order = hasCycle nodes edges := by
  have hmanager : hasCycle nodes edges = true ↔ ∃ a, Relation.TransGen (Arc nodes edges) a a :=
    hasCycle_eq_true_iff
  have hresolver :
      g.hasCycle order = true ↔ ∃ a, Relation.TransGen (Arc nodes edges) a a := by
    have hedge : CycleSearch.Edge (fun nid => (g.edges.filter fun e => e.fromNodeId = nid).map
        (·.toNodeId)) (g.nodes.map (·.nodeId)) = Arc nodes edges := by
      funext a b
      have hends : (∃ e ∈ g.edges, e.fromNodeId = a ∧ e.toNodeId = b) ↔
          ∃ e ∈ edges, e.fromNode = a ∧ e.toNode = b := by
        have hmem := congrArg ((a, b) ∈ ·) hedges
        simpa using hmem
      simp [CycleSearch.Edge, Arc, hnodes, ← hends, and_assoc]
    unfold Engine.WorkflowGraph.hasCycle
    rw [CycleSearch.dfsAll_eq_true_iff (by rwa [hnodes]), CycleSearch.Cyclic, hedge]
  exact ⟨hmanager, hresolver, Bool.eq_iff_iff.mpr (hresolver.trans hmanager.symm)⟩

theorem cycle_checks_exact_ring :
    ∃ (nodes : List DAGNode) (edges : List DAGEdge) (g : Engine.WorkflowGraph Unit),
      g.hasCycle ["b", "a"] = hasCycle nodes edges ∧ hasCycle nodes edges = true :=
  ⟨["a", "b"].map (⟨·, none, "task", "pending", "cheap_executor", []⟩),
    [⟨"e1", "a", "b", "dependency", "active"⟩, ⟨"e2", "b", "a", "dependency", "active"⟩],
    { nodes := ["a", "b"].map (⟨·, "pending", none, none, none, none, ()⟩)
      edges := [⟨"a", "b", "dependency"⟩, ⟨"b", "a", "dependency"⟩]
      status := "created", updatedAt := "t0", startedAt := none, completedAt := none
      result := none },
    (cycle_checks_exact rfl rfl (by simp [or_comm])).2.2, by decide +kernel⟩

end Harness
