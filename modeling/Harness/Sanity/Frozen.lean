import Harness.Sanity.ValidTree

/-! The shape of a tree is what is left when everything execution moves is reset;
only admissions change it. -/

namespace Harness

open Lib List Table RecursiveNode

def RecursiveNode.frozen (n : RecursiveNode) : RecursiveNode :=
  { n.shell with status := .ready, leaseId := none, failureReason := none, retryCount := 0 }

def frozenNodes (nodes : NodeTable) : NodeTable := nodes.map frozen

variable {nodes : NodeTable} {k : String}

lemma rows_frozenNodes :
    (frozenNodes nodes).rows = nodes.rows.map frozen := rfl

lemma find?_frozenNodes : (frozenNodes nodes).find? k = (nodes.find? k).map frozen :=
  find?_map _ _ _

lemma frozenNodes_modify {f : RecursiveNode → RecursiveNode} {hf : ∀ n, (f n).nodeId = n.nodeId}
    (h : ∀ n, (f n).frozen = n.frozen) : frozenNodes (nodes.modify k f hf) = frozenNodes nodes := by
  ext1
  rw [rows_frozenNodes, rows_frozenNodes, map_modify _ _ _ _ fun n _ => h n]

namespace RecursiveTree

variable {x : Externals} {t s u : RecursiveTree}

def frozen (t : RecursiveTree) : RecursiveTree :=
  { t.shell with
    nodes := frozenNodes t.nodes
    executionState := .running
    activeLeases := ∅
    usageReceipts := .empty }

def SameShape (t s : RecursiveTree) : Prop := t.frozen = s.frozen

lemma SameShape.refl (t : RecursiveTree) : SameShape t t := rfl

lemma SameShape.trans (h : SameShape t s) (h' : SameShape s u) : SameShape t u := Eq.trans h h'

variable {leases : Finset String} {state : RecursiveExecutionState} {n : RecursiveNode} {k : String}
  {version : ℕ}

/-- Trees of one shape have the same nodes, as admitted. -/
lemma SameShape.exists_find? (h : SameShape s t) (hn : t.nodes.find? k = some n) :
    ∃ m, s.nodes.find? k = some m ∧ m.frozen = n.frozen := by
  have h' : s.frozen = t.frozen := h
  have hf : (s.nodes.find? k).map RecursiveNode.frozen = (t.nodes.find? k).map RecursiveNode.frozen := by
    rw [← find?_frozenNodes, ← find?_frozenNodes]
    exact congrArg (fun r : RecursiveTree => r.nodes.find? k) h'
  rw [hn, Option.map_some, Option.map_eq_some_iff] at hf
  exact hf

lemma SameShape.rootNodeId (h : SameShape s t) : s.rootNodeId = t.rootNodeId := by
  have h' := congrArg RecursiveTree.rootNodeId (show s.frozen = t.frozen from h)
  exact h'

lemma frozenNodes_of_shellNodes {a b : NodeTable} (h : shellNodes a = shellNodes b) :
    frozenNodes a = frozenNodes b := by
  have key : ∀ nodes : NodeTable, frozenNodes nodes = frozenNodes (shellNodes nodes) := by
    intro nodes
    ext1
    rw [rows_frozenNodes, rows_frozenNodes, rows_shellNodes, map_map]
    rfl
  rw [key, h, ← key]

lemma Alike.sameShape (h : Alike t s) : SameShape t s := by
  have hn := frozenNodes_of_shellNodes h.nodes
  have h' : t.shell = s.shell := h
  unfold SameShape frozen
  rw [hn, h']

/-- Whatever execution moves, the shape stays. -/
lemma sameShape_of_nodes {nodes : NodeTable} (h : frozenNodes nodes = frozenNodes t.nodes)
    {free spent reserved : RecursiveBudget} {usage : TextMap String} :
    SameShape { t with
      nodes := nodes, rootBudget := free, spentBudget := spent, reservedBudget := reserved,
      executionState := state, version := version, activeLeases := leases,
      usageReceipts := usage } t := by
  unfold SameShape frozen
  simp only [h]
  rfl

lemma sameShape_modify {f : RecursiveNode → RecursiveNode} {hf : ∀ n, (f n).nodeId = n.nodeId}
    (h : ∀ n, (f n).frozen = n.frozen) :
    SameShape { t with
      nodes := t.nodes.modify k f hf, executionState := state, version := version,
      activeLeases := leases } t :=
  sameShape_of_nodes (frozenNodes_modify h)

lemma sameShape_endAttempt (t : RecursiveTree) (k leaseId : String) (completed : Bool)
    (reason : Option RecursiveFailureReason) :
    SameShape (t.endAttempt k leaseId completed reason) t := by
  refine sameShape_of_nodes ?_
  exact frozenNodes_modify fun n => rfl

lemma sameShape_recordFreshUsage {receiptId : String} {usage : RecursiveBudget} {consumes : Bool} :
    SameShape (t.recordFreshUsage receiptId usage consumes) t :=
  sameShape_of_nodes rfl

lemma sameShape_failWhere {reason : RecursiveFailureReason} {q : RecursiveNode → Bool} :
    SameShape (t.failWhere reason q) t := by
  refine sameShape_of_nodes ?_
  ext1
  rw [rows_frozenNodes, rows_frozenNodes, rows_map, map_map]
  refine map_congr_left fun n _ => ?_
  by_cases hq : q n <;> simp [hq, fail, finish, RecursiveNode.frozen,
    RecursiveNode.shell]

lemma validateLineage_frozen : t.frozen.validateLineage n.frozen = t.validateLineage n := by
  unfold validateLineage
  have hp : n.frozen.parentNodeId = n.parentNodeId := rfl
  rw [hp]
  cases n.parentNodeId with
  | none => rfl
  | some p =>
    have hf : t.frozen.nodes.find? p = (t.nodes.find? p).map RecursiveNode.frozen :=
      find?_frozenNodes
    simp only [hf]
    cases t.nodes.find? p <;> rfl

lemma validateRoot_frozen : t.frozen.validateRoot = t.validateRoot := by
  unfold validateRoot
  have hf : t.frozen.nodes.find? t.frozen.rootNodeId =
      (t.nodes.find? t.rootNodeId).map RecursiveNode.frozen := find?_frozenNodes
  rw [hf]
  cases t.nodes.find? t.rootNodeId <;> rfl

lemma nodeShape_frozen : NodeShape x t.frozen n.frozen ↔ NodeShape x t n := by
  constructor
  · intro h
    exact { h with lineage := validateLineage_frozen ▸ h.lineage }
  · intro h
    exact { h with lineage := validateLineage_frozen.symm ▸ h.lineage }

lemma shape_frozen : Shape x t.frozen ↔ Shape x t := by
  have hrows : t.frozen.nodes.rows = t.nodes.rows.map RecursiveNode.frozen := rfl
  have hsize : t.frozen.nodes.size = t.nodes.size := by simp [size, hrows]
  have hnode : (∀ n ∈ t.frozen.nodes.rows, NodeShape x t.frozen n) ↔
      ∀ n ∈ t.nodes.rows, NodeShape x t n := by
    rw [hrows, forall_mem_map]
    exact forall₂_congr fun n _ => nodeShape_frozen
  have hfp : t.frozen.nodes.rows.map RecursiveNode.objectiveFingerprint =
      t.nodes.rows.map RecursiveNode.objectiveFingerprint := by
    rw [hrows, map_map]
    rfl
  have hpr : t.frozen.nodes.rows.filterMap RecursiveNode.proposalId =
      t.nodes.rows.filterMap RecursiveNode.proposalId := by
    rw [hrows, filterMap_map]
    rfl
  have hcount : ∀ k, (t.frozen.nodes.rows.countP fun m => m.parentNodeId = some k) =
      t.nodes.rows.countP fun m => m.parentNodeId = some k := by
    intro k
    rw [hrows, countP_map]
    rfl
  have hcounts : (∀ n ∈ t.frozen.nodes.rows, n.acceptedChildren =
        t.frozen.nodes.rows.countP fun m => m.parentNodeId = some n.nodeId) ↔
      ∀ n ∈ t.nodes.rows, n.acceptedChildren =
        t.nodes.rows.countP fun m => m.parentNodeId = some n.nodeId := by
    simp only [hcount]
    rw [hrows, forall_mem_map]
    rfl
  have hacc : ∀ p, (∃ n ∈ t.frozen.nodes.rows, n.proposalId = some p) ↔
      ∃ n ∈ t.nodes.rows, n.proposalId = some p := by
    intro p
    rw [hrows]
    simp only [mem_map, exists_exists_and_eq_and]
    rfl
  constructor
  · intro h
    exact
      { h with
        size_le := hsize ▸ h.size_le
        root := validateRoot_frozen ▸ h.root
        node := hnode.mp h.node
        fingerprints := hfp ▸ h.fingerprints
        proposals := hpr ▸ h.proposals
        counts := hcounts.mp h.counts
        accepted := fun p hp => ⟨(hacc p).mp (h.accepted p hp).1, (h.accepted p hp).2⟩ }
  · intro h
    exact
      { h with
        size_le := hsize.symm ▸ h.size_le
        root := validateRoot_frozen.symm ▸ h.root
        node := hnode.mpr h.node
        fingerprints := hfp.symm ▸ h.fingerprints
        proposals := hpr.symm ▸ h.proposals
        counts := hcounts.mpr h.counts
        accepted := fun p hp => ⟨(hacc p).mpr (h.accepted p hp).1, (h.accepted p hp).2⟩ }

lemma shape_congr (h : Shape x t) (hs : SameShape s t) : Shape x s := by
  rw [← shape_frozen, show s.frozen = t.frozen from hs, shape_frozen]
  exact h

end RecursiveTree

end Harness
