import Harness.Lib.KeyedList
import Harness.Spec.DagMutations

/-! What a graph is to those who use it: the nodes with their statuses, and the edges with their
ends. The manager's graph and the stored one are both read this way, and so is what a proposal does
to either. -/

namespace Harness

open Except List Function

open Lib

@[ext]
structure GraphView where
  status : String → Option String
  ends : String → Option (String × String)

variable {nodeId : String}

namespace GraphView

variable (v : GraphView)

def Edge (a b : String) : Prop := ∃ edgeId, v.ends edgeId = some (a, b)

def Acyclic : Prop := ∀ a, ¬Relation.TransGen v.Edge a a

structure WellFormed : Prop where
  connected : ∀ edgeId a b, v.ends edgeId = some (a, b) → v.status a ≠ none ∧ v.status b ≠ none
  acyclic : v.Acyclic

def setStatus (nodeId : String) (status : Option String) : GraphView :=
  { v with status := update v.status nodeId status }

def setEnds (edgeId : String) (ends : Option (String × String)) : GraphView :=
  { v with ends := update v.ends edgeId ends }

def dropNode (nodeId : String) : GraphView where
  status := update v.status nodeId none
  ends edgeId := (v.ends edgeId).filter fun e => e.1 ≠ nodeId && e.2 ≠ nodeId

/-- The ends that a proposal gives to an edge with these. -/
def rewiredEnds (p : DAGMutationProposal) (ends : String × String) : String × String :=
  ((p.text "from_node").getD ends.1, (p.text "to_node").getD ends.2)

variable {v} {v' : GraphView}

lemma Acyclic.mono (h : v.Acyclic) (hedge : ∀ a b, v'.Edge a b → v.Edge a b) : v'.Acyclic :=
  fun a hcycle => h a (Relation.TransGen.mono hedge a a hcycle)

variable {edgeId : String}

lemma Edge.of_setEnds_none {a b : String} (h : (v.setEnds edgeId none).Edge a b) : v.Edge a b := by
  obtain ⟨id, hid⟩ := h
  change update v.ends edgeId none id = _ at hid
  by_cases heq : id = edgeId
  · rw [heq, update_self] at hid
    cases hid
  · rw [update_of_ne heq] at hid
    exact ⟨id, hid⟩

lemma WellFormed.setStatus (h : v.WellFormed) {status : String} :
    (v.setStatus nodeId (some status)).WellFormed where
  connected edgeId a b he := by
    have hsome : ∀ c, v.status c ≠ none → update v.status nodeId (some status) c ≠ none := by
      intro c hc
      by_cases heq : c = nodeId
      · rw [heq, update_self]
        exact Option.some_ne_none _
      · rwa [update_of_ne heq]
    obtain ⟨ha, hb⟩ := h.connected edgeId a b he
    exact ⟨hsome a ha, hsome b hb⟩
  acyclic := h.acyclic

lemma WellFormed.dropNode (h : v.WellFormed)
    (nodeId : String) : (v.dropNode nodeId).WellFormed where
  connected edgeId a b he := by
    obtain ⟨he, hkept⟩ := Option.filter_eq_some_iff.mp he
    obtain ⟨ha, hb⟩ := (Bool.and_eq_true _ _).mp hkept
    obtain ⟨hsa, hsb⟩ := h.connected edgeId a b he
    change update v.status nodeId none a ≠ none ∧
      update v.status nodeId none b ≠ none
    rw [update_of_ne (of_decide_eq_true ha), update_of_ne (of_decide_eq_true hb)]
    exact ⟨hsa, hsb⟩
  acyclic := h.acyclic.mono fun a b ⟨edgeId, he⟩ => ⟨edgeId, (Option.filter_eq_some_iff.mp he).1⟩

lemma WellFormed.removeEnds (h : v.WellFormed) (edgeId : String) :
    (v.setEnds edgeId none).WellFormed where
  connected id a b he := by
    change update v.ends edgeId none id = _ at he
    by_cases heq : id = edgeId
    · rw [heq, update_self] at he
      cases he
    · rw [update_of_ne heq] at he
      exact h.connected id a b he
  acyclic := h.acyclic.mono fun _ _ he => he.of_setEnds_none

/-- An edge with these ends keeps the graph well formed just in case its ends are there and it
closes no cycle. -/
lemma WellFormed.setEnds_iff (h : v.WellFormed) {a b : String} :
    (v.setEnds edgeId (some (a, b))).WellFormed ↔
      v.status a ≠ none ∧ v.status b ≠ none ∧ (v.setEnds edgeId (some (a, b))).Acyclic := by
  constructor
  · intro h'
    obtain ⟨ha, hb⟩ := h'.connected edgeId a b (update_self ..)
    exact ⟨ha, hb, h'.acyclic⟩
  · rintro ⟨ha, hb, hacyclic⟩
    refine ⟨fun id c d he => ?_, hacyclic⟩
    change update v.ends edgeId _ id = _ at he
    by_cases heq : id = edgeId
    · rw [heq, update_self] at he
      cases he
      exact ⟨ha, hb⟩
    · rw [update_of_ne heq] at he
      exact h.connected id c d he

variable (v)

/-- What a manager asks of its graph before it applies a proposal, approval apart. -/
def Allows (p : DAGMutationProposal) : Prop :=
  match p.mutationType with
  | .addNode => ∃ nodeId, p.text "node_id" = some nodeId ∧ v.status nodeId = none
  | .removeNode => ∃ nodeId, p.targetNodeId = some nodeId ∧ v.status nodeId ≠ none ∧
      ∀ edgeId a b, v.ends edgeId = some (a, b) → a ≠ nodeId ∧ b ≠ nodeId
  | .addEdge => ∃ edgeId a b, p.text "edge_id" = some edgeId ∧ p.text "from_node" = some a ∧
      p.text "to_node" = some b ∧ v.ends edgeId = none ∧ (v.setEnds edgeId (some (a, b))).WellFormed
  | .removeEdge => ∃ edgeId, p.targetEdgeId = some edgeId ∧ v.ends edgeId ≠ none
  | .rewireEdge => ∃ edgeId ends, p.targetEdgeId = some edgeId ∧ v.ends edgeId = some ends ∧
      (v.setEnds edgeId (some (rewiredEnds p ends))).WellFormed
  | .updateNode => ∃ nodeId, p.targetNodeId = some nodeId ∧ v.status nodeId ≠ none
  | .other _ => False

/-- The statuses that a proposal may not touch without approval. -/
def NeedsApproval (p : DAGMutationProposal) : Prop :=
  match p.mutationType with
  | .removeNode => ∃ nodeId, p.targetNodeId = some nodeId ∧
      (v.status nodeId = some "running" ∨ v.status nodeId = some "completed")
  | .rewireEdge => ∃ edgeId a b, p.targetEdgeId = some edgeId ∧ v.ends edgeId = some (a, b) ∧
      v.status a = some "completed"
  | _ => False

/-- What a manager makes of its graph. -/
def mutated (p : DAGMutationProposal) : GraphView :=
  match p.mutationType with
  | .addNode => v.setStatus ((p.text "node_id").getD "") (some ((p.text "status").getD "pending"))
  | .removeNode => v.setStatus (p.targetNodeId.getD "") none
  | .addEdge => v.setEnds ((p.text "edge_id").getD "")
      (some ((p.text "from_node").getD "", (p.text "to_node").getD ""))
  | .removeEdge => v.setEnds (p.targetEdgeId.getD "") none
  | .rewireEdge => v.setEnds (p.targetEdgeId.getD "")
      ((v.ends (p.targetEdgeId.getD "")).map (rewiredEnds p))
  | .updateNode => v.setStatus (p.targetNodeId.getD "")
      ((v.status (p.targetNodeId.getD "")).map fun status => (p.text "status").getD status)
  | .other _ => v

/-- What the store makes of its graph: an update without a status means pending here, and the
edges of a node go with it. -/
def persisted (p : DAGMutationProposal) : GraphView :=
  match p.mutationType with
  | .removeNode => v.dropNode (p.targetNodeId.getD "")
  | .updateNode => v.setStatus (p.targetNodeId.getD "") (some ((p.text "status").getD "pending"))
  | _ => v.mutated p

end GraphView

namespace DAGState

def view (st : DAGState) : GraphView where
  status nodeId := (findNode st.nodes nodeId).map DAGNode.status
  ends edgeId := (findEdge st.edges edgeId).map fun e => (e.fromNode, e.toNode)

/-- Every id stands for one node or edge, and the graph is well formed. -/
structure Valid (st : DAGState) : Prop where
  nodesKeyed : (st.nodes.map DAGNode.nodeId).Nodup
  edgesKeyed : (st.edges.map DAGEdge.edgeId).Nodup
  wellFormed : st.view.WellFormed

end DAGState

variable {nodes : List DAGNode}

lemma findNode_isNone :
    (findNode nodes nodeId).isNone = false ↔ nodeId ∈ nodes.map DAGNode.nodeId := by
  rw [Option.isNone_eq_false_iff, Option.isSome_iff_ne_none, mem_map]
  constructor
  · intro h
    obtain ⟨n, hn⟩ := Option.ne_none_iff_exists'.mp h
    exact ⟨n, KeyedList.mem_of_lookup hn, KeyedList.key_of_lookup hn⟩
  · rintro ⟨n, hn, hid⟩ h
    exact KeyedList.lookup_eq_none.mp h n hn hid

/-- The manager's search for a cycle finds one just in case the edges between its nodes have
one. -/
lemma hasCycle_eq_true_iff {edges : List DAGEdge} :
    hasCycle nodes edges = true ↔ ∃ a, Relation.TransGen (fun a b =>
      a ∈ nodes.map DAGNode.nodeId ∧ b ∈ nodes.map DAGNode.nodeId ∧
        ∃ e ∈ edges, e.fromNode = a ∧ e.toNode = b) a a := by
  have hedge : CycleSearch.Edge (adjacent nodes edges) (nodes.map DAGNode.nodeId) = fun a b =>
      a ∈ nodes.map DAGNode.nodeId ∧ b ∈ nodes.map DAGNode.nodeId ∧
        ∃ e ∈ edges, e.fromNode = a ∧ e.toNode = b := by
    funext a b
    refine propext (and_congr_right fun ha => and_congr_right fun _ => ?_)
    rw [adjacent, if_pos ha, mem_map]
    simp [mem_filter, decide_eq_true_eq, and_assoc]
  unfold hasCycle
  rw [CycleSearch.search_eq_true_iff, CycleSearch.Cyclic, hedge]
  intro a ha
  exact (mem_insertionSort _).mpr ha

namespace DAGState

variable {st st' : DAGState} {p : DAGMutationProposal}

lemma valid_new (dagId timestamp : String) : (new dagId timestamp).Valid where
  nodesKeyed := nodup_nil
  edgesKeyed := nodup_nil
  wellFormed :=
    { connected := nofun
      acyclic := fun a hcycle => by
        obtain ⟨b, ⟨edgeId, hab⟩, -⟩ := Relation.TransGen.head'_iff.mp hcycle
        cases hab }

lemma status_ne_none_iff :
    st.view.status nodeId ≠ none ↔ (findNode st.nodes nodeId).isNone = false := by
  change (findNode st.nodes nodeId).map _ ≠ none ↔ _
  cases findNode st.nodes nodeId <;> simp

lemma edge_iff (h : (st.edges.map DAGEdge.edgeId).Nodup) {a b : String} :
    st.view.Edge a b ↔ ∃ e ∈ st.edges, e.fromNode = a ∧ e.toNode = b := by
  constructor
  · rintro ⟨edgeId, hends⟩
    obtain ⟨e, he, hab⟩ := Option.map_eq_some_iff.mp hends
    cases hab
    exact ⟨e, KeyedList.mem_of_lookup he, rfl, rfl⟩
  · rintro ⟨e, he, rfl, rfl⟩
    refine ⟨e.edgeId, Option.map_eq_some_iff.mpr ⟨e, ?_, rfl⟩⟩
    exact (KeyedList.lookup_eq_some h).mpr ⟨he, rfl⟩

/-- The check for a cycle, on a graph whose edges connect nodes that are there. -/
lemma hasCycle_eq_false_iff (h : (st.edges.map DAGEdge.edgeId).Nodup)
    (hconnected : ∀ edgeId a b,
      st.view.ends edgeId = some (a, b) → st.view.status a ≠ none ∧ st.view.status b ≠ none) :
    hasCycle st.nodes st.edges = false ↔ st.view.Acyclic := by
  have hedge : (fun a b => a ∈ st.nodes.map DAGNode.nodeId ∧ b ∈ st.nodes.map DAGNode.nodeId ∧
      ∃ e ∈ st.edges, e.fromNode = a ∧ e.toNode = b) = st.view.Edge := by
    funext a b
    rw [← edge_iff h]
    refine propext ⟨fun hab => hab.2.2, fun hab => ?_⟩
    obtain ⟨edgeId, hends⟩ := hab
    obtain ⟨ha, hb⟩ := hconnected edgeId a b hends
    exact ⟨findNode_isNone.mp (status_ne_none_iff.mp ha), findNode_isNone.mp (status_ne_none_iff.mp hb),
      edgeId, hends⟩
  rw [← Bool.not_eq_true, hasCycle_eq_true_iff, hedge, not_exists]
  rfl

lemma status_eq_none_iff : st.view.status nodeId = none ↔ findNode st.nodes nodeId = none :=
  Option.map_eq_none_iff

lemma ends_eq_none_iff {edgeId : String} :
    st.view.ends edgeId = none ↔ findEdge st.edges edgeId = none :=
  Option.map_eq_none_iff

/-! One mutation after the other: when it goes through, and what the graph is then. -/

lemma applyAddNode_eq_ok :
    st.applyAddNode p = .ok st' ↔
      ∃ nodeId, p.text "node_id" = some nodeId ∧ findNode st.nodes nodeId = none ∧
        st.next p (st.nodes ++ [newNode nodeId p]) st.edges = st' := by
  simp only [applyAddNode, bind_eq_ok, exists_const, required_eq_ok, refuse_eq_ok, pure,
    Except.pure, ok.injEq, Option.isSome_eq_false_iff, Option.isNone_iff_eq_none]

lemma applyRemoveNode_eq_ok :
    st.applyRemoveNode p = .ok st' ↔
      ∃ nodeId, p.targetNodeId = some nodeId ∧ findNode st.nodes nodeId ≠ none ∧
        (∀ e ∈ st.edges, e.fromNode ≠ nodeId ∧ e.toNode ≠ nodeId) ∧
        st.next p (st.nodes.filter fun n => n.nodeId ≠ nodeId) st.edges = st' := by
  simp only [applyRemoveNode, bind_eq_ok, exists_const, required_eq_ok, refuse_eq_ok, pure,
    Except.pure, ok.injEq, Option.isNone_eq_false_iff, Option.isSome_iff_ne_none,
    Bool.not_eq_false', List.isEmpty_iff, filter_eq_nil_iff, Bool.or_eq_true, decide_eq_true_eq,
    not_or, ne_eq]

lemma applyAddEdge_eq_ok :
    st.applyAddEdge p = .ok st' ↔
      ∃ edgeId a b, p.text "edge_id" = some edgeId ∧ p.text "from_node" = some a ∧
        p.text "to_node" = some b ∧ findNode st.nodes a ≠ none ∧ findNode st.nodes b ≠ none ∧
        findEdge st.edges edgeId = none ∧
        hasCycle st.nodes (st.edges ++ [newEdge edgeId a b p]) = false ∧
        st.next p st.nodes (st.edges ++ [newEdge edgeId a b p]) = st' := by
  simp only [applyAddEdge, bind_eq_ok, exists_const, required_eq_ok, refuse_eq_ok, pure,
    Except.pure, ok.injEq, Option.isNone_eq_false_iff, Option.isSome_iff_ne_none,
    Option.isSome_eq_false_iff, Option.isNone_iff_eq_none, exists_and_left]

lemma applyRemoveEdge_eq_ok :
    st.applyRemoveEdge p = .ok st' ↔
      ∃ edgeId, p.targetEdgeId = some edgeId ∧ findEdge st.edges edgeId ≠ none ∧
        st.next p st.nodes (st.edges.filter fun e => e.edgeId ≠ edgeId) = st' := by
  simp only [applyRemoveEdge, bind_eq_ok, exists_const, required_eq_ok, refuse_eq_ok, pure,
    Except.pure, ok.injEq, Option.isNone_eq_false_iff, Option.isSome_iff_ne_none]

lemma applyRewireEdge_eq_ok :
    st.applyRewireEdge p = .ok st' ↔
      ∃ edgeId e, p.targetEdgeId = some edgeId ∧ findEdge st.edges edgeId = some e ∧
        findNode st.nodes (rewired e p).fromNode ≠ none ∧
        findNode st.nodes (rewired e p).toNode ≠ none ∧
        hasCycle st.nodes ((st.edges.filter fun e' => e'.edgeId ≠ e.edgeId) ++ [rewired e p]) =
          false ∧
        st.next p st.nodes ((st.edges.filter fun e' => e'.edgeId ≠ e.edgeId) ++ [rewired e p]) =
          st' := by
  simp only [applyRewireEdge, bind_eq_ok, exists_const, required_eq_ok, refuse_eq_ok, pure,
    Except.pure, ok.injEq, Option.isNone_eq_false_iff, Option.isSome_iff_ne_none,
    exists_and_left]

lemma applyUpdateNode_eq_ok :
    st.applyUpdateNode p = .ok st' ↔
      ∃ nodeId n, p.targetNodeId = some nodeId ∧ findNode st.nodes nodeId = some n ∧
        st.next p (st.nodes.map fun m => if m.nodeId = nodeId then updated n p else m) st.edges =
          st' := by
  simp only [applyUpdateNode, bind_eq_ok, required_eq_ok, pure, Except.pure, ok.injEq,
    exists_and_left]

variable (st p) in
/-- What there is to know of a mutation that goes through. -/
structure Applies (st' : DAGState) : Prop where
  allows : st.view.Allows p
  view : st'.view = st.view.mutated p
  valid : st'.Valid
  dagId : st'.dagId = st.dagId

lemma allows_addNode (htype : p.mutationType = .addNode) :
    st.view.Allows p ↔ ∃ st', st.applyAddNode p = .ok st' := by
  simp only [GraphView.Allows, htype, applyAddNode_eq_ok, status_eq_none_iff]
  simp

lemma allows_removeEdge (htype : p.mutationType = .removeEdge) :
    st.view.Allows p ↔ ∃ st', st.applyRemoveEdge p = .ok st' := by
  simp only [GraphView.Allows, htype, applyRemoveEdge_eq_ok, ne_eq, ends_eq_none_iff]
  simp

lemma allows_updateNode (htype : p.mutationType = .updateNode) :
    st.view.Allows p ↔ ∃ st', st.applyUpdateNode p = .ok st' := by
  simp only [GraphView.Allows, htype, applyUpdateNode_eq_ok, Option.ne_none_iff_exists', ne_eq,
    status_eq_none_iff]
  simp

section Specs

variable (h : st.Valid)
include h

lemma free_iff :
    (∀ edgeId a b, st.view.ends edgeId = some (a, b) → a ≠ nodeId ∧ b ≠ nodeId) ↔
      ∀ e ∈ st.edges, e.fromNode ≠ nodeId ∧ e.toNode ≠ nodeId := by
  constructor
  · intro hfree e he
    refine hfree e.edgeId e.fromNode e.toNode (Option.map_eq_some_iff.mpr ⟨e, ?_, rfl⟩)
    exact (KeyedList.lookup_eq_some h.edgesKeyed).mpr ⟨he, rfl⟩
  · intro hfree edgeId a b hends
    obtain ⟨e, he, hab⟩ := Option.map_eq_some_iff.mp hends
    cases hab
    exact hfree e (KeyedList.mem_of_lookup he)

lemma allows_removeNode (htype : p.mutationType = .removeNode) :
    st.view.Allows p ↔ ∃ st', st.applyRemoveNode p = .ok st' := by
  simp only [GraphView.Allows, htype, applyRemoveNode_eq_ok, ne_eq, status_eq_none_iff, free_iff h]
  simp

lemma applies_addNode (htype : p.mutationType = .addNode) (hallows : st.view.Allows p)
    (hst' : st.applyAddNode p = .ok st') : st.Applies p st' := by
  obtain ⟨nodeId, hid, hnew, rfl⟩ := applyAddNode_eq_ok.mp hst'
  have hmutated : st.view.mutated p =
      st.view.setStatus nodeId (some ((p.text "status").getD "pending")) := by
    rw [GraphView.mutated, htype, hid]
    rfl
  have hview : (st.next p (st.nodes ++ [newNode nodeId p]) st.edges).view = st.view.mutated p :=
    hmutated ▸ GraphView.ext (KeyedList.map_lookup_append (a := newNode nodeId p) hnew) rfl
  refine ⟨hallows, hview, ⟨?_, h.edgesKeyed, ?_⟩, rfl⟩
  · exact KeyedList.nodup_append_of_new h.nodesKeyed hnew
  · rw [hview, hmutated]
    exact h.wellFormed.setStatus

lemma applies_removeNode (htype : p.mutationType = .removeNode) (hallows : st.view.Allows p)
    (hst' : st.applyRemoveNode p = .ok st') : st.Applies p st' := by
  obtain ⟨nodeId, hid, -, hfree, rfl⟩ := applyRemoveNode_eq_ok.mp hst'
  have hmutated : st.view.mutated p = st.view.setStatus nodeId none := by
    rw [GraphView.mutated, htype, hid]
    rfl
  have hview : (st.next p (st.nodes.filter fun n => n.nodeId ≠ nodeId) st.edges).view =
      st.view.mutated p :=
    hmutated ▸ GraphView.ext KeyedList.map_lookup_filter_ne rfl
  refine ⟨hallows, hview, ⟨?_, h.edgesKeyed, ?_⟩, rfl⟩
  · exact h.nodesKeyed.sublist (filter_sublist.map _)
  · rw [hview, hmutated]
    refine ⟨fun edgeId a b he => ?_, h.wellFormed.acyclic⟩
    obtain ⟨ha, hb⟩ := (free_iff h).mpr hfree edgeId a b he
    change update st.view.status nodeId none a ≠ none ∧
      update st.view.status nodeId none b ≠ none
    rw [update_of_ne ha, update_of_ne hb]
    exact h.wellFormed.connected edgeId a b he

lemma applies_updateNode (htype : p.mutationType = .updateNode) (hallows : st.view.Allows p)
    (hst' : st.applyUpdateNode p = .ok st') : st.Applies p st' := by
  obtain ⟨nodeId, n, hid, hn, rfl⟩ := applyUpdateNode_eq_ok.mp hst'
  have hmutated : st.view.mutated p =
      st.view.setStatus nodeId (some ((p.text "status").getD n.status)) := by
    rw [GraphView.mutated, htype, hid]
    change st.view.setStatus nodeId (((findNode st.nodes nodeId).map _).map _) = _
    rw [hn]
    rfl
  have hupdated : (updated n p).nodeId = nodeId := by
    change n.nodeId = nodeId
    exact KeyedList.key_of_lookup hn
  have hview : (st.next p (st.nodes.map fun m => if m.nodeId = nodeId then updated n p else m)
      st.edges).view = st.view.mutated p :=
    hmutated ▸ GraphView.ext (KeyedList.map_lookup_replace hn hupdated) rfl
  refine ⟨hallows, hview, ⟨?_, h.edgesKeyed, ?_⟩, rfl⟩
  · exact (KeyedList.map_key_replace hupdated).symm ▸ h.nodesKeyed
  · rw [hview, hmutated]
    exact h.wellFormed.setStatus

lemma applies_removeEdge (htype : p.mutationType = .removeEdge) (hallows : st.view.Allows p)
    (hst' : st.applyRemoveEdge p = .ok st') : st.Applies p st' := by
  obtain ⟨edgeId, hid, -, rfl⟩ := applyRemoveEdge_eq_ok.mp hst'
  have hmutated : st.view.mutated p = st.view.setEnds edgeId none := by
    rw [GraphView.mutated, htype, hid]
    rfl
  have hview : (st.next p st.nodes (st.edges.filter fun e => e.edgeId ≠ edgeId)).view =
      st.view.mutated p :=
    hmutated ▸ GraphView.ext rfl KeyedList.map_lookup_filter_ne
  refine ⟨hallows, hview, ⟨h.nodesKeyed, ?_, ?_⟩, rfl⟩
  · exact h.edgesKeyed.sublist (filter_sublist.map _)
  · rw [hview, hmutated]
    exact h.wellFormed.removeEnds edgeId

variable {e : DAGEdge}

lemma next_addEdge (hnew : findEdge st.edges e.edgeId = none) :
    (st.next p st.nodes (st.edges ++ [e])).view =
        st.view.setEnds e.edgeId (some (e.fromNode, e.toNode)) ∧
      ((st.edges ++ [e]).map DAGEdge.edgeId).Nodup :=
  ⟨GraphView.ext rfl (KeyedList.map_lookup_append hnew),
    KeyedList.nodup_append_of_new h.edgesKeyed hnew⟩

lemma next_rewireEdge :
    (st.next p st.nodes ((st.edges.filter fun e' => e'.edgeId ≠ e.edgeId) ++ [e])).view =
        st.view.setEnds e.edgeId (some (e.fromNode, e.toNode)) ∧
      (((st.edges.filter fun e' => e'.edgeId ≠ e.edgeId) ++ [e]).map DAGEdge.edgeId).Nodup := by
  have hnew : KeyedList.lookup DAGEdge.edgeId
      (st.edges.filter fun e' => e'.edgeId ≠ e.edgeId) e.edgeId = none := by
    rw [KeyedList.lookup_filter_ne, if_pos rfl]
  refine ⟨GraphView.ext rfl ((KeyedList.map_lookup_append hnew).trans ?_),
    KeyedList.nodup_append_of_new (h.edgesKeyed.sublist (filter_sublist.map _)) hnew⟩
  rw [KeyedList.map_lookup_filter_ne, update_idem]
  rfl

/-- A new or changed edge passes the manager's checks just in case the graph stays well formed. -/
lemma edge_checks_iff (hview : st'.view = st.view.setEnds e.edgeId (some (e.fromNode, e.toNode)))
    (hkeyed : (st'.edges.map DAGEdge.edgeId).Nodup) :
    (findNode st.nodes e.fromNode ≠ none ∧ findNode st.nodes e.toNode ≠ none ∧
        hasCycle st'.nodes st'.edges = false) ↔
      (st.view.setEnds e.edgeId (some (e.fromNode, e.toNode))).WellFormed := by
  have hthere : ∀ nodeId, findNode st.nodes nodeId ≠ none ↔ st.view.status nodeId ≠ none :=
    fun _ => not_congr status_eq_none_iff.symm
  rw [h.wellFormed.setEnds_iff, hthere, hthere]
  refine and_congr_right fun ha => and_congr_right fun hb => ?_
  rw [← hview]
  refine hasCycle_eq_false_iff hkeyed fun edgeId c d he => ?_
  rw [hview] at he ⊢
  change update st.view.ends e.edgeId _ edgeId = _ at he
  by_cases hid : edgeId = e.edgeId
  · rw [hid, update_self] at he
    cases he
    exact ⟨ha, hb⟩
  · rw [update_of_ne hid] at he
    exact h.wellFormed.connected edgeId c d he

lemma allows_addEdge (htype : p.mutationType = .addEdge) :
    st.view.Allows p ↔ ∃ st', st.applyAddEdge p = .ok st' := by
  simp only [GraphView.Allows, htype, applyAddEdge_eq_ok, ends_eq_none_iff]
  constructor
  · rintro ⟨edgeId, a, b, hid, ha, hb, hnew, hwell⟩
    obtain ⟨hview, hkeyed⟩ := next_addEdge (p := p) (e := newEdge edgeId a b p) h hnew
    obtain ⟨hfrom, hto, hcycle⟩ := (edge_checks_iff h hview hkeyed).mpr hwell
    exact ⟨_, edgeId, a, b, hid, ha, hb, hfrom, hto, hnew, hcycle, rfl⟩
  · rintro ⟨_, edgeId, a, b, hid, ha, hb, hfrom, hto, hnew, hcycle, rfl⟩
    obtain ⟨hview, hkeyed⟩ := next_addEdge (p := p) (e := newEdge edgeId a b p) h hnew
    have hwell := (edge_checks_iff h hview hkeyed).mp ⟨hfrom, hto, hcycle⟩
    exact ⟨edgeId, a, b, hid, ha, hb, hnew, hwell⟩

lemma applies_addEdge (htype : p.mutationType = .addEdge) (hallows : st.view.Allows p)
    (hst' : st.applyAddEdge p = .ok st') : st.Applies p st' := by
  obtain ⟨edgeId, a, b, hid, ha, hb, hfrom, hto, hnew, hcycle, rfl⟩ := applyAddEdge_eq_ok.mp hst'
  obtain ⟨hview, hkeyed⟩ := next_addEdge (p := p) (e := newEdge edgeId a b p) h hnew
  have hwell := (edge_checks_iff h hview hkeyed).mp ⟨hfrom, hto, hcycle⟩
  refine ⟨hallows, hview.trans ?_, ⟨h.nodesKeyed, hkeyed, hview ▸ hwell⟩, rfl⟩
  rw [GraphView.mutated, htype, hid, ha, hb]
  rfl

lemma allows_rewireEdge (htype : p.mutationType = .rewireEdge) :
    st.view.Allows p ↔ ∃ st', st.applyRewireEdge p = .ok st' := by
  simp only [GraphView.Allows, htype, applyRewireEdge_eq_ok]
  constructor
  · rintro ⟨edgeId, ends, hid, hends, hwell⟩
    obtain ⟨e, he, rfl⟩ := Option.map_eq_some_iff.mp hends
    obtain rfl : e.edgeId = edgeId := KeyedList.key_of_lookup he
    obtain ⟨hview, hkeyed⟩ := next_rewireEdge (p := p) (e := rewired e p) h
    obtain ⟨hfrom, hto, hcycle⟩ := (edge_checks_iff h hview hkeyed).mpr hwell
    exact ⟨_, e.edgeId, e, hid, he, hfrom, hto, hcycle, rfl⟩
  · rintro ⟨_, edgeId, e, hid, he, hfrom, hto, hcycle, rfl⟩
    obtain rfl : e.edgeId = edgeId := KeyedList.key_of_lookup he
    obtain ⟨hview, hkeyed⟩ := next_rewireEdge (p := p) (e := rewired e p) h
    have hwell := (edge_checks_iff h hview hkeyed).mp ⟨hfrom, hto, hcycle⟩
    exact ⟨e.edgeId, _, hid, Option.map_eq_some_iff.mpr ⟨e, he, rfl⟩, hwell⟩

lemma applies_rewireEdge (htype : p.mutationType = .rewireEdge) (hallows : st.view.Allows p)
    (hst' : st.applyRewireEdge p = .ok st') : st.Applies p st' := by
  obtain ⟨edgeId, e, hid, he, hfrom, hto, hcycle, rfl⟩ := applyRewireEdge_eq_ok.mp hst'
  obtain rfl : e.edgeId = edgeId := KeyedList.key_of_lookup he
  obtain ⟨hview, hkeyed⟩ := next_rewireEdge (p := p) (e := rewired e p) h
  have hwell := (edge_checks_iff h hview hkeyed).mp ⟨hfrom, hto, hcycle⟩
  refine ⟨hallows, hview.trans ?_, ⟨h.nodesKeyed, hkeyed, hview ▸ hwell⟩, rfl⟩
  rw [GraphView.mutated, htype, hid]
  change _ = st.view.setEnds e.edgeId (((findEdge st.edges e.edgeId).map _).map _)
  rw [he]
  rfl

end Specs

lemma requiresApproval_eq_true_iff :
    Harness.requiresApproval p st = true ↔ p.requiresApproval = true ∨ st.view.NeedsApproval p := by
  have hnode : ∀ {nodeId s : String},
      (∃ n, findNode st.nodes nodeId = some n ∧ n.status = s) ↔ st.view.status nodeId = some s :=
    Option.map_eq_some_iff.symm
  simp only [Harness.requiresApproval, Bool.or_eq_true, Bool.and_eq_true, decide_eq_true_eq,
    Option.any_eq_true, Option.bind_eq_some_iff, GraphView.NeedsApproval, or_assoc]
  refine or_congr_right ?_
  cases htype : p.mutationType with
  | removeNode =>
    simp only [true_and, reduceCtorEq, false_and, or_false]
    constructor
    · rintro ⟨n, ⟨nodeId, hid, hn⟩, hstatus⟩
      exact ⟨nodeId, hid, hstatus.imp (fun hs => hnode.mp ⟨n, hn, hs⟩) fun hs => hnode.mp ⟨n, hn, hs⟩⟩
    · rintro ⟨nodeId, hid, hs | hs⟩
      · obtain ⟨n, hn, hs⟩ := hnode.mpr hs
        exact ⟨n, ⟨nodeId, hid, hn⟩, .inl hs⟩
      · obtain ⟨n, hn, hs⟩ := hnode.mpr hs
        exact ⟨n, ⟨nodeId, hid, hn⟩, .inr hs⟩
  | rewireEdge =>
    simp only [true_and, reduceCtorEq, false_and, false_or]
    constructor
    · rintro ⟨n, ⟨e, ⟨edgeId, hid, he⟩, hn⟩, hstatus⟩
      exact ⟨edgeId, e.fromNode, e.toNode, hid, Option.map_eq_some_iff.mpr ⟨e, he, rfl⟩,
        hnode.mp ⟨n, hn, hstatus⟩⟩
    · rintro ⟨edgeId, a, b, hid, hends, hs⟩
      obtain ⟨e, he, hab⟩ := Option.map_eq_some_iff.mp hends
      cases hab
      obtain ⟨n, hn, hs⟩ := hnode.mpr hs
      exact ⟨n, ⟨e, ⟨edgeId, hid, he⟩, hn⟩, hs⟩
  | addNode | addEdge | removeEdge | updateNode | other _ =>
    simp

variable (st p) in
structure Accepts : Prop where
  dagId : p.dagId = st.dagId
  noFlag : p.requiresApproval = false
  noApproval : ¬st.view.NeedsApproval p
  allows : st.view.Allows p

variable (st p) in
/-- The mutation itself, without the checks that come before it. -/
def applyKind : Except String DAGState :=
  match p.mutationType with
  | .addNode => st.applyAddNode p
  | .removeNode => st.applyRemoveNode p
  | .addEdge => st.applyAddEdge p
  | .removeEdge => st.applyRemoveEdge p
  | .rewireEdge => st.applyRewireEdge p
  | .updateNode => st.applyUpdateNode p
  | .other text => .error ("unknown mutation_type: " ++ text)

lemma applyMutation_eq_ok :
    st.applyMutation p = .ok st' ↔
      p.dagId = st.dagId ∧ Harness.requiresApproval p st = false ∧ st.applyKind p = .ok st' := by
  have hdag : decide (p.dagId ≠ st.dagId) = false ↔ p.dagId = st.dagId := by simp
  rw [applyMutation, applyKind, seq_eq_ok, refuse_eq_ok, hdag]
  refine and_congr_right fun _ => ?_
  cases p.mutationType with
  | other text => exact iff_of_false nofun fun h => by cases h.2
  | _ => exact seq_eq_ok.trans (and_congr_left fun _ => refuse_eq_ok)

lemma allows_iff (h : st.Valid) : st.view.Allows p ↔ ∃ st', st.applyKind p = .ok st' := by
  unfold applyKind
  cases htype : p.mutationType with
  | addNode => exact allows_addNode htype
  | removeNode => exact allows_removeNode h htype
  | addEdge => exact allows_addEdge h htype
  | removeEdge => exact allows_removeEdge htype
  | rewireEdge => exact allows_rewireEdge h htype
  | updateNode => exact allows_updateNode htype
  | other text =>
    rw [GraphView.Allows, htype]
    exact iff_of_false id fun ⟨st', hst'⟩ => by cases hst'

lemma applies_of_applyKind (h : st.Valid) (hst' : st.applyKind p = .ok st') : st.Applies p st' := by
  have hallows := (allows_iff h).mpr ⟨st', hst'⟩
  unfold applyKind at hst'
  split at hst'
  · next htype => exact applies_addNode h htype hallows hst'
  · next htype => exact applies_removeNode h htype hallows hst'
  · next htype => exact applies_addEdge h htype hallows hst'
  · next htype => exact applies_removeEdge h htype hallows hst'
  · next htype => exact applies_rewireEdge h htype hallows hst'
  · next htype => exact applies_updateNode h htype hallows hst'
  · cases hst'

lemma applyMutation_spec (h : st.Valid) :
    (st.Accepts p → ∃ st', st.applyMutation p = .ok st') ∧
      ∀ st', st.applyMutation p = .ok st' → st.Accepts p ∧ st.Applies p st' := by
  have happroval : Harness.requiresApproval p st = false ↔
      p.requiresApproval = false ∧ ¬st.view.NeedsApproval p := by
    rw [← Bool.not_eq_true, requiresApproval_eq_true_iff, not_or, Bool.not_eq_true]
  simp only [applyMutation_eq_ok, happroval]
  constructor
  · intro haccepts
    obtain ⟨st', hst'⟩ := (allows_iff h).mp haccepts.allows
    exact ⟨st', haccepts.dagId, ⟨haccepts.noFlag, haccepts.noApproval⟩, hst'⟩
  · rintro st' ⟨hdag, ⟨hflag, hneeds⟩, hst'⟩
    exact ⟨⟨hdag, hflag, hneeds, (allows_iff h).mpr ⟨st', hst'⟩⟩, applies_of_applyKind h hst'⟩

/-- A manager that rejects a proposal does not accept it, and stays as it is. -/
lemma afterMutation_cases (h : st.Valid) :
    (st.Accepts p ∧ st.applyMutation p = .ok (st.afterMutation p) ∧
        st.Applies p (st.afterMutation p)) ∨
      (¬st.Accepts p ∧ (∃ e, st.applyMutation p = .error e) ∧ st.afterMutation p = st) := by
  cases hp : st.applyMutation p with
  | ok st' =>
    obtain ⟨haccepts, happlies⟩ := (applyMutation_spec h).2 st' hp
    have hafter : st.afterMutation p = st' := by rw [afterMutation, hp]
    exact .inl ⟨haccepts, hafter ▸ rfl, hafter.symm ▸ happlies⟩
  | error e =>
    refine .inr ⟨fun haccepts => ?_, ⟨e, rfl⟩, by rw [afterMutation, hp]⟩
    obtain ⟨st', hst'⟩ := (applyMutation_spec h).1 haccepts
    rw [hp] at hst'
    cases hst'

end DAGState

end Harness
