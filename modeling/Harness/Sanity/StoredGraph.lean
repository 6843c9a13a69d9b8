import Harness.Sanity.GraphViews

/-! The stored graph of a run: what each mutation makes of it and which event it leaves, and that a
manager takes in a well-formed graph as it is. -/

namespace Harness

open List Option Function

open Lib

def RunGraph.view (g : RunGraph) : GraphView where
  status nodeId := (g.nodes.find? nodeId).map DagNodeRow.status
  ends edgeId := (g.edges.find? edgeId).map fun e => (e.fromNodeId, e.toNodeId)

namespace DagRun

variable {r r' : DagRun} {node edge : Json}

variable {nodeId : String}

lemma status_eq_none_iff : r.view.status nodeId = none ↔ r.nodes.contains nodeId = false := by
  change (r.nodes.find? nodeId).map _ = none ↔ (r.nodes.find? nodeId).isSome = false
  rw [map_eq_none_iff, isSome_eq_false_iff, isNone_iff_eq_none]

lemma ends_eq_none_iff {edgeId : String} :
    r.view.ends edgeId = none ↔ r.edges.contains edgeId = false := by
  change (r.edges.find? edgeId).map _ = none ↔ (r.edges.find? edgeId).isSome = false
  rw [map_eq_none_iff, isSome_eq_false_iff, isNone_iff_eq_none]

/-- A mutation of the run, as seen from outside: the view it leads to and the event it leaves. -/
structure Becomes (r : DagRun) (v : GraphView) (event : RunEvent) (r' : DagRun) : Prop where
  view : r'.view = v
  events : r'.events = r.events ++ [event]

lemma insertWorkflowNode_cases (r : DagRun) (node : Json) :
    (∃ nodeId r', node.text "node_id" = some nodeId ∧ r.view.status nodeId = none ∧
      r.insertWorkflowNode node = .ok r' ∧
      r.Becomes (r.view.setStatus nodeId (some ((node.text "status").getD "pending")))
        (.nodeAdded nodeId) r') ∨
    ((∀ nodeId, node.text "node_id" = some nodeId → r.view.status nodeId ≠ none) ∧
      ∃ e, r.insertWorkflowNode node = .error e) := by
  unfold insertWorkflowNode
  split
  · next hnone =>
    refine .inr ⟨fun nodeId hid => ?_, _, rfl⟩
    rw [hnone] at hid
    cases hid
  · next nodeId hid =>
    split_ifs with hthere
    · refine .inr ⟨fun nodeId' hid' => ?_, _, rfl⟩
      cases hid.symm.trans hid'
      rw [ne_eq, status_eq_none_iff, hthere]
      decide
    · refine .inl ⟨nodeId, _, hid, ?_, rfl, ⟨?_, rfl⟩⟩
      · exact status_eq_none_iff.mpr (Bool.eq_false_of_not_eq_true hthere)
      · refine GraphView.ext (funext fun id => ?_) rfl
        change ((r.nodes.insert _).find? id).map _ = update r.view.status nodeId _ id
        rw [Table.find?_insert, update_apply]
        split_ifs <;> rfl

lemma removeWorkflowNode_becomes (r : DagRun) (nodeId : String) :
    ∃ removedEdges, r.Becomes (r.view.dropNode nodeId) (.nodeRemoved nodeId removedEdges)
      (r.removeWorkflowNode nodeId) := by
  refine ⟨_, ⟨GraphView.ext KeyedList.map_lookup_filter_ne
    (funext fun id => ?_), rfl⟩⟩
  change ((r.edges.filter _).find? id).map _ = ((r.edges.find? id).map _).filter _
  rw [Table.find?_filter]
  cases r.edges.find? id with
  | none => rfl
  | some e =>
    by_cases hkept : e.fromNodeId = nodeId ∨ e.toNodeId = nodeId
    · rcases hkept with h | h <;> simp [Option.filter, h]
    · rw [not_or] at hkept
      simp [Option.filter, hkept.1, hkept.2]

lemma updateWorkflowNodeStatus_cases (r : DagRun) (nodeId newStatus : String) :
    (newStatus ∈ validStatuses ∧ r.view.status nodeId ≠ none ∧
        ∃ r', r.updateWorkflowNodeStatus nodeId newStatus = .ok r' ∧
          r.Becomes (r.view.setStatus nodeId (some newStatus)) (.nodeStatusUpdated nodeId newStatus)
            r') ∨
      (¬(newStatus ∈ validStatuses ∧ r.view.status nodeId ≠ none) ∧
        ∃ e, r.updateWorkflowNodeStatus nodeId newStatus = .error e) := by
  unfold updateWorkflowNodeStatus
  by_cases hvalid : newStatus ∈ validStatuses
  · rw [if_neg (not_not.mpr hvalid)]
    by_cases hthere : r.view.status nodeId = none
    · rw [if_pos (by rw [status_eq_none_iff.mp hthere]; rfl)]
      exact .inr ⟨fun h => h.2 hthere, _, rfl⟩
    · have hcontains : r.nodes.contains nodeId = true :=
        Bool.eq_true_of_not_eq_false (mt status_eq_none_iff.mpr hthere)
      rw [if_neg (by rw [hcontains]; decide)]
      refine .inl ⟨hvalid, hthere, _, rfl, ⟨?_, rfl⟩⟩
      refine GraphView.ext (funext fun id => ?_) rfl
      change ((r.nodes.modify nodeId (withStatus newStatus)).find? id).map _ =
        update r.view.status nodeId _ id
      rw [Table.find?_modify, update_apply]
      split_ifs with hid
      · subst hid
        obtain ⟨n, hn⟩ := ne_none_iff_exists'.mp (mt map_eq_none_iff.mpr hthere)
        rw [hn]
        rfl
      · rfl
  · rw [if_pos hvalid]
    exact .inr ⟨fun h => hvalid h.1, _, rfl⟩

lemma insertWorkflowEdge_cases (r : DagRun) (edge : Json) :
    (∃ edgeId a b r', edge.text "edge_id" = some edgeId ∧ edge.text "from_node_id" = some a ∧
      edge.text "to_node_id" = some b ∧ r.view.ends edgeId = none ∧
        r.insertWorkflowEdge edge = .ok r' ∧
          r.Becomes (r.view.setEnds edgeId (some (a, b))) (.edgeAdded edgeId) r') ∨
    ((∀ edgeId a b, edge.text "edge_id" = some edgeId → edge.text "from_node_id" = some a →
      edge.text "to_node_id" = some b → r.view.ends edgeId ≠ none) ∧
        ∃ e, r.insertWorkflowEdge edge = .error e) := by
  unfold insertWorkflowEdge
  split
  · next hnone =>
    refine .inr ⟨fun edgeId a b hid => ?_, _, rfl⟩
    rw [hnone] at hid
    cases hid
  · next edgeId hid =>
    split_ifs with hthere
    · refine .inr ⟨fun edgeId' a b hid' _ _ => ?_, _, rfl⟩
      cases hid.symm.trans hid'
      rw [ne_eq, ends_eq_none_iff, hthere]
      decide
    · split
      · next hnone =>
        refine .inr ⟨fun edgeId a b _ ha => ?_, _, rfl⟩
        rw [hnone] at ha
        cases ha
      · next a ha =>
        split
        · next hnone =>
          refine .inr ⟨fun edgeId a b _ _ hb => ?_, _, rfl⟩
          rw [hnone] at hb
          cases hb
        · next b hb =>
          refine .inl ⟨edgeId, a, b, _, hid, ha, hb, ?_, rfl, ⟨?_, rfl⟩⟩
          · exact ends_eq_none_iff.mpr (Bool.eq_false_of_not_eq_true hthere)
          · refine GraphView.ext rfl (funext fun id => ?_)
            change ((r.edges.insert _).find? id).map _ = update r.view.ends edgeId _ id
            rw [Table.find?_insert, update_apply]
            split_ifs <;> rfl

lemma removeWorkflowEdge_becomes (r : DagRun) (edgeId : String) :
    r.Becomes (r.view.setEnds edgeId none) (.edgeRemoved edgeId) (r.removeWorkflowEdge edgeId) :=
  ⟨GraphView.ext rfl KeyedList.map_lookup_filter_ne, rfl⟩

lemma rewireWorkflowEdge_cases (r : DagRun) (edgeId : String) {newFrom newTo : Option String} :
    (∃ a b r', r.view.ends edgeId = some (a, b) ∧
        r.rewireWorkflowEdge edgeId newFrom newTo = .ok r' ∧
        r.Becomes (r.view.setEnds edgeId (some (newFrom.getD a, newTo.getD b)))
          (.edgeRewired edgeId a b (newFrom.getD a) (newTo.getD b)) r') ∨
      (r.view.ends edgeId = none ∧ ∃ e, r.rewireWorkflowEdge edgeId newFrom newTo = .error e) := by
  unfold rewireWorkflowEdge
  split
  · next hnone => exact .inr ⟨map_eq_none_iff.mpr hnone, _, rfl⟩
  · next e he =>
    refine .inl ⟨e.fromNodeId, e.toNodeId, _, map_eq_some_iff.mpr ⟨e, he, rfl⟩, rfl, ?_⟩
    rw [e.namesFrom, e.namesTo]
    refine ⟨GraphView.ext rfl (funext fun id => ?_), rfl⟩
    change ((r.edges.modify edgeId _).find? id).map _ = update r.view.ends edgeId _ id
    rw [Table.find?_modify, update_apply]
    split_ifs with hid
    · subst hid
      rw [he]
      rfl
    · rfl

end DagRun

variable {p : DAGMutationProposal} {v m g : GraphView}

variable {n : DagNodeRow} {key : String}

lemma text_proposedNode {nodeId : String} (h : p.text "node_id" = some nodeId) :
    (proposedNode p).text "node_id" = some nodeId ∧
      (proposedNode p).text "status" = some ((p.text "status").getD "pending") := by
  obtain ⟨value, hvalue, hid⟩ : ∃ value, p.payload.lookup "node_id" = some value ∧ _ :=
    bind_eq_some_iff.mp h
  unfold proposedNode
  rw [hvalue]
  dsimp only
  cases p.payload.lookup "profile_id" with
  | none => exact ⟨by simpa [Json.text, Json.get?] using hid, rfl⟩
  | some profileId =>
    rw [elim_some, Json.text_set_of_ne (by decide), Json.text_set_of_ne (by decide)]
    exact ⟨by simpa [Json.text, Json.get?] using hid, rfl⟩

namespace GraphView

/-- What the store asks of its graph before it writes such a mutation. -/
def Stores (g : GraphView) (p : DAGMutationProposal) : Prop :=
  match p.mutationType with
  | .addNode => g.status ((p.text "node_id").getD "") = none
  | .addEdge => g.ends ((p.text "edge_id").getD "") = none
  | .rewireEdge => g.ends (p.targetEdgeId.getD "") ≠ none
  | .updateNode => (p.text "status").getD "pending" ∈ DagRun.validStatuses ∧
      g.status (p.targetNodeId.getD "") ≠ none
  | .removeNode | .removeEdge => True
  | .other _ => False

end GraphView

lemma persist_cases (hallows : v.Allows p) {r : DagRun} :
    (r.view.Stores p ∧ ∃ r' event, r.persist p = .ok r' ∧ r.Becomes (r.view.persisted p) event r') ∨
      (¬r.view.Stores p ∧ ∃ e, r.persist p = .error e) := by
  unfold DagRun.persist
  unfold GraphView.Allows at hallows
  unfold GraphView.Stores GraphView.persisted GraphView.mutated
  generalize p.mutationType = kind at hallows ⊢
  cases kind with
  | addNode =>
    obtain ⟨nodeId, hid, -⟩ := hallows
    obtain ⟨hnode, hstatus⟩ := text_proposedNode hid
    simp only [hid, getD_some]
    rcases r.insertWorkflowNode_cases (proposedNode p) with
      ⟨nodeId', r', hid', hnew, hok, hbecomes⟩ | ⟨hthere, e, herror⟩
    · cases hnode.symm.trans hid'
      rw [hstatus] at hbecomes
      exact .inl ⟨hnew, r', _, hok, hbecomes⟩
    · exact .inr ⟨hthere nodeId hnode, e, herror⟩
  | removeNode =>
    obtain ⟨removedEdges, hbecomes⟩ := r.removeWorkflowNode_becomes (p.targetNodeId.getD "")
    exact .inl ⟨trivial, _, _, rfl, hbecomes⟩
  | addEdge =>
    obtain ⟨edgeId, a, b, hid, ha, hb, -⟩ := hallows
    have hedge : (proposedEdge p).text "edge_id" = some edgeId ∧
        (proposedEdge p).text "from_node_id" = some a ∧
          (proposedEdge p).text "to_node_id" = some b := by
      unfold proposedEdge
      rw [hid, ha, hb]
      exact ⟨rfl, rfl, rfl⟩
    simp only [hid, ha, hb, getD_some]
    rcases r.insertWorkflowEdge_cases (proposedEdge p) with
      ⟨edgeId', a', b', r', hid', ha', hb', hnew, hok, hbecomes⟩ | ⟨hthere, e, herror⟩
    · cases hedge.1.symm.trans hid'
      cases hedge.2.1.symm.trans ha'
      cases hedge.2.2.symm.trans hb'
      exact .inl ⟨hnew, r', _, hok, hbecomes⟩
    · exact .inr ⟨hthere edgeId a b hedge.1 hedge.2.1 hedge.2.2, e, herror⟩
  | removeEdge => exact .inl ⟨trivial, _, _, rfl, r.removeWorkflowEdge_becomes _⟩
  | rewireEdge =>
    rcases r.rewireWorkflowEdge_cases (p.targetEdgeId.getD "")
        with ⟨a, b, r', hends, hok, hbecomes⟩ | ⟨hnone, e, herror⟩
    · rw [hends, map_some]
      exact .inl ⟨some_ne_none _, r', _, hok, hbecomes⟩
    · exact .inr ⟨fun h => h hnone, e, herror⟩
  | updateNode =>
    rcases r.updateWorkflowNodeStatus_cases (p.targetNodeId.getD "")
        ((p.text "status").getD "pending") with ⟨hvalid, hthere, r', hok, hbecomes⟩ | ⟨hnot, e, herror⟩
    · exact .inl ⟨⟨hvalid, hthere⟩, r', _, hok, hbecomes⟩
    · exact .inr ⟨hnot, e, herror⟩
  | other text => exact hallows.elim

/-! A manager and a store with the same nodes and the same edges. -/

/-- The statuses may differ. -/
structure GraphView.Sync (m g : GraphView) : Prop where
  nodes : ∀ nodeId, m.status nodeId = none ↔ g.status nodeId = none
  ends : m.ends = g.ends

namespace GraphView.Sync

lemma refl (v : GraphView) : Sync v v := ⟨fun _ => Iff.rfl, rfl⟩

variable {s : Option String}

lemma setStatus (h : Sync m g) (nodeId : String) {t : Option String} (hst : s = none ↔ t = none) :
    Sync (m.setStatus nodeId s) (g.setStatus nodeId t) := by
  refine ⟨fun id => ?_, h.ends⟩
  change update m.status nodeId s id = none ↔ update g.status nodeId t id = none
  rw [update_apply, update_apply]
  split_ifs
  · exact hst
  · exact h.nodes id

lemma setEnds (h : Sync m g) (edgeId : String) (ends : Option (String × String)) :
    Sync (m.setEnds edgeId ends) (g.setEnds edgeId ends) := by
  refine ⟨h.nodes, ?_⟩
  change update m.ends edgeId ends = update g.ends edgeId ends
  rw [h.ends]

lemma wellFormed (h : Sync m g) (hm : m.WellFormed) : g.WellFormed where
  connected edgeId a b he := by
    rw [← h.ends] at he
    obtain ⟨ha, hb⟩ := hm.connected edgeId a b he
    exact ⟨mt (h.nodes a).mpr ha, mt (h.nodes b).mpr hb⟩
  acyclic := hm.acyclic.mono fun a b ⟨edgeId, he⟩ => ⟨edgeId, h.ends ▸ he⟩

lemma allows (h : Sync m g) (hm : m.Allows p) : g.Allows p := by
  unfold Allows at hm ⊢
  generalize p.mutationType = kind at hm ⊢
  cases kind with
  | addNode =>
    obtain ⟨nodeId, hid, hnew⟩ := hm
    exact ⟨nodeId, hid, (h.nodes nodeId).mp hnew⟩
  | removeNode =>
    obtain ⟨nodeId, hid, hthere, hfree⟩ := hm
    exact ⟨nodeId, hid, mt (h.nodes nodeId).mpr hthere, h.ends ▸ hfree⟩
  | addEdge =>
    obtain ⟨edgeId, a, b, hid, ha, hb, hnew, hwell⟩ := hm
    exact ⟨edgeId, a, b, hid, ha, hb, h.ends ▸ hnew, (h.setEnds edgeId _).wellFormed hwell⟩
  | removeEdge =>
    obtain ⟨edgeId, hid, hthere⟩ := hm
    exact ⟨edgeId, hid, h.ends ▸ hthere⟩
  | rewireEdge =>
    obtain ⟨edgeId, ends, hid, hends, hwell⟩ := hm
    exact ⟨edgeId, ends, hid, h.ends ▸ hends, (h.setEnds edgeId _).wellFormed hwell⟩
  | updateNode =>
    obtain ⟨nodeId, hid, hthere⟩ := hm
    exact ⟨nodeId, hid, mt (h.nodes nodeId).mpr hthere⟩
  | other text => exact hm.elim

/-- Nothing but the status of an update keeps the store from writing what the manager has
applied. -/
lemma stores_iff (h : Sync m g) (hm : m.Allows p) :
    g.Stores p ↔ (p.mutationType = .updateNode →
      (p.text "status").getD "pending" ∈ DagRun.validStatuses) := by
  have hg := h.allows hm
  unfold Allows at hg
  unfold Stores
  generalize p.mutationType = kind at hg ⊢
  cases kind with
  | addNode =>
    obtain ⟨nodeId, hid, hnew⟩ := hg
    exact iff_of_true (by rw [hid]; exact hnew) nofun
  | addEdge =>
    obtain ⟨edgeId, a, b, hid, -, -, hnew, -⟩ := hg
    exact iff_of_true (by rw [hid]; exact hnew) nofun
  | rewireEdge =>
    obtain ⟨edgeId, ends, hid, hends, -⟩ := hg
    exact iff_of_true (by rw [hid]; exact hends ▸ some_ne_none _) nofun
  | updateNode =>
    obtain ⟨nodeId, hid, hthere⟩ := hg
    rw [hid]
    exact ⟨fun hs _ => hs.1, fun hs => ⟨hs rfl, hthere⟩⟩
  | removeNode | removeEdge => exact iff_of_true trivial nofun
  | other text => exact hg.elim

/-- A node without edges goes alone. -/
lemma dropNode_eq {nodeId : String}
    (hfree : ∀ edgeId a b, g.ends edgeId = some (a, b) → a ≠ nodeId ∧ b ≠ nodeId) :
    g.dropNode nodeId = g.setStatus nodeId none := by
  refine GraphView.ext rfl (funext fun edgeId => ?_)
  change (g.ends edgeId).filter _ = g.ends edgeId
  cases hends : g.ends edgeId with
  | none => rfl
  | some ends =>
    obtain ⟨ha, hb⟩ := hfree edgeId ends.1 ends.2 hends
    simp [ha, hb]

lemma step (h : Sync m g) (hm : m.Allows p) : Sync (m.mutated p) (g.persisted p) := by
  have hg := h.allows hm
  unfold Allows at hm hg
  unfold persisted mutated
  generalize p.mutationType = kind at hm hg ⊢
  cases kind with
  | addNode => exact h.setStatus _ (iff_of_false (some_ne_none _) (some_ne_none _))
  | removeNode =>
    obtain ⟨nodeId, hid, -, hfree⟩ := hg
    rw [hid, getD_some, dropNode_eq hfree]
    exact h.setStatus _ Iff.rfl
  | addEdge => exact h.setEnds _ _
  | removeEdge => exact h.setEnds _ _
  | rewireEdge =>
    rw [← h.ends]
    exact h.setEnds _ _
  | updateNode =>
    obtain ⟨nodeId, hid, hthere⟩ := hm
    rw [hid]
    exact h.setStatus _ (iff_of_false (mt map_eq_none_iff.mp hthere) (some_ne_none _))
  | other text => exact hm.elim

/-- A mutation that the store refuses only changes a status of the manager. -/
lemma refused (h : Sync m g) (hm : m.Allows p) (hnot : ¬g.Stores p) : Sync (m.mutated p) g := by
  rw [h.stores_iff hm, Classical.not_imp] at hnot
  obtain ⟨htype, -⟩ := hnot
  unfold Allows at hm
  rw [htype] at hm
  obtain ⟨nodeId, hid, hthere⟩ := hm
  rw [mutated, htype, hid]
  refine ⟨fun id => ?_, h.ends⟩
  change update m.status nodeId _ id = none ↔ _
  rw [update_apply]
  split_ifs with heq
  · subst heq
    refine iff_of_false (mt map_eq_none_iff.mp hthere) (mt (h.nodes id).mpr hthere)
  · exact h.nodes id

end GraphView.Sync

lemma text_shown (hstatus : key ≠ "db_status") (hprofile : key ≠ "profile_id") :
    n.shown.text key = n.nodeJson.text key := by
  unfold DagNodeRow.shown
  cases n.profileId with
  | none => exact Json.text_set_of_ne hstatus
  | some profileId =>
    rw [elim_some, Json.text_set_of_ne hprofile, Json.text_set_of_ne hstatus]

lemma shownStatus_shown : shownStatus n.shown = some n.status := by
  have hset : (n.nodeJson.set "db_status" (.str n.status)).text "db_status" = some n.status :=
    Json.text_set_self n.named _ _
  unfold shownStatus DagNodeRow.shown
  cases n.profileId with
  | none =>
    rw [elim_none, hset]
    rfl
  | some profileId =>
    rw [elim_some, Json.text_set_of_ne (by decide), hset]
    rfl

/-- A manager of this DAG with this graph. -/
structure DAGState.Holds (st : DAGState) (runId : String) (v : GraphView) : Prop where
  valid : st.Valid
  dagId : st.dagId = runId
  view : st.view = v

namespace DAGState.Holds

variable {st : DAGState} {runId : String}

lemma mutate (h : st.Holds runId v) (hdag : p.dagId = runId) (hflag : p.requiresApproval = false)
    (happroval : ¬v.NeedsApproval p) (hallows : v.Allows p) :
    (st.afterMutation p).Holds runId (v.mutated p) := by
  obtain ⟨hvalid, rfl, rfl⟩ := h
  rcases afterMutation_cases hvalid with ⟨-, -, happlies⟩ | ⟨hnot, -, -⟩
  · exact ⟨happlies.valid, happlies.dagId, happlies.view⟩
  · exact absurd ⟨hdag, hflag, happroval, hallows⟩ hnot

lemma loadNode (h : st.Holds runId v) (n : DagNodeRow) (hnew : v.status n.nodeId = none) :
    (st.afterMutation (loadNode runId n.shown)).Holds runId
      (v.setStatus n.nodeId (some n.status)) := by
  have hid : (Harness.loadNode runId n.shown).text "node_id" = some n.nodeId := by
    change some ((n.shown.text "node_id").getD "") = _
    rw [text_shown (by decide) (by decide), n.named]
    rfl
  have hstatus : (Harness.loadNode runId n.shown).text "status" = some n.status := by
    change some ((shownStatus n.shown).getD "pending") = _
    rw [shownStatus_shown]
    rfl
  have hmutated : v.mutated (Harness.loadNode runId n.shown) =
      v.setStatus n.nodeId (some n.status) := by
    change v.setStatus (((Harness.loadNode runId n.shown).text "node_id").getD "") _ = _
    rw [hid, hstatus]
    rfl
  exact hmutated ▸ h.mutate rfl rfl id ⟨n.nodeId, hid, hnew⟩

lemma loadEdge (h : st.Holds runId v) (e : DagEdgeRow) (hnew : v.ends e.edgeId = none)
    (hwell : (v.setEnds e.edgeId (some (e.fromNodeId, e.toNodeId))).WellFormed) :
    (st.afterMutation (loadEdge runId e.edgeJson)).Holds runId
      (v.setEnds e.edgeId (some (e.fromNodeId, e.toNodeId))) := by
  have hid : (Harness.loadEdge runId e.edgeJson).text "edge_id" = some e.edgeId := by
    change some ((e.edgeJson.text "edge_id").getD "") = _
    rw [e.named]
    rfl
  have ha : (Harness.loadEdge runId e.edgeJson).text "from_node" = some e.fromNodeId := by
    change some ((e.edgeJson.text "from_node_id").getD "") = _
    rw [e.namesFrom]
    rfl
  have hb : (Harness.loadEdge runId e.edgeJson).text "to_node" = some e.toNodeId := by
    change some ((e.edgeJson.text "to_node_id").getD "") = _
    rw [e.namesTo]
    rfl
  have hmutated : v.mutated (Harness.loadEdge runId e.edgeJson) =
      v.setEnds e.edgeId (some (e.fromNodeId, e.toNodeId)) := by
    change v.setEnds (((Harness.loadEdge runId e.edgeJson).text "edge_id").getD "") _ = _
    rw [hid, ha, hb]
    rfl
  exact hmutated ▸ h.mutate rfl rfl id ⟨e.edgeId, _, _, hid, ha, hb, hnew, hwell⟩

lemma loadNodes (rows : List DagNodeRow) (hkeyed : (rows.map DagNodeRow.nodeId).Nodup) :
    ∀ {st : DAGState} {v : GraphView}, st.Holds runId v →
      (∀ n ∈ rows, v.status n.nodeId = none) →
      (rows.foldl (fun st n => st.afterMutation (Harness.loadNode runId n.shown)) st).Holds runId
        { v with
          status := fun id =>
            ((KeyedList.lookup DagNodeRow.nodeId rows id).map DagNodeRow.status).or
              (v.status id) } := by
  induction rows with
  | nil => exact fun h _ => h
  | cons n rows ih =>
    intro st v h hnew
    rw [map_cons, nodup_cons] at hkeyed
    have hrest : ∀ m ∈ rows, (v.setStatus n.nodeId (some n.status)).status m.nodeId = none := by
      intro m hm
      have hne : m.nodeId ≠ n.nodeId := fun heq => hkeyed.1 (heq ▸ mem_map_of_mem hm)
      change update v.status n.nodeId _ m.nodeId = none
      rw [update_of_ne hne]
      exact hnew m (mem_cons_of_mem n hm)
    have hloaded := ih hkeyed.2 (h.loadNode n (hnew n mem_cons_self)) hrest
    -- the other rows say nothing of this node
    have hview : (fun id => ((KeyedList.lookup DagNodeRow.nodeId rows id).map DagNodeRow.status).or
        (update v.status n.nodeId (some n.status) id)) =
        fun id => ((KeyedList.lookup DagNodeRow.nodeId (n :: rows) id).map DagNodeRow.status).or
          (v.status id) := by
      funext id
      unfold KeyedList.lookup
      by_cases hid : id = n.nodeId
      · have hnone : KeyedList.lookup DagNodeRow.nodeId rows id = none := by
          rw [hid]
          exact KeyedList.lookup_eq_none.mpr fun m hm heq => hkeyed.1 (heq ▸ List.mem_map_of_mem hm)
        change (Option.map _ (KeyedList.lookup DagNodeRow.nodeId rows id)).or _ = _
        rw [hnone, hid, update_self]
        simp
      · rw [update_of_ne hid]
        simp [Ne.symm hid]
    exact ⟨hloaded.valid, hloaded.dagId, hloaded.view.trans (GraphView.ext hview rfl)⟩

/-- Each prefix of the edges leaves out edges of a well-formed graph, so none is refused. -/
lemma loadEdges {t : GraphView} (ht : t.WellFormed) (rows : List DagEdgeRow)
    (hkeyed : (rows.map DagEdgeRow.edgeId).Nodup)
    (hrows : ∀ e ∈ rows, t.ends e.edgeId = some (e.fromNodeId, e.toNodeId)) :
    ∀ {st : DAGState} {v : GraphView}, st.Holds runId v → v.status = t.status →
      (∀ id ends, v.ends id = some ends → t.ends id = some ends) →
      (∀ e ∈ rows, v.ends e.edgeId = none) →
      ∃ v', (rows.foldl (fun st e => st.afterMutation (Harness.loadEdge runId e.edgeJson)) st).Holds
          runId v' ∧
        v'.status = t.status ∧ (∀ id ends, v'.ends id = some ends → t.ends id = some ends) ∧
        (∀ id, v.ends id ≠ none → v'.ends id ≠ none) ∧ ∀ e ∈ rows, v'.ends e.edgeId ≠ none := by
  induction rows with
  | nil => exact fun {st v} h hstatus hsub _ => ⟨v, h, hstatus, hsub, fun _ => id, fun _ he => nomatch he⟩
  | cons e rows ih =>
    intro st v h hstatus hsub hnew
    rw [map_cons, nodup_cons] at hkeyed
    set w := v.setEnds e.edgeId (some (e.fromNodeId, e.toNodeId)) with hw
    have hends : ∀ id, w.ends id =
        if id = e.edgeId then some (e.fromNodeId, e.toNodeId) else v.ends id :=
      fun id => update_apply ..
    have hsub' : ∀ id ends, w.ends id = some ends → t.ends id = some ends := by
      intro id ends hid
      rw [hends] at hid
      split_ifs at hid with heq
      · rw [heq, ← hid]
        exact hrows e mem_cons_self
      · exact hsub id ends hid
    have hwell : w.WellFormed := by
      refine ⟨fun id a b hid => ?_, ht.acyclic.mono fun a b ⟨id, hid⟩ => ⟨id, hsub' id _ hid⟩⟩
      change v.status a ≠ none ∧ v.status b ≠ none
      rw [hstatus]
      exact ht.connected id a b (hsub' id _ hid)
    have hrest : ∀ e' ∈ rows, w.ends e'.edgeId = none := by
      intro e' he'
      have hne : e'.edgeId ≠ e.edgeId := fun heq => hkeyed.1 (heq ▸ mem_map_of_mem he')
      rw [hends, if_neg hne]
      exact hnew e' (mem_cons_of_mem e he')
    obtain ⟨v', hholds, hstatus', hsub'', hkept, hall⟩ :=
      ih hkeyed.2 (fun e' he' => hrows e' (mem_cons_of_mem e he'))
        (h.loadEdge e (hnew e mem_cons_self) hwell) hstatus hsub' hrest
    have hw_ne : ∀ id, v.ends id ≠ none ∨ id = e.edgeId → w.ends id ≠ none := by
      intro id hid
      rw [hends]
      split_ifs with heq
      · exact some_ne_none _
      · exact hid.resolve_right heq
    refine ⟨v', hholds, hstatus', hsub'', fun id hid => hkept id (hw_ne id (.inl hid)), ?_⟩
    intro e' he'
    rcases mem_cons.mp he' with rfl | he'
    · exact hkept _ (hw_ne _ (.inr rfl))
    · exact hall e' he'

end DAGState.Holds

lemma holds_new (runId now : String) :
    (DAGState.new runId now).Holds runId ⟨fun _ => none, fun _ => none⟩ where
  valid := DAGState.valid_new runId now
  dagId := rfl
  view := rfl

/-- The manager of a batch has the stored graph. -/
lemma holds_loadManager (runId now : String) {g : RunGraph} (hg : g.view.WellFormed) :
    (loadManager runId now g).Holds runId g.view := by
  have hnodes := DAGState.Holds.loadNodes g.nodes.rows g.nodes.keys_nodup (holds_new runId now)
    fun _ _ => rfl
  have hstatus : (fun id => ((KeyedList.lookup DagNodeRow.nodeId g.nodes.rows id).map
      DagNodeRow.status).or none) = g.view.status := funext fun id => or_none
  have hrows : ∀ e ∈ g.edges.rows, g.view.ends e.edgeId = some (e.fromNodeId, e.toNodeId) :=
    fun e he => map_eq_some_iff.mpr ⟨e, g.edges.find?_key he, rfl⟩
  obtain ⟨v', hholds, hstatus', hsub, -, hall⟩ := DAGState.Holds.loadEdges hg g.edges.rows
    g.edges.keys_nodup hrows hnodes hstatus (fun _ _ h => nomatch h) fun _ _ => rfl
  have hends : v'.ends = g.view.ends := by
    funext id
    cases hid : g.view.ends id with
    | none =>
      cases hid' : v'.ends id with
      | none => rfl
      | some ends => exact absurd (hsub id ends hid') (hid ▸ some_ne_none ends |>.symm)
    | some ends =>
      obtain ⟨e, he, rfl⟩ := map_eq_some_iff.mp hid
      obtain rfl := Table.key_of_find? he
      obtain ⟨ends', hends'⟩ := ne_none_iff_exists'.mp (hall e (Table.mem_of_find? he))
      rw [hends', ← hsub _ _ hends', hid]
  rw [loadManager, foldl_append, foldl_map, foldl_map]
  exact ⟨hholds.valid, hholds.dagId, hholds.view.trans (GraphView.ext hstatus' hends)⟩

end Harness
