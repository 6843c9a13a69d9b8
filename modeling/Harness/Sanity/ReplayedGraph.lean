import Harness.Lib.KeyedLog
import Harness.Sanity.StoredGraph

/-! The replay of the events of a run, one node and one edge at a time. A replayed item is two
texts: the status of the row and the one in the JSON of a node, or the two ends of an edge. -/

namespace Harness

open List Option DagNodeRow

open Lib KeyedLog

/-! Lists of JSON objects that are told apart by the text under one name. -/

section Named

variable {key name : String} {γ : Type} (π : Json → γ) {l : List Json}

def named (key : String) (v : Json) : Option String := v.text key

def found (key : String) (π : Json → γ) (l : List Json) (k : Option String) : Option γ :=
  (KeyedList.lookup (named key) l k).map π

lemma any_named_iff :
    (l.any fun v => v.text key = some name) = false ↔
      KeyedList.lookup (named key) l (some name) = none := by
  rw [KeyedList.lookup_eq_none, List.any_eq_false]
  simp [named]

lemma found_add (hl : (l.map (named key)).Nodup) {v : Json} (hv : v.text key = some name) :
    ((if l.any fun v => v.text key = some name then l else l ++ [v]).map (named key)).Nodup ∧
      ∀ k, found key π (if l.any fun v => v.text key = some name then l else l ++ [v]) k =
        act (if k = some name then .create (π v) else .skip) (found key π l k) := by
  unfold found
  cases hthere : l.any fun v => v.text key = some name with
  | true =>
    refine ⟨hl, fun k => ?_⟩
    rw [if_pos rfl]
    split_ifs with hk
    · have hfound : KeyedList.lookup (named key) l (some name) ≠ none := by
        rw [ne_eq, ← any_named_iff, hthere]
        decide
      obtain ⟨w, hw⟩ := ne_none_iff_exists'.mp hfound
      rw [hk, hw]
      rfl
    · rfl
  | false =>
    have hnew : KeyedList.lookup (named key) l (named key v) = none := by
      rw [named, hv]
      exact any_named_iff.mp hthere
    refine ⟨KeyedList.nodup_append_of_new hl hnew, fun k => ?_⟩
    rw [if_neg (by decide), KeyedList.lookup_append_of_new hnew]
    change Option.map π (if k = v.text key then _ else _) = _
    rw [hv]
    split_ifs with hk
    · rw [named, hv] at hnew
      rw [hk, hnew]
      rfl
    · rfl

lemma found_remove (hl : (l.map (named key)).Nodup) :
    ((l.filter fun v => v.text key ≠ some name).map (named key)).Nodup ∧
      ∀ k, found key π (l.filter fun v => v.text key ≠ some name) k =
        act (if k = some name then .delete else .skip) (found key π l k) := by
  refine ⟨hl.sublist (filter_sublist.map _), fun k => ?_⟩
  change Option.map π (KeyedList.lookup _ (l.filter fun v => named key v ≠ some name) k) = _
  rw [KeyedList.lookup_filter_ne]
  split_ifs <;> rfl

variable {f : Json → Json}

lemma map_updateNamed (hf : ∀ v, (f v).text key = v.text key) :
    (updateNamed key name f l).map (named key) = l.map (named key) := by
  induction l with
  | nil => rfl
  | cons v l ih =>
    unfold updateNamed
    split_ifs
    · rw [map_cons, map_cons, named, hf]
      rfl
    · rw [map_cons, map_cons, ih]

lemma lookup_updateNamed (hf : ∀ v, (f v).text key = v.text key) {k : Option String} :
    KeyedList.lookup (named key) (updateNamed key name f l) k = if k = some name
    then (KeyedList.lookup (named key) l k).map f else KeyedList.lookup (named key) l k := by
  unfold KeyedList.lookup named
  induction l with
  | nil => simp [updateNamed]
  | cons v l ih =>
    unfold updateNamed
    by_cases hname : v.text key = some name
    · rw [if_pos hname, find?_cons, find?_cons, hf, hname]
      by_cases hk : k = some name
      · simp [hk]
      · simp [hk, Ne.symm hk]
    · rw [if_neg hname, find?_cons, find?_cons, ih]
      by_cases hk : k = some name
      · simp [hk, hname]
      · by_cases hv : v.text key = k
        · simp [hv, hk]
        · simp [hv, hk]

lemma found_update (hl : (l.map (named key)).Nodup) {g : γ → γ}
    (hf : ∀ v, (f v).text key = v.text key) (hg : ∀ v, v.text key = some name → π (f v) = g (π v)) :
    ((updateNamed key name f l).map (named key)).Nodup ∧
      ∀ k, found key π (updateNamed key name f l) k =
        act (if k = some name then .edit g else .skip) (found key π l k) := by
  refine ⟨by rw [map_updateNamed hf]; exact hl, fun k => ?_⟩
  unfold found
  rw [lookup_updateNamed hf]
  split_ifs with hk
  · subst hk
    cases hv : KeyedList.lookup (named key) l (some name) with
    | none => rfl
    | some v =>
      have hname : named key v = some name := KeyedList.key_of_lookup hv
      exact congrArg some (hg v hname)
  · rfl

end Named

def nodeTexts (n : Json) : Option String × Option String := (n.text "db_status", n.text "status")

def edgeTexts (e : Json) : Option String × Option String :=
  (e.text "from_node_id", e.text "to_node_id")

def nodeEntry (k : Option String) : RunEvent → Entry (Option String × Option String)
  | .nodeAdded nodeId => if k = some nodeId then .create (none, some "pending") else .skip
  | .nodeRemoved nodeId _ => if k = some nodeId then .delete else .skip
  | .nodeStatusUpdated nodeId newStatus =>
    if k = some nodeId then .edit fun v => (v.1, some newStatus) else .skip
  | _ => .skip

def edgeEntry (k : Option String) : RunEvent → Entry (Option String × Option String)
  | .edgeAdded edgeId => if k = some edgeId then .create (none, none) else .skip
  | .edgeRemoved edgeId => if k = some edgeId then .delete else .skip
  | .edgeRewired edgeId _ _ newFrom newTo =>
    if k = some edgeId then .edit fun _ => (some newFrom, some newTo) else .skip
  | _ => .skip

def foundNode : List Json → Option String → Option (Option String × Option String) :=
  found "node_id" nodeTexts

def foundEdge : List Json → Option String → Option (Option String × Option String) :=
  found "edge_id" edgeTexts

/-- Every item of a replay has an id of its own. -/
structure Replayed.Keyed (st : Replayed) : Prop where
  nodes : (st.nodes.map (named "node_id")).Nodup
  edges : (st.edges.map (named "edge_id")).Nodup

lemma Replayed.step_spec {st : Replayed} (h : st.Keyed) {event : RunEvent} :
    (st.step event).Keyed ∧
      (∀ k, foundNode (st.step event).nodes k = act (nodeEntry k event) (foundNode st.nodes k)) ∧
      ∀ k, foundEdge (st.step event).edges k = act (edgeEntry k event) (foundEdge st.edges k) := by
  cases event with
  | nodeAdded nodeId =>
    obtain ⟨hkeyed, hfound⟩ := found_add nodeTexts h.nodes (v := .obj [("node_id", .str nodeId),
      ("status", .str "pending"), ("task_type", .str "unknown")]) rfl
    exact ⟨⟨hkeyed, h.edges⟩, hfound, fun _ => rfl⟩
  | nodeRemoved nodeId removedEdges =>
    obtain ⟨hkeyed, hfound⟩ := found_remove nodeTexts h.nodes
    exact ⟨⟨hkeyed, h.edges⟩, hfound, fun _ => rfl⟩
  | nodeStatusUpdated nodeId newStatus =>
    have hf : ∀ v : Json, (v.set "status" (.str newStatus)).text "node_id" = v.text "node_id" :=
      fun v => Json.text_set_of_ne (by decide)
    have hg : ∀ v : Json, v.text "node_id" = some nodeId →
        nodeTexts (v.set "status" (.str newStatus)) = ((nodeTexts v).1, some newStatus) := by
      intro v hv
      rw [nodeTexts, Json.text_set_of_ne (by decide), Json.text_set_self hv]
      rfl
    obtain ⟨hkeyed, hfound⟩ := found_update nodeTexts h.nodes
      (g := fun v => (v.1, some newStatus)) hf hg
    exact ⟨⟨hkeyed, h.edges⟩, hfound, fun _ => rfl⟩
  | edgeAdded edgeId =>
    obtain ⟨hkeyed, hfound⟩ := found_add edgeTexts h.edges (v := .obj [("edge_id", .str edgeId)]) rfl
    exact ⟨⟨h.nodes, hkeyed⟩, fun _ => rfl, hfound⟩
  | edgeRemoved edgeId =>
    obtain ⟨hkeyed, hfound⟩ := found_remove edgeTexts h.edges
    exact ⟨⟨h.nodes, hkeyed⟩, fun _ => rfl, hfound⟩
  | edgeRewired edgeId oldFrom oldTo newFrom newTo =>
    have hf : ∀ v : Json, ((v.set "from_node_id" (.str newFrom)).set "to_node_id"
        (.str newTo)).text "edge_id" = v.text "edge_id" := by
      intro v
      rw [Json.text_set_of_ne (by decide), Json.text_set_of_ne (by decide)]
    have hg : ∀ v : Json, v.text "edge_id" = some edgeId → edgeTexts ((v.set "from_node_id"
        (.str newFrom)).set "to_node_id" (.str newTo)) = (some newFrom, some newTo) := by
      intro v hv
      have hfrom := Json.text_set_self hv "from_node_id" newFrom
      rw [edgeTexts, Json.text_set_of_ne (by decide), hfrom, Json.text_set_self hfrom]
    obtain ⟨hkeyed, hfound⟩ := found_update edgeTexts h.edges
      (g := fun _ => (some newFrom, some newTo)) hf hg
    exact ⟨⟨h.nodes, hkeyed⟩, fun _ => rfl, hfound⟩
  | applied _ _ | tickStarted | other _ => exact ⟨h, fun _ => rfl, fun _ => rfl⟩

variable {r : DagRun} {l : List Json} {events : List RunEvent} {key : String} {γ : Type}

lemma Replayed.foldl_spec :
    ∀ {st : Replayed}, st.Keyed →
      (events.foldl step st).Keyed ∧
        (∀ k, foundNode (events.foldl step st).nodes k =
          replay (events.map (nodeEntry k)) (foundNode st.nodes k)) ∧
        ∀ k, foundEdge (events.foldl step st).edges k =
          replay (events.map (edgeEntry k)) (foundEdge st.edges k) := by
  induction events with
  | nil => exact fun h => ⟨h, fun _ => rfl, fun _ => rfl⟩
  | cons event events ih =>
    intro st h
    obtain ⟨hkeyed, hnode, hedge⟩ := step_spec h
    obtain ⟨hkeyed', hnodes, hedges⟩ := ih hkeyed
    exact ⟨hkeyed', fun k => (hnodes k).trans (congrArg _ (hnode k)),
      fun k => (hedges k).trans (congrArg _ (hedge k))⟩

/-- The events that the replay sees. -/
def DagRun.visible (r : DagRun) : List RunEvent := r.events.take replayLimit

/-- The replay has the nodes that are stored with their statuses, and the edges with their ends, in
any order. -/
structure ReplayAgrees (r : DagRun) : Prop where
  nodes : ((replayMutationEvents r).nodes.map fun n => (n.text "node_id", shownStatus n)).Perm
    (r.nodes.rows.map fun n => (some n.nodeId, some n.status))
  edges : ((replayMutationEvents r).edges.map fun e =>
      (e.text "edge_id", e.text "from_node_id", e.text "to_node_id")).Perm
    (r.edges.rows.map fun e => (some e.edgeId, some e.fromNodeId, some e.toNodeId))

/-- What the replay starts from. -/
lemma keyed_base :
    Replayed.Keyed ⟨r.nodes.rows.map shown, r.edges.rows.map DagEdgeRow.edgeJson, 0⟩ where
  nodes := by
    have hnames : (r.nodes.rows.map shown).map (named "node_id") =
        (r.nodes.rows.map nodeId).map some := by
      rw [List.map_map, List.map_map]
      refine List.map_congr_left fun n _ => ?_
      exact (text_shown (by decide) (by decide)).trans n.named
    rw [hnames]
    exact r.nodes.keys_nodup.map (Option.some_injective _)
  edges := by
    have hnames : (r.edges.rows.map DagEdgeRow.edgeJson).map (named "edge_id") =
        (r.edges.rows.map DagEdgeRow.edgeId).map some := by
      rw [List.map_map, List.map_map]
      exact List.map_congr_left fun e _ => e.named
    rw [hnames]
    exact r.edges.keys_nodup.map (Option.some_injective _)

lemma foundNode_base {nodeId : String} :
    ∃ x, foundNode (r.nodes.rows.map shown) (some nodeId) =
      (r.view.status nodeId).map fun status => (some status, x) := by
  have hlookup : KeyedList.lookup (named "node_id") (r.nodes.rows.map shown)
      (some nodeId) = (r.nodes.find? nodeId).map shown := by
    unfold KeyedList.lookup
    rw [find?_map]
    congr 2
    funext n
    rw [Function.comp_apply, named, text_shown (by decide) (by decide), n.named]
    simp
  change ∃ x, Option.map nodeTexts _ = Option.map _ ((r.nodes.find? nodeId).map _)
  rw [hlookup]
  cases r.nodes.find? nodeId with
  | none => exact ⟨none, rfl⟩
  | some n =>
    refine ⟨n.shown.text "status", congrArg some (Prod.ext ?_ rfl)⟩
    have hset : (n.nodeJson.set "db_status" (.str n.status)).text "db_status" = some n.status :=
      Json.text_set_self n.named _ _
    unfold shown
    cases n.profileId with
    | none => exact hset
    | some profileId => exact (Json.text_set_of_ne (by decide)).trans hset

def bothEnds (ends : String × String) : Option String × Option String := (some ends.1, some ends.2)

lemma foundEdge_base {edgeId : String} :
    foundEdge (r.edges.rows.map DagEdgeRow.edgeJson) (some edgeId) =
      (r.view.ends edgeId).map bothEnds := by
  have hlookup : KeyedList.lookup (named "edge_id") (r.edges.rows.map DagEdgeRow.edgeJson)
      (some edgeId) = (r.edges.find? edgeId).map DagEdgeRow.edgeJson := by
    unfold KeyedList.lookup
    rw [find?_map]
    congr 2
    funext e
    rw [Function.comp_apply, named, e.named]
    simp
  change Option.map edgeTexts _ = Option.map _ ((r.edges.find? edgeId).map _)
  rw [hlookup]
  cases r.edges.find? edgeId with
  | none => rfl
  | some e => exact congrArg some (Prod.ext e.namesFrom e.namesTo)

def seenStatus (v : Option String × Option String) : Option String := v.1.or v.2

/-- Nothing is found without a name, before and after. -/
lemma found_none {π : Json → γ} (h : ∀ v ∈ l, v.text key ≠ none) : found key π l none = none :=
  map_eq_none_iff.mpr (KeyedList.lookup_eq_none.mpr h)

variable (init : Option String × Option String)

lemma nodeEntry_none : .create init ∉ events.map (nodeEntry none) := by
  intro h
  obtain ⟨event, -, hentry⟩ := mem_map.mp h
  cases event <;> simp [nodeEntry] at hentry

lemma edgeEntry_none : .create init ∉ events.map (edgeEntry none) := by
  intro h
  obtain ⟨event, -, hentry⟩ := mem_map.mp h
  cases event <;> simp [edgeEntry] at hentry

/-- Replayed items are the rows of a table, up to their order, when each is found as its row. -/
lemma perm_rows_iff {δ α : Type} (π : Json → γ) (seen : γ → δ) {id : α → String} (t : Table id)
    (val : α → δ) (hl : (l.map (named key)).Nodup) (hnone : found key π l none = none) :
    (l.map fun v => (v.text key, seen (π v))).Perm (t.rows.map fun a => (some (id a), val a)) ↔
      ∀ k, (found key π l (some k)).map seen = (t.find? k).map val := by
  have hrows : (t.rows.map fun a => some (id a)).Nodup := by
    have h := t.keys_nodup.map (some_injective _)
    rwa [List.map_map] at h
  have hfound : ∀ k, (KeyedList.lookup (named key) l k).map (fun v => seen (π v)) =
      (found key π l k).map seen := fun k => (Option.map_map ..).symm
  have hsome : ∀ k, KeyedList.lookup (fun a => some (id a)) t.rows (some k) = t.find? k := by
    intro k
    unfold KeyedList.lookup
    simp only [Option.some.injEq]
    rfl
  refine (KeyedList.perm_iff_lookup hl hrows).trans ⟨fun h k => ?_, fun h k => ?_⟩
  · rw [← hfound, h, hsome]
  · cases k with
    | none =>
      rw [hfound, hnone, KeyedList.lookup_eq_none.mpr fun _ _ => Option.some_ne_none _]
      rfl
    | some k => rw [hfound, h, hsome]

lemma replay_spec :
    (replayMutationEvents r).Keyed ∧
      (∀ k, foundNode (replayMutationEvents r).nodes k =
        replay (r.visible.map (nodeEntry k)) (foundNode (r.nodes.rows.map shown) k)) ∧
      ∀ k, foundEdge (replayMutationEvents r).edges k =
        replay (r.visible.map (edgeEntry k)) (foundEdge (r.edges.rows.map DagEdgeRow.edgeJson) k) :=
  Replayed.foldl_spec keyed_base

/-- The replay agrees with the store on each node and on each edge. -/
lemma replayAgrees_iff :
    ReplayAgrees r ↔
    (∀ nodeId, (replay (r.visible.map (nodeEntry (some nodeId)))
      (foundNode (r.nodes.rows.map shown) (some nodeId))).map seenStatus =
        (r.view.status nodeId).map some) ∧
    ∀ edgeId, replay (r.visible.map (edgeEntry (some edgeId)))
      ((r.view.ends edgeId).map bothEnds) = (r.view.ends edgeId).map bothEnds := by
  obtain ⟨hkeyed, hnode, hedge⟩ := replay_spec
  have hnoNode : foundNode (replayMutationEvents r).nodes none = none := by
    have hbase : foundNode (r.nodes.rows.map shown) none = none := by
      refine found_none fun v hv => ?_
      obtain ⟨n, -, rfl⟩ := mem_map.mp hv
      rw [text_shown (by decide) (by decide), n.named]
      exact some_ne_none _
    rw [hnode, hbase, replay_none nodeEntry_none]
  have hnoEdge : foundEdge (replayMutationEvents r).edges none = none := by
    have hbase : foundEdge (r.edges.rows.map DagEdgeRow.edgeJson) none = none := by
      refine found_none fun v hv => ?_
      obtain ⟨e, -, rfl⟩ := List.mem_map.mp hv
      rw [e.named]
      exact Option.some_ne_none _
    rw [hedge, hbase, replay_none edgeEntry_none]
  have hnodes := perm_rows_iff nodeTexts seenStatus r.nodes (fun n => some n.status) hkeyed.nodes
    hnoNode
  have hedges := perm_rows_iff edgeTexts id r.edges
    (fun e => (some e.fromNodeId, some e.toNodeId)) hkeyed.edges hnoEdge
  have hstatus : ∀ nodeId, (r.nodes.find? nodeId).map (fun n => some n.status) =
      (r.view.status nodeId).map some := fun nodeId => (Option.map_map ..).symm
  have hends : ∀ edgeId, (r.edges.find? edgeId).map (fun e => (some e.fromNodeId, some e.toNodeId)) =
      (r.view.ends edgeId).map bothEnds := by
    intro edgeId
    change _ = Option.map _ (Option.map _ (r.edges.find? edgeId))
    rw [Option.map_map]
    rfl
  refine ⟨fun h => ⟨fun nodeId => ?_, fun edgeId => ?_⟩, fun h => ⟨hnodes.mpr fun nodeId => ?_,
    hedges.mpr fun edgeId => ?_⟩⟩
  · rw [← hnode, ← hstatus]
    exact hnodes.mp h.nodes nodeId
  · rw [← foundEdge_base, ← hedge, foundEdge_base, ← hends, ← hedges.mp h.edges edgeId]
    exact (congrFun Option.map_id _).symm
  · rw [hstatus, ← h.1]
    exact congrArg _ (hnode (some nodeId))
  · rw [hends, Option.map_id, ← h.2 edgeId, ← foundEdge_base]
    exact hedge (some edgeId)

end Harness
