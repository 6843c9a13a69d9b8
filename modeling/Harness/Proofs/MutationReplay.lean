import Harness.Proofs.DagBatch
import Harness.Sanity.ReplayedGraph
import Mathlib.Data.List.Induction

/-! The replay over a history of mutations, leases and settlements. It folds all the events over the
graph that they led to, and an event tells less than the mutation that left it: which status a node
was added with and which nodes an edge joins are not in it, and neither are the edges that went with
a node. -/

namespace Harness

open List Option Function DagRun

open Lib KeyedLog

def RunEvent.isMutation : RunEvent → Bool
  | .nodeAdded _ | .nodeRemoved .. | .nodeStatusUpdated .. => true
  | .edgeAdded _ | .edgeRemoved _ | .edgeRewired .. => true
  | .applied .. | .tickStarted | .other _ => false

/-- What happens to the graph of a run. Leases and settlements set statuses of rows that are there
and leave events of their own. -/
inductive DagOp where
  | insertNode (node : Json)
  | removeNode (nodeId : String)
  | updateNodeStatus (nodeId newStatus : String)
  | insertEdge (edge : Json)
  | removeEdge (edgeId : String)
  | rewireEdge (edgeId : String) (newFrom newTo : Option String)
  | execute (status : String → String → String) (events : List RunEvent)

variable {event : RunEvent}

namespace DagRun

/-- A mutation that fails leaves the run as it was. -/
def keeping (r : DagRun) : Except String DagRun → DagRun
  | .ok r' => r'
  | .error _ => r

def executed (r : DagRun) (status : String → String → String) (events : List RunEvent) : DagRun :=
  { r with
    nodes := r.nodes.map fun n => { n with status := status n.nodeId n.status }
    events := r.events ++ events.filter fun event => !event.isMutation }

def after (r : DagRun) : DagOp → DagRun
  | .insertNode node => r.keeping (r.insertWorkflowNode node)
  | .removeNode nodeId => r.removeWorkflowNode nodeId
  | .updateNodeStatus nodeId newStatus => r.keeping (r.updateWorkflowNodeStatus nodeId newStatus)
  | .insertEdge edge => r.keeping (r.insertWorkflowEdge edge)
  | .removeEdge edgeId => r.removeWorkflowEdge edgeId
  | .rewireEdge edgeId newFrom newTo => r.keeping (r.rewireWorkflowEdge edgeId newFrom newTo)
  | .execute status events => r.executed status events

/-- The next event is one that the replay will see. -/
def Recorded (r : DagRun) : Prop := r.events.length < replayLimit

end DagRun

def NodeRemoved (events : List RunEvent) (nodeId : String) : Prop :=
  ∃ removedEdges, .nodeRemoved nodeId removedEdges ∈ events

def lastRewire (events : List RunEvent) (edgeId : String) : Option (String × String) :=
  (events.filterMap fun
    | .edgeRewired id _ _ newFrom newTo => if id = edgeId then some (newFrom, newTo) else none
    | _ => none).getLast?

/-- When an operation on a run whose replay agrees keeps it so. -/
def ReplayKeeps (r : DagRun) : DagOp → Prop
  | .insertNode node => ∀ nodeId, node.text "node_id" = some nodeId →
      r.view.status nodeId = none → NodeRemoved r.visible nodeId →
        r.Recorded ∧ (node.text "status").getD "pending" = "pending"
  | .removeNode nodeId =>
      (∀ edgeId a b, r.view.ends edgeId = some (a, b) → a = nodeId ∨ b = nodeId →
        .edgeAdded edgeId ∉ r.visible) ∧
      (r.view.status nodeId ≠ none → ¬r.Recorded → .nodeAdded nodeId ∉ r.visible)
  | .updateNodeStatus nodeId newStatus => newStatus ∈ validStatuses →
      r.view.status nodeId ≠ none → NodeRemoved r.visible nodeId → ¬r.Recorded →
        r.view.status nodeId = some newStatus
  | .insertEdge edge => ∀ edgeId a b, edge.text "edge_id" = some edgeId →
      edge.text "from_node_id" = some a → edge.text "to_node_id" = some b →
        r.view.ends edgeId = none → .edgeRemoved edgeId ∉ r.visible ∧
          ∀ ends, lastRewire r.visible edgeId = some ends → ends = (a, b)
  | .removeEdge edgeId => r.view.ends edgeId ≠ none → ¬r.Recorded →
      .edgeAdded edgeId ∉ r.visible
  | .rewireEdge edgeId newFrom newTo => ∀ a b, r.view.ends edgeId = some (a, b) → ¬r.Recorded →
      .edgeRemoved edgeId ∈ r.visible ∨ lastRewire r.visible edgeId ≠ none →
        (newFrom.getD a, newTo.getD b) = (a, b)
  | .execute status _ => ∀ nodeId current, r.view.status nodeId = some current →
      NodeRemoved r.visible nodeId → status nodeId current = current

section Nodes

variable {events : List RunEvent} {nodeId : String}

def nodeLog (events : List RunEvent) (nodeId : String) : List (Entry (Option String × Option String)) :=
  events.map (nodeEntry (some nodeId))

lemma nodeLog_concat :
    nodeLog (events ++ [event]) nodeId = nodeLog events nodeId ++ [nodeEntry (some nodeId) event] :=
  map_append

lemma delete_mem_nodeLog : .delete ∈ nodeLog events nodeId ↔ NodeRemoved events nodeId := by
  constructor
  · intro h
    obtain ⟨event, hevent, hentry⟩ := mem_map.mp h
    unfold nodeEntry at hentry
    split at hentry <;> (try split_ifs at hentry with hid) <;> cases hentry
    cases hid
    exact ⟨_, hevent⟩
  · rintro ⟨removedEdges, hevent⟩
    exact mem_map.mpr ⟨_, hevent, if_pos rfl⟩

lemma create_mem_nodeLog :
    (∃ init, .create init ∈ nodeLog events nodeId) ↔ .nodeAdded nodeId ∈ events := by
  constructor
  · rintro ⟨init, hinit⟩
    obtain ⟨event, hevent, hentry⟩ := mem_map.mp hinit
    unfold nodeEntry at hentry
    split at hentry <;> (try split_ifs at hentry with hid) <;> cases hentry
    cases hid
    exact hevent
  · exact fun h => ⟨_, mem_map.mpr ⟨_, h, if_pos rfl⟩⟩

/-- An update keeps the status of the row, and what is added has none. -/
lemma nodeLog_row_status :
    (∀ init, .create init ∈ nodeLog events nodeId → init.1 = none) ∧
      ∀ f, .edit f ∈ nodeLog events nodeId → ∀ v, (f v).1 = v.1 := by
  constructor
  · intro init hinit
    obtain ⟨event, -, hentry⟩ := mem_map.mp hinit
    unfold nodeEntry at hentry
    split at hentry <;> (try split_ifs at hentry) <;> cases hentry
    rfl
  · intro f hf v
    obtain ⟨event, -, hentry⟩ := mem_map.mp hf
    unfold nodeEntry at hentry
    split at hentry <;> (try split_ifs at hentry) <;> cases hentry
    rfl

/-- What the log alone makes of a node has no row. -/
lemma row_status_of_log {v : Option String × Option String}
    (h : replay (nodeLog events nodeId) none = some v) : v.1 = none :=
  forall_replay (P := fun v => v.1 = none) nodeLog_row_status.1
    (fun f hf v hv => (nodeLog_row_status.2 f hf v).trans hv) (fun v hv => (by cases hv)) v h

/-- The replay of the log over a row with this status has the status. -/
def NodeAgrees (events : List RunEvent) (nodeId : String) (status : Option String) : Prop :=
  Fits seenStatus (nodeLog events nodeId) (status.map fun status => (some status, none))

variable {status newStatus : String}

lemma fits_row_iff {x : Option String} :
    Fits seenStatus (nodeLog events nodeId) (some (some status, x)) ↔
      (NodeRemoved events nodeId →
        (replay (nodeLog events nodeId) none).map seenStatus = some (some status)) := by
  rw [← delete_mem_nodeLog]
  by_cases hremoved : .delete ∈ nodeLog events nodeId
  · rw [fits_of_delete hremoved]
    exact ⟨fun h _ => h, fun h => h hremoved⟩
  · refine iff_of_true ?_ fun h => absurd h hremoved
    have hrow := replay_map_of_kept (π := Prod.fst) hremoved
      (fun f hf v => nodeLog_row_status.2 f hf v) (some status, x)
    obtain ⟨v, hv, hfst⟩ := map_eq_some_iff.mp hrow
    rw [Fits, hv, map_some, seenStatus, hfst]
    rfl

/-! The log, and the node before and after an operation on it. -/

lemma nodeRemoved_concat (h : ∀ removedEdges, event ≠ .nodeRemoved nodeId removedEdges) :
    NodeRemoved (events ++ [event]) nodeId ↔ NodeRemoved events nodeId := by
  refine exists_congr fun removedEdges => ?_
  rw [mem_append]
  exact or_iff_left fun hmem => h removedEdges (mem_singleton.mp hmem).symm

lemma nodeAgrees_added (h : NodeAgrees events nodeId none) :
    NodeAgrees (events ++ [.nodeAdded nodeId]) nodeId (some status) ↔
      (NodeRemoved events nodeId → status = "pending") := by
  have hlog : replay (nodeLog (events ++ [.nodeAdded nodeId]) nodeId) none =
      some (none, some "pending") := by
    rw [nodeLog_concat, replay_concat, fits_none.mp h, nodeEntry, if_pos rfl]
    rfl
  refine fits_row_iff.trans ?_
  rw [nodeRemoved_concat fun _ heq => (by cases heq), hlog]
  refine imp_congr_right fun _ => ?_
  rw [map_some, some.injEq]
  exact ⟨fun heq => (some.inj heq).symm, fun heq => congrArg some heq.symm⟩

lemma nodeAgrees_some_of_none (h : NodeAgrees events nodeId none) :
    NodeAgrees events nodeId (some status) ↔ ¬NodeRemoved events nodeId := by
  refine fits_row_iff.trans (imp_congr_right fun _ => iff_of_false ?_ id)
  rw [fits_none.mp h]
  exact fun heq => nomatch heq

lemma nodeAgrees_none_iff {status : Option String} (h : NodeAgrees events nodeId status) :
    NodeAgrees events nodeId none ↔ (status ≠ none → .nodeAdded nodeId ∉ events) := by
  refine (fits_none_iff h).trans ?_
  rw [← create_mem_nodeLog, not_exists, ne_eq, map_eq_none_iff]

lemma nodeAgrees_updated (h : NodeAgrees events nodeId (some status)) :
    NodeAgrees (events ++ [.nodeStatusUpdated nodeId newStatus]) nodeId (some newStatus) := by
  refine fits_row_iff.mpr fun hremoved => ?_
  rw [nodeRemoved_concat fun _ heq => (by cases heq)] at hremoved
  obtain ⟨v, hv, -⟩ := map_eq_some_iff.mp (fits_row_iff.mp h hremoved)
  rw [nodeLog_concat, replay_concat, hv, nodeEntry, if_pos rfl]
  change some (v.1.or (some newStatus)) = _
  rw [row_status_of_log hv]
  rfl

lemma nodeAgrees_some_iff (h : NodeAgrees events nodeId (some status)) :
    NodeAgrees events nodeId (some newStatus) ↔
      (NodeRemoved events nodeId → status = newStatus) := by
  refine fits_row_iff.trans (imp_congr_right fun hremoved => ?_)
  rw [fits_row_iff.mp h hremoved, some.injEq, some.injEq]

end Nodes

section Edges

variable {events : List RunEvent} {edgeId : String} {e : String × String}

def edgeLog (events : List RunEvent) (edgeId : String) : List (Entry (Option String × Option String)) :=
  events.map (edgeEntry (some edgeId))

lemma edgeLog_concat :
    edgeLog (events ++ [event]) edgeId = edgeLog events edgeId ++ [edgeEntry (some edgeId) event] :=
  map_append

variable {e' : String × String}

lemma bothEnds_inj : bothEnds e = bothEnds e' ↔ e = e' := by
  unfold bothEnds
  simp [Prod.ext_iff]

lemma delete_mem_edgeLog : .delete ∈ edgeLog events edgeId ↔ .edgeRemoved edgeId ∈ events := by
  constructor
  · intro h
    obtain ⟨event, hevent, hentry⟩ := mem_map.mp h
    unfold edgeEntry at hentry
    split at hentry <;> (try split_ifs at hentry with hid) <;> cases hentry
    cases hid
    exact hevent
  · exact fun h => mem_map.mpr ⟨_, h, if_pos rfl⟩

lemma create_mem_edgeLog :
    (∃ init, .create init ∈ edgeLog events edgeId) ↔ .edgeAdded edgeId ∈ events := by
  constructor
  · rintro ⟨init, hinit⟩
    obtain ⟨event, hevent, hentry⟩ := mem_map.mp hinit
    unfold edgeEntry at hentry
    split at hentry <;> (try split_ifs at hentry with hid) <;> cases hentry
    cases hid
    exact hevent
  · exact fun h => ⟨_, mem_map.mpr ⟨_, h, if_pos rfl⟩⟩

/-- Without a deletion, the last rewiring says where the edge is. -/
lemma replay_edgeLog_some (h : .edgeRemoved edgeId ∉ events) {v : Option String × Option String} :
    replay (edgeLog events edgeId) (some v) = some ((lastRewire events edgeId).elim v bothEnds) :=
    by
  induction events using reverseRecOn with
  | nil => rfl
  | append_singleton events event ih =>
    rw [mem_append, not_or] at h
    rw [edgeLog_concat, replay_concat, ih h.1]
    unfold lastRewire
    cases event with
    | edgeAdded id =>
      by_cases hid : id = edgeId
      · simp [edgeEntry, act, hid]
      · simp [edgeEntry, act, Ne.symm hid]
    | edgeRemoved id =>
      have hid : edgeId ≠ id := fun heq => h.2 (heq ▸ mem_singleton_self _)
      simp [edgeEntry, act, hid]
    | edgeRewired id a b c d =>
      by_cases hid : id = edgeId
      · simp [edgeEntry, act, hid, bothEnds]
      · simp [edgeEntry, act, hid, Ne.symm hid]
    | _ => simp [edgeEntry, act]

/-- The replay of the log over an edge with these ends has the ends. -/
def EdgeAgrees (events : List RunEvent) (edgeId : String) (ends : Option (String × String)) : Prop :=
  Fits id (edgeLog events edgeId) (ends.map bothEnds)

lemma fits_edge_iff :
    EdgeAgrees events edgeId (some e) ↔
      replay (edgeLog events edgeId) (some (bothEnds e)) = some (bothEnds e) := by
  unfold EdgeAgrees Fits
  rw [Option.map_id]
  rfl

/-- Over a row that the log leads to, the log must neither delete it nor move it. -/
lemma edgeAgrees_some_of_none (h : EdgeAgrees events edgeId none) :
    EdgeAgrees events edgeId (some e) ↔ .edgeRemoved edgeId ∉ events ∧
      ∀ e', lastRewire events edgeId = some e' → e' = e := by
  by_cases hremoved : .edgeRemoved edgeId ∈ events
  · refine iff_of_false (fun hagrees => ?_) fun hnot => hnot.1 hremoved
    exact not_delete_of_fits h hagrees (delete_mem_edgeLog.mpr hremoved)
  · rw [fits_edge_iff, replay_edgeLog_some hremoved, some.injEq]
    cases hlast : lastRewire events edgeId with
    | none => exact iff_of_true rfl ⟨hremoved, fun e' he' => nomatch he'⟩
    | some e' =>
      rw [elim_some, bothEnds_inj]
      refine ⟨fun heq => ⟨hremoved, fun e'' he'' => ?_⟩, fun hall => hall.2 e' rfl⟩
      exact (some.inj he'').symm.trans heq

lemma edgeAgrees_added (h : EdgeAgrees events edgeId none) :
    EdgeAgrees (events ++ [.edgeAdded edgeId]) edgeId (some e) ↔ .edgeRemoved edgeId ∉ events ∧
      ∀ e', lastRewire events edgeId = some e' → e' = e := by
  rw [← edgeAgrees_some_of_none h, fits_edge_iff, fits_edge_iff, edgeLog_concat, replay_concat,
    edgeEntry, if_pos rfl]
  -- what an event adds has no ends
  cases replay (edgeLog events edgeId) (some (bothEnds e)) with
  | none => exact iff_of_false (by intro heq; cases heq) (by intro heq; cases heq)
  | some v => exact Iff.rfl

lemma edgeAgrees_none_iff {ends : Option (String × String)} (h : EdgeAgrees events edgeId ends) :
    EdgeAgrees events edgeId none ↔ (ends ≠ none → .edgeAdded edgeId ∉ events) := by
  refine (fits_none_iff h).trans ?_
  rw [← create_mem_edgeLog, not_exists, ne_eq, map_eq_none_iff]

lemma edgeAgrees_rewired (h : EdgeAgrees events edgeId (some e)) (a b c d : String) :
    EdgeAgrees (events ++ [.edgeRewired edgeId a b c d]) edgeId (some (c, d)) := by
  have hthere : replay (edgeLog events edgeId) (some (bothEnds (c, d))) ≠ none := by
    by_cases hremoved : .delete ∈ edgeLog events edgeId
    · rw [replay_of_delete hremoved, ← replay_of_delete hremoved,
        fits_edge_iff.mp h]
      exact some_ne_none _
    · exact replay_ne_none hremoved (some_ne_none _)
  obtain ⟨v, hv⟩ := ne_none_iff_exists'.mp hthere
  rw [fits_edge_iff, edgeLog_concat, replay_concat, hv, edgeEntry, if_pos rfl]
  rfl

lemma edgeAgrees_some_iff (h : EdgeAgrees events edgeId (some e)) :
    EdgeAgrees events edgeId (some e') ↔
      (.edgeRemoved edgeId ∈ events ∨ lastRewire events edgeId ≠ none → e' = e) := by
  rw [fits_edge_iff] at h ⊢
  by_cases hremoved : .edgeRemoved edgeId ∈ events
  · rw [replay_of_delete (delete_mem_edgeLog.mpr hremoved)] at h ⊢
    rw [h, some.injEq, bothEnds_inj]
    exact ⟨fun heq _ => heq.symm, fun himp => (himp (.inl hremoved)).symm⟩
  · rw [replay_edgeLog_some hremoved, some.injEq] at h ⊢
    cases hlast : lastRewire events edgeId with
    | none => exact iff_of_true rfl fun hor => (hor.resolve_left hremoved rfl).elim
    | some last =>
      rw [hlast, elim_some, bothEnds_inj] at h
      rw [elim_some, bothEnds_inj, h]
      exact ⟨fun heq _ => heq.symm, fun himp => (himp (.inr (some_ne_none _))).symm⟩

end Edges

section Runs

variable {r r' : DagRun}

lemma replayAgrees_iff_logs :
    ReplayAgrees r ↔
      (∀ nodeId, NodeAgrees r.visible nodeId (r.view.status nodeId)) ∧
        ∀ edgeId, EdgeAgrees r.visible edgeId (r.view.ends edgeId) := by
  rw [replayAgrees_iff]
  refine and_congr (forall_congr' fun nodeId => ?_) (forall_congr' fun edgeId => ?_)
  · obtain ⟨x, hx⟩ := foundNode_base
    rw [hx]
    cases r.view.status nodeId with
    | none => exact Iff.rfl
    | some status => exact fits_row_iff.trans fits_row_iff.symm
  · unfold EdgeAgrees Fits
    rw [Option.map_id]
    exact Iff.rfl

variable {events : List RunEvent} {k : Option String} {nodeId edgeId : String}

lemma visible_append (h : r'.events = r.events ++ events) :
    r'.visible = r.visible ++ events.take (replayLimit - r.events.length) := by
  unfold visible
  rw [h, take_append]

lemma visible_cases (h : r'.events = r.events ++ [event]) :
    (r.Recorded ∧ r'.visible = r.visible ++ [event]) ∨ (¬r.Recorded ∧ r'.visible = r.visible) := by
  rw [visible_append h]
  by_cases hrecorded : r.events.length < replayLimit
  · refine .inl ⟨hrecorded, ?_⟩
    rw [take_of_length_le (by simp; omega)]
  · refine .inr ⟨hrecorded, ?_⟩
    rw [Nat.sub_eq_zero_of_le (not_lt.mp hrecorded), take_zero, append_nil]

/-- An event that says nothing of an item leaves its log as it was. -/
lemma fits_of_skip {β γ : Type} {entry : RunEvent → Entry β} {seen : β → γ} {b : Option β}
    (h : r'.events = r.events ++ [event]) (hskip : entry event = .skip) :
    Fits seen (r'.visible.map entry) b ↔ Fits seen (r.visible.map entry) b := by
  rcases visible_cases h with ⟨-, hvisible⟩ | ⟨-, hvisible⟩
  · rw [hvisible, map_append]
    refine fits_append_skips fun e he => ?_
    rw [mem_singleton.mp he, hskip]
  · rw [hvisible]

lemma fits_of_quiet {β γ : Type} {entry : RunEvent → Entry β} {seen : β → γ} {b : Option β}
    {notes : List RunEvent} (hentry : ∀ event, event.isMutation = false → entry event = .skip)
    (hnotes : ∀ event ∈ notes, event.isMutation = false) :
    Fits seen ((events ++ notes).map entry) b ↔ Fits seen (events.map entry) b := by
  rw [map_append]
  refine fits_append_skips fun e he => ?_
  obtain ⟨event, hevent, rfl⟩ := mem_map.mp he
  exact hentry event (hnotes event hevent)

lemma nodeEntry_of_quiet (event : RunEvent) (h : event.isMutation = false) :
    nodeEntry k event = .skip := by
  cases event <;> first | rfl | cases h

lemma edgeEntry_of_quiet (event : RunEvent) (h : event.isMutation = false) :
    edgeEntry k event = .skip := by
  cases event <;> first | rfl | cases h

/-- An operation on one node is about that node. -/
lemma replayAgrees_setStatus_iff (h : ReplayAgrees r) {status : Option String}
    (hr' : r.Becomes (r.view.setStatus nodeId status) event r')
    (hnodes : ∀ id, id ≠ nodeId → nodeEntry (some id) event = .skip)
    (hedges : ∀ id, edgeEntry (some id) event = .skip) :
    ReplayAgrees r' ↔ NodeAgrees r'.visible nodeId status := by
  rw [replayAgrees_iff_logs] at h ⊢
  rw [hr'.view]
  refine (and_iff_left fun id => (fits_of_skip hr'.events (hedges id)).mpr (h.2 id)).trans ?_
  refine (forall_update_iff _ fun id s => NodeAgrees r'.visible id s).trans (and_iff_left ?_)
  exact fun id hid => (fits_of_skip hr'.events (hnodes id hid)).mpr (h.1 id)

/-- An operation on one edge is about that edge. -/
lemma replayAgrees_setEnds_iff (h : ReplayAgrees r) {ends : Option (String × String)}
    (hr' : r.Becomes (r.view.setEnds edgeId ends) event r')
    (hnodes : ∀ id, nodeEntry (some id) event = .skip)
    (hedges : ∀ id, id ≠ edgeId → edgeEntry (some id) event = .skip) :
    ReplayAgrees r' ↔ EdgeAgrees r'.visible edgeId ends := by
  rw [replayAgrees_iff_logs] at h ⊢
  rw [hr'.view]
  refine (and_iff_right fun id => (fits_of_skip hr'.events (hnodes id)).mpr (h.1 id)).trans ?_
  refine (forall_update_iff _ fun id s => EdgeAgrees r'.visible id s).trans (and_iff_left ?_)
  exact fun id hid => (fits_of_skip hr'.events (hedges id hid)).mpr (h.2 id)

variable (h : ReplayAgrees r)
include h

lemma insertNode_keeps_iff {node : Json} :
    ReplayAgrees (r.after (.insertNode node)) ↔ ReplayKeeps r (.insertNode node) := by
  rw [DagRun.after, ReplayKeeps]
  rcases r.insertWorkflowNode_cases node with ⟨nodeId, r', hid, hnew, hok, hr'⟩ | ⟨hthere, e, herror⟩
  · have hbefore := (replayAgrees_iff_logs.mp h).1 nodeId
    rw [hnew] at hbefore
    have hcond : (∀ nodeId', node.text "node_id" = some nodeId' → r.view.status nodeId' = none →
        NodeRemoved r.visible nodeId' → r.Recorded ∧
          (node.text "status").getD "pending" = "pending") ↔
        (NodeRemoved r.visible nodeId → r.Recorded ∧
          (node.text "status").getD "pending" = "pending") := by
      constructor
      · exact fun hall => hall nodeId hid hnew
      · intro hone nodeId' hid' _
        cases hid.symm.trans hid'
        exact hone
    rw [hok, hcond]
    change ReplayAgrees r' ↔ _
    rw [replayAgrees_setStatus_iff h hr' (fun id hne => if_neg fun heq => hne (some.inj heq))
      fun _ => rfl]
    rcases visible_cases hr'.events with ⟨hrecorded, hvisible⟩ | ⟨hnot, hvisible⟩
    · rw [hvisible, nodeAgrees_added hbefore]
      exact imp_congr_right fun _ => (and_iff_right hrecorded).symm
    · rw [hvisible, nodeAgrees_some_of_none hbefore]
      exact imp_congr_right fun _ => (iff_of_false id fun hand => hnot hand.1)
  · rw [herror]
    exact iff_of_true h fun nodeId hid hnew => absurd hnew (hthere nodeId hid)

lemma updateNodeStatus_keeps_iff {newStatus : String} :
    ReplayAgrees (r.after (.updateNodeStatus nodeId newStatus)) ↔
      ReplayKeeps r (.updateNodeStatus nodeId newStatus) := by
  rw [DagRun.after, ReplayKeeps]
  rcases r.updateWorkflowNodeStatus_cases nodeId newStatus with
    ⟨hvalid, hthere, r', hok, hr'⟩ | ⟨hnot, e, herror⟩
  · obtain ⟨status, hstatus⟩ := ne_none_iff_exists'.mp hthere
    have hbefore := (replayAgrees_iff_logs.mp h).1 nodeId
    rw [hstatus] at hbefore
    rw [hok, hstatus]
    change ReplayAgrees r' ↔ _
    rw [replayAgrees_setStatus_iff h hr' (fun id hne => if_neg fun heq => hne (some.inj heq))
      fun _ => rfl]
    rcases visible_cases hr'.events with ⟨hrecorded, hvisible⟩ | ⟨hnot, hvisible⟩
    · rw [hvisible]
      exact iff_of_true (nodeAgrees_updated hbefore) fun _ _ _ hnot => absurd hrecorded hnot
    · rw [hvisible, nodeAgrees_some_iff hbefore]
      constructor
      · exact fun himp _ _ hremoved _ => congrArg some (himp hremoved)
      · exact fun himp hremoved =>
          some.inj (himp hvalid (some_ne_none _) hremoved hnot)
  · rw [herror]
    exact iff_of_true h fun hvalid hthere => absurd ⟨hvalid, hthere⟩ hnot

lemma insertEdge_keeps_iff {edge : Json} :
    ReplayAgrees (r.after (.insertEdge edge)) ↔ ReplayKeeps r (.insertEdge edge) := by
  rw [DagRun.after, ReplayKeeps]
  rcases r.insertWorkflowEdge_cases edge with
    ⟨edgeId, a, b, r', hid, ha, hb, hnew, hok, hr'⟩ | ⟨hthere, e, herror⟩
  · have hbefore := (replayAgrees_iff_logs.mp h).2 edgeId
    rw [hnew] at hbefore
    have hcond : (∀ edgeId' a' b', edge.text "edge_id" = some edgeId' →
        edge.text "from_node_id" = some a' → edge.text "to_node_id" = some b' →
          r.view.ends edgeId' = none → .edgeRemoved edgeId' ∉ r.visible ∧
            ∀ ends, lastRewire r.visible edgeId' = some ends → ends = (a', b')) ↔
        .edgeRemoved edgeId ∉ r.visible ∧
          ∀ ends, lastRewire r.visible edgeId = some ends → ends = (a, b) := by
      constructor
      · exact fun hall => hall edgeId a b hid ha hb hnew
      · intro hone edgeId' a' b' hid' ha' hb' _
        cases hid.symm.trans hid'
        cases ha.symm.trans ha'
        cases hb.symm.trans hb'
        exact hone
    rw [hok, hcond]
    change ReplayAgrees r' ↔ _
    rw [replayAgrees_setEnds_iff h hr' (fun _ => rfl) fun id hne =>
      if_neg fun heq => hne (some.inj heq)]
    rcases visible_cases hr'.events with ⟨-, hvisible⟩ | ⟨-, hvisible⟩
    · rw [hvisible]
      exact edgeAgrees_added hbefore
    · rw [hvisible]
      exact edgeAgrees_some_of_none hbefore
  · rw [herror]
    exact iff_of_true h fun edgeId a b hid ha hb hnew => absurd hnew (hthere edgeId a b hid ha hb)

lemma removeEdge_keeps_iff :
    ReplayAgrees (r.after (.removeEdge edgeId)) ↔ ReplayKeeps r (.removeEdge edgeId) := by
  have hbefore := (replayAgrees_iff_logs.mp h).2 edgeId
  have hr' := r.removeWorkflowEdge_becomes edgeId
  rw [DagRun.after, ReplayKeeps]
  rw [replayAgrees_setEnds_iff h hr' (fun _ => rfl) fun id hne =>
    if_neg fun heq => hne (some.inj heq)]
  rcases visible_cases hr'.events with ⟨hrecorded, hvisible⟩ | ⟨hnot, hvisible⟩
  · rw [hvisible]
    refine iff_of_true ?_ fun _ hnot => absurd hrecorded hnot
    rw [EdgeAgrees, edgeLog_concat, edgeEntry, if_pos rfl]
    exact fits_concat_delete
  · rw [hvisible, edgeAgrees_none_iff hbefore]
    exact imp_congr_right fun _ => ⟨fun hadded _ => hadded, fun hadded => hadded hnot⟩

lemma rewireEdge_keeps_iff {newFrom newTo : Option String} :
    ReplayAgrees (r.after (.rewireEdge edgeId newFrom newTo)) ↔
      ReplayKeeps r (.rewireEdge edgeId newFrom newTo) := by
  rw [DagRun.after, ReplayKeeps]
  rcases r.rewireWorkflowEdge_cases edgeId with
    ⟨a, b, r', hends, hok, hr'⟩ | ⟨hnone, e, herror⟩
  · have hbefore := (replayAgrees_iff_logs.mp h).2 edgeId
    rw [hends] at hbefore
    rw [hok]
    change ReplayAgrees r' ↔ _
    rw [replayAgrees_setEnds_iff h hr' (fun _ => rfl) fun id hne =>
      if_neg fun heq => hne (some.inj heq)]
    rcases visible_cases hr'.events with ⟨hrecorded, hvisible⟩ | ⟨hnot, hvisible⟩
    · rw [hvisible]
      exact iff_of_true (edgeAgrees_rewired hbefore ..) fun _ _ _ hnot => absurd hrecorded hnot
    · rw [hvisible, edgeAgrees_some_iff hbefore]
      constructor
      · intro himp a' b' hends' _
        obtain ⟨rfl, rfl⟩ := Prod.mk.inj (mem_unique hends hends')
        exact himp
      · exact fun himp => himp a b hends hnot
  · rw [herror]
    refine iff_of_true h fun a b hends => ?_
    rw [hnone] at hends
    cases hends

lemma removeNode_keeps_iff :
    ReplayAgrees (r.after (.removeNode nodeId)) ↔ ReplayKeeps r (.removeNode nodeId) := by
  obtain ⟨removedEdges, hr'⟩ := r.removeWorkflowNode_becomes nodeId
  have hlogs := replayAgrees_iff_logs.mp h
  rw [DagRun.after, ReplayKeeps, replayAgrees_iff_logs, hr'.view, and_comm]
  refine and_congr ?_ ?_
  · -- the log does not tell that the edges went
    refine forall_congr' fun edgeId => (fits_of_skip hr'.events rfl).trans ?_
    change EdgeAgrees r.visible edgeId ((r.view.ends edgeId).filter _) ↔ _
    have hedge := hlogs.2 edgeId
    cases he : r.view.ends edgeId with
    | none =>
      rw [he] at hedge
      exact iff_of_true hedge fun a b hends => nomatch hends
    | some e =>
      by_cases hab : e.1 = nodeId ∨ e.2 = nodeId
      · rw [filter_some_neg (by rcases hab with hab | hab <;> simp [hab]),
          edgeAgrees_none_iff hedge, he]
        constructor
        · exact fun hadded a b _ _ => hadded (some_ne_none e)
        · exact fun hall _ => hall e.1 e.2 rfl hab
      · rw [filter_some_pos (by simpa [not_or] using hab), ← he]
        refine iff_of_true hedge ?_
        rintro a b hends hor
        cases he.symm.trans hends
        exact absurd hor hab
  · refine (forall_update_iff _ fun id s => NodeAgrees _ id s).trans ?_
    refine (and_iff_left fun id hid => (fits_of_skip hr'.events
      (if_neg fun heq => hid (some.inj heq))).mpr (hlogs.1 id)).trans ?_
    rcases visible_cases hr'.events with ⟨hrecorded, hvisible⟩ | ⟨hnot, hvisible⟩
    · refine iff_of_true ?_ fun _ hnot => absurd hrecorded hnot
      rw [hvisible, NodeAgrees, nodeLog_concat, nodeEntry, if_pos rfl]
      exact fits_concat_delete
    · rw [hvisible, nodeAgrees_none_iff (hlogs.1 nodeId)]
      exact imp_congr_right fun _ => ⟨fun hadded _ => hadded, fun hadded => hadded hnot⟩

lemma execute_keeps_iff {status : String → String → String} :
    ReplayAgrees (r.after (.execute status events)) ↔ ReplayKeeps r (.execute status events) := by
  have hlogs := replayAgrees_iff_logs.mp h
  have hstatus : ∀ nodeId, (r.executed status events).view.status nodeId =
      (r.view.status nodeId).map (status nodeId) := by
    intro nodeId
    change ((r.nodes.map _).find? nodeId).map _ = ((r.nodes.find? nodeId).map _).map _
    rw [Table.find?_map]
    cases hfind : r.nodes.find? nodeId with
    | none => rfl
    | some n => exact congrArg (fun id => some (status id n.status)) (Table.key_of_find? hfind)
  have hquiet : ∀ event ∈ (events.filter fun event => !event.isMutation).take
      (replayLimit - r.events.length), event.isMutation = false := by
    intro event hevent
    simpa using (mem_filter.mp (mem_of_mem_take hevent)).2
  have hvisible : (r.executed status events).visible = _ := visible_append rfl
  rw [DagRun.after, ReplayKeeps, replayAgrees_iff_logs, hvisible]
  refine (and_iff_left fun edgeId =>
    (fits_of_quiet edgeEntry_of_quiet hquiet).mpr (hlogs.2 edgeId)).trans ?_
  refine forall_congr' fun nodeId => (fits_of_quiet nodeEntry_of_quiet hquiet).trans ?_
  change NodeAgrees r.visible nodeId _ ↔ _
  rw [hstatus]
  have hbefore := hlogs.1 nodeId
  cases hcurrent : r.view.status nodeId with
  | none =>
    rw [hcurrent] at hbefore
    exact iff_of_true hbefore fun current heq => nomatch heq
  | some current =>
    rw [hcurrent] at hbefore
    rw [map_some, nodeAgrees_some_iff hbefore]
    constructor
    · rintro himp _ ⟨⟩ hremoved
      exact (himp hremoved).symm
    · exact fun hall hremoved => (hall current rfl hremoved).symm

end Runs

/-- What an operation keeps. -/
lemma after_agrees_iff (r : DagRun) {op : DagOp} (h : ReplayAgrees r) :
    ReplayAgrees (r.after op) ↔ ReplayKeeps r op := by
  cases op with
  | insertNode node => exact insertNode_keeps_iff h
  | removeNode nodeId => exact removeNode_keeps_iff h
  | updateNodeStatus nodeId newStatus => exact updateNodeStatus_keeps_iff h
  | insertEdge edge => exact insertEdge_keeps_iff h
  | removeEdge edgeId => exact removeEdge_keeps_iff h
  | rewireEdge edgeId newFrom newTo => exact rewireEdge_keeps_iff h
  | execute status events => exact execute_keeps_iff h

variable {p : DAGMutationProposal} {r : DagRun}

/-- Without mutations there is nothing to replay. -/
lemma replayAgrees_fresh (h : ∀ event ∈ r.events, event.isMutation = false) : ReplayAgrees r := by
  have hquiet : ∀ event ∈ r.visible, event.isMutation = false :=
    fun event hevent => h event (mem_of_mem_take hevent)
  rw [replayAgrees_iff_logs, ← nil_append r.visible]
  exact ⟨fun nodeId => (fits_of_quiet nodeEntry_of_quiet hquiet).mpr rfl,
    fun edgeId => (fits_of_quiet edgeEntry_of_quiet hquiet).mpr rfl⟩

/-- Over the history of a run, the replay agrees with the store all along just in case each
operation meets its condition. -/
theorem replay_agrees_iff (r : DagRun) (hfresh : ∀ event ∈ r.events, event.isMutation = false)
    (ops : List DagOp) :
    (∀ n, ReplayAgrees ((ops.take n).foldl after r)) ↔
      ∀ n op, ops[n]? = some op → ReplayKeeps ((ops.take n).foldl after r) op :=
  foldl_keeps_iff after_agrees_iff (replayAgrees_fresh hfresh) ops

lemma executed_record (h : event.isMutation = false) :
    r.executed (fun _ status => status) [event] = r.record event := by
  have hnodes : r.nodes.map (fun n => { n with status := n.status }) = r.nodes :=
    Table.ext (map_id _)
  have hevents : [event].filter (fun event => !event.isMutation) = [event] := by simp [h]
  unfold executed record
  rw [hevents, hnodes]

/-- What the store is asked to do for a proposal: its mutation, and the note that it was applied. -/
def proposalOps (p : DAGMutationProposal) : List DagOp :=
  (match p.mutationType with
  | .addNode => [.insertNode (proposedNode p)]
  | .removeNode => [.removeNode (p.targetNodeId.getD "")]
  | .addEdge => [.insertEdge (proposedEdge p)]
  | .removeEdge => [.removeEdge (p.targetEdgeId.getD "")]
  | .rewireEdge => [.rewireEdge (p.targetEdgeId.getD "") (p.text "from_node") (p.text "to_node")]
  | .updateNode =>
    [.updateNodeStatus (p.targetNodeId.getD "") ((p.text "status").getD "pending")]
  | .other _ => []) ++
    [.execute (fun _ status => status) [.applied p.proposalId p.mutationType]]

lemma persist_history {r' : DagRun} (h : r.persist p = .ok r') :
    (proposalOps p).foldl after r = r'.record (.applied p.proposalId p.mutationType) := by
  have hnote : ∀ kind, r'.after (.execute (fun _ status => status) [.applied p.proposalId kind]) =
      r'.record (.applied p.proposalId kind) := fun _ => executed_record rfl
  unfold persist at h
  unfold proposalOps
  generalize p.mutationType = kind at h ⊢
  cases kind with
  | other text => cases h
  | removeNode | removeEdge =>
    cases h
    exact hnote _
  | addNode | addEdge | rewireEdge | updateNode =>
    dsimp only at h
    simp only [cons_append, nil_append, foldl_cons, foldl_nil, DagRun.after, h]
    exact hnote _

lemma batchStep_history (b : BatchState) :
    (refStep (fun r p => (proposalOps p).foldl after r) (b, b.run) p).2 = (batchStep b p).run := by
  unfold refStep batchStep
  dsimp only
  split
  · simp [BatchResult.applied, Except.isOk, Except.toBool]
  · split
    · simp [BatchResult.applied, Except.isOk, Except.toBool]
    · next run hrun => simp [BatchResult.applied, Except.isOk, Except.toBool, persist_history hrun]

/-- What a batch leaves of a run is what the mutations of its applied proposals leave, each followed
by its note. -/
theorem batch_history {runId now : String} {proposals : List DAGMutationProposal} :
    (applyDagMutationsBatch runId now r proposals).run =
      ((appliedProposals proposals (applyDagMutationsBatch runId now r proposals).results).flatMap
        proposalOps).foldl after r := by
  have hrun := foldlRecOn (motive := fun s : BatchState × DagRun => s.2 = s.1.run) proposals
    (refStep fun r p => (proposalOps p).foldl after r)
    (b := (⟨loadManager runId now r.toRunGraph, r, []⟩, r)) rfl ?_
  · rw [batch_and_reference] at hrun
    rw [foldl_flatMap]
    exact hrun.symm
  · rintro ⟨b, run⟩ hb p -
    obtain rfl : run = b.run := hb
    exact batchStep_history b

/-! A history that the replay follows, and a node that is taken out, put back and then done. -/

def emptyRun : DagRun := ⟨⟨Table.empty, Table.empty⟩, []⟩

def plainNode : Json := .obj [("node_id", .str "n")]

def sampleHistory : List DagOp :=
  [.insertNode plainNode, .insertEdge (proposedEdge (joinNodes "ab" "a" "b")),
    .rewireEdge "ab" (some "b") (some "a"), .removeNode "n", .execute (fun _ _ => "completed") []]

theorem settled_history_replays : ReplayAgrees (sampleHistory.foldl after twoNodes) := by
  refine (replay_agrees_iff twoNodes nofun sampleHistory).mpr ?_ 5
  have hrecorded : ∀ n < 5, ((sampleHistory.take n).foldl after twoNodes).events.length <
      replayLimit := by decide
  intro n op hop
  rcases n with _ | _ | _ | _ | _ | n <;> cases hop
  · exact fun _ _ _ _ => ⟨hrecorded 0 (by decide), by decide⟩
  · rintro _ _ _ ⟨⟩ - - -
    exact ⟨by decide, nofun⟩
  · exact fun _ _ _ hnot => absurd (hrecorded 2 (by decide)) hnot
  · refine ⟨fun edgeId a b hends hor => ?_, fun _ hnot => absurd (hrecorded 3 (by decide)) hnot⟩
    have hfree : ∀ e ∈ ((sampleHistory.take 3).foldl after twoNodes).edges.rows,
        ¬(e.fromNodeId = "n" ∨ e.toNodeId = "n") := by decide
    obtain ⟨e, he, hab⟩ := map_eq_some_iff.mp hends
    cases hab
    exact absurd hor (hfree e (Table.mem_of_find? he))
  · rintro nodeId current hcurrent ⟨removedEdges, hmem⟩
    have hevents : ((sampleHistory.take 4).foldl after twoNodes).visible = [.nodeAdded "n",
        .edgeAdded "ab", .edgeRewired "ab" "a" "b" "b" "a", .nodeRemoved "n" 0] := by decide
    obtain ⟨rfl, -⟩ : nodeId = "n" ∧ removedEdges = 0 := by simpa [hevents] using hmem
    cases hcurrent

theorem readded_node_replays_as_pending :
    ¬ReplayAgrees ([.insertNode plainNode, .removeNode "n", .insertNode plainNode,
      .execute (fun _ _ => "completed") []].foldl after emptyRun) := by
  intro h
  have hperm := h.nodes
  revert hperm
  decide

end Harness
