import Harness.Lib.KeyedList
import Harness.Lib.Trace
import Harness.Spec.WorkflowEngine

/-! What the engine does to a node depends only on the status and the output that it finds under
the node's id. A report overwrites both whatever they are, and a tick has nothing to do for a node
behind a failed one. -/

namespace Harness.Engine.WorkflowGraph

open Lib List Option Function KeyedList Prod

variable {F : Type} {g g' : WorkflowGraph F} {c : Collaborators F} {k : String}
  {ids : List String} {h : String × Option String → String × Option String}

/-- The status and the output of the node that the engine finds. -/
def seen (g : WorkflowGraph F) (nodeId : String) : Option (String × Option String) :=
  (g.findNode nodeId).map fun n => (n.status, n.outputRef)

variable (ids h) in
/-- The nodes of these ids are changed in this way, and no other. -/
def Sets (g g' : WorkflowGraph F) : Prop :=
  ∀ id, g'.seen id = if id ∈ ids then (g.seen id).map h else g.seen id

lemma sets_rewrite {f : WorkflowNode F → WorkflowNode F} (hid : ∀ n, (f n).nodeId = n.nodeId)
    (hf : ∀ n, ((f n).status, (f n).outputRef) = h (n.status, n.outputRef)) :
    Sets [k] h g (g.rewrite k f) := by
  intro id
  unfold rewrite seen
  cases hk : g.findNode k with
  | none =>
    split_ifs with hmem
    · rw [mem_singleton.mp hmem, hk]
      rfl
    · rfl
  | some node =>
    have hkey : (f node).nodeId = k := (hid node).trans (key_of_lookup hk)
    have hfind : (g.replaceNode k (f node)).findNode id = _ := lookup_map_replace hkey
    dsimp only
    rw [hfind]
    by_cases hmem : id = k
    · have hthere : lookup WorkflowNode.nodeId g.nodes k = some node := hk
      simp [hmem, hthere, hk, hf]
    · simp [hmem]
      rfl

lemma Sets.foldl {op : WorkflowGraph F → String → WorkflowGraph F}
    (hop : ∀ g k, Sets [k] h g (op g k)) (hh : ∀ v, h (h v) = h v) : Sets ids h g (ids.foldl op g) := by
  induction ids generalizing g with
  | nil => exact fun id => by simp
  | cons k ids ih =>
    intro id
    rw [foldl_cons, ih, hop]
    by_cases hk : id = k <;> by_cases hids : id ∈ ids <;> simp [hk, hids, comp_def, hh]

lemma sets_updateNode {status : String} :
    Sets [k] (fun v => (status, v.2)) g (g.updateNode k status) :=
  sets_rewrite (fun _ => rfl) fun _ => rfl

lemma sets_startReadyNodes : Sets g.readyNodes (fun v => ("running", v.2)) g g.startReadyNodes :=
  Sets.foldl (fun _ _ => sets_updateNode) fun _ => rfl

def cancelled (v : String × Option String) : String × Option String :=
  if terminal v.1 then v else ("cancelled", v.2)

lemma sets_cancelNode : Sets [k] cancelled g (g.cancelNode k) := by
  intro id
  unfold cancelNode
  by_cases hk : id ∈ [k]
  · rw [if_pos hk, mem_singleton.mp hk]
    cases hnode : g.findNode k with
    | none =>
      rw [seen, hnode]
      rfl
    | some node =>
      have hseen : g.seen k = some (node.status, node.outputRef) := congrArg _ hnode
      dsimp only
      split_ifs with hterminal
      · simp [hseen, cancelled, hterminal]
      · rw [sets_updateNode k, if_pos (mem_singleton_self k), hseen]
        simp [cancelled, hterminal]
  · rw [if_neg hk]
    split
    · rfl
    · split_ifs
      · rfl
      · rw [sets_updateNode id, if_neg hk]

lemma sets_cancel :
    Sets ((g.nodes.filter fun n => !terminal n.status).map (·.nodeId)) cancelled g g.cancel :=
  Sets.foldl (fun _ _ => sets_cancelNode) fun v => by
    unfold cancelled
    split_ifs <;> simp_all [terminal]

lemma seen_updateNodeField {cost : F} (id : String) :
    (g.updateNodeField k cost).seen id = g.seen id := by
  unfold seen findNode updateNodeField
  rw [find?_map, Option.map_map]
  congr 1
  · funext n
    rw [comp_apply]
    split_ifs <;> rfl
  · congr 1
    funext n
    rw [comp_apply]
    split_ifs <;> rfl

lemma sets_completeNode {outputRef : String} {cost : F} {withinBudget : Bool} :
    Sets [k] (fun _ => ("completed", some outputRef)) g
      (g.completeNode k c outputRef cost withinBudget) := by
  have hcomplete : Sets [k] (fun _ => ("completed", some outputRef)) g (g.complete k outputRef) :=
    sets_rewrite (fun _ => rfl) fun _ => rfl
  intro id
  rw [← hcomplete id]
  unfold completeNode
  dsimp only
  split_ifs
  · rfl
  · exact seen_updateNodeField id
  · rfl

/-- Nodes that are terminal stay as they are. -/
def Kept (g g' : WorkflowGraph F) : Prop :=
  ∀ id v, g.seen id = some v → terminal v.1 = true → g'.seen id = some v

lemma Sets.kept_iff (hset : Sets ids h g g') :
    Kept g g' ↔ ∀ id ∈ ids, ∀ v, g.seen id = some v → terminal v.1 = true → h v = v := by
  constructor
  · intro hkept id hid v hv hterminal
    have hv' := hkept id v hv hterminal
    rw [hset id, if_pos hid, hv] at hv'
    exact some.inj hv'
  · intro hsame id v hv hterminal
    rw [hset id]
    split_ifs with hid
    · rw [hv, map_some, hsame id hid v hv hterminal]
    · exact hv

lemma nodes_finish : (g.finish c).nodes = g.nodes := by
  unfold finish handleFailedNodes resolveConflicts
  dsimp only
  split_ifs <;> rfl

lemma sets_tick (hopen : terminal g.status = false) :
    Sets g.readyNodes (fun v => ("running", v.2)) g (g.tick c) := by
  intro id
  rw [← sets_startReadyNodes id]
  have hnodes : (g.tick c).nodes = g.startReadyNodes.nodes := by
    unfold tick
    rw [if_neg (by simp [hopen])]
    dsimp only
    split_ifs
    · exact nodes_finish
    · rfl
    · rfl
  unfold seen findNode
  rw [hnodes]

/-- The call changes no terminal node, or says of it what is there. -/
def Careful (g : WorkflowGraph F) : Call F → Prop
  | .tick => terminal g.status = true ∨
      ∀ id ∈ g.readyNodes, ∀ v, g.seen id = some v → terminal v.1 = false
  | .completeNode nodeId outputRef _ _ =>
    ∀ v, g.seen nodeId = some v → terminal v.1 = true → v = ("completed", some outputRef)
  | .failNode nodeId _ => ∀ v, g.seen nodeId = some v → terminal v.1 = true → v.1 = "failed"
  | .cancel => True

lemma kept_call_iff (op : Call F) : Kept g (g.call c op) ↔ g.Careful op := by
  cases op with
  | tick =>
    change Kept g (g.tick c) ↔ _ ∨ _
    cases hopen : terminal g.status with
    | true =>
      rw [tick, if_pos hopen]
      exact iff_of_true (fun _ _ hv _ => hv) (.inl rfl)
    | false =>
      rw [(sets_tick hopen).kept_iff, or_iff_right Bool.false_ne_true]
      refine forall₄_congr fun k _ v _ => ?_
      rw [← Bool.not_eq_true]
      refine imp_congr_right fun hterminal => iff_of_false (fun hv => ?_) id
      rw [← congrArg fst hv] at hterminal
      exact absurd hterminal (by simp [terminal])
  | completeNode nodeId outputRef cost withinBudget =>
    rw [call, sets_completeNode.kept_iff, forall_mem_singleton]
    exact forall₃_congr fun v _ _ => eq_comm
  | failNode nodeId error =>
    have hset : Sets [nodeId] (fun v => ("failed", v.2)) g (g.fail nodeId error) :=
      sets_rewrite (fun _ => rfl) fun _ => rfl
    rw [call, hset.kept_iff, forall_mem_singleton]
    exact forall₃_congr fun v _ _ =>
      ⟨fun hv => (congrArg fst hv).symm, fun hv => Prod.ext hv.symm rfl⟩
  | cancel =>
    refine iff_of_true (sets_cancel.kept_iff.mpr fun id _ v _ hterminal => ?_) trivial
    rw [cancelled, if_pos hterminal]

/-- Along a run no later call changes a terminal node just in case each call is careful where it
is made. -/
theorem terminal_nodes_stay_iff (g : WorkflowGraph F) (c : Collaborators F)
    (calls : List (Call F)) :
    (∀ i j, i ≤ j → Kept (g.run c (calls.take i)) (g.run c (calls.take j))) ↔
      ∀ n op, calls[n]? = some op → (g.run c (calls.take n)).Careful op := by
  constructor
  · intro hkept n op hop
    have hstep := hkept n (n + 1) (Nat.le_succ n)
    rw [run, run, foldl_take_succ hop] at hstep
    exact (kept_call_iff op).mp hstep
  · intro hcareful i j hij
    induction j, hij using Nat.le_induction with
    | base => exact fun _ _ hv _ => hv
    | succ j _ ih =>
      cases hop : calls[j]? with
      | none => rwa [take_succ_eq_take hop]
      | some op =>
        rw [run, run, foldl_take_succ hop]
        exact fun id v hv hterminal =>
          (kept_call_iff op).mpr (hcareful j op hop) id v (ih id v hv hterminal) hterminal

/-- A node has been started, or there is nothing more to do without others. -/
def Moves (g : WorkflowGraph F) : Prop :=
  (∃ n ∈ g.nodes, n.status = "running") ∨
    g.status ∈ ["completed", "failed", "cancelled", "waiting_human"]

lemma status_finish :
    (g.finish c).status ∈ ["completed", "failed", "cancelled", "waiting_human"] := by
  unfold finish
  dsimp only
  split_ifs with h1 h2 h3 <;> simp_all [setStatus]

lemma running_of_ready (hopen : terminal g.status = false) (hready : g.readyNodes ≠ []) :
    ∃ n ∈ (g.tick c).nodes, n.status = "running" := by
  obtain ⟨id, hid⟩ := exists_mem_of_ne_nil _ hready
  have hmem := hid
  rw [readyNodes, mem_insertionSort] at hmem
  obtain ⟨n, hn, rfl⟩ := mem_map.mp hmem
  have hfound : (g.findNode n.nodeId).isSome = true :=
    find?_isSome.mpr ⟨n, (mem_filter.mp hn).1, by simp⟩
  obtain ⟨m, hm⟩ := isSome_iff_exists.mp hfound
  have hseen := sets_tick (c := c) hopen n.nodeId
  rw [if_pos hid, seen, seen, hm] at hseen
  obtain ⟨n', hn', hv⟩ := map_eq_some_iff.mp hseen
  exact ⟨n', mem_of_find?_eq_some hn', congrArg fst hv⟩

/-- A tick of an open graph in which nothing runs moves it just in case a node is ready or none is
open, or it waits for a human. -/
theorem tick_moves_iff (g : WorkflowGraph F) (c : Collaborators F)
    (hidle : ∀ n ∈ g.nodes, n.status ≠ "running") (hopen : terminal g.status = false) :
    (g.tick c).Moves ↔ g.readyNodes ≠ [] ∨ g.isComplete = true ∨ g.status = "waiting_human" := by
  by_cases hready : g.readyNodes = []
  · have hstart : g.startReadyNodes = g := by rw [startReadyNodes, hready]; rfl
    rw [tick, if_neg (by simp [hopen]), hstart, or_iff_right (not_not.mpr hready)]
    dsimp only
    split_ifs with hcomplete hnew
    · exact iff_of_true (.inr status_finish) (.inl hcomplete)
    · refine iff_of_false ?_ ?_
      · rintro (⟨n, hn, hrunning⟩ | hstatus)
        · exact hidle n hn hrunning
        · exact absurd hstatus (by simp [setStatus])
      · simp only [Bool.or_eq_true, decide_eq_true_eq] at hnew
        rcases hnew with hnew | hnew <;> simp [hcomplete, hnew]
    · rw [Moves, or_iff_right fun ⟨n, hn, hrunning⟩ => hidle n hn hrunning, or_iff_right hcomplete]
      simp only [terminal, Bool.or_eq_false_iff, decide_eq_false_iff_not] at hopen
      simp [hopen]
  · exact iff_of_true (.inl (running_of_ready hopen hready)) (.inl hready)

def plainNode (nodeId status : String) : WorkflowNode ℕ := ⟨nodeId, status, none, none, none, none, 0⟩

def failedFirst : WorkflowGraph ℕ where
  nodes := [plainNode "a" "failed", plainNode "b" "pending"]
  edges := [⟨"a", "b", "dependency"⟩]
  status := "running"
  updatedAt := "now"
  startedAt := some "now"
  completedAt := none
  result := none

def noCollaborators : Collaborators ℕ where
  detectConflicts _ := []
  resolve := id
  requiresApproval _ _ := false
  aggregate _ := .null
  positive cost := 0 < cost

theorem failed_node_hangs :
    (∀ n ∈ failedFirst.nodes, n.status ≠ "running") ∧ terminal failedFirst.status = false ∧
      (failedFirst.tick noCollaborators).status = "running" ∧
      ∀ n ∈ (failedFirst.tick noCollaborators).nodes, n.status ≠ "running" := by
  decide

theorem tick_moves_iff_ready :
    ({ failedFirst with edges := [] }.tick noCollaborators).Moves :=
  (tick_moves_iff _ _ (by decide) (by decide)).mpr (.inl (by decide))

/-- A result that comes after the cancellation. -/
theorem late_completion_wins :
    (failedFirst.run noCollaborators [.cancel]).seen "b" = some ("cancelled", none) ∧
      (failedFirst.run noCollaborators [.cancel, .completeNode "b" "out" 0 true]).seen "b" =
        some ("completed", some "out") := by
  decide

end Harness.Engine.WorkflowGraph
