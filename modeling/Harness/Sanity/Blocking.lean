import Harness.Lib.Progress
import Harness.Lib.TableRel
import Harness.Spec.WorkflowGraph

/-! What the failure of a node does to the nodes that wait for it. The loop that blocks them
blocks exactly the pending nodes that a failure reaches through pending nodes. -/

namespace Harness

open Lib List Table NodeRow

namespace WorkflowGraph

/-- A pending node that a failed, cancelled or blocked node comes before, with nothing but
pending nodes in between. -/
inductive Doomed (g : WorkflowGraph) (runId : String) : NodeRow → Prop
  | failed {r p : NodeRow} (hr : r ∈ g.rowsOf runId) (hpending : r.status = .pending)
      (hp : p ∈ g.predecessors runId r.nodeId) (hblocks : p.status.blocks = true) : Doomed g runId r
  | downstream {r p : NodeRow} (hr : r ∈ g.rowsOf runId) (hpending : r.status = .pending)
      (hp : p ∈ g.predecessors runId r.nodeId) (h : Doomed g runId p) : Doomed g runId r

variable {g g' : WorkflowGraph} {runId : String} {r p : NodeRow}

lemma Doomed.pending (h : Doomed g runId r) : r.status = .pending := by
  cases h with
  | failed _ hpending _ _ => exact hpending
  | downstream _ hpending _ _ => exact hpending

lemma Doomed.mem (h : Doomed g runId r) : r ∈ g.rowsOf runId := by
  cases h with
  | failed hr _ _ _ => exact hr
  | downstream hr _ _ _ => exact hr

lemma mem_rowsOf : r ∈ g.rowsOf runId ↔ g.find? runId r.nodeId = some r := by
  unfold rowsOf WorkflowGraph.find?
  rw [mem_filter, find?_eq_some]
  refine and_congr_right fun _ => ?_
  unfold key
  rw [toLex_inj, Prod.mk.injEq, decide_eq_true_eq]
  exact ⟨fun h => ⟨h, rfl⟩, fun h => h.1⟩

lemma mem_predecessors {nodeId : String} :
    p ∈ g.predecessors runId nodeId ↔
      (∃ e ∈ g.edges, e.runId = runId ∧ e.toNodeId = nodeId ∧ e.fromNodeId = p.nodeId) ∧
        p ∈ g.rowsOf runId := by
  unfold predecessors
  rw [mem_filterMap, mem_rowsOf]
  constructor
  · rintro ⟨e, he, hp⟩
    obtain ⟨he, hends⟩ := mem_filter.mp he
    have hnode : p.nodeId = e.fromNodeId := by
      have hk := key_of_find? hp
      unfold key at hk
      rw [toLex_inj, Prod.mk.injEq] at hk
      exact hk.2
    simp only [decide_eq_true_eq] at hends
    exact ⟨⟨e, he, hends.1, hends.2, hnode.symm⟩, by rw [hnode]; exact hp⟩
  · rintro ⟨⟨e, he, hrun, hto, hfrom⟩, hp⟩
    exact ⟨e, mem_filter.mpr ⟨he, by simp [hrun, hto]⟩, by rw [hfrom]; exact hp⟩

lemma isBlocked_eq_true :
    g.isBlocked runId r = true ↔
      r.runId = runId ∧ r.status = .pending ∧
        ∃ p ∈ g.predecessors runId r.nodeId, p.status.blocks = true := by
  unfold isBlocked
  simp [Bool.and_eq_true, decide_eq_true_eq, any_eq_true, and_assoc]

variable (g') in
/-- Only the edges and the statuses of the rows matter. -/
lemma Doomed.congr (h : Doomed g runId r) (hedges : g'.edges = g.edges)
    (hrows : ∀ j r, g.find? runId j = some r → ∃ r', g'.find? runId j = some r' ∧
      r'.status = r.status) : ∃ r', g'.find? runId r.nodeId = some r' ∧ Doomed g' runId r' := by
  have hrow : ∀ {r : NodeRow}, r ∈ g.rowsOf runId → ∃ r', g'.find? runId r.nodeId = some r' ∧
      r' ∈ g'.rowsOf runId ∧ r'.nodeId = r.nodeId ∧ r'.status = r.status := by
    intro r hr
    obtain ⟨r', hr', hstatus⟩ := hrows _ r (mem_rowsOf.mp hr)
    have hkey := key_of_find? hr'
    unfold key at hkey
    rw [toLex_inj, Prod.mk.injEq] at hkey
    exact ⟨r', hr', mem_rowsOf.mpr (by rw [hkey.2]; exact hr'), hkey.2, hstatus⟩
  have hpred : ∀ {r r' p p' : NodeRow}, p ∈ g.predecessors runId r.nodeId → r'.nodeId = r.nodeId →
      p' ∈ g'.rowsOf runId → p'.nodeId = p.nodeId → p' ∈ g'.predecessors runId r'.nodeId := by
    intro r r' p p' hp hr hp' hid
    obtain ⟨⟨e, he, herun, heto, hefrom⟩, -⟩ := mem_predecessors.mp hp
    exact mem_predecessors.mpr ⟨⟨e, hedges ▸ he, herun, heto.trans hr.symm, hefrom.trans hid.symm⟩, hp'⟩
  induction h with
  | failed hr hpending hp hblocks =>
    obtain ⟨r', hfind, hr', hrid, hrstatus⟩ := hrow hr
    obtain ⟨p', -, hp', hpid, hpstatus⟩ := hrow (mem_predecessors.mp hp).2
    exact ⟨r', hfind, .failed hr' (hrstatus.trans hpending) (hpred hp hrid hp' hpid)
      (by rw [hpstatus]; exact hblocks)⟩
  | downstream hr hpending hp hdoomed ih =>
    obtain ⟨r', hfind, hr', hrid, hrstatus⟩ := hrow hr
    obtain ⟨p', hpfind, hpdoomed⟩ := ih
    obtain ⟨p'', hpfind', hp', hpid, -⟩ := hrow hdoomed.mem
    cases hpfind.symm.trans hpfind'
    exact ⟨r', hfind, .downstream hr' (hrstatus.trans hpending) (hpred hp hrid hp' hpid) hpdoomed⟩

/-- Left as it was, or blocked because of a failure. -/
inductive Blocking (g : WorkflowGraph) (runId : String) (r : NodeRow) : NodeRow → Prop
  | same : Blocking g runId r r
  | blocked (h : Doomed g runId r) : Blocking g runId r { r with status := .blocked }

lemma Blocking.key (h : Blocking g runId r p) : p.key = r.key := by
  cases h <;> rfl

lemma Blocking.nodeId (h : Blocking g runId r p) : p.nodeId = r.nodeId := by
  cases h <;> rfl

lemma Blocking.of_pending (h : Blocking g runId r p) (hp : p.status = .pending) : p = r := by
  cases h with
  | same => rfl
  | blocked _ => cases hp

/-- The rows of `g'` are those of `g`, some of them blocked because of a failure. -/
structure Blocked (runId : String) (g g' : WorkflowGraph) : Prop where
  rows : g.nodes.Rel (Blocking g runId) g'.nodes
  edges : g'.edges = g.edges

namespace Blocked

variable (h : Blocked runId g g') {nodeId : String}
include h

lemma find?_some (hp : g'.find? runId nodeId = some p) :
    ∃ r, g.find? runId nodeId = some r ∧ Blocking g runId r p :=
  h.rows.find?_some (fun _ _ h => h.key) hp

lemma find?_some' (hr : g.find? runId nodeId = some r) :
    ∃ p, g'.find? runId nodeId = some p ∧ Blocking g runId r p :=
  h.rows.find?_some' (fun _ _ h => h.key) hr

lemma mem (hp : p ∈ g'.rowsOf runId) :
    ∃ r ∈ g.rowsOf runId, Blocking g runId r p := by
  obtain ⟨r, hr, hb⟩ := h.find?_some (mem_rowsOf.mp hp)
  exact ⟨r, mem_rowsOf.mpr (by rw [← hb.nodeId]; exact hr), hb⟩

lemma mem' (hr : r ∈ g.rowsOf runId) :
    ∃ p ∈ g'.rowsOf runId, Blocking g runId r p := by
  obtain ⟨p, hp, hb⟩ := h.find?_some' (mem_rowsOf.mp hr)
  exact ⟨p, mem_rowsOf.mpr (by rw [hb.nodeId]; exact hp), hb⟩

lemma predecessors (hp : p ∈ g'.predecessors runId nodeId) :
    ∃ r ∈ g.predecessors runId nodeId, Blocking g runId r p := by
  obtain ⟨⟨e, he, hrun, hto, hfrom⟩, hp⟩ := mem_predecessors.mp hp
  obtain ⟨r, hr, hb⟩ := h.mem hp
  rw [h.edges] at he
  exact ⟨r, mem_predecessors.mpr ⟨⟨e, he, hrun, hto, hfrom.trans hb.nodeId⟩, hr⟩, hb⟩

lemma predecessors'
    (hr : r ∈ g.predecessors runId nodeId) :
    ∃ p ∈ g'.predecessors runId nodeId, Blocking g runId r p := by
  obtain ⟨⟨e, he, hrun, hto, hfrom⟩, hr⟩ := mem_predecessors.mp hr
  obtain ⟨p, hp, hb⟩ := h.mem' hr
  rw [← h.edges] at he
  exact ⟨p, mem_predecessors.mpr ⟨⟨e, he, hrun, hto, hfrom.trans hb.nodeId.symm⟩, hp⟩, hb⟩

end Blocked

variable (g runId r) in
def turned : NodeRow :=
  if g.isBlocked runId r then { r with status := .blocked } else r

lemma key_turned : (g.turned runId r).key = r.key := by
  unfold turned
  split_ifs <;> rfl

/-- One more turn of the loop blocks nothing but what a failure reached from the start. -/
lemma Blocked.blockOnce (h : Blocked runId g g') : Blocked runId g (g'.blockOnce runId) := by
  refine ⟨?_, h.edges⟩
  have hturn : g'.nodes.Rel (fun p q => q = g'.turned runId p) (g'.blockOnce runId).nodes :=
    Table.Rel.of_map rfl fun _ _ => rfl
  have hrel : g.nodes.Rel (fun r q => ∃ p, Blocking g runId r p ∧ q = g'.turned runId p)
      (g'.blockOnce runId).nodes := Table.Rel.trans (fun _ p _ hb hq => ⟨p, hb, hq⟩) h.rows hturn
  refine hrel.mono_find? ?_ ?_
  · rintro r q ⟨p, hb, rfl⟩
    rw [key_turned, hb.key]
  · rintro r q hr - ⟨p, hb, rfl⟩
    unfold turned
    split_ifs with hblocked
    · obtain ⟨hrun, hpending, a, ha, hblocks⟩ := isBlocked_eq_true.mp hblocked
      obtain rfl := hb.of_pending hpending
      have hmem : p ∈ g.rowsOf runId :=
        mem_filter.mpr ⟨mem_of_find? hr, by simpa using hrun⟩
      obtain ⟨b, hbmem, hba⟩ := h.predecessors ha
      cases hba with
      | same => exact .blocked (.failed hmem hpending hbmem hblocks)
      | blocked hdoomed => exact .blocked (.downstream hmem hpending hbmem hdoomed)
    · exact hb

lemma Blocked.refl (g : WorkflowGraph) (runId : String) : Blocked runId g g :=
  ⟨.refl (fun _ => .same) _, rfl⟩

/-- Whether the loop has another turn. -/
def anyBlocked (runId : String) (g : WorkflowGraph) : Bool := g.nodes.rows.any (g.isBlocked runId)

lemma blockAll_eq {fuel : ℕ} :
    blockAll runId fuel g = untilDone (anyBlocked runId) (·.blockOnce runId) fuel g := by
  induction fuel generalizing g with
  | zero => rfl
  | succ fuel ih =>
    unfold blockAll untilDone anyBlocked
    split_ifs
    · exact ih
    · rfl

def pendingRows (g : WorkflowGraph) : ℕ := g.nodes.rows.countP fun r => r.status = .pending

lemma pendingRows_blockOnce (h : g.anyBlocked runId = true) :
    (g.blockOnce runId).pendingRows < g.pendingRows := by
  obtain ⟨r, hr, hblocked⟩ := any_eq_true.mp h
  change (g.nodes.rows.map (g.turned runId)).countP _ < _
  rw [countP_map]
  refine countP_lt_countP (fun a _ ha => ?_) hr ?_ ?_
  · rw [Function.comp_apply] at ha
    unfold turned at ha
    split_ifs at ha
    · cases ha
    · exact ha
  · simp [(isBlocked_eq_true.mp hblocked).2.1]
  · rw [Function.comp_apply]
    unfold turned
    rw [if_pos hblocked]
    rfl

lemma blocked_propagate (g : WorkflowGraph) (runId : String) :
    Blocked runId g (g.propagateFailedDependencies runId) := by
  unfold propagateFailedDependencies
  rw [blockAll_eq]
  exact untilDone_induction (fun _ h _ => h.blockOnce) (.refl g runId)

lemma anyBlocked_propagate (g : WorkflowGraph) (runId : String) :
    (g.propagateFailedDependencies runId).anyBlocked runId = false := by
  unfold propagateFailedDependencies
  rw [blockAll_eq]
  refine more_untilDone (fun _ => pendingRows_blockOnce) (Nat.lt_succ_of_le ?_)
  exact countP_le_length

/-- What a failure reaches is blocked. -/
lemma propagate_of_doomed (h : Doomed g runId r) :
    { r with status := NodeStatus.blocked } ∈ (g.propagateFailedDependencies runId).rowsOf
      runId := by
  have hall := blocked_propagate g runId
  have hdone := anyBlocked_propagate g runId
  have hstuck : ∀ {r p : NodeRow}, r ∈ g.rowsOf runId → r.status = .pending →
      p ∈ (g.propagateFailedDependencies runId).predecessors runId r.nodeId →
      p.status.blocks = true →
      { r with status := NodeStatus.blocked } ∈
        (g.propagateFailedDependencies runId).rowsOf runId := by
    intro r p hr hpending hp hblocks
    obtain ⟨q, hq, hb⟩ := hall.mem' hr
    cases hb with
    | blocked _ => exact hq
    | same =>
      obtain ⟨hmem, hrun⟩ := mem_filter.mp hq
      have hno := any_eq_false.mp hdone r hmem
      exact absurd (isBlocked_eq_true.mpr ⟨by simpa using hrun, hpending, p, hp, hblocks⟩) hno
  induction h with
  | failed hr hpending hp hblocks =>
    obtain ⟨q, hq, hb⟩ := hall.predecessors' hp
    refine hstuck hr hpending hq ?_
    cases hb with
    | same => exact hblocks
    | blocked _ => rfl
  | @downstream r p hr hpending hp hdoomed ih =>
    obtain ⟨he, -⟩ := mem_predecessors.mp hp
    rw [← hall.edges] at he
    exact hstuck (p := { p with status := .blocked }) hr hpending (mem_predecessors.mpr ⟨he, ih⟩) rfl

/-- A row of the run after the loop. -/
lemma mem_propagate (hp : p ∈ (g.propagateFailedDependencies runId).rowsOf runId) :
    ∃ r ∈ g.rowsOf runId, (p = r ∧ ¬ Doomed g runId r) ∨
      (p = { r with status := .blocked } ∧ Doomed g runId r) := by
  obtain ⟨r, hr, hb⟩ := (blocked_propagate g runId).mem hp
  refine ⟨r, hr, ?_⟩
  cases hb with
  | blocked hdoomed => exact .inr ⟨rfl, hdoomed⟩
  | same =>
    refine .inl ⟨rfl, fun hdoomed => ?_⟩
    have hblocked := mem_rowsOf.mp (propagate_of_doomed hdoomed)
    have hsame := (mem_rowsOf.mp hp).symm.trans hblocked
    have hpending := hdoomed.pending
    rw [Option.some.inj hsame] at hpending
    cases hpending

lemma mem_propagate_of_not_doomed (hr : r ∈ g.rowsOf runId) (h : ¬ Doomed g runId r) :
    r ∈ (g.propagateFailedDependencies runId).rowsOf runId := by
  obtain ⟨p, hp, hb⟩ := (blocked_propagate g runId).mem' hr
  cases hb with
  | same => exact hp
  | blocked hdoomed => exact absurd hdoomed h

lemma checkRunCompletion_fst :
    (g.checkRunCompletion runId).1 = true ↔ ∀ r ∈ g.rowsOf runId, r.status.done = true := by
  unfold checkRunCompletion
  dsimp only
  split_ifs with hnil
  · rw [map_eq_nil_iff] at hnil
    simp [hnil]
  · simp

/-- A run is done after the loop if every node was done or out of reach before it. -/
lemma done_propagate_iff :
    ((g.propagateFailedDependencies runId).checkRunCompletion runId).1 = true ↔
      ∀ r ∈ g.rowsOf runId, r.status.done = true ∨ Doomed g runId r := by
  rw [checkRunCompletion_fst]
  constructor
  · intro h r hr
    by_cases hdoomed : Doomed g runId r
    · exact .inr hdoomed
    · exact .inl (h r (mem_propagate_of_not_doomed hr hdoomed))
  · intro h p hp
    obtain ⟨r, hr, ⟨rfl, hnot⟩ | ⟨rfl, -⟩⟩ := mem_propagate hp
    · exact (h p hr).resolve_right hnot
    · rfl

end WorkflowGraph

end Harness
