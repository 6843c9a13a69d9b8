import Harness.Proofs.Conservation
import Mathlib.Data.List.Pairwise

/-! Nodes below a failed one. Finalization closes the live descendants of a node at the
moment it fails, so nothing live is left below it, unless an admission puts it there
afterwards. -/

namespace Harness

open Option Except RecursiveNode RecursiveTree Prod

open Lib Table

variable {a j leaseId : String} {usage : RecursiveBudget}

namespace RecursiveTree

variable {x : Externals} {t s u : RecursiveTree}

def parentOf (t : RecursiveTree) (k : String) : Option String :=
  (t.nodes.find? k).bind parentNodeId

/-- `a` is an ancestor of `k`. -/
inductive Above (t : RecursiveTree) (a : String) : String → Prop
  | parent {k : String} (h : t.parentOf k = some a) : Above t a k
  | up {k m : String} (h : t.parentOf k = some m) (ha : Above t a m) : Above t a k

variable {retry within success completed : Bool} {reason : Option RecursiveFailureReason}
  {env : RecursiveEnv} {n node m root : RecursiveNode} {p : RecursiveNode → Bool}
  {k receiptId : String} {fuel : ℕ}

lemma Above.trans {b : String} (h : t.Above b k) (h' : t.Above a b) : t.Above a k := by
  induction h with
  | parent h => exact .up h h'
  | up h _ ih => exact .up h ih

lemma Above.congr (h : t.Above a k) (hp : s.parentOf = t.parentOf) : s.Above a k := by
  induction h with
  | parent h => exact .parent (hp ▸ h)
  | up h _ ih => exact .up (hp ▸ h) ih

lemma Above.parent_isSome (h : t.Above a k) : (t.parentOf k).isSome = true := by
  cases h with
  | parent h => rw [h]; rfl
  | up h => rw [h]; rfl

lemma SameShape.parentOf (h : SameShape s t) : s.parentOf = t.parentOf := by
  have key : ∀ r : RecursiveTree, r.parentOf = r.frozen.parentOf := by
    intro r
    funext k
    have hf : r.frozen.nodes.find? k = (r.nodes.find? k).map RecursiveNode.frozen :=
      find?_frozenNodes
    unfold RecursiveTree.parentOf
    rw [hf]
    cases r.nodes.find? k <;> rfl
  rw [key s, key t, show s.frozen = t.frozen from h]

lemma parentOf_mem (hn : n ∈ t.nodes.rows) : t.parentOf n.nodeId = n.parentNodeId := by
  unfold parentOf
  rw [t.nodes.find?_key hn]
  rfl

/-! The walk of finalization finds exactly the ancestors. -/

lemma above_of_descendsFrom (h : t.descendsFrom a fuel (t.parentOf k) = true) : t.Above a k := by
  induction fuel generalizing k with
  | zero => cases h
  | succ fuel ih =>
    cases hp : t.parentOf k with
    | none =>
      rw [hp] at h
      cases h
    | some p =>
      rw [hp] at h
      simp only [descendsFrom, Bool.or_eq_true, decide_eq_true_eq] at h
      rcases h with rfl | h
      · exact .parent hp
      · exact .up hp (ih h)

/-- A node is at most as deep as its chain of ancestors is long. -/
lemma descendsFrom_of_above (hs : Shape x t) (h : t.Above a k) (hn : t.nodes.find? k = some n)
    (hf : n.depth ≤ fuel) : t.descendsFrom a fuel (t.parentOf k) = true := by
  have hup : ∀ {k p : String} {n : RecursiveNode}, t.nodes.find? k = some n →
      t.parentOf k = some p → ∃ m, t.nodes.find? p = some m ∧ n.depth = m.depth + 1 := by
    intro k p n hn hp
    obtain ⟨hm, rfl⟩ := t.nodes.find?_eq_some.mp hn
    rw [parentOf_mem hm] at hp
    have hroot : n.nodeId ≠ t.rootNodeId := (hs.parent_isSome_iff hm).mp (by rw [hp]; rfl)
    obtain ⟨q, m, hq, hfind, hd, -⟩ := exists_parent hs hm hroot
    cases hp.symm.trans hq
    exact ⟨m, hfind, hd⟩
  induction h generalizing n fuel with
  | parent h =>
    obtain ⟨m, -, hd⟩ := hup hn h
    obtain ⟨f, rfl⟩ : ∃ f, fuel = f + 1 := ⟨fuel - 1, by omega⟩
    rw [h]
    simp [descendsFrom]
  | @up k p h _ ih =>
    obtain ⟨m, hm, hd⟩ := hup hn h
    obtain ⟨f, rfl⟩ : ∃ f, fuel = f + 1 := ⟨fuel - 1, by omega⟩
    rw [h]
    simp only [descendsFrom, Bool.or_eq_true]
    exact .inr (ih hm (by omega))

/-- Whether `finalize_terminal_tree` takes a node for a descendant. -/
lemma descends_iff_above (hs : Shape x t) (hn : n ∈ t.nodes.rows) :
    t.descendsFrom a (t.nodes.size + 1) n.parentNodeId = true ↔ t.Above a n.nodeId := by
  rw [← parentOf_mem hn]
  refine ⟨above_of_descendsFrom, fun h => descendsFrom_of_above hs h (t.nodes.find?_key hn) ?_⟩
  have hd : n.depth ≤ 2 := (hs.node n hn).depth_le
  have hsize : 1 ≤ t.nodes.size := List.length_pos_of_mem hn
  omega

/-- No live node has a failed ancestor. -/
def Sheltered (t : RecursiveTree) : Prop :=
  ∀ n ∈ t.nodes.rows, n.live = true → ∀ a ∈ t.nodes.rows, t.Above a.nodeId n.nodeId →
    a.status ≠ .failed

/-- No node comes back to life, and none fails except perhaps `k`. -/
structure Tame (k : Option String) (t s : RecursiveTree) : Prop where
  shape : SameShape s t
  node : ∀ m ∈ s.nodes.rows, ∃ n ∈ t.nodes.rows, n.nodeId = m.nodeId ∧
    (m.live = true → n.live = true) ∧
    (m.status = .failed → n.status = .failed ∨ some m.nodeId = k)

variable {k : Option String}

lemma Tame.trans (h : Tame k t s) (h' : Tame k s u) : Tame k t u := by
  refine ⟨h'.shape.trans h.shape, fun m hm => ?_⟩
  obtain ⟨n, hn, hid, hl, hf⟩ := h'.node m hm
  obtain ⟨r, hr, hid', hl', hf'⟩ := h.node n hn
  refine ⟨r, hr, hid'.trans hid, hl' ∘ hl, fun hm' => ?_⟩
  rcases hf hm' with hn' | hk
  · exact hid ▸ hf' hn'
  · exact .inr hk

lemma Tame.of_alike (h : Alike s t) : Tame k t s := by
  refine ⟨h.sameShape, fun m hm => ?_⟩
  obtain ⟨n, hn, hsh⟩ := h.exists_row hm
  have hid := congrArg nodeId hsh
  have hst := congrArg status hsh
  have hst' : n.status = m.status := hst
  refine ⟨n, hn, hid, fun hl => ?_, fun hf => .inl (hst'.trans hf)⟩
  unfold live at hl ⊢
  rw [hst']
  exact hl

/-- A state and receipts of its own, but the nodes of `t`. -/
lemma Tame.of_nodes (hsh : SameShape s t) (h : s.nodes = t.nodes) : Tame k t s :=
  ⟨hsh, fun m hm => ⟨m, h ▸ hm, rfl, id, .inl⟩⟩

/-- Rewriting one node. -/
lemma Tame.of_modify {f : RecursiveNode → RecursiveNode} (hsh : SameShape s t)
    (hn : t.nodes.find? j = some node)
    (hs : s.nodes.rows = t.nodes.rows.map fun m => if m.nodeId = j then f m else m)
    (hid : (f node).nodeId = node.nodeId) (hl : (f node).live = true → node.live = true)
    (hf : (f node).status = .failed → node.status = .failed ∨ some j = k) : Tame k t s := by
  refine ⟨hsh, fun m hm => ?_⟩
  rw [hs] at hm
  obtain ⟨n, hn', rfl⟩ := List.mem_map.mp hm
  split_ifs with hj
  · have hkey := t.nodes.find?_key hn'
    rw [hj, hn] at hkey
    cases hkey
    refine ⟨node, hn', hid.symm, hl, ?_⟩
    rw [hid, hj]
    exact hf
  · exact ⟨n, hn', rfl, id, .inl⟩

lemma Tame.sheltered (h : Tame none t s) (ht : t.Sheltered) : s.Sheltered := by
  intro m hm hlive b hb habove hfailed
  obtain ⟨n, hn, hid, hl, -⟩ := h.node m hm
  obtain ⟨a, ha, hid', -, hf⟩ := h.node b hb
  rw [← hid, ← hid'] at habove
  rcases hf hfailed with hf | hf
  · exact ht n hn (hl hlive) a ha (habove.congr h.shape.parentOf.symm) hf
  · cases hf

lemma Tame.quiet (h : Tame k t s) (ht : t.Quiet) : s.Quiet := by
  intro m hm hp
  obtain ⟨n, hn, hid, hl, -⟩ := h.node m hm
  have hpar : n.parentNodeId = m.parentNodeId := by
    rw [← parentOf_mem hn, ← parentOf_mem hm, hid, h.shape.parentOf]
  have hterm := ht n hn (by rw [hpar]; exact hp)
  by_contra hne
  have := hl (by simpa [live] using hne)
  simp [live, hterm] at this

/-- Where no child is live, nothing live has an ancestor at all. -/
lemma Quiet.sheltered (h : t.Quiet) : t.Sheltered := by
  intro n hn hlive a _ habove
  have hp := habove.parent_isSome
  rw [parentOf_mem hn] at hp
  rw [live, h n hn hp] at hlive
  cases hlive

/-- Closing the live descendants of the node that failed. -/
lemma sheltered_closeDescendants (hs : Shape x s) (h : Tame (some j) t s) (ht : t.Sheltered)
    (reason : RecursiveFailureReason) : (s.closeNodes reason (s.liveDescendants j)).Sheltered := by
  refine (Tame.of_alike (alike_closeNodes s reason _)).sheltered ?_
  have hpar : (s.failWhere reason fun n =>
      n.live && s.descendsFrom j (s.nodes.size + 1) n.parentNodeId).parentOf = s.parentOf :=
    sameShape_failWhere.parentOf
  intro m hm hlive b hb habove hfailed
  obtain ⟨n, hn, rfl⟩ := List.mem_map.mp hm
  obtain ⟨a, ha, rfl⟩ := List.mem_map.mp hb
  have hidn : ∀ r : RecursiveNode, (if (r.live && s.descendsFrom j (s.nodes.size + 1)
      r.parentNodeId) = true then r.fail reason else r).nodeId = r.nodeId := by
    intro r
    split_ifs <;> rfl
  rw [hidn, hidn] at habove
  have habove := habove.congr hpar.symm
  dsimp only at hlive hfailed
  split_ifs at hlive with hq
  · cases hlive
  · -- a live node that was left alone is not below the failed one
    have hnot : ¬s.Above j n.nodeId := by
      intro hj
      rw [hlive, (descends_iff_above hs hn).mpr hj] at hq
      exact hq rfl
    split_ifs at hfailed with hq'
    · rw [Bool.and_eq_true, descends_iff_above hs ha] at hq'
      exact hnot (habove.trans hq'.2)
    · obtain ⟨n₀, hn₀, hid, hl, -⟩ := h.node n hn
      obtain ⟨a₀, ha₀, hid', -, hf⟩ := h.node a ha
      rcases hf hfailed with hf | hf
      · refine ht n₀ hn₀ (hl hlive) a₀ ha₀ ?_ hf
        rw [hid, hid']
        exact habove.congr h.shape.parentOf.symm
      · rw [some.inj hf] at habove
        exact hnot habove

def rootFailed (t : RecursiveTree) : Bool :=
  (t.nodes.find? t.rootNodeId).any (·.status = .failed)

lemma rootFailed_eq_true :
    t.rootFailed = true ↔
      ∃ root, t.nodes.find? t.rootNodeId = some root ∧ root.status = .failed := by
  unfold rootFailed
  cases t.nodes.find? t.rootNodeId <;> simp

/-- Sheltered, and nothing runs on in a tree that is over. -/
structure Guarded (t : RecursiveTree) : Prop where
  sheltered : t.Sheltered
  quiet : t.executionState.closed = true → t.Quiet
  root : t.rootFailed = true → t.executionState.closed = true
  stopped : t.recordedOverrun = true → t.executionState.closed = true

/-- A tree that is over and quiet. -/
lemma Guarded.of_over (hc : t.executionState.closed = true) (hq : t.Quiet) : t.Guarded :=
  ⟨hq.sheltered, fun _ => hq, fun _ => hc, fun _ => hc⟩

lemma Tame.rootFailed (h : Tame k t s) (hk : k ≠ some t.rootNodeId)
    (hf : s.rootFailed = true) : t.rootFailed = true := by
  obtain ⟨m, hm, hst⟩ := rootFailed_eq_true.mp hf
  obtain ⟨hmem, hid⟩ := s.nodes.find?_eq_some.mp hm
  obtain ⟨n, hn, hid', -, hfail⟩ := h.node m hmem
  rw [h.shape.rootNodeId] at hid
  refine rootFailed_eq_true.mpr ⟨n, ?_, (hfail hst).resolve_right fun he => hk (by rw [← he, hid])⟩
  rw [← hid, ← hid']
  exact t.nodes.find?_key hn

/-- A tame change that keeps the state. -/
lemma Guarded.tame (h : t.Guarded) (ht : Tame none t s)
    (hst : s.executionState.closed = t.executionState.closed)
    (hov : s.recordedOverrun = true → t.recordedOverrun = true) : s.Guarded where
  sheltered := ht.sheltered h.sheltered
  quiet hc := ht.quiet (h.quiet (hst ▸ hc))
  root hf := hst ▸ h.root (ht.rootFailed (by simp) hf)
  stopped ho := hst ▸ h.stopped (hov ho)

/-- The verdict only ends a tree with nothing left to run. -/
lemma Guarded.verdict (h : t.Guarded) : t.finalizeVerdict.Guarded := by
  unfold finalizeVerdict
  split_ifs with hdone
  all_goals first
    | exact h
    | refine .of_over rfl fun n hn _ => ?_
      exact List.all_eq_true.mp hdone.2 n hn

lemma Guarded.finalize_none (h : t.Guarded) : (t.finalizeTerminalTree none).Guarded := by
  unfold finalizeTerminalTree
  split_ifs
  · exact h
  · exact h.verdict

lemma Guarded.alike (h : t.Guarded) (hs : Alike s t) : s.Guarded :=
  h.tame (.of_alike hs) (by rw [hs.executionState])
    fun ho => by rwa [recordedOverrun_congr hs.usageReceipts] at ho

/-- Closing nodes that have a parent leaves the root as it is. -/
lemma rootFailed_closeNodes (hs : Shape x t) (reason : RecursiveFailureReason)
    (hp : ∀ n, p n = true → n.parentNodeId.isSome = true) :
    (t.closeNodes reason (t.liveIds p)).rootFailed = t.rootFailed := by
  obtain ⟨root, hr, -⟩ := limit_of_root hs.root hs.node
  have hnone : p root = false := by
    by_contra hne
    have := (hs.parent_isSome_iff (mem_of_find? hr)).mp (hp root (by simpa using hne))
    exact this (key_of_find? hr)
  have hk : t.rootNodeId ∉ t.liveIds p := not_mem_liveIds hr (by rw [hnone, Bool.and_false])
  obtain ⟨m, hm, c, v, rfl⟩ := find?_closeNodes hk hr
  unfold rootFailed
  rw [(sameShape_closeNodes t reason p).rootNodeId, hm, hr]
  rfl

lemma parent_of_descends {p : Option String} (h : t.descendsFrom a fuel p = true) :
    p.isSome = true := by
  cases p with
  | some _ => rfl
  | none => cases fuel <;> cases h

/-- A child failed in a tree that goes on. -/
lemma Guarded.fail (h : t.Guarded) (hs : Shape x s) (ht : Tame (some j) t s)
    (hroot : j ≠ t.rootNodeId) (hst : s.executionState = t.executionState)
    (hopen : t.executionState.closed = false)
    (hov : s.recordedOverrun = true → t.recordedOverrun = true) :
    (s.finalizeTerminalTree (some j)).Guarded := by
  have hopen' : s.executionState.closed = false := hst ▸ hopen
  unfold finalizeTerminalTree
  rw [if_neg (by rw [hopen']; exact Bool.false_ne_true)]
  have hnot : ∀ {P : Prop}, t.executionState.closed = true → P := by
    intro P hc
    rw [hopen] at hc
    cases hc
  have halike := alike_closeNodes s .terminalFailed fun n =>
    s.descendsFrom j (s.nodes.size + 1) n.parentNodeId
  refine Guarded.verdict ⟨sheltered_closeDescendants hs ht h.sheltered _, fun hc => ?_, fun hf => ?_,
    fun ho => ?_⟩
  · have hc' : s.executionState.closed = true := halike.executionState ▸ hc
    exact hnot (hst ▸ hc')
  · have hf' := (rootFailed_closeNodes hs .terminalFailed fun n => parent_of_descends).symm.trans hf
    exact hnot (h.root (ht.rootFailed (fun e => hroot (some.inj e)) hf'))
  · have ho' : s.recordedOverrun = true := (recordedOverrun_congr halike.usageReceipts).symm.trans ho
    exact hnot (h.stopped (hov ho'))

/-- What follows an attempt that ended: a retry, or the reservation returns. -/
def settleOut (t : RecursiveTree) (k : String) (retry : Bool) : RecursiveTree :=
  if retry then { t with nodes := t.nodes.modify k .retry nodeId_retry }.bumpVersion
  else t.closeOut k (t.failedNode k)

lemma afterCompletion_eq_ok (h : t.afterCompletion j retry = .ok s) : s = t.settleOut j retry := by
  cases retry with
  | false => exact (ok.inj h).symm
  | true =>
    obtain ⟨a, h⟩ := treeOf_eq_ok.mp h
    unfold retryNode at h
    cases hn : t.nodes.find? j with
    | none => simp [hn] at h
    | some n =>
      rw [hn] at h
      exact (Prod.mk.inj h).2.symm

/-- `s` is `t` after its receipt was seen: charged, or unchanged when it was on record. -/
structure Recorded (t s : RecursiveTree) (within : Bool) : Prop where
  alike : Alike s { t with executionState := s.executionState, usageReceipts := s.usageReceipts }
  state : within = true → s.executionState = t.executionState
  overrun : within = true → s.recordedOverrun = true → t.recordedOverrun = true

lemma Recorded.refl (t : RecursiveTree) (within : Bool) : Recorded t t within :=
  ⟨Alike.refl t, fun _ => rfl, fun _ => id⟩

lemma Recorded.tame (h : Recorded t s within) : Tame k t s := by
  have h1 : Tame k t
      { t with executionState := s.executionState, usageReceipts := s.usageReceipts } :=
    .of_nodes (sameShape_of_nodes rfl) rfl
  exact h1.trans (.of_alike h.alike)

lemma recorded_fresh {consumes : Bool} (hf : t.usageReceipts.find? receiptId = none)
    (hw : within = true → t.withinTreeBudget usage consumes = true)
    (hs : Alike s (t.recordFreshUsage receiptId usage consumes)) : Recorded t s within := by
  refine ⟨?_, fun h => ?_, fun h ho => ?_⟩
  · rw [hs.executionState, hs.usageReceipts]
    exact hs
  · rw [hs.executionState]
    simp [recordFreshUsage, hw h]
  · rw [recordedOverrun_congr hs.usageReceipts] at ho
    rw [recordedOverrun_insert (s := t.recordFreshUsage receiptId usage consumes) rfl hf, hw h] at ho
    exact ho

lemma recordedOverrun_of_known {previous : String × String}
    (hf : t.usageReceipts.find? receiptId = some previous)
    (hv : recordedVerdict previous.2 usage.toJson = .ok false) : t.recordedOverrun = true := by
  unfold recordedOverrun
  rw [List.any_eq_true]
  refine ⟨previous, mem_of_find? hf, ?_⟩
  rw [recordedVerdict_eq_ok hv]
  exact overrun_receiptText.trans rfl

/-- A settlement, whether its receipt is new or known. A retry was allowed on a running
tree, so the attempt it follows stayed within the tree's budget. -/
lemma not_terminal_of_lease {leaseId : String} (h : LeaseIndex t) (hn : n ∈ t.nodes.rows)
    (hl : n.leaseId = some leaseId) : n.status.terminal = false := by
  rw [(validateLease_eq_ok.mp (h.node n hn)).1.mpr (by simp [hl])]
  rfl

/-- Of a tree that is over no child is live. -/
lemma Guarded.isOpen (hg : t.Guarded) (hs : Shape x t) (hroot : j ≠ t.rootNodeId)
    (hn : t.nodes.find? j = some n) (hlive : n.status.terminal = false) :
    t.executionState.closed = false := by
  by_contra hne
  obtain ⟨hmem, rfl⟩ := t.nodes.find?_eq_some.mp hn
  have := hg.quiet (by simpa using hne) n hmem ((hs.parent_isSome_iff hmem).mpr hroot)
  rw [hlive] at this
  cases this

lemma syncRecursiveCompletion_cases (hacc : t.validateTree x = .ok ()) (hg : t.Guarded)
    (hroot : j ≠ t.rootNodeId)
    (h : t.syncRecursiveCompletionWithReceipt env j leaseId receiptId success retry usage = .ok u) :
    ∃ node s within r, t.nodes.find? j = some node ∧ node.leaseId = some leaseId ∧
      Recorded t s within ∧ (r = true → within = true ∧ node.retryCount < maxRecursiveRetries) ∧
      u = (s.nodeEnded node j leaseId success within).settleOut j r := by
  obtain ⟨hs, hlease, -, -⟩ := validateTree_eq_ok.mp hacc
  obtain ⟨node, hn, hl⟩ := syncRecursiveCompletion_node h
  have hlive := not_terminal_of_lease hlease (mem_of_find? hn) hl
  cases hf : t.usageReceipts.find? receiptId with
  | none =>
    obtain ⟨r, hr, hsync⟩ := syncRecursiveCompletion_fresh hn hl hf
    cases (h.symm.trans hsync)
    refine ⟨node, (t.recordFreshUsage receiptId usage true).chargeNode j usage,
      node.budget.canSpend usage && t.withinTreeBudget usage true, r, hn, hl,
      recorded_fresh hf (fun hw => (Bool.and_eq_true_iff.mp hw).2) (alike_chargeNode j usage),
      fun h1 => ?_, rfl⟩
    obtain ⟨hrun, hcount, hfits⟩ := hr h1
    have hover : t.recordedOverrun = false := by
      by_contra hne
      have := hg.stopped (by simpa using hne)
      rw [hrun] at this
      cases this
    exact ⟨Bool.and_eq_true_iff.mpr ⟨hfits, within_of_fits hacc hn hroot hlive hfits hover⟩, hcount⟩
  | some previous =>
    obtain ⟨b, hb, hbt⟩ := t.retryAllowed_eq hn env usage
    rcases t.completeNode_cases j leaseId receiptId success usage with
      ⟨reason, hr⟩ | ⟨node', hn', hl', ⟨hnone, -⟩ | ⟨previous', within, hf', hv, hr⟩⟩
    · have hc : t.nodes.contains j = true := by simp [contains, hn]
      cases retry <;> simp [syncRecursiveCompletionWithReceipt, hc, hr, hb, treeOf, Except.map, bind,
        Except.bind, pure, Except.pure] at h
    · rw [hf] at hnone
      cases hnone
    · cases hn.symm.trans hn'
      have hc : t.nodes.contains j = true := by simp [contains, hn]
      refine ⟨node, t, within, retry && b, hn, hl, .refl t within, fun h1 => ?_, ?_⟩
      · obtain ⟨hrun, hcount, -⟩ := hbt (Bool.and_eq_true_iff.mp h1).2
        refine ⟨?_, hcount⟩
        by_contra hne
        have hover := recordedOverrun_of_known hf' (by rwa [Bool.not_eq_true _ |>.mp hne] at hv)
        have := hg.stopped hover
        rw [hrun] at this
        cases this
      · refine afterCompletion_eq_ok ?_
        cases retry with
        | false =>
          simpa [syncRecursiveCompletionWithReceipt, hc, hr, treeOf, Except.map, bind,
            Except.bind, pure, Except.pure] using h
        | true =>
          simpa [syncRecursiveCompletionWithReceipt, hc, hr, hb, treeOf, Except.map, bind,
            Except.bind, pure, Except.pure] using h

lemma terminal_finish : (n.finish completed reason).status.terminal = true := by
  cases completed <;> rfl

/-- An attempt that ends badly fails its own node only. -/
lemma tame_endAttempt (hm : t.nodes.find? j = some m) (leaseId : String) (completed : Bool)
    (reason : Option RecursiveFailureReason) (hk : completed = false → k = some j) :
    Tame k t (t.endAttempt j leaseId completed reason) := by
  refine .of_modify (f := fun n => n.finish completed reason) (sameShape_endAttempt _ _ _ _ _) hm rfl
    rfl (fun hl => ?_) fun hf => .inr ?_
  · rw [live, terminal_finish] at hl
    cases hl
  · cases completed with
    | true => cases hf
    | false => exact (hk rfl).symm

lemma failedNode_endAttempt (hm : t.nodes.find? j = some m) :
    (t.endAttempt j leaseId completed reason).bumpVersion.failedNode j =
      if completed then none else some j := by
  have he : (t.endAttempt j leaseId completed reason).bumpVersion.nodes.find? j =
      some (m.finish completed reason) := find?_endAttempt hm leaseId completed reason
  obtain ⟨r, hr, hu⟩ := find?_release he
  obtain ⟨c, v, rfl⟩ := if_pos rfl ▸ hu
  unfold failedNode
  rw [hr]
  cases completed <;> rfl

/-- A node whose attempt ended over budget has ended the tree. -/
lemma guarded_exhaust_closeOut (hm : t.nodes.find? j = some m) (ht : m.status.terminal = true)
    {failed : Option String} : ((t.exhaust j).bumpVersion.closeOut j failed).Guarded := by
  have hclosed : (t.exhaust j).bumpVersion.executionState.closed = true :=
    congrArg RecursiveExecutionState.closed (state_terminalize _)
  have hq := (quiet_exhaust hm ht).congr alike_bumpVersion
  have hrel : ((t.exhaust j).bumpVersion.releaseNodeReservationForPersistence
      j).executionState.closed = true := by
    rw [(alike_release _ j).executionState]
    exact hclosed
  unfold closeOut
  rw [finalize_of_closed hrel]
  exact .of_over hrel (hq.congr (alike_release _ j))

/-- An attempt that is retried leaves its node live. -/
lemma tame_retried (hm : t.nodes.find? j = some m) (hlive : m.live = true)
    (hcount : m.retryCount < maxRecursiveRetries) :
    Tame k t ((t.endAttempt j leaseId completed reason).bumpVersion.settleOut j true) := by
  refine .of_modify (f := fun n => (n.finish completed reason).retry) ?_ hm ?_ ?_ (fun _ => hlive)
    fun hf => ?_
  · refine alike_bumpVersion.sameShape.trans ((sameShape_modify ?_).trans
      (alike_bumpVersion.sameShape.trans (sameShape_endAttempt _ _ _ _ _)))
    intro n
    unfold retry
    split_ifs <;> rfl
  · change ((t.nodes.rows.map fun n => if n.nodeId = j then _ else n).map fun n =>
      if n.nodeId = j then n.retry else n) = _
    rw [List.map_map]
    refine List.map_congr_left fun n _ => ?_
    by_cases hj : n.nodeId = j
    · simp only [Function.comp_apply, if_pos hj]
      exact if_pos hj
    · simp [Function.comp_apply, if_neg hj]
  · exact nodeId_retry _
  · rw [retry_of_lt (by exact hcount)] at hf
    cases hf

lemma guarded_settle {r : Bool} (hs : Shape x t) (hg : t.Guarded) (hroot : j ≠ t.rootNodeId)
    (hn : t.nodes.find? j = some node) (hlive : node.status.terminal = false)
    (hrec : Recorded t s within)
    (hr : r = true → within = true ∧ node.retryCount < maxRecursiveRetries) :
    ((s.nodeEnded node j leaseId success within).settleOut j r).Guarded := by
  obtain ⟨m, hm, hsh⟩ := hrec.alike.symm.exists_find? hn
  have hmlive : m.live = true := by
    have hst := congrArg status hsh
    rw [live, show m.status = node.status from hst, hlive]
    rfl
  have hcount : m.retryCount = node.retryCount := (congrArg retryCount hsh :)
  cases within with
  | false =>
    cases r with
    | true => exact absurd (hr rfl).1 Bool.false_ne_true
    | false =>
      exact guarded_exhaust_closeOut (find?_endAttempt hm leaseId _ _) terminal_finish
  | true =>
    have hst := hrec.state rfl
    have hov := hrec.overrun rfl
    cases r with
    | true =>
      exact hg.tame (hrec.tame.trans (tame_retried hm hmlive (hcount ▸ (hr rfl).2)))
        (congrArg RecursiveExecutionState.closed hst) hov
    | false =>
      change ((s.endAttempt j leaseId (success && true) _).bumpVersion.closeOut j
        ((s.endAttempt j leaseId (success && true) _).bumpVersion.failedNode j)).Guarded
      rw [failedNode_endAttempt hm]
      cases success with
      | true =>
        have hdone := hrec.tame.trans (tame_endAttempt (k := none) hm leaseId true
          (nodeFailureReason node true true) (by intro h; cases h))
        have hg1 := hg.tame hdone (congrArg RecursiveExecutionState.closed hst) hov
        exact ((hg1.alike alike_bumpVersion).alike (alike_release _ j)).finalize_none
      | false =>
        -- the node was live, so the tree goes on
        have hopen := hg.isOpen hs hroot hn hlive
        have hend := hrec.tame.trans (tame_endAttempt hm leaseId false
          (nodeFailureReason node false true) fun _ => rfl)
        have htame := (hend.trans (.of_alike alike_bumpVersion)).trans
          (.of_alike (alike_release _ j))
        refine hg.fail (shape_congr hs htame.shape) htame hroot ?_ hopen fun ho => hov ?_
        · rw [(alike_release _ j).executionState]
          exact hst
        · rw [recordedOverrun_congr (alike_release _ j).usageReceipts] at ho
          exact ho

lemma Recorded.guarded (h : Recorded t s true) (hg : t.Guarded) : s.Guarded :=
  hg.tame h.tame (congrArg RecursiveExecutionState.closed (h.state rfl)) (h.overrun rfl)

lemma guarded_rootEnded (hg : t.Guarded) (hn : t.nodes.find? t.rootNodeId = some root)
    (hrec : Recorded t s within) : (s.rootEnded leaseId success within).Guarded := by
  have hid : s.rootNodeId = t.rootNodeId := (hrec.tame (k := none)).shape.rootNodeId
  obtain ⟨m, hm, -⟩ := hrec.alike.symm.exists_find? hn
  rw [← hid] at hm
  have hend := fun completed reason => find?_endAttempt hm leaseId completed reason
  refine s.rootEnded_cases leaseId success within (P := Guarded) (fun _ c r => ?_) (fun c r => ?_)
    fun hw r => ?_
  · exact .of_over (congrArg RecursiveExecutionState.closed (state_terminalize _))
      ((quiet_exhaust (hend c r) terminal_finish).congr alike_bumpVersion)
  · have hq := quiet_terminalize_self (t := { s.endAttempt s.rootNodeId leaseId c r with
      executionState := .terminalFailed }) (hend c r) terminal_finish .terminalFailed
    exact .of_over (congrArg RecursiveExecutionState.closed (state_terminalize _))
      (hq.congr alike_bumpVersion)
  · rw [hw] at hrec
    have htame : Tame none s (s.endAttempt s.rootNodeId leaseId true r) :=
      tame_endAttempt hm leaseId true r nofun
    exact (((hrec.guarded hg).tame htame rfl id).alike alike_bumpVersion).finalize_none

lemma guarded_settleRoot (hg : t.Guarded)
    (h : t.syncRecursiveRootCompletionWithReceipt leaseId receiptId success usage = .ok u) :
    u.Guarded := by
  obtain ⟨s, hs, hu⟩ := bind_ok h
  obtain ⟨a, hs⟩ := treeOf_eq_ok.mp hs
  cases hu
  refine Guarded.finalize_none ?_
  rcases t.completeRoot_cases leaseId receiptId success usage with
    ⟨reason, hr⟩ | ⟨-, -, hr⟩ | ⟨root, hn, -, -, -, ⟨hf, hr⟩ | ⟨within, -, hr⟩⟩
  · rw [hr] at hs
    cases hs
  · rw [hr] at hs
    obtain rfl := (Prod.mk.inj hs).2
    exact hg
  · rw [hr] at hs
    obtain rfl := (Prod.mk.inj hs).2
    exact guarded_rootEnded hg hn
      (recorded_fresh hf (fun hw => (Bool.and_eq_true_iff.mp hw).2) (alike_chargeRoot usage))
  · rw [hr] at hs
    obtain rfl := (Prod.mk.inj hs).2
    exact guarded_rootEnded hg hn (.refl t within)

/-- Every child is below the root. -/
lemma above_root (hs : Shape x t) :
    ∀ d, ∀ n ∈ t.nodes.rows,
      n.depth = d → n.nodeId ≠ t.rootNodeId → t.Above t.rootNodeId n.nodeId := by
  intro d
  induction d with
  | zero =>
    intro n hn hd hr
    obtain ⟨q, m, -, -, h1, -⟩ := exists_parent hs hn hr
    omega
  | succ d ih =>
    intro n hn hd hr
    obtain ⟨q, m, hq, hm, h1, -⟩ := exists_parent hs hn hr
    have hp : t.parentOf n.nodeId = some q := (parentOf_mem hn).trans hq
    by_cases hroot : q = t.rootNodeId
    · exact .parent (hroot ▸ hp)
    · obtain ⟨hmem, rfl⟩ := t.nodes.find?_eq_some.mp hm
      exact .up hp (ih m hmem (by omega) hroot)

/-- In an accepted tree whose nodes are all terminal no lease is active. -/
lemma activeLeases_eq_empty (hl : LeaseIndex t)
    (hall : ∀ n ∈ t.nodes.rows, n.status.terminal = true) : t.activeLeases = ∅ := by
  rw [Finset.eq_empty_iff_forall_notMem]
  intro l hmem
  obtain ⟨n, hn, hlease⟩ := hl.held l hmem
  cases (hall n hn).symm.trans (not_terminal_of_lease hl hn hlease)

/-- Under a failed root nothing is live. -/
lemma Sheltered.all_terminal (h : t.Sheltered) (hs : Shape x t) (hf : t.rootFailed = true) :
    ∀ n ∈ t.nodes.rows, n.status.terminal = true := by
  intro n hn
  obtain ⟨root, hr, hst⟩ := rootFailed_eq_true.mp hf
  by_contra hlive
  by_cases hroot : n.nodeId = t.rootNodeId
  · have hfind := t.nodes.find?_key hn
    rw [hroot, hr] at hfind
    cases hfind
    rw [hst] at hlive
    exact hlive rfl
  · refine h n hn (by simpa [live] using hlive) root (mem_of_find? hr) ?_ hst
    rw [key_of_find? hr]
    exact above_root hs _ n hn rfl hroot

/-- The root failed, so everything below it is closed and the verdict falls. -/
lemma guarded_rootRecovered (hj : j = s.rootNodeId) (hs : Shape x s) (ht : Tame (some j) t s)
    (hg : t.Guarded) (hr : s.nodes.find? j = some root) (hfailed : root.status = .failed)
    (hopen : s.executionState.closed = false)
    (hacc : (s.finalizeTerminalTree (some j)).validateTree x = .ok ()) :
    (s.finalizeTerminalTree (some j)).Guarded := by
  subst hj
  have hshelter := sheltered_closeDescendants hs ht hg.sheltered .terminalFailed
  have hshape := sameShape_closeNodes s .terminalFailed fun n =>
    s.descendsFrom s.rootNodeId (s.nodes.size + 1) n.parentNodeId
  have hs' := shape_congr hs hshape
  have hrootFailed := (rootFailed_closeNodes hs .terminalFailed
    (p := fun n => s.descendsFrom s.rootNodeId (s.nodes.size + 1) n.parentNodeId)
    fun _ => parent_of_descends).trans (show s.rootFailed = true by simp [rootFailed, hr, hfailed])
  have hall := hshelter.all_terminal hs' hrootFailed
  unfold finalizeTerminalTree at hacc ⊢
  rw [if_neg (by rw [hopen]; exact Bool.false_ne_true)] at hacc ⊢
  dsimp only at hacc ⊢
  unfold finalizeVerdict at hacc ⊢
  split_ifs at hacc ⊢ with hdone
  all_goals first
    | exact .of_over rfl fun n hn _ => hall n hn
    | exact absurd ⟨activeLeases_eq_empty (validateTree_eq_ok.mp hacc).2.1 hall,
        List.all_eq_true.mpr hall⟩ hdone

lemma guarded_recover {early : Bool} (hacc : t.validateTree x = .ok ())
    (hacc' : u.validateTree x = .ok ()) (hg : t.Guarded)
    (h : (Transaction.recover env j leaseId early usage).commit x t = .ok u) : u.Guarded := by
  obtain ⟨allowed, hallow, hsync⟩ := bind_ok h
  obtain ⟨node, hn, hl, rfl⟩ := syncRecursiveStaleRecovery_eq_ok hsync
  obtain ⟨hs, hlease, -, -⟩ := validateTree_eq_ok.mp hacc
  have hterm := not_terminal_of_lease hlease (mem_of_find? hn) hl
  have hlive : node.live = true := by rw [live, hterm]; rfl
  cases hretry : early && allowed with
  | true =>
    obtain ⟨b, hb, hbt⟩ := t.retryAllowed_eq hn env usage
    cases (hallow.symm.trans hb)
    have hcount := (hbt (Bool.and_eq_true_iff.mp hretry).2).2.1
    refine hg.tame (.of_modify (f := (·.recover true)) sameShape_recoveredTree hn
      rfl (nodeId_recover _ _) (fun _ => hlive) fun hf => ?_) rfl id
    simp only [recover, hcount, decide_true, Bool.and_self, if_true] at hf
    cases hf
  | false =>
    rw [hretry, if_neg Bool.false_ne_true] at hacc'
    rw [if_neg Bool.false_ne_true]
    have htame : Tame (some j) t (t.recoveredTree j leaseId false) :=
      .of_modify (f := (·.recover false)) sameShape_recoveredTree hn rfl
        (nodeId_recover _ _) (fun _ => hlive) fun _ => .inr rfl
    have halike := alike_release (t.recoveredTree j leaseId false) j
    have htame' := htame.trans (.of_alike halike)
    have hs' := shape_congr hs htame'.shape
    have hst : ((t.recoveredTree j leaseId false).releaseNodeReservationForPersistence
        j).executionState = t.executionState := halike.executionState
    unfold closeOut at hacc' ⊢
    by_cases hroot : j = t.rootNodeId
    · by_cases hc : t.executionState.closed = true
      · rw [finalize_of_closed (by rw [hst]; exact hc)]
        exact .of_over (by rw [hst]; exact hc) (htame'.quiet (hg.quiet hc))
      · obtain ⟨r, hr, hsh⟩ := halike.symm.exists_find? (find?_recoveredTree hn leaseId false)
        have hstatus : r.status = .failed := (congrArg status hsh :)
        exact guarded_rootRecovered (hroot.trans htame'.shape.rootNodeId.symm) hs' htame' hg hr
          hstatus (by rw [hst]; simpa using hc) hacc'
    · refine hg.fail hs' htame' hroot hst (hg.isOpen hs hroot hn hterm) fun ho => ?_
      rwa [recordedOverrun_congr halike.usageReceipts] at ho

lemma guarded_state (hg : t.Guarded) {state : RecursiveExecutionState} {version : ℕ}
    (hst : state.closed = t.executionState.closed) :
    ({ t with executionState := state, version := version } : RecursiveTree).Guarded :=
  hg.tame (.of_nodes (sameShape_of_nodes rfl) rfl) hst id

/-- Closing every live child. -/
lemma quiet_closeNodes {reason : RecursiveFailureReason}
    (hp : ∀ n, n.parentNodeId.isSome = true → p n = true) :
    (t.closeNodes reason (t.liveIds p)).Quiet := by
  refine Quiet.congr ?_ (alike_closeNodes t reason p)
  intro m hm hpar
  obtain ⟨n, hn, rfl⟩ := List.mem_map.mp hm
  dsimp only at hpar ⊢
  split_ifs at hpar ⊢ with hlive
  · rfl
  · rw [hp n hpar, Bool.and_true, live, Bool.not_eq_true'] at hlive
    simpa using hlive

lemma guarded_setPaused (hg : t.Guarded) {paused : Bool} {terminalReason : Option String} :
    (t.setRecursiveExecutionPaused paused terminalReason).Guarded := by
  obtain ⟨s, version, rfl, hr⟩ := t.setPaused_cases
  rcases hr with ⟨hr, hidle⟩ | ⟨hc, reason, hr⟩
  · rw [hr]
    cases hc : (t.effectiveState paused terminalReason).closed with
    | false =>
      refine guarded_state hg (hc.trans ?_)
      by_contra hne
      have := closed_effectiveState (by simpa using Ne.symm hne) paused terminalReason
      rw [hc] at this
      cases this
    | true =>
      refine .of_over hc ?_
      rcases hidle hc with hdone | hidle
      · -- only a tree that is completed already is found completed
        refine hg.quiet ?_
        unfold effectiveState at hdone
        split_ifs at hdone <;> simp_all [RecursiveExecutionState.closed]
      · intro n hn hp
        by_contra hlive
        refine List.ne_nil_of_mem (List.mem_map_of_mem (List.mem_filter.mpr ⟨hn, ?_⟩)) hidle
        have hlive' : n.live = true := by rw [live, Bool.not_eq_true _ |>.mp hlive]; rfl
        simp [hlive', hp]
  · rw [hr]
    refine .of_over ?_ ((quiet_closeNodes fun n hp => by rw [hp]; rfl).congr
      alike_bumpVersion)
    rw [alike_bumpVersion.executionState, (alike_closeNodes _ _ _).executionState]
    exact hc

lemma guarded_pause (hg : t.Guarded) : t.pause.Guarded := by
  refine guarded_state hg ?_
  split_ifs with h
  · rw [h]
    rfl
  · rfl

lemma guarded_resume (hg : t.Guarded) : t.resume.Guarded := by
  unfold resume
  split_ifs with h
  · exact guarded_state hg (by rw [h]; rfl)
  · exact hg

lemma guarded_lease (hg : t.Guarded) (h : t.syncRecursiveLease env j leaseId = .ok u) :
    u.Guarded := by
  obtain ⟨node, hn, -, hst, -, -, rfl⟩ := syncRecursiveLease_eq_ok h
  refine hg.tame (.of_modify (f := fun n => n.lease leaseId) sameShape_leasedTree hn rfl
    rfl (fun _ => ?_) fun hf => ?_) rfl id
  · rw [live, hst]
    rfl
  · cases hf

lemma eq_of_filterMap_nodup {α β : Type} {f : α → Option β} {l : List α}
    (h : (l.filterMap f).Nodup) {a b : α} {c : β} (ha : a ∈ l) (hb : b ∈ l) (hfa : f a = some c)
    (hfb : f b = some c) : a = b := by
  have hsymm : Std.Symm fun a b => ∀ c, f a = some c → ∀ d, f b = some d → c ≠ d :=
    ⟨fun _ _ hne c hc d hd hcd => hne d hd c hc hcd.symm⟩
  by_contra hne
  exact (List.pairwise_filterMap.mp h).forall ha hb hne c hfa c hfb rfl

section Admission

variable {parent : RecursiveNode} {proposal : RecursiveProposal}

/-- An admission that overwrote a node would lose that node's proposal, or the root. -/
lemma admitted_new (hs : Shape x t) (hs' : Shape x (t.admitUnder x parent proposal))
    (ha : Admissible x t parent proposal) :
    t.nodes.find? (t.admittedNode x parent proposal).nodeId = none := by
  by_contra hne
  obtain ⟨m, hm⟩ := ne_none_iff_exists'.mp hne
  have hfind : (t.admitUnder x parent proposal).nodes.find?
      (t.admittedNode x parent proposal).nodeId = some (t.admittedNode x parent proposal) := by
    rw [find?_admitUnder, if_pos rfl]
  have hmem := mem_of_find? hfind
  have hroot : (t.admittedNode x parent proposal).nodeId ≠ t.rootNodeId :=
    (hs'.parent_isSome_iff hmem).mp rfl
  obtain ⟨hmrow, hmid⟩ := t.nodes.find?_eq_some.mp hm
  cases hp : m.proposalId with
  | none => exact hroot (hmid ▸ (hs.node m hmrow).unproposed hp)
  | some p =>
    obtain ⟨-, hacc, -⟩ := (hs.node m hmrow).proposed p hp
    obtain ⟨n, hn, hnp⟩ := (hs'.accepted p (Finset.mem_insert_of_mem hacc)).1
    have hnfind := find?_key _ hn
    rw [find?_admitUnder] at hnfind
    split_ifs at hnfind with hnew
    · cases hnfind
      cases hnp
      exact ha.unaccepted hacc
    · obtain ⟨r, hr, rfl⟩ := map_eq_some_iff.mp hnfind
      obtain ⟨c, v, hg⟩ := t.granted_cases parent proposal r
      rw [hg] at hnp
      have hrm := eq_of_filterMap_nodup hs.proposals (mem_of_find? hr) hmrow hnp hp
      rw [nodeId_granted, hrm, hmid] at hnew
      exact hnew rfl

/-- Below the nodes that were there nothing is new. -/
lemma above_admitUnder (hs : Shape x t)
    (hnew : t.nodes.find? (t.admittedNode x parent proposal).nodeId = none) {k : String}
    (h : (t.admitUnder x parent proposal).Above a k)
    (hk : k ≠ (t.admittedNode x parent proposal).nodeId) :
    t.Above a k := by
  have hpar : ∀ {k}, k ≠ (t.admittedNode x parent proposal).nodeId →
      (t.admitUnder x parent proposal).parentOf k = t.parentOf k := by
    intro k hk
    unfold parentOf
    rw [find?_admitUnder, if_neg hk]
    cases t.nodes.find? k with
    | none => rfl
    | some n =>
      obtain ⟨c, v, hg⟩ := t.granted_cases parent proposal n
      rw [map_some, hg]
      rfl
  induction h with
  | parent h => exact .parent ((hpar hk).symm.trans h)
  | @up k m h _ ih =>
    have hp := (hpar hk).symm.trans h
    refine .up hp (ih ?_)
    rintro rfl
    obtain ⟨n, hn, hnp⟩ := bind_eq_some_iff.mp hp
    exact parent_ne_of_new hs hnew (mem_of_find? hn) hnp

/-- A node admitted below one that has not failed, in a running tree. -/
lemma guarded_admitUnder (hs : Shape x t) (hs' : Shape x (t.admitUnder x parent proposal))
    (hg : t.Guarded) (ha : Admissible x t parent proposal)
    (hparent : t.nodes.find? parent.nodeId = some parent) (halive : parent.status ≠ .failed)
    (hshelter : ∀ a ∈ t.nodes.rows, t.Above a.nodeId parent.nodeId → a.status ≠ .failed) :
    (t.admitUnder x parent proposal).Guarded := by
  have hnew := admitted_new hs hs' ha
  have hopen : t.executionState.closed = false := by rw [ha.running]; rfl
  have hfailed : ∀ m : RecursiveNode, (t.granted parent proposal m).status = m.status ∧
      (t.granted parent proposal m).live = m.live := by
    intro m
    obtain ⟨c, v, hm⟩ := t.granted_cases parent proposal m
    rw [hm]
    exact ⟨rfl, rfl⟩
  have hold : ∀ m ∈ t.nodes.rows, m.nodeId ≠ (t.admittedNode x parent proposal).nodeId :=
    fun m hm => ne_of_new hnew (t.nodes.find?_key hm)
  refine ⟨fun n hn hlive b hb habove hbad => ?_, fun hc => ?_, fun hf => ?_, fun ho => ?_⟩
  · -- the newcomer has not failed, so the failed node was there before
    rcases (mem_admitUnder hnew).mp hb with rfl | ⟨a, harow, rfl⟩
    · cases hbad
    rw [nodeId_granted] at habove
    rw [(hfailed a).1] at hbad
    rcases (mem_admitUnder hnew).mp hn with rfl | ⟨m, hm, rfl⟩
    · have hpar : (t.admitUnder x parent proposal).parentOf
          (t.admittedNode x parent proposal).nodeId = some parent.nodeId := by
        unfold parentOf
        rw [find?_admitUnder, if_pos rfl]
        rfl
      cases habove with
      | parent h =>
        have hid := mem_unique h hpar
        have hkey := t.nodes.find?_key harow
        rw [hid, hparent] at hkey
        cases hkey
        exact halive hbad
      | up h hup =>
        cases h.symm.trans hpar
        exact hshelter a harow (above_admitUnder hs hnew hup (ne_of_new hnew hparent)) hbad
    · rw [nodeId_granted] at habove
      rw [(hfailed m).2] at hlive
      exact hg.sheltered m hm hlive a harow (above_admitUnder hs hnew habove (hold m hm)) hbad
  · exact absurd (hopen.symm.trans hc) Bool.false_ne_true
  · obtain ⟨r, hr, hst⟩ := rootFailed_eq_true.mp hf
    obtain ⟨root, hroot, -⟩ := limit_of_root hs.root hs.node
    have hr' := find?_admitUnder x t parent proposal t.rootNodeId
    rw [if_neg (ne_of_new hnew hroot), hroot] at hr'
    cases hr.symm.trans hr'
    rw [(hfailed root).1] at hst
    exact absurd (hopen.symm.trans (hg.root (rootFailed_eq_true.mpr ⟨root, hroot, hst⟩)))
      Bool.false_ne_true
  · exact absurd (hopen.symm.trans (hg.stopped ho)) Bool.false_ne_true

/-- Above a node that may still have children there is at most the root. -/
lemma root_of_above_shallow (hs : Shape x t) {n : RecursiveNode} (hn : n ∈ t.nodes.rows)
    (hd : n.depth ≤ 1) (h : t.Above a n.nodeId) : a = t.rootNodeId := by
  have hchild : ∀ {m : RecursiveNode} {q}, m ∈ t.nodes.rows → t.parentOf m.nodeId = some q →
      ∃ r ∈ t.nodes.rows, r.nodeId = q ∧ m.depth = r.depth + 1 := by
    intro m q hm hq
    rw [parentOf_mem hm] at hq
    obtain ⟨q', r, hq', hr, hdepth, -⟩ :=
      exists_parent hs hm ((hs.parent_isSome_iff hm).mp (by rw [hq]; rfl))
    cases hq.symm.trans hq'
    exact ⟨r, mem_of_find? hr, key_of_find? hr, hdepth⟩
  cases h with
  | parent h =>
    obtain ⟨r, hr, rfl, hdepth⟩ := hchild hn h
    by_contra hne
    obtain ⟨q, m, -, -, hm, -⟩ := exists_parent hs hr hne
    omega
  | up h hup =>
    obtain ⟨r, hr, rfl, hdepth⟩ := hchild hn h
    obtain ⟨q, hq⟩ := isSome_iff_exists.mp hup.parent_isSome
    obtain ⟨r', -, -, hdepth'⟩ := hchild hr hq
    omega

lemma guarded_admit {env : RecursiveEnv} (hs : Shape x t) (hs' : Shape x u) (hg : t.Guarded)
    (h : treeOf (t.admitChild x env proposal) = .ok u)
    (halive : (t.nodes.find? proposal.parentNodeId).all (·.status ≠ .failed) = true) :
    u.Guarded := by
  obtain ⟨admission, h⟩ := treeOf_eq_ok.mp h
  obtain ⟨parent, hp, ha, -, rfl⟩ := admitChild_eq_ok h
  rw [hp, all_some, decide_eq_true_eq] at halive
  have hid : parent.nodeId = proposal.parentNodeId := key_of_find? hp
  rw [← hid] at hp
  refine guarded_admitUnder hs hs' hg ha hp halive fun a harow habove hbad => ?_
  have hroot := root_of_above_shallow hs (mem_of_find? hp) (Nat.le_of_lt_succ ha.depth_lt) habove
  have hfind := t.nodes.find?_key harow
  rw [hroot] at hfind
  have hc := hg.root (rootFailed_eq_true.mpr ⟨a, hfind, hbad⟩)
  rw [ha.running] at hc
  cases hc

end Admission

end RecursiveTree

open RecursiveTree

variable {x : Externals} {t t' : RecursiveTree}

/-- The store settles a child as a child and the root as the root. -/
def Transaction.Proper (t : RecursiveTree) : Transaction → Prop
  | settle _ nodeId _ _ _ _ _ => nodeId ≠ t.rootNodeId
  | _ => True

/-- A child is admitted under a parent that has not failed. -/
def Transaction.ParentAlive (t : RecursiveTree) : Transaction → Prop
  | admitChild _ proposal => (t.nodes.find? proposal.parentNodeId).all (·.status ≠ .failed) = true
  | _ => True

lemma RecursiveTree.Guarded.step (tx : Transaction) (hg : t.Guarded)
    (hacc : t.validateTree x = .ok ()) (htx : tx.commit x t = .ok t')
    (hacc' : t'.validateTree x = .ok ()) (hproper : tx.Proper t) (halive : tx.ParentAlive t) :
    t'.Guarded := by
  have hs := (validateTree_eq_ok.mp hacc).1
  cases tx with
  | admitChild env proposal => exact guarded_admit hs (validateTree_eq_ok.mp hacc').1 hg htx halive
  | lease env k leaseId => exact guarded_lease hg htx
  | settle env k leaseId receiptId success retry usage =>
    obtain ⟨node, s, within, r, hn, hl, hrec, hr, rfl⟩ :=
      syncRecursiveCompletion_cases hacc hg hproper htx
    have hlive := not_terminal_of_lease (validateTree_eq_ok.mp hacc).2.1 (mem_of_find? hn) hl
    exact guarded_settle hs hg hproper hn hlive hrec hr
  | settleRoot leaseId receiptId success usage => exact guarded_settleRoot hg htx
  | recover env k leaseId early usage => exact guarded_recover hacc hacc' hg htx
  | pause =>
    cases htx
    exact guarded_pause hg
  | resume =>
    cases htx
    exact guarded_resume hg
  | setPaused paused terminalReason =>
    cases htx
    exact guarded_setPaused hg

lemma guarded_freshRoot {rootRunId workflowId nodeId objective agentId receipt : String}
    {authority : RecursiveRootAuthority} {boundaries : RunBoundaries} :
    (freshRoot x rootRunId workflowId nodeId objective agentId receipt authority
      boundaries).Guarded := by
  have hone : ∀ n ∈ (freshRoot x rootRunId workflowId nodeId objective agentId receipt authority
      boundaries).nodes.rows, n.parentNodeId = none ∧ n.status = .ready := by
    intro n hn
    obtain rfl := List.mem_singleton.mp hn
    exact ⟨rfl, rfl⟩
  refine ⟨fun n _ _ a ha _ hf => ?_, fun hc => (Bool.false_ne_true hc).elim, fun hf => ?_, fun ho => ?_⟩
  · rw [(hone a ha).2] at hf
    cases hf
  · obtain ⟨r, hr, hst⟩ := rootFailed_eq_true.mp hf
    rw [(hone r (mem_of_find? hr)).2] at hst
    cases hst
  · cases ho

/-- In every run of the store in which each child is admitted under a parent that has not
failed, no live node is below a failed one. -/
theorem no_live_below_failed (x : Externals) (t : RecursiveTree)
    (h : Reach x (fun t tx t' => t'.validateTree x = .ok () ∧ tx.Proper t ∧ tx.ParentAlive t) t) :
    ∀ n ∈ t.nodes.rows, n.status = .ready ∨ n.status = .leased →
      ∀ a ∈ t.nodes.rows, t.Above a.nodeId n.nodeId → a.status ≠ .failed := by
  have hinv : t.validateTree x = .ok () ∧ t.Guarded := by
    refine h.invariant (I := fun t => t.validateTree x = .ok () ∧ t.Guarded)
      (fun _ _ _ _ _ _ _ _ hacc => ⟨hacc, guarded_freshRoot⟩) ?_
    intro t tx t' ih htx hp
    exact ⟨hp.1, ih.2.step _ ih.1 htx hp.1 hp.2.1 hp.2.2⟩
  intro n hn hst
  refine hinv.2.sheltered n hn ?_
  rcases hst with hst | hst <;> rw [live, hst] <;> rfl

lemma validateTree_sampleAdmitted :
    (sampleRoot.admitChild sampleExternals sampleEnv sampleProposal).2.validateTree
        sampleExternals = .ok () := by rfl

/-- A run of the store: every tree it saves is accepted, and children settle as children. -/
theorem no_live_below_failed_sample :
    Reach sampleExternals (fun t tx t' => t'.validateTree sampleExternals = .ok () ∧ tx.Proper t ∧
        tx.ParentAlive t) sampleLeased ∧
      ∀ a ∈ sampleLeased.nodes.rows, sampleLeased.Above a.nodeId sampleChildId →
        a.status ≠ .failed := by
  have hrun : Reach sampleExternals (fun t tx t' => t'.validateTree sampleExternals = .ok () ∧
      tx.Proper t ∧ tx.ParentAlive t) sampleLeased := by
    refine .sampleLeased ⟨validateTree_sampleAdmitted, trivial, ?_⟩
      ⟨validateTree_sampleLeased, trivial, trivial⟩
    rfl
  refine ⟨hrun, ?_⟩
  have hmem : sampleWorker ∈ sampleLeased.nodes.rows := mem_of_find? find?_sampleWorker
  exact no_live_below_failed sampleExternals sampleLeased hrun sampleWorker hmem (.inr rfl)

/-- The second proposal, made by the executor of the first child. -/
def lateProposal : RecursiveProposal :=
  { sampleSecond with parentNodeId := sampleChildId, parentVersion := 3 }

/-- The small run after its child's lease went stale with no attempt left. -/
def sampleStale : RecursiveTree :=
  (sampleLeased.recoveredTree sampleChildId "lease-1" false).closeOut sampleChildId
    (some sampleChildId)

/-- The child failed when its lease went stale. Its executor comes back and proposes a child:
the tree still runs, the proposal is admitted, and its node is leased. -/
theorem admitted_below_failed_sample :
    ∃ t, Reach sampleExternals (fun t tx t' => t'.validateTree sampleExternals = .ok () ∧
        tx.Proper t) t ∧ t.executionState = .running ∧
      ∃ n ∈ t.nodes.rows, n.status = .leased ∧
        ∃ a ∈ t.nodes.rows, t.Above a.nodeId n.nodeId ∧ a.status = .failed := by
  have hstale : (Transaction.recover sampleEnv sampleChildId "lease-1" false .zero).commit
      sampleExternals sampleLeased = .ok sampleStale := by rfl
  have hlate : (Transaction.admitChild sampleEnv lateProposal).commit sampleExternals sampleStale =
      .ok (sampleStale.admitChild sampleExternals sampleEnv lateProposal).2 := by rfl
  have hsecond : (Transaction.lease sampleEnv sampleSecondId "lease-2").commit sampleExternals
      (sampleStale.admitChild sampleExternals sampleEnv lateProposal).2 =
      .ok ((sampleStale.admitChild sampleExternals sampleEnv lateProposal).2.leasedTree
        sampleSecondId "lease-2") := by rfl
  have hrun := Reach.sampleLeased (p := fun t tx t' => t'.validateTree sampleExternals = .ok () ∧
    tx.Proper t) ⟨validateTree_sampleAdmitted, trivial⟩ ⟨validateTree_sampleLeased, trivial⟩
  refine ⟨_, .step (.step (.step hrun hstale ⟨?_, trivial⟩) hlate ⟨?_, trivial⟩) hsecond
    ⟨?_, trivial⟩, ?_, ?_⟩
  case refine_5 =>
    obtain ⟨n, hn, hleased, hpar⟩ : ∃ n ∈ ((sampleStale.admitChild sampleExternals sampleEnv
        lateProposal).2.leasedTree sampleSecondId "lease-2").nodes.rows, n.status = .leased ∧
        n.parentNodeId = some sampleChildId := of_decide_eq_true rfl
    obtain ⟨a, ha, hfailed, hid⟩ : ∃ a ∈ ((sampleStale.admitChild sampleExternals sampleEnv
        lateProposal).2.leasedTree sampleSecondId "lease-2").nodes.rows, a.status = .failed ∧
        a.nodeId = sampleChildId := of_decide_eq_true rfl
    refine ⟨n, hn, hleased, a, ha, .parent ?_, hfailed⟩
    rw [parentOf_mem hn, hid]
    exact hpar
  all_goals rfl

end Harness
