import Harness.Sanity.Control
import Harness.Sanity.Frozen

/-! `Sound` is what the validator checks together with the two facts it does not
check and every transaction keeps: leases are not shared, and every reservation
can be returned. -/

namespace Harness

open Lib List

variable {n : RecursiveNode} {k : String}

/-- What an accepted tree keeps beyond its checks. -/
structure Kept (t : RecursiveTree) : Prop where
  unique : ∀ n ∈ t.nodes.rows, ∀ m ∈ t.nodes.rows, ∀ l,
    n.leaseId = some l → m.leaseId = some l → n.nodeId = m.nodeId
  room : ∀ d, (t.ledger d).Room

structure Sound (x : Externals) (t : RecursiveTree) : Prop where
  shape : Shape x t
  leases : t.LeasesOk
  receipts : ReceiptShape t
  books : ∀ d, (t.ledger d).Balanced t.recordedOverrun [] 0

lemma bounded_ledger {t : RecursiveTree} {d : Dim} : (t.ledger d).Bounded where
  limit_le := RecursiveBudget.amount_le _ d
  account a ha := by
    obtain ⟨n, -, rfl⟩ := mem_map.mp ha
    exact ⟨RecursiveBudget.amount_le _ d, RecursiveBudget.amount_le _ d,
      RecursiveBudget.amount_le _ d⟩

variable {x : Externals} {t : RecursiveTree}

lemma Sound.of_accepted (h : t.validateTree x = .ok ()) (hk : Kept t) : Sound x t := by
  obtain ⟨hs, hl, hr, hc⟩ := RecursiveTree.validateTree_eq_ok.mp h
  exact ⟨hs, .of_index hl hk.unique, hr,
    fun d => .of_checked (hc d) (hk.room d) bounded_ledger⟩

lemma Sound.accepted (h : Sound x t) : t.validateTree x = .ok () :=
  RecursiveTree.validateTree_eq_ok.mpr
    ⟨h.shape, h.leases.index, h.receipts, fun d => (h.books d).checked⟩

/-- The root is the one node without a parent. -/
lemma Shape.parent_isSome_iff (h : Shape x t) (hn : n ∈ t.nodes.rows) :
    n.parentNodeId.isSome = true ↔ n.nodeId ≠ t.rootNodeId := by
  constructor
  · intro hp hr
    have hroot := h.root
    have hfind : t.nodes.find? t.rootNodeId = some n := by
      rw [← hr]
      exact t.nodes.find?_key hn
    simp only [RecursiveTree.validateRoot, hfind, refuse_eq_ok, Bool.or_eq_false_iff] at hroot
    rw [hroot.1.1.1.1.1.2] at hp
    cases hp
  · exact (h.node n hn).child

namespace RecursiveTree

section Books

variable {d : Dim} {excess : Bool} {pending : List String} {slack : ℕ}

lemma exists_account (h : t.nodes.find? k = some n) :
    (t.ledger d).accounts.find? k = some (n.account t.rootNodeId d) := by
  rw [find?_accounts, h]
  rfl

lemma books_closeNodes (h : (t.ledger d).Balanced excess pending slack)
    (reason : RecursiveFailureReason) (p : RecursiveNode → Bool) :
    ((t.closeNodes reason (t.liveIds p)).ledger d).Balanced excess pending slack := by
  rw [ledger_closeNodes]
  refine h.closeAll _ fun k hk => ?_
  obtain ⟨n, hn, rfl⟩ := mem_map.mp hk
  exact ⟨_, exists_account (t.nodes.find?_key (mem_filter.mp hn).1)⟩

lemma books_terminalize (h : (t.ledger d).Balanced excess pending slack)
    {exceptNodeId : Option String} {reason : RecursiveFailureReason} :
    ((t.terminalizeRemainingNodes exceptNodeId reason).ledger d).Balanced excess pending slack := by
  have hc := books_closeNodes h reason fun n =>
    n.parentNodeId.isSome && some n.nodeId ≠ exceptNodeId
  unfold terminalizeRemainingNodes remainingNodes
  simp only
  split_ifs
  · exact hc
  · exact hc

lemma books_exhaust (h : (t.ledger d).Balanced excess pending slack) (k : String) :
    ((t.exhaust k).ledger d).Balanced excess pending slack := by
  have h' : (({ t with executionState := .budgetExhausted } : RecursiveTree).ledger d).Balanced
    excess pending slack := h
  exact books_terminalize h'

lemma ledger_finalizeVerdict : t.finalizeVerdict.ledger d = t.ledger d := by
  unfold finalizeVerdict
  split_ifs <;> rfl

lemma books_finalize (h : (t.ledger d).Balanced excess pending slack) (failed : Option String) :
    ((t.finalizeTerminalTree failed).ledger d).Balanced excess pending slack := by
  unfold finalizeTerminalTree
  split_ifs
  · exact h
  · cases failed with
    | none =>
      rw [ledger_finalizeVerdict]
      exact h
    | some k =>
      rw [ledger_finalizeVerdict]
      exact books_closeNodes h _ _

end Books

/-! What closing leaves of the nodes it does not close. -/

/-- The node up to what closing its children may change. -/
def Untouched (n m : RecursiveNode) : Prop :=
  ∃ c v, m = { n with childBudget := c, version := v }

lemma Untouched.refl (n : RecursiveNode) : Untouched n n := ⟨n.childBudget, n.version, rfl⟩

lemma Untouched.trans {m r : RecursiveNode} (h : Untouched n m) (h' : Untouched m r) :
    Untouched n r := by
  obtain ⟨c, v, rfl⟩ := h
  obtain ⟨c', v', rfl⟩ := h'
  exact ⟨c', v', rfl⟩

variable {excess : Bool} {d : Dim} {ids : List String} {failed exceptNodeId : Option String}
  {state : RecursiveExecutionState} {reason : RecursiveFailureReason} {node : RecursiveNode}
  {p : RecursiveNode → Bool} {s : RecursiveTree} {j : String} {slack : ℕ}

/-- A release takes the reservation from its own node; what else changes is what a node's
children have left. -/
lemma find?_release (hn : t.nodes.find? k = some n) :
    ∃ m, (t.releaseNodeReservationForPersistence j).nodes.find? k = some m ∧
      Untouched (if k = j then { n with reservation := .zero } else n) m := by
  unfold releaseNodeReservationForPersistence
  cases hj : t.nodes.find? j with
  | none =>
    rw [if_neg (by rintro rfl; rw [hn] at hj; cases hj)]
    exact ⟨n, hn, .refl n⟩
  | some node =>
    have h1 : (t.nodes.modify j fun n => { n with reservation := .zero }).find? k =
        some (if k = j then { n with reservation := .zero } else n) := by
      rw [Table.find?_modify, hn]
      split_ifs <;> rfl
    generalize (if k = j then { n with reservation := .zero } else n) = m at h1 ⊢
    dsimp only
    cases node.parentNodeId with
    | none => exact ⟨m, h1, .refl m⟩
    | some p =>
      rw [Table.find?_modify, h1]
      split_ifs
      · exact ⟨_, rfl, _, _, rfl⟩
      · exact ⟨m, rfl, .refl m⟩

lemma find?_failNode_ne (hjk : k ≠ j) : (failNode reason t j).nodes.find? k = t.nodes.find? k := by
  unfold failNode
  cases t.nodes.find? j with
  | none => rfl
  | some node =>
    rw [Table.find?_modify, if_neg hjk]

lemma find?_closeNodes (hk : k ∉ ids) (hn : t.nodes.find? k = some n) :
    ∃ m, (t.closeNodes reason ids).nodes.find? k = some m ∧ Untouched n m := by
  have hfail : (ids.foldl (failNode reason) t).nodes.find? k = some n := by
    induction ids generalizing t with
    | nil => exact hn
    | cons j ids ih =>
      rw [mem_cons, not_or] at hk
      exact ih hk.2 (by rw [find?_failNode_ne hk.1, hn])
  have hrel : ∀ s : RecursiveTree, ∀ n, s.nodes.find? k = some n →
      ∃ m, (ids.foldl releaseNodeReservationForPersistence s).nodes.find? k = some m ∧
        Untouched n m := by
    clear hfail hn
    induction ids with
    | nil => exact fun s n hn => ⟨n, hn, .refl n⟩
    | cons j ids ih =>
      intro s n hn
      rw [mem_cons, not_or] at hk
      obtain ⟨m, hm, hu⟩ := find?_release hn
      rw [if_neg hk.1] at hu
      obtain ⟨r, hr, hu'⟩ := ih hk.2 _ m hm
      exact ⟨r, hr, hu.trans hu'⟩
  exact hrel _ n hfail

lemma not_mem_liveIds (hn : t.nodes.find? k = some n) (h : (n.live && p n) = false) :
    k ∉ t.liveIds p := by
  obtain ⟨hm, rfl⟩ := t.nodes.find?_eq_some.mp hn
  rw [t.mem_liveIds hm, h]
  exact Bool.false_ne_true

lemma find?_terminalize (hn : t.nodes.find? k = some n) :
    ∃ m, (t.terminalizeRemainingNodes (some k) reason).nodes.find? k = some m ∧ Untouched n m := by
  have hk : k ∉ t.remainingNodes (some k) := by
    refine not_mem_liveIds hn ?_
    obtain ⟨-, rfl⟩ := t.nodes.find?_eq_some.mp hn
    simp
  obtain ⟨m, hm, hu⟩ := find?_closeNodes hk hn
  refine ⟨m, ?_, hu⟩
  unfold terminalizeRemainingNodes
  simp only
  split_ifs
  · exact hm
  · exact hm

lemma find?_exhaust (hn : t.nodes.find? k = some n) :
    ∃ m, (t.exhaust k).nodes.find? k = some m ∧ Untouched n m :=
  find?_terminalize (t := { t with executionState := .budgetExhausted }) hn

lemma nodes_finalizeVerdict : t.finalizeVerdict.nodes = t.nodes := by
  unfold finalizeVerdict
  split_ifs <;> rfl

lemma find?_finalize (hn : t.nodes.find? k = some n) (ht : n.status.terminal = true) :
    ∃ m, (t.finalizeTerminalTree failed).nodes.find? k = some m ∧ Untouched n m := by
  unfold finalizeTerminalTree
  split_ifs
  · exact ⟨n, hn, .refl n⟩
  · cases failed with
    | none =>
      rw [nodes_finalizeVerdict]
      exact ⟨n, hn, .refl n⟩
    | some j =>
      rw [nodes_finalizeVerdict]
      exact find?_closeNodes (not_mem_liveIds hn (by simp [RecursiveNode.live, ht])) hn

def spending (t : RecursiveTree) : RecursiveBudget × List (String × RecursiveBudget) :=
  (t.spentBudget, t.nodes.rows.map fun n => (n.nodeId, n.actualUsage))

/-- Rewriting one node apart from what it used. -/
lemma spending_modify {f : RecursiveNode → RecursiveNode} (hs : s.spentBudget = t.spentBudget)
    (hn : s.nodes.rows = t.nodes.rows.map fun n => if n.nodeId = k then f n else n)
    (h : ∀ n, (f n).nodeId = n.nodeId ∧ (f n).actualUsage = n.actualUsage) :
    s.spending = t.spending := by
  unfold spending
  rw [hs, hn, map_map]
  congr 1
  refine map_congr_left fun n _ => ?_
  by_cases hk : n.nodeId = k <;> simp [hk, h n]

lemma spending_release : (t.releaseNodeReservationForPersistence k).spending = t.spending := by
  unfold releaseNodeReservationForPersistence
  cases t.nodes.find? k with
  | none => rfl
  | some node =>
    have h1 : ({ t with nodes := t.nodes.modify k fun n => { n with reservation := .zero } } :
        RecursiveTree).spending = t.spending := spending_modify rfl rfl fun _ => ⟨rfl, rfl⟩
    rw [← h1]
    dsimp only
    cases node.parentNodeId with
    | none => rfl
    | some p => exact spending_modify rfl rfl fun _ => ⟨rfl, rfl⟩

lemma spending_failNode : (failNode reason t k).spending = t.spending := by
  unfold failNode
  cases t.nodes.find? k with
  | none => rfl
  | some node => exact spending_modify rfl rfl fun _ => ⟨rfl, rfl⟩

lemma spending_closeNodes : (t.closeNodes reason ids).spending = t.spending := by
  have hfold : ∀ (f : RecursiveTree → String → RecursiveTree)
      (_ : ∀ s k, (f s k).spending = s.spending) (s : RecursiveTree),
      (ids.foldl f s).spending = s.spending := by
    intro f hf
    induction ids with
    | nil => exact fun s => rfl
    | cons k ids ih => exact fun s => (ih (f s k)).trans (hf s k)
  unfold closeNodes
  rw [hfold _ fun _ _ => spending_release, hfold _ fun s k => spending_failNode]

lemma spending_terminalize :
    (t.terminalizeRemainingNodes exceptNodeId reason).spending = t.spending := by
  unfold terminalizeRemainingNodes
  dsimp only
  split_ifs <;> exact spending_closeNodes

lemma spending_exhaust : (t.exhaust k).spending = t.spending :=
  spending_terminalize

lemma leasesOk_closeNodes (h : t.LeasesOk) : (t.closeNodes reason (t.liveIds p)).LeasesOk :=
  (h.failWhere reason _).congr (alike_closeNodes t reason p)

variable (t reason p) in
lemma sameShape_closeNodes : SameShape (t.closeNodes reason (t.liveIds p)) t :=
  (alike_closeNodes t reason p).sameShape.trans sameShape_failWhere

lemma alike_terminalize :
    Alike (t.terminalizeRemainingNodes exceptNodeId reason) (t.failWhere reason fun n =>
      n.live && (n.parentNodeId.isSome && some n.nodeId ≠ exceptNodeId)) := by
  have hc := alike_closeNodes t reason fun n =>
    n.parentNodeId.isSome && some n.nodeId ≠ exceptNodeId
  unfold terminalizeRemainingNodes remainingNodes
  simp only
  split_ifs
  · exact hc
  · exact alike_bumpVersion.trans hc

lemma alike_exhaust (k : String) :
    Alike (t.exhaust k)
      ({ t with executionState := .budgetExhausted }.failWhere .treeBudgetExhausted fun n =>
        n.live && (n.parentNodeId.isSome && some n.nodeId ≠ some k)) :=
  alike_terminalize

lemma alike_finalizeVerdict_state :
    ∃ state, Alike t.finalizeVerdict { t with executionState := state } := by
  unfold finalizeVerdict
  split_ifs
  · exact ⟨.completed, rfl⟩
  · exact ⟨.terminalFailed, rfl⟩
  · exact ⟨t.executionState, rfl⟩

/-- Every node `terminalize_remaining_nodes` reaches ends terminal. -/
lemma terminal_terminalize (t : RecursiveTree) :
    ∀ n ∈ (t.terminalizeRemainingNodes exceptNodeId reason).nodes.rows,
      n.parentNodeId.isSome = true → some n.nodeId ≠ exceptNodeId → n.status.terminal = true := by
  rw [alike_terminalize.forall_rows (p := fun n =>
    n.parentNodeId.isSome = true → some n.nodeId ≠ exceptNodeId → n.status.terminal = true)
    fun n => Iff.rfl]
  intro m hm
  obtain ⟨n, -, rfl⟩ := mem_map.mp hm
  split_ifs with hq
  · exact fun _ _ => rfl
  · intro hp hne
    by_contra hs
    exact hq (by simp [RecursiveNode.live, hs, hp, hne])

/-- No child is left to run. -/
def Quiet (t : RecursiveTree) : Prop :=
  ∀ n ∈ t.nodes.rows, n.parentNodeId.isSome = true → n.status.terminal = true

lemma Quiet.congr (h : t.Quiet) (hs : Alike s t) : s.Quiet :=
  (hs.forall_rows (p := fun n => n.parentNodeId.isSome = true → n.status.terminal = true)
    fun _ => Iff.rfl).mpr h

lemma quiet_terminalize (h : ∀ n ∈ (t.terminalizeRemainingNodes exceptNodeId reason).nodes.rows,
      some n.nodeId = exceptNodeId → n.parentNodeId.isSome = true → n.status.terminal = true) :
    (t.terminalizeRemainingNodes exceptNodeId reason).Quiet := by
  intro n hn hp
  by_cases he : some n.nodeId = exceptNodeId
  · exact h n hn he hp
  · exact t.terminal_terminalize n hn hp he

/-- Sparing a node that is terminal spares nothing. -/
lemma quiet_terminalize_self (hn : t.nodes.find? k = some node) (ht : node.status.terminal = true)
    (reason : RecursiveFailureReason) : (t.terminalizeRemainingNodes (some k) reason).Quiet := by
  refine quiet_terminalize fun m hm he _ => ?_
  obtain ⟨r, hr, c, v, rfl⟩ := find?_terminalize hn
  have hk := (t.terminalizeRemainingNodes (some k) reason).nodes.find?_key hm
  rw [Option.some.inj he, hr] at hk
  cases hk
  exact ht

lemma quiet_exhaust (hn : t.nodes.find? k = some node) (ht : node.status.terminal = true) :
    (t.exhaust k).Quiet :=
  quiet_terminalize_self (t := { t with executionState := .budgetExhausted }) hn ht _

/-- The root and terminal nodes hold nothing. -/
lemma reservation_of_idle (h : (t.ledger d).Balanced excess [] slack) (hs : Shape x t)
    (hn : n ∈ t.nodes.rows) (hi : n.parentNodeId.isSome = true → n.status.terminal = true) :
    n.reservation.amount d = 0 := by
  have ha : n.account t.rootNodeId d ∈ (t.ledger d).accounts.rows := mem_map_of_mem hn
  refine ((h.account _ ha).held_eq not_mem_nil).trans (if_pos ?_)
  by_cases hr : n.nodeId = t.rootNodeId
  · exact .inl (by simpa [RecursiveNode.account] using hr)
  · exact .inr (hi ((hs.parent_isSome_iff hn).mpr hr))

lemma total_held_eq_zero (h : ∀ n ∈ t.nodes.rows, n.reservation.amount d = 0) :
    (t.ledger d).total Account.held = 0 := by
  rw [total_ledger, sum_eq_zero_iff]
  intro v hv
  obtain ⟨n, hn, rfl⟩ := mem_map.mp hv
  exact h n hn

/-- A quiet tree holds nothing. -/
lemma total_held_of_quiet (h : (t.ledger d).Balanced excess [] slack) (hs : Shape x t)
    (hq : t.Quiet) : (t.ledger d).total Account.held = 0 :=
  total_held_eq_zero fun n hn => reservation_of_idle h hs hn (hq n hn)

lemma leasesOk_state (h : t.LeasesOk) :
    ({ t with executionState := state } : RecursiveTree).LeasesOk :=
  h.with_state

lemma leasesOk_terminalize (h : t.LeasesOk) :
    (t.terminalizeRemainingNodes exceptNodeId reason).LeasesOk :=
  (h.failWhere reason _).congr alike_terminalize

lemma leasesOk_exhaust (h : t.LeasesOk) : (t.exhaust k).LeasesOk :=
  leasesOk_terminalize (leasesOk_state h)

lemma leasesOk_finalizeVerdict (h : t.LeasesOk) : t.finalizeVerdict.LeasesOk := by
  obtain ⟨state, ha⟩ := alike_finalizeVerdict_state
  exact (leasesOk_state h).congr ha

lemma finalize_of_closed (h : t.executionState.closed = true) :
    t.finalizeTerminalTree failed = t := by
  exact if_pos h

lemma leasesOk_finalize (h : t.LeasesOk) : (t.finalizeTerminalTree failed).LeasesOk := by
  unfold finalizeTerminalTree
  split_ifs
  · exact h
  · cases failed with
    | none => exact leasesOk_finalizeVerdict h
    | some k => exact leasesOk_finalizeVerdict (leasesOk_closeNodes h)

lemma sameShape_state : SameShape { t with executionState := state } t :=
  sameShape_of_nodes rfl

lemma sameShape_terminalize : SameShape (t.terminalizeRemainingNodes exceptNodeId reason) t :=
  alike_terminalize.sameShape.trans sameShape_failWhere

lemma sameShape_exhaust : SameShape (t.exhaust k) t :=
  sameShape_terminalize.trans sameShape_state

lemma sameShape_finalizeVerdict : SameShape t.finalizeVerdict t := by
  obtain ⟨state, ha⟩ := alike_finalizeVerdict_state
  exact ha.sameShape.trans sameShape_state

lemma sameShape_finalize : SameShape (t.finalizeTerminalTree failed) t := by
  unfold finalizeTerminalTree
  split_ifs
  · exact SameShape.refl t
  · cases failed with
    | none => exact sameShape_finalizeVerdict
    | some k => exact sameShape_finalizeVerdict.trans (sameShape_closeNodes t _ _)

end RecursiveTree

lemma Sound.bumpVersion (h : Sound x t) : Sound x t.bumpVersion :=
  ⟨RecursiveTree.shape_congr h.shape RecursiveTree.alike_bumpVersion.sameShape,
    h.leases.congr RecursiveTree.alike_bumpVersion, ⟨h.receipts.size_le, h.receipts.named⟩,
    h.books⟩

end Harness
