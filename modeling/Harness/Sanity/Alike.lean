import Harness.Spec.TreeStore

/-! Two trees are alike when they differ in their budget counters and version
numbers only. Most operations either keep a tree alike or do the same to alike
trees, so what a composition does to statuses, leases and receipts can be read
off without its accounting. -/

namespace Harness

open Lib List Table RecursiveNode RecursiveTree

def RecursiveNode.shell (n : RecursiveNode) : RecursiveNode :=
  { n with
    budget := .zero
    childBudget := .zero
    reservation := .zero
    actualUsage := .zero
    version := 0 }

def shellNodes (nodes : NodeTable) : NodeTable := nodes.map shell

variable {table : NodeTable}

lemma rows_shellNodes :
    (shellNodes table).rows = table.rows.map shell := rfl

variable {k : String}

lemma find?_shellNodes :
    (shellNodes table).find? k = (table.find? k).map shell :=
  find?_map _ _ _

lemma shellNodes_modify {f : RecursiveNode → RecursiveNode}
    {hf : ∀ n, (f n).nodeId = n.nodeId} (h : ∀ n, (f n).shell = n.shell) :
    shellNodes (table.modify k f hf) = shellNodes table := by
  ext1
  rw [rows_shellNodes, rows_shellNodes, map_modify _ _ _ _ fun n _ => h n]

namespace RecursiveTree

/-- A tree without its counters. -/
def shell (t : RecursiveTree) : RecursiveTree :=
  { t with
    nodes := shellNodes t.nodes
    rootBudget := .zero
    spentBudget := .zero
    reservedBudget := .zero
    version := 0 }

def Alike (t s : RecursiveTree) : Prop := t.shell = s.shell

variable {t s u : RecursiveTree}

lemma Alike.refl (t : RecursiveTree) : Alike t t := rfl

lemma Alike.symm (h : Alike t s) : Alike s t := Eq.symm h

lemma Alike.trans (h : Alike t s) (h' : Alike s u) : Alike t u := Eq.trans h h'

/-- Alike trees agree on whatever a tree shares with its shell. -/
lemma Alike.agree {α : Type} (h : Alike t s) (f : RecursiveTree → α)
    (hf : ∀ r : RecursiveTree, f r.shell = f r) : f t = f s := by
  rw [← hf t, ← hf s, show t.shell = s.shell from h]

lemma Alike.nodes (h : Alike t s) : shellNodes t.nodes = shellNodes s.nodes := by
  have h' : t.shell = s.shell := h
  exact congrArg RecursiveTree.nodes h'

lemma Alike.rows (h : Alike t s) :
    t.nodes.rows.map RecursiveNode.shell = s.nodes.rows.map RecursiveNode.shell :=
  congrArg Table.rows h.nodes

lemma Alike.executionState (h : Alike t s) : t.executionState = s.executionState :=
  h.agree _ fun _ => rfl

lemma Alike.usageReceipts (h : Alike t s) : t.usageReceipts = s.usageReceipts :=
  h.agree _ fun _ => rfl

lemma Alike.find? (h : Alike t s) (k : String) :
    (t.nodes.find? k).map RecursiveNode.shell = (s.nodes.find? k).map RecursiveNode.shell := by
  rw [← find?_shellNodes, ← find?_shellNodes, h.nodes]

variable {ids : List String} {reason : RecursiveFailureReason} {n : RecursiveNode}
  {p : RecursiveNode → Bool} {k : String}

/-- Every node has its counterpart. -/
lemma Alike.exists_row (h : Alike t s) (hn : n ∈ t.nodes.rows) :
    ∃ m ∈ s.nodes.rows, m.shell = n.shell := by
  have : n.shell ∈ s.nodes.rows.map RecursiveNode.shell := by
    rw [← h.rows]
    exact mem_map_of_mem hn
  exact mem_map.mp this

lemma Alike.exists_find? (h : Alike t s) (hn : t.nodes.find? k = some n) :
    ∃ m, s.nodes.find? k = some m ∧ m.shell = n.shell := by
  have := h.find? k
  rw [hn, Option.map_some, eq_comm, Option.map_eq_some_iff] at this
  exact this

/-- What is true of one row of a tree after reading its shell only. -/
lemma Alike.forall_rows (h : Alike t s) {p : RecursiveNode → Prop}
    (hp : ∀ n, p n.shell ↔ p n) : (∀ n ∈ t.nodes.rows, p n) ↔ ∀ n ∈ s.nodes.rows, p n := by
  have key : ∀ r : RecursiveTree, (∀ n ∈ r.nodes.rows, p n) ↔
      ∀ n ∈ r.nodes.rows.map RecursiveNode.shell, p n := by
    intro r
    simp [hp]
  rw [key, h.rows, ← key]

lemma alike_of_nodes (h : shellNodes table = shellNodes t.nodes)
    {free spent reserved : RecursiveBudget} {version : ℕ} :
    Alike { t with
      nodes := table, rootBudget := free, spentBudget := spent, reservedBudget := reserved,
      version := version } t := by
  simp [Alike, shell, h]

lemma alike_bumpVersion : Alike t.bumpVersion t := rfl

lemma alike_bumpNode (k : String) : Alike (t.bumpNode k) t := by
  refine alike_of_nodes ?_
  exact shellNodes_modify fun _ => rfl

lemma alike_chargeNode (k : String) (usage : RecursiveBudget) : Alike (t.chargeNode k usage) t := by
  refine alike_of_nodes ?_
  exact shellNodes_modify fun _ => rfl

lemma alike_chargeRoot (usage : RecursiveBudget) : Alike (t.chargeRoot usage) t := by
  refine alike_of_nodes ?_
  exact shellNodes_modify fun _ => rfl

lemma alike_release (t : RecursiveTree) (k : String) :
    Alike (t.releaseNodeReservationForPersistence k) t := by
  unfold releaseNodeReservationForPersistence
  cases t.nodes.find? k with
  | none => exact Alike.refl t
  | some node =>
    refine alike_of_nodes ?_
    cases node.parentNodeId with
    | none => exact shellNodes_modify fun _ => rfl
    | some p =>
      refine Eq.trans (shellNodes_modify ?_) (shellNodes_modify ?_)
      · exact fun _ => rfl
      · exact fun _ => rfl

lemma alike_foldl_release : Alike (ids.foldl releaseNodeReservationForPersistence t) t := by
  induction ids generalizing t with
  | nil => exact Alike.refl t
  | cons k ids ih => exact ih.trans (alike_release t k)

lemma find?_endAttempt (hn : t.nodes.find? k = some n) (leaseId : String) (completed : Bool)
    (reason : Option RecursiveFailureReason) :
    (t.endAttempt k leaseId completed reason).nodes.find? k = some (n.finish completed reason) := by
  unfold endAttempt
  rw [find?_modify, if_pos rfl, hn]
  rfl

variable (t reason) in
/-- Close the nodes that satisfy `q`, all at once. -/
def failWhere (q : RecursiveNode → Bool) : RecursiveTree :=
  { t with
    nodes := t.nodes.map fun n => if q n then n.fail reason else n
    activeLeases := t.activeLeases.filter fun l =>
      ¬∃ n ∈ t.nodes.rows, q n = true ∧ n.leaseId = some l }

lemma failNode_eq_failWhere : failNode reason t k = t.failWhere reason fun n => n.nodeId = k := by
  unfold failNode failWhere
  cases h : t.nodes.find? k with
  | none =>
    have hne := t.nodes.find?_eq_none.mp h
    have h1 : (t.nodes.map fun n => if decide (n.nodeId = k) then n.fail reason else n) =
        t.nodes := by
      ext1
      refine (map_congr_left fun n hn => ?_).trans (map_id _)
      simp [hne n hn]
    have h2 : (t.activeLeases.filter fun l =>
        ¬∃ n ∈ t.nodes.rows, decide (n.nodeId = k) = true ∧ n.leaseId = some l) = t.activeLeases := by
      rw [Finset.filter_true_of_mem]
      rintro l - ⟨n, hn, hk, -⟩
      exact hne n hn (by simpa using hk)
    simp only [h1, h2]
  | some node =>
    obtain ⟨hm, rfl⟩ := t.nodes.find?_eq_some.mp h
    have h1 : (t.nodes.modify node.nodeId fun n => n.fail reason) =
        t.nodes.map fun n => if decide (n.nodeId = node.nodeId) then n.fail reason else n := by
      ext1
      exact map_congr_left fun n _ => by simp only [decide_eq_true_eq]
    have h2 : node.leaseId.elim t.activeLeases t.activeLeases.erase =
        t.activeLeases.filter fun l =>
          ¬∃ n ∈ t.nodes.rows, decide (n.nodeId = node.nodeId) = true ∧ n.leaseId = some l := by
      ext l
      rw [Finset.mem_filter]
      have : (∃ n ∈ t.nodes.rows, decide (n.nodeId = node.nodeId) = true ∧ n.leaseId = some l) ↔
          node.leaseId = some l := by
        constructor
        · rintro ⟨n, hn, hk, hl⟩
          rwa [← t.nodes.eq_of_key_eq hn hm (by simpa using hk)]
        · exact fun hl => ⟨node, hm, by simp, hl⟩
      rw [this]
      cases hl : node.leaseId with
      | none => simp
      | some l' => simp [eq_comm, and_comm]
    simp only [h1, h2]

lemma failWhere_failWhere (hk : k ∉ ids) :
    (t.failWhere reason fun n => n.nodeId = k).failWhere reason (fun n => n.nodeId ∈ ids) =
      t.failWhere reason fun n => n.nodeId ∈ k :: ids := by
  have hid : ∀ n : RecursiveNode, (if decide (n.nodeId = k) then n.fail reason else n).nodeId =
      n.nodeId := by
    intro n
    split_ifs <;> rfl
  have h1 : ∀ n : RecursiveNode,
      (if decide ((if decide (n.nodeId = k) then n.fail reason else n).nodeId ∈ ids) then
        (if decide (n.nodeId = k) then n.fail reason else n).fail reason
        else if decide (n.nodeId = k) then n.fail reason else n) =
      if decide (n.nodeId ∈ k :: ids) then n.fail reason else n := by
    intro n
    rw [hid]
    by_cases h : n.nodeId = k
    · simp [h, hk]
    · by_cases h' : n.nodeId ∈ ids <;> simp [h, h']
  unfold failWhere
  simp only [mk.injEq, true_and, and_true]
  constructor
  · ext1
    simp only [rows_map, map_map]
    exact map_congr_left fun n _ => h1 n
  · ext l
    rw [Finset.mem_filter, Finset.mem_filter, Finset.mem_filter, and_assoc]
    refine and_congr_right fun _ => ?_
    rw [← not_or, not_iff_not]
    constructor
    · rintro (⟨n, hn, he, hlease⟩ | ⟨n', hn', he, hlease⟩)
      · exact ⟨n, hn, by simpa using .inl (of_decide_eq_true he), hlease⟩
      · obtain ⟨n, hn, rfl⟩ := mem_map.mp hn'
        split_ifs at he hlease with hnk
        · cases hlease
        · exact ⟨n, hn, by simpa using .inr (of_decide_eq_true he), hlease⟩
    · rintro ⟨n, hn, he, hlease⟩
      by_cases hnk : n.nodeId = k
      · exact .inl ⟨n, hn, decide_eq_true hnk, hlease⟩
      · refine .inr ⟨n, mem_map.mpr ⟨n, hn, by simp [hnk]⟩, ?_, hlease⟩
        simpa [hnk] using he

lemma foldl_failNode (hnd : ids.Nodup) :
    ids.foldl (failNode reason) t = t.failWhere reason fun n => n.nodeId ∈ ids := by
  induction ids generalizing t with
  | nil => simp [failWhere, Table.map]
  | cons k ids ih =>
    rw [foldl_cons, ih (nodup_cons.mp hnd).2, failNode_eq_failWhere,
      failWhere_failWhere (nodup_cons.mp hnd).1]

lemma liveIds_nodup (t : RecursiveTree) : (t.liveIds p).Nodup :=
  (t.nodes.keys_nodup).sublist (filter_sublist.map _)

lemma mem_liveIds (t : RecursiveTree) (hn : n ∈ t.nodes.rows) :
    n.nodeId ∈ t.liveIds p ↔ (n.live && p n) = true := by
  simp only [liveIds, mem_map, mem_filter]
  constructor
  · rintro ⟨m, ⟨hm, hp⟩, hid⟩
    rwa [← t.nodes.eq_of_key_eq hm hn hid]
  · exact fun h => ⟨n, ⟨hn, h⟩, rfl⟩

lemma failWhere_congr (t : RecursiveTree) {q : RecursiveNode → Bool}
    (h : ∀ n ∈ t.nodes.rows, p n = q n) : t.failWhere reason p = t.failWhere reason q := by
  unfold failWhere
  simp only [mk.injEq, true_and, and_true]
  constructor
  · ext1
    exact map_congr_left fun n hn => by rw [h n hn]
  · refine Finset.filter_congr fun l _ => not_congr ?_
    constructor
    · rintro ⟨n, hn, hp, hl⟩
      exact ⟨n, hn, by rwa [← h n hn], hl⟩
    · rintro ⟨n, hn, hp, hl⟩
      exact ⟨n, hn, by rwa [h n hn], hl⟩

variable (t reason p) in
/-- Closing the live nodes that satisfy `p` is, but for counters, closing them at once. -/
lemma alike_closeNodes :
    Alike (t.closeNodes reason (t.liveIds p)) (t.failWhere reason fun n => n.live && p n) := by
  refine alike_foldl_release.trans ?_
  rw [foldl_failNode t.liveIds_nodup, t.failWhere_congr fun n hn => ?_]
  · exact Alike.refl _
  · rw [Bool.eq_iff_iff, decide_eq_true_eq]
    exact t.mem_liveIds hn

end RecursiveTree

end Harness
