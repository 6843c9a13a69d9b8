import Harness.Sanity.ValidTree

/-! Leases and statuses through the operations: the lease index stays exact, and
closing operations leave no live node behind. -/

namespace Harness

open Lib List Option RecursiveNode

namespace RecursiveTree

variable {t s : RecursiveTree}

/-- The lease index is exact and no two nodes share a lease. -/
structure LeasesOk (t : RecursiveTree) : Prop where
  card_le : t.activeLeases.card ≤ maxRecursiveLeases
  leased : ∀ n ∈ t.nodes.rows, n.status = .leased ↔ n.leaseId.isSome
  active : ∀ l, l ∈ t.activeLeases ↔ ∃ n ∈ t.nodes.rows, n.leaseId = some l
  unique : ∀ n ∈ t.nodes.rows, ∀ m ∈ t.nodes.rows, ∀ l,
    n.leaseId = some l → m.leaseId = some l → n.nodeId = m.nodeId

lemma validateLease_eq_ok {n : RecursiveNode} :
    t.validateLease n = .ok () ↔
      (n.status = .leased ↔ n.leaseId.isSome) ∧ ∀ l, n.leaseId = some l → l ∈ t.activeLeases := by
  unfold validateLease
  cases hl : n.leaseId with
  | none => simp [refuse_eq_ok]
  | some l =>
    by_cases hs : n.status = .leased
    · simp [hs, refuse_eq_ok]
    · simp [hs]

lemma LeasesOk.index (h : LeasesOk t) : LeaseIndex t where
  card_le := h.card_le
  node n hn := validateLease_eq_ok.mpr ⟨h.leased n hn, fun l hl => (h.active l).mpr ⟨n, hn, hl⟩⟩
  held l hl := (h.active l).mp hl

lemma LeasesOk.of_index (h : LeaseIndex t)
    (hu : ∀ n ∈ t.nodes.rows, ∀ m ∈ t.nodes.rows, ∀ l,
      n.leaseId = some l → m.leaseId = some l → n.nodeId = m.nodeId) : LeasesOk t where
  card_le := h.card_le
  leased n hn := (validateLease_eq_ok.mp (h.node n hn)).1
  active l := ⟨h.held l, fun ⟨n, hn, hl⟩ => (validateLease_eq_ok.mp (h.node n hn)).2 l hl⟩
  unique := hu

lemma leasesOk_iff :
    LeasesOk t ↔
      t.activeLeases.card ≤ maxRecursiveLeases ∧
        (∀ n ∈ t.nodes.rows, n.status = .leased ↔ n.leaseId.isSome) ∧
        (∀ l, l ∈ t.activeLeases ↔ ∃ n ∈ t.nodes.rows, n.leaseId = some l) ∧
        (∀ n ∈ t.nodes.rows,
          ∀ m ∈ t.nodes.rows, ∀ l, n.leaseId = some l → m.leaseId = some l → n.nodeId = m.nodeId) :=
  ⟨fun h => ⟨h.1, h.2, h.3, h.4⟩, fun h => ⟨h.1, h.2.1, h.2.2.1, h.2.2.2⟩⟩

lemma leasesOk_shell : LeasesOk t.shell ↔ LeasesOk t := by
  simp only [leasesOk_iff, shell, rows_shellNodes, List.mem_map, exists_exists_and_eq_and,
    forall_exists_index, and_imp, forall_apply_eq_imp_iff₂]
  rfl

lemma LeasesOk.congr (h : LeasesOk t) (hs : Alike s t) : LeasesOk s := by
  rw [← leasesOk_shell, show s.shell = t.shell from hs, leasesOk_shell]
  exact h

/-- Receipts and the execution state are not part of the lease index. -/
lemma LeasesOk.with_state (h : LeasesOk t) {receipts : TextMap String}
    {state : RecursiveExecutionState} :
    LeasesOk { t with usageReceipts := receipts, executionState := state } :=
  ⟨h.1, h.2, h.3, h.4⟩

/-- Nodes that stop running give their leases back; the others keep theirs. -/
lemma LeasesOk.drop (h : LeasesOk t) (q : RecursiveNode → Bool) (f : RecursiveNode → RecursiveNode)
    (hf : ∀ n ∈ t.nodes.rows, q n = true → (f n).leaseId = none ∧ (f n).status ≠ .leased)
    (hs : s.nodes.rows = t.nodes.rows.map fun n => if q n then f n else n)
    (ha : ∀ l, l ∈ s.activeLeases ↔
      l ∈ t.activeLeases ∧ ¬∃ n ∈ t.nodes.rows, q n = true ∧ n.leaseId = some l) : LeasesOk s := by
  have hrow : ∀ m ∈ s.nodes.rows, m.leaseId = none ∧ m.status ≠ .leased ∨
      (m ∈ t.nodes.rows ∧ q m = false) := by
    intro m hm
    rw [hs] at hm
    obtain ⟨n, hn, rfl⟩ := mem_map.mp hm
    split_ifs with hq
    · exact .inl (hf n hn hq)
    · exact .inr ⟨hn, by simpa using hq⟩
  have hkeep : ∀ n ∈ t.nodes.rows, q n = false → n ∈ s.nodes.rows := by
    intro n hn hq
    rw [hs]
    exact mem_map.mpr ⟨n, hn, by simp [hq]⟩
  refine ⟨(Finset.card_le_card fun l hl => ((ha l).mp hl).1).trans h.card_le, fun m hm => ?_,
    fun l => ?_, fun n hn m hm l hln hlm => ?_⟩
  · rcases hrow m hm with ⟨h1, h2⟩ | ⟨h1, -⟩
    · simp [h1, h2]
    · exact h.leased m h1
  · rw [ha, h.active]
    constructor
    · rintro ⟨⟨n, hn, hl⟩, hnot⟩
      refine ⟨n, hkeep n hn ?_, hl⟩
      by_contra hq
      exact hnot ⟨n, hn, by simpa using hq, hl⟩
    · rintro ⟨m, hm, hl⟩
      rcases hrow m hm with ⟨h1, -⟩ | ⟨h1, h2⟩
      · rw [h1] at hl
        cases hl
      · refine ⟨⟨m, h1, hl⟩, ?_⟩
        rintro ⟨n, hn, hq, hln⟩
        rw [t.nodes.eq_of_key_eq hn h1 (h.unique n hn m h1 l hln hl), h2] at hq
        cases hq
  · rcases hrow n hn with ⟨h1, -⟩ | ⟨h1, -⟩
    · rw [h1] at hln
      cases hln
    · rcases hrow m hm with ⟨h2, -⟩ | ⟨h2, -⟩
      · rw [h2] at hlm
        cases hlm
      · exact h.unique n h1 m h2 l hln hlm

lemma LeasesOk.failWhere (h : LeasesOk t) (reason : RecursiveFailureReason)
    (q : RecursiveNode → Bool) : LeasesOk (t.failWhere reason q) := by
  refine h.drop q (fun n => n.fail reason) (fun n _ _ => ⟨rfl, by simp [fail,
    finish]⟩) rfl fun l => ?_
  rw [RecursiveTree.failWhere, Finset.mem_filter]

variable {node : RecursiveNode} {k leaseId : String}

/-- A node that stops under its own lease. -/
lemma LeasesOk.stop (h : LeasesOk t) (hn : t.nodes.find? k = some node)
    (hl : node.leaseId = some leaseId) (f : RecursiveNode → RecursiveNode)
    (hf : ∀ n, (f n).leaseId = none ∧ (f n).status ≠ .leased)
    (hs : s.nodes.rows = t.nodes.rows.map fun n => if n.nodeId = k then f n else n)
    (ha : s.activeLeases = t.activeLeases.erase leaseId) : LeasesOk s := by
  obtain ⟨hm, rfl⟩ := t.nodes.find?_eq_some.mp hn
  refine h.drop (fun n => n.nodeId = node.nodeId) f (fun n _ _ => hf n) (by simpa using hs)
    fun l => ?_
  have key : (∃ n ∈ t.nodes.rows, decide (n.nodeId = node.nodeId) = true ∧ n.leaseId = some l) ↔
      l = leaseId := by
    constructor
    · rintro ⟨n, hn', he, hln⟩
      rw [t.nodes.eq_of_key_eq hn' hm (by simpa using he), hl, some.injEq] at hln
      exact hln.symm
    · rintro rfl
      exact ⟨node, hm, by simp, hl⟩
  rw [key, ha, Finset.mem_erase, and_comm]

lemma LeasesOk.endAttempt (h : LeasesOk t) (hn : t.nodes.find? k = some node)
    (hl : node.leaseId = some leaseId) (completed : Bool) (reason : Option RecursiveFailureReason) :
    LeasesOk (t.endAttempt k leaseId completed reason) :=
  h.stop hn hl (fun n => n.finish completed reason)
    (fun n => ⟨rfl, by cases completed <;> simp [finish]⟩) rfl rfl

/-- A node without a lease may change as long as it takes none. -/
lemma LeasesOk.idle (h : LeasesOk t) (hn : t.nodes.find? k = some node) (hl : node.leaseId = none)
    (f : RecursiveNode → RecursiveNode) (hf : (f node).leaseId = none ∧ (f node).status ≠ .leased)
    (hs : s.nodes.rows = t.nodes.rows.map fun n => if n.nodeId = k then f n else n)
    (ha : s.activeLeases = t.activeLeases) : LeasesOk s := by
  obtain ⟨hm, rfl⟩ := t.nodes.find?_eq_some.mp hn
  have hnode : ∀ n ∈ t.nodes.rows, decide (n.nodeId = node.nodeId) = true → n = node :=
    fun n hn' he => t.nodes.eq_of_key_eq hn' hm (by simpa using he)
  refine h.drop (fun n => n.nodeId = node.nodeId) f
    (fun n hn' he => (hnode n hn' he).symm ▸ hf) (by simpa using hs) fun l => ?_
  rw [ha]
  refine ⟨fun hl' => ⟨hl', ?_⟩, fun h => h.1⟩
  rintro ⟨n, hn', he, hln⟩
  rw [hnode n hn' he, hl] at hln
  cases hln

/-- A ready node takes a lease nobody holds. -/
lemma LeasesOk.lease (h : LeasesOk t) (hn : t.nodes.find? k = some node) (hl : node.leaseId = none)
    (hcard : t.activeLeases.card < maxRecursiveLeases) (hfresh : leaseId ∉ t.activeLeases)
    (hs : s.nodes.rows = t.nodes.rows.map fun n => if n.nodeId = k then n.lease leaseId else n)
    (ha : s.activeLeases = insert leaseId t.activeLeases) : LeasesOk s := by
  obtain ⟨hm, rfl⟩ := t.nodes.find?_eq_some.mp hn
  have hrow : ∀ m ∈ s.nodes.rows, (m.leaseId = some leaseId ∧ m.status = .leased ∧
      m.nodeId = node.nodeId) ∨ (m ∈ t.nodes.rows ∧ m.nodeId ≠ node.nodeId) := by
    intro m hm'
    rw [hs] at hm'
    obtain ⟨n, hn', rfl⟩ := mem_map.mp hm'
    split_ifs with hk
    · exact .inl ⟨rfl, rfl, hk⟩
    · exact .inr ⟨hn', hk⟩
  have hkeep : ∀ n ∈ t.nodes.rows, n.nodeId ≠ node.nodeId → n ∈ s.nodes.rows := by
    intro n hn' hne
    rw [hs]
    exact mem_map.mpr ⟨n, hn', by rw [if_neg hne]⟩
  have hold : ∀ m ∈ t.nodes.rows, m.leaseId ≠ some leaseId := fun m hm' e =>
    hfresh ((h.active leaseId).mpr ⟨m, hm', e⟩)
  refine ⟨?_, fun m hm' => ?_, fun l => ?_, fun n hn' m hm' l hln hlm => ?_⟩
  · rw [ha, Finset.card_insert_of_notMem hfresh]
    omega
  · rcases hrow m hm' with ⟨h1, h2, -⟩ | ⟨h1, -⟩
    · simp [h1, h2]
    · exact h.leased m h1
  · rw [ha, Finset.mem_insert, h.active]
    constructor
    · rintro (rfl | ⟨n, hn', hln⟩)
      · refine ⟨node.lease l, ?_, rfl⟩
        rw [hs]
        exact mem_map.mpr ⟨node, hm, by rw [if_pos rfl]⟩
      · refine ⟨n, hkeep n hn' ?_, hln⟩
        intro e
        rw [t.nodes.eq_of_key_eq hn' hm e, hl] at hln
        cases hln
    · rintro ⟨m, hm', hlm⟩
      rcases hrow m hm' with ⟨h1, -⟩ | ⟨h1, -⟩
      · rw [h1, some.injEq] at hlm
        exact .inl hlm.symm
      · exact .inr ⟨m, h1, hlm⟩
  · rcases hrow n hn' with ⟨h1, -, e1⟩ | ⟨h1, -⟩ <;> rcases hrow m hm' with ⟨h2, -, e2⟩ | ⟨h2, -⟩
    · rw [e1, e2]
    · rw [h1, some.injEq] at hln
      exact absurd (hln ▸ hlm) (hold m h2)
    · rw [h2, some.injEq] at hlm
      exact absurd (hlm ▸ hln) (hold n h1)
    · exact h.unique n h1 m h2 l hln hlm

end RecursiveTree

end Harness
