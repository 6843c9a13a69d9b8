import Harness.Sanity.TreeLedger

/-! What `validateTree` accepts, said once and without its loop: the shape that
admissions fix, the lease index, the receipts, and the books of every dimension. -/

namespace Harness

open List Option

open Lib

/-- The part of a node that admission fixes. -/
structure NodeShape (x : Externals) (t : RecursiveTree) (n : RecursiveNode) : Prop where
  depth_le : n.depth ≤ maxRecursiveDepth
  children_le : n.acceptedChildren ≤ maxAcceptedChildrenPerNode
  fingerprint_size : n.objectiveFingerprint.utf8ByteSize = 64
  ancestors_le : n.ancestorFingerprints.length ≤ maxRecursiveDepth
  run : n.rootRunId = t.rootRunId
  named : n.nodeId ≠ ""
  child : n.nodeId ≠ t.rootNodeId → n.parentNodeId.isSome
  scope_caps : n.scope.capabilities = n.capabilities
  root : n.nodeId = t.rootNodeId → t.rootBudgetLimit = some n.budgetLimit ∧
    t.rootChildBudgetLimit = some n.childBudgetLimit ∧ n.ancestorFingerprints = []
  lineage : t.validateLineage n = .ok ()
  proposed : ∀ p, n.proposalId = some p →
    n.nodeId = derivedNodeId x t.rootRunId p n.objectiveFingerprint ∧ p ∈ t.acceptedProposals ∧
      t.receipts.contains p = true
  unproposed : n.proposalId = none → n.nodeId = t.rootNodeId
  scope : validateScope n.scope = .ok ()
  evidence : evidenceExceedsShape n.evidenceRefs = false

/-- The part of a node that execution moves. -/
structure NodeBooks (t : RecursiveTree) (n : RecursiveNode) : Prop where
  budget : t.validateNodeBudget n = .ok ()
  reservation : n.reservation =
    if n.nodeId = t.rootNodeId ∨ n.status.terminal = true then .zero else n.budget
  lease : t.validateLease n = .ok ()

variable {tally : Tally} {n : RecursiveNode}

/-- Fingerprints and proposals are new to the tally and differ among the rows. -/
structure Distinct (tally : Tally) (rows : List RecursiveNode) : Prop where
  fingerprints : (rows.map RecursiveNode.objectiveFingerprint).Nodup
  newFingerprints : ∀ n ∈ rows, n.objectiveFingerprint ∉ tally.fingerprints
  proposals : (rows.filterMap RecursiveNode.proposalId).Nodup
  newProposals : ∀ n ∈ rows, ∀ p, n.proposalId = some p → p ∉ tally.proposalIds

lemma distinct_cons {rows : List RecursiveNode} :
    Distinct tally (n :: rows) ↔ n.objectiveFingerprint ∉ tally.fingerprints ∧
      (∀ p, n.proposalId = some p → p ∉ tally.proposalIds) ∧ Distinct (tally.record n) rows := by
  have hids : ∀ p, p ∈ (tally.record n).proposalIds ↔
      n.proposalId = some p ∨ p ∈ tally.proposalIds := by
    cases hp : n.proposalId with
    | none => simp [Tally.record, hp]
    | some q => simp [Tally.record, hp, eq_comm]
  have hfps : ∀ f, f ∈ (tally.record n).fingerprints ↔
      f = n.objectiveFingerprint ∨ f ∈ tally.fingerprints := by
    simp [Tally.record]
  constructor
  · rintro ⟨h1, h2, h3, h4⟩
    obtain ⟨h1a, h1b⟩ := nodup_cons.mp h1
    obtain ⟨h2a, h2b⟩ := forall_mem_cons.mp h2
    obtain ⟨h4a, h4b⟩ := forall_mem_cons.mp h4
    refine ⟨h2a, h4a, h1b, fun m hm => ?_, ?_, fun m hm p hp => ?_⟩
    · rw [hfps, not_or]
      exact ⟨fun e => h1a (e ▸ mem_map_of_mem hm), h2b m hm⟩
    · cases hp : n.proposalId with
      | none => simpa [filterMap_cons, hp] using h3
      | some q =>
        rw [filterMap_cons, hp] at h3
        exact (nodup_cons.mp h3).2
    · rw [hids, not_or]
      refine ⟨fun e => ?_, h4b m hm p hp⟩
      rw [filterMap_cons, e] at h3
      exact (nodup_cons.mp h3).1 (mem_filterMap.mpr ⟨m, hm, hp⟩)
  · rintro ⟨hf, hp, h1, h2, h3, h4⟩
    refine ⟨nodup_cons.mpr ⟨fun hm => ?_, h1⟩, forall_mem_cons.mpr ⟨hf, fun m hm => ?_⟩,
      ?_, forall_mem_cons.mpr ⟨hp, fun m hm p hmp => ?_⟩⟩
    · obtain ⟨m, hm, he⟩ := mem_map.mp hm
      exact h2 m hm ((hfps _).mpr (.inl he))
    · exact fun h => h2 m hm ((hfps _).mpr (.inr h))
    · cases hq : n.proposalId with
      | none => simpa [filterMap_cons, hq] using h3
      | some q =>
        rw [filterMap_cons, hq]
        refine nodup_cons.mpr ⟨fun hm => ?_, h3⟩
        obtain ⟨m, hm, hmq⟩ := mem_filterMap.mp hm
        exact h4 m hm q hmq ((hids q).mpr (.inl hq))
    · exact fun h => h4 m hm p hmp ((hids p).mpr (.inr h))

/-- A column summed over the nodes below `p`. -/
def kidSum (rows : List RecursiveNode) (p : String) (f : RecursiveNode → ℕ) : ℕ :=
  (rows.map fun n => if n.parentNodeId = some p then f n else 0).sum

structure Tally.Sums (tally : Tally) (seen : List RecursiveNode) : Prop where
  counts : ∀ p, tally.childCounts p = seen.countP fun n => n.parentNodeId = some p
  authority : ∀ p d, ((tally.childAuthority p).getD .zero).amount d =
    min (kidSum seen p fun n => n.actualUsage.amount d + n.reservation.amount d) u64Max
  used : ∀ d, tally.totalActualUsage.amount d =
    min (seen.map fun n => n.actualUsage.amount d).sum u64Max
  held : ∀ d, tally.totalReservations.amount d =
    min (seen.map fun n => n.reservation.amount d).sum u64Max
  proposals : ∀ p, p ∈ tally.proposalIds ↔ ∃ n ∈ seen, n.proposalId = some p

lemma Tally.sums_empty : Tally.Sums Tally.empty [] where
  counts _ := rfl
  authority _ d := by simp [Tally.empty, kidSum]
  used d := by simp [Tally.empty]
  held d := by simp [Tally.empty]
  proposals p := by simp [Tally.empty]

variable {seen : List RecursiveNode}

lemma Tally.Sums.record (h : tally.Sums seen) (n : RecursiveNode) :
    (tally.record n).Sums (seen ++ [n]) where
  counts p := by
    simp only [Tally.record, countP_append, countP_singleton, h.counts,
      decide_eq_true_eq]
    split_ifs <;> rfl
  authority p d := by
    have := h.authority p d
    simp only [Tally.record, kidSum, map_append, sum_append, map_cons,
      map_nil, sum_cons, sum_nil] at this ⊢
    split_ifs with hp
    · rw [getD_some, RecursiveBudget.amount_add, RecursiveBudget.amount_add, this]
      omega
    · rw [this, Nat.add_zero, Nat.add_zero]
  used d := by
    have := h.used d
    simp only [Tally.record, map_append, sum_append, map_cons, map_nil,
      sum_cons, sum_nil, RecursiveBudget.amount_add]
    omega
  held d := by
    have := h.held d
    simp only [Tally.record, map_append, sum_append, map_cons, map_nil,
      sum_cons, sum_nil, RecursiveBudget.amount_add]
    omega
  proposals p := by
    have := h.proposals p
    cases hn : n.proposalId with
    | none => simp [Tally.record, hn, this, or_and_right, exists_or]
    | some q =>
      simp only [Tally.record, hn, elim_some, Finset.mem_insert, this, mem_append,
        mem_singleton, or_and_right, exists_or, exists_eq_left, some.injEq,
        eq_comm (a := q)]
      exact or_comm

lemma Tally.Sums.foldl (h : tally.Sums seen) (rows : List RecursiveNode) :
    (rows.foldl Tally.record tally).Sums (seen ++ rows) := by
  induction rows generalizing tally seen with
  | nil => simpa using h
  | cons n rows ih => simpa using ih (h.record n)

/-- A recorded overrun excuses an amount above the limit, never one below it. -/
lemma accounted_iff (excess : Bool) (accounted limit : RecursiveBudget) :
    accounted = limit ∨ (excess = true ∧ accounted.canSpend limit = true) ↔
      ∀ d, limit.amount d ≤ accounted.amount d ∧
        (excess = false → accounted.amount d = limit.amount d) := by
  rw [RecursiveBudget.canSpend_iff]
  constructor
  · rintro (rfl | ⟨rfl, h⟩) d
    · exact ⟨le_rfl, fun _ => rfl⟩
    · exact ⟨h d, fun e => Bool.noConfusion e⟩
  · intro h
    cases excess with
    | false => exact .inl (RecursiveBudget.eq_of_amount fun d => (h d).2 rfl)
    | true => exact .inr ⟨rfl, fun d => (h d).1⟩

/-- What admissions fix and no later operation touches. -/
structure Shape (x : Externals) (t : RecursiveTree) : Prop where
  schema : t.schemaVersion = recursiveSchemaVersion
  size_le : t.nodes.size ≤ maxRecursiveNodesPerRoot
  rootScope : validateScope t.rootScope = .ok ()
  identity : t.rootRunId ≠ "" ∧ t.workflowId ≠ "" ∧ t.rootNodeId ≠ ""
  creation : t.rootAgentId ≠ "" ∧ t.rootRecursiveMarker = t.rootNodeId ∧
    t.rootCreationReceiptSha256 ≠ ""
  childLimit : t.rootChildBudgetLimit.isSome
  root : t.validateRoot = .ok ()
  node : ∀ n ∈ t.nodes.rows, NodeShape x t n
  fingerprints : (t.nodes.rows.map RecursiveNode.objectiveFingerprint).Nodup
  proposals : (t.nodes.rows.filterMap RecursiveNode.proposalId).Nodup
  counts : ∀ n ∈ t.nodes.rows,
    n.acceptedChildren = t.nodes.rows.countP fun m => m.parentNodeId = some n.nodeId
  acceptedCard : t.acceptedProposals.card = t.receipts.size
  accepted : ∀ p ∈ t.acceptedProposals, (∃ n ∈ t.nodes.rows, n.proposalId = some p) ∧
    (t.receipts.find? p).all (·.2 = "") = false
  unrejected : ∀ p ∈ t.acceptedProposals, t.rejectedProposals.contains p = false
  rejected_le : t.rejectedProposals.size ≤ maxRecursiveNodesPerRoot
  rejected : ∀ decision ∈ t.rejectedProposals.rows,
    evidenceExceedsShape decision.2.evidenceRefs = false ∧
      decision.2.reasonCode.asStr.utf8ByteSize ≤ 128

structure LeaseIndex (t : RecursiveTree) : Prop where
  card_le : t.activeLeases.card ≤ maxRecursiveLeases
  node : ∀ n ∈ t.nodes.rows, t.validateLease n = .ok ()
  held : ∀ l ∈ t.activeLeases, ∃ n ∈ t.nodes.rows, n.leaseId = some l

structure ReceiptShape (t : RecursiveTree) : Prop where
  size_le : t.usageReceipts.size ≤ maxRecursiveNodesPerRoot * 2
  named : ∀ r ∈ t.usageReceipts.rows, r.1 ≠ ""

namespace RecursiveTree

variable {x : Externals} {t : RecursiveTree}

lemma validateReservation_eq_ok :
    t.validateReservation n = .ok () ↔
      (n.nodeId = t.rootNodeId →
          t.rootBudgetLimit = some n.budgetLimit ∧
            t.rootChildBudgetLimit = some n.childBudgetLimit) ∧
        n.reservation =
          if n.nodeId = t.rootNodeId ∨ n.status.terminal = true then .zero else n.budget := by
  unfold validateReservation
  by_cases hr : n.nodeId = t.rootNodeId
  · simp only [hr, if_true, refuse_eq_ok, Bool.or_eq_false_iff, decide_eq_false_iff_not, ne_eq,
      not_not, true_or, forall_true_left]
    tauto
  · cases ht : n.status.terminal
    · simp [hr, refuse_eq_ok]
    · simp [hr, refuse_eq_ok]

lemma validateProposalIdentity_eq_ok :
    t.validateProposalIdentity x tally n = .ok () ↔
      (∀ p, n.proposalId = some p →
          n.nodeId = derivedNodeId x t.rootRunId p n.objectiveFingerprint ∧
            p ∈ t.acceptedProposals ∧ t.receipts.contains p = true) ∧
        (∀ p, n.proposalId = some p → p ∉ tally.proposalIds) ∧
        (n.proposalId = none → n.nodeId = t.rootNodeId) := by
  unfold validateProposalIdentity
  cases hp : n.proposalId with
  | none => simp [refuse_eq_ok]
  | some p =>
    simp only [seq_eq_ok, refuse_eq_ok, Bool.or_eq_false_iff, decide_eq_false_iff_not,
      ne_eq, not_not, some.injEq, forall_eq', reduceCtorEq, false_imp_iff, and_true,
      Bool.not_eq_false']
    tauto

variable {rows : List RecursiveNode} {limit : RecursiveBudget} {r : Tally}

lemma validateNode_eq_ok :
    t.validateNode x tally n = .ok r ↔
      NodeShape x t n ∧ NodeBooks t n ∧ n.objectiveFingerprint ∉ tally.fingerprints ∧
        (∀ p, n.proposalId = some p → p ∉ tally.proposalIds) ∧ r = tally.record n := by
  unfold validateNode
  simp only [seq_eq_ok, refuse_eq_ok, Bool.or_eq_false_iff, Bool.and_eq_false_iff,
    decide_eq_false_iff_not, ne_eq, not_not, not_lt, validateReservation_eq_ok,
    validateProposalIdentity_eq_ok, pure, Except.pure, Except.ok.injEq]
  constructor
  · rintro ⟨⟨⟨⟨h1, h2⟩, h3⟩, h4⟩, ⟨⟨⟨h5, h6⟩, h7⟩, h8⟩, h9, ⟨h10, h11⟩, h12, h13, h14,
      ⟨h15, h16, h17⟩, h18, h19, h20, rfl⟩
    refine ⟨⟨h1, h2, h3, h4, h5, h6, ?_, h8, fun hr => ?_, h14, h15, h17, h19, h20⟩,
      ⟨h9, h11, h18⟩, h12, h16, rfl⟩
    · intro hne
      rcases h7 with h7 | h7
      · exact absurd h7 hne
      · simpa [isNone_iff_eq_none, isSome_iff_ne_none] using h7
    · rcases h13 with h13 | h13
      · exact absurd hr h13
      · exact ⟨(h10 hr).1, (h10 hr).2, h13⟩
  · rintro ⟨s, b, h12, h16, rfl⟩
    refine ⟨⟨⟨⟨s.depth_le, s.children_le⟩, s.fingerprint_size⟩, s.ancestors_le⟩,
      ⟨⟨⟨s.run, s.named⟩, ?_⟩, s.scope_caps⟩, b.budget,
      ⟨fun hr => ⟨(s.root hr).1, (s.root hr).2.1⟩, b.reservation⟩, h12, ?_, s.lineage,
      ⟨s.proposed, h16, s.unproposed⟩, b.lease, s.scope, s.evidence, rfl⟩
    · by_cases hr : n.nodeId = t.rootNodeId
      · exact .inl hr
      · right
        simpa [isNone_iff_eq_none, isSome_iff_ne_none] using s.child hr
    · by_cases hr : n.nodeId = t.rootNodeId
      · exact .inr (s.root hr).2.2
      · exact .inl hr

lemma foldlM_validateNode :
    rows.foldlM (t.validateNode x) tally = .ok r ↔
      (∀ n ∈ rows, NodeShape x t n ∧ NodeBooks t n) ∧ Distinct tally rows ∧
        r = rows.foldl Tally.record tally := by
  induction rows generalizing tally with
  | nil =>
    simp only [foldlM_nil, pure, Except.pure, Except.ok.injEq, foldl_nil]
    constructor
    · rintro rfl
      exact ⟨by simp, ⟨by simp, by simp, by simp, by simp⟩, rfl⟩
    · rintro ⟨-, -, rfl⟩
      rfl
  | cons n rows ih =>
    simp only [foldlM_cons, bind_eq_ok, validateNode_eq_ok, ih, foldl_cons]
    rw [distinct_cons]
    constructor
    · rintro ⟨_, ⟨hs, hb, hf, hp, rfl⟩, hrows, hd, rfl⟩
      exact ⟨forall_mem_cons.mpr ⟨⟨hs, hb⟩, hrows⟩, ⟨hf, hp, hd⟩, rfl⟩
    · rintro ⟨hrows, ⟨hf, hp, hd⟩, rfl⟩
      obtain ⟨⟨hs, hb⟩, hrows⟩ := forall_mem_cons.mp hrows
      exact ⟨_, ⟨hs, hb, hf, hp, rfl⟩, hrows, hd, rfl⟩

lemma validateNodeBudget_eq_ok :
    t.validateNodeBudget n = .ok () ↔
      ∀ d, n.budget.amount d ≤ n.budgetLimit.amount d ∧
        n.childBudget.amount d ≤ n.childBudgetLimit.amount d ∧
        n.budgetLimit.amount d ≤ n.budget.amount d + n.actualUsage.amount d ∧
        (t.recordedOverrun = false →
          min (n.budget.amount d + n.actualUsage.amount d) u64Max = n.budgetLimit.amount d) := by
  have key := accounted_iff t.recordedOverrun (n.budget.add n.actualUsage) n.budgetLimit
  have hb := RecursiveBudget.canSpend_iff n.budgetLimit n.budget
  have hc := RecursiveBudget.canSpend_iff n.childBudgetLimit n.childBudget
  have hk : t.validateNodeBudget n = .ok () ↔ n.budgetLimit.canSpend n.budget = true ∧
      n.childBudgetLimit.canSpend n.childBudget = true ∧
      (n.budget.add n.actualUsage = n.budgetLimit ∨
        (t.recordedOverrun = true ∧ (n.budget.add n.actualUsage).canSpend n.budgetLimit = true)) := by
    unfold validateNodeBudget
    by_cases he : n.budget.add n.actualUsage = n.budgetLimit
    · simp [refuse_eq_ok, he]
    · simp [refuse_eq_ok, he, and_assoc]
  rw [hk, hb, hc, key]
  simp only [RecursiveBudget.amount_add]
  constructor
  · rintro ⟨h1, h2, h3⟩ d
    have := h3 d
    exact ⟨h1 d, h2 d, by omega, this.2⟩
  · intro h
    refine ⟨fun d => (h d).1, fun d => (h d).2.1, fun d => ⟨?_, (h d).2.2.2⟩⟩
    have := (h d).2.2.1
    have := n.budgetLimit.amount_le d
    omega

lemma validateAggregate_eq_ok (hl : t.rootBudgetLimit = some limit) :
    t.validateAggregate = .ok () ↔
      ∀ d, t.rootBudget.amount d ≤ limit.amount d ∧
        (t.recordedOverrun = false →
          min (t.rootBudget.amount d + t.spentBudget.amount d + t.reservedBudget.amount d) u64Max =
            limit.amount d) := by
  have hr := RecursiveBudget.canSpend_iff limit t.rootBudget
  have ht := RecursiveBudget.canSpend_iff limit (t.spentBudget.add t.reservedBudget)
  have he := RecursiveBudget.eq_iff_amount (a := t.rootBudget.add (t.spentBudget.add t.reservedBudget))
    (b := limit)
  simp only [RecursiveBudget.amount_add] at ht he
  unfold validateAggregate
  rw [hl]
  cases hov : t.recordedOverrun with
  | true => simp [seq_eq_ok, refuse_eq_ok, hr]
  | false =>
    simp only [seq_eq_ok, refuse_eq_ok, Bool.not_false, Bool.and_true, Bool.true_and,
      Bool.or_eq_false_iff, Bool.not_eq_false', decide_eq_false_iff_not, ne_eq, not_not, hr, ht, he,
      forall_true_left]
    constructor
    · rintro ⟨⟨h1, -⟩, h3⟩ d
      have := h3 d
      exact ⟨h1 d, by omega⟩
    · intro h
      refine ⟨⟨fun d => (h d).1, fun d => ?_⟩, fun d => ?_⟩
      · have := (h d).2
        omega
      · have := (h d).2
        omega

lemma childAccountingFails_eq_false (hs : tally.Sums rows) :
    t.childAccountingFails tally n = false ↔
    ∀ d, n.childBudgetLimit.amount d ≤ n.childBudget.amount d +
        (kidSum rows n.nodeId fun m => m.actualUsage.amount d + m.reservation.amount d) ∧
      (t.recordedOverrun = false → min (n.childBudget.amount d +
        kidSum rows n.nodeId fun m => m.actualUsage.amount d + m.reservation.amount d) u64Max =
          n.childBudgetLimit.amount d) := by
  set accounted := (tally.childAuthority n.nodeId).elim n.childBudget n.childBudget.add with hacc
  have hamount : ∀ d, accounted.amount d = min (n.childBudget.amount d +
      kidSum rows n.nodeId fun m => m.actualUsage.amount d + m.reservation.amount d) u64Max := by
    intro d
    have ha := hs.authority n.nodeId d
    have hle := n.childBudget.amount_le d
    cases hc : tally.childAuthority n.nodeId with
    | none =>
      rw [hc, getD_none, RecursiveBudget.amount_zero] at ha
      rw [hacc, hc, elim_none]
      omega
    | some a =>
      rw [hc, getD_some] at ha
      rw [hacc, hc, elim_some, RecursiveBudget.amount_add, ha]
      omega
  have key := accounted_iff t.recordedOverrun accounted n.childBudgetLimit
  have hk : t.childAccountingFails tally n = false ↔ accounted = n.childBudgetLimit ∨
      (t.recordedOverrun = true ∧ accounted.canSpend n.childBudgetLimit = true) := by
    unfold childAccountingFails
    rw [← hacc]
    by_cases he : accounted = n.childBudgetLimit
    · simp [he]
    · simp [he]
  rw [hk, key]
  refine forall_congr' fun d => ?_
  rw [hamount]
  have := n.childBudgetLimit.amount_le d
  constructor
  · rintro ⟨h1, h2⟩
    exact ⟨by omega, h2⟩
  · rintro ⟨h1, h2⟩
    exact ⟨by omega, h2⟩

/-- The books are right exactly when the counters pass their checks. -/
lemma checked_iff (hl : t.rootBudgetLimit = some limit) (hs : tally.Sums t.nodes.rows) :
    (∀ d, (t.ledger d).Checked t.recordedOverrun) ↔
    t.validateAggregate = .ok () ∧
    (∀ n ∈ t.nodes.rows, t.validateNodeBudget n = .ok () ∧ n.reservation =
      if n.nodeId = t.rootNodeId ∨ n.status.terminal = true then .zero else n.budget) ∧
    (∀ n ∈ t.nodes.rows, t.childAccountingFails tally n = false) ∧
    tally.totalActualUsage = t.spentBudget ∧ tally.totalReservations = t.reservedBudget := by
  have hlim : ∀ d, (t.ledger d).limit = limit.amount d := fun d => by simp [ledger, hl]
  have hres : ∀ n : RecursiveNode, ∀ d, (if n.nodeId = t.rootNodeId ∨ n.status.terminal = true
      then RecursiveBudget.zero else n.budget).amount d =
      if n.nodeId = t.rootNodeId ∨ n.status.terminal = true then 0 else n.budget.amount d := by
    intro n d
    split_ifs <;> simp
  have hkids : ∀ q d, ((t.ledger d).kids q fun b => b.used + b.held) =
      kidSum t.nodes.rows q fun m => m.actualUsage.amount d + m.reservation.amount d :=
    fun q d => t.kids_ledger d
  rw [validateAggregate_eq_ok hl]
  constructor
  · intro h
    refine ⟨fun d => ⟨?_, fun ho => ?_⟩, fun n hn => ⟨?_, ?_⟩, fun n hn => ?_, ?_, ?_⟩
    · exact (hlim d) ▸ (h d).free_le
    · exact (hlim d) ▸ (h d).conserved ho
    · rw [validateNodeBudget_eq_ok]
      intro d
      have c := (h d).account (n.account t.rootNodeId d) (mem_map_of_mem hn)
      exact ⟨c.left_le, c.kidLeft_le, c.own_ge, c.own_eq⟩
    · refine RecursiveBudget.eq_of_amount fun d => ?_
      have c := (h d).account (n.account t.rootNodeId d) (mem_map_of_mem hn)
      rw [hres]
      simpa [RecursiveNode.account] using c.held_eq
    · rw [childAccountingFails_eq_false hs]
      intro d
      have c := (h d).account (n.account t.rootNodeId d) (mem_map_of_mem hn)
      rw [← hkids]
      exact ⟨c.kids_ge, c.kids_eq⟩
    · refine RecursiveBudget.eq_of_amount fun d => ?_
      rw [hs.used d]
      exact ((h d).spent_eq.trans (by rw [total_ledger]; rfl)).symm
    · refine RecursiveBudget.eq_of_amount fun d => ?_
      rw [hs.held d]
      exact ((h d).reserved_eq.trans (by rw [total_ledger]; rfl)).symm
  · rintro ⟨h1, h2, h3, h4, h5⟩ d
    refine ⟨(hlim d).symm ▸ (h1 d).1, fun ho => (hlim d).symm ▸ (h1 d).2 ho, ?_, ?_, ?_⟩
    · rw [total_ledger]
      exact (congrArg (·.amount d) h4).symm.trans (hs.used d)
    · rw [total_ledger]
      exact (congrArg (·.amount d) h5).symm.trans (hs.held d)
    · intro a ha
      obtain ⟨n, hn, rfl⟩ := mem_map.mp ha
      obtain ⟨hb, hr⟩ := h2 n hn
      obtain ⟨b1, b2, b3, b4⟩ := validateNodeBudget_eq_ok.mp hb d
      obtain ⟨c1, c2⟩ := (childAccountingFails_eq_false hs).mp (h3 n hn) d
      rw [← hkids] at c1 c2
      refine ⟨b1, b2, b3, b4, c1, c2, ?_⟩
      have := congrArg (·.amount d) hr
      simp only [hres] at this
      simpa [RecursiveNode.account] using this

lemma limit_of_root (hroot : t.validateRoot = .ok ())
    (hnode : ∀ n ∈ t.nodes.rows, NodeShape x t n) :
    ∃ root, t.nodes.find? t.rootNodeId = some root ∧ t.rootBudgetLimit = some root.budgetLimit := by
  unfold validateRoot at hroot
  cases h : t.nodes.find? t.rootNodeId with
  | none => rw [h] at hroot; cases hroot
  | some root =>
    exact ⟨root, rfl, ((hnode root (Table.mem_of_find? h)).root (Table.key_of_find? h)).1⟩

lemma validateTotals_eq_ok (hs : tally.Sums t.nodes.rows) :
    t.validateTotals tally = .ok () ↔
      ((∀ n ∈ t.nodes.rows, t.childAccountingFails tally n = false) ∧
          tally.totalActualUsage = t.spentBudget ∧ tally.totalReservations = t.reservedBudget) ∧
        (∀ n ∈ t.nodes.rows,
          n.acceptedChildren = t.nodes.rows.countP fun m => m.parentNodeId = some n.nodeId) ∧
        (∀ l ∈ t.activeLeases, ∃ n ∈ t.nodes.rows, n.leaseId = some l) ∧
        (t.acceptedProposals.card = t.receipts.size ∧
          (∀ p ∈ t.acceptedProposals, (∃ n ∈ t.nodes.rows, n.proposalId = some p) ∧
            (t.receipts.find? p).all (·.2 = "") = false) ∧
          ∀ p ∈ t.acceptedProposals, t.rejectedProposals.contains p = false) ∧
        ReceiptShape t ∧
        (t.rejectedProposals.size ≤ maxRecursiveNodesPerRoot ∧
          ∀ decision ∈ t.rejectedProposals.rows, evidenceExceedsShape decision.2.evidenceRefs =
              false ∧
            decision.2.reasonCode.asStr.utf8ByteSize ≤ 128) := by
  have hr : ReceiptShape t ↔ t.usageReceipts.size ≤ maxRecursiveNodesPerRoot * 2 ∧
      ∀ r ∈ t.usageReceipts.rows, r.1 ≠ "" := ⟨fun h => ⟨h.1, h.2⟩, fun h => ⟨h.1, h.2⟩⟩
  unfold validateTotals
  simp only [seq_eq_ok, refuse_eq_ok, Bool.or_eq_false_iff, decide_eq_false_iff_not, ne_eq,
    not_not, not_lt, List.any_eq_false, Bool.not_eq_true, hr, hs.counts, not_exists, not_and,
    not_or, hs.proposals, List.any_eq_true, decide_eq_true_eq, Bool.not_eq_false', not_forall,
    exists_prop]
  tauto

/-- What the validator accepts. -/
lemma validateTree_eq_ok :
    t.validateTree x = .ok () ↔
      Shape x t ∧ LeaseIndex t ∧ ReceiptShape t ∧ ∀ d, (t.ledger d).Checked t.recordedOverrun := by
  have hsums : (t.nodes.rows.foldl Tally.record Tally.empty).Sums t.nodes.rows :=
    Tally.sums_empty.foldl t.nodes.rows
  unfold validateTree
  simp only [seq_eq_ok, refuse_eq_ok]
  simp only [bind_eq_ok, foldlM_validateNode, Bool.or_eq_false_iff, decide_eq_false_iff_not, ne_eq,
    not_not, not_lt, isNone_eq_false_iff]
  constructor
  · rintro ⟨a1, ⟨a2, a3⟩, a4, ⟨⟨a5, a6⟩, a7⟩, ⟨⟨a8, a9⟩, a10⟩, a11, a12, a13, tally,
      ⟨hrows, hd, rfl⟩, htot⟩
    rw [validateTotals_eq_ok hsums] at htot
    obtain ⟨⟨b1, b2, b3⟩, b4, b5, ⟨b6, b7, b8⟩, b9, b10, b11⟩ := htot
    obtain ⟨root, -, hlim⟩ := limit_of_root a13 fun n hn => (hrows n hn).1
    refine ⟨⟨a1, a2, a4, ⟨a5, a6, a7⟩, ⟨a8, a9, a10⟩, a11, a13, fun n hn => (hrows n hn).1,
        hd.fingerprints, hd.proposals, b4, b6, b7, b8, b10, b11⟩,
      ⟨a3, fun n hn => (hrows n hn).2.lease, b5⟩, b9, ?_⟩
    rw [checked_iff hlim hsums]
    exact ⟨a12, fun n hn => ⟨(hrows n hn).2.budget, (hrows n hn).2.reservation⟩, b1, b2, b3⟩
  · rintro ⟨s, l, r, c⟩
    obtain ⟨root, -, hlim⟩ := limit_of_root s.root s.node
    rw [checked_iff hlim hsums] at c
    obtain ⟨c1, c2, c3, c4, c5⟩ := c
    refine ⟨s.schema, ⟨s.size_le, l.card_le⟩, s.rootScope, ⟨⟨s.identity.1, s.identity.2.1⟩,
      s.identity.2.2⟩, ⟨⟨s.creation.1, s.creation.2.1⟩, s.creation.2.2⟩, s.childLimit, c1, s.root,
      _, ⟨fun n hn => ⟨s.node n hn, (c2 n hn).1, (c2 n hn).2, l.node n hn⟩,
        ⟨s.fingerprints, by simp [Tally.empty], s.proposals, by simp [Tally.empty]⟩, rfl⟩, ?_⟩
    rw [validateTotals_eq_ok hsums]
    exact ⟨⟨c3, c4, c5⟩, s.counts, l.held, ⟨s.acceptedCard, s.accepted, s.unrejected⟩, r,
      s.rejected_le, s.rejected⟩

lemma validateTreeForPersistence_isOk :
    (t.validateTreeForPersistence x).isOk = true ↔
      t.validateTree x = .ok () ∧ t.json.length ≤ maxRecursiveTreeBytes := by
  have h : ∀ r : Except String (List UInt8), r.isOk = true ↔ ∃ s, r = .ok s := by
    intro r
    cases r <;> simp [Except.isOk, Except.toBool]
  rw [h]
  unfold validateTreeForPersistence
  simp only [seq_eq_ok, refuse_eq_ok, decide_eq_false_iff_not, not_lt, pure, Except.pure,
    Except.ok.injEq, exists_and_left, exists_eq', and_true]

end RecursiveTree

end Harness
