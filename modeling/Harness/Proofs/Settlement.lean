import Harness.Sanity.Root
import Harness.Sanity.TreeSize

/-! Settling an executed node. The tree a settlement leaves is spelled out once;
then the books say exactly when the validator takes it. -/

namespace Harness

open Lib Table RecursiveNode RecursiveBudget

lemma RecursiveNode.retry_of_lt {n : RecursiveNode} (h : n.retryCount < maxRecursiveRetries) :
    n.retry = n.requeue :=
  if_neg (Nat.not_le.mpr h)

namespace RecursiveTree

variable {x : Externals} {t : RecursiveTree}

variable {within success retry excess : Bool} {d : Dim} {usage : RecursiveBudget}
  {s : RecursiveTree} {receiptId : String}

lemma overrun_receiptText :
    decide ("0:".toList <+: (receiptText within usage).toList) = !within := by
  cases within <;> simp [receiptText, String.toList_append]

/-- A new receipt is an overrun exactly when its usage did not fit. -/
lemma recordedOverrun_insert
    (hs : s.usageReceipts = t.usageReceipts.insert (receiptId, receiptText within usage))
    (hf : t.usageReceipts.find? receiptId = none) :
    s.recordedOverrun = (!within || t.recordedOverrun) := by
  have hne := t.usageReceipts.find?_eq_none.mp hf
  rw [Bool.eq_iff_iff, Bool.or_eq_true, recordedOverrun, List.any_eq_true, recordedOverrun,
    List.any_eq_true, ← overrun_receiptText, hs]
  constructor
  · rintro ⟨r, hr, h0⟩
    rcases (t.usageReceipts.mem_insert _ r).mp hr with rfl | ⟨hr, -⟩
    · exact .inl h0
    · exact .inr ⟨r, hr, h0⟩
  · rintro (h0 | ⟨r, hr, h0⟩)
    · exact ⟨_, (t.usageReceipts.mem_insert _ _).mpr (.inl rfl), h0⟩
    · exact ⟨r, (t.usageReceipts.mem_insert _ _).mpr (.inr ⟨hr, hne r hr⟩), h0⟩

lemma receiptShape_fresh {text : String}
    (hs : s.usageReceipts = t.usageReceipts.insert (receiptId, text))
    (hf : t.usageReceipts.find? receiptId = none) (h : ReceiptShape t) :
    ReceiptShape s ↔ t.usageReceipts.size < maxRecursiveNodesPerRoot * 2 ∧ receiptId ≠ "" := by
  have hsize : s.usageReceipts.size = t.usageReceipts.size + 1 := by
    rw [hs]
    exact t.usageReceipts.size_insert_of_new hf
  constructor
  · intro hr
    refine ⟨by have := hr.size_le; omega, ?_⟩
    refine hr.named (receiptId, text) ?_
    rw [hs]
    exact (t.usageReceipts.mem_insert _ _).mpr (.inl rfl)
  · rintro ⟨h1, h2⟩
    refine ⟨by omega, fun r hr => ?_⟩
    rw [hs] at hr
    rcases (t.usageReceipts.mem_insert _ r).mp hr with rfl | ⟨hr, -⟩
    · exact h2
    · exact h.named r hr

/-- The tree `complete_node_with_usage_receipt` leaves when the receipt is new. -/
def afterAttempt (t : RecursiveTree) (node : RecursiveNode) (k leaseId receiptId : String)
    (success : Bool) (usage : RecursiveBudget) : RecursiveTree :=
  let within := node.budget.canSpend usage && t.withinTreeBudget usage true
  let t' := ((t.recordFreshUsage receiptId usage true).chargeNode k usage).endAttempt k leaseId
    (success && within) (nodeFailureReason node success within)
  (if within then t' else t'.exhaust k).bumpVersion

variable {node : RecursiveNode} {k leaseId receiptId : String} {usage : RecursiveBudget}

lemma completeNode_fresh (hn : t.nodes.find? k = some node) (hl : node.leaseId = some leaseId)
    (hf : t.usageReceipts.find? receiptId = none) :
    t.completeNodeWithUsageReceipt k leaseId receiptId success usage =
      (.ok (), t.afterAttempt node k leaseId receiptId success usage) := by
  simp only [completeNodeWithUsageReceipt, hn, hl, ne_eq, not_true_eq_false, if_false,
    recordUsage, recordUsageInternal, hf, contains, Option.isSome_none, Bool.false_or,
    Bool.false_eq_true, afterAttempt]

/-- Return the node's reservation, then see whether the tree is done. -/
def closeOut (t : RecursiveTree) (k : String) (failed : Option String) : RecursiveTree :=
  (t.releaseNodeReservationForPersistence k).finalizeTerminalTree failed

/-- The failed node `sync_recursive_completion` hands to finalization. -/
def failedNode (t : RecursiveTree) (k : String) : Option String :=
  if ((t.releaseNodeReservationForPersistence k).nodes.find? k).any (·.status = .failed) then some k
  else none

variable (t node k leaseId receiptId) in
def settledTree (success retry : Bool) (usage : RecursiveBudget) : RecursiveTree :=
  let t' := t.afterAttempt node k leaseId receiptId success usage
  if retry then { t' with nodes := t'.nodes.modify k .retry nodeId_retry }.bumpVersion
  else t'.closeOut k (t'.failedNode k)

variable (t node k leaseId receiptId) in
lemma sameShape_afterAttempt (success : Bool) (usage : RecursiveBudget) :
    SameShape (t.afterAttempt node k leaseId receiptId success usage) t := by
  have h1 : ∀ completed reason, SameShape
      (((t.recordFreshUsage receiptId usage true).chargeNode k usage).endAttempt k leaseId completed
        reason) t := fun completed reason =>
    (sameShape_endAttempt _ _ _ _ _).trans
      ((alike_chargeNode _ _).sameShape.trans sameShape_recordFreshUsage)
  refine alike_bumpVersion.sameShape.trans ?_
  split_ifs
  · exact h1 _ _
  · exact sameShape_exhaust.trans (h1 _ _)

lemma usageReceipts_exhaust : (t.exhaust k).usageReceipts = t.usageReceipts :=
  (alike_exhaust k).usageReceipts

variable (t node k leaseId receiptId) in
lemma usageReceipts_afterAttempt (success : Bool) (usage : RecursiveBudget) :
    (t.afterAttempt node k leaseId receiptId success usage).usageReceipts =
      (t.recordFreshUsage receiptId usage true).usageReceipts := by
  unfold afterAttempt
  rw [alike_bumpVersion.usageReceipts]
  split_ifs
  · rfl
  · exact usageReceipts_exhaust

lemma retryAllowed_eq (hn : t.nodes.find? k = some node) (env : RecursiveEnv)
    (usage : RecursiveBudget) :
    ∃ b, t.retryAllowed env k usage = .ok b ∧
      (b = true →
        t.executionState = .running ∧ node.retryCount < maxRecursiveRetries ∧
          node.budget.canSpend usage = true) := by
  unfold retryAllowed
  rw [hn]
  refine ⟨_, rfl, fun h => ?_⟩
  simp only [Bool.and_eq_true, decide_eq_true_eq] at h
  exact ⟨h.1.1.1.2, h.1.1.2, h.1.2⟩

/-- A settlement with a new receipt always gets as far as the validator. -/
lemma syncRecursiveCompletion_fresh {env : RecursiveEnv} (hn : t.nodes.find? k = some node)
    (hl : node.leaseId = some leaseId) (hf : t.usageReceipts.find? receiptId = none) :
    ∃ r : Bool, (r = true → t.executionState = .running ∧
        node.retryCount < maxRecursiveRetries ∧ node.budget.canSpend usage = true) ∧
      t.syncRecursiveCompletionWithReceipt env k leaseId receiptId success retry usage =
        .ok (t.settledTree node k leaseId receiptId success r usage) := by
  have hc : t.nodes.contains k = true := by simp [contains, hn]
  obtain ⟨b, hb, hbt⟩ := t.retryAllowed_eq hn env usage
  obtain ⟨m, hm, -⟩ :=
    (t.sameShape_afterAttempt node k leaseId receiptId success usage).exists_find? hn
  have hafter : ∀ r, (t.afterAttempt node k leaseId receiptId success usage).afterCompletion k r =
      .ok (t.settledTree node k leaseId receiptId success r usage) := by
    intro r
    cases r with
    | false => simp [afterCompletion, settledTree, closeOut, failedNode]
    | true => simp [afterCompletion, settledTree, retryNode, hm, treeOf, Except.map]
  refine ⟨retry && b, fun h => hbt (Bool.and_eq_true_iff.mp h).2, ?_⟩
  cases retry with
  | false =>
    simp [syncRecursiveCompletionWithReceipt, hc, completeNode_fresh hn hl hf, treeOf, Except.map,
      bind, Except.bind, pure, Except.pure, hafter]
  | true =>
    simp [syncRecursiveCompletionWithReceipt, hc, completeNode_fresh hn hl hf, treeOf, Except.map,
      bind, Except.bind, hb, hafter]

variable (receiptId usage) in
lemma find?_charged (hn : t.nodes.find? k = some node) :
    ((t.recordFreshUsage receiptId usage true).chargeNode k usage).nodes.find? k =
      some (node.charge usage) := by
  unfold chargeNode recordFreshUsage
  rw [find?_modify, if_pos rfl, hn]
  rfl

/-- The node whose attempt ended, up to what closing the rest of the tree changes. -/
lemma find?_afterAttempt (hn : t.nodes.find? k = some node) (leaseId receiptId : String)
    (success : Bool) (usage : RecursiveBudget) :
    ∃ m completed reason, (t.afterAttempt node k leaseId receiptId success usage).nodes.find? k =
        some m ∧
      Untouched ((node.charge usage).finish completed reason) m := by
  have h1 : ∀ completed reason,
      (((t.recordFreshUsage receiptId usage true).chargeNode k usage).endAttempt k leaseId completed
        reason).nodes.find? k = some ((node.charge usage).finish completed reason) := by
    intro completed reason
    unfold endAttempt
    rw [find?_modify, if_pos rfl, find?_charged _ _ hn]
    rfl
  unfold afterAttempt bumpVersion
  dsimp only
  split_ifs
  · exact ⟨_, _, _, h1 _ _, .refl _⟩
  · obtain ⟨m, hm, hu⟩ := find?_exhaust (h1 _ _)
    exact ⟨m, _, _, hm, hu⟩

lemma leasesOk_afterAttempt (h : t.LeasesOk) (hn : t.nodes.find? k = some node)
    (hl : node.leaseId = some leaseId) (receiptId : String) (success : Bool)
    (usage : RecursiveBudget) :
    (t.afterAttempt node k leaseId receiptId success usage).LeasesOk := by
  have h1 : (t.recordFreshUsage receiptId usage true).LeasesOk := ⟨h.1, h.2, h.3, h.4⟩
  have h2 := h1.congr (alike_chargeNode k usage)
  have h3 := fun completed reason => h2.endAttempt (find?_charged _ _ hn) hl completed reason
  unfold afterAttempt
  refine LeasesOk.congr ?_ alike_bumpVersion
  split_ifs
  · exact h3 _ _
  · exact leasesOk_exhaust (h3 _ _)

/-- A running child holds all it has left. -/
lemma held_eq_left (h : Sound x t) (hn : t.nodes.find? k = some node) (hroot : k ≠ t.rootNodeId)
    (hlive : node.status.terminal = false) : node.reservation.amount d = node.budget.amount d := by
  have ha : (t.ledger d).accounts.find? k = some (node.account t.rootNodeId d) := exists_account hn
  have heq := ((h.books d).account _ (mem_of_find? ha)).held_eq List.not_mem_nil
  have hk := key_of_find? hn
  simpa [account, hlive, hk, hroot] using heq

lemma books_afterAttempt (h : Sound x t) (hn : t.nodes.find? k = some node)
    (hroot : k ≠ t.rootNodeId) (hlive : node.status.terminal = false) (leaseId receiptId : String)
    (success : Bool)
    (hover : excess = false → t.recordedOverrun = false ∧
      (usage.amount d ≤ node.budget.amount d ∨ node.budgetLimit.amount d = u64Max)) :
    ((t.afterAttempt node k leaseId receiptId success usage).ledger d).Balanced excess [k]
      (usage.amount d - node.budget.amount d) := by
  have ha : (t.ledger d).accounts.find? k = some (node.account t.rootNodeId d) := exists_account hn
  have hheld := held_eq_left (d := d) h hn hroot hlive
  have hk := key_of_find? hn
  have h1 : ((t.ledger d).charge k (usage.amount d)).Balanced excess []
      (usage.amount d - node.budget.amount d) := by
    have hpay : excess = false → t.recordedOverrun = false ∧
        (t.ledger d).Payable (node.account t.rootNodeId d) (usage.amount d) := by
      intro ho
      obtain ⟨h0, hfit⟩ := hover ho
      refine ⟨h0, ?_⟩
      rcases hfit with hle | hcap
      · exact .inl ⟨hle.trans hheld.ge, hle⟩
      · exact .inr (.inl ⟨hheld, hcap⟩)
    have := (h.books d).charge ha (by simp [account, hk, hroot]) _ hpay
    simpa [account, hheld] using this
  rw [← ledger_chargeNode t d k receiptId] at h1
  have h2 := h1.close (exists_account (find?_charged _ _ hn))
  unfold afterAttempt
  rw [ledger_bumpVersion]
  split_ifs
  · rw [ledger_endAttempt]
    exact h2
  · refine books_exhaust ?_ k
    rw [ledger_endAttempt]
    exact h2

variable (t node k leaseId receiptId) in
lemma sameShape_settledTree (success retry : Bool) (usage : RecursiveBudget) :
    SameShape (t.settledTree node k leaseId receiptId success retry usage) t := by
  have h1 := t.sameShape_afterAttempt node k leaseId receiptId success usage
  cases retry with
  | true =>
    refine alike_bumpVersion.sameShape.trans ((sameShape_modify ?_).trans h1)
    intro n
    unfold retry
    split_ifs <;> rfl
  | false => exact sameShape_finalize.trans ((alike_release _ _).sameShape.trans h1)

lemma usageReceipts_finalize {failed : Option String} :
    (t.finalizeTerminalTree failed).usageReceipts = t.usageReceipts := by
  have hv : ∀ s : RecursiveTree, s.finalizeVerdict.usageReceipts = s.usageReceipts := by
    intro s
    obtain ⟨state, ha⟩ := alike_finalizeVerdict_state
    exact ha.usageReceipts
  unfold finalizeTerminalTree
  split_ifs
  · rfl
  · cases failed with
    | none => exact hv t
    | some k =>
      refine (hv _).trans ?_
      exact (alike_closeNodes t _ _).usageReceipts

lemma usageReceipts_settledTree (t : RecursiveTree) :
    (t.settledTree node k leaseId receiptId success retry usage).usageReceipts =
      t.usageReceipts.insert (receiptId, receiptText (t.withinTreeBudget usage true) usage) := by
  have h1 := t.usageReceipts_afterAttempt node k leaseId receiptId success usage
  cases retry with
  | true => exact h1
  | false =>
    exact usageReceipts_finalize.trans ((alike_release _ _).usageReceipts.trans h1)

lemma leasesOk_settledTree (h : t.LeasesOk) (hn : t.nodes.find? k = some node)
    (hl : node.leaseId = some leaseId) :
    (t.settledTree node k leaseId receiptId success retry usage).LeasesOk := by
  have h1 := leasesOk_afterAttempt h hn hl receiptId success usage
  cases retry with
  | true =>
    obtain ⟨m, completed, reason, hm, c, v, rfl⟩ :=
      find?_afterAttempt hn leaseId receiptId success usage
    refine h1.idle hm rfl retry ?_ rfl rfl
    unfold retry
    split_ifs
    · exact ⟨rfl, by simp⟩
    · exact ⟨rfl, by simp [requeue]⟩
  | false => exact leasesOk_finalize (h1.congr (alike_release _ _))

/-- Usage above the node's own budget stops the whole tree. -/
lemma quiet_settledTree (hn : t.nodes.find? k = some node) (success : Bool)
    (hno : node.budget.canSpend usage = false) :
    (t.settledTree node k leaseId receiptId success false usage).Quiet := by
  have hex : ∃ s : RecursiveTree, ∃ m, s.nodes.find? k = some m ∧ m.status.terminal = true ∧
      t.afterAttempt node k leaseId receiptId success usage = (s.exhaust k).bumpVersion := by
    refine ⟨((t.recordFreshUsage receiptId usage true).chargeNode k usage).endAttempt k leaseId
      (success && false) (nodeFailureReason node success false),
      (node.charge usage).finish (success && false) (nodeFailureReason node success false),
      ?_, ?_, ?_⟩
    · unfold endAttempt
      rw [find?_modify, if_pos rfl, find?_charged _ _ hn]
      rfl
    · simp [finish, RecursiveNodeStatus.terminal]
    · simp [afterAttempt, hno]
  obtain ⟨s, m, hm, hterm, he⟩ := hex
  have hstate : (s.exhaust k).bumpVersion.executionState.closed = true := by
    rw [alike_bumpVersion.executionState, (alike_exhaust k).executionState]
    rfl
  have hq := (quiet_exhaust hm hterm).congr alike_bumpVersion
  change ((t.afterAttempt node k leaseId receiptId success usage).closeOut k _).Quiet
  rw [he, closeOut, finalize_of_closed]
  · exact hq.congr (alike_release _ _)
  · rw [(alike_release _ _).executionState]
    exact hstate

lemma books_settledTree (h : Sound x t) (hn : t.nodes.find? k = some node)
    (hroot : k ≠ t.rootNodeId) (hlive : node.status.terminal = false)
    (hretry : retry = true →
      node.retryCount < maxRecursiveRetries ∧ node.budget.canSpend usage = true)
    (hover : excess = false →
      t.recordedOverrun = false ∧
        (usage.amount d ≤ node.budget.amount d ∨ node.budgetLimit.amount d = u64Max)) :
    ((t.settledTree node k leaseId receiptId success retry usage).ledger d).Balanced excess []
      0 := by
  have h1 := books_afterAttempt h hn hroot hlive leaseId receiptId success hover
  have hheld := held_eq_left (d := d) h hn hroot hlive
  obtain ⟨m, completed, reason, hm, c, v, rfl⟩ :=
    find?_afterAttempt hn leaseId receiptId success usage
  have hk := key_of_find? hn
  have hrootId : (t.afterAttempt node k leaseId receiptId success usage).rootNodeId = t.rootNodeId :=
    (t.sameShape_afterAttempt node k leaseId receiptId success usage).rootNodeId
  cases retry with
  | true =>
    obtain ⟨hcount, hfits⟩ := hretry rfl
    have hle := (canSpend_iff _ _).mp hfits d
    rw [Nat.sub_eq_zero_of_le hle] at h1
    have h2 := h1.reopen (exists_account hm)
      (by simp [account, finish, charge, hrootId, hk, hroot])
      (by simp [account, finish, charge, hheld])
    change ((({ t.afterAttempt node k leaseId receiptId success usage with
      nodes := (t.afterAttempt node k leaseId receiptId success usage).nodes.modify k .retry
        nodeId_retry } : RecursiveTree)).ledger d).Balanced excess [] 0
    rw [ledger_requeue]
    · exact h2
    · intro n hn' hid
      have hkey := (t.afterAttempt node k leaseId receiptId success usage).nodes.find?_key hn'
      rw [hid, hm] at hkey
      cases hkey
      rw [retry_of_lt]
      · rfl
      · exact hcount
  | false =>
    have h2 := h1.release (exists_account hm)
      (by cases completed <;> simp [account, finish,
        RecursiveNodeStatus.terminal])
    rw [← ledger_release] at h2
    have h3 := books_finalize h2 ((t.afterAttempt node k leaseId receiptId success usage).failedNode k)
    by_cases hle : usage.amount d ≤ node.budget.amount d
    · rw [Nat.sub_eq_zero_of_le hle] at h3
      exact h3
    · -- more than the node holds: the whole tree was closed, so nothing is held any more
      refine h3.settle ?_
      have hno : node.budget.canSpend usage = false := by
        rw [Bool.eq_false_iff, ne_eq, canSpend_iff]
        exact fun hall => hle (hall d)
      exact total_held_of_quiet h3
        (shape_congr h.shape (t.sameShape_settledTree node k leaseId receiptId success false usage))
        (quiet_settledTree hn success hno)

/-- What the settlement leaves of the node's own account. -/
lemma find?_settledTree (hn : t.nodes.find? k = some node) :
    ∃ m, (t.settledTree node k leaseId receiptId success retry usage).nodes.find? k = some m ∧
      m.budget = node.budget.spend usage ∧ m.actualUsage = node.actualUsage.add usage ∧
      m.budgetLimit = node.budgetLimit := by
  obtain ⟨m, completed, reason, hm, hu⟩ :=
    find?_afterAttempt hn leaseId receiptId success usage
  cases retry with
  | true =>
    refine ⟨m.retry, ?_, ?_⟩
    · change ((t.afterAttempt node k leaseId receiptId success usage).nodes.modify k .retry
        nodeId_retry).find? k = _
      rw [find?_modify, if_pos rfl, hm]
      rfl
    · obtain ⟨c, v, rfl⟩ := hu
      unfold retry
      split_ifs <;> exact ⟨rfl, rfl, rfl⟩
  | false =>
    obtain ⟨c, v, rfl⟩ := hu
    obtain ⟨m, hm', hu⟩ := find?_release hm
    obtain ⟨c, v, rfl⟩ := if_pos rfl ▸ hu
    obtain ⟨m, hm'', c, v, rfl⟩ := find?_finalize hm'
      (by cases completed <;> simp [finish, RecursiveNodeStatus.terminal])
    exact ⟨_, hm'', rfl, rfl, rfl⟩

variable (t node usage) in
/-- The usage fits the node's own budget, or it is excused: by a limit nothing
exceeds, by an overrun on record, or by exceeding the whole tree's limit too. -/
def UsageCovered : Prop :=
  (∀ d, usage.amount d ≤ node.budget.amount d ∨ node.budgetLimit.amount d = u64Max) ∨
    t.recordedOverrun = true ∨
    t.rootBudgetLimit.any (fun limit =>
      !limit.canSpend ((t.spentBudget.add usage).add (t.reservedBudget.spend usage))) = true

lemma withinTreeBudget_eq_false :
    t.withinTreeBudget usage true = false ↔
      t.rootBudgetLimit.any (fun limit =>
            !limit.canSpend ((t.spentBudget.add usage).add (t.reservedBudget.spend usage))) =
        true := by
  unfold withinTreeBudget
  cases t.rootBudgetLimit <;> simp

lemma recordedOverrun_settledTree (hf : t.usageReceipts.find? receiptId = none) :
    (t.settledTree node k leaseId receiptId success retry usage).recordedOverrun =
      (!t.withinTreeBudget usage true || t.recordedOverrun) :=
  recordedOverrun_insert
    t.usageReceipts_settledTree hf

lemma sound_settledTree (h : Sound x t) (hn : t.nodes.find? k = some node)
    (hl : node.leaseId = some leaseId) (hroot : k ≠ t.rootNodeId)
    (hf : t.usageReceipts.find? receiptId = none) (success : Bool)
    (hretry : retry = true →
      node.retryCount < maxRecursiveRetries ∧ node.budget.canSpend usage = true)
    (hsize : t.usageReceipts.size < maxRecursiveNodesPerRoot * 2) (hid : receiptId ≠ "")
    (hcov : t.UsageCovered node usage) :
    Sound x (t.settledTree node k leaseId receiptId success retry usage) := by
  have hleased : node.status = .leased :=
    (h.leases.leased node (mem_of_find? hn)).mpr (by simp [hl])
  have hlive : node.status.terminal = false := by rw [hleased]; rfl
  refine ⟨shape_congr h.shape (t.sameShape_settledTree node k leaseId receiptId success retry usage),
    leasesOk_settledTree h.leases hn hl, ?_, fun d => ?_⟩
  · exact (receiptShape_fresh
      t.usageReceipts_settledTree hf
      h.receipts).mpr ⟨hsize, hid⟩
  · refine books_settledTree h hn hroot hlive hretry fun ho => ?_
    rw [recordedOverrun_settledTree hf, Bool.or_eq_false_iff, Bool.not_eq_false'] at ho
    refine ⟨ho.2, ?_⟩
    rcases hcov with hfit | hov | htree
    · exact hfit d
    · rw [hov] at ho
      exact absurd ho.2 (by decide)
    · rw [← withinTreeBudget_eq_false, ho.1] at htree
      exact absurd htree (by decide)

/-- Without an overrun on record, a node charged more than it had no longer adds up. -/
lemma covered_of_checked (hn : t.nodes.find? k = some node)
    (hf : t.usageReceipts.find? receiptId = none) (hc : ∀ d, (t.ledger d).Checked t.recordedOverrun)
    (hc' : ∀ d, ((t.settledTree node k leaseId receiptId success retry usage).ledger d).Checked
      (t.settledTree node k leaseId receiptId success retry usage).recordedOverrun) :
    t.UsageCovered node usage := by
  by_contra hnot
  simp only [UsageCovered, not_or, ← withinTreeBudget_eq_false, Bool.not_eq_false,
    Bool.not_eq_true] at hnot
  obtain ⟨hfit, hov, hin⟩ := hnot
  obtain ⟨d, hd⟩ := not_forall.mp hfit
  have hover : (t.settledTree node k leaseId receiptId success retry usage).recordedOverrun =
      false := by
    rw [recordedOverrun_settledTree hf, hov, hin]
    rfl
  obtain ⟨m, hm, hb, ha, hl⟩ := find?_settledTree hn
  have h1 := ((hc d).account _ (mem_of_find? (exists_account hn))).own_eq hov
  have h2 := ((hc' d).account _ (mem_of_find? (exists_account hm))).own_eq hover
  have hcap : (t.ledger d).cap = u64Max := rfl
  have hcap' : ((t.settledTree node k leaseId receiptId success retry usage).ledger d).cap = u64Max :=
    rfl
  simp only [account, hb, ha, hl, hcap, hcap', amount_spend,
    amount_add] at h1 h2
  omega

variable (success : Bool) in
lemma grown_settledTree :
    Grown (4 * t.nodes.size + 6) t
      (t.settledTree node k leaseId receiptId success retry usage) := by
  have h1 : ∀ completed reason, Grown 2 t
      (((t.recordFreshUsage receiptId usage true).chargeNode k usage).endAttempt k leaseId completed
        reason) := fun completed reason =>
    (grown_recordFreshUsage.trans (grown_chargeNode _ k usage)).trans (grown_endAttempt ..)
  have h2 : Grown (2 * t.nodes.size + 4) t
      (t.afterAttempt node k leaseId receiptId success usage) := by
    unfold afterAttempt
    dsimp only
    split_ifs
    · exact (h1 _ _).bumpVersion.mono (by omega)
    · have hend := h1 (success && (node.budget.canSpend usage && t.withinTreeBudget usage true))
        (nodeFailureReason node success (node.budget.canSpend usage && t.withinTreeBudget usage true))
      refine (hend.trans grown_exhaust).bumpVersion.mono ?_
      rw [hend.size]
      omega
  cases retry with
  | true =>
    have hretry : ∀ n : RecursiveNode, n.Stretched 1 n.retry := by
      intro n
      unfold RecursiveNode.retry
      split_ifs
      · exact ⟨rfl, le_rfl, Nat.le_succ _, .inr rfl⟩
      · exact ⟨rfl, le_rfl, le_rfl, .inr rfl⟩
    have h3 : Grown 1 (t.afterAttempt node k leaseId receiptId success usage)
        { t.afterAttempt node k leaseId receiptId success usage with
          nodes := (t.afterAttempt node k leaseId receiptId success usage).nodes.modify k .retry
            nodeId_retry } :=
      .of_modify (k := k) rfl hretry (Nat.le_succ _) (Finset.Subset.refl _)
    exact (h2.trans h3).bumpVersion.mono (by omega)
  | false =>
    have h3 := h2.trans (grown_release (k := k))
    refine (h3.trans grown_finalize).mono ?_
    rw [h3.size]
    omega

lemma room_sampleLeased : sampleLeased.Room "r-1" := by
  unfold Room
  decide +kernel

end RecursiveTree

end Harness
