import Harness.Proofs.Settlement

/-! Usage that arrives after its lease was replaced or ended. -/

namespace Harness

open Lib Table RecursiveNode RecursiveBudget

namespace RecursiveTree

variable {x : Externals} {t : RecursiveTree} {node : RecursiveNode} {k : String}

variable (t node) in
/-- The tree `record_late_usage` leaves when the receipt is new. -/
def lateTree (k receiptId : String) (usage : RecursiveBudget) : RecursiveTree :=
  let t' := ((t.recordFreshUsage receiptId usage true).chargeNode k usage).bumpNode k
  (if node.budget.canSpend usage && t.withinTreeBudget usage true then t'
    else t'.recordOverrun k receiptId usage).bumpVersion

variable {usage : RecursiveBudget} {receiptId : String}

lemma recordLateUsage_fresh (hn : t.nodes.find? k = some node)
    (hf : t.usageReceipts.find? receiptId = none) :
    t.recordLateUsage k receiptId usage =
      (.ok (node.budget.canSpend usage && t.withinTreeBudget usage true),
        t.lateTree node k receiptId usage) := by
  simp [recordLateUsage, hf, hn, recordUsage, recordUsageInternal, lateTree]

section Late

variable (t) (receiptId : String) (usage : RecursiveBudget)

/-- The tree after the charge, before an overrun stops it. -/
def lateCharged (t : RecursiveTree) (k receiptId : String) (usage : RecursiveBudget) :
    RecursiveTree :=
  ((t.recordFreshUsage receiptId usage true).chargeNode k usage).bumpNode k

lemma alike_lateCharged (k : String) :
    Alike (t.lateCharged k receiptId usage) (t.recordFreshUsage receiptId usage true) :=
  (alike_bumpNode _).trans (alike_chargeNode _ _)

/-- The charged tree with its receipt rewritten to an overrun. -/
def lateOverrun (t : RecursiveTree) (k receiptId : String) (usage : RecursiveBudget) :
    RecursiveTree :=
  { t.lateCharged k receiptId usage with
    usageReceipts := t.usageReceipts.insert (receiptId, receiptText false usage) }

/-- The three ways a late charge ends. -/
lemma lateTree_cases (k : String) :
    (node.budget.canSpend usage = true ∧ t.withinTreeBudget usage true = true ∧
        t.lateTree node k receiptId usage = (t.lateCharged k receiptId usage).bumpVersion) ∨
      ((node.budget.canSpend usage && t.withinTreeBudget usage true) = false ∧
        ((t.executionState.settled = true ∧
            t.lateTree node k receiptId usage = (t.lateOverrun k receiptId usage).bumpVersion) ∨
          (t.executionState.settled = false ∧
            t.lateTree node k receiptId usage =
              ((t.lateOverrun k receiptId usage).exhaust k).bumpVersion))) := by
  cases hw : node.budget.canSpend usage && t.withinTreeBudget usage true with
  | true =>
    obtain ⟨h1, h2⟩ := Bool.and_eq_true_iff.mp hw
    exact .inl ⟨h1, h2, by simp [lateTree, lateCharged, hw]⟩
  | false =>
    have hins : (t.lateCharged k receiptId usage).usageReceipts.insert
        (receiptId, receiptText false usage) =
        t.usageReceipts.insert (receiptId, receiptText false usage) :=
      t.usageReceipts.insert_insert rfl
    have hst : (t.lateCharged k receiptId usage).executionState.settled =
        t.executionState.settled := by
      rw [(t.alike_lateCharged receiptId usage k).executionState, recordFreshUsage]
      cases t.executionState <;> cases t.withinTreeBudget usage true <;> rfl
    have hlate : t.lateTree node k receiptId usage =
        ((t.lateCharged k receiptId usage).recordOverrun k receiptId usage).bumpVersion := by
      simp [lateTree, lateCharged, hw]
    refine .inr ⟨rfl, ?_⟩
    rw [hlate, recordOverrun]
    rw [hins, hst]
    cases t.executionState.settled with
    | true => exact .inl ⟨rfl, rfl⟩
    | false => exact .inr ⟨rfl, rfl⟩

lemma sameShape_lateCharged : SameShape (t.lateCharged k receiptId usage) t :=
  (t.alike_lateCharged receiptId usage k).sameShape.trans sameShape_recordFreshUsage

lemma sameShape_lateOverrun (k : String) : SameShape (t.lateOverrun k receiptId usage) t := by
  have h : SameShape (t.lateOverrun k receiptId usage) (t.lateCharged k receiptId usage) := rfl
  exact h.trans (t.sameShape_lateCharged receiptId usage)

variable {d : Dim}

lemma ledger_lateCharged :
    (t.lateCharged k receiptId usage).ledger d = (t.ledger d).charge k (usage.amount d) := by
  rw [lateCharged, ledger_bumpNode, ledger_chargeNode]

lemma ledger_lateOverrun :
    (t.lateOverrun k receiptId usage).ledger d = (t.ledger d).charge k (usage.amount d) :=
  t.ledger_lateCharged receiptId usage

variable {t}

lemma leasesOk_lateCharged (h : t.LeasesOk) : (t.lateCharged k receiptId usage).LeasesOk := by
  have h1 : (t.recordFreshUsage receiptId usage true).LeasesOk := ⟨h.1, h.2, h.3, h.4⟩
  exact h1.congr (t.alike_lateCharged receiptId usage k)

lemma leasesOk_lateOverrun (h : t.LeasesOk) : (t.lateOverrun k receiptId usage).LeasesOk :=
  (leasesOk_lateCharged receiptId usage h).with_state

lemma find?_lateOverrun (hn : t.nodes.find? k = some node) :
    (t.lateOverrun k receiptId usage).nodes.find? k =
      some { node.charge usage with version := node.version + 1 } := by
  change (((t.recordFreshUsage receiptId usage true).chargeNode k usage).bumpNode k).nodes.find? k = _
  unfold bumpNode
  rw [find?_modify, if_pos rfl, find?_charged _ _ hn]
  rfl

lemma quiet_lateOverrun (h : t.Quiet) : (t.lateOverrun k receiptId usage).Quiet := by
  have h1 : (t.recordFreshUsage receiptId usage true).Quiet := h
  have h2 := h1.congr (t.alike_lateCharged receiptId usage k)
  exact h2

end Late

variable (t node usage) in
/-- Nothing tells on a charge that no reservation pays: there is none, or nothing is reserved and the
sums above the node are not exact anyway, for an overrun on record or for limits nothing exceeds. -/
def Unnoticed (d : Dim) : Prop :=
  usage.amount d = 0 ∨
    t.reservedBudget.amount d = 0 ∧
      (t.recordedOverrun = true ∨
        (t.rootBudgetLimit.getD .zero).amount d = u64Max ∧
          ∀ p ∈ t.nodes.rows, node.parentNodeId = some p.nodeId →
            p.childBudgetLimit.amount d = u64Max)

section Sound

variable (h : Sound x t) (hn : t.nodes.find? k = some node) (hroot : k ≠ t.rootNodeId)

include h hn hroot in
/-- An overrun is on record, so the charge may exceed what the node holds. -/
lemma books_lateOverrun (receiptId : String) (usage : RecursiveBudget) (d : Dim) :
    ((t.lateOverrun k receiptId usage).ledger d).Balanced true []
      (usage.amount d - node.reservation.amount d) := by
  have ha : (t.ledger d).accounts.find? k = some (node.account t.rootNodeId d) := exists_account hn
  have hk := key_of_find? hn
  have hno : true = false → t.recordedOverrun = false ∧
      (t.ledger d).Payable (node.account t.rootNodeId d) (usage.amount d) := Bool.noConfusion
  have hc := (h.books d).charge ha (by simp [account, hk, hroot]) _ hno
  rw [zero_add] at hc
  rw [ledger_lateOverrun]
  exact hc

variable {receiptId : String} {usage : RecursiveBudget}
  (hf : t.usageReceipts.find? receiptId = none)
  (hsize : t.usageReceipts.size < maxRecursiveNodesPerRoot * 2) (hid : receiptId ≠ "")

include h hf hsize hid

lemma lateCharged_frame (hwithin : t.withinTreeBudget usage true = true) :
    Shape x (t.lateCharged k receiptId usage) ∧ (t.lateCharged k receiptId usage).LeasesOk ∧
      ReceiptShape (t.lateCharged k receiptId usage) ∧
      (t.lateCharged k receiptId usage).recordedOverrun = t.recordedOverrun := by
  have hrec : (t.lateCharged k receiptId usage).usageReceipts =
      t.usageReceipts.insert (receiptId, receiptText true usage) := by
    rw [(t.alike_lateCharged receiptId usage k).usageReceipts, recordFreshUsage, hwithin]
  refine ⟨shape_congr h.shape (t.sameShape_lateCharged receiptId usage),
    leasesOk_lateCharged receiptId usage h.leases,
    (receiptShape_fresh hrec hf h.receipts).mpr ⟨hsize, hid⟩, ?_⟩
  rw [recordedOverrun_insert hrec hf, Bool.not_true, Bool.false_or]

include hn hroot

/-- A live node pays from the reservation it holds. -/
lemma sound_lateCharged (hlive : node.status.terminal = false)
    (hfits : node.budget.canSpend usage = true) (hwithin : t.withinTreeBudget usage true = true) :
    Sound x (t.lateCharged k receiptId usage) := by
  obtain ⟨hs, hl, hr, ho⟩ := lateCharged_frame h hf hsize hid hwithin
  refine ⟨hs, hl, hr, fun d => ?_⟩
  have ha : (t.ledger d).accounts.find? k = some (node.account t.rootNodeId d) := exists_account hn
  have hle := (canSpend_iff _ _).mp hfits d
  have hheld := held_eq_left (d := d) h hn hroot hlive
  have hk := key_of_find? hn
  rw [ho, ledger_lateCharged]
  have hc := (h.books d).charge ha (by simp [account, hk, hroot]) (usage.amount d)
    fun ho => ⟨ho, .inl ⟨hle.trans hheld.ge, hle⟩⟩
  have hz : 0 + (usage.amount d - (node.account t.rootNodeId d).held) = 0 := by
    have : usage.amount d ≤ (node.account t.rootNodeId d).held := hle.trans hheld.ge
    omega
  rwa [hz] at hc

/-- A node that is over holds nothing to pay with. -/
lemma accepted_lateCharged_iff (hdone : node.status.terminal = true)
    (hfits : node.budget.canSpend usage = true) (hwithin : t.withinTreeBudget usage true = true) :
    (t.lateCharged k receiptId usage).bumpVersion.validateTree x = .ok () ↔
      ∀ d, t.Unnoticed node usage d := by
  obtain ⟨hs, hl, hr, ho⟩ := lateCharged_frame h hf hsize hid hwithin
  have hbooks : ∀ d, ((t.lateCharged k receiptId usage).ledger d).Checked
      (t.lateCharged k receiptId usage).recordedOverrun ↔ t.Unnoticed node usage d := by
    intro d
    have hk := key_of_find? hn
    have hheld : (node.account t.rootNodeId d).held = 0 :=
      reservation_of_idle (h.books d) h.shape (mem_of_find? hn) fun _ => hdone
    rw [ho, ledger_lateCharged, (h.books d).checked_charge_iff (exists_account hn)
      (by simp [account, hk, hroot]) hheld ((canSpend_iff _ _).mp hfits d)]
    refine or_congr_right (and_congr_right fun _ => or_congr_right (and_congr_right fun _ => ?_))
    exact List.forall_mem_map
  rw [validateTree_eq_ok]
  refine ⟨fun hacc d => (hbooks d).mp (hacc.2.2.2 d), fun hall => ?_⟩
  exact ⟨shape_congr hs alike_bumpVersion.sameShape, (hl.congr alike_bumpVersion).index,
    ⟨hr.size_le, hr.named⟩, fun d => (hbooks d).mpr (hall d)⟩

/-- A tree that is over takes the charge without changing otherwise. -/
lemma sound_lateOverrun (usage : RecursiveBudget)
    (hq : t.Quiet) : Sound x (t.lateOverrun k receiptId usage) := by
  have hrec : (t.lateOverrun k receiptId usage).usageReceipts =
      t.usageReceipts.insert (receiptId, receiptText false usage) := rfl
  have hs := shape_congr h.shape (t.sameShape_lateOverrun receiptId usage k)
  refine ⟨hs, leasesOk_lateOverrun receiptId usage h.leases,
    (receiptShape_fresh hrec hf h.receipts).mpr ⟨hsize, hid⟩, fun d => ?_⟩
  have hb := books_lateOverrun h hn hroot receiptId usage d
  rw [recordedOverrun_insert hrec hf]
  exact hb.settle (total_held_of_quiet hb hs (quiet_lateOverrun receiptId usage hq))

/-- A tree that still runs is stopped. -/
lemma sound_lateOverrun_exhaust (usage : RecursiveBudget) :
    Sound x ((t.lateOverrun k receiptId usage).exhaust k) := by
  have hrec : ((t.lateOverrun k receiptId usage).exhaust k).usageReceipts =
      t.usageReceipts.insert (receiptId, receiptText false usage) := usageReceipts_exhaust
  have hs : Shape x ((t.lateOverrun k receiptId usage).exhaust k) :=
    shape_congr h.shape (sameShape_exhaust.trans (t.sameShape_lateOverrun receiptId usage k))
  refine ⟨hs, leasesOk_exhaust (leasesOk_lateOverrun receiptId usage h.leases),
    (receiptShape_fresh hrec hf h.receipts).mpr ⟨hsize, hid⟩, fun d => ?_⟩
  have hb := books_exhaust (books_lateOverrun h hn hroot receiptId usage d) k
  rw [recordedOverrun_insert hrec hf]
  by_cases hle : usage.amount d ≤ node.reservation.amount d
  · rw [Nat.sub_eq_zero_of_le hle] at hb
    exact hb
  · -- only the node itself may still be live, and it holds nothing any more
    refine hb.settle (total_held_eq_zero fun n hn' => ?_)
    by_cases hk : n.nodeId = k
    · obtain ⟨m, hm, c, v, rfl⟩ := find?_exhaust (find?_lateOverrun receiptId usage hn)
      have hkey := ((t.lateOverrun k receiptId usage).exhaust k).nodes.find?_key hn'
      rw [hk, hm] at hkey
      cases hkey
      simp only [charge, amount_spend]
      omega
    · refine reservation_of_idle hb hs hn' fun hp => ?_
      exact terminal_terminalize _ n hn' hp (by simpa using hk)

end Sound

/-- What holds at each of the three ends holds of the tree. -/
lemma lateTree_ends {P : RecursiveTree → Prop}
    (hcharged : P (t.lateCharged k receiptId usage).bumpVersion)
    (hover : P (t.lateOverrun k receiptId usage).bumpVersion)
    (hstop : P ((t.lateOverrun k receiptId usage).exhaust k).bumpVersion) :
    P (t.lateTree node k receiptId usage) := by
  rcases t.lateTree_cases receiptId usage k with ⟨-, -, h⟩ | ⟨-, ⟨-, h⟩ | ⟨-, h⟩⟩ <;> rwa [h]

lemma spentBudget_lateTree (t : RecursiveTree) :
    (t.lateTree node k receiptId usage).spentBudget = t.spentBudget.add usage :=
  lateTree_ends (P := fun s => s.spentBudget = _) rfl rfl (congrArg Prod.fst spending_exhaust)

/-- Apart from the charge the node itself stays as it was. -/
lemma find?_lateTree (hn : t.nodes.find? k = some node) :
    ∃ m, (t.lateTree node k receiptId usage).nodes.find? k = some m ∧
      Untouched (node.charge usage) m := by
  have h := find?_lateOverrun receiptId usage hn
  obtain ⟨m, hm, hu⟩ := find?_exhaust h
  exact lateTree_ends (P := fun s => ∃ m, s.nodes.find? k = some m ∧ Untouched _ m)
    ⟨_, h, _, _, rfl⟩ ⟨_, h, _, _, rfl⟩ ⟨m, hm, Untouched.trans ⟨_, _, rfl⟩ hu⟩

lemma find?_lateCharged_ne {j : String} (hjk : j ≠ k) :
    (t.lateCharged k receiptId usage).nodes.find? j = t.nodes.find? j := by
  unfold lateCharged bumpNode chargeNode recordFreshUsage
  rw [find?_modify, if_neg hjk, find?_modify, if_neg hjk]

lemma usageReceipts_lateTree (t : RecursiveTree) :
    ∃ within, (t.lateTree node k receiptId usage).usageReceipts =
      t.usageReceipts.insert (receiptId, receiptText within usage) :=
  lateTree_ends (P := fun s => ∃ within, s.usageReceipts =
      t.usageReceipts.insert (receiptId, receiptText within usage))
    ⟨_, (t.alike_lateCharged receiptId usage k).usageReceipts⟩ ⟨false, rfl⟩
    ⟨false, usageReceipts_exhaust⟩

lemma sameShape_lateTree (t : RecursiveTree) :
    SameShape (t.lateTree node k receiptId usage) t := by
  have h := t.sameShape_lateOverrun receiptId usage k
  exact lateTree_ends (P := fun s => SameShape s t)
    (alike_bumpVersion.sameShape.trans (t.sameShape_lateCharged receiptId usage))
    (alike_bumpVersion.sameShape.trans h)
    (alike_bumpVersion.sameShape.trans (sameShape_exhaust.trans h))

lemma grown_lateTree (t : RecursiveTree) :
    Grown (2 * t.nodes.size + 4) t (t.lateTree node k receiptId usage) := by
  have h1 : Grown 2 t (t.lateCharged k receiptId usage) :=
    (grown_recordFreshUsage.trans (grown_chargeNode _ k usage)).trans (grown_bumpNode _ k)
  have h2 : Grown 2 t (t.lateOverrun k receiptId usage) := ⟨h1.rows, h1.version, h1.leases⟩
  refine lateTree_ends (P := Grown _ t) (h1.bumpVersion.mono (by omega))
    (h2.bumpVersion.mono (by omega)) ((h2.trans grown_exhaust).bumpVersion.mono ?_)
  rw [h2.size]
  omega

end RecursiveTree

end Harness
