import Harness.Proofs.Absorption
import Harness.Sanity.Admission

/-! The transactions of the store on one tree, and what each of them does to it
when it succeeds. -/

namespace Harness

open Lib Table Option RecursiveNode RecursiveBudget Ledger

/-- A transaction on the tree of a run. `early` says that the workflow node has not
used up its attempts. -/
inductive Transaction where
  | admitChild (env : RecursiveEnv) (proposal : RecursiveProposal)
  | lease (env : RecursiveEnv) (nodeId leaseId : String)
  | settle (env : RecursiveEnv) (nodeId leaseId usageReceiptId : String) (success retry : Bool)
      (usage : RecursiveBudget)
  | settleRoot (leaseId usageReceiptId : String) (success : Bool) (usage : RecursiveBudget)
  | recover (env : RecursiveEnv) (nodeId leaseId : String) (early : Bool) (usage : RecursiveBudget)
  | pause
  | resume
  | setPaused (paused : Bool) (terminalReason : Option String)

/-- The tree the transaction hands to the validator. -/
def Transaction.commit (x : Externals) (t : RecursiveTree) :
    Transaction → Except RecursiveFailureReason RecursiveTree
  | admitChild env proposal => RecursiveTree.treeOf (t.admitChild x env proposal)
  | lease env nodeId leaseId => t.syncRecursiveLease env nodeId leaseId
  | settle env nodeId leaseId receiptId success retry usage =>
    t.syncRecursiveCompletionWithReceipt env nodeId leaseId receiptId success retry usage
  | settleRoot leaseId receiptId success usage =>
    t.syncRecursiveRootCompletionWithReceipt leaseId receiptId success usage
  | recover env nodeId leaseId early usage => do
    let allowed ← t.retryAllowed env nodeId usage
    t.syncRecursiveStaleRecovery nodeId leaseId (early && allowed)
  | pause => .ok t.pause
  | resume => .ok t.resume
  | setPaused paused terminalReason => .ok (t.setRecursiveExecutionPaused paused terminalReason)

namespace RecursiveTree

variable {x : Externals} {t t' : RecursiveTree} {k leaseId : String} {node : RecursiveNode}

lemma treeOf_eq_ok {α : Type} {o : Outcome α} : treeOf o = .ok t ↔ ∃ a, o = (.ok a, t) := by
  obtain ⟨result, s⟩ := o
  cases result <;> simp [treeOf, Except.map]

lemma nodeId_lease (leaseId : String) (n : RecursiveNode) :
    (n.lease leaseId).nodeId = n.nodeId := rfl

def leasedTree (t : RecursiveTree) (k leaseId : String) : RecursiveTree :=
  { t with
    nodes := t.nodes.modify k (fun n => n.lease leaseId) (nodeId_lease leaseId)
    activeLeases := insert leaseId t.activeLeases
    version := t.version + 1 }

variable {success retry within excess paused : Bool} {d : Dim} {terminalReason : Option String}
  {env : RecursiveEnv}

lemma leaseNode_eq_ok (h : treeOf (t.leaseNode env k leaseId) = .ok t') :
    ∃ node, t.nodes.find? k = some node ∧ node.leaseId = none ∧ node.status = .ready ∧
      t.executionState = .running ∧ t.activeLeases.card < maxRecursiveLeases ∧
      t' = t.leasedTree k leaseId := by
  obtain ⟨u, h⟩ := treeOf_eq_ok.mp h
  unfold leaseNode at h
  cases hr : t.schedulingRefusal env with
  | some reason => simp [hr] at h
  | none =>
    rw [hr] at h
    split_ifs at h with hcap
    · cases h
    · cases hn : t.nodes.find? k with
      | none => simp [hn] at h
      | some node =>
        rw [hn] at h
        dsimp only at h
        split_ifs at h with hbusy
        · cases h
        · simp only [Bool.or_eq_true, decide_eq_true_eq, not_or, ne_eq, not_not,
            isSome_iff_ne_none] at hbusy
          exact ⟨node, rfl, hbusy.1, hbusy.2, schedulingRefusal_eq_none hr, Nat.not_le.mp hcap,
            (Prod.mk.inj h).2.symm⟩

lemma syncRecursiveLease_eq_ok (h : t.syncRecursiveLease env k leaseId = .ok t') :
    ∃ node, t.nodes.find? k = some node ∧ node.leaseId = none ∧ node.status = .ready ∧
      t.executionState = .running ∧ t.activeLeases.card < maxRecursiveLeases ∧
      t' = t.leasedTree k leaseId := by
  unfold syncRecursiveLease at h
  split_ifs at h
  exact leaseNode_eq_ok h

lemma sameShape_leasedTree : SameShape (t.leasedTree k leaseId) t := by
  refine sameShape_of_nodes ?_
  exact frozenNodes_modify fun _ => rfl

lemma sound_leasedTree (h : Sound x t) (hn : t.nodes.find? k = some node) (hl : node.leaseId = none)
    (hs : node.status = .ready) (hcap : t.activeLeases.card < maxRecursiveLeases)
    (hfresh : leaseId ∉ t.activeLeases) : Sound x (t.leasedTree k leaseId) := by
  refine ⟨shape_congr h.shape sameShape_leasedTree,
    h.leases.lease hn hl hcap hfresh rfl rfl, ⟨h.receipts.size_le, h.receipts.named⟩, fun d => ?_⟩
  have hledger : (t.leasedTree k leaseId).ledger d = t.ledger d := by
    refine Ledger.ext rfl rfl rfl rfl rfl (ext ?_)
    refine map_account_same d k fun n hn' hk => ?_
    obtain rfl : n = node := by
      rw [← hk, t.nodes.find?_key hn'] at hn
      exact some.inj hn
    simp only [account, lease, hs]
    rfl
  rw [hledger]
  exact h.books d

/-- Only the holder of the lease settles. -/
lemma syncRecursiveCompletion_node {receiptId : String} {usage : RecursiveBudget}
    (h : t.syncRecursiveCompletionWithReceipt env k leaseId receiptId success retry usage =
      .ok t') :
    ∃ node, t.nodes.find? k = some node ∧ node.leaseId = some leaseId := by
  have hcall : ∃ s, treeOf (t.completeNodeWithUsageReceipt k leaseId receiptId success usage) =
      .ok s := by
    unfold syncRecursiveCompletionWithReceipt at h
    dsimp only at h
    split_ifs at h
    · cases h
    · cases h
    all_goals
      obtain ⟨allowed, -, h⟩ := bind_ok h
      obtain ⟨s, hs, -⟩ := bind_ok h
      exact ⟨s, hs⟩
  obtain ⟨s, hs⟩ := hcall
  rcases t.completeNode_cases k leaseId receiptId success usage with
    ⟨reason, hr⟩ | ⟨node, hn, hl, -⟩
  · rw [hr] at hs
    cases hs
  · exact ⟨node, hn, hl⟩

def rootSettledTree (t : RecursiveTree) (root : RecursiveNode) (leaseId receiptId : String)
    (success : Bool) (usage : RecursiveBudget) : RecursiveTree :=
  ((t.rootCharged receiptId usage).rootEnded leaseId success
    (root.budget.canSpend usage && t.withinTreeBudget usage false)).finalizeTerminalTree none

variable {root : RecursiveNode} {receiptId : String} {usage : RecursiveBudget}

lemma syncRecursiveRootCompletion_fresh (hf : t.usageReceipts.find? receiptId = none)
    (h : t.syncRecursiveRootCompletionWithReceipt leaseId receiptId success usage = .ok t') :
    ∃ root, t.nodes.find? t.rootNodeId = some root ∧ root.parentNodeId = none ∧
      root.leaseId = some leaseId ∧ root.status = .leased ∧
      t' = t.rootSettledTree root leaseId receiptId success usage := by
  obtain ⟨s, hs, ht⟩ := bind_ok h
  obtain ⟨u, hs⟩ := treeOf_eq_ok.mp hs
  cases ht
  rcases t.completeRoot_cases leaseId receiptId success usage with
    ⟨reason, hr⟩ | ⟨-, hrec, -⟩ | ⟨root, hn, hp, hl, hst, ⟨-, hr⟩ | ⟨within, hrec, -⟩⟩
  · rw [hr] at hs
    cases hs
  · exact absurd hf hrec.not_fresh
  · rw [hr] at hs
    obtain rfl := (Prod.mk.inj hs).2
    exact ⟨root, hn, hp, hl, hst, rfl⟩
  · exact absurd hf hrec.not_fresh

lemma sameShape_rootCharged : SameShape (t.rootCharged receiptId usage) t :=
  (alike_chargeRoot usage).sameShape.trans sameShape_recordFreshUsage

variable (t leaseId success within) in
/-- What ends the root's attempt, in three ways. -/
lemma rootEnded_cases
    {P : RecursiveTree → Prop}
    (hexhaust : within = false → ∀ completed reason,
      P ((t.endAttempt t.rootNodeId leaseId completed reason).exhaust t.rootNodeId).bumpVersion)
    (hfail : ∀ completed reason,
      P ({ t.endAttempt t.rootNodeId leaseId completed reason with
        executionState := .terminalFailed }.terminalizeRemainingNodes (some t.rootNodeId)
          .terminalFailed).bumpVersion)
    (hdone : within = true → ∀ reason,
      P ((t.endAttempt t.rootNodeId leaseId true reason).bumpVersion.finalizeTerminalTree none)) :
    P (t.rootEnded leaseId success within) := by
  cases within with
  | false =>
    have := hexhaust rfl (success && false) (rootFailureReason success false)
    cases success <;> exact this
  | true =>
    cases success with
    | false => exact hfail false (rootFailureReason false true)
    | true => exact hdone rfl (rootFailureReason true true)

lemma sameShape_rootEnded : SameShape (t.rootEnded leaseId success within) t := by
  have hend := fun completed reason =>
    sameShape_endAttempt t t.rootNodeId leaseId completed reason
  refine t.rootEnded_cases leaseId success within (P := fun s => SameShape s t) ?_ ?_ ?_
  · exact fun _ c r => alike_bumpVersion.sameShape.trans (sameShape_exhaust.trans (hend c r))
  · exact fun c r => alike_bumpVersion.sameShape.trans (sameShape_terminalize.trans
      (sameShape_state.trans (hend c r)))
  · exact fun _ r => sameShape_finalize.trans
      (alike_bumpVersion.sameShape.trans (hend true r))

lemma leasesOk_rootEnded (h : t.LeasesOk) (hn : t.nodes.find? t.rootNodeId = some root)
    (hl : root.leaseId = some leaseId) : (t.rootEnded leaseId success within).LeasesOk := by
  have hend := fun completed reason => h.endAttempt hn hl completed reason
  refine t.rootEnded_cases leaseId success within (P := LeasesOk) ?_ ?_ ?_
  · exact fun _ c r => (leasesOk_exhaust (hend c r)).congr alike_bumpVersion
  · exact fun c r =>
      (leasesOk_terminalize (leasesOk_state (hend c r))).congr alike_bumpVersion
  · exact fun _ r => leasesOk_finalize ((hend true r).congr alike_bumpVersion)

/-- Ending the root's attempt moves no money but what closing returns. -/
lemma books_rootEnded (h : (t.ledger d).Balanced excess [] 0)
    (hn : t.nodes.find? t.rootNodeId = some root) :
    ((t.rootEnded leaseId success within).ledger d).Balanced excess [] 0 := by
  have hacc := exists_account (d := d) hn
  have hheld := (h.account _ (mem_of_find? hacc)).held_eq List.not_mem_nil
  have hrootId : (root.account t.rootNodeId d).root = true :=
    decide_eq_true (key_of_find? hn)
  have hclosed : ((t.ledger d).setClosed t.rootNodeId true).Balanced excess [] 0 := by
    refine h.setClosed hacc true (fun _ _ hb => hb) fun _ => ?_
    rw [hheld, hrootId]
    simp
  have hend : ∀ completed reason, ((t.endAttempt t.rootNodeId leaseId completed reason).ledger
      d).Balanced excess [] 0 := by
    intro completed reason
    rw [ledger_endAttempt]
    exact hclosed
  refine t.rootEnded_cases leaseId success within
    (P := fun s => (s.ledger d).Balanced excess [] 0) ?_ ?_ ?_
  · exact fun _ c r => books_exhaust (hend c r) _
  · exact fun c r => books_terminalize (t := { t.endAttempt t.rootNodeId leaseId c r with
      executionState := .terminalFailed }) (hend c r)
  · exact fun _ r => books_finalize (t := (t.endAttempt t.rootNodeId leaseId true r).bumpVersion)
      (hend true r) none

variable (t root) in
lemma usageReceipts_rootSettledTree
    (leaseId receiptId : String) (success : Bool) (usage : RecursiveBudget) :
    (t.rootSettledTree root leaseId receiptId success usage).usageReceipts =
      t.usageReceipts.insert (receiptId, receiptText (t.withinTreeBudget usage false) usage) :=
  usageReceipts_finalize.trans (usageReceipts_rootEnded _ _ _ _)

lemma find?_rootCharged (hn : t.nodes.find? t.rootNodeId = some root) :
    (t.rootCharged receiptId usage).nodes.find? (t.rootCharged receiptId usage).rootNodeId =
      some (root.chargeRoot usage) := by
  change (t.nodes.modify t.rootNodeId fun n => n.chargeRoot usage).find? t.rootNodeId = _
  rw [find?_modify, if_pos rfl, hn]
  rfl

lemma leasesOk_rootCharged (h : t.LeasesOk) : (t.rootCharged receiptId usage).LeasesOk := by
  have h1 : (t.recordFreshUsage receiptId usage false).LeasesOk := ⟨h.1, h.2, h.3, h.4⟩
  exact h1.congr (alike_chargeRoot usage)

/-- The limit covers the charge in every dimension. -/
lemma withinTreeBudget_le {consumes : Bool} {limit : RecursiveBudget}
    (hlim : t.rootBudgetLimit = some limit) (h : t.withinTreeBudget usage consumes = true)
    (d : Dim) :
    min (min (t.spentBudget.amount d + usage.amount d) u64Max +
      (if consumes then t.reservedBudget.amount d - usage.amount d
        else t.reservedBudget.amount d)) u64Max ≤ limit.amount d := by
  simp only [withinTreeBudget, hlim, all_some, canSpend_iff] at h
  have hd := h d
  cases consumes <;> simpa using hd

lemma books_rootSettledTree (h : Sound x t) (hn : t.nodes.find? t.rootNodeId = some root)
    (hp : root.parentNodeId = none)
    (hover : excess = false → t.recordedOverrun = false ∧
      root.budget.canSpend usage = true ∧ t.withinTreeBudget usage false = true) :
    ((t.rootSettledTree root leaseId receiptId success usage).ledger d).Balanced excess [] 0 := by
  have hcharged : ((t.rootCharged receiptId usage).ledger d).Balanced excess [] 0 := by
    change (((t.recordFreshUsage receiptId usage false).chargeRoot usage).ledger d).Balanced excess [] 0
    rw [ledger_chargeRoot]
    refine (h.books d).chargeFree (exists_account hn) (decide_eq_true (key_of_find? hn)) hp _
      fun ho => ?_
    obtain ⟨h1, h2, h3⟩ := hover ho
    obtain ⟨r, hr, hlim⟩ := limit_of_root h.shape.root h.shape.node
    refine ⟨h1, (canSpend_iff _ _).mp h2 d, ?_⟩
    have hle := withinTreeBudget_le hlim h3 d
    rw [if_neg Bool.false_ne_true] at hle
    simpa [ledger, hlim] using hle
  exact books_finalize (books_rootEnded hcharged (find?_rootCharged hn)) none

lemma sound_rootSettledTree (h : Sound x t) (hn : t.nodes.find? t.rootNodeId = some root)
    (hp : root.parentNodeId = none) (hl : root.leaseId = some leaseId)
    (hf : t.usageReceipts.find? receiptId = none) (success : Bool)
    (hsize : t.usageReceipts.size < maxRecursiveNodesPerRoot * 2) (hid : receiptId ≠ "")
    (hfits : root.budget.canSpend usage = true) :
    Sound x (t.rootSettledTree root leaseId receiptId success usage) := by
  have hrec := usageReceipts_rootSettledTree t root leaseId receiptId success usage
  refine ⟨shape_congr h.shape ?_, ?_, (receiptShape_fresh hrec hf h.receipts).mpr ⟨hsize, hid⟩,
    fun d => books_rootSettledTree h hn hp fun ho => ?_⟩
  · exact sameShape_finalize.trans (sameShape_rootEnded.trans
      sameShape_rootCharged)
  · exact leasesOk_finalize (leasesOk_rootEnded (leasesOk_rootCharged h.leases)
      (find?_rootCharged hn) hl)
  · rw [recordedOverrun_insert hrec hf, Bool.or_eq_false_iff, Bool.not_eq_false'] at ho
    exact ⟨ho.2, hfits, ho.1⟩

variable (t k leaseId retry) in
/-- The tree `recover_stale_lease` leaves. -/
def recoveredTree : RecursiveTree :=
  { t with
    nodes := t.nodes.modify k (·.recover retry) (nodeId_recover · retry)
    activeLeases := t.activeLeases.erase leaseId
    version := t.version + 1 }

lemma syncRecursiveStaleRecovery_eq_ok (h : t.syncRecursiveStaleRecovery k leaseId retry = .ok t') :
    ∃ node, t.nodes.find? k = some node ∧ node.leaseId = some leaseId ∧
      t' = if retry then t.recoveredTree k leaseId retry
        else (t.recoveredTree k leaseId retry).closeOut k (some k) := by
  obtain ⟨s, hs, ht⟩ := bind_ok h
  obtain ⟨u, hs⟩ := treeOf_eq_ok.mp hs
  cases ht
  unfold recoverStaleLease at hs
  cases hn : t.nodes.find? k with
  | none => simp [hn] at hs
  | some node =>
    rw [hn] at hs
    dsimp only at hs
    split_ifs at hs with hl
    · cases hs
    · obtain rfl := (Prod.mk.inj hs).2
      exact ⟨node, rfl, not_not.mp hl, rfl⟩

lemma sameShape_recoveredTree : SameShape (t.recoveredTree k leaseId retry) t := by
  refine sameShape_of_nodes ?_
  refine frozenNodes_modify fun n => ?_
  unfold recover
  split_ifs <;> rfl

lemma leasesOk_recoveredTree (h : t.LeasesOk) (hn : t.nodes.find? k = some node)
    (hl : node.leaseId = some leaseId) : (t.recoveredTree k leaseId retry).LeasesOk := by
  refine h.stop hn hl (·.recover retry) (fun n => ?_) rfl rfl
  unfold recover
  split_ifs
  · exact ⟨rfl, by simp [requeue]⟩
  · exact ⟨rfl, by simp [fail, finish]⟩

lemma sound_recovered_retry (h : Sound x t) (hn : t.nodes.find? k = some node)
    (hl : node.leaseId = some leaseId) (hcount : node.retryCount < maxRecursiveRetries) :
    Sound x (t.recoveredTree k leaseId true) := by
  refine ⟨shape_congr h.shape sameShape_recoveredTree,
    leasesOk_recoveredTree h.leases hn hl, ⟨h.receipts.size_le, h.receipts.named⟩, fun d => ?_⟩
  have hleased := (h.leases.leased node (mem_of_find? hn)).mpr (by simp [hl])
  have hledger : (t.recoveredTree k leaseId true).ledger d = t.ledger d := by
    refine Ledger.ext rfl rfl rfl rfl rfl (ext ?_)
    refine map_account_same d k fun n hn' hk => ?_
    obtain rfl : n = node := by
      rw [← hk, t.nodes.find?_key hn'] at hn
      exact some.inj hn
    simp only [recover, hcount, decide_true, Bool.and_self, if_true,
      account, hleased]
    rfl
  rw [hledger]
  exact h.books d

lemma find?_recoveredTree (hn : t.nodes.find? k = some node) (leaseId : String) (retry : Bool) :
    (t.recoveredTree k leaseId retry).nodes.find? k = some (node.recover retry) := by
  unfold recoveredTree
  rw [find?_modify, if_pos rfl, hn]
  rfl

lemma sound_recovered_final (h : Sound x t) (hn : t.nodes.find? k = some node)
    (hl : node.leaseId = some leaseId) {failed : Option String} :
    Sound x ((t.recoveredTree k leaseId false).closeOut k failed) := by
  refine ⟨shape_congr h.shape ?_, ?_, ?_, fun d => ?_⟩
  · exact sameShape_finalize.trans
      ((alike_release _ k).sameShape.trans sameShape_recoveredTree)
  · exact leasesOk_finalize ((leasesOk_recoveredTree h.leases hn hl).congr
      (alike_release _ k))
  · have hrec : ((t.recoveredTree k leaseId false).closeOut k failed).usageReceipts =
        t.usageReceipts :=
      usageReceipts_finalize.trans (alike_release _ k).usageReceipts
    exact ⟨hrec ▸ h.receipts.size_le, hrec ▸ h.receipts.named⟩
  · have hledger : (t.recoveredTree k leaseId false).ledger d = (t.ledger d).setClosed k true := by
      refine Ledger.ext rfl rfl rfl rfl rfl (ext ?_)
      exact map_account_modify d k _ _ fun n => rfl
    have hrec : ((t.recoveredTree k leaseId false).closeOut k failed).recordedOverrun =
        t.recordedOverrun := by
      unfold recordedOverrun
      rw [show ((t.recoveredTree k leaseId false).closeOut k failed).usageReceipts =
        t.usageReceipts from usageReceipts_finalize.trans (alike_release _ k).usageReceipts]
    have h1 := (h.books d).close (exists_account hn)
    rw [← hledger] at h1
    have h2 := h1.release (exists_account (find?_recoveredTree hn leaseId false)) rfl
    rw [← ledger_release] at h2
    rw [hrec]
    exact books_finalize h2 failed

/-- State and version are not part of soundness. -/
lemma sound_state (h : Sound x t) (state : RecursiveExecutionState) (version : ℕ) :
    Sound x { t with executionState := state, version := version } :=
  ⟨shape_congr h.shape (sameShape_of_nodes rfl), ⟨h.leases.1, h.leases.2, h.leases.3,
    h.leases.4⟩, ⟨h.receipts.size_le, h.receipts.named⟩, h.books⟩

lemma sound_closeNodes (h : Sound x t) {reason : RecursiveFailureReason}
    {p : RecursiveNode → Bool} : Sound x (t.closeNodes reason (t.liveIds p)) := by
  have hrec : (t.closeNodes reason (t.liveIds p)).usageReceipts = t.usageReceipts :=
    (alike_closeNodes t reason p).usageReceipts
  refine ⟨shape_congr h.shape (sameShape_closeNodes t reason p), leasesOk_closeNodes h.leases,
    ⟨hrec ▸ h.receipts.size_le, hrec ▸ h.receipts.named⟩, fun d => ?_⟩
  have hover : (t.closeNodes reason (t.liveIds p)).recordedOverrun = t.recordedOverrun := by
    unfold recordedOverrun
    rw [hrec]
  rw [hover]
  exact books_closeNodes (h.books d) reason p

lemma closed_cases {state : RecursiveExecutionState} (h : state.closed = true) :
    state = .completed ∨ state = .killStopped ∨ state = .budgetExhausted ∨
      state = .terminalFailed := by
  cases state <;> simp [RecursiveExecutionState.closed] at h ⊢

/-- `set_recursive_execution_paused` sets a state; a state that ends the tree also closes
every child and every lease. -/
lemma setPaused_cases (t : RecursiveTree) :
    ∃ s version,
      s = { t with executionState := t.effectiveState paused terminalReason, version := version } ∧
      (t.setRecursiveExecutionPaused paused terminalReason = s ∧
          ((t.effectiveState paused terminalReason).closed = true →
            t.effectiveState paused terminalReason = .completed ∨
            s.liveIds (fun n => n.parentNodeId.isSome || n.leaseId.isSome) = []) ∨
        (t.effectiveState paused terminalReason).closed = true ∧
        ∃ reason, t.setRecursiveExecutionPaused paused terminalReason =
          (s.closeNodes reason
            (s.liveIds fun n => n.parentNodeId.isSome || n.leaseId.isSome)).bumpVersion) := by
  have hstated : ∃ version, (if t.executionState ≠ t.effectiveState paused terminalReason then
      { t with
        executionState := t.effectiveState paused terminalReason, version := t.version + 1 } else t) =
      ({ t with executionState := t.effectiveState paused terminalReason, version := version } :
        RecursiveTree) := by
    split_ifs with h
    · exact ⟨_, rfl⟩
    · refine ⟨t.version, ?_⟩
      rw [← not_not.mp h]
  obtain ⟨version, hv⟩ := hstated
  refine ⟨_, version, rfl, ?_⟩
  unfold setRecursiveExecutionPaused
  dsimp only
  rw [hv]
  split_ifs with hstop hnone
  · exact .inl ⟨rfl, fun _ => .inr hnone⟩
  · refine .inr ⟨?_, _, rfl⟩
    rcases hstop with h | h | h <;> rw [h] <;> rfl
  · exact .inl ⟨rfl, fun hc => .inl ((closed_cases hc).resolve_right hstop)⟩

lemma sound_setPaused (h : Sound x t) :
    Sound x (t.setRecursiveExecutionPaused paused terminalReason) := by
  obtain ⟨s, version, rfl, hr⟩ := t.setPaused_cases
  have hs := sound_state h (t.effectiveState paused terminalReason) version
  rcases hr with ⟨hr, -⟩ | ⟨-, reason, hr⟩
  · rw [hr]
    exact hs
  · rw [hr]
    exact (sound_closeNodes hs).bumpVersion

lemma sound_pause (h : Sound x t) : Sound x t.pause := sound_state h _ _

lemma sound_resume (h : Sound x t) : Sound x t.resume := by
  unfold resume
  split_ifs
  · exact sound_state h _ _
  · exact h

end RecursiveTree

end Harness
