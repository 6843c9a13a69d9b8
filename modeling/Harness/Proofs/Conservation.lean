import Harness.Proofs.Transactions

/-! Budget conservation over whole runs. Every transaction keeps a tree sound as long
as there is room for its receipt, and there always is: a receipt ends an attempt, and
each of the twelve nodes has two. -/

namespace Harness

open Lib List Option Table RecursiveNode RecursiveBudget RecursiveTree Account

/-- Runs of transactions, from a root the validator takes, whose every step meets `p`. -/
inductive Reach (x : Externals) (p : RecursiveTree → Transaction → RecursiveTree → Prop) :
    RecursiveTree → Prop
  | root {mint : (plan agent : String) → String} {rootRunId workflowId nodeId : String}
      {metadata : RootMetadata} {boundaries : RunBoundaries} {t : RecursiveTree}
      (hnew : recursiveRootTreeFromMetadata x mint rootRunId workflowId nodeId metadata
        boundaries = .ok t) (hacc : t.validateTree x = .ok ()) : Reach x p t
  | step {t t' : RecursiveTree} {tx : Transaction} (h : Reach x p t) (htx : tx.commit x t = .ok t')
      (hp : p t tx t') : Reach x p t'

variable {p : RecursiveTree → Transaction → RecursiveTree → Prop} {usage : RecursiveBudget}

/-- The induction every result about runs uses. -/
lemma Reach.invariant {x : Externals} {I : RecursiveTree → Prop}
    (hroot : ∀ runId flow id goal agent receipt authority boundaries,
      (freshRoot x runId flow id goal agent receipt authority boundaries).validateTree x = .ok () →
      I (freshRoot x runId flow id goal agent receipt authority boundaries))
    (hstep : ∀ t tx t', I t → tx.commit x t = .ok t' → p t tx t' → I t')
    {t : RecursiveTree} (h : Reach x p t) :
    I t := by
  induction h with
  | root hnew hacc =>
    obtain ⟨objective, agentId, receipt, authority, rfl⟩ := recursiveRootTreeFromMetadata_eq_ok hnew
    exact hroot _ _ _ _ _ _ _ _ hacc
  | step _ htx hp ih => exact hstep _ _ _ ih htx hp

/-- What the callers of a transaction see to: new lease, receipt and node ids, and usage
within the node's own remaining budget. -/
def Transaction.Fair (x : Externals) (t : RecursiveTree) : Transaction → Prop
  | admitChild _ proposal =>
    t.nodes.find? (derivedNodeId x t.rootRunId proposal.proposalId
      (objectiveFingerprint x proposal.objective)) = none ∧
    proposal.proposalId.utf8ByteSize ≤ 241
  | lease _ _ leaseId => leaseId ∉ t.activeLeases
  | settle _ nodeId _ receiptId _ _ usage =>
    nodeId ≠ t.rootNodeId ∧ t.usageReceipts.find? receiptId = none ∧ receiptId ≠ "" ∧
      (t.nodes.find? nodeId).all (·.budget.canSpend usage) = true
  | settleRoot _ receiptId _ usage =>
    t.usageReceipts.find? receiptId = none ∧ receiptId ≠ "" ∧
      (t.nodes.find? t.rootNodeId).all (·.budget.canSpend usage) = true
  | recover .. | pause | resume | setPaused .. => True

/-- The root also leaves what is reserved for its children alone. -/
def Transaction.Thrifty (t : RecursiveTree) : Transaction → Prop
  | settleRoot _ _ _ usage => t.withinTreeBudget usage false = true
  | _ => True

def RecursiveNode.attempts (n : RecursiveNode) : ℕ :=
  n.retryCount + if n.status.terminal then 1 else 0

namespace RecursiveTree

variable {x : Externals} {t s u : RecursiveTree} {k : String} {node : RecursiveNode}

def attempts (t : RecursiveTree) : ℕ := (t.nodes.rows.map RecursiveNode.attempts).sum

def RetriesOk (t : RecursiveTree) : Prop := ∀ n ∈ t.nodes.rows, n.retryCount ≤ maxRecursiveRetries

/-- At least `n` attempts ended on the way, and retries stayed within their bound. -/
structure Ahead (n : ℕ) (t s : RecursiveTree) : Prop where
  attempts : t.attempts + n ≤ s.attempts
  retries : t.RetriesOk → s.RetriesOk

lemma Ahead.refl (t : RecursiveTree) : Ahead 0 t t := ⟨le_rfl, id⟩

variable {failed : Option String} {reason : RecursiveFailureReason} {n : ℕ}

lemma Ahead.trans {m : ℕ} (h : Ahead n t s) (h' : Ahead m s u) : Ahead (n + m) t u :=
  ⟨by have := h.attempts; have := h'.attempts; omega, h'.retries ∘ h.retries⟩

lemma Ahead.of_nodes (h : s.nodes = t.nodes) : Ahead 0 t s := by
  constructor
  · unfold RecursiveTree.attempts
    rw [h]
    omega
  · unfold RetriesOk
    rw [h]
    exact id

lemma Ahead.of_alike (h : Alike s t) : Ahead 0 t s := by
  constructor
  · have key : ∀ r : RecursiveTree, r.attempts =
        ((r.nodes.rows.map RecursiveNode.shell).map RecursiveNode.attempts).sum := by
      intro r
      rw [List.map_map]
      rfl
    rw [key t, key s, h.rows]
    omega
  · exact (h.forall_rows (p := fun n => n.retryCount ≤ maxRecursiveRetries) fun _ => Iff.rfl).mpr

lemma ahead_failWhere {q : RecursiveNode → Bool} :
    Ahead 0 t (t.failWhere reason fun n => n.live && q n) := by
  constructor
  · unfold RecursiveTree.attempts failWhere
    rw [rows_map, List.map_map, add_zero]
    refine sum_le_sum fun n _ => ?_
    rw [Function.comp_apply]
    split_ifs
    · change n.retryCount + _ ≤ n.retryCount + 1
      split_ifs <;> omega
    · exact le_rfl
  · intro hr m hm
    obtain ⟨n, hn, rfl⟩ := mem_map.mp hm
    split_ifs
    · exact hr n hn
    · exact hr n hn

lemma ahead_closeNodes {p : RecursiveNode → Bool} : Ahead 0 t (t.closeNodes reason (t.liveIds p)) :=
  ahead_failWhere.trans (.of_alike (alike_closeNodes t reason p))

lemma ahead_terminalize {exceptNodeId : Option String} :
    Ahead 0 t (t.terminalizeRemainingNodes exceptNodeId reason) :=
  ahead_failWhere.trans (.of_alike alike_terminalize)

lemma ahead_exhaust : Ahead 0 t (t.exhaust k) := by
  have h : Ahead 0 t { t with executionState := .budgetExhausted } := .of_nodes rfl
  exact h.trans ahead_terminalize

lemma ahead_finalize : Ahead 0 t (t.finalizeTerminalTree failed) := by
  unfold finalizeTerminalTree
  split_ifs
  · exact .refl t
  · cases failed with
    | none => exact .of_nodes nodes_finalizeVerdict
    | some k => exact ahead_closeNodes.trans (.of_nodes nodes_finalizeVerdict)

lemma ahead_closeOut : Ahead 0 t (t.closeOut k failed) :=
  (Ahead.of_alike (alike_release t k)).trans ahead_finalize

/-- Rewriting one node. -/
lemma Ahead.of_modify {f : RecursiveNode → RecursiveNode} (hf : ∀ m, (f m).nodeId = m.nodeId)
    (hn : t.nodes.find? k = some node)
    (hs : s.nodes.rows = t.nodes.rows.map fun m => if m.nodeId = k then f m else m)
    (ha : node.attempts + n ≤ (f node).attempts)
    (hr : node.retryCount ≤ maxRecursiveRetries → (f node).retryCount ≤ maxRecursiveRetries) :
    Ahead n t s := by
  constructor
  · have hsum : (s.nodes.rows.map RecursiveNode.attempts).sum + node.attempts =
        (t.nodes.rows.map RecursiveNode.attempts).sum + (f node).attempts := by
      rw [hs]
      exact t.nodes.sum_modify f hf RecursiveNode.attempts hn
    unfold RecursiveTree.attempts
    omega
  · intro hall m hm
    rw [hs] at hm
    obtain ⟨r, hr', rfl⟩ := mem_map.mp hm
    split_ifs with hk
    · have hkey := t.nodes.find?_key hr'
      rw [hk, hn] at hkey
      cases hkey
      exact hr (hall node hr')
    · exact hall r hr'

/-- An attempt that ends counts. -/
lemma ahead_endAttempt (hn : t.nodes.find? k = some node) (hlive : node.status.terminal = false)
    (leaseId : String) (completed : Bool) (reason : Option RecursiveFailureReason) :
    Ahead 1 t (t.endAttempt k leaseId completed reason) := by
  refine .of_modify (f := fun n => n.finish completed reason) (fun _ => rfl) hn rfl ?_ id
  unfold RecursiveNode.attempts
  rw [hlive]
  cases completed <;> exact le_rfl

section Transactions

variable {leaseId receiptId : String} {usage : RecursiveBudget}

lemma ahead_admitUnder {parent : RecursiveNode} {proposal : RecursiveProposal}
    (hnew : t.nodes.find? (t.admittedNode x parent proposal).nodeId = none) :
    Ahead 0 t (t.admitUnder x parent proposal) := by
  have hg : ∀ n, (t.granted parent proposal n).attempts = n.attempts ∧
      (t.granted parent proposal n).retryCount = n.retryCount := by
    intro n
    obtain ⟨c, v, hg⟩ := t.granted_cases parent proposal n
    rw [hg]
    exact ⟨rfl, rfl⟩
  constructor
  · have hsum := ((rows_admitUnder hnew).map RecursiveNode.attempts).sum_eq
    have hrows : (t.nodes.rows.map (t.granted parent proposal)).map RecursiveNode.attempts =
        t.nodes.rows.map RecursiveNode.attempts := by
      rw [List.map_map]
      exact map_congr_left fun n _ => (hg n).1
    rw [map_cons, sum_cons, hrows] at hsum
    unfold RecursiveTree.attempts
    omega
  · intro hr n hn
    rcases (mem_admitUnder hnew).mp hn with rfl | ⟨m, hm, rfl⟩
    · exact Nat.zero_le _
    · rw [(hg m).2]
      exact hr m hm

lemma ahead_leasedTree (hn : t.nodes.find? k = some node) (hs : node.status = .ready) :
    Ahead 0 t (t.leasedTree k leaseId) := by
  refine .of_modify (f := fun n => n.lease leaseId) (fun _ => rfl) hn rfl ?_ id
  simp [RecursiveNode.attempts, lease, hs, RecursiveNodeStatus.terminal]

lemma ahead_afterAttempt (hn : t.nodes.find? k = some node) (hlive : node.status.terminal = false)
    (leaseId receiptId : String) (success : Bool) (usage : RecursiveBudget) :
    Ahead 1 t (t.afterAttempt node k leaseId receiptId success usage) := by
  have h1 : Ahead 0 t ((t.recordFreshUsage receiptId usage true).chargeNode k usage) :=
    (Ahead.of_nodes (t := t) (s := t.recordFreshUsage receiptId usage true) rfl).trans
      (.of_alike (alike_chargeNode k usage))
  have h2 := fun completed reason =>
    h1.trans (ahead_endAttempt (find?_charged _ _ hn) hlive leaseId completed reason)
  unfold afterAttempt
  dsimp only
  split_ifs
  · exact (h2 _ _).trans (.of_alike alike_bumpVersion)
  · exact ((h2 _ _).trans ahead_exhaust).trans (.of_alike alike_bumpVersion)

variable {retry : Bool}

lemma ahead_settledTree (hn : t.nodes.find? k = some node) (hlive : node.status.terminal = false)
    {success : Bool} (hretry : retry = true → node.retryCount < maxRecursiveRetries) :
    Ahead 1 t (t.settledTree node k leaseId receiptId success retry usage) := by
  have h1 := ahead_afterAttempt hn hlive leaseId receiptId success usage
  cases retry with
  | false => exact h1.trans ahead_closeOut
  | true =>
    obtain ⟨m, completed, reason, hm, c, v, rfl⟩ :=
      find?_afterAttempt hn leaseId receiptId success usage
    have hcount := hretry rfl
    have h2 : Ahead 0 (t.afterAttempt node k leaseId receiptId success usage)
        (t.settledTree node k leaseId receiptId success true usage) := by
      refine .of_modify nodeId_retry hm rfl ?_ fun _ => ?_
      · -- the attempt is counted as ended before and as a retry after
        rw [retry_of_lt (by exact hcount)]
        cases completed <;> exact le_rfl
      · rw [retry_of_lt (by exact hcount)]
        exact hcount
    exact h1.trans h2

lemma ahead_rootSettledTree {root : RecursiveNode}
    (hn : t.nodes.find? t.rootNodeId = some root) (hlive : root.status.terminal = false)
    (success : Bool) : Ahead 1 t (t.rootSettledTree root leaseId receiptId success usage) := by
  have h1 : Ahead 0 t (t.rootCharged receiptId usage) :=
    (Ahead.of_nodes (t := t) (s := t.recordFreshUsage receiptId usage false) rfl).trans
      (.of_alike (alike_chargeRoot usage))
  have hend := fun completed reason =>
    h1.trans (ahead_endAttempt (find?_rootCharged hn) hlive leaseId completed reason)
  refine Ahead.trans (m := 0) ?_ ahead_finalize
  refine (t.rootCharged receiptId usage).rootEnded_cases leaseId success _ (P := Ahead 1 t) ?_ ?_ ?_
  · exact fun _ c r => ((hend c r).trans ahead_exhaust).trans (.of_alike alike_bumpVersion)
  · intro c r
    have hstate : Ahead 0 ((t.rootCharged receiptId usage).endAttempt
        (t.rootCharged receiptId usage).rootNodeId leaseId c r)
        { (t.rootCharged receiptId usage).endAttempt
          (t.rootCharged receiptId usage).rootNodeId leaseId c r with
          executionState := .terminalFailed } := .of_nodes rfl
    exact (((hend c r).trans hstate).trans ahead_terminalize).trans
      (.of_alike alike_bumpVersion)
  · exact fun _ r => ((hend true r).trans (.of_alike alike_bumpVersion)).trans ahead_finalize

lemma ahead_recoveredTree (hn : t.nodes.find? k = some node)
    (hlive : node.status.terminal = false) :
    Ahead 0 t (t.recoveredTree k leaseId retry) := by
  refine .of_modify (nodeId_recover · retry) hn rfl ?_ fun hr => ?_
  · have hnode : node.attempts = node.retryCount := by
      simp [RecursiveNode.attempts, hlive]
    rw [hnode]
    unfold recover
    split_ifs
    · exact Nat.le_succ _
    · exact Nat.le_succ _
  · unfold recover
    split_ifs with hc
    · simp only [Bool.and_eq_true, decide_eq_true_eq] at hc
      exact hc.2
    · exact hr

lemma ahead_setPaused {paused : Bool} {terminalReason : Option String} :
    Ahead 0 t (t.setRecursiveExecutionPaused paused terminalReason) := by
  obtain ⟨s, version, rfl, hr⟩ := t.setPaused_cases
  have hs : Ahead 0 t { t with
    executionState := t.effectiveState paused terminalReason, version := version } := .of_nodes rfl
  rcases hr with ⟨hr, -⟩ | ⟨-, reason, hr⟩
  · rw [hr]
    exact hs
  · rw [hr]
    exact (hs.trans ahead_closeNodes).trans (.of_alike alike_bumpVersion)

end Transactions

section Stopped

variable {leaseId receiptId : String} {usage : RecursiveBudget}

lemma recordedOverrun_congr (h : s.usageReceipts = t.usageReceipts) :
    s.recordedOverrun = t.recordedOverrun := by
  unfold recordedOverrun
  rw [h]

lemma closed_recordFreshUsage {consumes : Bool}
    (h : t.withinTreeBudget usage consumes = false ∨ t.executionState.closed = true) :
    (t.recordFreshUsage receiptId usage consumes).executionState.closed = true := by
  unfold recordFreshUsage
  dsimp only
  split_ifs with he
  · rfl
  · rcases h with h | h
    · rw [h] at he
      cases hs : t.executionState <;> rw [hs] at he <;>
        first | rfl | simp [RecursiveExecutionState.settled] at he
    · exact h

lemma closed_closeOut (h : t.executionState.closed = true) {failed : Option String} :
    (t.closeOut k failed).executionState.closed = true := by
  have h1 : (t.releaseNodeReservationForPersistence k).executionState.closed = true := by
    rw [(alike_release t k).executionState]
    exact h
  unfold closeOut
  rw [finalize_of_closed h1]
  exact h1

lemma closed_settledTree
    (h : (t.recordFreshUsage receiptId usage true).executionState.closed = true)
    {success retry : Bool} :
    (t.settledTree node k leaseId receiptId success retry usage).executionState.closed = true := by
  have h1 : (t.afterAttempt node k leaseId receiptId success usage).executionState.closed = true := by
    unfold afterAttempt
    dsimp only
    split_ifs
    · exact h
    · exact congrArg RecursiveExecutionState.closed (state_terminalize _)
  cases retry with
  | true => exact h1
  | false => exact closed_closeOut h1

lemma closed_rootSettledTree {root : RecursiveNode}
    (h : (t.recordFreshUsage receiptId usage false).executionState.closed = true) (success : Bool) :
    (t.rootSettledTree root leaseId receiptId success usage).executionState.closed = true := by
  have h1 : (t.rootCharged receiptId usage).executionState.closed = true := by
    exact h
  have h2 := (over_rootEnded h1 leaseId success
    (root.budget.canSpend usage && t.withinTreeBudget usage false)).closed
  unfold rootSettledTree
  rw [finalize_of_closed h2]
  exact h2

/-- What is over stays over under operator control. -/
lemma closed_effectiveState (h : t.executionState.closed = true) (paused : Bool)
    (terminalReason : Option String) : (t.effectiveState paused terminalReason).closed = true := by
  unfold effectiveState
  split_ifs with h1 h2
  · rfl
  · exact h
  all_goals
    cases hs : t.executionState <;>
      simp [hs, RecursiveExecutionState.closed, RecursiveExecutionState.settled,
        budgetExhausted] at h h1 h2

variable {paused : Bool} {terminalReason : Option String}

lemma closed_setPaused (h : t.executionState.closed = true) :
    (t.setRecursiveExecutionPaused paused terminalReason).executionState.closed = true := by
  have heff := closed_effectiveState h paused terminalReason
  obtain ⟨s, version, rfl, hr⟩ := t.setPaused_cases
  rcases hr with ⟨hr, -⟩ | ⟨-, reason, hr⟩
  · rw [hr]
    exact heff
  · rw [hr, alike_bumpVersion.executionState, (alike_closeNodes _ _ _).executionState]
    exact heff

lemma usageReceipts_setPaused :
    (t.setRecursiveExecutionPaused paused terminalReason).usageReceipts = t.usageReceipts := by
  obtain ⟨s, version, rfl, hr⟩ := t.setPaused_cases
  rcases hr with ⟨hr, -⟩ | ⟨-, reason, hr⟩
  · rw [hr]
  · rw [hr, alike_bumpVersion.usageReceipts, (alike_closeNodes _ _ _).usageReceipts]
    rfl

end Stopped

end RecursiveTree

open RecursiveTree

variable {x : Externals} {t t' : RecursiveTree}

/-- The invariant of fair runs. -/
structure Conserved (x : Externals) (t : RecursiveTree) : Prop where
  sound : Sound x t
  retries : t.RetriesOk
  receipts : t.usageReceipts.size ≤ t.attempts
  stopped : t.recordedOverrun = true → t.executionState.closed = true

variable {node : RecursiveNode} {k : String} {tx : Transaction}

/-- A tree with a live node has room for another receipt. -/
lemma Conserved.room (h : Conserved x t) (hn : t.nodes.find? k = some node)
    (hlive : node.status.terminal = false) :
    t.usageReceipts.size < maxRecursiveNodesPerRoot * 2 := by
  have hmem := mem_of_find? hn
  have hle : ∀ n ∈ t.nodes.rows, n.attempts ≤ 2 := by
    intro n hn'
    have hr : n.retryCount ≤ 1 := h.retries n hn'
    unfold RecursiveNode.attempts
    split_ifs <;> omega
  have hlt : node.attempts < 2 := by
    have hr : node.retryCount ≤ 1 := h.retries node hmem
    unfold RecursiveNode.attempts
    rw [hlive, if_neg Bool.false_ne_true]
    omega
  have hsum : t.attempts < (t.nodes.rows.map fun _ => 2).sum :=
    sum_lt_sum _ _ hle ⟨node, hmem, hlt⟩
  rw [map_const', sum_replicate_nat] at hsum
  have hsize : t.nodes.rows.length ≤ maxRecursiveNodesPerRoot := h.sound.shape.size_le
  have hrec := h.receipts
  omega

/-- A transaction that ends at least as many attempts as it adds receipts. -/
lemma Conserved.next {n : ℕ} (h : Conserved x t) (hs : Sound x t') (ha : Ahead n t t')
    (hr : t'.usageReceipts.size ≤ t.usageReceipts.size + n)
    (hst : t'.recordedOverrun = true → t'.executionState.closed = true) : Conserved x t' where
  sound := hs
  retries := ha.retries h.retries
  receipts := by
    have := ha.attempts
    have := h.receipts
    omega
  stopped := hst

/-- A transaction without a receipt. -/
lemma Conserved.quiet (h : Conserved x t) (hs : Sound x t') (ha : Ahead 0 t t')
    (hr : t'.usageReceipts = t.usageReceipts)
    (hst : t.executionState.closed = true → t'.executionState.closed = true) : Conserved x t' := by
  refine h.next hs ha (by rw [hr]; omega) fun ho => hst (h.stopped ?_)
  rwa [recordedOverrun_congr hr] at ho

lemma conserved_freshRoot {runId flow id goal agent receipt : String}
    {authority : RecursiveRootAuthority} {boundaries : RunBoundaries}
    (hacc : (freshRoot x runId flow id goal agent receipt authority boundaries).validateTree x =
      .ok ()) :
    Conserved x (freshRoot x runId flow id goal agent receipt authority boundaries) := by
  refine ⟨.of_accepted hacc ⟨?_, fun d => ⟨?_, ?_⟩⟩, ?_, Nat.zero_le _, ?_⟩
  · intro n hn m _ l hl
    obtain rfl := mem_singleton.mp hn
    cases hl
  · rw [total_held_eq_zero]
    · exact le_rfl
    · intro n hn
      obtain rfl := mem_singleton.mp hn
      exact amount_zero d
  · intro a ha
    obtain ⟨n, hn, rfl⟩ := mem_map.mp ha
    obtain rfl := mem_singleton.mp hn
    simp [kids_ledger, freshRoot, Table.insert, Table.empty, account]
  · intro n hn
    obtain rfl := List.mem_singleton.mp hn
    exact Nat.zero_le _
  · intro ho
    cases ho

section Step

variable (h : Conserved x t)

include h

variable {success : Bool} {env : RecursiveEnv} {k leaseId receiptId : String}

lemma Conserved.admitChild (hhex : ∀ s, (x.sha256Hex s).utf8ByteSize = 64)
    {proposal : RecursiveProposal} (htx : treeOf (t.admitChild x env proposal) = .ok t')
    (hnew : t.nodes.find? (derivedNodeId x t.rootRunId proposal.proposalId
      (objectiveFingerprint x proposal.objective)) = none)
    (hsize : proposal.proposalId.utf8ByteSize ≤ 241) : Conserved x t' := by
  obtain ⟨admission, htx⟩ := treeOf_eq_ok.mp htx
  obtain ⟨parent, hp, ha, -, rfl⟩ := admitChild_eq_ok htx
  have hparent : t.nodes.find? parent.nodeId = some parent := key_of_find? hp ▸ hp
  refine h.quiet (h.sound.admitUnder ha hparent hnew hhex hsize) (ahead_admitUnder hnew) rfl
    fun hc => ?_
  rw [ha.running] at hc
  cases hc

lemma Conserved.lease (htx : t.syncRecursiveLease env k leaseId = .ok t')
    (hfresh : leaseId ∉ t.activeLeases) : Conserved x t' := by
  obtain ⟨node, hn, hl, hs, -, hcap, rfl⟩ := syncRecursiveLease_eq_ok htx
  exact h.quiet (sound_leasedTree h.sound hn hl hs hcap hfresh) (ahead_leasedTree hn hs) rfl
    id

lemma Conserved.settle {retry : Bool}
    (htx : t.syncRecursiveCompletionWithReceipt env k leaseId receiptId success retry usage =
      .ok t')
    (hroot : k ≠ t.rootNodeId) (hf : t.usageReceipts.find? receiptId = none) (hid : receiptId ≠ "")
    (hfits : (t.nodes.find? k).all (·.budget.canSpend usage) = true) : Conserved x t' := by
  obtain ⟨node, hn, hl⟩ := syncRecursiveCompletion_node htx
  rw [hn, all_some] at hfits
  have hlive : node.status.terminal = false := by
    rw [(h.sound.leases.leased node (mem_of_find? hn)).mpr (by simp [hl])]
    rfl
  obtain ⟨r, hr, hsync⟩ := syncRecursiveCompletion_fresh hn hl hf
  cases (htx.symm.trans hsync)
  have hcov : t.UsageCovered node usage :=
    .inl fun d => .inl ((canSpend_iff _ _).mp hfits d)
  refine h.next (sound_settledTree h.sound hn hl hroot hf success (fun e => (hr e).2)
    (h.room hn hlive) hid hcov) (ahead_settledTree hn hlive fun e => (hr e).2.1) ?_ ?_
  · rw [usageReceipts_settledTree, size_insert_of_new _ hf]
  · intro ho
    rw [recordedOverrun_settledTree hf, Bool.or_eq_true, Bool.not_eq_true'] at ho
    exact closed_settledTree (closed_recordFreshUsage (ho.imp_right h.stopped))

lemma Conserved.settleRoot
    (htx : t.syncRecursiveRootCompletionWithReceipt leaseId receiptId success usage = .ok t')
    (hf : t.usageReceipts.find? receiptId = none) (hid : receiptId ≠ "")
    (hfits : (t.nodes.find? t.rootNodeId).all (·.budget.canSpend usage) = true) :
    Conserved x t' := by
  obtain ⟨root, hn, hp, hl, hs, rfl⟩ := syncRecursiveRootCompletion_fresh hf htx
  rw [hn, all_some] at hfits
  have hlive : root.status.terminal = false := by
    rw [hs]
    rfl
  have hrec := usageReceipts_rootSettledTree t root leaseId receiptId success usage
  refine h.next (sound_rootSettledTree h.sound hn hp hl hf success (h.room hn hlive) hid hfits)
    (ahead_rootSettledTree hn hlive success) ?_ ?_
  · rw [hrec, size_insert_of_new _ hf]
  · intro ho
    rw [recordedOverrun_insert hrec hf, Bool.or_eq_true, Bool.not_eq_true'] at ho
    exact closed_rootSettledTree (closed_recordFreshUsage (ho.imp_right h.stopped)) success

lemma Conserved.recover {early : Bool}
    (htx : (Transaction.recover env k leaseId early usage).commit x t = .ok t') :
    Conserved x t' := by
  obtain ⟨allowed, hallow, hsync⟩ := bind_ok htx
  obtain ⟨node, hn, hl, rfl⟩ := syncRecursiveStaleRecovery_eq_ok hsync
  have hlive : node.status.terminal = false := by
    rw [(h.sound.leases.leased node (mem_of_find? hn)).mpr (by simp [hl])]
    rfl
  cases hretry : early && allowed with
  | true =>
    obtain ⟨b, hb, hbt⟩ := t.retryAllowed_eq hn env usage
    cases (hallow.symm.trans hb)
    have hcount := (hbt (Bool.and_eq_true_iff.mp hretry).2).2.1
    exact h.quiet (sound_recovered_retry h.sound hn hl hcount)
      (ahead_recoveredTree hn hlive) rfl id
  | false =>
    rw [if_neg Bool.false_ne_true]
    refine h.quiet (sound_recovered_final h.sound hn hl)
      ((ahead_recoveredTree hn hlive).trans ahead_closeOut) ?_ ?_
    · exact usageReceipts_finalize.trans (alike_release _ k).usageReceipts
    · exact fun hc => closed_closeOut (t := t.recoveredTree k leaseId false) hc

end Step

lemma Conserved.step (hhex : ∀ s, (x.sha256Hex s).utf8ByteSize = 64) (h : Conserved x t)
    (htx : tx.commit x t = .ok t') (hp : tx.Fair x t) : Conserved x t' := by
  cases tx with
  | admitChild env proposal => exact h.admitChild hhex htx hp.1 hp.2
  | lease env k leaseId => exact h.lease htx hp
  | settle env k leaseId receiptId success retry usage =>
    exact h.settle htx hp.1 hp.2.1 hp.2.2.1 hp.2.2.2
  | settleRoot leaseId receiptId success usage => exact h.settleRoot htx hp.1 hp.2.1 hp.2.2
  | recover env k leaseId early usage => exact h.recover htx
  | pause =>
    cases htx
    exact h.quiet (sound_pause h.sound) (.of_nodes rfl) rfl fun hc => (over_apply hc x .pause).closed
  | resume =>
    cases htx
    refine h.quiet (sound_resume h.sound) ?_ ?_ fun hc => (over_apply hc x .resume).closed
    · unfold resume
      split_ifs
      · exact .of_nodes rfl
      · exact .refl t
    · unfold resume
      split_ifs <;> rfl
  | setPaused paused terminalReason =>
    cases htx
    exact h.quiet (sound_setPaused h.sound) ahead_setPaused
      usageReceipts_setPaused
      fun hc => closed_setPaused hc

lemma Reach.conserved (hhex : ∀ s, (x.sha256Hex s).utf8ByteSize = 64)
    (hp : ∀ t tx t', p t tx t' → tx.Fair x t) (h : Reach x p t) : Conserved x t :=
  h.invariant (fun _ _ _ _ _ _ _ _ hacc => conserved_freshRoot hacc)
    fun t tx t' ih htx hstep => ih.step hhex htx (hp t tx t' hstep)

/-- Usage within the node's budget is within the tree's: the node holds it in reserve. -/
lemma within_of_fits (hacc : t.validateTree x = .ok ()) (hn : t.nodes.find? k = some node)
    (hroot : k ≠ t.rootNodeId) (hlive : node.status.terminal = false)
    (hfits : node.budget.canSpend usage = true) (hover : t.recordedOverrun = false) :
    t.withinTreeBudget usage true = true := by
  obtain ⟨hs, -, -, hbooks⟩ := validateTree_eq_ok.mp hacc
  obtain ⟨root, -, hlim⟩ := limit_of_root hs.root hs.node
  simp only [withinTreeBudget, hlim, all_some, canSpend_iff, if_true,
    amount_add, amount_spend]
  intro d
  have hmem : node.account t.rootNodeId d ∈ (t.ledger d).accounts.rows :=
    mem_map_of_mem (mem_of_find? hn)
  have hle := (canSpend_iff _ _).mp hfits d
  have hheld : node.reservation.amount d = node.budget.amount d := by
    have heq := ((hbooks d).account _ hmem).held_eq
    simpa [account, hlive, key_of_find? hn, hroot] using heq
  have htotal : node.reservation.amount d ≤ (t.ledger d).total held :=
    (t.ledger d).le_total held hmem
  have hreserved : t.reservedBudget.amount d = min ((t.ledger d).total held) u64Max :=
    (hbooks d).reserved_eq
  have hconserved : min (t.rootBudget.amount d + t.spentBudget.amount d +
      t.reservedBudget.amount d) u64Max = (t.ledger d).limit := (hbooks d).conserved hover
  have elimit : (t.ledger d).limit = root.budgetLimit.amount d := by simp [ledger, hlim]
  omega

lemma Conserved.thrifty_step (h : Conserved x t) (hover : t.recordedOverrun = false)
    (htx : tx.commit x t = .ok t') (hp : tx.Fair x t) (ht : tx.Thrifty t) :
    t'.recordedOverrun = false := by
  cases tx with
  | admitChild env proposal =>
    obtain ⟨admission, htx⟩ := treeOf_eq_ok.mp htx
    obtain ⟨parent, -, -, -, rfl⟩ := admitChild_eq_ok htx
    exact hover
  | lease env k leaseId =>
    obtain ⟨node, -, -, -, -, -, rfl⟩ := syncRecursiveLease_eq_ok htx
    exact hover
  | settle env k leaseId receiptId success retry usage =>
    obtain ⟨hroot, hf, -, hfits⟩ := hp
    obtain ⟨node, hn, hl⟩ := syncRecursiveCompletion_node htx
    rw [hn, all_some] at hfits
    have hlive : node.status.terminal = false := by
      rw [(h.sound.leases.leased node (mem_of_find? hn)).mpr (by simp [hl])]
      rfl
    obtain ⟨r, -, hsync⟩ := syncRecursiveCompletion_fresh hn hl hf
    cases (htx.symm.trans hsync)
    rw [recordedOverrun_settledTree hf, hover,
      within_of_fits h.sound.accepted hn hroot hlive hfits hover]
    rfl
  | settleRoot leaseId receiptId success usage =>
    obtain ⟨root, -, -, -, -, rfl⟩ := syncRecursiveRootCompletion_fresh hp.1 htx
    rw [recordedOverrun_insert (usageReceipts_rootSettledTree t root leaseId receiptId success usage)
      hp.1, hover, show t.withinTreeBudget usage false = true from ht]
    rfl
  | recover env k leaseId early usage =>
    obtain ⟨allowed, -, hsync⟩ := bind_ok htx
    obtain ⟨node, -, -, rfl⟩ := syncRecursiveStaleRecovery_eq_ok hsync
    rw [recordedOverrun_congr (t := t), hover]
    split_ifs
    · rfl
    · exact usageReceipts_finalize.trans (alike_release _ k).usageReceipts
  | pause =>
    cases htx
    exact hover
  | resume =>
    cases htx
    rw [recordedOverrun_congr (t := t), hover]
    unfold resume
    split_ifs <;> rfl
  | setPaused paused terminalReason =>
    cases htx
    rw [recordedOverrun_congr usageReceipts_setPaused, hover]

/-- Fair runs keep the books. Every tree of such a run passes every check of the
validator, its reservations add up to what the tree reserves, and until an overrun is
on record free, reserved and spent budget add up to the limit: in the counters'
saturating arithmetic, and exactly below the largest counter. An overrun ends the tree,
and only a root that takes what its children hold can cause one. -/
theorem budget_conserved (x : Externals) (hhex : ∀ s, (x.sha256Hex s).utf8ByteSize = 64)
    (t : RecursiveTree) (h : Reach x (fun t tx _ => tx.Fair x t) t) :
    t.validateTree x = .ok () ∧
    (∀ d, (t.nodes.rows.map fun n => n.reservation.amount d).sum = t.reservedBudget.amount d) ∧
    (∀ d, min (t.nodes.rows.map fun n => n.actualUsage.amount d).sum u64Max =
      t.spentBudget.amount d) ∧
    (t.recordedOverrun = true → t.executionState.closed = true) ∧
    (t.recordedOverrun = false → ∃ limit, t.rootBudgetLimit = some limit ∧ ∀ d,
      min (t.rootBudget.amount d + t.reservedBudget.amount d + t.spentBudget.amount d) u64Max =
        limit.amount d ∧
      (limit.amount d < u64Max →
        t.rootBudget.amount d + t.reservedBudget.amount d + t.spentBudget.amount d =
          limit.amount d ∧
        (t.nodes.rows.map fun n => n.actualUsage.amount d).sum = t.spentBudget.amount d)) ∧
    (Reach x (fun t tx _ => tx.Fair x t ∧ tx.Thrifty t) t → t.recordedOverrun = false) := by
  have hc := h.conserved hhex fun _ _ _ hp => hp
  have hused : ∀ d, min (t.nodes.rows.map fun n => n.actualUsage.amount d).sum u64Max =
      t.spentBudget.amount d := by
    intro d
    have hspent := (hc.sound.books d).spent_eq
    rw [total_ledger] at hspent
    exact hspent.symm
  refine ⟨hc.sound.accepted, fun d => ?_, hused, hc.stopped, fun hover => ?_, fun hthrifty => ?_⟩
  · have hreserved := (hc.sound.books d).checked.reserved_eq
    have hroom := (hc.sound.books d).room
    have hlimit := (hc.sound.books d).limit_le
    have htotal : (t.ledger d).total held =
        (t.nodes.rows.map fun n => n.reservation.amount d).sum := t.total_ledger d
    have ereserved : (t.ledger d).reserved = t.reservedBudget.amount d := rfl
    omega
  · obtain ⟨root, -, hlim⟩ := limit_of_root hc.sound.shape.root hc.sound.shape.node
    refine ⟨root.budgetLimit, hlim, fun d => ?_⟩
    have hsum : min (t.rootBudget.amount d + t.spentBudget.amount d + t.reservedBudget.amount d)
        u64Max = (t.ledger d).limit := (hc.sound.books d).conserved hover
    have elimit : (t.ledger d).limit = root.budgetLimit.amount d := by simp [ledger, hlim]
    have := hused d
    exact ⟨by omega, fun hlt => ⟨by omega, by omega⟩⟩
  · have hboth : Conserved x t ∧ t.recordedOverrun = false :=
      hthrifty.invariant (I := fun t => Conserved x t ∧ t.recordedOverrun = false)
        (fun _ _ _ _ _ _ _ _ hacc => ⟨conserved_freshRoot hacc, rfl⟩)
        fun t tx t' ih htx hp => ⟨ih.1.step hhex htx hp.1, ih.1.thrifty_step ih.2 htx hp.1 hp.2⟩
    exact hboth.2

lemma sampleExternals_hex (s : String) : (sampleExternals.sha256Hex s).utf8ByteSize = 64 := by
  have hdigests : ∀ entry ∈ sampleDigests, entry.2.utf8ByteSize = 64 := by decide
  change ((sampleDigests.lookup s).getD _).utf8ByteSize = 64
  cases hl : sampleDigests.lookup s with
  | none => rfl
  | some digest =>
    obtain ⟨l, r, heq, -⟩ := lookup_eq_some_iff.mp hl
    exact hdigests (s, digest) (by simp [heq])

/-- The small run: a root, its child admitted, the child leased. -/
lemma Reach.sampleLeased
    (hfirst : p sampleRoot (.admitChild sampleEnv sampleProposal)
      (sampleRoot.admitChild sampleExternals sampleEnv sampleProposal).2)
    (hlease : p (sampleRoot.admitChild sampleExternals sampleEnv sampleProposal).2
      (.lease sampleEnv sampleChildId "lease-1") sampleLeased) :
    Reach sampleExternals p sampleLeased := by
  refine .step (.step (.root sampleRoot_new validateTree_sampleRoot) ?_ hfirst) ?_ hlease
  · rfl
  · rfl

lemma reach_sampleLeased :
    Reach sampleExternals (fun t tx _ => tx.Fair sampleExternals t) sampleLeased := by
  refine .sampleLeased ⟨?_, ?_⟩ ?_
  · rfl
  · decide
  · change "lease-1" ∉ (sampleRoot.admitChild sampleExternals sampleEnv
      sampleProposal).2.activeLeases
    exact of_decide_eq_true rfl

theorem budget_conserved_sample :
    Reach sampleExternals (fun t tx _ => tx.Fair sampleExternals t) sampleLeased ∧
      sampleLeased.validateTree sampleExternals = .ok () ∧
      ∀ d, (sampleLeased.nodes.rows.map fun n => n.reservation.amount d).sum =
        sampleLeased.reservedBudget.amount d := by
  have h := budget_conserved sampleExternals sampleExternals_hex sampleLeased reach_sampleLeased
  exact ⟨reach_sampleLeased, h.1, h.2.1⟩

/-- A root that reports ten of its twelve calls while a child holds three is within its own
budget, and its tree ends with thirteen calls accounted for. -/
theorem root_overrun_sample :
    ∃ t, Reach sampleExternals (fun t tx _ => tx.Fair sampleExternals t) t ∧
      t.rootBudgetLimit = some (sampleBudget 12) ∧ t.executionState = .budgetExhausted ∧
      t.rootBudget.amount .calls + t.reservedBudget.amount .calls + t.spentBudget.amount .calls =
        13 := by
  have hlease : (Transaction.lease sampleEnv "root" "lease-0").commit sampleExternals sampleLeased =
      .ok (sampleLeased.leasedTree "root" "lease-0") := by rfl
  have hsettle : (Transaction.settleRoot "lease-0" "r-0" true (sampleBudget 10)).commit
      sampleExternals (sampleLeased.leasedTree "root" "lease-0") =
      .ok ((sampleLeased.leasedTree "root" "lease-0").rootSettledTree
        (sampleParent.lease "lease-0") "lease-0" "r-0" true (sampleBudget 10)) := by
    rfl
  refine ⟨_, .step (.step reach_sampleLeased hlease ?_) hsettle ⟨?_, by decide, ?_⟩, ?_, ?_, ?_⟩
  · change "lease-0" ∉ sampleLeased.activeLeases
    exact of_decide_eq_true rfl
  all_goals rfl

end Harness
