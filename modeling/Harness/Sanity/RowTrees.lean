import Harness.Proofs.FailedAncestors
import Harness.Sanity.NodeSteps

/-! A tree and the rows of its nodes. The end of an attempt moves the tree and writes the rows
of the other nodes it ended, so what is left to see to is the row of the node itself. -/

namespace Harness

open Lib NodeRow RecursiveTree RecursiveNode List Table

def RecursiveNodeStatus.rowStatus : RecursiveNodeStatus → NodeStatus
  | .ready => .pending
  | .leased => .running
  | .completed => .completed
  | .failed => .failed

namespace RecursiveTree

/-- The tree `t'` that the end of an attempt of node `k` makes of `t`, and the status it leaves
the node in. -/
inductive AttemptEnd (x : Externals) (k : String) (status : RecursiveNodeStatus)
    (t t' : RecursiveTree) : Prop
  | settled {env : RecursiveEnv} {leaseId receiptId : String} {success retry : Bool}
      {usage : RecursiveBudget} {m : RecursiveNode} (hk : k ≠ t.rootNodeId)
      (hacc : t.validateTree x = .ok ())
      (h : t.syncRecursiveCompletionWithReceipt env k leaseId receiptId success retry usage = .ok t')
      (hm : t'.nodes.find? k = some m) (hstatus : m.status = status)
  | settledRoot {leaseId receiptId : String} {success : Bool} {usage : RecursiveBudget}
      {m : RecursiveNode} (hk : k = t.rootNodeId)
      (h : t.syncRecursiveRootCompletionWithReceipt leaseId receiptId success usage = .ok t')
      (hm : t'.nodes.find? k = some m) (hstatus : m.status = status)
  | failed {u : RecursiveTree} {reason : RecursiveFailureReason} (hends : EndsBeside k t u)
      (hfound : ∃ n, u.nodes.find? k = some n) (ht' : t' = u.terminalFailureAt k reason)
      (hstatus : status = .failed)
  | corrupt {reason : RecursiveFailureReason} (hk : k = t.rootNodeId)
      (hfound : ∃ n, t.nodes.find? k = some n) (ht' : t' = corruptRootTree t reason)
      (hstatus : status = .failed)
  | recovered {env : RecursiveEnv} {leaseId : String} {early allowed : Bool}
      (hacc : t.validateTree x = .ok ()) (hallowed : t.retryAllowed env k .zero = .ok allowed)
      (h : t.syncRecursiveStaleRecovery k leaseId (early && allowed) = .ok t')
      (hstatus : status = if early && allowed then .ready else .failed)

variable {x : Externals} {k : String} {status : RecursiveNodeStatus} {t t' : RecursiveTree}

lemma endsBeside_failNode {reason : RecursiveFailureReason} :
    EndsBeside k t (failNode reason t k) := by
  unfold failNode
  split
  · exact (Stands.of_nodes rfl).ends.beside
  · exact endsBeside_modify (fun n => n.fail reason) (fun _ => ⟨rfl, rfl⟩) rfl

lemma endsBeside_corruptRootTree (t : RecursiveTree) (reason : RecursiveFailureReason) :
    EndsBeside t.rootNodeId t (corruptRootTree t reason) := by
  exact (endsBeside_failNode.trans (ends_terminalize
    { failNode reason t t.rootNodeId with executionState := .terminalFailed } _ (.inr rfl)).beside).trans
      (Stands.of_nodes rfl).ends.beside

lemma not_leased_of_live {n : RecursiveNode} (h : n.live = false) : n.status ≠ .leased := by
  intro hleased
  rw [RecursiveNode.live, hleased] at h
  cases h

lemma AttemptEnd.own (h : AttemptEnd x k status t t') :
    ∃ m, t'.nodes.find? k = some m ∧ m.status = status ∧ status ≠ .leased := by
  cases h with
  | @settled env leaseId receiptId success retry usage m _ _ h hm hstatus =>
    refine ⟨m, hm, hstatus, ?_⟩
    obtain ⟨-, m', hm', ⟨-, -, hready⟩ | ⟨-, hlive⟩⟩ := syncCompletion_ends h
    · cases hm.symm.trans hm'
      rw [← hstatus, hready]
      decide
    · cases hm.symm.trans hm'
      exact hstatus ▸ not_leased_of_live hlive
  | @settledRoot leaseId receiptId success usage m hk h hm hstatus =>
    refine ⟨m, hm, hstatus, ?_⟩
    obtain ⟨-, m', hm', hlive⟩ := syncRootCompletion_ends h
    rw [hk] at hm
    cases hm.symm.trans hm'
    exact hstatus ▸ not_leased_of_live hlive
  | @failed u reason _ hfound ht' hstatus =>
    obtain ⟨n, hn⟩ := hfound
    obtain ⟨m, hm, hfailed, -⟩ := find?_terminalFailureAt hn
    rw [hstatus, ht']
    exact ⟨m, hm, hfailed, by decide⟩
  | @corrupt reason hk hfound ht' hstatus =>
    obtain ⟨n, hn⟩ := hfound
    rw [hk] at hn
    obtain ⟨m, hm, hfailed⟩ := find?_corruptRootTree hn
    rw [hstatus, ht', hk]
    exact ⟨m, hm, hfailed, by decide⟩
  | @recovered env leaseId early allowed _ hallowed h hstatus =>
    obtain ⟨-, n, m, hn, hm, hready, hfailed⟩ := syncStaleRecovery_ends h
    cases hr : early && allowed with
    | false =>
      rw [hstatus, hr]
      exact ⟨m, hm, hfailed hr, by decide⟩
    | true =>
      obtain ⟨b, hb, hroom⟩ := retryAllowed_eq hn env .zero
      rw [hallowed] at hb
      cases hb
      rw [hstatus, hr]
      exact ⟨m, hm, hready hr (hroom (Bool.and_eq_true_iff.mp hr).2).2.1, by decide⟩

end RecursiveTree

namespace WorkflowStore

variable {x : Externals} {mint : Mint}
  {s s' s'' : WorkflowStore} {now runId k leaseId receiptId : String} {t t' t'' : RecursiveTree}
  {n m : RecursiveNode}

variable (s runId n) in
/-- The node has a row, and the row has its status. -/
def Matches : Prop :=
  ∃ r, s.find? runId n.nodeId = some r ∧ r.status = n.status.rowStatus

variable (s runId t) in
def AgreesWith : Prop :=
  ∀ n ∈ t.nodes.rows, s.Matches runId n

def AgreesBeside (k : String) (s : WorkflowStore) (runId : String) (t : RecursiveTree) : Prop :=
  ∀ n ∈ t.nodes.rows, n.nodeId ≠ k → s.Matches runId n

/-- Every stored tree agrees with the rows of its run. -/
def Agrees (s : WorkflowStore) : Prop :=
  ∀ runId t, s.trees.find? runId = some t → s.AgreesWith runId t

lemma AgreesWith.beside (h : s.AgreesWith runId t) : s.AgreesBeside k runId t :=
  fun n hn _ => h n hn

lemma AgreesWith.of_beside (h : s.AgreesBeside k runId t) (hn : t.nodes.find? k = some n)
    (hmatch : s.Matches runId n) : s.AgreesWith runId t := by
  intro m hm
  by_cases hk : m.nodeId = k
  · have hfind := t.nodes.find?_key hm
    rw [hk, hn] at hfind
    rwa [← Option.some.inj hfind]
  · exact h m hm hk

lemma Matches.standing (h : s.Matches runId n) (hs : SameStanding n m) : s.Matches runId m := by
  obtain ⟨r, hr, hstatus⟩ := h
  exact ⟨r, hs.node.symm ▸ hr, by rw [hstatus, hs.status]⟩

lemma Matches.congr (h : s.Matches runId n)
    (hfind : s'.find? runId n.nodeId = s.find? runId n.nodeId) : s'.Matches runId n := by
  obtain ⟨r, hr, hstatus⟩ := h
  exact ⟨r, hfind.trans hr, hstatus⟩

lemma AgreesWith.congr (h : s.AgreesWith runId t)
    (hfind : ∀ k, t.nodes.contains k = true → s'.find? runId k = s.find? runId k) :
    s'.AgreesWith runId t :=
  fun n hn => (h n hn).congr (hfind n.nodeId (by simp [Table.contains, t.nodes.find?_key hn]))

lemma AgreesBeside.congr (h : s.AgreesBeside k runId t)
    (hfind : ∀ j, j ≠ k → s'.find? runId j = s.find? runId j) : s'.AgreesBeside k runId t :=
  fun n hn hk => (h n hn hk).congr (hfind n.nodeId hk)

/-- A row that goes with its node is live exactly if the node is. -/
lemma live_of_rowStatus {r : NodeRow} (h : r.status = n.status.rowStatus) : r.live = n.live := by
  unfold NodeRow.live RecursiveNode.live
  rw [h]
  cases n.status <;> rfl

lemma syncTerminal_rows (h : s.syncTerminalWorkflowNodes now t = .ok s') :
    endRows now t.rootRunId (t.nodes.rows.filter endsRow) s = (.ok (), s') := by
  unfold syncTerminalWorkflowNodes at h
  cases he : endRows now t.rootRunId (t.nodes.rows.filter endsRow) s with
  | mk result s₁ =>
    rw [he] at h
    cases result with
    | error reason => cases h
    | ok u =>
      cases h
      rfl

/-- A row that is not live, or whose node is not ended, stays as it is. -/
lemma endRows_find?_of_matches {result : Except String Unit} (hn : n ∈ t.nodes.rows)
    (hmatch : s.Matches runId n)
    (h : endRows now runId (t.nodes.rows.filter endsRow) s = (result, s')) :
    s'.find? runId n.nodeId = s.find? runId n.nodeId := by
  obtain ⟨r, hr, hstatus⟩ := hmatch
  cases hends : endsRow n with
  | false =>
    refine endRows_find?_of_notMem h fun l hl hln => ?_
    obtain ⟨hl, hlends⟩ := mem_filter.mp hl
    have hfind := t.nodes.find?_key hl
    rw [← hln.2, t.nodes.find?_key hn] at hfind
    rw [← Option.some.inj hfind, hends] at hlends
    cases hlends
  | true =>
    obtain ⟨r', hr', hfailing⟩ := Table.Rel.find?_some' (endRows_failing h)
      (fun _ _ h => h.closing.sameAttempt.key) hr
    have hr' : s'.find? runId n.nodeId = some r' := hr'
    cases hfailing with
    | same => rw [hr', hr]
    | failed _ hlive _ =>
      rw [live_of_rowStatus hstatus, live_of_endsRow hends] at hlive
      cases hlive

/-- The row of a node that a tree has ended is ended with it. -/
lemma Matches.ended (hmatch : s.Matches runId n) (hend : Ending n m) (hm : m ∈ t.nodes.rows)
    (h : endRows now runId (t.nodes.rows.filter endsRow) s = (.ok (), s')) :
    s'.Matches runId m := by
  cases hend with
  | same hsame =>
    have hmatch := hmatch.standing hsame
    exact hmatch.congr (endRows_find?_of_matches hm hmatch h)
  | ended hnode _ hlive hended =>
    obtain ⟨r, hr, hstatus⟩ := hmatch
    obtain ⟨r', hr', hfailing⟩ := Table.Rel.find?_some' (endRows_failing h)
      (fun _ _ h => h.closing.sameAttempt.key) hr
    have hr' : s'.find? runId m.nodeId = some r' := by rw [hnode]; exact hr'
    refine ⟨r', hr', ?_⟩
    cases hfailing with
    | same =>
      have hover := (endRows_swept h).2.2.2 rfl m (mem_filter.mpr ⟨hm, hended⟩) r hr'
      rw [live_of_rowStatus hstatus, hlive] at hover
      cases hover
    | failed _ _ hfailed => rw [hfailed, failed_of_endsRow hended]; rfl

/-- Ending the rows of the nodes that a tree has ended restores the agreement. -/
lemma agreesBeside_endRows (hagree : s.AgreesBeside k runId t) (hends : EndsBeside k t t')
    (h : endRows now runId (t'.nodes.rows.filter endsRow) s = (.ok (), s')) :
    s'.AgreesBeside k runId t' := by
  intro m hm hk
  obtain ⟨n, hn, hbeside⟩ := Table.Rel.find?_some hends (fun _ _ h => h.node) (t'.nodes.find?_key hm)
  rw [hbeside.node] at hk
  exact (hagree n (mem_of_find? hn) hk).ended (hbeside.others hk) hm h

lemma agreesWith_endRows (hagree : s.AgreesWith runId t) (hends : Ends t t')
    (h : endRows now runId (t'.nodes.rows.filter endsRow) s = (.ok (), s')) :
    s'.AgreesWith runId t' := by
  intro m hm
  obtain ⟨n, hn, hend⟩ := Table.Rel.find?_some hends (fun _ _ h => h.node) (t'.nodes.find?_key hm)
  exact (hagree n (mem_of_find? hn)).ended hend hm h

lemma rootNodeId_normalize : (normalizeLoadedTree t).rootNodeId = t.rootNodeId := by
  unfold normalizeLoadedTree
  split_ifs <;> rfl

lemma rootRunId_normalize : (normalizeLoadedTree t).rootRunId = t.rootRunId := by
  unfold normalizeLoadedTree
  split_ifs <;> rfl

lemma nodes_normalize : (normalizeLoadedTree t).nodes = t.nodes := by
  unfold normalizeLoadedTree
  split_ifs <;> rfl

/-- The tree of a run was replaced. Around the node `k` its rows follow it, and so they agree
if they did before. -/
structure Moved (x : Externals) (k runId : String) (p : RecursiveTree) (s s' : WorkflowStore)
    (t : RecursiveTree) : Prop where
  synced : Synced x s s' t
  run : t.rootRunId = runId
  ends : EndsBeside k p t
  rows : s.nodes.Rel Failing s'.nodes
  frame : ∀ runId' j, runId' ≠ runId → s'.find? runId' j = s.find? runId' j
  outside : ∀ j, p.nodes.find? j = none → s'.find? runId j = s.find? runId j
  agrees : s.AgreesBeside k runId p → s'.AgreesBeside k runId t

lemma Moved.trans (h : Moved x k runId t s s' t') (h' : Moved x k runId t' s' s'' t'') :
    Moved x k runId t s s'' t'' where
  synced := h.synced.trans h'.synced (h'.run.trans h.run.symm)
  run := h'.run
  ends := h.ends.trans h'.ends
  rows := Table.Rel.trans (R := Failing) (S := Failing) (fun _ _ _ h1 h2 => h1.trans h2) h.rows h'.rows
  frame runId' j hne := (h'.frame runId' j hne).trans (h.frame runId' j hne)
  outside j hj := (h'.outside j (h.ends.find?_none hj)).trans (h.outside j hj)
  agrees hagree := h'.agrees (h.agrees hagree)

lemma moved_of_syncTerminal {s₁ : WorkflowStore} (hsynced : Synced x s s' t')
    (h : s.syncTerminalWorkflowNodes now t' = .ok s₁) (hnodes : s'.nodes = s₁.nodes)
    (hrun : t'.rootRunId = runId) (hends : EndsBeside k t t') : Moved x k runId t s s' t' := by
  have hrows := syncTerminal_rows h
  rw [hrun] at hrows
  have hfind : ∀ runId' j, s'.find? runId' j = s₁.find? runId' j := fun runId' j => by
    unfold WorkflowGraph.find?
    rw [hnodes]
  refine ⟨hsynced, hrun, hends, ?_, fun runId' j hne => ?_, fun j hj => ?_, fun hagree n hn hk => ?_⟩
  · rw [hnodes]
    exact endRows_failing hrows
  · exact (hfind runId' j).trans (endRows_find?_of_notMem hrows fun _ _ h => hne h.1)
  · refine (hfind runId j).trans (endRows_find?_of_notMem hrows fun n hn h => ?_)
    have hfound := find?_key _ (mem_filter.mp hn).1
    rw [← h.2, hends.find?_none hj] at hfound
    cases hfound
  · exact (agreesBeside_endRows hagree hends hrows n hn hk).congr (hfind runId n.nodeId)

variable {success : Bool} {usage : RecursiveBudget} {env : RecursiveEnv}
  {reason : RecursiveFailureReason} {text : String} {v : ℕ}

lemma moved_syncTree (h : s.syncTree x mint now t' v = .ok s')
    (hrun : t'.rootRunId = runId) (hends : EndsBeside k t t') : Moved x k runId t s s' t' := by
  have hsynced := syncTree_eq_ok h
  obtain ⟨s₁, hterm, h⟩ := bind_ok h
  obtain ⟨-, rfl⟩ := persistTree_eq_ok h
  exact moved_of_syncTerminal hsynced hterm rfl hrun hends

/-- The row of a node that the tree leaves waiting is not ended. -/
lemma syncTree_find?_of_ready (h : s.syncTree x mint now t' v = .ok s')
    (hm : t'.nodes.find? k = some m) (hready : m.status = .ready) :
    s'.find? t'.rootRunId k = s.find? t'.rootRunId k := by
  obtain ⟨s₁, hterm, h⟩ := bind_ok h
  obtain ⟨-, rfl⟩ := persistTree_eq_ok h
  change s₁.find? t'.rootRunId k = _
  refine endRows_find?_of_notMem (syncTerminal_rows hterm) fun l hl hlk => ?_
  obtain ⟨hl, hends⟩ := mem_filter.mp hl
  have hfind := t'.nodes.find?_key hl
  rw [← hlk.2, hm] at hfind
  cases hfind
  rw [failed_of_endsRow hends] at hready
  cases hready

/-- The attempt of a node of the stored tree `p` has ended, and `t` is stored. -/
structure AttemptEnded (x : Externals) (k runId : String) (status : RecursiveNodeStatus)
    (p : RecursiveTree) (s s' : WorkflowStore) (t : RecursiveTree) : Prop where
  stored : s.trees.find? runId = some p
  attempt : AttemptEnd x k status (normalizeLoadedTree p) t
  moved : Moved x k runId p s s' t
  waiting : status = .ready → s'.find? runId k = s.find? runId k

lemma endsBeside_normalize {p : RecursiveTree} : EndsBeside k p (normalizeLoadedTree p) :=
  (Stands.of_nodes nodes_normalize).ends.beside

lemma ended_syncCompletion {retry : Bool}
    (hk : ∀ p, s.trees.find? runId = some p → k ≠ p.rootNodeId)
    (h : s.syncRecursiveCompletion x mint env now runId k leaseId receiptId success retry usage =
      .ok (text, s')) :
    ∃ status p t, AttemptEnded x k runId status p s s' t ∧ text = status.asStr ∧
      (status = .ready ↔
        retry = true ∧ (normalizeLoadedTree p).retryAllowed env k usage = .ok true) := by
  obtain ⟨u, t, m, hload, hsync, hm, htext, hrun, htree⟩ := syncCompletion_eq_ok h
  obtain ⟨-, hacc, p, hp, rfl⟩ := loadTree_eq_ok hload
  obtain ⟨hends, m', hm', hown⟩ := syncCompletion_ends hsync
  cases hm.symm.trans hm'
  refine ⟨m.status, p, t, ⟨hp, .settled ?_ hacc hsync hm rfl, moved_syncTree htree hrun
    (endsBeside_normalize.trans hends), fun hready => ?_⟩, htext, ?_⟩
  · rw [rootNodeId_normalize]
    exact hk p hp
  · rw [← hrun]
    exact syncTree_find?_of_ready htree hm hready
  · rcases hown with ⟨hr, ha, hready⟩ | ⟨hno, hlive⟩
    · exact ⟨fun _ => ⟨hr, ha⟩, fun _ => hready⟩
    · refine ⟨fun hready => ?_, fun h => absurd h hno⟩
      rw [RecursiveNode.live, hready] at hlive
      cases hlive

lemma ended_syncRootCompletion (hk : ∀ p, s.trees.find? runId = some p → k = p.rootNodeId)
    (h : s.syncRecursiveRootCompletion x mint now runId leaseId receiptId success usage =
      .ok (text, s')) :
    ∃ status p t, AttemptEnded x k runId status p s s' t ∧ text = status.asStr ∧
      status ≠ .ready := by
  obtain ⟨u, t, m, hload, hsync, hm, htext, hrun, htree⟩ := syncRootCompletion_eq_ok h
  obtain ⟨-, -, p, hp, rfl⟩ := loadTree_eq_ok hload
  obtain rfl := hk p hp
  have hroot : t.rootNodeId = p.rootNodeId :=
    (advance_syncRootCompletion hsync).root.trans rootNodeId_normalize
  obtain ⟨hends, m', hm', hlive⟩ := syncRootCompletion_ends hsync
  rw [rootNodeId_normalize] at hends hm'
  rw [hroot] at hm
  cases hm.symm.trans hm'
  have hready : m.status ≠ .ready := by
    intro hready
    rw [RecursiveNode.live, hready] at hlive
    cases hlive
  exact ⟨m.status, p, t, ⟨hp, .settledRoot rootNodeId_normalize.symm hsync hm rfl,
    moved_syncTree htree hrun (endsBeside_normalize.trans hends), fun h => absurd h hready⟩,
    htext, hready⟩

lemma ended_syncTerminalFailure
    (h : s.syncRecursiveTerminalFailure x mint env now runId k leaseId reason = .ok (text, s')) :
    ∃ p t, AttemptEnded x k runId .failed p s s' t ∧ text = RecursiveNodeStatus.failed.asStr := by
  obtain ⟨u, t, s₁, v, hload, hsync, hfound, htext, hrun, hfirst, hsecond⟩ :=
    syncTerminalFailure_eq_ok h
  obtain ⟨-, -, p, hp, rfl⟩ := loadTree_eq_ok hload
  have hends := (syncCompletion_ends hsync).1
  refine ⟨p, t.terminalFailureAt k reason, ⟨hp, .failed hends hfound rfl rfl, ?_, nofun⟩,
    htext⟩
  exact (moved_syncTree hfirst hrun (endsBeside_normalize.trans hends)).trans
    (moved_syncTree hsecond (run_terminalFailureAt.trans hrun)
      endsBeside_terminalFailureAt)

lemma ended_syncRootTerminalFailure {receipt : String}
    (hk : ∀ p, s.trees.find? runId = some p → k = p.rootNodeId)
    (h : s.syncRecursiveRootTerminalFailure x mint now runId receipt reason = .ok (text, s')) :
    ∃ p t, AttemptEnded x k runId .failed p s s' t ∧ text = RecursiveNodeStatus.failed.asStr := by
  rcases syncRootTerminalFailure_eq_ok h with
    ⟨-, h⟩ | ⟨u, t, n, s₁, v, hload, hsync, hn, htext, hrun, hfirst, hsecond⟩
  · obtain ⟨p, n, hp, hn, htext, hsynced, s₁, hterm, hnodes⟩ := syncCorrupt_eq_ok h
    obtain rfl := hk p hp
    have hrun : (corruptRootTree (normalizeLoadedTree p) reason).rootRunId = runId := by
      rw [run_corruptRootTree, rootRunId_normalize]
      exact key_of_find? hp
    have hends := endsBeside_corruptRootTree (normalizeLoadedTree p) reason
    rw [rootNodeId_normalize] at hends hn
    exact ⟨p, corruptRootTree (normalizeLoadedTree p) reason,
      ⟨hp, .corrupt rootNodeId_normalize.symm ⟨n, hn⟩ rfl rfl,
        moved_of_syncTerminal hsynced hterm hnodes hrun (endsBeside_normalize.trans hends),
        nofun⟩, htext⟩
  · obtain ⟨-, -, p, hp, rfl⟩ := loadTree_eq_ok hload
    obtain rfl := hk p hp
    have hroot : t.rootNodeId = p.rootNodeId :=
      (advance_syncRootCompletion hsync).root.trans rootNodeId_normalize
    have hends := (syncRootCompletion_ends hsync).1
    rw [rootNodeId_normalize] at hends
    rw [hroot] at hn hsecond
    refine ⟨p, t.terminalFailureAt p.rootNodeId reason,
      ⟨hp, .failed hends ⟨n, hn⟩ rfl rfl, ?_, nofun⟩, htext⟩
    exact (moved_syncTree hfirst hrun (endsBeside_normalize.trans hends)).trans
      (moved_syncTree hsecond (run_terminalFailureAt.trans hrun)
        endsBeside_terminalFailureAt)

lemma ended_syncStaleRecovery {early allowed : Bool}
    (hallowed : ∀ p,
      s.trees.find? runId = some p → (normalizeLoadedTree p).retryAllowed env k .zero = .ok allowed)
    (h : s.syncRecursiveStaleRecovery x mint now runId k leaseId (early && allowed) = .ok s') :
    ∃ p t, AttemptEnded x k runId (if early && allowed then .ready else .failed) p s s' t := by
  obtain ⟨u, t, hload, hsync, hrun, htree⟩ := syncStaleRecovery_eq_ok h
  obtain ⟨-, hacc, p, hp, rfl⟩ := loadTree_eq_ok hload
  have hattempt : AttemptEnd x k (if early && allowed then .ready else .failed)
      (normalizeLoadedTree p) t := .recovered hacc (hallowed p hp) hsync rfl
  obtain ⟨m, hm, hstatus, -⟩ := hattempt.own
  refine ⟨p, t, hp, hattempt, moved_syncTree htree hrun (endsBeside_normalize.trans
    (syncStaleRecovery_ends hsync).1), fun hready => ?_⟩
  rw [← hrun]
  exact syncTree_find?_of_ready htree hm (hstatus.trans hready)

end WorkflowStore

end Harness
