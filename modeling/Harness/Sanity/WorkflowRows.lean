import Harness.Proofs.LostUpdate
import Harness.Spec.WorkflowStore

/-! What a transaction does to the rows it was not called for: some that were pending or
running are closed, the others stay as they are. -/

namespace Harness

open Lib RecursiveTree Table List Except

variable {r r' : NodeRow} {s s' : WorkflowStore} {n : RecursiveNode} {usage : RecursiveBudget}
  {t : RecursiveTree} {text : String} {reason : RecursiveFailureReason}

namespace NodeRow

structure SameAttempt (r r' : NodeRow) : Prop where
  run : r'.runId = r.runId
  node : r'.nodeId = r.nodeId
  task : r'.taskType = r.taskType
  attempt : r'.attemptCount = r.attemptCount

lemma SameAttempt.refl (r : NodeRow) : SameAttempt r r := ⟨rfl, rfl, rfl, rfl⟩

variable {r'' : NodeRow}

lemma SameAttempt.trans (h : SameAttempt r r') (h' : SameAttempt r' r'') : SameAttempt r r'' :=
  ⟨h'.run.trans h.run, h'.node.trans h.node, h'.task.trans h.task, h'.attempt.trans h.attempt⟩

lemma SameAttempt.key (h : SameAttempt r r') : r'.key = r.key := by
  unfold NodeRow.key
  rw [h.run, h.node]

/-- Work that is waiting or under way. -/
def live (r : NodeRow) : Bool := r.status = .pending || r.status = .running

lemma live_eq_true : r.live = true ↔ r.status = .pending ∨ r.status = .running := by
  simp [live]

inductive Closing (r : NodeRow) : NodeRow → Prop
  | same : Closing r r
  | closed {r' : NodeRow} (h : SameAttempt r r') (hr : r.live = true) (hr' : r'.status.done = true) :
      Closing r r'

lemma live_of_done (h : r.status.done = true) : r.live = false := by
  unfold live
  cases hs : r.status <;> simp [hs, NodeStatus.done] at h ⊢

lemma Closing.sameAttempt (h : Closing r r') : SameAttempt r r' := by
  cases h with
  | same => exact .refl r
  | closed h _ _ => exact h

lemma Closing.live (h : Closing r r') (hl : r'.live = true) : r' = r := by
  cases h with
  | same => rfl
  | closed _ _ hd =>
    rw [live_of_done hd] at hl
    cases hl

lemma Closing.trans (h : Closing r r') (h' : Closing r' r'') : Closing r r'' := by
  cases h' with
  | same => exact h
  | closed h2 hl hd =>
    obtain rfl := h.live hl
    exact .closed h2 hl hd

inductive Failing (r : NodeRow) : NodeRow → Prop
  | same : Failing r r
  | failed {r' : NodeRow} (h : SameAttempt r r') (hr : r.live = true) (hr' : r'.status = .failed) :
      Failing r r'

lemma Failing.closing (h : Failing r r') : Closing r r' := by
  cases h with
  | same => exact .same
  | failed h hr hr' => exact .closed h hr (by rw [hr']; rfl)

lemma Failing.trans (h : Failing r r') (h' : Failing r' r'') : Failing r r'' := by
  cases h' with
  | same => exact h
  | failed h2 hl hf =>
    obtain rfl := h.closing.live hl
    exact .failed h2 hl hf

end NodeRow

open NodeRow

/-- The rows of `s`, some of them closed. -/
structure Swept (s s' : WorkflowStore) : Prop where
  rows : s.nodes.Rel Closing s'.nodes
  edges : s'.edges = s.edges

lemma Swept.refl (s : WorkflowStore) : Swept s s := ⟨.refl (fun _ => .same) _, rfl⟩

variable {success retry : Bool} {env : RecursiveEnv} {runId nodeId k : String} {s'' : WorkflowStore}
  {v : ℕ}

lemma Swept.trans (h : Swept s s') (h' : Swept s' s'') : Swept s s'' :=
  ⟨Table.Rel.trans (fun _ _ _ h1 h2 => h1.trans h2) h.rows h'.rows, h'.edges.trans h.edges⟩

lemma Swept.find? (h : Swept s s') (hr : s'.find? runId nodeId = some r') :
    ∃ r, s.find? runId nodeId = some r ∧ Closing r r' :=
  h.rows.find?_some (fun _ _ h => h.sameAttempt.key) hr

lemma Swept.find?' (h : Swept s s') (hr : s.find? runId nodeId = some r) :
    ∃ r', s'.find? runId nodeId = some r' ∧ Closing r r' :=
  h.rows.find?_some' (fun _ _ h => h.sameAttempt.key) hr

/-- The row of a node is neither waiting nor under way. -/
def RowOver (s : WorkflowStore) (runId nodeId : String) : Prop :=
  ∀ r, s.find? runId nodeId = some r → r.live = false

lemma RowOver.swept (h : RowOver s runId nodeId) (hs : Swept s s') : RowOver s' runId nodeId := by
  intro r' hr'
  obtain ⟨r, hr, hc⟩ := hs.find? hr'
  by_contra hl
  obtain rfl := hc.live (by simpa using hl)
  exact hl (h r' hr)

namespace WorkflowStore

variable {x : Externals} {mint : Mint}
  {s s' : WorkflowStore} {now runId nodeId : String} {r : NodeRow}

variable {result : Except String Unit} {nodes : List RecursiveNode} {f : NodeRow → NodeRow}
  {runId' : String}

@[simp] lemma nodes_modifyNode (hf : ∀ r, (f r).key = r.key) :
    (s.modifyNode runId nodeId f hf).nodes = s.nodes.modify (toLex (runId, nodeId)) f hf := rfl

@[simp] lemma trees_modifyNode (hf : ∀ r, (f r).key = r.key) :
    (s.modifyNode runId nodeId f hf).trees = s.trees := rfl

lemma find?_modifyNode (hf : ∀ r, (f r).key = r.key) {nodeId' : String} :
    (s.modifyNode runId nodeId f hf).find? runId' nodeId' = if runId' = runId ∧ nodeId' = nodeId
    then (s.find? runId' nodeId').map f else s.find? runId' nodeId' := by
  unfold WorkflowGraph.find?
  rw [nodes_modifyNode, find?_modify]
  refine if_congr ?_ rfl rfl
  rw [toLex_inj, Prod.mk.injEq]

lemma find?_run (h : s.find? runId nodeId = some r) : r.runId = runId ∧ r.nodeId = nodeId := by
  have hk := key_of_find? h
  unfold NodeRow.key at hk
  rw [toLex_inj, Prod.mk.injEq] at hk
  exact hk

lemma endRow_eq_ok (h : endRow now runId s n = .ok s') :
    Swept s s' ∧ s'.runs = s.runs ∧ s'.trees = s.trees ∧ RowOver s' runId n.nodeId := by
  unfold endRow at h
  cases hr : s.find? runId n.nodeId with
  | none =>
    rw [hr] at h
    cases h
    refine ⟨.refl s, rfl, rfl, fun r hr' => ?_⟩
    rw [hr] at hr'
    cases hr'
  | some row =>
    rw [hr] at h
    dsimp only at h
    split_ifs at h with hlive
    · cases h
      refine ⟨.refl s, rfl, rfl, fun r hr' => ?_⟩
      cases hr.symm.trans hr'
      simp [NodeRow.live, hlive.1, hlive.2]
    · have hrow : row.live = true := by
        rw [live_eq_true]
        by_contra hne
        exact hlive ⟨fun hp => hne (.inl hp), fun hp => hne (.inr hp)⟩
      cases hj : row.nodeJson with
      | malformed _ => simp [hj] at h
      | scalar _ => simp [hj] at h
      | object m =>
        rw [hj] at h
        dsimp only at h
        split_ifs at h
        cases h
        refine ⟨⟨?_, rfl⟩, rfl, rfl, fun r hr' => ?_⟩
        · refine Table.Rel.of_modify rfl (fun _ => .same) fun a ha => ?_
          cases ha.symm.trans hr
          exact .closed ⟨rfl, rfl, rfl, rfl⟩ hrow rfl
        · rw [find?_modifyNode, if_pos ⟨rfl, rfl⟩, hr] at hr'
          cases hr'
          rfl

lemma endRow_cases (h : endRow now runId s n = .ok s') :
    s' = s ∨
      ∃ row f hf, s.find? runId n.nodeId = some row ∧ row.live = true ∧
        (∀ r, SameAttempt r (f r) ∧ (f r).status = .failed) ∧
        s' = s.modifyNode runId n.nodeId f hf := by
  unfold endRow at h
  split at h
  · exact .inl (ok.inj h).symm
  · rename_i row hrow
    split_ifs at h with hlive
    · exact .inl (ok.inj h).symm
    · split at h
      · cases h
      · cases h
      · split_ifs at h
        cases h
        refine .inr ⟨row, _, _, hrow, ?_, ?_, rfl⟩
        · rw [live_eq_true]
          by_contra hne
          exact hlive ⟨fun hp => hne (.inl hp), fun hp => hne (.inr hp)⟩
        · exact fun r => ⟨⟨rfl, rfl, rfl, rfl⟩, rfl⟩

lemma endRows_swept (h : endRows now runId nodes s = (result, s')) :
    Swept s s' ∧ s'.runs = s.runs ∧ s'.trees = s.trees ∧
      (result = .ok () → ∀ n ∈ nodes, RowOver s' runId n.nodeId) := by
  induction nodes generalizing s with
  | nil =>
    obtain ⟨-, rfl⟩ := Prod.mk.inj h
    exact ⟨.refl s, rfl, rfl, fun _ n hn => by cases hn⟩
  | cons n nodes ih =>
    unfold endRows at h
    cases he : endRow now runId s n with
    | error reason =>
      rw [he] at h
      obtain ⟨rfl, rfl⟩ := Prod.mk.inj h
      exact ⟨.refl s, rfl, rfl, nofun⟩
    | ok s₁ =>
      rw [he] at h
      obtain ⟨hsw, hruns, htrees, hover⟩ := endRow_eq_ok he
      obtain ⟨hsw', hruns', htrees', hover'⟩ := ih h
      refine ⟨hsw.trans hsw', hruns'.trans hruns, htrees'.trans htrees, fun hok m hm => ?_⟩
      rcases mem_cons.mp hm with rfl | hm
      · exact hover.swept hsw'
      · exact hover' hok m hm

/-- Only the rows of the listed nodes are written. -/
lemma endRows_find?_of_notMem (h : endRows now runId nodes s = (result, s'))
    (hnode : ∀ n ∈ nodes, ¬(runId' = runId ∧ nodeId = n.nodeId)) :
    s'.find? runId' nodeId = s.find? runId' nodeId := by
  induction nodes generalizing s with
  | nil =>
    cases h
    rfl
  | cons n nodes ih =>
    unfold endRows at h
    cases he : endRow now runId s n with
    | error reason =>
      rw [he] at h
      cases h
      rfl
    | ok s₁ =>
      rw [he] at h
      rw [ih h fun m hm => hnode m (mem_cons_of_mem n hm)]
      rcases endRow_cases he with rfl | ⟨row, f, hf, -, -, -, rfl⟩
      · rfl
      · rw [find?_modifyNode, if_neg (hnode n mem_cons_self)]

/-- Those that are written were waiting or under way, and have failed. -/
lemma endRows_failing (h : endRows now runId nodes s = (result, s')) :
    s.nodes.Rel Failing s'.nodes := by
  induction nodes generalizing s with
  | nil =>
    cases h
    exact .refl (fun _ => .same) _
  | cons n nodes ih =>
    unfold endRows at h
    cases he : endRow now runId s n with
    | error reason =>
      rw [he] at h
      cases h
      exact .refl (fun _ => .same) _
    | ok s₁ =>
      rw [he] at h
      refine Table.Rel.trans (R := Failing) (S := Failing) (fun _ _ _ h1 h2 => h1.trans h2) ?_ (ih h)
      rcases endRow_cases he with rfl | ⟨row, f, hf, hrow, hlive, hfail, rfl⟩
      · exact .refl (fun _ => .same) _
      · refine Table.Rel.of_modify rfl (fun _ => .same) fun r hr => ?_
        obtain rfl := Option.mem_unique hr hrow
        exact .failed (hfail r).1 hlive (hfail r).2

lemma swept_blockOnce {g : WorkflowGraph} : g.nodes.Rel Closing (g.blockOnce runId).nodes := by
  refine Table.Rel.of_map rfl fun r _ => ?_
  split_ifs with hb
  · refine .closed ⟨rfl, rfl, rfl, rfl⟩ ?_ rfl
    simp only [WorkflowGraph.isBlocked, Bool.and_eq_true, decide_eq_true_eq] at hb
    exact live_eq_true.mpr (.inl hb.1.2)
  · exact .same

lemma swept_blockAll (runId : String) (fuel : ℕ) (g : WorkflowGraph) :
    g.nodes.Rel Closing (WorkflowGraph.blockAll runId fuel g).nodes ∧
      (WorkflowGraph.blockAll runId fuel g).edges = g.edges := by
  induction fuel generalizing g with
  | zero => exact ⟨.refl (fun _ => .same) _, rfl⟩
  | succ fuel ih =>
    unfold WorkflowGraph.blockAll
    split_ifs
    · obtain ⟨h, he⟩ := ih (g.blockOnce runId)
      exact ⟨Table.Rel.trans (fun _ _ _ h1 h2 => h1.trans h2) swept_blockOnce h, he⟩
    · exact ⟨.refl (fun _ => .same) _, rfl⟩

lemma swept_finishRun : Swept s (s.finishRun runId).2 ∧ (s.finishRun runId).2.trees = s.trees := by
  have h := swept_blockAll runId (s.nodes.size + 1) s.toWorkflowGraph
  unfold finishRun
  dsimp only
  split
  · exact ⟨⟨h.1, h.2⟩, rfl⟩
  · exact ⟨⟨h.1, h.2⟩, rfl⟩

end WorkflowStore

/-! The store's operations on a tree stay with its run. -/

namespace RecursiveTree

variable {t t' : RecursiveTree} {env : RecursiveEnv} {k leaseId receiptId : String}

variable {retry success : Bool}

lemma advance_afterCompletion (h : t.afterCompletion k retry = .ok t') : Advance t t' := by
  unfold afterCompletion at h
  split_ifs at h
  · obtain ⟨u, h⟩ := treeOf_eq_ok.mp h
    have h1 := advance_retry t k
    rwa [h] at h1
  · cases h
    exact (advance_release t k).trans (advance_finalize _ _)

lemma completion_eq_ok
    (h : t.syncRecursiveCompletionWithReceipt env k leaseId receiptId success retry usage =
      .ok t') :
    ∃ allowed u, (if retry then t.retryAllowed env k usage else .ok false) = .ok allowed ∧
      treeOf (t.completeNodeWithUsageReceipt k leaseId receiptId success usage) = .ok u ∧
      u.afterCompletion k allowed = .ok t' := by
  unfold syncRecursiveCompletionWithReceipt at h
  split_ifs at h ⊢
  · cases h
  · obtain ⟨allowed, hallowed, h⟩ := bind_ok h
    obtain ⟨u, hu, h⟩ := bind_ok h
    exact ⟨allowed, u, hallowed, hu, h⟩
  · cases h
  · obtain ⟨allowed, hallowed, h⟩ := bind_ok h
    obtain ⟨u, hu, h⟩ := bind_ok h
    exact ⟨allowed, u, hallowed, hu, h⟩

lemma advance_syncCompletion
    (h : t.syncRecursiveCompletionWithReceipt env k leaseId receiptId success retry usage =
      .ok t') :
    Advance t t' := by
  obtain ⟨allowed, u, -, hu, h⟩ := completion_eq_ok h
  obtain ⟨a, hu⟩ := treeOf_eq_ok.mp hu
  have h1 := advance_completeNode t k leaseId receiptId success usage
  rw [hu] at h1
  exact h1.trans (advance_afterCompletion h)

lemma advance_syncRootCompletion
    (h : t.syncRecursiveRootCompletionWithReceipt leaseId receiptId success usage = .ok t') :
    Advance t t' := by
  obtain ⟨u, hu, h⟩ := bind_ok h
  obtain ⟨a, hu⟩ := treeOf_eq_ok.mp hu
  cases h
  have h1 := advance_completeRoot t leaseId receiptId success usage
  rw [hu] at h1
  exact h1.trans (advance_finalize u none)

lemma advance_syncStaleRecovery (h : t.syncRecursiveStaleRecovery k leaseId retry = .ok t') :
    Advance t t' := by
  obtain ⟨u, hu, h⟩ := bind_ok h
  obtain ⟨a, hu⟩ := treeOf_eq_ok.mp hu
  cases h
  have h1 := advance_recover t k leaseId retry
  rw [hu] at h1
  split_ifs
  · exact h1
  · exact (h1.trans (advance_release _ _)).trans (advance_finalize _ _)

lemma run_terminalFailureAt : (t.terminalFailureAt k reason).rootRunId = t.rootRunId :=
  (advance_terminalize { t with
    nodes := t.nodes.modify k fun n =>
      { n with failureReason := some reason, status := .failed, version := n.version + 1 }
    executionState := .terminalFailed } (some k) .terminalFailed).run

lemma find?_terminalFailureAt (hn : t.nodes.find? k = some n) :
    ∃ m, (t.terminalFailureAt k reason).nodes.find? k = some m ∧ m.status = .failed ∧
      m.failureReason = some reason := by
  have hmod : (t.nodes.modify k fun n =>
      { n with failureReason := some reason, status := .failed, version := n.version + 1 }).find? k =
      some { n with failureReason := some reason, status := .failed, version := n.version + 1 } := by
    rw [find?_modify, if_pos rfl, hn]
    rfl
  obtain ⟨m, hm, c, v, rfl⟩ := find?_terminalize (t := { t with
    nodes := t.nodes.modify k fun n =>
      { n with failureReason := some reason, status := .failed, version := n.version + 1 }
    executionState := .terminalFailed }) hmod
  exact ⟨_, hm, rfl, rfl⟩

end RecursiveTree

open WorkflowStore

/-- The tree of one run was replaced, and the rows of its ended children are over. -/
structure Synced (x : Externals) (s s' : WorkflowStore) (t : RecursiveTree) : Prop where
  swept : Swept s s'
  runs : s'.runs = s.runs
  trees : ∀ runId, s'.trees.find? runId = if runId = t.rootRunId then some t else s.trees.find? runId
  accepted : t.validateTree x = .ok ()
  rowsOver : ∀ n ∈ t.nodes.rows, endsRow n = true → RowOver s' t.rootRunId n.nodeId

lemma Synced.trans {x : Externals} {t' : RecursiveTree} (h : Synced x s s' t)
    (h' : Synced x s' s'' t') (ht : t'.rootRunId = t.rootRunId) : Synced x s s'' t' where
  swept := h.swept.trans h'.swept
  runs := h'.runs.trans h.runs
  trees runId := by
    rw [h'.trees, h.trees, ht]
    split_ifs <;> rfl
  accepted := h'.accepted
  rowsOver := h'.rowsOver

variable {x : Externals} {mint : Mint}
  {s s' : WorkflowStore} {now runId nodeId leaseId receiptId : String}

lemma persistTree_eq_ok (h : s.persistTree x mint t (some v) = .ok s') :
    t.validateTree x = .ok () ∧ s' = { s with trees := s.trees.insert t } := by
  obtain ⟨trees, hp, h⟩ := bind_ok h
  obtain ⟨hacc, -, -, rfl⟩ := persistRecursiveTree_eq_ok hp
  exact ⟨hacc, (ok.inj h).symm⟩

lemma loadTree_eq_ok (h : s.loadTree x mint runId = .ok t) :
    t.rootRunId = runId ∧ t.validateTree x = .ok () ∧
      ∃ p, s.trees.find? runId = some p ∧ t = normalizeLoadedTree p := by
  obtain ⟨loaded, hl, h⟩ := bind_ok h
  cases loaded with
  | none => cases h
  | some u =>
    cases h
    obtain ⟨hrun, hhold, hp⟩ := loadRecursiveTree_eq_ok hl
    exact ⟨hrun, hhold.accepted, hp⟩

lemma syncTerminal_eq_ok (h : s.syncTerminalWorkflowNodes now t = .ok s') :
    Swept s s' ∧ s'.runs = s.runs ∧ s'.trees = s.trees ∧
      ∀ n ∈ t.nodes.rows, endsRow n = true → RowOver s' t.rootRunId n.nodeId := by
  unfold syncTerminalWorkflowNodes at h
  cases he : endRows now t.rootRunId (t.nodes.rows.filter endsRow) s with
  | mk result s₁ =>
    rw [he] at h
    cases result with
    | error reason => cases h
    | ok u =>
      cases h
      obtain ⟨hsw, hruns, htrees, hover⟩ := endRows_swept he
      exact ⟨hsw, hruns, htrees, fun n hn hends => hover rfl n (mem_filter.mpr ⟨hn, hends⟩)⟩

lemma syncTree_eq_ok (h : s.syncTree x mint now t v = .ok s') : Synced x s s' t := by
  obtain ⟨s₁, h1, h⟩ := bind_ok h
  obtain ⟨hsw, hruns, htrees, hover⟩ := syncTerminal_eq_ok h1
  obtain ⟨hacc, rfl⟩ := persistTree_eq_ok h
  refine ⟨⟨hsw.rows, hsw.edges⟩, hruns, fun r => ?_, hacc, fun n hn hends => hover n hn hends⟩
  rw [find?_insert, htrees]

lemma nodeStatusText_eq_ok (h : nodeStatusText t k = .ok text) :
    ∃ n, t.nodes.find? k = some n ∧ text = n.status.asStr := by
  unfold nodeStatusText at h
  cases hn : t.nodes.find? k with
  | none => simp [hn] at h
  | some n =>
    rw [hn] at h
    exact ⟨n, rfl, (ok.inj h).symm⟩

lemma syncCompletion_eq_ok
    (h : s.syncRecursiveCompletion x mint env now runId nodeId leaseId receiptId success retry
        usage = .ok (text, s')) :
    ∃ t t' n, s.loadTree x mint runId = .ok t ∧
      t.syncRecursiveCompletionWithReceipt env nodeId leaseId receiptId success retry usage =
        .ok t' ∧
      t'.nodes.find? nodeId = some n ∧ text = n.status.asStr ∧ t'.rootRunId = runId ∧
      s.syncTree x mint now t' t.version = .ok s' := by
  obtain ⟨t, hload, h⟩ := bind_ok h
  obtain ⟨u, -, h⟩ := bind_ok h
  obtain ⟨t', hsync, h⟩ := bind_ok h
  obtain ⟨text', htext, h⟩ := bind_ok h
  obtain ⟨s₁, htree, h⟩ := bind_ok h
  cases h
  obtain ⟨n, hn, rfl⟩ := nodeStatusText_eq_ok htext
  have hsync' := reasonText_eq_ok.mp hsync
  exact ⟨t, t', n, hload, hsync', hn, rfl,
    (advance_syncCompletion hsync').run.trans (loadTree_eq_ok hload).1, htree⟩

lemma syncRootCompletion_eq_ok
    (h : s.syncRecursiveRootCompletion x mint now runId leaseId receiptId success usage =
      .ok (text, s')) :
    ∃ t t' n, s.loadTree x mint runId = .ok t ∧
      t.syncRecursiveRootCompletionWithReceipt leaseId receiptId success usage = .ok t' ∧
      t'.nodes.find? t'.rootNodeId = some n ∧ text = n.status.asStr ∧ t'.rootRunId = runId ∧
      s.syncTree x mint now t' t.version = .ok s' := by
  obtain ⟨t, hload, h⟩ := bind_ok h
  obtain ⟨t', hsync, h⟩ := bind_ok h
  obtain ⟨text', htext, h⟩ := bind_ok h
  obtain ⟨s₁, htree, h⟩ := bind_ok h
  cases h
  obtain ⟨n, hn, rfl⟩ := nodeStatusText_eq_ok htext
  have hsync' := reasonText_eq_ok.mp hsync
  exact ⟨t, t', n, hload, hsync', hn, rfl,
    (advance_syncRootCompletion hsync').run.trans (loadTree_eq_ok hload).1, htree⟩

/-- A stored tree that was accepted is loaded as it is. -/
lemma Synced.load {u : RecursiveTree} (h : Synced x s s' t)
    (hu : s'.loadTree x mint t.rootRunId = .ok u) : u = t := by
  obtain ⟨-, -, p, hp, rfl⟩ := loadTree_eq_ok hu
  rw [h.trees, if_pos rfl] at hp
  cases hp
  exact normalizeLoadedTree_accepted h.accepted

lemma syncTerminalFailure_eq_ok
    (h : s.syncRecursiveTerminalFailure x mint env now runId nodeId leaseId reason =
      .ok (text, s')) :
    ∃ t t' s₁ v, s.loadTree x mint runId = .ok t ∧
      t.syncRecursiveCompletionWithReceipt env nodeId leaseId leaseId false false .zero = .ok t' ∧
      (∃ n, t'.nodes.find? nodeId = some n) ∧ text = "failed" ∧ t'.rootRunId = runId ∧
      s.syncTree x mint now t' t.version = .ok s₁ ∧
      s₁.syncTree x mint now (t'.terminalFailureAt nodeId reason) v = .ok s' := by
  obtain ⟨⟨text₁, s₁⟩, h1, h⟩ := bind_ok h
  obtain ⟨u, hload, h⟩ := bind_ok h
  obtain ⟨v, -, h⟩ := bind_ok h
  obtain ⟨s₂, htree, h⟩ := bind_ok h
  cases h
  obtain ⟨t, t', n, ht, hsync, hn, -, hrun, hfirst⟩ := syncCompletion_eq_ok h1
  obtain rfl := (syncTree_eq_ok hfirst).load (hrun.symm ▸ hload)
  exact ⟨t, u, s₁, u.version, ht, hsync, ⟨n, hn⟩, rfl, hrun, hfirst, htree⟩

variable (t reason) in
def corruptRootTree : RecursiveTree :=
  ({ RecursiveTree.failNode reason t t.rootNodeId with
    executionState := .terminalFailed }.terminalizeRemainingNodes
      (some (RecursiveTree.failNode reason t t.rootNodeId).rootNodeId) .terminalFailed).bumpVersion

lemma rootNodeId_failNode :
    (failNode reason t k).rootNodeId = t.rootNodeId := (newer_failNode reason t k).root

lemma find?_failNode (hn : t.nodes.find? k = some n) :
    (failNode reason t k).nodes.find? k = some (n.fail reason) := by
  unfold failNode
  rw [hn]
  rw [find?_modify, if_pos rfl, hn]
  rfl

lemma find?_corruptRootTree (hn : t.nodes.find? t.rootNodeId = some n) :
    ∃ m, (corruptRootTree t reason).nodes.find? t.rootNodeId = some m ∧ m.status = .failed := by
  unfold corruptRootTree
  rw [rootNodeId_failNode]
  obtain ⟨m, hm, c, v, rfl⟩ := find?_terminalize (t := { failNode reason t t.rootNodeId with
    executionState := .terminalFailed }) (find?_failNode hn)
  exact ⟨_, hm, rfl⟩

lemma run_corruptRootTree : (corruptRootTree t reason).rootRunId = t.rootRunId :=
  (advance_terminalize { failNode reason t t.rootNodeId with executionState := .terminalFailed }
    (some (failNode reason t t.rootNodeId).rootNodeId) .terminalFailed).run.trans
    (newer_failNode reason t t.rootNodeId).run

lemma requireTreeNode_eq_ok (h : requireTreeNode t k = .ok ()) : ∃ n, t.nodes.find? k = some n := by
  unfold requireTreeNode at h
  rw [refuse_eq_ok, Bool.not_eq_false'] at h
  exact Option.isSome_iff_exists.mp h

lemma syncCorrupt_eq_ok
    (h : s.syncCorruptRecursiveRootTerminalFailure x now runId reason = .ok (text, s')) :
    ∃ p n, s.trees.find? runId = some p ∧
      (normalizeLoadedTree p).nodes.find? (normalizeLoadedTree p).rootNodeId = some n ∧
      text = "failed" ∧ Synced x s s' (corruptRootTree (normalizeLoadedTree p) reason) ∧ ∃ s₁,
      s.syncTerminalWorkflowNodes now (corruptRootTree (normalizeLoadedTree p) reason) = .ok s₁ ∧
      s'.nodes = s₁.nodes := by
  unfold syncCorruptRecursiveRootTerminalFailure at h
  cases hp : s.trees.find? runId with
  | none => simp [hp] at h
  | some p =>
    rw [hp] at h
    obtain ⟨u, hroot, h⟩ := bind_ok h
    obtain ⟨s₁, hsync, h⟩ := bind_ok h
    obtain ⟨json, hv, h⟩ := bind_ok h
    cases h
    obtain ⟨n, hn⟩ := requireTreeNode_eq_ok hroot
    obtain ⟨hsw, hruns, htrees, hover⟩ := syncTerminal_eq_ok hsync
    refine ⟨p, n, rfl, hn, rfl, ⟨⟨hsw.rows, hsw.edges⟩, hruns, fun r => ?_,
      validateTree_of_persistable (congrArg isOk hv), fun n hn hends => hover n hn hends⟩,
      s₁, hsync, rfl⟩
    rw [find?_insert, htrees]
    rfl

lemma syncRootTerminalFailure_eq_ok {receipt : String}
    (h : s.syncRecursiveRootTerminalFailure x mint now runId receipt reason = .ok (text, s')) :
    (reason = .recursiveNodeIdentityMalformed ∧
      s.syncCorruptRecursiveRootTerminalFailure x now runId reason = .ok (text, s')) ∨
    ∃ t t' n s₁ v, s.loadTree x mint runId = .ok t ∧
      t.syncRecursiveRootCompletionWithReceipt receipt receipt false .zero = .ok t' ∧
      t'.nodes.find? t'.rootNodeId = some n ∧ text = "failed" ∧ t'.rootRunId = runId ∧
      s.syncTree x mint now t' t.version = .ok s₁ ∧
      s₁.syncTree x mint now (t'.terminalFailureAt t'.rootNodeId reason) v = .ok s' := by
  unfold syncRecursiveRootTerminalFailure at h
  split_ifs at h with hreason
  · exact .inl ⟨hreason, h⟩
  · obtain ⟨⟨text₁, s₁⟩, h1, h⟩ := bind_ok h
    obtain ⟨u, hload, h⟩ := bind_ok h
    obtain ⟨v, -, h⟩ := bind_ok h
    obtain ⟨s₂, htree, h⟩ := bind_ok h
    cases h
    obtain ⟨t, t', n, ht, hsync, hn, -, hrun, hfirst⟩ := syncRootCompletion_eq_ok h1
    obtain rfl := (syncTree_eq_ok hfirst).load (hrun.symm ▸ hload)
    exact .inr ⟨t, u, n, s₁, u.version, ht, hsync, hn, rfl, hrun, hfirst, htree⟩

lemma syncStaleRecovery_eq_ok
    (h : s.syncRecursiveStaleRecovery x mint now runId nodeId leaseId retry = .ok s') :
    ∃ t t', s.loadTree x mint runId = .ok t ∧
      t.syncRecursiveStaleRecovery nodeId leaseId retry = .ok t' ∧ t'.rootRunId = runId ∧
      s.syncTree x mint now t' t.version = .ok s' :=
    by
  obtain ⟨t, hload, h⟩ := bind_ok h
  obtain ⟨t', hsync, h⟩ := bind_ok h
  have hsync' := reasonText_eq_ok.mp hsync
  exact ⟨t, t', hload, hsync',
    (advance_syncStaleRecovery hsync').run.trans (loadTree_eq_ok hload).1, h⟩

lemma find?_recordOverrun (hn : t.nodes.find? k = some n) :
    ∃ m, (t.recordOverrun k receiptId usage).nodes.find? k = some m ∧ Untouched n m := by
  unfold recordOverrun
  dsimp only
  split_ifs
  · exact ⟨n, hn, .refl n⟩
  · exact find?_exhaust hn

/-- A late charge does not end the node it is for. -/
lemma endsRow_late {consumes : Bool} {o : Except RecursiveFailureReason Bool × RecursiveTree}
    (h : LateUsage t consumes k receiptId usage o) (hn : t.nodes.find? k = some n) :
    ∃ m, o.2.nodes.find? k = some m ∧ endsRow m = endsRow n := by
  cases h with
  | refused reason => exact ⟨n, hn, rfl⟩
  | known recorded => exact ⟨n, hn, rfl⟩
  | charged _ _ _ alike _ _ =>
    obtain ⟨m, hm, hshell⟩ := alike.symm.exists_find? hn
    have hends : endsRow m.shell = endsRow n.shell := congrArg _ hshell
    split_ifs
    · exact ⟨m, hm, hends⟩
    · obtain ⟨m', hm', c, v, rfl⟩ := find?_recordOverrun hm
      exact ⟨_, hm', hends⟩

def lateCharge (t : RecursiveTree) (root : Bool) (nodeId receiptId : String)
    (usage : RecursiveBudget) : RecursiveTree :=
  (if root then t.recordRootLateUsage receiptId usage
    else t.recordLateUsage nodeId receiptId usage).2

lemma advance_lateCharge (t : RecursiveTree) (root : Bool) (nodeId receiptId : String)
    (usage : RecursiveBudget) : Advance t (lateCharge t root nodeId receiptId usage) := by
  unfold lateCharge
  split_ifs
  · exact lateUsage_root.advance
  · exact lateUsage_node.advance

lemma lateUsage_cases {root : Bool} {result : Except String Bool}
    (h : s.recordRecursiveLateUsage x mint now runId nodeId receiptId root usage =
      (result, s')) :
    s' = s ∨ ∃ t ended s₁, s.loadTree x mint runId = .ok t ∧
      (root = false → t.nodes.contains nodeId = true) ∧
      endRows now (lateCharge t root nodeId receiptId usage).rootRunId
        ((lateCharge t root nodeId receiptId usage).nodes.rows.filter endsRow) s = (ended, s₁) ∧
      (result.isOk = false ∧ s' = s₁ ∨ result.isOk = true ∧ ended = .ok () ∧
        (lateCharge t root nodeId receiptId usage).validateTree x = .ok () ∧
        s' = { s₁ with trees := s₁.trees.insert (lateCharge t root nodeId receiptId usage) }) := by
  unfold WorkflowStore.recordRecursiveLateUsage at h
  cases hload : s.loadTree x mint runId with
  | error reason =>
    rw [hload] at h
    exact .inl (Prod.mk.inj h).2.symm
  | ok t =>
    rw [hload] at h
    dsimp only at h
    split at h
    · exact .inl (Prod.mk.inj h).2.symm
    · rename_i hnode
      split at h
      · exact .inl (Prod.mk.inj h).2.symm
      · rename_i within t' hcharged
        have ht' : t' = lateCharge t root nodeId receiptId usage := by
          unfold lateCharge
          rw [hcharged]
        subst ht'
        refine .inr ⟨t, _, _, rfl, fun hr => ?_, rfl, ?_⟩
        · simpa [hr] using hnode
        · split at h
          · rename_i reason s₁ hended
            rw [hended]
            exact .inl ⟨congrArg isOk (Prod.mk.inj h).1.symm, (Prod.mk.inj h).2.symm⟩
          · rename_i s₁ hended
            rw [hended]
            split at h
            · exact .inl ⟨congrArg isOk (Prod.mk.inj h).1.symm, (Prod.mk.inj h).2.symm⟩
            · rename_i s₂ hpersist
              obtain ⟨hacc, rfl⟩ := persistTree_eq_ok hpersist
              exact .inr ⟨congrArg isOk (Prod.mk.inj h).1.symm, rfl, hacc,
                (Prod.mk.inj h).2.symm⟩

end Harness
