import Harness.Lib.Versioned
import Harness.Proofs.Transactions

/-! Versions. Whatever a call on the tree changes, it also counts the version up. -/

namespace Harness

open Lib List

namespace RecursiveTree

variable {t s u : RecursiveTree}

/-- The tree of the same run at a version no smaller. -/
structure Newer (t s : RecursiveTree) : Prop where
  run : s.rootRunId = t.rootRunId
  root : s.rootNodeId = t.rootNodeId
  version : t.version ≤ s.version

lemma Newer.refl (t : RecursiveTree) : Newer t t := ⟨rfl, rfl, le_rfl⟩

lemma Newer.trans (h : Newer t s) (h' : Newer s u) : Newer t u :=
  ⟨h'.run.trans h.run, h'.root.trans h.root, h.version.trans h'.version⟩

/-- Unchanged, or changed together with the version. -/
structure Advance (t s : RecursiveTree) : Prop where
  run : s.rootRunId = t.rootRunId
  root : s.rootNodeId = t.rootNodeId
  behind : Behind version t s

lemma Advance.refl (t : RecursiveTree) : Advance t t := ⟨rfl, rfl, .refl t⟩

lemma Advance.trans (h : Advance t s) (h' : Advance s u) : Advance t u :=
  ⟨h'.run.trans h.run, h'.root.trans h.root, h.behind.trans h'.behind⟩

lemma Advance.newer (h : Advance t s) : Newer t s := ⟨h.run, h.root, h.behind.le⟩

lemma advance_foldl {α : Type} {f : RecursiveTree → α → RecursiveTree}
    (hf : ∀ t a, Advance t (f t a)) {as : List α} : Advance t (as.foldl f t) := by
  induction as generalizing t with
  | nil => exact .refl t
  | cons a as ih => exact (hf t a).trans ih

/-- A change that ends with a new version. -/
lemma Newer.bumpVersion (h : Newer t s) : Advance t s.bumpVersion :=
  ⟨h.run, h.root, .inr (Nat.lt_succ_of_le h.version)⟩

lemma advance_release (t : RecursiveTree) (k : String) :
    Advance t (t.releaseNodeReservationForPersistence k) := by
  unfold releaseNodeReservationForPersistence
  cases t.nodes.find? k with
  | none => exact .refl t
  | some node => exact ⟨rfl, rfl, .inr (Nat.lt_succ_self _)⟩

lemma newer_failNode (reason : RecursiveFailureReason) (t : RecursiveTree) (k : String) :
    Newer t (failNode reason t k) := by
  unfold failNode
  cases t.nodes.find? k with
  | none => exact .refl t
  | some node => exact ⟨rfl, rfl, le_rfl⟩

lemma newer_foldl {f : RecursiveTree → String → RecursiveTree} (hf : ∀ t k, Newer t (f t k))
    (ids : List String) (t : RecursiveTree) : Newer t (ids.foldl f t) := by
  induction ids generalizing t with
  | nil => exact .refl t
  | cons k ids ih => exact (hf t k).trans (ih _)

variable {success within : Bool} {x : Externals} {env : RecursiveEnv}
  {reason : RecursiveFailureReason} {k leaseId : String}

lemma newer_closeNodes {ids : List String} : Newer t (t.closeNodes reason ids) :=
  (newer_foldl (newer_failNode reason) ids t).trans
    (newer_foldl (fun t k => (advance_release t k).newer) ids _)

lemma contains_failNode {j : String} :
    ((failNode reason t j).nodes.find? k).isSome = (t.nodes.find? k).isSome := by
  unfold failNode
  cases hj : t.nodes.find? j with
  | none => rfl
  | some node =>
    rw [Table.find?_modify]
    split_ifs with h
    · rw [h]
      cases t.nodes.find? j <;> rfl
    · rfl

/-- Closing a node of the tree returns its reservation, which counts. -/
lemma advance_closeNodes {p : RecursiveNode → Bool} :
    Advance t (t.closeNodes reason (t.liveIds p)) := by
  cases hids : t.liveIds p with
  | nil => exact .refl t
  | cons k ids =>
    have hk : (t.nodes.find? k).isSome = true := by
      have hmem : k ∈ t.liveIds p := by rw [hids]; exact mem_cons_self
      obtain ⟨n, hn, rfl⟩ := mem_map.mp hmem
      rw [t.nodes.find?_key (mem_filter.mp hn).1]
      rfl
    have hfail : ∀ (l : List String) (s : RecursiveTree), (s.nodes.find? k).isSome = true →
        ((l.foldl (failNode reason) s).nodes.find? k).isSome = true := by
      intro l
      induction l with
      | nil => exact fun _ h => h
      | cons j l ih => exact fun s h => ih _ (contains_failNode.trans h)
    have hn := newer_foldl (newer_failNode reason) (k :: ids) t
    obtain ⟨node, hfind⟩ := Option.isSome_iff_exists.mp (hfail (k :: ids) t hk)
    have hrel : Newer t
        (((k :: ids).foldl (failNode reason) t).releaseNodeReservationForPersistence k) ∧
        t.version < (((k :: ids).foldl (failNode reason) t).releaseNodeReservationForPersistence
          k).version := by
      unfold releaseNodeReservationForPersistence
      rw [hfind]
      exact ⟨⟨hn.run, hn.root, hn.version.trans (Nat.le_succ _)⟩, Nat.lt_succ_of_le hn.version⟩
    have hrest := newer_foldl (fun t k => (advance_release t k).newer) ids
      (((k :: ids).foldl (failNode reason) t).releaseNodeReservationForPersistence k)
    exact ⟨hrest.run.trans hrel.1.run, hrest.root.trans hrel.1.root,
      .inr (hrel.2.trans_le hrest.version)⟩

lemma advance_terminalize (t : RecursiveTree) (exceptNodeId : Option String)
    (reason : RecursiveFailureReason) :
    Advance t (t.terminalizeRemainingNodes exceptNodeId reason) := by
  unfold terminalizeRemainingNodes
  dsimp only
  split_ifs
  · exact advance_closeNodes
  · exact newer_closeNodes.bumpVersion

lemma advance_verdict : Advance t t.finalizeVerdict := by
  unfold finalizeVerdict
  split_ifs
  all_goals first
    | exact .refl t
    | exact ⟨rfl, rfl, .inr (Nat.lt_succ_self _)⟩

lemma advance_finalize (t : RecursiveTree) (failedNodeId : Option String) :
    Advance t (t.finalizeTerminalTree failedNodeId) := by
  unfold finalizeTerminalTree
  split_ifs
  · exact .refl t
  · cases failedNodeId with
    | none => exact advance_verdict
    | some k => exact advance_closeNodes.trans advance_verdict

lemma newer_exhaust (t : RecursiveTree) (k : String) : Newer t (t.exhaust k) := by
  have h := (advance_terminalize { t with executionState := .budgetExhausted } (some k)
    .treeBudgetExhausted).newer
  exact ⟨h.run, h.root, h.version⟩

lemma newer_recordFreshUsage (t : RecursiveTree) (receiptId : String) (usage : RecursiveBudget)
    (consumes : Bool) : Newer t (t.recordFreshUsage receiptId usage consumes) := by
  refine ⟨rfl, rfl, ?_⟩
  unfold recordFreshUsage
  dsimp only
  split_ifs
  · exact Nat.le_succ _
  · exact le_rfl

lemma advance_nodeEnded (h : Newer t s) {node : RecursiveNode} :
    Advance t (s.nodeEnded node k leaseId success within) := by
  unfold nodeEnded
  split_ifs
  · exact Newer.bumpVersion ⟨h.run, h.root, h.version⟩
  · have hx := newer_exhaust (s.endAttempt k leaseId (success && within)
      (nodeFailureReason node success within)) k
    exact Newer.bumpVersion ⟨hx.run.trans h.run, hx.root.trans h.root, h.version.trans hx.version⟩

lemma advance_rootEnded (h : Newer t s) : Advance t (s.rootEnded leaseId success within) := by
  refine s.rootEnded_cases leaseId success within (P := Advance t) (fun _ c r => ?_) (fun c r => ?_)
    fun _ r => ?_
  · have hx := newer_exhaust (s.endAttempt s.rootNodeId leaseId c r) s.rootNodeId
    exact Newer.bumpVersion ⟨hx.run.trans h.run, hx.root.trans h.root, h.version.trans hx.version⟩
  · have hx := (advance_terminalize { s.endAttempt s.rootNodeId leaseId c r with
      executionState := .terminalFailed } (some s.rootNodeId) .terminalFailed).newer
    exact Newer.bumpVersion ⟨hx.run.trans h.run, hx.root.trans h.root, h.version.trans hx.version⟩
  · exact (Newer.bumpVersion (s := s.endAttempt s.rootNodeId leaseId true r)
      ⟨h.run, h.root, h.version⟩).trans (advance_finalize _ none)

lemma newer_recordOverrun (t : RecursiveTree) (k receiptId : String) (usage : RecursiveBudget) :
    Newer t (t.recordOverrun k receiptId usage) := by
  unfold recordOverrun
  dsimp only
  split_ifs
  · exact ⟨rfl, rfl, le_rfl⟩
  · have hx := newer_exhaust { t with
      usageReceipts := t.usageReceipts.insert (receiptId, receiptText false usage) } k
    exact ⟨hx.run, hx.root, hx.version⟩

lemma LateUsage.advance {consumes : Bool} {k receiptId : String} {usage : RecursiveBudget}
    {o : Except RecursiveFailureReason Bool × RecursiveTree}
    (h : LateUsage t consumes k receiptId usage o) : Advance t o.2 := by
  cases h with
  | refused reason => exact .refl t
  | known recorded => exact .refl t
  | charged _ _ _ alike _ version =>
    have hbooked := (newer_recordFreshUsage t receiptId usage consumes).trans
      ⟨alike.agree _ fun _ => rfl, alike.agree _ fun _ => rfl, version.ge⟩
    split_ifs
    · exact hbooked.bumpVersion
    · exact (hbooked.trans (newer_recordOverrun _ k receiptId usage)).bumpVersion

lemma advance_completeNode (t : RecursiveTree) (k leaseId receiptId : String) (success : Bool)
    (usage : RecursiveBudget) :
    Advance t (t.completeNodeWithUsageReceipt k leaseId receiptId success usage).2 := by
  rcases t.completeNode_cases k leaseId receiptId success usage with
    ⟨reason, h⟩ | ⟨node, -, -, ⟨-, h⟩ | ⟨previous, within, -, -, h⟩⟩
  · rw [h]
    exact .refl t
  · rw [h]
    have hfresh := newer_recordFreshUsage t receiptId usage true
    exact advance_nodeEnded (s := (t.recordFreshUsage receiptId usage true).chargeNode k usage)
      ⟨hfresh.run, hfresh.root, hfresh.version⟩
  · rw [h]
    exact advance_nodeEnded (.refl t)

lemma advance_completeRoot (t : RecursiveTree) (leaseId receiptId : String) (success : Bool)
    (usage : RecursiveBudget) :
    Advance t (t.completeRootWithUsageReceipt leaseId receiptId success usage).2 := by
  rcases t.completeRoot_cases leaseId receiptId success usage with
    ⟨reason, h⟩ | ⟨-, -, h⟩ | ⟨root, -, -, -, -, ⟨-, h⟩ | ⟨within, -, h⟩⟩
  · rw [h]
    exact .refl t
  · rw [h]
    exact .refl t
  · rw [h]
    have hfresh := newer_recordFreshUsage t receiptId usage false
    exact advance_rootEnded (s := t.rootCharged receiptId usage)
      ⟨hfresh.run, hfresh.root, hfresh.version⟩
  · rw [h]
    exact advance_rootEnded (.refl t)

lemma advance_admit {proposal : RecursiveProposal} : Advance t (t.admitChild x env proposal).2 := by
  unfold admitChild
  cases t.proposalRefusal x env proposal with
  | some reason => exact .refl t
  | none =>
    cases t.nodes.find? proposal.parentNodeId with
    | none => exact .refl t
    | some parent =>
      dsimp only
      cases t.parentRefusal x parent proposal with
      | some reason => exact .refl t
      | none => exact ⟨rfl, rfl, .inr (Nat.lt_succ_self _)⟩

lemma advance_lease : Advance t (t.leaseNode env k leaseId).2 := by
  unfold leaseNode
  cases t.schedulingRefusal env with
  | some reason => exact .refl t
  | none =>
    split_ifs
    · exact .refl t
    · cases t.nodes.find? k with
      | none => exact .refl t
      | some node =>
        dsimp only
        split_ifs
        · exact .refl t
        · exact ⟨rfl, rfl, .inr (Nat.lt_succ_self _)⟩

lemma advance_recover (t : RecursiveTree) (k leaseId : String) (retry : Bool) :
    Advance t (t.recoverStaleLease k leaseId retry).2 := by
  unfold recoverStaleLease
  cases t.nodes.find? k with
  | none => exact .refl t
  | some node =>
    dsimp only
    split_ifs
    · exact .refl t
    · exact ⟨rfl, rfl, .inr (Nat.lt_succ_self _)⟩

lemma advance_retry (t : RecursiveTree) (k : String) : Advance t (t.retryNode k).2 := by
  unfold retryNode
  cases t.nodes.find? k with
  | none => exact .refl t
  | some node => exact Newer.bumpVersion ⟨rfl, rfl, le_rfl⟩

/-- The identity of an accepted tree is complete, so it is only ever bound to itself. -/
lemma bindRootIdentity_accepted (hs : Shape x t) {agentId marker receipt : String}
    (h : t.bindRootIdentity agentId marker receipt = .ok s) : s = t := by
  obtain ⟨ha, hm, hr⟩ := hs.creation
  have hmark : t.rootRecursiveMarker ≠ "" := hm ▸ hs.identity.2.2
  unfold bindRootIdentity at h
  dsimp only at h
  split_ifs at h with h1 h2
  simp only [ha, hmark, hr, decide_false, Bool.false_or, Bool.or_eq_true, Bool.not_eq_true',
    decide_eq_false_iff_not, not_or, not_not] at h2
  obtain ⟨⟨rfl, rfl⟩, rfl⟩ := h2
  exact (Except.ok.inj h).symm

/-- The tenant and the workspace of an accepted tree are those of its root node. -/
lemma bindRootExecutionScope_same (hs : Shape x t) {tenant workspace : Option String}
    (h : t.bindRootExecutionScope tenant workspace = .ok s) (ht : s.rootTenantId = t.rootTenantId)
    (hw : s.rootWorkspaceId = t.rootWorkspaceId) : s = t := by
  unfold bindRootExecutionScope at h
  split_ifs at h
  cases h
  subst ht hw
  have hroot := hs.root
  unfold validateRoot at hroot
  have hnodes : ∀ n ∈ t.nodes.rows, n.nodeId = t.rootNodeId →
      n.tenantId = t.rootTenantId ∧ n.workspaceId = t.rootWorkspaceId := by
    intro n hn hid
    rw [← hid, t.nodes.find?_key hn] at hroot
    simp only [refuse_eq_ok, Bool.or_eq_false_iff, decide_eq_false_iff_not, ne_eq, not_not] at hroot
    exact ⟨hroot.1.2, hroot.2⟩
  have hsame : (t.nodes.modify t.rootNodeId fun root =>
      { root with tenantId := t.rootTenantId, workspaceId := t.rootWorkspaceId }) = t.nodes := by
    refine Table.ext ?_
    refine (map_congr_left fun n hn => ?_).trans (map_id _)
    split_ifs with hid
    · obtain ⟨h1, h2⟩ := hnodes n hn hid
      rw [← h1, ← h2]
      rfl
    · rfl
  rw [hsame]

end RecursiveTree

open RecursiveTree

variable {x : Externals} {t : RecursiveTree}

lemma TreeOp.advance_of_ne (hs : Shape x t) (op : TreeOp)
    (hne : ∀ tenant workspace, op ≠ .bindRootExecutionScope tenant workspace) :
    Advance t (op.apply x t) := by
  cases op with
  | bindRootIdentity agentId marker receipt =>
    change Advance t ((t.bindRootIdentity agentId marker receipt).toOption.getD t)
    cases h : t.bindRootIdentity agentId marker receipt with
    | error _ => exact .refl t
    | ok s =>
      obtain rfl := bindRootIdentity_accepted hs h
      exact .refl s
  | bindRootExecutionScope tenant workspace => exact absurd rfl (hne tenant workspace)
  | admitChild env proposal => exact advance_admit
  | leaseNode env k leaseId => exact advance_lease
  | completeNode k leaseId success =>
    change Advance t (t.completeNode k leaseId success).2
    have h := advance_completeNode t k leaseId leaseId success .zero
    unfold RecursiveTree.completeNode RecursiveTree.completeNodeWithUsage
    split
    · next s hs' =>
      rw [hs'] at h
      exact h.trans (advance_release s k)
    · next reason s hs' =>
      rw [hs'] at h
      exact h
  | completeNodeWithUsage k leaseId success usage =>
    exact advance_completeNode t k leaseId leaseId success usage
  | completeNodeWithUsageReceipt k leaseId receiptId success usage =>
    exact advance_completeNode t k leaseId receiptId success usage
  | completeRootWithUsage leaseId success usage =>
    exact advance_completeRoot t leaseId leaseId success usage
  | completeRootWithUsageReceipt leaseId receiptId success usage =>
    exact advance_completeRoot t leaseId receiptId success usage
  | recordRootLateUsage receiptId usage => exact lateUsage_root.advance
  | recordLateUsage k receiptId usage => exact lateUsage_node.advance
  | releaseNodeReservation k => exact advance_release t k
  | terminalizeRemainingNodes exceptNodeId reason => exact advance_terminalize t exceptNodeId reason
  | finalizeTerminalTree failedNodeId => exact advance_finalize t failedNodeId
  | retryNode k => exact advance_retry t k
  | recoverStaleLease k leaseId retry => exact advance_recover t k leaseId retry
  | pause => exact ⟨rfl, rfl, .inr (Nat.lt_succ_self _)⟩
  | resume =>
    change Advance t t.resume
    unfold RecursiveTree.resume
    split_ifs
    · exact ⟨rfl, rfl, .inr (Nat.lt_succ_self _)⟩
    · exact .refl t
  | recordRejection proposalId reason => exact ⟨rfl, rfl, .inr (Nat.lt_succ_self _)⟩
  | recordRejectionEvidence proposalId evidence => exact ⟨rfl, rfl, .inr (Nat.lt_succ_self _)⟩

lemma TreeOp.bindScope_cases {tenant workspace : Option String} :
    (TreeOp.bindRootExecutionScope tenant workspace).apply x t = t ∨
      t.bindRootExecutionScope tenant workspace =
        .ok ((TreeOp.bindRootExecutionScope tenant workspace).apply x t) := by
  change (t.bindRootExecutionScope tenant workspace).toOption.getD t = t ∨
    t.bindRootExecutionScope tenant workspace =
      .ok ((t.bindRootExecutionScope tenant workspace).toOption.getD t)
  cases t.bindRootExecutionScope tenant workspace with
  | error _ => exact .inl rfl
  | ok s => exact .inr rfl

lemma TreeOp.rootRunId_apply (hs : Shape x t) (op : TreeOp) :
    (op.apply x t).rootRunId = t.rootRunId := by
  by_cases hbind : ∃ tenant workspace, op = .bindRootExecutionScope tenant workspace
  · obtain ⟨tenant, workspace, rfl⟩ := hbind
    rcases TreeOp.bindScope_cases with h | h
    · rw [h]
    · unfold RecursiveTree.bindRootExecutionScope at h
      split_ifs at h
      rw [← Except.ok.inj h]
  · exact (op.advance_of_ne hs fun tenant workspace h => hbind ⟨tenant, workspace, h⟩).run

/-- Every call on an accepted tree that leaves its tenant and workspace. -/
lemma TreeOp.advance (hs : Shape x t) (op : TreeOp)
    (ht : (op.apply x t).rootTenantId = t.rootTenantId)
    (hw : (op.apply x t).rootWorkspaceId = t.rootWorkspaceId) : Advance t (op.apply x t) := by
  by_cases hbind : ∃ tenant workspace, op = .bindRootExecutionScope tenant workspace
  · obtain ⟨tenant, workspace, rfl⟩ := hbind
    rcases TreeOp.bindScope_cases with h | h
    · rw [h]
      exact .refl t
    · rw [bindRootExecutionScope_same hs h ht hw]
      exact .refl t
  · exact op.advance_of_ne hs fun tenant workspace h => hbind ⟨tenant, workspace, h⟩

end Harness
