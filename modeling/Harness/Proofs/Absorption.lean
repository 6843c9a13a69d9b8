import Harness.Proofs.Receipts

/-! A tree that is over stays over: its state is one of the four closed ones, no node
is leased again and no child is admitted, whatever is called on it. -/

namespace Harness

open Lib List RecursiveNode RecursiveTree

/-- A call on the tree. The switches are read anew at each call. -/
inductive TreeOp where
  | bindRootIdentity (agentId recursiveMarker creationReceiptSha256 : String)
  | bindRootExecutionScope (tenantId workspaceId : Option String)
  | admitChild (env : RecursiveEnv) (proposal : RecursiveProposal)
  | leaseNode (env : RecursiveEnv) (nodeId leaseId : String)
  | completeNode (nodeId leaseId : String) (success : Bool)
  | completeNodeWithUsage (nodeId leaseId : String) (success : Bool) (usage : RecursiveBudget)
  | completeNodeWithUsageReceipt (nodeId leaseId usageReceiptId : String) (success : Bool)
      (usage : RecursiveBudget)
  | completeRootWithUsage (leaseId : String) (success : Bool) (usage : RecursiveBudget)
  | completeRootWithUsageReceipt (leaseId usageReceiptId : String) (success : Bool)
      (usage : RecursiveBudget)
  | recordRootLateUsage (receiptId : String) (usage : RecursiveBudget)
  | recordLateUsage (nodeId attemptReceipt : String) (usage : RecursiveBudget)
  | releaseNodeReservation (nodeId : String)
  | terminalizeRemainingNodes (exceptNodeId : Option String) (reason : RecursiveFailureReason)
  | finalizeTerminalTree (failedNodeId : Option String)
  | retryNode (nodeId : String)
  | recoverStaleLease (nodeId leaseId : String) (retry : Bool)
  | pause
  | resume
  | recordRejection (proposalId : String) (reason : RecursiveFailureReason)
  | recordRejectionEvidence (proposalId : String) (evidence : RecursiveDecisionEvidence)

/-- The tree the call leaves, whether it succeeds or not. -/
def TreeOp.apply (x : Externals) (t : RecursiveTree) : TreeOp → RecursiveTree
  | bindRootIdentity agentId marker receipt =>
    (t.bindRootIdentity agentId marker receipt).toOption.getD t
  | bindRootExecutionScope tenantId workspaceId =>
    (t.bindRootExecutionScope tenantId workspaceId).toOption.getD t
  | admitChild env proposal => (t.admitChild x env proposal).2
  | leaseNode env nodeId leaseId => (t.leaseNode env nodeId leaseId).2
  | completeNode nodeId leaseId success => (t.completeNode nodeId leaseId success).2
  | completeNodeWithUsage nodeId leaseId success usage =>
    (t.completeNodeWithUsage nodeId leaseId success usage).2
  | completeNodeWithUsageReceipt nodeId leaseId receiptId success usage =>
    (t.completeNodeWithUsageReceipt nodeId leaseId receiptId success usage).2
  | completeRootWithUsage leaseId success usage => (t.completeRootWithUsage leaseId success usage).2
  | completeRootWithUsageReceipt leaseId receiptId success usage =>
    (t.completeRootWithUsageReceipt leaseId receiptId success usage).2
  | recordRootLateUsage receiptId usage => (t.recordRootLateUsage receiptId usage).2
  | recordLateUsage nodeId receiptId usage => (t.recordLateUsage nodeId receiptId usage).2
  | releaseNodeReservation nodeId => t.releaseNodeReservationForPersistence nodeId
  | terminalizeRemainingNodes exceptNodeId reason => t.terminalizeRemainingNodes exceptNodeId reason
  | finalizeTerminalTree failedNodeId => t.finalizeTerminalTree failedNodeId
  | retryNode nodeId => (t.retryNode nodeId).2
  | recoverStaleLease nodeId leaseId retry => (t.recoverStaleLease nodeId leaseId retry).2
  | pause => t.pause
  | resume => t.resume
  | recordRejection proposalId reason => t.recordRejection proposalId reason
  | recordRejectionEvidence proposalId evidence => t.recordRejectionEvidence proposalId evidence

/-- Call after call. -/
def TreeOp.run (x : Externals) (ops : List TreeOp) (t : RecursiveTree) : RecursiveTree :=
  ops.foldl (TreeOp.apply x) t

namespace RecursiveTree

variable {t s u : RecursiveTree}

/-- The same nodes, and none that was not leased before is leased now. -/
structure Calm (t t' : RecursiveTree) : Prop where
  ids : t'.nodes.rows.map RecursiveNode.nodeId = t.nodes.rows.map RecursiveNode.nodeId
  leased : ∀ n' ∈ t'.nodes.rows, n'.status = .leased →
    ∃ n ∈ t.nodes.rows, n.nodeId = n'.nodeId ∧ n.status = .leased

lemma Calm.refl (t : RecursiveTree) : Calm t t := ⟨rfl, fun n hn hs => ⟨n, hn, rfl, hs⟩⟩

lemma Calm.trans (h : Calm t s) (h' : Calm s u) : Calm t u := by
  refine ⟨h'.ids.trans h.ids, fun n hn hs => ?_⟩
  obtain ⟨m, hm, hid, hms⟩ := h'.leased n hn hs
  obtain ⟨r, hr, hid', hrs⟩ := h.leased m hm hms
  exact ⟨r, hr, hid'.trans hid, hrs⟩

variable {env : RecursiveEnv} {reason : RecursiveFailureReason} {f : RecursiveNode → RecursiveNode}
  {k : String}

/-- Rewriting nodes calmly. -/
lemma Calm.of_map (hs : s.nodes.rows = t.nodes.rows.map f)
    (hid : ∀ n ∈ t.nodes.rows, (f n).nodeId = n.nodeId)
    (hl : ∀ n ∈ t.nodes.rows, (f n).status = .leased → n.status = .leased) : Calm t s := by
  constructor
  · rw [hs, map_map]
    exact map_congr_left hid
  · intro m hm hms
    rw [hs] at hm
    obtain ⟨n, hn, rfl⟩ := mem_map.mp hm
    exact ⟨n, hn, (hid n hn).symm, hl n hn hms⟩

lemma Calm.of_modify (hs : s.nodes.rows = t.nodes.rows.map fun n => if n.nodeId = k then f n else n)
    (hid : ∀ n, (f n).nodeId = n.nodeId) (hl : ∀ n, (f n).status = .leased → n.status = .leased) :
    Calm t s := by
  refine .of_map hs (fun n _ => ?_) fun n _ => ?_
  · split_ifs
    · exact hid n
    · rfl
  · split_ifs
    · exact hl n
    · exact id

/-- Alike trees are calm. -/
lemma Calm.of_alike (h : Alike s t) : Calm t s := by
  constructor
  · have key : ∀ r : RecursiveTree, r.nodes.rows.map nodeId =
        (r.nodes.rows.map RecursiveNode.shell).map nodeId := by
      intro r
      rw [map_map]
      rfl
    rw [key, h.rows, ← key]
  · intro n hn hs
    obtain ⟨m, hm, hsh⟩ := h.exists_row hn
    have hid := congrArg nodeId hsh
    have hst := congrArg status hsh
    exact ⟨m, hm, hid, hst.trans hs⟩

lemma calm_failWhere {q : RecursiveNode → Bool} : Calm t (t.failWhere reason q) := by
  refine .of_map rfl (fun n _ => ?_) fun n _ => ?_
  · split_ifs <;> rfl
  · split_ifs
    · exact fun h => by cases h
    · exact id

/-- A state and receipts of its own, but the nodes of `t`. -/
lemma Calm.of_nodes (h : s.nodes = t.nodes) : Calm t s := by
  have := Calm.refl t
  exact ⟨by rw [h], fun n hn => this.leased n (h ▸ hn)⟩

lemma calm_terminalize (t : RecursiveTree) (exceptNodeId : Option String)
    (reason : RecursiveFailureReason) : Calm t (t.terminalizeRemainingNodes exceptNodeId reason) :=
  calm_failWhere.trans (.of_alike alike_terminalize)

lemma calm_exhaust (k : String) : Calm t (t.exhaust k) := by
  have h : Calm t { t with executionState := .budgetExhausted } := .of_nodes rfl
  exact h.trans (calm_terminalize _ _ _)

lemma calm_endAttempt (t : RecursiveTree) (k leaseId : String) (completed : Bool)
    (reason : Option RecursiveFailureReason) :
    Calm t (t.endAttempt k leaseId completed reason) := by
  refine .of_modify rfl (fun _ => rfl) fun n h => ?_
  cases completed <;> cases h

lemma state_terminalize (t : RecursiveTree) {exceptNodeId : Option String} :
    (t.terminalizeRemainingNodes exceptNodeId reason).executionState = t.executionState :=
  alike_terminalize.executionState

/-- The tree is over and stayed calm on the way. -/
structure Over (t t' : RecursiveTree) : Prop where
  closed : t'.executionState.closed = true
  calm : Calm t t'

lemma Over.trans (h : Over t s) (h' : Over s u) : Over t u := ⟨h'.closed, h.calm.trans h'.calm⟩

/-- Only the state and the nodes count. -/
lemma Over.congr (h : Over t s) (hs : u.executionState = s.executionState)
    (hn : u.nodes = s.nodes) : Over t u :=
  ⟨hs ▸ h.closed, h.calm.trans (.of_nodes hn)⟩

variable (h : t.executionState.closed = true)

include h

lemma over_refl : Over t t := ⟨h, .refl t⟩

/-- A tree alike to one that is over. -/
lemma over_alike (hs : Alike s t) : Over t s := ⟨hs.executionState ▸ h, .of_alike hs⟩

variable (x : Externals) (receiptId leaseId : String) (usage : RecursiveBudget)

lemma over_recordFreshUsage (consumes : Bool) :
    Over t (t.recordFreshUsage receiptId usage consumes) := by
  refine ⟨?_, .of_nodes rfl⟩
  unfold recordFreshUsage
  dsimp only
  split_ifs
  · rfl
  · exact h

lemma over_nodeEnded (node : RecursiveNode) (k leaseId : String) (success within : Bool) :
    Over t (t.nodeEnded node k leaseId success within) := by
  have hend := calm_endAttempt t k leaseId (success && within)
    (nodeFailureReason node success within)
  cases within with
  | true => exact ⟨h, hend.trans (.of_alike alike_bumpVersion)⟩
  | false =>
    refine ⟨?_, (hend.trans (calm_exhaust k)).trans (.of_alike alike_bumpVersion)⟩
    exact congrArg RecursiveExecutionState.closed (state_terminalize _)

lemma over_rootEnded (success within : Bool) : Over t (t.rootEnded leaseId success within) := by
  have hend := calm_endAttempt t t.rootNodeId leaseId (success && within)
    (rootFailureReason success within)
  cases within with
  | false =>
    have hover : Over t (((t.endAttempt t.rootNodeId leaseId (success && false)
        (rootFailureReason success false)).exhaust t.rootNodeId).bumpVersion) :=
      ⟨congrArg RecursiveExecutionState.closed (state_terminalize _),
        (hend.trans (calm_exhaust _)).trans (.of_alike alike_bumpVersion)⟩
    cases success <;> exact hover
  | true =>
    cases success with
    | false =>
      have hstate : Calm (t.endAttempt t.rootNodeId leaseId false (rootFailureReason false true))
        { t.endAttempt t.rootNodeId leaseId false (rootFailureReason false true) with
          executionState := .terminalFailed } := .of_nodes rfl
      exact ⟨congrArg RecursiveExecutionState.closed (state_terminalize _),
        ((hend.trans hstate).trans (calm_terminalize _ _ _)).trans (.of_alike alike_bumpVersion)⟩
    | true =>
      change Over t (finalizeTerminalTree _ none)
      rw [finalize_of_closed (by exact h)]
      exact ⟨h, hend.trans (.of_alike alike_bumpVersion)⟩

lemma over_recordOverrun (k receiptId : String) (usage : RecursiveBudget) :
    Over t (t.recordOverrun k receiptId usage) := by
  unfold recordOverrun
  dsimp only
  split_ifs
  · exact ⟨h, .of_nodes rfl⟩
  · refine ⟨congrArg RecursiveExecutionState.closed (state_terminalize _), ?_⟩
    have hn : Calm t { t with
      usageReceipts := t.usageReceipts.insert (receiptId, receiptText false usage) } := .of_nodes rfl
    exact hn.trans (calm_exhaust k)

lemma schedulingRefusal_of_closed (env : RecursiveEnv) :
    ∃ reason, t.schedulingRefusal env = some reason := by
  unfold schedulingRefusal
  split_ifs
  · exact ⟨_, rfl⟩
  · exact ⟨_, rfl⟩
  · cases hs : t.executionState <;> rw [hs] at h <;> first | exact ⟨_, rfl⟩ | cases h

lemma admitChild_of_closed {x : Externals} {proposal : RecursiveProposal} :
    (t.admitChild x env proposal).2 = t := by
  obtain ⟨reason, hr⟩ := schedulingRefusal_of_closed h env
  simp only [admitChild, proposalRefusal, hr]
  rfl

lemma leaseNode_of_closed {leaseId : String} : (t.leaseNode env k leaseId).2 = t := by
  obtain ⟨reason, hr⟩ := schedulingRefusal_of_closed h env
  simp [leaseNode, hr]

lemma over_completeNode (k leaseId receiptId : String) (success : Bool) (usage : RecursiveBudget) :
    Over t (t.completeNodeWithUsageReceipt k leaseId receiptId success usage).2 := by
  rcases t.completeNode_cases k leaseId receiptId success usage with
    ⟨reason, hr⟩ | ⟨node, -, -, ⟨-, hr⟩ | ⟨-, within, -, -, hr⟩⟩
  · rw [hr]
    exact over_refl h
  · rw [hr]
    have h1 := over_recordFreshUsage h receiptId usage true
    have h2 := h1.trans (over_alike h1.closed (alike_chargeNode k usage))
    exact h2.trans (over_nodeEnded h2.closed node k leaseId success _)
  · rw [hr]
    exact over_nodeEnded h node k leaseId success within

lemma over_completeRoot (receiptId : String) (success : Bool) (usage : RecursiveBudget) :
    Over t (t.completeRootWithUsageReceipt leaseId receiptId success usage).2 := by
  rcases t.completeRoot_cases leaseId receiptId success usage with
    ⟨reason, hr⟩ | ⟨-, -, hr⟩ | ⟨root, -, -, -, -, ⟨-, hr⟩ | ⟨within, -, hr⟩⟩
  · rw [hr]
    exact over_refl h
  · rw [hr]
    exact over_refl h
  · rw [hr]
    have h1 := over_recordFreshUsage h receiptId usage false
    have h2 := h1.trans (over_alike h1.closed (alike_chargeRoot usage))
    exact h2.trans (over_rootEnded h2.closed leaseId success _)
  · rw [hr]
    exact over_rootEnded h leaseId success within

lemma LateUsage.over {k : String} {consumes : Bool}
    {o : Except RecursiveFailureReason Bool × RecursiveTree}
    (hlate : LateUsage t consumes k receiptId usage o) : Over t o.2 := by
  cases hlate with
  | refused reason => exact over_refl h
  | known recorded => exact over_refl h
  | charged _ _ _ alike _ _ =>
    have h1 := over_recordFreshUsage h receiptId usage consumes
    have h2 := h1.trans (over_alike h1.closed alike)
    split_ifs
    · exact h2.congr rfl rfl
    · exact (h2.trans (over_recordOverrun h2.closed k receiptId usage)).congr rfl rfl

/-- One call on a tree that is over. -/
lemma over_apply (op : TreeOp) : Over t (op.apply x t) := by
  have hrefl := over_refl h
  cases op with
  | bindRootIdentity agentId marker receipt =>
    change Over t ((t.bindRootIdentity agentId marker receipt).toOption.getD t)
    unfold bindRootIdentity
    dsimp only
    split_ifs
    · exact hrefl
    · exact hrefl
    · exact hrefl.congr rfl rfl
  | bindRootExecutionScope tenantId workspaceId =>
    change Over t ((t.bindRootExecutionScope tenantId workspaceId).toOption.getD t)
    unfold bindRootExecutionScope
    split_ifs
    · exact hrefl
    · exact ⟨h, .of_modify rfl (fun _ => rfl) fun _ hl => hl⟩
    · exact hrefl
  | admitChild env proposal =>
    change Over t (t.admitChild x env proposal).2
    rw [admitChild_of_closed h]
    exact hrefl
  | leaseNode env k leaseId =>
    change Over t (t.leaseNode env k leaseId).2
    rw [leaseNode_of_closed h]
    exact hrefl
  | completeNode k leaseId success =>
    have h1 := over_completeNode h k leaseId leaseId success .zero
    change Over t (t.completeNode k leaseId success).2
    unfold completeNode completeNodeWithUsage
    generalize t.completeNodeWithUsageReceipt k leaseId leaseId success .zero = r at h1 ⊢
    obtain ⟨result, t'⟩ := r
    cases result with
    | error reason => exact h1
    | ok _ => exact h1.trans (over_alike h1.closed (alike_release t' k))
  | completeNodeWithUsage k leaseId success usage => exact over_completeNode h k leaseId _ success usage
  | completeNodeWithUsageReceipt k leaseId receiptId success usage =>
    exact over_completeNode h k leaseId receiptId success usage
  | completeRootWithUsage leaseId success usage => exact over_completeRoot h leaseId _ success usage
  | completeRootWithUsageReceipt leaseId receiptId success usage =>
    exact over_completeRoot h leaseId receiptId success usage
  | recordRootLateUsage receiptId usage => exact LateUsage.over h receiptId usage lateUsage_root
  | recordLateUsage k receiptId usage => exact LateUsage.over h receiptId usage lateUsage_node
  | releaseNodeReservation k => exact over_alike h (alike_release t k)
  | terminalizeRemainingNodes exceptNodeId reason =>
    exact ⟨(congrArg RecursiveExecutionState.closed (state_terminalize t)).trans h,
      calm_terminalize t exceptNodeId reason⟩
  | finalizeTerminalTree failed =>
    change Over t (t.finalizeTerminalTree failed)
    rw [finalize_of_closed h]
    exact hrefl
  | retryNode k =>
    change Over t (t.retryNode k).2
    unfold retryNode
    cases t.nodes.find? k with
    | none => exact hrefl
    | some node =>
      refine ⟨h, .of_modify rfl nodeId_retry fun n hl => ?_⟩
      unfold retry at hl
      split_ifs at hl
      cases hl
  | recoverStaleLease k leaseId retry =>
    change Over t (t.recoverStaleLease k leaseId retry).2
    unfold recoverStaleLease
    cases t.nodes.find? k with
    | none => exact hrefl
    | some node =>
      dsimp only
      split_ifs
      · exact hrefl
      · refine ⟨h, .of_modify rfl (nodeId_recover · retry) fun n hl => ?_⟩
        unfold recover at hl
        split_ifs at hl <;> cases hl
  | pause =>
    refine ⟨?_, .of_nodes rfl⟩
    change (if t.executionState = .running then RecursiveExecutionState.operatorPaused
      else t.executionState).closed = true
    split_ifs with hr
    · rw [hr] at h
      cases h
    · exact h
  | resume =>
    unfold TreeOp.apply resume
    split_ifs with hr
    · rw [hr] at h
      cases h
    · exact hrefl
  | recordRejection proposalId reason => exact hrefl.congr rfl rfl
  | recordRejectionEvidence proposalId evidence => exact hrefl.congr rfl rfl

omit h in
lemma over_run (ops : List TreeOp) (hs : s.executionState.closed = true) :
    Over s (TreeOp.run x ops s) := by
  induction ops generalizing s with
  | nil => exact over_refl hs
  | cons op ops ih =>
    have h1 := over_apply hs x op
    exact h1.trans (ih h1.closed)

omit h in
/-- Whatever is called on a tree that is over, it stays over: from any moment of the
run to any later one, no node is leased that was not and no child is admitted. -/
theorem closed_absorbs (x : Externals) (t : RecursiveTree) (h : t.executionState.closed = true)
    (earlier later : List TreeOp) :
    (TreeOp.run x (earlier ++ later) t).executionState.closed = true ∧
      Calm (TreeOp.run x earlier t) (TreeOp.run x (earlier ++ later) t) := by
  have h1 := over_run x earlier h
  have h2 := over_run x later h1.closed
  have happ : TreeOp.run x (earlier ++ later) t = TreeOp.run x later (TreeOp.run x earlier t) :=
    foldl_append
  rw [happ]
  exact ⟨h2.closed, h2.calm⟩

end RecursiveTree

theorem closed_absorbs_sample :
    ({ sampleLeased with executionState := .killStopped } : RecursiveTree).executionState.closed =
        true ∧
      (TreeOp.run sampleExternals ([.resume] ++ [.leaseNode sampleEnv "root" "lease-0"])
        { sampleLeased with executionState := .killStopped }).executionState.closed = true :=
  ⟨rfl, (closed_absorbs sampleExternals _ rfl [.resume]
    [.leaseNode sampleEnv "root" "lease-0"]).1⟩

end Harness
