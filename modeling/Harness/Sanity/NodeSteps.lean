import Harness.Sanity.WorkflowRows

/-! What the operations of a settlement do to the nodes they were not called for: some that
were live are ended, in a way that ends their workflow rows too, and the others keep their
standing. -/

namespace Harness

open Lib WorkflowStore RecursiveNode

variable {n m : RecursiveNode} {usage : RecursiveBudget}

namespace RecursiveNode

/-- The same as far as the node's row goes. -/
structure SameStanding (n m : RecursiveNode) : Prop where
  node : m.nodeId = n.nodeId
  parent : m.parentNodeId = n.parentNodeId
  status : m.status = n.status
  reason : m.failureReason = n.failureReason

lemma SameStanding.refl (n : RecursiveNode) : SameStanding n n := ⟨rfl, rfl, rfl, rfl⟩

variable {l : RecursiveNode} {k : String}

lemma SameStanding.trans (h : SameStanding n m) (h' : SameStanding m l) : SameStanding n l :=
  ⟨h'.node.trans h.node, h'.parent.trans h.parent, h'.status.trans h.status,
    h'.reason.trans h.reason⟩

lemma SameStanding.live (h : SameStanding n m) : m.live = n.live := by
  unfold RecursiveNode.live
  rw [h.status]

lemma SameStanding.endsRow (h : SameStanding n m) : endsRow m = endsRow n := by
  unfold WorkflowStore.endsRow
  rw [h.parent, h.status, h.reason]

/-- Left as it stood, or ended together with its row. -/
inductive Ending (n m : RecursiveNode) : Prop
  | same (h : SameStanding n m)
  | ended (hnode : m.nodeId = n.nodeId) (hparent : m.parentNodeId = n.parentNodeId)
      (hlive : n.live = true) (hends : endsRow m = true)

lemma failed_of_endsRow (h : WorkflowStore.endsRow n = true) : n.status = .failed := by
  unfold WorkflowStore.endsRow at h
  simp only [Bool.and_eq_true, decide_eq_true_eq] at h
  exact h.1.2

lemma live_of_endsRow (h : WorkflowStore.endsRow n = true) : n.live = false := by
  unfold live
  rw [failed_of_endsRow h]
  rfl

lemma Ending.node (h : Ending n m) : m.nodeId = n.nodeId := by
  cases h with
  | same h => exact h.node
  | ended hnode _ _ _ => exact hnode

lemma Ending.parent (h : Ending n m) : m.parentNodeId = n.parentNodeId := by
  cases h with
  | same h => exact h.parent
  | ended _ hparent _ _ => exact hparent

lemma Ending.refl (n : RecursiveNode) : Ending n n := .same (.refl n)

lemma Ending.trans (h : Ending n m) (h' : Ending m l) : Ending n l := by
  cases h' with
  | same h' =>
    cases h with
    | same h => exact .same (h.trans h')
    | ended hnode hparent hlive hends =>
      exact .ended (h'.node.trans hnode) (h'.parent.trans hparent) hlive (h'.endsRow.trans hends)
  | ended hnode' hparent' hlive' hends' =>
    cases h with
    | same h => exact .ended (hnode'.trans h.node) (hparent'.trans h.parent) (h.live ▸ hlive') hends'
    | ended _ _ _ hends =>
      rw [live_of_endsRow hends] at hlive'
      cases hlive'

/-- One node is the operation's own business. -/
structure Beside (k : String) (n m : RecursiveNode) : Prop where
  node : m.nodeId = n.nodeId
  parent : m.parentNodeId = n.parentNodeId
  others : n.nodeId ≠ k → Ending n m

lemma Beside.trans (h : Beside k n m) (h' : Beside k m l) : Beside k n l :=
  ⟨h'.node.trans h.node, h'.parent.trans h.parent,
    fun hk => (h.others hk).trans (h'.others (h.node.symm ▸ hk))⟩

lemma Ending.beside (h : Ending n m) : Beside k n m :=
  ⟨h.node, h.parent, fun _ => h⟩

end RecursiveNode

open RecursiveNode

namespace RecursiveTree

variable {t t' t'' : RecursiveTree} {k leaseId receiptId : String}

/-- Some nodes of `t` are ended in `t'`. -/
def Ends (t t' : RecursiveTree) : Prop := t.nodes.Rel Ending t'.nodes

/-- So are some around the node `k`. -/
def EndsBeside (k : String) (t t' : RecursiveTree) : Prop := t.nodes.Rel (Beside k) t'.nodes

lemma Ends.trans (h : Ends t t') (h' : Ends t' t'') : Ends t t'' :=
  Table.Rel.trans (R := Ending) (S := Ending) (fun _ _ _ h1 h2 => h1.trans h2) h h'

lemma EndsBeside.trans (h : EndsBeside k t t') (h' : EndsBeside k t' t'') : EndsBeside k t t'' :=
  Table.Rel.trans (R := Beside k) (S := Beside k) (fun _ _ _ h1 h2 => h1.trans h2) h h'

lemma EndsBeside.find?_none (h : EndsBeside k t t') {j : String} (hj : t.nodes.find? j = none) :
    t'.nodes.find? j = none := by
  cases hm : t'.nodes.find? j with
  | none => rfl
  | some m =>
    obtain ⟨n, hn, -⟩ := Table.Rel.find?_some h (fun _ _ h => h.node) hm
    rw [hj] at hn
    cases hn

lemma Ends.beside (h : Ends t t') : EndsBeside k t t' := h.mono fun _ _ h => h.beside

/-- Every node keeps its standing. -/
def Stands (t t' : RecursiveTree) : Prop := t.nodes.Rel SameStanding t'.nodes

lemma Stands.trans (h : Stands t t') (h' : Stands t' t'') : Stands t t'' :=
  Table.Rel.trans (R := SameStanding) (S := SameStanding) (fun _ _ _ h1 h2 => h1.trans h2) h h'

lemma Stands.of_nodes (h : t'.nodes = t.nodes) : Stands t t' := by
  unfold Stands
  rw [h]
  exact .refl .refl _

lemma Stands.ends (h : Stands t t') : Ends t t' := h.mono fun _ _ h => .same h

lemma Alike.stands (h : Alike t' t) : Stands t t' := by
  refine (Table.Rel.of_map_eq h.rows.symm).mono fun n m hnm => ⟨?_, ?_, ?_, ?_⟩
  · exact (congrArg nodeId hnm).symm
  · exact (congrArg parentNodeId hnm).symm
  · exact (congrArg status hnm).symm
  · exact (congrArg failureReason hnm).symm

lemma Alike.ends (h : Alike t' t) : Ends t t' := h.stands.ends

def endsRows (reason : RecursiveFailureReason) : Prop :=
  reason = .treeBudgetExhausted ∨ reason = .terminalFailed

variable {success within retry : Bool} {reason : RecursiveFailureReason}

lemma ends_failWhere (hreason : endsRows reason) {p : RecursiveNode → Bool}
    (hp : ∀ n, p n = true → n.live = true ∧ n.parentNodeId.isSome = true) :
    Ends t (t.failWhere reason p) := by
  refine Table.Rel.of_map rfl fun n _ => ?_
  split_ifs with hn
  · refine .ended rfl rfl (hp n hn).1 ?_
    unfold WorkflowStore.endsRow
    have hparent : (n.fail reason).parentNodeId = n.parentNodeId := rfl
    rw [hparent, (hp n hn).2]
    rcases hreason with rfl | rfl <;> rfl
  · exact .refl n

lemma ends_terminalize (t : RecursiveTree) (exceptNodeId : Option String)
    (hreason : endsRows reason) : Ends t (t.terminalizeRemainingNodes exceptNodeId reason) := by
  refine (ends_failWhere hreason fun n hn => ?_).trans alike_terminalize.ends
  simp only [Bool.and_eq_true] at hn
  exact ⟨hn.1, hn.2.1⟩

lemma ends_exhaust : Ends t (t.exhaust k) :=
  (ends_terminalize { t with executionState := .budgetExhausted } (some k) (.inl rfl))

lemma ends_finalize (t : RecursiveTree) (failed : Option String) :
    Ends t (t.finalizeTerminalTree failed) := by
  unfold finalizeTerminalTree
  split_ifs
  · exact (Stands.of_nodes rfl).ends
  · cases failed with
    | none => exact (Stands.of_nodes nodes_finalizeVerdict).ends
    | some k =>
      refine Ends.trans ?_ (Stands.of_nodes nodes_finalizeVerdict).ends
      refine (ends_failWhere (.inr rfl) fun n hn => ?_).trans (alike_closeNodes t _ _).ends
      obtain ⟨hlive, hdesc⟩ := Bool.and_eq_true_iff.mp hn
      refine ⟨hlive, ?_⟩
      cases hp : n.parentNodeId with
      | some p => rfl
      | none => simp [hp, descendsFrom] at hdesc

lemma ends_closeOut (t : RecursiveTree) (k : String) (failed : Option String) :
    Ends t (t.closeOut k failed) := (alike_release t k).ends.trans (ends_finalize _ failed)

/-- What is not live keeps its standing. -/
lemma Ends.find? (h : Ends t t') (hn : t.nodes.find? k = some n) (hlive : n.live = false) :
    ∃ m, t'.nodes.find? k = some m ∧ SameStanding n m := by
  obtain ⟨m, hm, hend⟩ := Table.Rel.find?_some' h (fun _ _ h => h.node) hn
  refine ⟨m, hm, ?_⟩
  cases hend with
  | same h => exact h
  | ended _ _ hl _ =>
    rw [hlive] at hl
    cases hl

lemma endsBeside_modify (f : RecursiveNode → RecursiveNode)
    (hf : ∀ n, (f n).nodeId = n.nodeId ∧ (f n).parentNodeId = n.parentNodeId)
    (ht : t'.nodes.rows = t.nodes.rows.map fun n => if n.nodeId = k then f n else n) :
    EndsBeside k t t' := by
  refine Table.Rel.of_modify ht (fun n => (Ending.refl n).beside) fun n hn => ?_
  exact ⟨(hf n).1, (hf n).2, fun hk => absurd (Table.key_of_find? hn) hk⟩

lemma node_retry (n : RecursiveNode) :
    n.retry.nodeId = n.nodeId ∧ n.retry.parentNodeId = n.parentNodeId := by
  unfold retry
  split_ifs <;> exact ⟨rfl, rfl⟩

lemma node_recover (n : RecursiveNode) (retry : Bool) :
    (n.recover retry).nodeId = n.nodeId ∧ (n.recover retry).parentNodeId = n.parentNodeId := by
  unfold recover
  split_ifs <;> exact ⟨rfl, rfl⟩

lemma endsBeside_endAttempt (t : RecursiveTree) (k leaseId : String) (completed : Bool)
    (reason : Option RecursiveFailureReason) :
    EndsBeside k t (t.endAttempt k leaseId completed reason) :=
  endsBeside_modify (fun n => n.finish completed reason) (fun _ => ⟨rfl, rfl⟩) rfl

lemma live_finish (n : RecursiveNode) {completed : Bool} (reason : Option RecursiveFailureReason) :
    (n.finish completed reason).live = false := by
  cases completed <;> rfl

lemma live_eq_not_terminal : n.live = !n.status.terminal := rfl

lemma endsBeside_nodeEnded {node : RecursiveNode} :
    EndsBeside k t (t.nodeEnded node k leaseId success within) := by
  unfold nodeEnded
  split_ifs
  · exact endsBeside_endAttempt t k leaseId _ _
  · exact (endsBeside_endAttempt t k leaseId _ _).trans ends_exhaust.beside

lemma find?_nodeEnded {node : RecursiveNode} (hn : t.nodes.find? k = some n) :
    ∃ m, (t.nodeEnded node k leaseId success within).nodes.find? k = some m ∧
      m.live = false ∧ m.retryCount = n.retryCount := by
  have hended := find?_endAttempt hn leaseId (success && within)
    (nodeFailureReason node success within)
  unfold nodeEnded
  split_ifs
  · exact ⟨_, hended, live_finish _ _, rfl⟩
  · obtain ⟨m, hm, c, v, rfl⟩ := find?_exhaust hended
    exact ⟨_, hm, live_finish n (nodeFailureReason node success within), rfl⟩

/-- The end of an attempt, on any tree. -/
lemma completeNode_ends
    (h : treeOf (t.completeNodeWithUsageReceipt k leaseId receiptId success usage) = .ok t') :
    EndsBeside k t t' ∧
      ∃ n m, t.nodes.find? k = some n ∧ t'.nodes.find? k = some m ∧ m.live = false ∧
        m.retryCount = n.retryCount := by
  obtain ⟨u, h⟩ := treeOf_eq_ok.mp h
  rcases t.completeNode_cases k leaseId receiptId success usage with
    ⟨reason, hr⟩ | ⟨node, hn, -, ⟨-, hr⟩ | ⟨previous, within, -, -, hr⟩⟩
  · rw [hr] at h
    cases h
  · rw [hr] at h
    cases h
    have hcharged : EndsBeside k t ((t.recordFreshUsage receiptId usage true).chargeNode k usage) :=
      endsBeside_modify (fun n => n.charge usage) (fun _ => ⟨rfl, rfl⟩) rfl
    have hfind := find?_charged receiptId usage hn
    refine ⟨hcharged.trans endsBeside_nodeEnded, node, ?_⟩
    obtain ⟨m, hm, hlive, hcount⟩ := find?_nodeEnded hfind
    exact ⟨m, hn, hm, hlive, hcount⟩
  · rw [hr] at h
    cases h
    obtain ⟨m, hm, hlive, hcount⟩ := find?_nodeEnded hn
    exact ⟨endsBeside_nodeEnded, node, m, hn, hm, hlive, hcount⟩

/-- A settlement: around the node some are ended, and the node itself waits again exactly if
its tree allows another attempt. -/
lemma syncCompletion_ends {env : RecursiveEnv}
    (h : t.syncRecursiveCompletionWithReceipt env k leaseId receiptId success retry usage =
      .ok t') :
    EndsBeside k t t' ∧
      ∃ m, t'.nodes.find? k = some m ∧
        ((retry = true ∧ t.retryAllowed env k usage = .ok true ∧ m.status = .ready) ∨
          (¬(retry = true ∧ t.retryAllowed env k usage = .ok true) ∧ m.live = false)) := by
  obtain ⟨allowed, t₁, hallowed, h1, h⟩ := completion_eq_ok h
  obtain ⟨hends, n, m, hn, hm, hlive, hcount⟩ := completeNode_ends h1
  cases allowed with
  | true =>
    obtain ⟨u, h⟩ := treeOf_eq_ok.mp h
    unfold retryNode at h
    rw [hm] at h
    cases h
    have hretry : retry = true ∧ t.retryAllowed env k usage = .ok true := by
      split_ifs at hallowed with hr
      · exact ⟨hr, hallowed⟩
      · cases hallowed
    refine ⟨hends.trans (endsBeside_modify _ node_retry rfl), m.retry, ?_,
      .inl ⟨hretry.1, hretry.2, ?_⟩⟩
    · change (t₁.nodes.modify k .retry nodeId_retry).find? k = _
      rw [Table.find?_modify, if_pos rfl, hm]
      rfl
    · obtain ⟨b, hb, hroom⟩ := retryAllowed_eq hn env usage
      rw [hretry.2] at hb
      rw [retry_of_lt (hcount ▸ (hroom (Except.ok.inj hb).symm).2.1)]
      rfl
  | false =>
    cases h
    have hclose := ends_closeOut t₁ k (t₁.failedNode k)
    obtain ⟨m', hm', hsame⟩ := hclose.find? hm hlive
    refine ⟨hends.trans hclose.beside, m', hm', .inr ⟨fun hr => ?_, hsame.live.trans hlive⟩⟩
    rw [if_pos hr.1, hr.2] at hallowed
    cases hallowed

lemma endsBeside_rootEnded (t : RecursiveTree) :
    EndsBeside t.rootNodeId t (t.rootEnded leaseId success within) := by
  have hend := fun completed reason => endsBeside_endAttempt t t.rootNodeId leaseId completed reason
  refine t.rootEnded_cases leaseId success within (P := EndsBeside t.rootNodeId t) ?_ ?_ ?_
  · exact fun _ c r => ((hend c r).trans ends_exhaust.beside).trans (Stands.of_nodes rfl).ends.beside
  · exact fun c r => ((hend c r).trans (ends_terminalize
      { t.endAttempt t.rootNodeId leaseId c r with executionState := .terminalFailed }
      (some t.rootNodeId) (.inr rfl)).beside).trans (Stands.of_nodes rfl).ends.beside
  · exact fun _ r => (hend true r).trans
      (ends_finalize (t.endAttempt t.rootNodeId leaseId true r).bumpVersion none).beside

lemma find?_rootEnded (hn : t.nodes.find? t.rootNodeId = some n) :
    ∃ m, (t.rootEnded leaseId success within).nodes.find? t.rootNodeId = some m ∧
      m.live = false := by
  have hend := fun completed reason => find?_endAttempt hn leaseId completed reason
  refine t.rootEnded_cases leaseId success within
    (P := fun s => ∃ m, s.nodes.find? t.rootNodeId = some m ∧ m.live = false) ?_ ?_ ?_
  · intro _ c r
    obtain ⟨m, hm, hsame⟩ := ends_exhaust.find? (hend c r) (live_finish _ _)
    exact ⟨m, hm, hsame.live.trans (live_finish _ _)⟩
  · intro c r
    obtain ⟨m, hm, hsame⟩ := (ends_terminalize
      { t.endAttempt t.rootNodeId leaseId c r with executionState := .terminalFailed }
      (some t.rootNodeId) (.inr rfl)).find? (hend c r) (live_finish _ _)
    exact ⟨m, hm, hsame.live.trans (live_finish _ _)⟩
  · intro _ r
    obtain ⟨m, hm, hsame⟩ := (ends_finalize (t.endAttempt t.rootNodeId leaseId true r).bumpVersion
      none).find? (hend true r) (live_finish _ _)
    exact ⟨m, hm, hsame.live.trans (live_finish _ _)⟩

/-- A settlement of the root: it is over afterwards. -/
lemma syncRootCompletion_ends
    (h : t.syncRecursiveRootCompletionWithReceipt leaseId receiptId success usage = .ok t') :
    EndsBeside t.rootNodeId t t' ∧ ∃ m, t'.nodes.find? t.rootNodeId = some m ∧ m.live = false := by
  obtain ⟨t₁, h1, h⟩ := bind_ok h
  obtain ⟨u, h1⟩ := treeOf_eq_ok.mp h1
  cases h
  have hended : EndsBeside t.rootNodeId t t₁ ∧
      ∃ m, t₁.nodes.find? t.rootNodeId = some m ∧ m.live = false := by
    rcases t.completeRoot_cases leaseId receiptId success usage with
      ⟨reason, hr⟩ | ⟨⟨root, hn, hterm⟩, -, hr⟩ | ⟨root, hn, -, -, -, ⟨-, hr⟩ | ⟨within, -, hr⟩⟩
    · rw [hr] at h1
      cases h1
    · rw [hr] at h1
      cases h1
      exact ⟨(Stands.of_nodes rfl).ends.beside, root, hn, by rw [live_eq_not_terminal, hterm]; rfl⟩
    · rw [hr] at h1
      cases h1
      have hcharged : EndsBeside t.rootNodeId t (t.rootCharged receiptId usage) :=
        endsBeside_modify (fun n => n.chargeRoot usage) (fun _ => ⟨rfl, rfl⟩) rfl
      exact ⟨hcharged.trans (endsBeside_rootEnded (t.rootCharged receiptId usage)),
        find?_rootEnded (t := t.rootCharged receiptId usage) (find?_rootCharged hn)⟩
    · rw [hr] at h1
      cases h1
      exact ⟨endsBeside_rootEnded t, find?_rootEnded hn⟩
  obtain ⟨hbeside, m, hm, hlive⟩ := hended
  obtain ⟨m', hm', hsame⟩ := (ends_finalize t₁ none).find? hm hlive
  exact ⟨hbeside.trans (ends_finalize t₁ none).beside, m', hm', hsame.live.trans hlive⟩

lemma endsBeside_terminalFailureAt : EndsBeside k t (t.terminalFailureAt k reason) := by
  have hfail : EndsBeside k t { t with
      nodes := t.nodes.modify k fun n =>
        { n with failureReason := some reason, status := .failed, version := n.version + 1 }
      executionState := .terminalFailed } :=
    endsBeside_modify (fun n =>
      { n with failureReason := some reason, status := .failed, version := n.version + 1 })
      (fun _ => ⟨rfl, rfl⟩) rfl
  exact (hfail.trans (ends_terminalize _ (some k) (.inr rfl)).beside).trans
    (Stands.of_nodes rfl).ends.beside

/-- A stale lease given up: the node waits again or is over, as the caller decided. -/
lemma syncStaleRecovery_ends (h : t.syncRecursiveStaleRecovery k leaseId retry = .ok t') :
    EndsBeside k t t' ∧ ∃ n m, t.nodes.find? k = some n ∧ t'.nodes.find? k = some m ∧
      (retry = true → n.retryCount < maxRecursiveRetries → m.status = .ready) ∧
      (retry = false → m.status = .failed) := by
  obtain ⟨node, hn, -, rfl⟩ := syncRecursiveStaleRecovery_eq_ok h
  have hrec : EndsBeside k t (t.recoveredTree k leaseId retry) :=
    endsBeside_modify (·.recover retry) (node_recover · retry) rfl
  have hfind := find?_recoveredTree hn leaseId retry
  cases retry with
  | true =>
    refine ⟨hrec, node, _, hn, hfind, fun _ hroom => ?_, nofun⟩
    unfold recover
    rw [if_pos (by simpa using hroom)]
    rfl
  | false =>
    have hclose := ends_closeOut (t.recoveredTree k leaseId false) k (some k)
    obtain ⟨m, hm, hsame⟩ := hclose.find? hfind (live_finish node (some .retryExhausted))
    refine ⟨hrec.trans hclose.beside, node, m, hn, hm, fun hr => ?_, fun _ => hsame.status⟩
    cases hr

lemma ends_recordOverrun : Ends t (t.recordOverrun k receiptId usage) := by
  unfold recordOverrun
  dsimp only
  split_ifs
  · exact (Stands.of_nodes rfl).ends
  · exact ends_exhaust (t := { t with
      usageReceipts := t.usageReceipts.insert (receiptId, receiptText false usage) })

/-- A late charge leaves every node as it stands, or ends it when the tree stops. -/
lemma LateUsage.ends {consumes : Bool} {o : Except RecursiveFailureReason Bool × RecursiveTree}
    (h : LateUsage t consumes k receiptId usage o) : Ends t o.2 := by
  cases h with
  | refused reason => exact (Stands.of_nodes rfl).ends
  | known recorded => exact (Stands.of_nodes rfl).ends
  | charged fresh found fits alike _ _ =>
    have hbooked : Ends t _ := ((Stands.of_nodes rfl).trans alike.stands).ends
    split_ifs
    · exact hbooked
    · exact hbooked.trans ends_recordOverrun

lemma ends_lateCharge (t : RecursiveTree) (root : Bool) (k receiptId : String)
    (usage : RecursiveBudget) : Ends t (lateCharge t root k receiptId usage) := by
  unfold lateCharge
  split_ifs
  · exact lateUsage_root.ends
  · exact lateUsage_node.ends

end RecursiveTree

end Harness
