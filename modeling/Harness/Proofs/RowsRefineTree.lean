import Harness.Proofs.Fencing
import Harness.Sanity.Blocking
import Harness.Sanity.LoadErrors

/-! Rows and trees. A stale lease is given up in the row as in the tree, and so is an attempt
that is settled, except that a settlement writes the tree's word for a node that waits again
into the row, where it means nothing. -/

namespace Harness

open Lib NodeRow RecursiveTree RecursiveNode WorkflowStore Table Option Except WorkflowGraph

variable {p : RecursiveTree}
variable {x : Externals} {mint : Mint}
  {s s' : WorkflowStore} {runId k : String} {t t' : RecursiveTree}

variable {row r : NodeRow} {q : Recovery} {outcome status : RecursiveNodeStatus}
variable {identity : RecursiveCompletionIdentity}

/-- Around the node the rows go on agreeing, and in the other runs too. -/
lemma agrees_ended {f : NodeRow → NodeRow} {hf : ∀ r, (f r).key = r.key} (hagree : s.Agrees)
    (hended : AttemptEnded x k runId outcome p (s.modifyNode runId k f hf) s' t) :
    s'.AgreesBeside k runId t ∧
      ∀ runId' u, runId' ≠ runId → s'.trees.find? runId' = some u → s'.AgreesWith runId' u := by
  refine ⟨hended.moved.agrees ?_, fun runId' u hne hu => ?_⟩
  · refine AgreesBeside.congr (hagree runId p hended.stored).beside fun j hj => ?_
    rw [find?_modifyNode, if_neg fun h => hj h.2]
  · rw [hended.moved.synced.trees, hended.moved.run, if_neg hne] at hu
    refine (hagree runId' u hu).congr fun j _ => ?_
    rw [hended.moved.frame runId' j hne, find?_modifyNode, if_neg fun h => hne h.1]

lemma trees_ended (hended : AttemptEnded x k runId outcome p s s' t) :
    s'.trees.find? runId = some t := by
  rw [hended.moved.synced.trees, if_pos hended.moved.run.symm]

lemma loadRecursiveTree_ne_none {tables : WorkflowTables} {trees : TreeTable}
    (hp : trees.find? runId = some p) : loadRecursiveTree x mint tables trees runId ≠ .ok none := by
  intro h
  unfold loadRecursiveTree at h
  rw [hp] at h
  iterate 3 obtain ⟨-, -, h⟩ := bind_ok h
  cases h

lemma loadTree_fails (hp : s.trees.find? runId = some p) :
    FailsAs NotMissing (s.loadTree x mint runId) := by
  unfold loadTree
  cases hl : loadRecursiveTree x mint s.tables s.trees runId with
  | error e => exact .error (loadRecursiveTree_fails e hl)
  | ok loaded =>
    cases loaded with
    | none => exact absurd hl (loadRecursiveTree_ne_none hp)
    | some t => exact .ok t

/-- A node of the index has its tree, so its recovery always asks the tree. -/
lemma recoveryRetry_ne_none {malformed : Bool} {rootId : String}
    (hindex : s.indexedRecursiveRoot row.runId row.nodeId = some rootId) :
    s.recoveryRetry x mint q row malformed ≠ .ok none := by
  obtain ⟨p, hp, hcontains, -⟩ := indexedRecursiveRoot_eq_some hindex
  have hfails : FailsAs NotMissing
      (s.recursiveRetryAllowed x mint q.env row.runId row.nodeId .zero) := by
    intro e he
    unfold recursiveRetryAllowed at he
    cases hload : s.loadTree x mint row.runId with
    | error e' =>
      rw [hload] at he
      exact error.inj he ▸ loadTree_fails hp e' hload
    | ok t =>
      obtain ⟨-, -, p', hp', rfl⟩ := loadTree_eq_ok hload
      cases hp.symm.trans hp'
      rw [← nodes_normalize] at hcontains
      obtain ⟨n, hn⟩ := isSome_iff_exists.mp hcontains
      obtain ⟨b, hb, -⟩ := retryAllowed_eq hn q.env .zero
      rw [hload] at he
      simp [requireTreeNode, hcontains, hb, refuse, reasonText, Except.mapError, bind, Except.bind] at he
  intro h
  unfold recoveryRetry at h
  split at h
  · cases h
  · split at h
    · cases h
    · rename_i reason hreason
      obtain ⟨h1, h2⟩ := hfails reason hreason
      rw [if_neg (not_or.mpr ⟨h1, h2⟩)] at h
      cases h

lemma find?_recoveringStore {retry : Option Bool}
    (hrow : s.find? row.runId row.nodeId = some row) :
    ∃ r, (recoveringStore s q row identity retry).find? row.runId row.nodeId = some r ∧
      r.status = recoveredStatus retry := by
  unfold recoveringStore
  rw [find?_modifyNode, if_pos ⟨rfl, rfl⟩, hrow]
  exact ⟨_, rfl, rfl⟩

lemma agrees_recoverNode {stale : NodeRow} (hagree : s.Agrees)
    (h : recoverNode x mint q s stale = .ok s') : s'.Agrees := by
  rcases recoverNode_cases h with ⟨rfl, -⟩ | ⟨row, identity, retry, hrow, hid, hretry, -, -, h⟩
  · exact hagree
  · obtain ⟨hrun, hnode⟩ := find?_run hrow
    rw [← hrun, ← hnode] at hrow
    rcases recoverTree_cases hid hretry h with ⟨rfl, hnone | ⟨hsome, rfl⟩⟩ | ⟨outcome, p, t, hended, hout⟩
    · -- a row outside the index
      intro runId u hu
      refine (hagree runId u hu).congr fun j hj => ?_
      unfold recoveringStore
      rw [find?_modifyNode, if_neg]
      rintro ⟨rfl, rfl⟩
      have hno := find?_of_index_none (resolved_unindexed hid hnone) hu
      rw [contains, hno] at hj
      cases hj
    · obtain ⟨rootId, hindex, -⟩ := resolved_index hid hsome
      rw [if_pos hsome] at hretry
      exact absurd hretry (recoveryRetry_ne_none hindex)
    · obtain ⟨hbeside, hothers⟩ := agrees_ended hagree hended
      intro runId u hu
      by_cases hne : runId = row.runId
      · subst hne
        cases ((trees_ended hended).symm.trans hu)
        obtain ⟨m, hm, hstatus, -⟩ := hended.attempt.own
        refine .of_beside hbeside hm ?_
        obtain ⟨r, hr, hrstatus⟩ := find?_recoveringStore hrow
        have hmr : r.status = m.status.rowStatus := by rw [hrstatus, hstatus, hout]
        have hnode := key_of_find? hm
        -- the row was written before the tree moved; it waits with the node or is over
        by_cases hready : outcome = .ready
        · exact ⟨r, by rw [hnode, hended.waiting hready]; exact hr, hmr⟩
        · obtain ⟨r', hr', hfailing⟩ := Table.Rel.find?_some' hended.moved.rows
            (fun _ _ h => h.closing.sameAttempt.key) hr
          refine ⟨r', by rw [hnode]; exact hr', ?_⟩
          cases hfailing with
          | same => exact hmr
          | failed _ hlive _ =>
            rw [NodeRow.live, hrstatus, ← hout] at hlive
            cases outcome with
            | ready => exact absurd rfl hready
            | leased => exact absurd rfl (hended.attempt.own.choose_spec.2.2)
            | completed => cases hlive
            | failed => cases hlive
      · exact hothers runId u hne hu

lemma agrees_recoverStaleLeases (hagree : s.Agrees)
    (h : s.recoverStaleLeases x mint q = .ok s') : s'.Agrees :=
  foldlM_induction (fun _ _ _ hu hstep => agrees_recoverNode hu hstep) hagree h

lemma graph_finishRun :
    (s.finishRun runId).2.toWorkflowGraph = s.propagateFailedDependencies runId := by
  unfold finishRun
  dsimp only
  split <;> rfl

/-- Finishing a run touches no row that a failure does not reach. -/
lemma find?_finishRun {runId' j : String} (hr : s.find? runId' j = some r)
    (hsafe : runId' = runId → ¬ s.Doomed runId r) :
    (s.finishRun runId).2.find? runId' j = some r := by
  rw [graph_finishRun]
  obtain ⟨r', hr', hb⟩ := Table.Rel.find?_some' (blocked_propagate _ runId).rows
    (fun _ _ h => h.key) hr
  cases hb with
  | same => exact hr'
  | blocked hdoomed =>
    refine absurd hdoomed (hsafe ?_)
    have hrun := (List.mem_filter.mp hdoomed.mem).2
    rw [← (find?_run hr).1]
    simpa using hrun

variable (s runId) in
/-- A failure reaches the row of a node of the tree. The end of the run blocks the row, and the
node goes on waiting. -/
def ReachesNode : Prop :=
  ∃ t n r, s.trees.find? runId = some t ∧ n ∈ t.nodes.rows ∧
    s.find? runId n.nodeId = some r ∧ s.Doomed runId r

lemma agrees_finishRun_iff (hagree : s.Agrees) :
    (s.finishRun runId).2.Agrees ↔ ¬ ReachesNode s runId := by
  constructor
  · rintro hafter ⟨t, n, r, ht, hn, hr, hdoomed⟩
    rw [← swept_finishRun.2] at ht
    obtain ⟨r', hr', hstatus⟩ := hafter runId t ht n hn
    have hblocked := mem_rowsOf.mp (propagate_of_doomed hdoomed)
    rw [graph_finishRun, ← (find?_run hr).2] at hr'
    rw [← some.inj (hblocked.symm.trans hr')] at hstatus
    cases hs : n.status <;> rw [hs] at hstatus <;> cases hstatus
  · intro hno runId' t ht n hn
    rw [swept_finishRun.2] at ht
    obtain ⟨r, hr, hstatus⟩ := hagree runId' t ht n hn
    refine ⟨r, find?_finishRun hr ?_, hstatus⟩
    rintro rfl hdoomed
    exact hno ⟨t, n, r, ht, hn, hr, hdoomed⟩

/-- The store in which a settlement has written everything but the end of the run. -/
def settledStore (s₂ : WorkflowStore) (q : Settlement) (writable : Bool) (json : NodeJson)
    (status : NodeStatus) : WorkflowStore :=
  s₂.modifyNode q.runId q.nodeId (settledRow q writable json status)

namespace WorkflowStore.Settlement

variable (x mint s) in
/-- The result is that of the attempt under way at a child, and the tree takes the child back
for another one. -/
def Retries (q : Settlement) : Prop :=
  ∃ row identity usage, s.find? q.runId q.nodeId = some row ∧ row.status = .running ∧
    row.attemptCount = q.attempt ∧
    resolveRecursiveCompletionIdentity q.nodeId row.nodeJson
      (s.indexedRecursiveRoot q.runId q.nodeId) q.env.recursiveEnabled = .ok identity ∧
    identity.recursiveNodeId.isSome = true ∧ identity.root = false ∧
    recursiveUsage identity row.nodeJson q.output = .ok (usage, none) ∧
    requestedRetry q identity none = true ∧
    s.recursiveRetryAllowed x mint q.env q.runId q.nodeId usage.1 = .ok true

variable (x mint s) in
/-- The result is that of the attempt under way, and `s₁` has what the settlement writes before
it looks for the end of the run. -/
def Writes (q : Settlement) (s₁ : WorkflowStore) : Prop :=
  ∃ row identity usage reason shouldRetry status s₂, s.find? q.runId q.nodeId = some row ∧
    row.status = .running ∧ row.attemptCount = q.attempt ∧
    resolveRecursiveCompletionIdentity q.nodeId row.nodeJson
      (s.indexedRecursiveRoot q.runId q.nodeId) q.env.recursiveEnabled = .ok identity ∧
    recursiveUsage identity row.nodeJson q.output = .ok (usage, reason) ∧
    (if requestedRetry q identity reason && identity.recursiveNodeId.isSome then
        s.recursiveRetryAllowed x mint q.env q.runId q.nodeId usage.1
      else .ok (requestedRetry q identity reason)) = .ok shouldRetry ∧
    SettledAs x mint s q identity usage reason shouldRetry status s₂ ∧
    s₁ = settledStore s₂ q identity.metadataWritable row.nodeJson status

variable (x mint s) in
/-- A failure that the settlement leaves reaches a node of the tree. -/
def Reaches (q : Settlement) : Prop :=
  ∃ s₁, q.Writes x mint s s₁ ∧ ReachesNode s₁ q.runId

variable (x mint s) in
/-- The result comes late, its usage stops the tree, and the tree is not saved though rows of
its nodes were ended. -/
def Strays (q : Settlement) : Prop :=
  ∃ row identity usage, s.find? q.runId q.nodeId = some row ∧
    (row.status ≠ .running ∨ row.attemptCount ≠ q.attempt) ∧
    resolveRecursiveCompletionIdentity q.nodeId row.nodeJson
      (s.indexedRecursiveRoot q.runId q.nodeId) q.env.recursiveEnabled = .ok identity ∧
    identity.recursiveNodeId.isSome = true ∧
    recursiveUsage identity row.nodeJson q.output = .ok (usage, none) ∧
    let late := s.recordRecursiveLateUsage x mint q.now q.runId q.nodeId
      (usage.2.getD (workflowReceipt q.runId q.nodeId q.attempt)) identity.root usage.1
    late.1.isOk = false ∧ late.2.nodes ≠ s.nodes

end WorkflowStore.Settlement

lemma ofText_asStr_eq_rowStatus (hready : status ≠ .ready) (hleased : status ≠ .leased) :
    NodeStatus.ofText status.asStr = status.rowStatus := by
  cases status with
  | ready => exact absurd rfl hready
  | leased => exact absurd rfl hleased
  | completed => decide
  | failed => decide

section

variable {q : Settlement} {row : NodeRow} {outcome : RecursiveNodeStatus} {p : RecursiveTree}
  {actual status : NodeStatus} {writable : Bool} {json : NodeJson} {s₂ : WorkflowStore}

variable {j : String}

lemma find?_settledStore :
    (settledStore s₂ q writable json status).find? runId j =
      if runId = q.runId ∧ j = q.nodeId then
        (s₂.find? runId j).map (settledRow q writable json status)
      else s₂.find? runId j :=
  find?_modifyNode _

variable (status writable json) in
/-- The row of the settled node has the status the tree gave it. -/
lemma find?_settled (hrow : s.find? q.runId q.nodeId = some row)
    (hended : AttemptEnded x q.nodeId q.runId outcome p (settlingStore s q actual) s₂ t) :
    ∃ r, (settledStore s₂ q writable json status).find? q.runId q.nodeId = some r ∧
      r.status = status := by
  have hfirst : (settlingStore s q actual).find? q.runId q.nodeId =
      some { row with status := actual, leasedAt := none } := by
    unfold settlingStore
    rw [find?_modifyNode, if_pos ⟨rfl, rfl⟩, hrow]
    rfl
  obtain ⟨r, hr, -⟩ := Table.Rel.find?_some' hended.moved.rows
    (fun _ _ h => h.closing.sameAttempt.key) hfirst
  refine ⟨settledRow q writable json status r, ?_, rfl⟩
  rw [find?_settledStore, if_pos ⟨rfl, rfl⟩]
  change (s₂.nodes.find? (toLex (q.runId, q.nodeId))).map _ = _
  rw [hr]
  rfl

variable (writable json) in
lemma agrees_settled (hagree : s.Agrees) (hrow : s.find? q.runId q.nodeId = some row)
    (hended : AttemptEnded x q.nodeId q.runId outcome p (settlingStore s q actual) s₂ t)
    (hready : outcome ≠ .ready) :
    (settledStore s₂ q writable json (NodeStatus.ofText outcome.asStr)).Agrees := by
  obtain ⟨hbeside, hothers⟩ := agrees_ended hagree hended
  intro runId u hu
  by_cases hne : runId = q.runId
  · subst hne
    cases ((trees_ended hended).symm.trans hu)
    obtain ⟨m, hm, hstatus, hleased⟩ := hended.attempt.own
    refine .of_beside (k := q.nodeId) (hbeside.congr fun j hj => ?_) hm ?_
    · rw [find?_settledStore, if_neg fun h => hj h.2]
    · obtain ⟨r, hr, hrstatus⟩ := find?_settled (NodeStatus.ofText outcome.asStr) writable
        json hrow hended
      refine ⟨r, by rw [key_of_find? hm]; exact hr, ?_⟩
      rw [hrstatus, hstatus, ofText_asStr_eq_rowStatus hready hleased]
  · refine (hothers runId u hne hu).congr fun j _ => ?_
    rw [find?_settledStore, if_neg fun h => hne h.1]

variable (writable json) in
/-- A node that its tree takes back has the tree's word `ready` in its row. -/
lemma retried_row (hrow : s.find? q.runId q.nodeId = some row)
    (hended : AttemptEnded x q.nodeId q.runId outcome p (settlingStore s q actual) s₂ t)
    (hready : outcome = .ready) :
    let s' := ((settledStore s₂ q writable json (NodeStatus.ofText outcome.asStr)).finishRun
      q.runId).2
    ∃ t n r, s'.trees.find? q.runId = some t ∧ t.nodes.find? q.nodeId = some n ∧
      n.status = .ready ∧ s'.find? q.runId q.nodeId = some r ∧ r.status = .ready := by
  intro s'
  obtain ⟨m, hm, hstatus, -⟩ := hended.attempt.own
  obtain ⟨r, hr, hrstatus⟩ := find?_settled (NodeStatus.ofText outcome.asStr) writable json hrow hended
  rw [hready] at hrstatus hstatus
  refine ⟨t, m, r, ?_, hm, hstatus, find?_finishRun hr fun _ hdoomed => ?_, hrstatus⟩
  · rw [swept_finishRun.2]
    change s₂.trees.find? q.runId = some t
    exact trees_ended hended
  · rw [hdoomed.pending] at hrstatus
    cases hrstatus

/-- A node outside the index: no tree has a word on its row. -/
lemma agrees_plain (hagree : s.Agrees) (hindex : s.indexedRecursiveRoot q.runId q.nodeId = none) :
    (settledStore (settlingStore s q status) q writable json status).Agrees := by
  intro runId u hu
  refine (hagree runId u hu).congr fun j hj => ?_
  have hne : ¬(runId = q.runId ∧ j = q.nodeId) := by
    rintro ⟨rfl, rfl⟩
    rw [contains, find?_of_index_none hindex hu] at hj
    cases hj
  rw [find?_settledStore, if_neg hne]
  unfold settlingStore
  rw [find?_modifyNode, if_neg hne]

/-- Rows that were ended without their tree no longer agree with it. -/
lemma nodes_of_agrees {now : String} {ended : Except String Unit} (hagree : s.Agrees)
    (ht : s.trees.find? runId = some t) (hends : Ends t t')
    (h : endRows now runId (t'.nodes.rows.filter endsRow) s = (ended, s')) (hagree' : s'.Agrees) :
    s'.nodes = s.nodes := by
  obtain ⟨-, -, htrees, -⟩ := endRows_swept h
  refine Table.ext_find? fun key => ?_
  rcases (endRows_failing h).find? (fun _ _ h => h.closing.sameAttempt.key) key with
    ⟨hnone, hnone'⟩ | ⟨r, r', hr, hr', hfailing⟩
  · rw [hnone, hnone']
  · cases hfailing with
    | same => rw [hr, hr']
    | failed _ hlive hfailed =>
      exfalso
      obtain rfl := key_of_find? hr
      have hr : s.find? r.runId r.nodeId = some r := hr
      have hr' : s'.find? r.runId r.nodeId = some r' := hr'
      have hstatus : r.status = r'.status := by
        by_cases hin : ∃ m ∈ t'.nodes.rows.filter endsRow, r.runId = runId ∧ r.nodeId = m.nodeId
        · -- in the stored tree the node has the status it had
          obtain ⟨m, hm, hrun, hid⟩ := hin
          obtain ⟨n, hn, -⟩ := Table.Rel.find?_some hends (fun _ _ h => h.node)
            (find?_key _ (List.mem_filter.mp hm).1)
          have hnode := key_of_find? hn
          obtain ⟨a, ha, hstatus⟩ := hagree runId t ht n (mem_of_find? hn)
          obtain ⟨b, hb, hstatus'⟩ := hagree' runId t (htrees ▸ ht) n (mem_of_find? hn)
          rw [hrun, hid, ← hnode] at hr hr'
          rw [some.inj (hr.symm.trans ha), some.inj (hr'.symm.trans hb), hstatus, hstatus']
        · have hkept := endRows_find?_of_notMem h fun m hm hkey => hin ⟨m, hm, hkey⟩
          rw [some.inj (hr'.symm.trans (hkept.trans hr))]
      rw [NodeRow.live, hstatus, hfailed] at hlive
      cases hlive

/-- The rows agree after a late charge unless rows were ended for a tree that was not saved. -/
lemma agrees_late_iff {now receiptId : String} {root : Bool} {usage : RecursiveBudget}
    {result : Except String Bool} (hagree : s.Agrees)
    (h : s.recordRecursiveLateUsage x mint now runId k receiptId root usage = (result, s')) :
    s'.Agrees ↔ ¬ (result.isOk = false ∧ s'.nodes ≠ s.nodes) := by
  rcases lateUsage_cases h with rfl | ⟨t, ended, s₁, hload, -, hended, hs'⟩
  · exact iff_of_true hagree fun hno => hno.2 rfl
  · obtain ⟨hrun, -, p, hp, rfl⟩ := loadTree_eq_ok hload
    have hcharged := ends_lateCharge (normalizeLoadedTree p) root k receiptId usage
    have hends : Ends p _ := (Stands.of_nodes nodes_normalize).ends.trans hcharged
    have hchargedRun := (advance_lateCharge (normalizeLoadedTree p) root k receiptId usage).run
    rw [hchargedRun, hrun] at hended
    obtain ⟨-, -, htrees, -⟩ := endRows_swept hended
    rcases hs' with ⟨hfailed, rfl⟩ | ⟨hok, rfl, -, rfl⟩
    · refine ⟨fun hagree' hno => hno.2 (nodes_of_agrees hagree hp hends hended hagree'),
        fun hno runId' u hu => ?_⟩
      have hnodes : s'.nodes = s.nodes := not_not.mp fun hne => hno ⟨hfailed, hne⟩
      rw [htrees] at hu
      refine (hagree runId' u hu).congr fun j _ => ?_
      unfold WorkflowGraph.find?
      rw [hnodes]
    · refine iff_of_true (fun runId' u hu => ?_) fun hno => ?_
      · rw [find?_insert, htrees, hchargedRun, hrun] at hu
        split_ifs at hu with hne
        · cases hu
          subst hne
          have hkept := agreesWith_endRows (hagree _ p hp) hends hended
          exact hkept.congr fun _ _ => rfl
        · have hkept : s₁.AgreesWith runId' u := (hagree runId' u hu).congr fun j _ =>
            endRows_find?_of_notMem hended fun _ _ h => hne h.1
          exact hkept.congr fun _ _ => rfl
      · rw [hok] at hno
        cases hno.1

lemma retries_iff {usage : RecursiveBudget × Option String}
    {reason : Option RecursiveFailureReason} {shouldRetry : Bool}
    (hrow : s.find? q.runId q.nodeId = some row)
    (hid : resolveRecursiveCompletionIdentity q.nodeId row.nodeJson
        (s.indexedRecursiveRoot q.runId q.nodeId) q.env.recursiveEnabled = .ok identity)
    (husage : recursiveUsage identity row.nodeJson q.output = .ok (usage, reason))
    (hretry : (if requestedRetry q identity reason && identity.recursiveNodeId.isSome then
          s.recursiveRetryAllowed x mint q.env q.runId q.nodeId usage.1
        else .ok (requestedRetry q identity reason)) = .ok shouldRetry)
    (hrun : row.status = .running) (hattempt : row.attemptCount = q.attempt)
    (hsome : identity.recursiveNodeId.isSome = true) (hp : s.trees.find? q.runId = some p) :
    q.Retries x mint s ↔
      identity.root = false ∧ reason = none ∧ shouldRetry = true ∧
        (normalizeLoadedTree p).retryAllowed q.env q.nodeId usage.1 = .ok true := by
  rw [hsome, Bool.and_true] at hretry
  constructor
  · rintro ⟨row', identity', usage', hrow', -, -, hid', -, hroot, husage', hrequested, hallowed⟩
    cases hrow.symm.trans hrow'
    cases (hid.symm.trans hid')
    obtain ⟨rfl, rfl⟩ := Prod.mk.inj (ok.inj (husage.symm.trans husage'))
    rw [if_pos hrequested, hallowed] at hretry
    exact ⟨hroot, rfl, (ok.inj hretry).symm, recursiveRetryAllowed_eq_ok hallowed p hp⟩
  · rintro ⟨hroot, rfl, rfl, -⟩
    split_ifs at hretry with hrequested
    · exact ⟨row, identity, usage, hrow, hrun, hattempt, hid, hsome, hroot, husage, hrequested, hretry⟩
    · exact absurd (ok.inj hretry) hrequested

/-- What a settlement writes is settled by the rows and trees before it. -/
lemma Settlement.Writes.unique {s₁ s₁' : WorkflowStore} (h : q.Writes x mint s s₁)
    (h' : q.Writes x mint s s₁') : s₁ = s₁' := by
  obtain ⟨row, identity, usage, reason, retry, status, s₂, hrow, -, -, hid, husage, hretry,
    hsettled, rfl⟩ := h
  obtain ⟨row', identity', usage', reason', retry', status', s₂', hrow', -, -, hid', husage',
    hretry', hsettled', rfl⟩ := h'
  cases hrow.symm.trans hrow'
  cases hid.symm.trans hid'
  cases husage.symm.trans husage'
  cases hretry.symm.trans hretry'
  rcases hsettled with ⟨hnone, rfl, rfl⟩ | ⟨hsome, text, htext, rfl⟩
  · rcases hsettled' with ⟨-, rfl, rfl⟩ | ⟨hsome, -⟩
    · rfl
    · rw [hnone] at hsome
      cases hsome
  · rcases hsettled' with ⟨hnone, -⟩ | ⟨-, text', htext', rfl⟩
    · rw [hnone] at hsome
      cases hsome
    · cases htext.symm.trans htext'
      rfl

lemma agrees_stale_iff
    {usage : RecursiveBudget × Option String} {reason : Option RecursiveFailureReason}
    (hagree : s.Agrees) (hrow : s.find? q.runId q.nodeId = some row)
    (hstale : row.status ≠ .running ∨ row.attemptCount ≠ q.attempt)
    (hid : resolveRecursiveCompletionIdentity q.nodeId row.nodeJson
      (s.indexedRecursiveRoot q.runId q.nodeId) q.env.recursiveEnabled = .ok identity)
    (husage : recursiveUsage identity row.nodeJson q.output = .ok (usage, reason)) :
    (s.settleStale x mint q identity usage reason).Agrees ↔ ¬ q.Strays x mint s := by
  have hstrays : q.Strays x mint s ↔ (identity.recursiveNodeId.isSome = true ∧ reason = none) ∧
      let late := s.recordRecursiveLateUsage x mint q.now q.runId q.nodeId
        (usage.2.getD (workflowReceipt q.runId q.nodeId q.attempt)) identity.root usage.1
      late.1.isOk = false ∧ late.2.nodes ≠ s.nodes := by
    constructor
    · rintro ⟨row', identity', usage', hrow', -, hid', hsome, husage', hlate⟩
      cases hrow.symm.trans hrow'
      cases hid.symm.trans hid'
      cases husage.symm.trans husage'
      exact ⟨⟨hsome, rfl⟩, hlate⟩
    · rintro ⟨⟨hsome, rfl⟩, hlate⟩
      exact ⟨row, identity, usage, hrow, hstale, hid, hsome, husage, hlate⟩
  rw [hstrays]
  unfold settleStale
  split_ifs with hnone
  · refine iff_of_true hagree fun h => ?_
    obtain ⟨⟨hsome, rfl⟩, -⟩ := h
    rw [Bool.or_eq_true, isNone_iff_eq_none] at hnone
    rcases hnone with hnone | hnone
    · rw [hnone] at hsome
      cases hsome
    · cases hnone
  · dsimp only
    generalize hlate : s.recordRecursiveLateUsage x mint q.now q.runId q.nodeId
      (usage.2.getD (workflowReceipt q.runId q.nodeId q.attempt)) identity.root usage.1 = late
    obtain ⟨result, s₁⟩ := late
    have hon : identity.recursiveNodeId.isSome = true ∧ reason = none := by
      simpa [isSome_iff_ne_none] using hnone
    rw [agrees_late_iff hagree hlate, and_iff_right hon]

/-- The rows agree after a settlement unless the tree takes the node back, a failure reaches
another of its nodes or late usage stops it in the rows alone. -/
lemma settlePhase_agrees (hagree : s.Agrees) (h : s.settlePhase x mint q = .ok s') :
    (s'.Agrees ↔ ¬ q.Retries x mint s ∧ ¬ q.Reaches x mint s ∧ ¬ q.Strays x mint s) ∧
    (q.Retries x mint s → ∃ t n r, s'.trees.find? q.runId = some t ∧
      t.nodes.find? q.nodeId = some n ∧ n.status = .ready ∧
      s'.find? q.runId q.nodeId = some r ∧ r.status = .ready) := by
  obtain ⟨row, identity, usage, reason, hrow, hid, husage, shouldRetry, hretry, hdecided⟩ :=
    settlePhase_cases h
  rcases settleDecided_cases hdecided with ⟨hstale, rfl⟩ | ⟨hrun, hattempt, status, s₂, hsettled, rfl⟩
  · -- the attempt is over: the tree takes nothing back, and no run is brought to its end
    have hlate : ∀ row', s.find? q.runId q.nodeId = some row' → row'.status = .running →
        row'.attemptCount ≠ q.attempt := by
      intro row' hrow' hrun hattempt
      cases hrow.symm.trans hrow'
      exact hstale.elim (· hrun) (· hattempt)
    have hretries : ¬ q.Retries x mint s := by
      rintro ⟨row', -, -, hrow', hrun, hattempt, -⟩
      exact hlate row' hrow' hrun hattempt
    have hreaches : ¬ q.Reaches x mint s := by
      rintro ⟨-, ⟨row', -, -, -, -, -, -, hrow', hrun, hattempt, -⟩, -⟩
      exact hlate row' hrow' hrun hattempt
    refine ⟨?_, fun h => absurd h hretries⟩
    rw [and_iff_right hretries, and_iff_right hreaches]
    exact agrees_stale_iff hagree hrow hstale hid husage
  · have hwrites : q.Writes x mint s _ := ⟨row, identity, usage, reason, shouldRetry, status, s₂,
      hrow, hrun, hattempt, hid, husage, hretry, hsettled, rfl⟩
    have hreaches : q.Reaches x mint s ↔ ReachesNode
        (settledStore s₂ q identity.metadataWritable row.nodeJson status) q.runId :=
      ⟨fun ⟨_, hw, hr⟩ => Settlement.Writes.unique hw hwrites ▸ hr, fun hr => ⟨_, hwrites, hr⟩⟩
    have hstrays : ¬ q.Strays x mint s := by
      rintro ⟨row', -, -, hrow', hstale, -⟩
      cases hrow.symm.trans hrow'
      exact hstale.elim (· hrun) (· hattempt)
    rw [and_iff_left hstrays, hreaches]
    rcases hsettled.cases hid with ⟨hindex, -, rfl⟩ | ⟨outcome, p, t, hended, rfl, hsome, hready⟩
    · have hretries : ¬ q.Retries x mint s := by
        rintro ⟨row', identity', -, hrow', -, -, hid', hsome, -⟩
        obtain ⟨rootId, hsomeIndex, -⟩ := resolved_index hid' hsome
        rw [hindex] at hsomeIndex
        cases hsomeIndex
      rw [and_iff_right hretries]
      exact ⟨agrees_finishRun_iff (agrees_plain hagree hindex), fun h => absurd h hretries⟩
    · rw [← retries_iff hrow hid husage hretry hrun hattempt hsome hended.stored] at hready
      refine ⟨?_, fun hretries => retried_row _ _ hrow hended (hready.mpr hretries)⟩
      by_cases hretries : q.Retries x mint s
      · refine iff_of_false (fun hafter => ?_) fun h => h.1 hretries
        obtain ⟨t, n, r, ht, hn, hready, hr, hstatus⟩ :=
          retried_row identity.metadataWritable row.nodeJson hrow hended (hready.mpr hretries)
        obtain ⟨r', hr', hstatus'⟩ := hafter q.runId t ht n (mem_of_find? hn)
        rw [key_of_find? hn] at hr'
        cases hr.symm.trans hr'
        rw [hstatus, hready] at hstatus'
        cases hstatus'
      · rw [and_iff_right hretries]
        exact agrees_finishRun_iff (agrees_settled identity.metadataWritable row.nodeJson
          hagree hrow hended (mt hready.mp hretries))

end

/-- A node that its tree has ready is taken by the next lease that finds its predecessors
done. -/
def ReadyLeasable (s : WorkflowStore) : Prop :=
  ∀ runId t, s.trees.find? runId = some t → ∀ n ∈ t.nodes.rows, n.status = .ready →
    ∃ r, s.find? runId n.nodeId = some r ∧
      ((∀ p ∈ s.predecessors runId n.nodeId, p.status = .completed) → s.isReady runId r = true)

lemma WorkflowStore.Agrees.readyLeasable (h : s.Agrees) : ReadyLeasable s := by
  intro runId t ht n hn hready
  obtain ⟨r, hr, hstatus⟩ := h runId t ht n hn
  refine ⟨r, hr, fun hdone => ?_⟩
  rw [hready] at hstatus
  unfold isReady
  rw [hstatus, (find?_run hr).2, Bool.and_eq_true, List.all_eq_true]
  refine ⟨rfl, fun p hp => ?_⟩
  rw [hdone p hp]
  rfl

lemma agrees_of_rows (h : ∀ t ∈ s.trees.rows, ∀ n ∈ t.nodes.rows,
      (s.find? t.rootRunId n.nodeId).any (·.status = n.status.rowStatus) = true) :
    s.Agrees := by
  intro runId t ht n hn
  obtain rfl := key_of_find? ht
  have hany := h t (mem_of_find? ht) n hn
  cases hr : s.find? t.rootRunId n.nodeId with
  | none => simp [hr] at hany
  | some r => exact ⟨r, hr, by simpa [hr] using hany⟩

def workedTree : RecursiveTree :=
  { sampleLeased with
    nodes := (empty.insert sampleParent).insert
      { sampleWorker with leaseId := some (workflowReceipt "run-1" sampleChildId 1) }
    activeLeases := {workflowReceipt "run-1" sampleChildId 1} }

def rootRow : NodeRow where
  runId := "run-1"
  nodeId := "root"
  taskType := "agent_step"
  status := .pending
  attemptCount := 1
  leasedAt := none
  nodeJson := .object
    { plainMetadata with
      recursiveRootNodeId := .text "root"
      taskType := some "agent_step"
      agentId := some "planner"
      agentObjective := some "Plan the release"
      creationReceiptSha256 := some "plan-receipt"
      authority := some (some sampleAuthority) }

def workedRow : NodeRow where
  runId := "run-1"
  nodeId := sampleChildId
  taskType := "agent_step"
  status := .running
  attemptCount := 1
  leasedAt := some "10:00"
  nodeJson := .object { plainMetadata with recursiveNodeId := .text sampleChildId }

def workedStore : WorkflowStore where
  nodes := .ofList [rootRow, workedRow]
  edges := []
  runs := .ofList [⟨"run-1", "wf-1", .running, none, some sampleBoundaries⟩]
  trees := .ofList [workedTree]

def workedSettlement (status : String) : Settlement where
  runId := "run-1"
  nodeId := sampleChildId
  attempt := 1
  maxRetries := 0
  output := ⟨status, "", true, .ok (⟨1, 1, 1, 1⟩, none), none⟩
  env := sampleEnv
  now := "10:05"

def settled (status : String) : Except String WorkflowStore :=
  workedStore.settlePhase sampleExternals (fun _ _ _ _ _ => sampleReceipt) (workedSettlement status)

lemma agrees_workedStore : workedStore.Agrees :=
  agrees_of_rows (of_decide_eq_true rfl)

/-- A row outside the tree that the root waits for. -/
def reviewRow : NodeRow :=
  { rootRow with
    nodeId := "review"
    nodeJson := .object plainMetadata }

def reviewedStore : WorkflowStore :=
  { workedStore with
    nodes := workedStore.nodes.insert reviewRow
    edges := [⟨"run-1", "review", "root"⟩] }

end Harness
