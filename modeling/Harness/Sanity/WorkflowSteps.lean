import Harness.Sanity.RowTrees

/-! One lemma for each transaction of the tick engine that says what it can have done, and
what follows for the rows: only a lease starts an attempt, and the rows of children that the
tree has ended stay over. -/

namespace Harness

open Option Except

open Lib RecursiveTree NodeRow WorkflowStore Table

/-- The same attempt. If it runs, it ran before, under the same markers. -/
structure NodeRow.Carried (r r' : NodeRow) : Prop extends SameAttempt r r' where
  running : r'.status = .running → r.status = .running
  child : r'.status = .running → r'.nodeJson.recursiveNodeId = r.nodeJson.recursiveNodeId
  root : r'.status = .running → r'.nodeJson.recursiveRootNodeId = r.nodeJson.recursiveRootNodeId

variable {r : NodeRow} {t : RecursiveTree} {json : NodeJson}
  {identity : RecursiveCompletionIdentity} {q : Settlement}
  {usage : RecursiveBudget × Option String} {reason : Option RecursiveFailureReason}

lemma NodeRow.Carried.refl (r : NodeRow) : Carried r r :=
  ⟨.refl r, id, fun _ => rfl, fun _ => rfl⟩

variable {r' r'' : NodeRow} {key : String ×ₗ String}

lemma NodeRow.Carried.trans (h : Carried r r') (h' : Carried r' r'') : Carried r r'' where
  toSameAttempt := h.toSameAttempt.trans h'.toSameAttempt
  running hr := h.running (h'.running hr)
  child hr := (h'.child hr).trans (h.child (h'.running hr))
  root hr := (h'.root hr).trans (h.root (h'.running hr))

lemma NodeRow.SameAttempt.carried (h : SameAttempt r r') (hr : r'.status ≠ .running) :
    Carried r r' :=
  ⟨h, fun h => absurd h hr, fun h => absurd h hr, fun h => absurd h hr⟩

lemma NodeRow.Closing.carried (h : Closing r r') : Carried r r' := by
  cases h with
  | same => exact .refl r
  | closed h _ hd =>
    refine h.carried fun hr => ?_
    rw [hr] at hd
    cases hd

/-- The row of one node is another's business; the others were at most closed. -/
def NodeRow.Beside (key : String ×ₗ String) (r r' : NodeRow) : Prop :=
  if r.key = key then SameAttempt r r' else Closing r r'

lemma NodeRow.Beside.sameAttempt (h : Beside key r r') : SameAttempt r r' := by
  unfold Beside at h
  split_ifs at h
  · exact h
  · exact h.sameAttempt

lemma NodeRow.Beside.refl (key : String ×ₗ String) (r : NodeRow) : Beside key r r := by
  unfold Beside
  split_ifs
  · exact .refl r
  · exact .same

lemma NodeRow.Closing.beside (h : Closing r r') : Beside key r r' := by
  unfold Beside
  split_ifs
  · exact h.sameAttempt
  · exact h

lemma NodeRow.Beside.trans (h : Beside key r r') (h' : Beside key r' r'') : Beside key r r'' := by
  have hkey := h.sameAttempt.key
  unfold Beside at h h' ⊢
  rw [hkey] at h'
  split_ifs at h h' ⊢
  · exact h.trans h'
  · exact h.trans h'

section

variable {x : Externals} {mint : Mint}
  {s s' s'' : WorkflowStore} {runId nodeId : String}

/-- The rows around one that a transaction writes. -/
def RowsBeside (runId nodeId : String) (s s' : WorkflowStore) : Prop :=
  s.nodes.Rel (Beside (toLex (runId, nodeId))) s'.nodes

lemma RowsBeside.trans (h : RowsBeside runId nodeId s s') (h' : RowsBeside runId nodeId s' s'') :
    RowsBeside runId nodeId s s'' :=
  Table.Rel.trans (fun _ _ _ h1 h2 => h1.trans h2) h h'

lemma Swept.rowsBeside (h : Swept s s') : RowsBeside runId nodeId s s' :=
  h.rows.mono fun _ _ h => h.beside

variable {root enabled shouldRetry writable : Bool} {result : LeaseResult} {skip : List String}
  {row stale : NodeRow} {f : NodeRow → NodeRow} {status : NodeStatus} {retry : Option Bool}
  {env : RecursiveEnv} {n : RecursiveNode} {rootId receiptId workflowId : String}
  {g : WorkflowGraph} {s₂ : WorkflowStore}

lemma rowsBeside_modifyNode {hf : ∀ r, (f r).key = r.key} (h : ∀ r, SameAttempt r (f r)) :
    RowsBeside runId nodeId s (s.modifyNode runId nodeId f hf) := by
  refine Table.Rel.of_modify rfl (.refl _) fun r hr => ?_
  unfold Beside
  rw [if_pos (key_of_find? hr)]
  exact h r

/-- Rows are carried over once the one that was written is. -/
lemma RowsBeside.carried (h : RowsBeside runId nodeId s s')
    (hown : ∀ r r',
      s.find? runId nodeId = some r → s'.find? runId nodeId = some r' → Carried r r') :
    s.nodes.Rel Carried s'.nodes := by
  refine Table.Rel.mono_find? h (fun _ _ h => h.sameAttempt.key) fun r r' hr hr' hb => ?_
  unfold Beside at hb
  split_ifs at hb with hk
  · rw [hk] at hr hr'
    exact hown r r' hr hr'
  · exact hb.carried

lemma rows_carried_trans (h : s.nodes.Rel Carried s'.nodes) (h' : s'.nodes.Rel Carried s''.nodes) :
    s.nodes.Rel Carried s''.nodes :=
  Table.Rel.trans (R := Carried) (S := Carried) (fun _ _ _ h1 h2 => h1.trans h2) h h'

def RowsEnded (s : WorkflowStore) (runId : String) (t : RecursiveTree) : Prop :=
  ∀ n ∈ t.nodes.rows, endsRow n = true → RowOver s runId n.nodeId

/-- No child that a stored tree has ended is waiting or under way. -/
def InSync (s : WorkflowStore) : Prop :=
  ∀ runId t, s.trees.find? runId = some t → RowsEnded s runId t

lemma RowsEnded.swept (h : RowsEnded s runId t) (hs : Swept s s') :
    RowsEnded s' runId t := fun n hn he => (h n hn he).swept hs

/-- Writing a row of another node, or a row that is over. -/
lemma RowsEnded.modifyNode {runId' : String} {hf : ∀ r, (f r).key = r.key}
    (h : RowsEnded s runId' t)
    (hlive : runId' = runId →
      ∀ n, t.nodes.find? nodeId = some n → endsRow n = true →
        ∀ r, s.find? runId nodeId = some r → (f r).live = false) :
    RowsEnded (s.modifyNode runId nodeId f hf) runId' t := by
  intro n hn he r' hr'
  rw [find?_modifyNode] at hr'
  split_ifs at hr' with hk
  · obtain ⟨r, hr, rfl⟩ := map_eq_some_iff.mp hr'
    obtain ⟨rfl, rfl⟩ := hk
    exact hlive rfl n (t.nodes.find?_key hn) he r hr
  · exact h n hn he r' hr'

lemma InSync.swept (h : InSync s) (hs : Swept s s') (ht : s'.trees = s.trees) : InSync s' := by
  intro runId t hfind
  rw [ht] at hfind
  exact (h runId t hfind).swept hs

/-- The tree that was replaced speaks for its own run, the others are as before. -/
lemma InSync.synced (hs : Synced x s s' t)
    (h : ∀ runId u, runId ≠ t.rootRunId → s.trees.find? runId = some u → RowsEnded s runId u) :
    InSync s' := by
  intro runId u hu
  rw [hs.trees] at hu
  split_ifs at hu with hrun
  · cases hu
    subst hrun
    exact hs.rowsOver
  · exact (h runId u hrun hu).swept hs.swept

lemma indexedRecursiveRoot_eq_some {root : String}
    (h : s.indexedRecursiveRoot runId nodeId = some root) :
    ∃ t, s.trees.find? runId = some t ∧ t.nodes.contains nodeId = true ∧ t.rootNodeId = root := by
  obtain ⟨t, ht, h⟩ := bind_eq_some_iff.mp h
  split_ifs at h with hc
  exact ⟨t, ht, hc, some.inj h⟩

lemma find?_of_index_none (h : s.indexedRecursiveRoot runId nodeId = none)
    (ht : s.trees.find? runId = some t) : t.nodes.find? nodeId = none := by
  unfold indexedRecursiveRoot at h
  rw [ht, bind_some] at h
  split_ifs at h with hc
  simpa [contains] using hc

lemma resolveIdentity_eq_ok {indexedRoot : Option String}
    (h : resolveRecursiveCompletionIdentity nodeId json indexedRoot enabled = .ok identity) :
    (identity.recursiveNodeId = if indexedRoot.isSome then some nodeId else none) ∧
      (identity.root = true ↔ indexedRoot = some nodeId) ∧
      (identity.terminalReason = none ∨
        identity.terminalReason = some .recursiveNodeIdentityMalformed) := by
  unfold resolveRecursiveCompletionIdentity at h
  dsimp only at h
  split_ifs at h with hbad hmal hind
  all_goals
    cases h
    simp_all

/-- Whether a result asks for another attempt. -/
def requestedRetry (q : Settlement) (identity : RecursiveCompletionIdentity)
    (reason : Option RecursiveFailureReason) : Bool :=
  reason.isNone && q.output.status = "failed" && q.output.retryableDomain &&
    (q.attempt : ℤ) ≤ if identity.recursiveNodeId.isSome then 1 else q.maxRetries

variable (q reason shouldRetry) in
/-- The status a result alone calls for. -/
def actualStatus : NodeStatus :=
  if reason.isSome then .failed else if shouldRetry then .pending
    else NodeStatus.ofText q.output.status

lemma key_settling (actual : NodeStatus) (r : NodeRow) :
    { r with status := actual, leasedAt := none }.key = r.key := rfl

def settlingStore (s : WorkflowStore) (q : Settlement) (actual : NodeStatus) : WorkflowStore :=
  s.modifyNode q.runId q.nodeId (fun r => { r with status := actual, leasedAt := none })
    (key_settling actual)

lemma index_settlingStore {actual : NodeStatus} :
    (settlingStore s q actual).indexedRecursiveRoot = s.indexedRecursiveRoot := rfl

variable (x mint s) in
/-- The tree's part of a settlement, if the node is in one. -/
def SettledAs
    (q : Settlement) (identity : RecursiveCompletionIdentity)
      (usage : RecursiveBudget × Option String)
    (reason : Option RecursiveFailureReason) (shouldRetry : Bool) (status : NodeStatus)
    (s₂ : WorkflowStore) : Prop :=
  (identity.recursiveNodeId = none ∧ status = actualStatus q reason shouldRetry ∧
    s₂ = settlingStore s q (actualStatus q reason shouldRetry)) ∨
  (identity.recursiveNodeId.isSome = true ∧ ∃ text,
    (settlingStore s q (actualStatus q reason shouldRetry)).settleRecursive x mint q identity
      usage reason shouldRetry = .ok (text, s₂) ∧ status = NodeStatus.ofText text)

lemma key_settled (q : Settlement) (row : NodeRow) (identity : RecursiveCompletionIdentity)
    (status : NodeStatus) (r : NodeRow) :
    (settledRow q identity.metadataWritable row.nodeJson status r).key = r.key := rfl

variable (x mint s) in
def settleDecided
    (q : Settlement) (row : NodeRow) (identity : RecursiveCompletionIdentity)
    (usage : RecursiveBudget × Option String) (reason : Option RecursiveFailureReason)
    (shouldRetry : Bool) : Except String WorkflowStore :=
  if row.status ≠ .running ∨ row.attemptCount ≠ q.attempt then
    .ok (s.settleStale x mint q identity usage reason)
  else do
    let (status, s₂) ←
      if identity.recursiveNodeId.isSome then do
        let (text, s₂) ← (settlingStore s q (actualStatus q reason shouldRetry)).settleRecursive x
          mint q identity usage reason shouldRetry
        let _ ← loadRecursiveTree x mint s₂.tables s₂.trees q.runId
        pure (NodeStatus.ofText text, s₂)
      else pure (actualStatus q reason shouldRetry,
        settlingStore s q (actualStatus q reason shouldRetry))
    pure ((s₂.modifyNode q.runId q.nodeId
      (settledRow q identity.metadataWritable row.nodeJson status)
      (key_settled q row identity status)).finishRun q.runId).2

lemma settleDecided_cases
    (h : settleDecided x mint s q row identity usage reason shouldRetry = .ok s') :
    ((row.status ≠ .running ∨ row.attemptCount ≠ q.attempt) ∧
      s' = s.settleStale x mint q identity usage reason) ∨
    (row.status = .running ∧ row.attemptCount = q.attempt ∧ ∃ status s₂,
      SettledAs x mint s q identity usage reason shouldRetry status s₂ ∧
      s' = ((s₂.modifyNode q.runId q.nodeId (settledRow q identity.metadataWritable row.nodeJson
        status)).finishRun q.runId).2) := by
  unfold settleDecided at h
  split_ifs at h with hstale hrec
  · exact .inl ⟨hstale, (ok.inj h).symm⟩
  · obtain ⟨hrun, hatt⟩ := not_or.mp hstale
    obtain ⟨⟨text, s₂⟩, htext, h⟩ := bind_ok h
    obtain ⟨u, -, h⟩ := bind_ok h
    exact .inr ⟨not_not.mp hrun, not_not.mp hatt, _, _, .inr ⟨hrec, text, htext, rfl⟩,
      (ok.inj h).symm⟩
  · obtain ⟨hrun, hatt⟩ := not_or.mp hstale
    refine .inr ⟨not_not.mp hrun, not_not.mp hatt, _, _, .inl ⟨?_, rfl, rfl⟩,
      (ok.inj h).symm⟩
    simpa using hrec

lemma settlePhase_cases (h : s.settlePhase x mint q = .ok s') :
    ∃ row identity usage reason, s.find? q.runId q.nodeId = some row ∧
      resolveRecursiveCompletionIdentity q.nodeId row.nodeJson
          (s.indexedRecursiveRoot q.runId q.nodeId) q.env.recursiveEnabled = .ok identity ∧
      recursiveUsage identity row.nodeJson q.output = .ok (usage, reason) ∧
      ∃ shouldRetry, (if requestedRetry q identity reason && identity.recursiveNodeId.isSome then
              s.recursiveRetryAllowed x mint q.env q.runId q.nodeId usage.1
            else .ok (requestedRetry q identity reason)) = .ok shouldRetry ∧
        settleDecided x mint s q row identity usage reason shouldRetry = .ok s' := by
  unfold settlePhase at h
  cases hrow : s.find? q.runId q.nodeId with
  | none => simp [hrow] at h
  | some row =>
    rw [hrow] at h
    obtain ⟨identity, hid, h⟩ := bind_ok h
    obtain ⟨⟨usage, reason⟩, husage, h⟩ := bind_ok h
    refine ⟨row, identity, usage, reason, rfl, hid, husage, ?_⟩
    have h : (if requestedRetry q identity reason && identity.recursiveNodeId.isSome then
        s.recursiveRetryAllowed x mint q.env q.runId q.nodeId usage.1 >>=
          settleDecided x mint s q row identity usage reason
      else settleDecided x mint s q row identity usage reason
        (requestedRetry q identity reason)) = .ok s' := h
    by_cases hr : (requestedRetry q identity reason && identity.recursiveNodeId.isSome) = true
    · rw [if_pos hr] at h ⊢
      obtain ⟨shouldRetry, hretry, h⟩ := bind_ok h
      exact ⟨shouldRetry, hretry, h⟩
    · rw [if_neg hr] at h ⊢
      exact ⟨_, rfl, h⟩

lemma rootNodeId_load {root : String} (hload : s.loadTree x mint runId = .ok t)
    (hroot : s.indexedRecursiveRoot runId nodeId = some root) : t.rootNodeId = root := by
  obtain ⟨-, -, p, hp, rfl⟩ := loadTree_eq_ok hload
  obtain ⟨u, hu, -, hroot⟩ := indexedRecursiveRoot_eq_some hroot
  cases hp.symm.trans hu
  rw [rootNodeId_normalize, hroot]

/-- The attempt ends in the tree, and the text a settlement writes into the row is the status
of the node in the stored tree. -/
lemma settleRecursive_eq_ok {text : String}
    (hindex : s.indexedRecursiveRoot q.runId q.nodeId = some rootId)
    (hroot : identity.root = true ↔ rootId = q.nodeId)
    (h : s.settleRecursive x mint q identity usage reason shouldRetry = .ok (text, s')) :
    ∃ status p t, AttemptEnded x q.nodeId q.runId status p s s' t ∧ text = status.asStr ∧
      (status = .ready ↔
        identity.root = false ∧ reason = none ∧ shouldRetry = true ∧
          (normalizeLoadedTree p).retryAllowed q.env q.nodeId usage.1 = .ok true) := by
  have hstored : ∀ p, s.trees.find? q.runId = some p → p.rootNodeId = rootId := by
    intro p hp
    obtain ⟨u, hu, -, hroot⟩ := indexedRecursiveRoot_eq_some hindex
    cases hp.symm.trans hu
    exact hroot
  unfold settleRecursive at h
  cases hr : identity.root with
  | true =>
    have hk : ∀ p, s.trees.find? q.runId = some p → q.nodeId = p.rootNodeId :=
      fun p hp => (hroot.mp hr).symm.trans (hstored p hp).symm
    rw [hr] at h
    cases reason with
    | some reason =>
      obtain ⟨p, t, hended, htext⟩ := ended_syncRootTerminalFailure hk h
      exact ⟨.failed, p, t, hended, htext, by simp⟩
    | none =>
      obtain ⟨status, p, t, hended, htext, hready⟩ := ended_syncRootCompletion hk h
      exact ⟨status, p, t, hended, htext, by simp [hready]⟩
  | false =>
    have hk : ∀ p, s.trees.find? q.runId = some p → q.nodeId ≠ p.rootNodeId := by
      intro p hp he
      rw [hroot.mpr ((hstored p hp).symm.trans he.symm)] at hr
      cases hr
    rw [hr] at h
    cases reason with
    | some reason =>
      obtain ⟨p, t, hended, htext⟩ := ended_syncTerminalFailure h
      exact ⟨.failed, p, t, hended, htext, by simp⟩
    | none =>
      obtain ⟨status, p, t, hended, htext, hready⟩ := ended_syncCompletion hk h
      exact ⟨status, p, t, hended, htext, by simpa using hready⟩

lemma ofText_asStr_ne_running {status : RecursiveNodeStatus} :
    NodeStatus.ofText status.asStr ≠ .running := by
  cases status <;> decide

lemma ofText_asStr_of_endsRow (h : endsRow n = true) :
    NodeStatus.ofText n.status.asStr = .failed := by
  unfold endsRow at h
  simp only [Bool.and_eq_true, decide_eq_true_eq] at h
  rw [h.1.2]
  decide

lemma lateUsage_synced {now : String} {usage : RecursiveBudget} {result : Except String Bool}
    (h : s.recordRecursiveLateUsage x mint now runId nodeId receiptId root usage = (result, s')) :
    Swept s s' ∧ s'.runs = s.runs ∧ (s'.trees = s.trees ∨ ∃ t, Synced x s s' t) := by
  rcases lateUsage_cases h with rfl | ⟨t, ended, s₁, -, -, hended, ⟨-, rfl⟩ | ⟨-, rfl, hacc, rfl⟩⟩
  · exact ⟨.refl _, rfl, .inl rfl⟩
  · obtain ⟨hsw, hruns, htrees, -⟩ := endRows_swept hended
    exact ⟨hsw, hruns, .inl htrees⟩
  · obtain ⟨hsw, hruns, htrees, hover⟩ := endRows_swept hended
    have hsw' : Swept s { s₁ with trees := s₁.trees.insert (lateCharge t root nodeId receiptId usage) } :=
      ⟨hsw.rows, hsw.edges⟩
    refine ⟨hsw', hruns, .inr ⟨_, hsw', hruns, fun r => ?_, hacc, fun n hn hends => ?_⟩⟩
    · rw [find?_insert, htrees]
    · exact hover rfl n (List.mem_filter.mpr ⟨hn, hends⟩)

lemma endsRow_lateCharge (hn : t.nodes.find? nodeId = some n)
    (hroot : root = true → t.rootNodeId = nodeId) {usage : RecursiveBudget} :
    ∃ m, (lateCharge t root nodeId receiptId usage).nodes.find? nodeId = some m ∧
      endsRow m = endsRow n := by
  unfold lateCharge
  split_ifs with hr
  · obtain rfl := hroot hr
    exact endsRow_late lateUsage_root hn
  · exact endsRow_late lateUsage_node hn

/-- A late charge may end other children. The node it is for keeps its row: either the tree
does not end it, or its row was over before. -/
lemma lateUsage_own_row {now : String} {usage : RecursiveBudget} {result : Except String Bool}
    (hsync : InSync s) (hindex : s.indexedRecursiveRoot runId nodeId = some rootId)
    (hroot : root = true → rootId = nodeId)
    (h : s.recordRecursiveLateUsage x mint now runId nodeId receiptId root usage = (result, s')) :
    s'.find? runId nodeId = s.find? runId nodeId := by
  rcases lateUsage_cases h with rfl | ⟨t, ended, s₁, hload, -, hended, hs'⟩
  · rfl
  · have hfind : s'.find? runId nodeId = s₁.find? runId nodeId := by
      rcases hs' with ⟨-, rfl⟩ | ⟨-, -, -, rfl⟩ <;> rfl
    rw [hfind]
    have hrootId := rootNodeId_load hload hindex
    obtain ⟨hrun, -, p, hp, rfl⟩ := loadTree_eq_ok hload
    obtain ⟨u, hu, hcontains, -⟩ := indexedRecursiveRoot_eq_some hindex
    cases hp.symm.trans hu
    obtain ⟨n, hn⟩ := isSome_iff_exists.mp hcontains
    rw [← nodes_normalize] at hn
    obtain ⟨m, hm, hends⟩ := endsRow_lateCharge hn (fun hr => hrootId.trans (hroot hr))
    cases he : endsRow n with
    | false =>
      refine endRows_find?_of_notMem hended fun k hk hkn => ?_
      obtain ⟨hk, hkends⟩ := List.mem_filter.mp hk
      have hfind := find?_key _ hk
      rw [← hkn.2, hm] at hfind
      rw [← some.inj hfind, hends, he] at hkends
      cases hkends
    | true =>
      rw [nodes_normalize] at hn
      have hover := hsync runId _ hp n (mem_of_find? hn) he
      rw [key_of_find? hn] at hover
      cases hr : s.find? runId nodeId with
      | none =>
        cases hr' : s₁.find? runId nodeId with
        | none => rfl
        | some r' =>
          obtain ⟨r, h, -⟩ := (endRows_swept hended).1.find? hr'
          rw [hr] at h
          cases h
      | some r =>
        obtain ⟨r', hr', hc⟩ := (endRows_swept hended).1.find?' hr
        rw [hr']
        cases hc with
        | same => rfl
        | closed _ hl _ =>
          rw [hover r hr] at hl
          cases hl

lemma settleStale_cases (reason : Option RecursiveFailureReason) :
    s.settleStale x mint q identity usage reason = s ∨
      (identity.recursiveNodeId.isSome = true ∧ reason = none ∧
        ∃ result, s.recordRecursiveLateUsage x mint q.now q.runId q.nodeId
            (usage.2.getD (workflowReceipt q.runId q.nodeId q.attempt)) identity.root usage.1 =
          (result, s.settleStale x mint q identity usage reason)) := by
  unfold settleStale
  split_ifs with hnone
  · exact .inl rfl
  · simp only [Bool.or_eq_true, not_or, Bool.not_eq_true, isSome_eq_false_iff,
      isNone_iff_eq_none] at hnone
    exact .inr ⟨isSome_iff_ne_none.mpr hnone.1, hnone.2, _, rfl⟩

lemma resolved_index
    (h : resolveRecursiveCompletionIdentity nodeId json (s.indexedRecursiveRoot runId nodeId)
        enabled = .ok identity)
    (hrec : identity.recursiveNodeId.isSome = true) :
    ∃ rootId, s.indexedRecursiveRoot runId nodeId = some rootId ∧
      (identity.root = true ↔ rootId = nodeId) := by
  obtain ⟨hid, hroot, -⟩ := resolveIdentity_eq_ok h
  cases hi : s.indexedRecursiveRoot runId nodeId with
  | none =>
    rw [hid, hi] at hrec
    cases hrec
  | some rootId =>
    rw [hi, some_inj] at hroot
    exact ⟨rootId, rfl, hroot⟩

lemma resolved_unindexed
    (h : resolveRecursiveCompletionIdentity nodeId json (s.indexedRecursiveRoot runId nodeId)
        enabled = .ok identity)
    (hrec : identity.recursiveNodeId = none) :
    s.indexedRecursiveRoot runId nodeId = none := by
  obtain ⟨hid, -, -⟩ := resolveIdentity_eq_ok h
  rw [hid] at hrec
  cases hi : s.indexedRecursiveRoot runId nodeId with
  | none => rfl
  | some rootId =>
    rw [hi] at hrec
    cases hrec

lemma settleStale_own_row (hsync : InSync s)
    (hid : resolveRecursiveCompletionIdentity q.nodeId json
        (s.indexedRecursiveRoot q.runId q.nodeId) q.env.recursiveEnabled = .ok identity) :
    (s.settleStale x mint q identity usage reason).find? q.runId q.nodeId =
      s.find? q.runId q.nodeId := by
  rcases settleStale_cases reason with h | ⟨hrec, -, result, h⟩
  · rw [h]
  · obtain ⟨rootId, hindex, hroot⟩ := resolved_index hid hrec
    exact lateUsage_own_row hsync hindex hroot.mp h

/-- What a settlement of the current attempt did to the stored trees and the rows. -/
lemma SettledAs.cases
    (hid : resolveRecursiveCompletionIdentity q.nodeId json
        (s.indexedRecursiveRoot q.runId q.nodeId) q.env.recursiveEnabled = .ok identity)
    (h : SettledAs x mint s q identity usage reason shouldRetry status s₂) :
    (s.indexedRecursiveRoot q.runId q.nodeId = none ∧ status = actualStatus q reason shouldRetry ∧
        s₂ = settlingStore s q status) ∨
      ∃ outcome p t, AttemptEnded x q.nodeId q.runId outcome p
          (settlingStore s q (actualStatus q reason shouldRetry)) s₂ t ∧
        status = NodeStatus.ofText outcome.asStr ∧ identity.recursiveNodeId.isSome = true ∧
        (outcome = .ready ↔
          identity.root = false ∧ reason = none ∧ shouldRetry = true ∧
            (normalizeLoadedTree p).retryAllowed q.env q.nodeId usage.1 = .ok true) := by
  rcases h with ⟨hrec, rfl, rfl⟩ | ⟨hrec, text, h, rfl⟩
  · exact .inl ⟨resolved_unindexed hid hrec, rfl, rfl⟩
  · obtain ⟨rootId, hindex, hroot⟩ := resolved_index hid hrec
    rw [← index_settlingStore] at hindex
    obtain ⟨outcome, p, t, hended, rfl, hready⟩ := settleRecursive_eq_ok hindex hroot h
    exact .inr ⟨outcome, p, t, hended, rfl, hrec, hready⟩

lemma sameAttempt_settledRow (r : NodeRow) : SameAttempt r (settledRow q writable json status r) :=
  ⟨rfl, rfl, rfl, rfl⟩

lemma markers_settledRow :
    (settledRow q writable r.nodeJson status r).nodeJson.recursiveNodeId =
        r.nodeJson.recursiveNodeId ∧
      (settledRow q writable r.nodeJson status r).nodeJson.recursiveRootNodeId =
        r.nodeJson.recursiveRootNodeId := by
  unfold settledRow
  cases writable <;> cases r.nodeJson <;> exact ⟨rfl, rfl⟩

/-- The store a settlement writes the row of its node into. -/
lemma SettledAs.rowsBeside
    (hid : resolveRecursiveCompletionIdentity q.nodeId json
        (s.indexedRecursiveRoot q.runId q.nodeId) q.env.recursiveEnabled = .ok identity)
    (h : SettledAs x mint s q identity usage reason shouldRetry status s₂) :
    RowsBeside q.runId q.nodeId s s₂ := by
  have hfirst (actual : NodeStatus) : RowsBeside q.runId q.nodeId s (settlingStore s q actual) :=
    rowsBeside_modifyNode fun r => ⟨rfl, rfl, rfl, rfl⟩
  rcases h.cases hid with ⟨-, -, rfl⟩ | ⟨outcome, p, t, hended, -⟩
  · exact hfirst status
  · exact (hfirst _).trans hended.moved.synced.swept.rowsBeside

lemma carried_settlePhase (h : s.settlePhase x mint q = .ok s') : s.nodes.Rel Carried s'.nodes := by
  obtain ⟨row, identity, usage, reason, hrow, hid, -, shouldRetry, -, h⟩ := settlePhase_cases h
  rcases settleDecided_cases h with ⟨-, rfl⟩ | ⟨hrun, -, status, s₂, hsettled, rfl⟩
  · rcases settleStale_cases reason with h | ⟨-, -, result, h⟩
    · rw [h]
      exact .refl .refl _
    · exact (lateUsage_synced h).1.rows.mono fun _ _ h => h.carried
  · refine RowsBeside.carried (((hsettled.rowsBeside hid).trans (rowsBeside_modifyNode
      sameAttempt_settledRow)).trans
      swept_finishRun.1.rowsBeside) fun r r' hr hr' => ?_
    cases hrow.symm.trans hr
    obtain ⟨r₃, hr₃, hclosing⟩ := swept_finishRun.1.find? hr'
    rw [find?_modifyNode, if_pos ⟨rfl, rfl⟩] at hr₃
    obtain ⟨r₂, hr₂, rfl⟩ := map_eq_some_iff.mp hr₃
    refine Carried.trans ?_ hclosing.carried
    rcases hsettled.cases hid with ⟨-, -, rfl⟩ | ⟨outcome, p, t, -, rfl, -⟩
    · unfold settlingStore at hr₂
      rw [find?_modifyNode, if_pos ⟨rfl, rfl⟩, hrow] at hr₂
      cases hr₂
      exact ⟨⟨rfl, rfl, rfl, rfl⟩, fun _ => hrun,
        fun _ => markers_settledRow.1,
        fun _ => markers_settledRow.2⟩
    · obtain ⟨r₁, hr₁, hc⟩ := Table.Rel.find?_some (hsettled.rowsBeside hid)
        (fun _ _ h => h.sameAttempt.key) hr₂
      cases hr₁.symm.trans hrow
      exact (hc.sameAttempt.trans (sameAttempt_settledRow _)).carried
        ofText_asStr_ne_running

lemma inSync_settlePhase (hsync : InSync s) (h : s.settlePhase x mint q = .ok s') : InSync s' := by
  obtain ⟨row, identity, usage, reason, hrow, hid, -, shouldRetry, -, h⟩ := settlePhase_cases h
  rcases settleDecided_cases h with ⟨-, rfl⟩ | ⟨hrun, -, status, s₂, hsettled, rfl⟩
  · rcases settleStale_cases reason with h | ⟨-, -, result, h⟩
    · rw [h]
      exact hsync
    · obtain ⟨hsw, -, htrees | ⟨t, hs⟩⟩ := lateUsage_synced h
      · exact hsync.swept hsw htrees
      · exact InSync.synced hs fun runId u _ hu => hsync runId u hu
  · refine InSync.swept ?_ swept_finishRun.1 swept_finishRun.2
    intro runId u hu
    rw [trees_modifyNode] at hu
    rcases hsettled.cases hid with ⟨hindex, -, rfl⟩ | ⟨outcome, p, t, hended, rfl, -⟩
    · -- a node outside the index: no stored tree has a word on its row
      refine RowsEnded.modifyNode (RowsEnded.modifyNode (hsync runId u hu) ?_) ?_
      all_goals
        rintro rfl m hm
        rw [find?_of_index_none hindex hu] at hm
        cases hm
    · have hs := hended.moved.synced
      have hrunId := hended.moved.run
      have hmid : InSync s₂ := InSync.synced hs fun runId u hne hu =>
        (hsync runId u hu).modifyNode fun he => absurd (he.trans hrunId.symm) hne
      refine (hmid runId u hu).modifyNode ?_
      rintro rfl m hm hends r hr
      rw [hs.trees, if_pos hrunId.symm] at hu
      cases hu
      obtain ⟨n, hn, rfl, -⟩ := hended.attempt.own
      cases hn.symm.trans hm
      refine live_of_done ?_
      rw [ofText_asStr_of_endsRow hends]
      rfl

/-- The result of an attempt that is not the one under way leaves the row alone. -/
lemma settlePhase_stale (hsync : InSync s) (h : s.settlePhase x mint q = .ok s')
    (hrow : s.find? q.runId q.nodeId = some row)
    (hstale : row.status ≠ .running ∨ row.attemptCount ≠ q.attempt) :
    s'.find? q.runId q.nodeId = some row := by
  obtain ⟨row', identity, usage, reason, hrow', hid, -, shouldRetry, -, h⟩ := settlePhase_cases h
  cases hrow.symm.trans hrow'
  rcases settleDecided_cases h with ⟨-, rfl⟩ | ⟨hrun, hatt, -⟩
  · rw [settleStale_own_row hsync hid, hrow]
  · rcases hstale with hne | hne
    · exact absurd hrun hne
    · exact absurd hatt hne

def recoveredStatus (retry : Option Bool) : NodeStatus := if retry = some true then .pending else .failed

/-- The store in which the row of the stale lease is free again, or failed. -/
def recoveringStore (s : WorkflowStore) (q : Recovery) (row : NodeRow)
    (identity : RecursiveCompletionIdentity) (retry : Option Bool) : WorkflowStore :=
  s.modifyNode row.runId row.nodeId (recoveredRow q
    (identity.recursiveNodeId.isSome && identity.metadataWritable) (recoveredStatus retry))

variable (x mint) in
def recoverTree (q : Recovery)
    (row : NodeRow) (identity : RecursiveCompletionIdentity) (retry : Option Bool)
    (s : WorkflowStore) : Except String WorkflowStore :=
  let leaseId := workflowReceipt row.runId row.nodeId row.attemptCount
  if identity.recursiveNodeId.isNone then .ok s
  else if identity.terminalReason.isSome then
    if identity.root then do
      let (_, s) ← s.syncRecursiveRootTerminalFailure x mint q.now row.runId leaseId
        .recursiveNodeIdentityMalformed
      pure s
    else do
      let (_, s) ← s.syncRecursiveTerminalFailure x mint q.env q.now row.runId row.nodeId
        leaseId .recursiveNodeIdentityMalformed
      pure s
  else
    match retry with
    | none => .ok s
    | some retry =>
      s.syncRecursiveStaleRecovery x mint q.now row.runId row.nodeId leaseId retry

variable (x mint) in
def recoverDecided (q : Recovery)
    (s : WorkflowStore) (stale row : NodeRow) (identity : RecursiveCompletionIdentity)
    (retry : Option Bool) : Except String WorkflowStore :=
  if row.status ≠ .running ∨ row.leasedAt ≠ stale.leasedAt then .ok s
  else recoverTree x mint q row identity retry (recoveringStore s q row identity retry)

variable {q : Recovery}

lemma recoverNode_cases (h : recoverNode x mint q s stale = .ok s') :
    (s' = s ∧ ∀ row, s.find? stale.runId stale.nodeId = some row → row.status = .running →
        row.leasedAt ≠ stale.leasedAt) ∨
      ∃ row identity retry, s.find? stale.runId stale.nodeId = some row ∧
      resolveRecursiveCompletionIdentity row.nodeId row.nodeJson
        (s.indexedRecursiveRoot row.runId row.nodeId) q.env.recursiveEnabled = .ok identity ∧
      (if identity.recursiveNodeId.isSome then
        s.recoveryRetry x mint q row identity.terminalReason.isSome
      else .ok (some true)) = .ok retry ∧ row.status = .running ∧ row.leasedAt = stale.leasedAt ∧
      recoverTree x mint q row identity retry (recoveringStore s q row identity retry) =
        .ok s' := by
  unfold recoverNode at h
  cases hrow : s.find? stale.runId stale.nodeId with
  | none =>
    rw [hrow] at h
    exact .inl ⟨(ok.inj h).symm, fun _ hr => by cases hr⟩
  | some row =>
    rw [hrow] at h
    obtain ⟨identity, hid, h⟩ := bind_ok h
    have h : (if identity.recursiveNodeId.isSome then
        s.recoveryRetry x mint q row identity.terminalReason.isSome >>=
          recoverDecided x mint q s stale row identity
      else recoverDecided x mint q s stale row identity (some true)) = .ok s' := h
    have hdecided : ∃ retry, (if identity.recursiveNodeId.isSome then
        s.recoveryRetry x mint q row identity.terminalReason.isSome
        else .ok (some true)) = .ok retry ∧
        recoverDecided x mint q s stale row identity retry = .ok s' := by
      split_ifs at h ⊢ with hrec
      · exact bind_ok h
      · exact ⟨_, rfl, h⟩
    obtain ⟨retry, hretry, h⟩ := hdecided
    unfold recoverDecided at h
    split_ifs at h with hstale
    · refine .inl ⟨(ok.inj h).symm, fun r hr hrun hleased => ?_⟩
      cases hr
      exact hstale.elim (fun hne => hne hrun) fun hne => hne hleased
    · obtain ⟨hrun, hleased⟩ := not_or.mp hstale
      exact .inr ⟨row, identity, retry, rfl, hid, hretry, not_not.mp hrun, not_not.mp hleased, h⟩

lemma recursiveRetryAllowed_eq_ok {usage : RecursiveBudget} {allowed : Bool}
    (h : s.recursiveRetryAllowed x mint env runId nodeId usage = .ok allowed) :
    ∀ p, s.trees.find? runId = some p →
      (normalizeLoadedTree p).retryAllowed env nodeId usage = .ok allowed := by
  intro p hp
  obtain ⟨t, hload, h⟩ := bind_ok h
  obtain ⟨u, -, h⟩ := bind_ok h
  obtain ⟨-, -, p', hp', rfl⟩ := loadTree_eq_ok hload
  cases hp.symm.trans hp'
  exact reasonText_eq_ok.mp h

lemma recoveryRetry_eq_ok {malformed retry : Bool}
    (h : s.recoveryRetry x mint q row malformed = .ok (some retry)) :
    (malformed = true ∧ retry = false) ∨ (malformed = false ∧ ∃ early allowed,
      retry = (early && allowed) ∧ ∀ p, s.trees.find? row.runId = some p →
        (normalizeLoadedTree p).retryAllowed q.env row.nodeId .zero = .ok allowed) := by
  unfold recoveryRetry at h
  split_ifs at h with hmal
  · exact .inl ⟨hmal, (some.inj (ok.inj h)).symm⟩
  · split at h
    · rename_i allowed hallowed
      exact .inr ⟨by simpa using hmal, _, allowed, (some.inj (ok.inj h)).symm,
        recursiveRetryAllowed_eq_ok hallowed⟩
    · split_ifs at h
      cases h

lemma trees_recoveringStore :
    (recoveringStore s q row identity retry).trees = s.trees := rfl

/-- What the recovery of a stale lease did: without a tree the row is free again; with one,
the attempt ends in the tree as it does in the row. -/
lemma recoverTree_cases
    (hid : resolveRecursiveCompletionIdentity row.nodeId row.nodeJson
        (s.indexedRecursiveRoot row.runId row.nodeId) q.env.recursiveEnabled = .ok identity)
    (hretry : (if identity.recursiveNodeId.isSome then
          s.recoveryRetry x mint q row identity.terminalReason.isSome
        else .ok (some true)) = .ok retry)
    (h : recoverTree x mint q row identity retry (recoveringStore s q row identity retry) =
      .ok s') :
    (s' = recoveringStore s q row identity retry ∧
        (identity.recursiveNodeId = none ∨
          (identity.recursiveNodeId.isSome = true ∧ retry = none))) ∨
      ∃ outcome p t, AttemptEnded x row.nodeId row.runId outcome p
          (recoveringStore s q row identity retry) s' t ∧
        outcome.rowStatus = recoveredStatus retry := by
  unfold recoverTree at h
  by_cases hrec : identity.recursiveNodeId = none
  · rw [hrec] at h
    exact .inl ⟨(ok.inj h).symm, .inl hrec⟩
  · have hsome : identity.recursiveNodeId.isSome = true := isSome_iff_ne_none.mpr hrec
    obtain ⟨rootId, hindex, hroot⟩ := resolved_index hid hsome
    have hstored : ∀ p, s.trees.find? row.runId = some p → p.rootNodeId = rootId := by
      intro p hp
      obtain ⟨u, hu, -, hroot⟩ := indexedRecursiveRoot_eq_some hindex
      cases hp.symm.trans hu
      exact hroot
    rw [if_pos hsome] at hretry
    rw [if_neg (by simpa using hrec)] at h
    cases retry with
    | none =>
      split_ifs at h with hmal hr
      · unfold recoveryRetry at hretry
        rw [if_pos hmal] at hretry
        cases hretry
      · unfold recoveryRetry at hretry
        rw [if_pos hmal] at hretry
        cases hretry
      · exact .inl ⟨(ok.inj h).symm, .inr ⟨hsome, rfl⟩⟩
    | some retry =>
      refine .inr ?_
      rcases recoveryRetry_eq_ok hretry with ⟨hmal, rfl⟩ | ⟨hmal, early, allowed, rfl, hallowed⟩
      · split_ifs at h with hr
        · obtain ⟨⟨text, s₁⟩, hsync, h⟩ := bind_ok h
          cases h
          have hk : ∀ p, (recoveringStore s q row identity (some false)).trees.find? row.runId =
              some p → row.nodeId = p.rootNodeId := by
            intro p hp
            exact (hroot.mp hr).symm.trans (hstored p hp).symm
          obtain ⟨p, t, hended, -⟩ := ended_syncRootTerminalFailure hk hsync
          exact ⟨.failed, p, t, hended, rfl⟩
        · obtain ⟨⟨text, s₁⟩, hsync, h⟩ := bind_ok h
          cases h
          obtain ⟨p, t, hended, -⟩ := ended_syncTerminalFailure hsync
          exact ⟨.failed, p, t, hended, rfl⟩
      · rw [if_neg (by simp [hmal])] at h
        rw [← trees_recoveringStore] at hallowed
        obtain ⟨p, t, hended⟩ := ended_syncStaleRecovery hallowed h
        refine ⟨_, p, t, hended, ?_⟩
        cases early && allowed <;> rfl

lemma recoveredStatus_ne_running : recoveredStatus retry ≠ .running := by
  unfold recoveredStatus
  split_ifs <;> decide

lemma carried_recoverNode (h : recoverNode x mint q s stale = .ok s') :
    s.nodes.Rel Carried s'.nodes := by
  rcases recoverNode_cases h with ⟨rfl, -⟩ | ⟨row, identity, retry, hrow, hid, hretry, -, -, h⟩
  · exact .refl .refl _
  · have hfirst : s.nodes.Rel Carried (recoveringStore s q row identity retry).nodes :=
      Table.Rel.of_modify rfl .refl fun r _ =>
        SameAttempt.carried ⟨rfl, rfl, rfl, rfl⟩ recoveredStatus_ne_running
    rcases recoverTree_cases hid hretry h with ⟨rfl, -⟩ | ⟨outcome, p, t, hended, -⟩
    · exact hfirst
    · exact rows_carried_trans hfirst (hended.moved.synced.swept.rows.mono fun _ _ h => h.carried)

lemma inSync_recoverNode (hsync : InSync s)
    (h : recoverNode x mint q s stale = .ok s') : InSync s' := by
  rcases recoverNode_cases h with ⟨rfl, -⟩ | ⟨row, identity, retry, hrow, hid, hretry, -, -, h⟩
  · exact hsync
  · rcases recoverTree_cases hid hretry h with ⟨rfl, hcase⟩ | ⟨outcome, p, t, hended, -⟩
    · intro runId u hu
      refine (hsync runId u hu).modifyNode ?_
      rintro rfl n hn - r -
      rcases hcase with hnone | ⟨-, rfl⟩
      · rw [find?_of_index_none (resolved_unindexed hid hnone) hu] at hn
        cases hn
      · rfl
    · refine InSync.synced hended.moved.synced fun runId u hne hu =>
        (hsync runId u hu).modifyNode fun he => ?_
      exact absurd (he.trans hended.moved.run.symm) hne

lemma carried_recoverStaleLeases
    (h : s.recoverStaleLeases x mint q = .ok s') : s.nodes.Rel Carried s'.nodes :=
  foldlM_induction (P := fun u => s.nodes.Rel Carried u.nodes)
    (fun _ _ _ hu hstep => rows_carried_trans hu (carried_recoverNode hstep)) (.refl .refl _) h

lemma inSync_recoverStaleLeases (hsync : InSync s)
    (h : s.recoverStaleLeases x mint q = .ok s') : InSync s' :=
  foldlM_induction (fun _ _ _ hu hstep => inSync_recoverNode hu hstep) hsync h

lemma mem_of_findReadyNode {agentExecutor : Option Bool}
    (h : g.findReadyNode runId skip agentExecutor = some r) :
    g.find? runId r.nodeId = some r ∧ g.isReady runId r = true := by
  have hmem := List.mem_of_find?_eq_some h
  have hp := List.find?_some h
  simp only [Bool.and_eq_true] at hp
  obtain ⟨hr, hrun⟩ := List.mem_filter.mp hmem
  have hrun : r.runId = runId := by simpa using hrun
  refine ⟨?_, hp.2⟩
  rw [← hrun]
  exact g.nodes.find?_key hr

variable {q : LeaseRequest}

/-- The node that is finally chosen is ready, and no cap holds it back. -/
lemma selectNode_eq_ok {fuel : ℕ} (h : s.selectNode q fuel skip = .ok (some r)) :
    s.find? q.runId r.nodeId = some r ∧ s.isReady q.runId r = true ∧ s.capped q r = .ok false := by
  induction fuel generalizing skip with
  | zero => cases h
  | succ fuel ih =>
    unfold selectNode at h
    dsimp only at h
    split at h
    · cases h
    · rename_i r' hcand
      obtain ⟨cap, hcap, h⟩ := bind_ok h
      split_ifs at h with hc
      · exact ih h
      · obtain rfl := some.inj (ok.inj h)
        have hready : s.find? q.runId r'.nodeId = some r' ∧ s.isReady q.runId r' = true := by
          rcases or_eq_some_iff.mp hcand with h | ⟨-, h⟩
          · exact mem_of_findReadyNode h
          · split_ifs at h
            exact mem_of_findReadyNode h
        exact ⟨hready.1, hready.2, by rw [hcap, Bool.eq_false_iff.mpr hc]⟩

/-- The trees of `s'` have no ended children that those of `s` do not have. -/
def NoNewEnded (s s' : WorkflowStore) : Prop :=
  ∀ runId t, s'.trees.find? runId = some t → ∀ n ∈ t.nodes.rows, endsRow n = true →
    ∃ p, s.trees.find? runId = some p ∧ n ∈ p.nodes.rows

lemma NoNewEnded.refl (s : WorkflowStore) : NoNewEnded s s := fun _ t ht _ hn _ => ⟨t, ht, hn⟩

lemma NoNewEnded.trans (h : NoNewEnded s s') (h' : NoNewEnded s' s'') : NoNewEnded s s'' := by
  intro runId t ht n hn hends
  obtain ⟨p, hp, hn⟩ := h' runId t ht n hn hends
  exact h runId p hp n hn hends

lemma noNewEnded_persist {v : ℕ} (h : s.persistTree x mint t (some v) = .ok s')
    (ht : ∀ n ∈ t.nodes.rows, endsRow n = true →
      ∃ p, s.trees.find? t.rootRunId = some p ∧ n ∈ p.nodes.rows) :
    NoNewEnded s s' := by
  obtain ⟨-, rfl⟩ := persistTree_eq_ok h
  intro runId u hu n hn hends
  rw [find?_insert] at hu
  split_ifs at hu with hrun
  · cases hu
    rw [hrun]
    exact ht n hn hends
  · exact ⟨u, hu, hn⟩

lemma syncLease_eq_ok {leaseId : String}
    (h : s.syncRecursiveLease x mint env runId nodeId leaseId = .ok s') :
    s'.toWorkflowGraph = s.toWorkflowGraph ∧ s'.runs = s.runs ∧ NoNewEnded s s' := by
  obtain ⟨t, hload, h⟩ := bind_ok h
  obtain ⟨u, -, h⟩ := bind_ok h
  obtain ⟨t', hlease, h⟩ := bind_ok h
  obtain ⟨n, -, -, -, -, -, rfl⟩ := leaseNode_eq_ok (reasonText_eq_ok.mp hlease)
  obtain ⟨hrunId, -, p, hp, rfl⟩ := loadTree_eq_ok hload
  refine ⟨?_, ?_, noNewEnded_persist h fun m hm hends => ⟨p, ?_, ?_⟩⟩
  · obtain ⟨-, rfl⟩ := persistTree_eq_ok h
    rfl
  · obtain ⟨-, rfl⟩ := persistTree_eq_ok h
    rfl
  · change s.trees.find? (normalizeLoadedTree p).rootRunId = some p
    rw [hrunId]
    exact hp
  · unfold leasedTree at hm
    rw [mem_modify] at hm
    obtain ⟨k, hk, rfl⟩ := hm
    split_ifs at hends ⊢
    · cases hp : k.parentNodeId <;> simp [endsRow, RecursiveNode.lease, hp] at hends
    · rwa [nodes_normalize] at hk

lemma ensureRoot_eq_ok
    (h : s.ensureRecursiveRootTree x mint runId workflowId nodeId json = .ok s') :
    s'.toWorkflowGraph = s.toWorkflowGraph ∧ s'.runs = s.runs ∧ NoNewEnded s s' := by
  obtain ⟨loaded, -, h⟩ := bind_ok h
  cases loaded with
  | some t =>
    obtain ⟨u, -, h⟩ := bind_ok h
    cases h
    exact ⟨rfl, rfl, .refl s⟩
  | none =>
    dsimp only at h
    split at h
    · split at h
      · split at h
        · obtain ⟨t, hnew, h⟩ := bind_ok h
          obtain ⟨objective, agentId, receipt, authority, rfl⟩ := recursiveRootTreeFromMetadata_eq_ok hnew
          refine ⟨?_, ?_, noNewEnded_persist h fun m hm hends => ?_⟩
          · obtain ⟨-, rfl⟩ := persistTree_eq_ok h
            rfl
          · obtain ⟨-, rfl⟩ := persistTree_eq_ok h
            rfl
          · rcases (mem_insert _ _ _).mp hm with rfl | ⟨hm, -⟩
            · cases hends
            · cases hm
        · cases h
      · cases h
    · cases h

lemma leaseRecursive_eq_ok {attempt : ℕ}
    (h : s.leaseRecursive x mint q workflowId r attempt = .ok s') :
    s'.toWorkflowGraph = s.toWorkflowGraph ∧ s'.runs = s.runs ∧ NoNewEnded s s' := by
  obtain ⟨u, -, h⟩ := bind_ok h
  split at h
  · obtain ⟨v, -, h⟩ := bind_ok h
    exact syncLease_eq_ok h
  · split_ifs at h
    · cases h
      exact ⟨rfl, rfl, .refl s⟩
    · obtain ⟨v, -, h⟩ := bind_ok h
      obtain ⟨s₁, hensure, h⟩ := bind_ok h
      obtain ⟨hg, hr, hnew⟩ := ensureRoot_eq_ok hensure
      obtain ⟨hg', hr', hnew'⟩ := syncLease_eq_ok h
      exact ⟨hg'.trans hg, hr'.trans hr, hnew.trans hnew'⟩
  · cases h
    exact ⟨rfl, rfl, .refl s⟩

/-- A run that has begun. -/
def startedStore (s : WorkflowStore) (q : LeaseRequest) (run : RunRecord) : WorkflowStore :=
  if run.status = .created then s.updateRunStatus q.runId .running else s

lemma key_leased (q : LeaseRequest) (r : NodeRow) :
    { r with status := .running, leasedAt := some q.now, attemptCount := r.attemptCount + 1 }.key =
      r.key := rfl

def leasedStore (s : WorkflowStore) (q : LeaseRequest) (nodeId : String) : WorkflowStore :=
  s.modifyNode q.runId nodeId
    (fun r => { r with
      status := .running, leasedAt := some q.now, attemptCount := r.attemptCount + 1 })
    (key_leased q)

lemma graph_startedStore (s : WorkflowStore) (q : LeaseRequest) (run : RunRecord) :
    (startedStore s q run).toWorkflowGraph = s.toWorkflowGraph ∧
      (startedStore s q run).trees = s.trees := by
  unfold startedStore
  split_ifs <;> exact ⟨rfl, rfl⟩

lemma leasePhase_cases (h : s.leasePhase x mint q = .ok (result, s')) :
    ∃ run, s.runs.find? q.runId = some run ∧
      requireRunExecutionOwner q.runId run.pauseReason q.expectedOwner = .ok () ∧
      run.status.isTerminal = false ∧
      (((startedStore s q run).selectNode q (s.nodes.size + 1) [] = .ok none ∧
          s' = ((startedStore s q run).finishRun q.runId).2 ∧
          result = match ((startedStore s q run).finishRun q.runId).1 with
            | some status => .terminal status
            | none => .noReadyNode) ∨
        ∃ r, (startedStore s q run).selectNode q (s.nodes.size + 1) [] = .ok (some r) ∧
          (((startedStore s q run).claimAllowed q r = .ok false ∧ s' = startedStore s q run ∧
              result = .noReadyNode) ∨
            ((startedStore s q run).claimAllowed q r = .ok true ∧
              result = .leased r.nodeId r.taskType (r.attemptCount + 1) ∧
              (leasedStore (startedStore s q run) q r.nodeId).leaseRecursive x mint q
                run.workflowId r (r.attemptCount + 1) = .ok s'))) := by
  unfold leasePhase at h
  cases hrun : s.runs.find? q.runId with
  | none => simp [hrun] at h
  | some run =>
    rw [hrun] at h
    obtain ⟨u, howner, h⟩ := bind_ok h
    obtain ⟨v, hterm, h⟩ := bind_ok h
    refine ⟨run, rfl, howner, refuse_ok hterm, ?_⟩
    have hsize : (startedStore s q run).nodes.size = s.nodes.size :=
      congrArg (fun g : WorkflowGraph => g.nodes.size) (graph_startedStore s q run).1
    obtain ⟨chosen, hchosen, h⟩ := bind_ok h
    have hchosen : (startedStore s q run).selectNode q (s.nodes.size + 1) [] = .ok chosen := by
      rw [← hsize]
      exact hchosen
    cases chosen with
    | none =>
      refine .inl ⟨hchosen, ?_⟩
      dsimp only at h
      split at h
      · next status s₁ hfin =>
        cases h
        exact ⟨congrArg Prod.snd hfin.symm, by rw [show (startedStore s q run).finishRun q.runId =
          _ from hfin]⟩
      · next s₁ hfin =>
        cases h
        exact ⟨congrArg Prod.snd hfin.symm, by rw [show (startedStore s q run).finishRun q.runId =
          _ from hfin]⟩
    | some r =>
      refine .inr ⟨r, hchosen, ?_⟩
      obtain ⟨allowed, hallowed, h⟩ := bind_ok h
      cases allowed with
      | false =>
        cases h
        exact .inl ⟨hallowed, rfl, rfl⟩
      | true =>
        obtain ⟨s₂, hlease, h⟩ := bind_ok h
        cases h
        exact .inr ⟨hallowed, rfl, hlease⟩

/-- Either nothing is leased, or one row that was ready starts its next attempt. -/
lemma lease_rows (h : s.leasePhase x mint q = .ok (result, s')) :
    ((∀ nodeId taskType attempt, result ≠ .leased nodeId taskType attempt) ∧ Swept s s' ∧
      s'.trees = s.trees) ∨
    ∃ r, s.find? q.runId r.nodeId = some r ∧ s.isReady q.runId r = true ∧
      result = .leased r.nodeId r.taskType (r.attemptCount + 1) ∧
      s'.nodes = (leasedStore s q r.nodeId).nodes ∧ s'.edges = s.edges ∧ NoNewEnded s s' := by
  obtain ⟨run, -, -, -, ⟨-, rfl, hresult⟩ | ⟨r, hchosen, ⟨-, rfl, rfl⟩ | ⟨-, rfl, hlease⟩⟩⟩ :=
    leasePhase_cases h
  · obtain ⟨hg, ht⟩ := graph_startedStore s q run
    obtain ⟨hsw, htrees⟩ := swept_finishRun
    refine .inl ⟨fun _ _ _ he => ?_, ⟨?_, ?_⟩, htrees.trans ht⟩
    · rw [hresult] at he
      split at he <;> cases he
    · rw [← hg]
      exact hsw.rows
    · rw [← hg]
      exact hsw.edges
  · obtain ⟨hg, ht⟩ := graph_startedStore s q run
    refine .inl ⟨fun _ _ _ => LeaseResult.noConfusion, ⟨?_, ?_⟩, ht⟩
    · rw [hg]
      exact .refl (fun _ => .same) _
    · rw [hg]
  · obtain ⟨hg, ht⟩ := graph_startedStore s q run
    obtain ⟨hfind, hready, -⟩ := selectNode_eq_ok hchosen
    obtain ⟨hg', -, hnew⟩ := leaseRecursive_eq_ok hlease
    rw [hg] at hfind hready
    refine .inr ⟨r, hfind, hready, rfl, ?_, ?_, fun runId t htree n hn hends => ?_⟩
    · rw [hg']
      unfold leasedStore
      rw [nodes_modifyNode, nodes_modifyNode, hg]
    · rw [hg']
      change (startedStore s q run).edges = s.edges
      rw [hg]
    · obtain ⟨p, hp, hn⟩ := hnew runId t htree n hn hends
      unfold leasedStore at hp
      rw [trees_modifyNode, ht] at hp
      exact ⟨p, hp, hn⟩

lemma pending_of_isReady (h : g.isReady runId r = true) : r.status = .pending := by
  unfold WorkflowGraph.isReady at h
  simp only [Bool.and_eq_true, decide_eq_true_eq] at h
  exact h.1

lemma inSync_leasePhase (hsync : InSync s)
    (h : s.leasePhase x mint q = .ok (result, s')) : InSync s' := by
  rcases lease_rows h with ⟨-, hsw, ht⟩ | ⟨r, hr, hready, -, hnodes, -, hnew⟩
  · exact hsync.swept hsw ht
  · intro runId t htree n hn hends
    obtain ⟨p, hp, hn⟩ := hnew runId t htree n hn hends
    have hover := hsync runId p hp n hn hends
    intro r' hr'
    unfold WorkflowGraph.find? at hr'
    rw [hnodes] at hr'
    have hr' : (leasedStore s q r.nodeId).find? runId n.nodeId = some r' := hr'
    unfold leasedStore at hr'
    rw [find?_modifyNode] at hr'
    split_ifs at hr' with hk
    · -- the row that was leased was pending, so its node has not ended
      rw [hk.1, hk.2] at hover
      have hlive := hover r hr
      rw [live_eq_true.mpr (.inl (pending_of_isReady hready))] at hlive
      cases hlive
    · exact hover r' hr'

end

end Harness
