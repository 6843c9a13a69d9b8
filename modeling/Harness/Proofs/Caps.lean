import Harness.Proofs.Fencing

/-! How many agent steps run at once. The lease phase looks at one ready node after another
and skips those that a cap holds back, so each cap is checked for the node it takes; nothing
else makes a row run. -/

namespace Harness

open Lib NodeRow WorkflowStore List Except

variable {r : NodeRow} {q : LeaseRequest}

namespace NodeRow

def running (r : NodeRow) : Bool := r.isAgentStep && r.status = .running

def runningIn (runId : String) (r : NodeRow) : Bool := r.running && r.runId = runId

/-- One of the two markers names the node. -/
def marked (r : NodeRow) : Bool :=
  r.nodeJson.recursiveNodeId.asStr = some r.nodeId || r.nodeJson.recursiveRootNodeId.asStr = some r.nodeId

def runningMarked (r : NodeRow) : Bool := r.running && r.marked

variable {r' : NodeRow}

lemma Carried.running_of (h : Carried r r') (hr : r'.running = true) : r.running = true := by
  unfold NodeRow.running isAgentStep at hr ⊢
  simp only [Bool.and_eq_true, decide_eq_true_eq] at hr ⊢
  exact ⟨h.task ▸ hr.1, h.running hr.2⟩

lemma Carried.runningIn_of {runId : String} (h : Carried r r') (hr : r'.runningIn runId = true) :
    r.runningIn runId = true := by
  unfold runningIn at hr ⊢
  simp only [Bool.and_eq_true, decide_eq_true_eq] at hr ⊢
  exact ⟨h.running_of hr.1, h.run ▸ hr.2⟩

lemma Carried.runningMarked_of (h : Carried r r') (hr : r'.runningMarked = true) :
    r.runningMarked = true := by
  unfold runningMarked at hr ⊢
  simp only [Bool.and_eq_true] at hr ⊢
  refine ⟨h.running_of hr.1, ?_⟩
  have hstatus : r'.status = .running := by
    have := hr.1
    unfold NodeRow.running at this
    simp only [Bool.and_eq_true, decide_eq_true_eq] at this
    exact this.2
  have hm := hr.2
  unfold marked at hm ⊢
  rwa [h.child hstatus, h.root hstatus, h.node] at hm

end NodeRow

section

variable {s s' : WorkflowStore}

lemma countRunning_eq : s.countRunningAgentSteps = s.nodes.rows.countP NodeRow.running := by
  rw [countP_eq_length_filter]
  rfl

lemma countRunningForRun_eq {runId : String} :
    s.countRunningAgentStepsForRun runId = s.nodes.rows.countP (NodeRow.runningIn runId) := by
  unfold countRunningAgentStepsForRun runningAgentSteps
  rw [filter_filter, countP_eq_length_filter]
  congr 2
  funext r
  unfold NodeRow.runningIn NodeRow.running
  rw [Bool.and_comm]

variable {found : Bool} {result : LeaseResult} {p : NodeRow → Bool} {n globalCap perRunCap cap : ℕ}

lemma recursiveMarker_eq_ok {json : NodeJson} (h : recursiveMarkerFromNodeJson json = .ok found) :
    found = true ∨ (json.recursiveNodeId = .absent ∧ json.recursiveRootNodeId = .absent) := by
  unfold recursiveMarkerFromNodeJson at h
  dsimp only at h
  split at h
  · cases h
  · by_cases hchild : json.recursiveNodeId.isPresent = true
    · rw [if_pos hchild, hchild] at h
      split at h
      · rename_i habsent
        cases habsent
      · split at h
        · cases h
        · exact .inl (ok.inj h).symm
    · rw [if_neg hchild] at h
      split at h
      · rename_i habsent
        unfold Marker.isPresent at hchild habsent
        exact .inr ⟨by simpa using hchild, by simpa using habsent⟩
      · split at h
        · cases h
        · exact .inl (ok.inj h).symm

/-- The query that a claim goes by calls a row recursive exactly if a marker names it. -/
lemma isRecursive_eq_ok (h : s.workflowNodeIsRecursive r = .ok found) : found = r.marked := by
  unfold workflowNodeIsRecursive recursiveIdentityForClaim at h
  unfold NodeRow.marked
  split at h
  · cases h
  · split at h
    · dsimp only at h
      split_ifs at h with hroot hexact hexact
      · cases h
        simp [hexact.2]
      · cases h
        simp [hexact.1]
    · obtain ⟨marker, hmarker, h⟩ := bind_ok h
      split at h
      · rename_i hnone
        cases h
        rcases recursiveMarker_eq_ok hmarker with rfl | ⟨hchild, hroot⟩
        · cases hnone
        · rw [hchild, hroot]
          simp [Marker.asStr]
      · split at h
        · rename_i hnamed
          cases h
          exact hnamed.symm
        · cases h

lemma mapM_eq_ok {α β : Type} {f : α → Except String β} {g : α → β}
    (hf : ∀ a b, f a = .ok b → b = g a) {l : List α} {found : List β} (h : l.mapM f = .ok found) :
    found = l.map g := by
  induction l generalizing found with
  | nil =>
    exact (ok.inj h).symm
  | cons a l ih =>
    rw [mapM_cons] at h
    obtain ⟨b, hb, h⟩ := bind_ok h
    obtain ⟨rest, hrest, h⟩ := bind_ok h
    rw [← ok.inj h, hf a b hb, ih hrest, map_cons]

lemma countRecursive_eq_ok (h : s.countRunningRecursiveSteps = .ok n) :
    n = s.nodes.rows.countP NodeRow.runningMarked := by
  obtain ⟨found, hfound, h⟩ := bind_ok h
  cases h
  rw [mapM_eq_ok (fun _ _ h => isRecursive_eq_ok h) hfound, ← countP_eq_length_filter,
    countP_map]
  unfold runningAgentSteps
  rw [countP_filter]
  congr 1
  funext r
  rw [Bool.and_comm]
  rfl

/-- No more agent steps run than the caps allow. -/
structure WithinCaps (globalCap perRunCap : ℕ) (s : WorkflowStore) : Prop where
  total : s.nodes.rows.countP NodeRow.running ≤ globalCap
  perRun : ∀ runId, s.nodes.rows.countP (NodeRow.runningIn runId) ≤ perRunCap

/-- No more recursive steps run than may be leased at once. -/
def WithinRecursiveCap (s : WorkflowStore) : Prop :=
  s.nodes.rows.countP NodeRow.runningMarked ≤ maxRecursiveLeases

lemma WithinCaps.carried (h : WithinCaps globalCap perRunCap s)
    (hrows : s.nodes.Rel Carried s'.nodes) : WithinCaps globalCap perRunCap s' where
  total := (hrows.countP_le fun _ _ h hr => h.running_of hr).trans h.total
  perRun runId := (hrows.countP_le fun _ _ h hr => h.runningIn_of hr).trans (h.perRun runId)

lemma WithinRecursiveCap.carried (h : WithinRecursiveCap s) (hrows : s.nodes.Rel Carried s'.nodes) :
    WithinRecursiveCap s' :=
  (hrows.countP_le fun _ _ h hr => h.runningMarked_of hr).trans h

lemma lt_of_lt_asI64 (h : (n : ℤ) < asI64 cap) : n < cap := by
  unfold asI64 at h
  split_ifs at h <;> omega

variable {x : Externals} {mint : Mint}

lemma capped_eq_ok (h : s.capped q r = .ok false) (hagent : r.isAgentStep = true) :
    s.recursiveCapped q.env r = .ok false ∧ ∀ globalCap perRunCap,
      q.caps = some (globalCap, perRunCap) → s.nodes.rows.countP NodeRow.running < globalCap ∧
        s.nodes.rows.countP (NodeRow.runningIn q.runId) < perRunCap := by
  unfold capped at h
  rw [hagent] at h
  obtain ⟨full, hfull, h⟩ := bind_ok h
  cases full with
  | true => cases h
  | false =>
    refine ⟨hfull, fun globalCap perRunCap hcaps => ?_⟩
    rw [hcaps] at h
    have h := ok.inj h
    simp only [Bool.or_eq_false_iff, decide_eq_false_iff_not, not_le] at h
    rw [countRunning_eq, countRunningForRun_eq] at h
    exact ⟨lt_of_lt_asI64 h.1, lt_of_lt_asI64 h.2⟩

lemma recursiveCapped_eq_ok {env : RecursiveEnv} (h : s.recursiveCapped env r = .ok false)
    (henabled : env.recursiveEnabled = true) (hm : r.marked = true) :
    s.nodes.rows.countP NodeRow.runningMarked < maxRecursiveLeases := by
  unfold recursiveCapped at h
  rw [henabled] at h
  obtain ⟨found, hfound, h⟩ := bind_ok h
  rw [isRecursive_eq_ok hfound, hm] at h
  obtain ⟨n, hn, h⟩ := bind_ok h
  have h := ok.inj h
  rw [decide_eq_false_iff_not, not_le] at h
  rwa [← countRecursive_eq_ok hn]

/-- The row a lease takes was ready, and no cap held it back. -/
lemma lease_row (h : s.leasePhase x mint q = .ok (result, s')) :
    s.nodes.Rel Carried s'.nodes ∨
      ∃ r, s.find? q.runId r.nodeId = some r ∧ s'.nodes = (leasedStore s q r.nodeId).nodes ∧
        (r.isAgentStep = true →
          ∀ globalCap perRunCap, q.caps = some (globalCap, perRunCap) →
            s.nodes.rows.countP NodeRow.running < globalCap ∧
              s.nodes.rows.countP (NodeRow.runningIn q.runId) < perRunCap) ∧
        (r.isAgentStep = true → q.env.recursiveEnabled = true → r.marked = true →
          s.nodes.rows.countP NodeRow.runningMarked < maxRecursiveLeases) := by
  obtain ⟨run, -, -, -, hcases⟩ := leasePhase_cases h
  rcases lease_rows h with ⟨-, hsw, -⟩ | ⟨r, hr, -, hresult, hnodes, -, -⟩
  · exact .inl (hsw.rows.mono fun _ _ h => h.carried)
  · have hg := (graph_startedStore s q run).1
    rcases hcases with ⟨-, -, hno⟩ | ⟨r', hchosen, ⟨-, -, hno⟩ | ⟨-, hyes, -⟩⟩
    · rw [hresult] at hno
      split at hno <;> cases hno
    · rw [hresult] at hno
      cases hno
    · obtain ⟨hfind, -, hcap⟩ := selectNode_eq_ok hchosen
      rw [hresult] at hyes
      rw [hg, (LeaseResult.leased.inj hyes).1.symm] at hfind
      cases hr.symm.trans hfind
      refine .inr ⟨r, hr, hnodes, fun hagent => ?_, fun hagent => ?_⟩
      · rw [← hg]
        exact (capped_eq_ok hcap hagent).2
      · rw [← hg]
        exact recursiveCapped_eq_ok (capped_eq_ok hcap hagent).1

/-- A lease counts for a cap only if the leased row does, and then there was room. -/
lemma countP_leasedStore_le (h : s.nodes.rows.countP p ≤ cap)
    (hr : s.find? q.runId r.nodeId = some r)
    (hroom : p { r with
      status := .running, leasedAt := some q.now, attemptCount := r.attemptCount + 1 } = true →
      s.nodes.rows.countP p < cap) :
    (leasedStore s q r.nodeId).nodes.rows.countP p ≤ cap := by
  by_cases hp : p { r with
      status := .running, leasedAt := some q.now, attemptCount := r.attemptCount + 1 } = true
  · exact (Table.countP_le_succ_of_modify rfl).trans (hroom hp)
  · refine (Table.Rel.countP_le (R := fun a b => p b = true → p a = true) ?_ fun _ _ h => h).trans h
    refine Table.Rel.of_modify rfl (fun _ => id) fun a ha hpa => ?_
    cases ha.symm.trans hr
    exact absurd hpa hp

lemma WithinCaps.lease (h : WithinCaps globalCap perRunCap s)
    (hcaps : q.caps = some (globalCap, perRunCap))
    (hlease : s.leasePhase x mint q = .ok (result, s')) :
    WithinCaps globalCap perRunCap s' := by
  rcases lease_row hlease with hrows | ⟨r, hr, hnodes, hroom, -⟩
  · exact h.carried hrows
  · refine ⟨?_, fun runId => ?_⟩
    · rw [hnodes]
      refine countP_leasedStore_le h.total hr fun hrow => ?_
      exact (hroom (Bool.and_eq_true_iff.mp hrow).1 _ _ hcaps).1
    · rw [hnodes]
      refine countP_leasedStore_le (h.perRun runId) hr fun hrow => ?_
      obtain ⟨hrunning, hrun⟩ := Bool.and_eq_true_iff.mp hrow
      obtain rfl : r.runId = runId := by simpa using hrun
      rw [(find?_run hr).1]
      exact (hroom (Bool.and_eq_true_iff.mp hrunning).1 _ _ hcaps).2

lemma WithinRecursiveCap.lease (h : WithinRecursiveCap s) (henabled : q.env.recursiveEnabled = true)
    (hlease : s.leasePhase x mint q = .ok (result, s')) : WithinRecursiveCap s' := by
  rcases lease_row hlease with hrows | ⟨r, hr, hnodes, -, hroom⟩
  · exact h.carried hrows
  · unfold WithinRecursiveCap
    rw [hnodes]
    refine countP_leasedStore_le h hr fun hrow => ?_
    obtain ⟨hrunning, hm⟩ := Bool.and_eq_true_iff.mp hrow
    exact hroom (Bool.and_eq_true_iff.mp hrunning).1 henabled hm

/-- A property of the rows that leases keep under a condition of theirs, and that carrying
rows over keeps, holds along every run whose leases meet the condition. -/
lemma playSteps_induction {P : WorkflowStore → Prop} {ok : LeaseRequest → Prop}
    (hcarried : ∀ s s' : WorkflowStore, P s → s.nodes.Rel Carried s'.nodes → P s')
    (hlease : ∀ (s s' : WorkflowStore) q result,
      P s → ok q → s.leasePhase x mint q = .ok (result, s') → P s')
    (hs : P s) {steps : List WorkflowStep} (hok : ∀ q, .lease q ∈ steps → ok q) :
    P (playSteps x mint s steps) := by
  induction steps generalizing s with
  | nil => exact hs
  | cons step steps ih =>
    refine ih ?_ fun q hq => hok q (mem_cons_of_mem _ hq)
    rcases step.take_cases x mint s with
      h | ⟨q, result, rfl, h⟩ | ⟨q, -, h⟩ | ⟨q, -, h⟩
    · rw [h]
      exact hs
    · exact hlease s _ q result hs (hok q mem_cons_self) h
    · exact hcarried s _ hs (carried_settlePhase h)
    · exact hcarried s _ hs (carried_recoverStaleLeases h)

lemma countP_eq_zero_of_idle (hidle : ∀ r ∈ s.nodes.rows, r.status ≠ .running)
    (hp : ∀ r, p r = true → r.running = true) : s.nodes.rows.countP p = 0 := by
  refine countP_eq_zero.mpr fun r hr hpr => hidle r hr ?_
  have := (Bool.and_eq_true_iff.mp (hp r hpr)).2
  simpa using this

/-- From a store in which nothing runs, whatever the transactions and their order: never do
more agent steps run than the caps of the leases allow, in all or in one run, and with
recursion on never more recursive ones than may be leased at once. -/
theorem agent_caps_kept {globalCap perRunCap : ℕ} (hidle : ∀ r ∈ s.nodes.rows, r.status ≠ .running)
    (steps : List WorkflowStep)
      (hcaps : ∀ q, .lease q ∈ steps → q.caps = some (globalCap, perRunCap)) :
    (playSteps x mint s steps).countRunningAgentSteps ≤ globalCap ∧
    (∀ runId,
      (playSteps x mint s steps).countRunningAgentStepsForRun runId ≤ perRunCap) ∧
    ((∀ q, .lease q ∈ steps → q.env.recursiveEnabled = true) →
      (playSteps x mint s steps).runningAgentSteps.countP (fun r =>
        r.marked || ((playSteps x mint s steps).workflowNodeIsRecursive r).toOption.getD
          false) ≤ maxRecursiveLeases) := by
  have hstart : WithinCaps globalCap perRunCap s := by
    refine ⟨?_, fun runId => ?_⟩
    · rw [countP_eq_zero_of_idle hidle fun _ h => h]
      exact Nat.zero_le _
    · rw [countP_eq_zero_of_idle (p := NodeRow.runningIn runId) hidle fun _ h =>
        (Bool.and_eq_true_iff.mp h).1]
      exact Nat.zero_le _
  have hcapped : WithinCaps globalCap perRunCap (playSteps x mint s steps) :=
    playSteps_induction (fun _ _ h hrows => h.carried hrows)
      (fun _ _ _ _ h hok hlease => h.lease hok hlease) hstart hcaps
  refine ⟨?_, fun runId => ?_, fun henabled => ?_⟩
  · rw [countRunning_eq]
    exact hcapped.total
  · rw [countRunningForRun_eq]
    exact hcapped.perRun runId
  · have hstart : WithinRecursiveCap s := by
      unfold WithinRecursiveCap
      rw [countP_eq_zero_of_idle (p := NodeRow.runningMarked) hidle fun _ h =>
        (Bool.and_eq_true_iff.mp h).1]
      exact Nat.zero_le _
    have hrec : WithinRecursiveCap (playSteps x mint s steps) :=
      playSteps_induction (fun _ _ h hrows => h.carried hrows)
        (fun _ _ _ _ h hok hlease => h.lease hok hlease) hstart henabled
    refine le_trans ?_ hrec
    unfold runningAgentSteps
    rw [countP_filter]
    refine countP_mono_left fun r _ hr => ?_
    obtain ⟨hmarked, hrunning⟩ := Bool.and_eq_true_iff.mp hr
    refine Bool.and_eq_true_iff.mpr ⟨hrunning, ?_⟩
    rcases Bool.or_eq_true_iff.mp hmarked with hm | hfound
    · exact hm
    · cases h : (playSteps x mint s steps).workflowNodeIsRecursive r with
      | error reason => simp [h, Except.toOption] at hfound
      | ok found =>
        rw [h] at hfound
        rw [← isRecursive_eq_ok h]
        exact hfound

end

/-- Two agent steps that could both run, and room for one. -/
def crowdedStore : WorkflowStore :=
  plainStore [plainRow "a" "agent_step" .pending, plainRow "b" "agent_step" .pending] []

def cappedLease : LeaseRequest := { plainLease with agentExecutor := true, caps := some (1, 1) }

theorem agent_caps_kept_sample :
    (playSteps sampleExternals (fun _ _ _ _ _ => "") crowdedStore
        [.lease cappedLease]).countRunningAgentSteps = 1 ∧
      (playSteps sampleExternals (fun _ _ _ _ _ => "") crowdedStore
        [.lease cappedLease, .lease cappedLease]).countRunningAgentSteps ≤ 1 :=
  ⟨by rfl,
    (agent_caps_kept (by decide) [.lease cappedLease, .lease cappedLease] (by
      intro q hq
      simp only [mem_cons, WorkflowStep.lease.injEq, not_mem_nil, or_false, or_self] at hq
      rw [hq]
      rfl)).1⟩

end Harness
