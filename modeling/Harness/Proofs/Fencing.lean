import Harness.Sanity.WorkflowSteps

/-! Ticks of any number of workers and recoveries of stale leases, in any order. Between the
lease of a node and its settlement anything can happen to the row; only the number of the
attempt tells a settlement whether the row is still its own. -/

namespace Harness

open Lib NodeRow WorkflowStore List Except

/-- One transaction of the tick engine. -/
inductive WorkflowStep where
  | lease (q : LeaseRequest)
  | settle (q : Settlement)
  | recover (q : Recovery)

structure Attempt where
  (runId nodeId : String)
  attempt : ℕ
deriving DecidableEq

variable {e : Attempt}

section

variable (x : Externals) (mint : Mint)

/-- The store after a transaction and the attempt it started. A transaction that fails
leaves the store as it was. -/
def WorkflowStep.take (s : WorkflowStore) : WorkflowStep → WorkflowStore × Option Attempt
  | .lease q =>
    match s.leasePhase x mint q with
    | .ok (.leased nodeId _ attempt, s') => (s', some ⟨q.runId, nodeId, attempt⟩)
    | .ok (_, s') => (s', none)
    | .error _ => (s, none)
  | .settle q => ((s.settlePhase x mint q).toOption.getD s, none)
  | .recover q => ((s.recoverStaleLeases x mint q).toOption.getD s, none)

def playSteps (s : WorkflowStore) : List WorkflowStep → WorkflowStore
  | [] => s
  | step :: steps => playSteps (step.take x mint s).1 steps

def startedAttempts (s : WorkflowStore) : List WorkflowStep → List Attempt
  | [] => []
  | step :: steps =>
    let (s', started) := step.take x mint s
    started.toList ++ startedAttempts s' steps

/-- The attempts that run in `s` and do not in `s'`. -/
def departed (s s' : WorkflowStore) : List Attempt :=
  (s.nodes.rows.filter fun r => r.status = .running &&
    (s'.find? r.runId r.nodeId).all fun r' =>
      !(r'.status = .running && r'.attemptCount = r.attemptCount)).map
    fun r => ⟨r.runId, r.nodeId, r.attemptCount⟩

/-- The attempts that left `running` along a run of transactions, in order. -/
def departures (s : WorkflowStore) : List WorkflowStep → List Attempt
  | [] => []
  | step :: steps =>
    let s' := (step.take x mint s).1
    departed s s' ++ departures s' steps

end

variable {x : Externals} {mint : Mint}
  {s s' : WorkflowStore}

/-- Carried over, or started anew. -/
inductive NodeRow.Forward (r r' : NodeRow) : Prop
  | carried (h : Carried r r')
  | started (hrun : r'.runId = r.runId) (hnode : r'.nodeId = r.nodeId)
      (hattempt : r'.attemptCount = r.attemptCount + 1) (hpending : r.status = .pending)

lemma NodeRow.Forward.key {r r' : NodeRow} (h : Forward r r') : r'.key = r.key := by
  cases h with
  | carried h => exact h.toSameAttempt.key
  | started hrun hnode _ _ =>
    unfold NodeRow.key
    rw [hrun, hnode]

lemma forward_of_carried (h : s.nodes.Rel Carried s'.nodes) : s.nodes.Rel Forward s'.nodes :=
  h.mono fun _ _ h => .carried h

lemma forward_leasePhase {q : LeaseRequest} {result : LeaseResult}
    (h : s.leasePhase x mint q = .ok (result, s')) : s.nodes.Rel Forward s'.nodes := by
  rcases lease_rows h with ⟨-, hsw, -⟩ | ⟨r, hr, hready, -, hnodes, -, -⟩
  · exact forward_of_carried (hsw.rows.mono fun _ _ h => h.carried)
  · rw [hnodes]
    refine Table.Rel.of_modify rfl (fun r => .carried (.refl r)) fun a ha => ?_
    cases ha.symm.trans hr
    exact .started rfl rfl rfl (pending_of_isReady hready)

variable (x mint) in
/-- A transaction leaves the store as it was, or is one of the three. -/
lemma WorkflowStep.take_cases (s : WorkflowStore) (step : WorkflowStep) :
    (step.take x mint s).1 = s ∨
      (∃ q result, step = .lease q ∧ s.leasePhase x mint q = .ok (result, (step.take x mint s).1)) ∨
      (∃ q, step = .settle q ∧ s.settlePhase x mint q = .ok (step.take x mint s).1) ∨
      ∃ q, step = .recover q ∧ s.recoverStaleLeases x mint q = .ok (step.take x mint s).1 := by
  cases step with
  | lease q =>
    cases h : s.leasePhase x mint q with
    | error reason => exact .inl (by simp [WorkflowStep.take, h])
    | ok outcome =>
      obtain ⟨result, s'⟩ := outcome
      refine .inr (.inl ⟨q, result, rfl, ?_⟩)
      cases result <;> simp only [WorkflowStep.take, h]
  | settle q =>
    cases h : s.settlePhase x mint q with
    | error reason => exact .inl (by simp [WorkflowStep.take, h, Except.toOption])
    | ok s' => exact .inr (.inr (.inl ⟨q, rfl, by simp [WorkflowStep.take, h, Except.toOption]⟩))
  | recover q =>
    cases h : s.recoverStaleLeases x mint q with
    | error reason => exact .inl (by simp [WorkflowStep.take, h, Except.toOption])
    | ok s' => exact .inr (.inr (.inr ⟨q, rfl, by simp [WorkflowStep.take, h, Except.toOption]⟩))

variable {steps : List WorkflowStep} {step : WorkflowStep}

lemma forward_take : s.nodes.Rel Forward (step.take x mint s).1.nodes := by
  rcases step.take_cases x mint s with
    h | ⟨q, result, -, h⟩ | ⟨q, -, h⟩ | ⟨q, -, h⟩
  · rw [h]
    exact .refl (fun r => .carried (.refl r)) _
  · exact forward_leasePhase h
  · exact forward_of_carried (carried_settlePhase h)
  · exact forward_of_carried (carried_recoverStaleLeases h)

lemma inSync_take (hsync : InSync s) : InSync (step.take x mint s).1 := by
  rcases step.take_cases x mint s with
    h | ⟨q, result, -, h⟩ | ⟨q, -, h⟩ | ⟨q, -, h⟩
  · rw [h]
    exact hsync
  · exact inSync_leasePhase hsync h
  · exact inSync_settlePhase hsync h
  · exact inSync_recoverStaleLeases hsync h

/-- What a lease started is the next attempt at a row that was waiting. -/
lemma started_take (h : (step.take x mint s).2 = some e) :
    ∃ r, s.find? e.runId e.nodeId = some r ∧ r.status = .pending ∧ e.attempt = r.attemptCount + 1 ∧
      ∃ r', (step.take x mint s).1.find? e.runId e.nodeId = some r' ∧
        r'.attemptCount = e.attempt := by
  cases step with
  | settle q => cases h
  | recover q => cases h
  | lease q =>
    cases hlease : s.leasePhase x mint q with
    | error reason => simp [WorkflowStep.take, hlease] at h
    | ok outcome =>
      obtain ⟨result, s'⟩ := outcome
      rcases lease_rows hlease with ⟨hnone, -⟩ | ⟨r, hr, hready, rfl, hnodes, -, -⟩
      · cases result with
        | terminal status => simp [WorkflowStep.take, hlease] at h
        | noReadyNode => simp [WorkflowStep.take, hlease] at h
        | leased nodeId taskType attempt => exact absurd rfl (hnone nodeId taskType attempt)
      · have htake : (WorkflowStep.lease q).take x mint s =
            (s', some ⟨q.runId, r.nodeId, r.attemptCount + 1⟩) := by
          simp [WorkflowStep.take, hlease]
        rw [htake] at h ⊢
        cases h
        refine ⟨r, hr, pending_of_isReady hready, rfl, { r with
          status := .running, leasedAt := some q.now, attemptCount := r.attemptCount + 1 }, ?_, rfl⟩
        change s'.nodes.find? (toLex (q.runId, r.nodeId)) = _
        rw [hnodes]
        change (leasedStore s q r.nodeId).find? q.runId r.nodeId = _
        unfold leasedStore
        rw [find?_modifyNode, if_pos ⟨rfl, rfl⟩, hr]
        rfl

variable (x mint) in
lemma inSync_playSteps (hsync : InSync s) (steps : List WorkflowStep) :
    InSync (playSteps x mint s steps) := by
  induction steps generalizing s with
  | nil => exact hsync
  | cons step steps ih => exact ih (inSync_take hsync)

/-- The node has come as far as this attempt. -/
def Reached (s : WorkflowStore) (e : Attempt) : Prop :=
  ∃ r, s.find? e.runId e.nodeId = some r ∧ e.attempt ≤ r.attemptCount

lemma Reached.take (h : Reached s e) (step : WorkflowStep) : Reached (step.take x mint s).1 e := by
  obtain ⟨r, hr, hle⟩ := h
  obtain ⟨r', hr', hf⟩ := forward_take.find?_some' (fun _ _ h => h.key) hr
  refine ⟨r', hr', ?_⟩
  cases hf with
  | carried h => exact hle.trans_eq h.attempt.symm
  | started _ _ hattempt _ =>
    rw [hattempt]
    exact Nat.le_succ_of_le hle

/-- An attempt a node has come to is not started again. -/
lemma Reached.notMem_started (h : Reached s e) : e ∉ startedAttempts x mint s steps := by
  induction steps generalizing s with
  | nil => exact not_mem_nil
  | cons step steps ih =>
    intro hmem
    rcases mem_append.mp hmem with hnow | hlater
    · obtain ⟨r, hr, hle⟩ := h
      obtain ⟨r', hr', -, hattempt, -⟩ := started_take (Option.mem_toList.mp hnow)
      cases hr.symm.trans hr'
      omega
    · exact ih (h.take step) hlater

lemma startedAttempts_nodup : (startedAttempts x mint s steps).Nodup := by
  induction steps generalizing s with
  | nil => exact nodup_nil
  | cons step steps ih =>
    unfold startedAttempts
    dsimp only
    refine nodup_append'.mpr ⟨?_, ih, fun e hnow hlater => ?_⟩
    · cases (step.take x mint s).2 with
      | none => exact nodup_nil
      | some e => exact nodup_singleton e
    · obtain ⟨r, -, -, -, r', hr', hattempt⟩ := started_take (Option.mem_toList.mp hnow)
      exact Reached.notMem_started ⟨r', hr', hattempt.ge⟩ hlater

/-- The attempt is over: the node has gone on to another, or does not run. -/
def Left (s : WorkflowStore) (e : Attempt) : Prop :=
  ∃ r, s.find? e.runId e.nodeId = some r ∧
    (e.attempt < r.attemptCount ∨ (e.attempt = r.attemptCount ∧ r.status ≠ .running))

lemma Left.take (h : Left s e) (step : WorkflowStep) : Left (step.take x mint s).1 e := by
  obtain ⟨r, hr, hleft⟩ := h
  obtain ⟨r', hr', hf⟩ := forward_take.find?_some' (fun _ _ h => h.key) hr
  refine ⟨r', hr', ?_⟩
  cases hf with
  | carried h =>
    rw [h.attempt]
    exact hleft.imp id fun hnow => ⟨hnow.1, fun hrun => hnow.2 (h.running hrun)⟩
  | started _ _ hattempt _ =>
    rw [hattempt]
    rcases hleft with hlt | ⟨heq, -⟩
    · exact .inl (Nat.lt_succ_of_lt hlt)
    · exact .inl (heq ▸ Nat.lt_succ_self _)

lemma mem_departed (h : e ∈ departed s s') :
    ∃ r, s.find? e.runId e.nodeId = some r ∧ r.status = .running ∧ r.attemptCount = e.attempt ∧
      ∀ r', s'.find? e.runId e.nodeId = some r' →
        ¬(r'.status = .running ∧ r'.attemptCount = e.attempt) := by
  obtain ⟨r, hr, rfl⟩ := mem_map.mp h
  obtain ⟨hmem, hr⟩ := mem_filter.mp hr
  simp only [Bool.and_eq_true, decide_eq_true_eq] at hr
  refine ⟨r, s.nodes.find?_key hmem, hr.1, rfl, fun r' hr' hstill => ?_⟩
  simp [hr', hstill.1, hstill.2] at hr

lemma departed_nodup : (departed s s').Nodup := by
  refine (s.nodes.keys_nodup.of_map.filter _).map_on fun a ha b hb hab => ?_
  refine s.nodes.eq_of_key_eq (mem_of_mem_filter ha) (mem_of_mem_filter hb) ?_
  obtain ⟨hrun, hnode, -⟩ := Attempt.mk.inj hab
  unfold NodeRow.key
  rw [hrun, hnode]

lemma left_of_departed (h : e ∈ departed s (step.take x mint s).1) :
    Left (step.take x mint s).1 e := by
  obtain ⟨r, hr, hrunning, hattempt, hgone⟩ := mem_departed h
  obtain ⟨r', hr', hf⟩ := forward_take.find?_some' (fun _ _ h => h.key) hr
  refine ⟨r', hr', ?_⟩
  cases hf with
  | carried h =>
    have hsame : r'.attemptCount = e.attempt := h.attempt.trans hattempt
    exact .inr ⟨hsame.symm, fun hrun => hgone r' hr' ⟨hrun, hsame⟩⟩
  | started _ _ _ hpending =>
    rw [hrunning] at hpending
    cases hpending

lemma Left.notMem_departures (h : Left s e) : e ∉ departures x mint s steps := by
  induction steps generalizing s with
  | nil => exact not_mem_nil
  | cons step steps ih =>
    intro hmem
    rcases mem_append.mp hmem with hnow | hlater
    · obtain ⟨r, hr, hleft⟩ := h
      obtain ⟨r', hr', hrunning, hattempt, -⟩ := mem_departed hnow
      cases hr.symm.trans hr'
      rcases hleft with hlt | ⟨-, hne⟩
      · omega
      · exact hne hrunning
    · exact ih (h.take step) hlater

lemma departures_nodup : (departures x mint s steps).Nodup := by
  induction steps generalizing s with
  | nil => exact nodup_nil
  | cons step steps ih =>
    exact nodup_append'.mpr ⟨departed_nodup, ih, fun e hnow hlater =>
      (left_of_departed hnow).notMem_departures hlater⟩

/-- Whatever the transactions and their order: a lease starts the next attempt at a node,
no attempt is started twice, none leaves `running` twice, and the result of an attempt that
is not the one under way leaves the row as it is. -/
theorem leases_fenced (hsync : InSync s) (steps : List WorkflowStep) :
    (∀ q e, ((WorkflowStep.lease q).take x mint
        (playSteps x mint s steps)).2 = some e →
      ∃ r r', (playSteps x mint s steps).find? e.runId e.nodeId = some r ∧
        ((WorkflowStep.lease q).take x mint
          (playSteps x mint s steps)).1.find? e.runId e.nodeId = some r' ∧
        r.attemptCount < r'.attemptCount ∧ r'.attemptCount = e.attempt) ∧
    (startedAttempts x mint s steps).Nodup ∧
    (departures x mint s steps).Nodup ∧
    ∀ q r, (playSteps x mint s steps).find? q.runId q.nodeId = some r →
      (r.status ≠ .running ∨ r.attemptCount ≠ q.attempt) →
      ∃ r', ((WorkflowStep.settle q).take x mint
          (playSteps x mint s steps)).1.find? q.runId q.nodeId = some r' ∧
        r'.status = r.status ∧ r'.leasedAt = r.leasedAt ∧ r'.nodeJson = r.nodeJson := by
  refine ⟨fun q e he => ?_, startedAttempts_nodup, departures_nodup,
    fun q r hr hstale => ⟨r, ?_, rfl, rfl, rfl⟩⟩
  · obtain ⟨r, hr, -, hattempt, r', hr', hsame⟩ := started_take he
    exact ⟨r, r', hr, hr', by omega, hsame⟩
  · have hplayed := inSync_playSteps x mint hsync steps
    rcases (WorkflowStep.settle q).take_cases x mint
      (playSteps x mint s steps) with h | ⟨q', result, hq, -⟩ | ⟨q', hq, h⟩ | ⟨q', hq, -⟩
    · rw [h, hr]
    · cases hq
    · cases hq
      exact settlePhase_stale hplayed h hr hstale
    · cases hq

/-! A lease that goes stale, is recovered and taken again while the first worker is still
at it. -/

def plainMetadata : NodeMetadata where
  recursiveNodeId := .absent
  recursiveRootNodeId := .absent
  status := none
  completedAt := none
  result := none
  productManagedUsage := none
  taskType := none
  agentId := none
  agentObjective := none
  creationReceiptSha256 := none
  authority := none

def plainRow (nodeId taskType : String) (status : NodeStatus) : NodeRow where
  runId := "run-1"
  nodeId := nodeId
  taskType := taskType
  status := status
  attemptCount := 0
  leasedAt := none
  nodeJson := .object plainMetadata

/-- One run with these rows and edges, and no tree. -/
def plainStore (rows : List NodeRow) (edges : List EdgeRow) : WorkflowStore where
  nodes := .ofList rows
  edges := edges
  runs := .ofList [⟨"run-1", "wf-1", .running, none, none⟩]
  trees := .empty

def plainLease : LeaseRequest where
  runId := "run-1"
  agentExecutor := false
  caps := none
  expectedOwner := none
  env := sampleEnv
  now := "10:00"

def plainSettlement (nodeId : String) (attempt : ℕ) (status : String) : Settlement where
  runId := "run-1"
  nodeId := nodeId
  attempt := attempt
  maxRetries := 0
  output := ⟨status, "", true, .error "", none⟩
  env := sampleEnv
  now := "10:05"

def plainRecovery : Recovery where
  env := sampleEnv
  now := "10:04"
  expired := fun _ => true

lemma inSync_plainStore {rows : List NodeRow} {edges : List EdgeRow} :
    InSync (plainStore rows edges) := by
  intro runId t ht
  cases ht

def fencedSteps : List WorkflowStep :=
  [.lease plainLease, .recover plainRecovery, .lease plainLease,
    .settle (plainSettlement "a" 1 "completed")]

theorem leases_fenced_sample :
    startedAttempts sampleExternals (fun _ _ _ _ _ => "")
      (plainStore [plainRow "a" "unit" .pending] [])
        fencedSteps = [⟨"run-1", "a", 1⟩, ⟨"run-1", "a", 2⟩] ∧
      ((playSteps sampleExternals (fun _ _ _ _ _ => "")
      (plainStore [plainRow "a" "unit" .pending] [])
        fencedSteps).find? "run-1" "a").map (fun r => (r.status, r.attemptCount)) =
        some (.running, 2) ∧
      (departures sampleExternals (fun _ _ _ _ _ => "")
        (plainStore [plainRow "a" "unit" .pending] [])
        (fencedSteps ++ [.settle (plainSettlement "a" 2 "completed")])).Nodup :=
  ⟨by rfl, by rfl,
    (leases_fenced inSync_plainStore
      (fencedSteps ++ [.settle (plainSettlement "a" 2 "completed")])).2.2.1⟩

end Harness
