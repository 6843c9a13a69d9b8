import Harness.Lib.Trace
import Harness.Proofs.SchedulerTick
import Harness.Sanity.PauseReasons

/-! Backpressure over many calls of the scheduler. Every call builds its controller anew, so what
it decides depends on what it observes itself: nothing is known of an earlier activation, of the
runs that were paused or of when that was. The pauses are in the store, and no call takes one
back. -/

namespace Harness

open List Option

open Lib WorkflowStore

variable {x : Externals} {mint : Mint}
  {D : Type} {d : Doubles D} {cfg : SchedulerConfig D} {w : SchedulerWorld}
  {s s' : WorkflowStore} {runId : String}

/-- The store in which the runs are listed, if the recoveries before that succeed. -/
def observedStore (x : Externals)
    (mint : Mint)
    (cfg : SchedulerConfig D) (w : SchedulerWorld) (s : WorkflowStore) : Option WorkflowStore :=
  match w.recoverEvidence s with
  | (.error _, _) => none
  | (.ok (), s) => (s.recoverStaleLeases x mint
      ⟨w.env, w.now, w.leaseExpired cfg.leaseTimeoutMs⟩).toOption

section Load

variable (d : Doubles D) (cfg : SchedulerConfig D) (queue : RunQueue)

def poolUtilization : D := d.ratio queue.activeRuns.length (max cfg.maxConcurrent 1)

def queueDepthRatio : D :=
  if 0 < cfg.maxQueued then d.ratio queue.queueDepth cfg.maxQueued else d.ratio 0 1

def overloaded : Bool :=
  d.lt cfg.backpressureActivation (poolUtilization d cfg queue) ||
    d.lt cfg.backpressureActivation (queueDepthRatio d cfg queue)

/-- Both are below the threshold of deactivation. -/
def relaxed : Bool :=
  d.lt (poolUtilization d cfg queue) (d.ratio 1 2) && d.lt (queueDepthRatio d cfg queue) (d.ratio 1 2)

end Load

section Decision

variable (hqueue : cfg.queueEnabled = true) (hbackpressure : cfg.backpressureEnabled = true)
include hqueue hbackpressure

variable {overdue : Option (List String)} {queue : RunQueue}

lemma decision_relieved (h : overloaded d cfg queue = false) :
    backpressureDecision d cfg w queue overdue = Backpressure.idle := by
  unfold overloaded poolUtilization queueDepthRatio at h
  unfold backpressureDecision Backpressure.evaluate Backpressure.new
  simp [hqueue, hbackpressure, h]

lemma decision_overloaded (h : overloaded d cfg queue = true) :
    (backpressureDecision d cfg w queue overdue).active = true ∧ ∀ ids, overdue = some ids →
      (backpressureDecision d cfg w queue overdue).runsToPause = ids.take 10 := by
  unfold overloaded poolUtilization queueDepthRatio at h
  unfold backpressureDecision Backpressure.evaluate Backpressure.new
  simp only [hqueue, hbackpressure, h, Bool.and_self, if_true, Bool.not_true, Bool.false_eq_true,
    if_false, Bool.not_false]
  refine ⟨trivial, ?_⟩
  rintro ids rfl
  change ids.take (min ids.length 10) = ids.take 10
  rw [take_eq_take_iff]
  omega

end Decision

def WorkflowStore.carries (s : WorkflowStore) (runId : String) : Bool :=
  s.pauseReasonOf runId = some "backpressure"

/-- The runs that a call pauses: of the first ten overdue ones, those before the first that a
budget decision holds. -/
def runsPausedBy (x : Externals)
    (mint : Mint) (d : Doubles D)
    (cfg : SchedulerConfig D) (w : SchedulerWorld) (s : WorkflowStore) : List String :=
  match observedStore x mint cfg w s with
  | none => []
  | some s =>
    let queue := runQueue cfg w s
    if !dynamicWorkflowEnabled cfg w && overloaded d cfg queue then
      ((overdueRuns w s queue.activeRuns).take 10).takeWhile fun runId => !w.budgetPaused runId
    else []

def pausedStore (s : WorkflowStore) (runId : String) : WorkflowStore :=
  { s with runs := s.runs.modify runId fun r => { r with pauseReason := some "backpressure" } }

variable {runs : List String} {r : RunRecord} {st : SchedulerState D} {runId' : String}
  {budgetPaused : String → Bool}

lemma find?_pausedStore :
    (pausedStore s runId).runs.find? runId' = if runId' = runId then
      (s.runs.find? runId').map fun r => { r with pauseReason := some "backpressure" }
    else s.runs.find? runId' := by
  unfold pausedStore
  rw [Table.find?_modify]

lemma updateRunPauseReason_active (hr : s.runs.find? runId = some r)
    (hfree : r.pauseReason ≠ some apiOwnedSupervisedPatch) :
    s.updateRunPauseReason budgetPaused runId (some "backpressure") =
      if budgetPaused runId then
        .error "active budget auto-pause requires explicit audited recovery"
      else .ok (pausedStore s runId) := by
  have howner : requireRunExecutionOwner runId r.pauseReason none = .ok () := by
    rw [requireRunExecutionOwner, if_neg hfree]
    rfl
  unfold updateRunPauseReason
  rw [hr]
  dsimp only
  rw [howner]
  cases budgetPaused runId <;> rfl

lemma carries_pausedStore {id : String} (hr : s.runs.find? id = some r) :
    (pausedStore s id).carries runId = (s.carries runId || decide (runId = id)) := by
  unfold carries pauseReasonOf
  rw [find?_pausedStore]
  by_cases hid : runId = id
  · simp [hid, hr]
  · simp [hid]

/-- The loop pauses up to the first run that it is refused. -/
lemma carries_pauseRuns {ids : List String}
    (h : ∀ id ∈ ids, ∃ r, s.runs.find? id = some r ∧ r.pauseReason ≠ some apiOwnedSupervisedPatch) :
    (s.pauseRuns budgetPaused ids).2.carries runId =
      (s.carries runId || decide (runId ∈ ids.takeWhile fun id => !budgetPaused id)) := by
  induction ids generalizing s with
  | nil => simp [pauseRuns]
  | cons id ids ih =>
    obtain ⟨r, hr, hfree⟩ := h id mem_cons_self
    unfold pauseRuns
    rw [updateRunPauseReason_active hr hfree]
    cases hbudget : budgetPaused id with
    | true => simp [hbudget]
    | false =>
      have hrest : ∀ id' ∈ ids, ∃ r, (pausedStore s id).runs.find? id' = some r ∧
          r.pauseReason ≠ some apiOwnedSupervisedPatch := by
        intro id' hid'
        obtain ⟨r', hr', hfree'⟩ := h id' (mem_cons_of_mem id hid')
        rw [find?_pausedStore, hr']
        split_ifs
        · exact ⟨_, rfl, fun heq => absurd (some.inj heq) (by decide)⟩
        · exact ⟨r', rfl, hfree'⟩
      simp only [Bool.false_eq_true, if_false]
      rw [ih hrest, carries_pausedStore hr]
      simp [hbudget, Bool.or_assoc]

lemma mem_activeRuns (h : runId ∈ (runQueue cfg w s).activeRuns) :
    ∃ r, s.runs.find? runId = some r ∧ r.pauseReason = none := by
  unfold runQueue at h
  split_ifs at h
  · obtain ⟨r, hr, rfl⟩ := mem_map.mp h
    obtain ⟨hr, hnone⟩ := mem_filter.mp hr
    have hr := (mem_filter.mp ((mem_insertionSort _).mp hr)).1
    exact ⟨r, s.runs.find?_key hr, isNone_iff_eq_none.mp hnone⟩
  · obtain ⟨r, hr, rfl⟩ := mem_map.mp h
    obtain ⟨hr, hnone⟩ := mem_filter.mp ((mem_insertionSort _).mp hr)
    rw [Bool.and_eq_true] at hnone
    exact ⟨r, s.runs.find?_key hr, isNone_iff_eq_none.mp hnone.2⟩

lemma nodup_runsPausedBy : (runsPausedBy x mint d cfg w s).Nodup := by
  unfold runsPausedBy
  split
  · exact nodup_nil
  · next s' hs' =>
    dsimp only
    split_ifs
    · refine (@nodup_activeRuns D cfg w s').sublist ?_
      exact (takeWhile_sublist _).trans ((take_sublist _ _).trans filter_sublist)
    · exact nodup_nil

/-- What is not modelled of a call leaves the pauses alone. -/
structure KeepsPauses (w : SchedulerWorld) : Prop where
  evidence : ∀ s runId, (w.recoverEvidence s).2.carries runId = s.carries runId
  controller : ∀ s runId executor runId',
    (w.controller s runId executor).store.carries runId' = s.carries runId'

lemma carries_congr (h : s'.pauseReasonOf runId = s.pauseReasonOf runId) :
    s'.carries runId = s.carries runId := by
  unfold carries
  rw [h]

lemma pauseReasonOf_tickWithExecutor {executor : String} :
    (tickWithExecutor x mint cfg w s runId executor).store.pauseReasonOf runId' =
      s.pauseReasonOf runId' := by
  unfold tickWithExecutor
  split
  · rfl
  · next h => exact (WritesStatus.leasePhase h).pause _
  · next h => exact (WritesStatus.leasePhase h).pause _
  · next h =>
    dsimp only
    split
    · exact (WritesStatus.leasePhase h).pause _
    · next hsettle =>
      obtain ⟨output, -, hsettle⟩ := bind_ok hsettle
      obtain ⟨action, -, hsettle⟩ := bind_ok hsettle
      obtain ⟨settled, hsettled, hsettle⟩ := bind_ok hsettle
      cases hsettle
      exact ((WritesStatus.settlePhase hsettled).pause _).trans ((WritesStatus.leasePhase h).pause _)

lemma pauseReasonOf_foldl_tickRun :
    (runs.foldl (tickRun x mint d cfg w) st).store.pauseReasonOf runId =
      st.store.pauseReasonOf runId := by
  induction runs generalizing st with
  | nil => rfl
  | cons run runs ih =>
    rw [foldl_cons, ih]
    unfold tickRun
    split
    · rfl
    · exact pauseReasonOf_tickWithExecutor

lemma carries_dynamicTickRun (hkeeps : KeepsPauses w) (st : SchedulerState D)
    (runId runId' : String) :
    (dynamicTickRun d cfg w st runId).2.store.carries runId' = st.store.carries runId' := by
  unfold dynamicTickRun
  split
  · rfl
  · dsimp only
    split
    · exact hkeeps.controller _ _ _ _
    · exact hkeeps.controller _ _ _ _

lemma carries_dynamicLoop (hkeeps : KeepsPauses w) {st' : SchedulerState D}
    {result : Except String Unit} (h : dynamicLoop d cfg w st runs = (result, st')) :
    st'.store.carries runId = st.store.carries runId := by
  induction runs generalizing st with
  | nil =>
    cases h
    rfl
  | cons run runs ih =>
    have hturn := @carries_dynamicTickRun D d cfg w hkeeps st run runId
    unfold dynamicLoop at h
    split at h
    · next hstep =>
      cases h
      rw [hstep] at hturn
      exact hturn
    · next hstep =>
      rw [hstep] at hturn
      exact (ih h).trans hturn

variable (d cfg w s) in
/-- What a call decides in the store that it observes. -/
def decisionOf : BackpressureDecision :=
  backpressureDecision d cfg w (runQueue cfg w s) (if dynamicWorkflowEnabled cfg w then none
    else some (overdueRuns w s (runQueue cfg w s).activeRuns))

lemma prepare_cases (d : Doubles D) :
    (observedStore x mint cfg w s = none ∧
        ∃ reason, prepare x mint d cfg w s = (.error reason, (w.recoverEvidence s).2)) ∨
      ∃ s₁, observedStore x mint cfg w s = some s₁ ∧ s₁.runs = (w.recoverEvidence s).2.runs ∧
        prepare x mint d cfg w s =
          (.ok ⟨(s₁.pauseRuns w.budgetPaused (decisionOf d cfg w s₁).runsToPause).2,
                runQueue cfg w s₁, decisionOf d cfg w s₁,
                (s₁.pauseRuns w.budgetPaused (decisionOf d cfg w s₁).runsToPause).1⟩,
            (s₁.pauseRuns w.budgetPaused (decisionOf d cfg w s₁).runsToPause).2) := by
  unfold prepare observedStore
  cases hrecover : w.recoverEvidence s with
  | mk result s₀ =>
    cases result with
    | error reason => exact .inl ⟨rfl, reason, rfl⟩
    | ok u =>
      dsimp only
      cases hstale : s₀.recoverStaleLeases x mint
          ⟨w.env, w.now, w.leaseExpired cfg.leaseTimeoutMs⟩ with
      | error reason => exact .inl ⟨rfl, reason, rfl⟩
      | ok s₁ => exact .inr ⟨s₁, rfl, runs_recoverStaleLeases hstale, rfl⟩

section Calls

variable (hqueue : cfg.queueEnabled = true) (hbackpressure : cfg.backpressureEnabled = true)
include hqueue hbackpressure

lemma decisionOf_active : (decisionOf d cfg w s).active = overloaded d cfg (runQueue cfg w s) := by
  unfold decisionOf
  cases hload : overloaded d cfg (runQueue cfg w s) with
  | true => exact (decision_overloaded hqueue hbackpressure hload).1
  | false => rw [decision_relieved hqueue hbackpressure hload]; rfl

lemma decisionOf_runsToPause :
    (decisionOf d cfg w s).runsToPause =
      if !dynamicWorkflowEnabled cfg w && overloaded d cfg (runQueue cfg w s) then
        (overdueRuns w s (runQueue cfg w s).activeRuns).take 10
      else [] := by
  unfold decisionOf
  cases hmode : dynamicWorkflowEnabled cfg w with
  | true => exact runsToPause_of_none
  | false =>
    cases hload : overloaded d cfg (runQueue cfg w s) with
    | true => exact (decision_overloaded hqueue hbackpressure hload).2 _ rfl
    | false => rw [decision_relieved hqueue hbackpressure hload]; rfl

lemma carries_prepare (hkeeps : KeepsPauses w) :
    (prepare x mint d cfg w s).2.carries runId =
      (s.carries runId || decide (runId ∈ runsPausedBy x mint d cfg w s)) := by
  have hevidence := hkeeps.evidence s runId
  unfold runsPausedBy
  rcases prepare_cases d with
    ⟨hnone, reason, hprepare⟩ | ⟨s₁, hsome, hruns, hprepare⟩
  · rw [hprepare, hnone]
    simpa using hevidence
  · rw [hprepare, hsome]
    have hsame : s₁.carries runId = s.carries runId := by
      rw [← hevidence]
      exact carries_congr (pauseReasonOf_congr hruns)
    rw [carries_pauseRuns, hsame, decisionOf_runsToPause hqueue hbackpressure]
    · dsimp only
      split_ifs <;> rfl
    · intro id hid
      rw [decisionOf_runsToPause hqueue hbackpressure] at hid
      split_ifs at hid
      · obtain ⟨r, hr, hnone⟩ := mem_activeRuns (mem_filter.mp (mem_of_mem_take hid)).1
        refine ⟨r, hr, ?_⟩
        rw [hnone]
        exact nofun
      · cases hid

/-- A call adds the runs that it pauses, and takes no pause back. -/
lemma carries_call {c : SchedulerCall} (hkeeps : KeepsPauses c.world)
    {st : WorkflowStore × ExecutorPool D} :
    (afterCall x mint d cfg st c).1.carries runId =
      (st.1.carries runId || decide (runId ∈ runsPausedBy x mint d cfg c.world st.1)) := by
  rw [← carries_prepare hqueue hbackpressure hkeeps]
  unfold afterCall schedulerTickWithLimit
  rcases prepare_cases d with
    ⟨-, reason, hprepare⟩ | ⟨s₁, -, -, hprepare⟩
  · rw [hprepare]
  · rw [hprepare]
    dsimp only
    split
    · rfl
    · split_ifs
      · split
        · next hloop => exact carries_dynamicLoop hkeeps hloop
        · next hloop => exact carries_dynamicLoop hkeeps hloop
      · exact carries_congr pauseReasonOf_foldl_tickRun

omit hqueue hbackpressure in
lemma runsPausedBy_free (hkeeps : KeepsPauses w)
    (h : runId ∈ runsPausedBy x mint d cfg w s) : s.carries runId = false := by
  unfold runsPausedBy at h
  rw [← hkeeps.evidence]
  rcases prepare_cases d with
    ⟨hnone, -⟩ | ⟨s₁, hsome, hruns, -⟩
  · rw [hnone] at h
    cases h
  · rw [hsome] at h
    dsimp only at h
    split_ifs at h
    · have hmem := mem_of_mem_take ((takeWhile_sublist _).subset h)
      obtain ⟨r, hr, hnone⟩ := mem_activeRuns (mem_filter.mp hmem).1
      rw [hruns] at hr
      unfold carries pauseReasonOf
      rw [hr]
      simp [hnone]
    · cases h

end Calls

/-- The runs that carry the pause in the second store and not in the first. -/
def newlyPaused (s s' : WorkflowStore) : List String :=
  (s'.runs.rows.map RunRecord.runId).filter fun runId => s'.carries runId && !s.carries runId

lemma mem_newlyPaused :
    runId ∈ newlyPaused s s' ↔ s'.carries runId = true ∧ s.carries runId = false := by
  unfold newlyPaused
  rw [mem_filter, Bool.and_eq_true, Bool.not_eq_true']
  refine ⟨And.right, fun h => ⟨?_, h⟩⟩
  have hcarries := of_decide_eq_true h.1
  obtain ⟨r, hr, -⟩ := bind_eq_some_iff.mp hcarries
  exact mem_map.mpr ⟨r, Table.mem_of_find? hr, Table.key_of_find? hr⟩

lemma newlyPaused_call (hqueue : cfg.queueEnabled = true)
    (hbackpressure : cfg.backpressureEnabled = true) {c : SchedulerCall}
    (hkeeps : KeepsPauses c.world) {st : WorkflowStore × ExecutorPool D} :
    (newlyPaused st.1 (afterCall x mint d cfg st c).1).Perm
      (runsPausedBy x mint d cfg c.world st.1) := by
  have hnodup : (newlyPaused st.1 (afterCall x mint d cfg st c).1).Nodup :=
    (Table.keys_nodup _).sublist filter_sublist
  refine (perm_ext_iff_of_nodup hnodup nodup_runsPausedBy).mpr fun runId => ?_
  rw [mem_newlyPaused, carries_call hqueue hbackpressure hkeeps, Bool.or_eq_true, decide_eq_true_eq]
  constructor
  · rintro ⟨hbefore | hpaused, hfree⟩
    · rw [hfree] at hbefore
      cases hbefore
    · exact hpaused
  · intro hpaused
    exact ⟨.inr hpaused, runsPausedBy_free hkeeps hpaused⟩

section Sequences

variable (x : Externals) (mint : Mint)
  (d : Doubles D) (cfg : SchedulerConfig D) (st : WorkflowStore × ExecutorPool D)
  (calls : List SchedulerCall)

/-- The store before the call of this number. -/
def storeAt (n : ℕ) : WorkflowStore := (afterCalls x mint d cfg st (calls.take n)).1

/-- The call of this number gets as far as its listing of the runs. -/
def ObservesAt (n : ℕ) (c : SchedulerCall) (s : WorkflowStore) : Prop :=
  calls[n]? = some c ∧
    observedStore x mint cfg c.world (storeAt x mint d cfg st calls n) = some s

def OverloadedAt (n : ℕ) : Prop := ∃ c s, ObservesAt x mint d cfg st calls n c s ∧
  overloaded d cfg (runQueue cfg c.world s) = true

def RelaxedAt (n : ℕ) : Prop := ∃ c s, ObservesAt x mint d cfg st calls n c s ∧
  relaxed d cfg (runQueue cfg c.world s) = true

/-- The call of this number finds backpressure active. -/
def ActiveAt (n : ℕ) : Prop := ∃ c p s, calls[n]? = some c ∧
  prepare x mint d cfg c.world (storeAt x mint d cfg st calls n) = (.ok p, s) ∧
  p.decision.active = true

/-- The runs that the call of this number has paused. -/
def pausesAt (n : ℕ) : List String :=
  newlyPaused (storeAt x mint d cfg st calls n)
    (storeAt x mint d cfg st calls (n + 1))

/-- The runs that are due for a pause in the call of this number. -/
def dueAt (n : ℕ) : List String :=
  (calls[n]?).elim [] fun c => runsPausedBy x mint d cfg c.world
    (storeAt x mint d cfg st calls n)

/-- The call of this number is made in the cooldown window from this time on. -/
def inWindow (t n : ℕ) : Bool :=
  (calls[n]?).any fun c => t ≤ c.world.nowMs && c.world.nowMs < t + 60000

variable {x mint d cfg st calls}

variable {n : ℕ}

lemma storeAt_succ {c : SchedulerCall} (h : calls[n]? = some c) :
    storeAt x mint d cfg st calls (n + 1) =
      (afterCall x mint d cfg (afterCalls x mint d cfg st (calls.take n)) c).1 := by
  unfold storeAt afterCalls
  rw [foldl_take_succ h]

lemma storeAt_succ_none (h : calls[n]? = none) :
    storeAt x mint d cfg st calls (n + 1) = storeAt x mint d cfg st calls n := by
  unfold storeAt
  rw [take_succ_eq_take h]

variable (hqueue : cfg.queueEnabled = true) (hbackpressure : cfg.backpressureEnabled = true)
  (hkeeps : ∀ c ∈ calls, KeepsPauses c.world)
include hqueue hbackpressure

lemma activeAt_iff : ActiveAt x mint d cfg st calls n ↔ OverloadedAt x mint d cfg st calls n := by
  constructor
  · rintro ⟨c, p, s, hcall, hprepare, hactive⟩
    rcases prepare_cases d
      with ⟨-, reason, herror⟩ | ⟨s₁, hsome, -, hok⟩
    · rw [herror] at hprepare
      cases hprepare
    · rw [hok] at hprepare
      cases hprepare
      rw [decisionOf_active hqueue hbackpressure] at hactive
      exact ⟨c, s₁, ⟨hcall, hsome⟩, hactive⟩
  · rintro ⟨c, s₁, ⟨hcall, hsome⟩, hload⟩
    rcases prepare_cases d
      with ⟨hnone, -⟩ | ⟨s₂, hsome', -, hok⟩
    · rw [hnone] at hsome
      cases hsome
    · cases hsome.symm.trans hsome'
      refine ⟨c, _, _, hcall, hok, ?_⟩
      rw [decisionOf_active hqueue hbackpressure]
      exact hload

include hkeeps

lemma pausesAt_perm : (pausesAt x mint d cfg st calls n).Perm (dueAt x mint d cfg st calls n) := by
  unfold pausesAt dueAt
  cases hcall : calls[n]? with
  | none =>
    rw [storeAt_succ_none hcall]
    refine List.Perm.of_eq (eq_nil_iff_forall_not_mem.mpr fun runId hmem => ?_)
    obtain ⟨hcarries, hfree⟩ := mem_newlyPaused.mp hmem
    rw [hfree] at hcarries
    cases hcarries
  | some c =>
    rw [storeAt_succ hcall]
    exact newlyPaused_call hqueue hbackpressure (hkeeps c (mem_of_getElem? hcall))

lemma carries_storeAt_mono {m : ℕ} (hmn : m ≤ n)
    (h : (storeAt x mint d cfg st calls m).carries runId = true) :
    (storeAt x mint d cfg st calls n).carries runId = true := by
  induction n, hmn using Nat.le_induction with
  | base => exact h
  | succ n hmn ih =>
    cases hcall : calls[n]? with
    | none =>
      rw [storeAt_succ_none hcall]
      exact ih
    | some c =>
      rw [storeAt_succ hcall, carries_call hqueue hbackpressure
        (hkeeps c (mem_of_getElem? hcall)), Bool.or_eq_true]
      exact .inl ih

/-- Over any sequence of calls: every pause is over after a call that finds the load below the
threshold and the cooldown elapsed, just in case no run was due for a pause in an earlier call. -/
theorem pauses_temporary_iff :
    (∀ m n cm cn, m < n → calls[m]? = some cm → calls[n]? = some cn →
        RelaxedAt x mint d cfg st calls n → cm.world.nowMs + 60000 ≤ cn.world.nowMs →
        ∀ runId ∈ pausesAt x mint d cfg st calls m,
          (storeAt x mint d cfg st calls (n + 1)).carries runId = false) ↔
      ∀ m n cm cn, m < n → calls[m]? = some cm → calls[n]? = some cn →
        RelaxedAt x mint d cfg st calls n → cm.world.nowMs + 60000 ≤ cn.world.nowMs →
        dueAt x mint d cfg st calls m = [] := by
  constructor
  · intro htemporary m n cm cn hmn hcm hcn hrelaxed hcooldown
    refine eq_nil_iff_forall_not_mem.mpr fun runId hdue => ?_
    have hpaused := (pausesAt_perm hqueue hbackpressure hkeeps).mem_iff.mpr hdue
    have hover := htemporary m n cm cn hmn hcm hcn hrelaxed hcooldown runId hpaused
    have hcarries := carries_storeAt_mono hqueue hbackpressure hkeeps
      (Nat.succ_le_succ (Nat.le_of_lt hmn)) (mem_newlyPaused.mp hpaused).1
    rw [hover] at hcarries
    cases hcarries
  · intro hnone m n cm cn hmn hcm hcn hrelaxed hcooldown runId hpaused
    have hdue := (pausesAt_perm hqueue hbackpressure hkeeps).mem_iff.mp hpaused
    rw [hnone m n cm cn hmn hcm hcn hrelaxed hcooldown] at hdue
    cases hdue

/-- Over any sequence of calls: backpressure that is active stays so up to a call that finds the
load below the threshold, and all calls of a cooldown window together pause at most ten runs, just
in case the load itself stays above the threshold of activation that long and no more than ten runs
are due for a pause in a window. -/
theorem backpressure_carries_over_iff :
    ((∀ m n, m ≤ n → ActiveAt x mint d cfg st calls m →
          (∀ k, m < k → k ≤ n → ¬RelaxedAt x mint d cfg st calls k) →
          (∃ c s, ObservesAt x mint d cfg st calls n c s) →
          ActiveAt x mint d cfg st calls n) ∧
        ∀ t, (((List.range calls.length).filter (inWindow calls t)).map fun n =>
          (pausesAt x mint d cfg st calls n).length).sum ≤ 10) ↔
      (∀ m n, m ≤ n → OverloadedAt x mint d cfg st calls m →
          (∀ k, m < k → k ≤ n → ¬RelaxedAt x mint d cfg st calls k) →
          (∃ c s, ObservesAt x mint d cfg st calls n c s) →
          OverloadedAt x mint d cfg st calls n) ∧
        ∀ t, (((List.range calls.length).filter (inWindow calls t)).map fun n =>
          (dueAt x mint d cfg st calls n).length).sum ≤ 10 := by
  have hlengths : (fun n => (pausesAt x mint d cfg st calls n).length) =
      fun n => (dueAt x mint d cfg st calls n).length :=
    funext fun n => (pausesAt_perm hqueue hbackpressure hkeeps).length_eq
  rw [hlengths]
  simp [activeAt_iff hqueue hbackpressure]

end Sequences

/-! Small sequences: calls with a limit of one, at these times. -/

def smallCalls (longAgo : Bool) (times : List ℕ) : List SchedulerCall :=
  times.map fun nowMs => ⟨{ smallWorld longAgo with nowMs := nowMs }, 1⟩

lemma keepsPauses_smallCalls {longAgo : Bool} {times : List ℕ} :
    ∀ c ∈ smallCalls longAgo times, KeepsPauses c.world := by
  intro c hc
  obtain ⟨nowMs, -, rfl⟩ := mem_map.mp hc
  exact ⟨fun _ _ => rfl, fun _ _ _ _ => rfl⟩

def oneRun : WorkflowStore := plainStore [plainRow "a" "unit" .pending, plainRow "b" "unit" .pending] []

/-- The only run is paused as overdue. Seventy seconds later no run is active, the queue is all but
empty, and the run is paused still. -/
theorem overdue_run_stays_paused :
    RelaxedAt sampleExternals sampleMint fractions smallConfig (oneRun, .empty)
        (smallCalls true [0, 70000]) 1 ∧
      pausesAt sampleExternals sampleMint fractions smallConfig (oneRun, .empty)
        (smallCalls true [0, 70000]) 0 = ["run-1"] ∧
      (storeAt sampleExternals sampleMint fractions smallConfig (oneRun, .empty)
        (smallCalls true [0, 70000]) 2).carries "run-1" = true :=
  ⟨⟨_, _, ⟨rfl, rfl⟩, rfl⟩, by rfl, by rfl⟩

/-- No run is overdue in a call before the last. -/
theorem pauses_temporary_sample :
    (∀ c ∈ smallCalls false [0, 70000], KeepsPauses c.world) ∧
    ∀ m n cm cn, m < n →
    (smallCalls false [0, 70000])[m]? = some cm →
    (smallCalls false [0, 70000])[n]? = some cn →
    RelaxedAt sampleExternals sampleMint fractions smallConfig (oneRun, .empty)
      (smallCalls false [0, 70000]) n →
    cm.world.nowMs + 60000 ≤ cn.world.nowMs →
    ∀ runId ∈ pausesAt sampleExternals sampleMint fractions smallConfig (oneRun, .empty)
      (smallCalls false [0, 70000]) m,
    (storeAt sampleExternals sampleMint fractions smallConfig (oneRun, .empty)
      (smallCalls false [0, 70000]) (n + 1)).carries runId = false := by
  refine ⟨keepsPauses_smallCalls, (pauses_temporary_iff rfl rfl keepsPauses_smallCalls).mpr ?_⟩
  intro m n cm cn hmn hcm hcn hrelaxed hcooldown
  rcases m with _ | _ | m
  · rfl
  · rcases n with _ | _ | n
    · cases hmn
    · exact absurd hmn (Nat.lt_irrefl 1)
    · cases hcn
  · cases hcm

def threeRuns : WorkflowStore where
  nodes := .ofList [plainRow "a" "unit" .pending,
    { plainRow "b" "unit" .pending with runId := "run-2" },
    { plainRow "c" "unit" .pending with runId := "run-3" }]
  edges := []
  runs := .ofList [⟨"run-1", "wf-1", .running, none, none⟩, ⟨"run-2", "wf-2", .running, none, none⟩,
    ⟨"run-3", "wf-3", .running, none, none⟩]
  trees := .empty

def threeSlots : SchedulerConfig (ℕ × ℕ) := { smallConfig with maxConcurrent := 3 }

def elevenRuns : WorkflowStore where
  nodes := .empty
  edges := []
  runs := .ofList ((List.range 11).map fun i => ⟨toString i, "wf-1", .running, none, none⟩)
  trees := .empty

/-- With three runs in three slots backpressure is active, with two it is not, though two thirds
are not below one half. And two calls within a millisecond pause eleven runs. -/
theorem backpressure_forgotten :
    (ActiveAt sampleExternals sampleMint fractions threeSlots (threeRuns, .empty)
        (smallCalls false [0, 1]) 0 ∧
      ¬RelaxedAt sampleExternals sampleMint fractions threeSlots (threeRuns, .empty)
        (smallCalls false [0, 1]) 1 ∧
      (∃ c s, ObservesAt sampleExternals sampleMint fractions threeSlots
        (threeRuns, .empty) (smallCalls false [0, 1]) 1 c s) ∧
      ¬ActiveAt sampleExternals sampleMint fractions threeSlots (threeRuns, .empty)
        (smallCalls false [0, 1]) 1) ∧
    (((List.range 2).filter (inWindow (smallCalls true [0, 1]) 0)).map fun n =>
      (pausesAt sampleExternals sampleMint fractions smallConfig (elevenRuns, .empty)
        (smallCalls true [0, 1]) n).length).sum = 11 := by
  refine ⟨⟨⟨_, _, _, rfl, rfl, rfl⟩, ?_, ⟨_, _, rfl, rfl⟩, ?_⟩, by rfl⟩
  · rintro ⟨c, s, ⟨hcall, hobserved⟩, hrelaxed⟩
    cases hcall
    cases hobserved
    cases hrelaxed
  · rintro ⟨c, p, s, hcall, hprepare, hactive⟩
    cases hcall
    cases hprepare
    cases hactive

def busyRun : WorkflowStore :=
  plainStore [{ plainRow "a" "unit" .running with attemptCount := 1, leasedAt := some "09:59" }] []

/-- A run that stays under way keeps the load where it is. -/
theorem backpressure_carries_over_sample :
    (∀ m n, m ≤ n → ActiveAt sampleExternals sampleMint fractions smallConfig
        (busyRun, .empty) (smallCalls false [0, 1]) m →
      (∀ k, m < k → k ≤ n → ¬RelaxedAt sampleExternals sampleMint fractions smallConfig
        (busyRun, .empty) (smallCalls false [0, 1]) k) →
      (∃ c s, ObservesAt sampleExternals sampleMint fractions smallConfig
        (busyRun, .empty) (smallCalls false [0, 1]) n c s) →
      ActiveAt sampleExternals sampleMint fractions smallConfig
        (busyRun, .empty) (smallCalls false [0, 1]) n) ∧
    ∀ t, (((List.range 2).filter (inWindow (smallCalls false [0, 1]) t)).map fun n =>
      (pausesAt sampleExternals sampleMint fractions smallConfig (busyRun, .empty)
        (smallCalls false [0, 1]) n).length).sum ≤ 10 := by
  refine (backpressure_carries_over_iff rfl rfl keepsPauses_smallCalls).mpr ⟨?_, ?_⟩
  · rintro m n - - - ⟨c, s, hcall, -⟩
    rcases n with _ | _ | n
    · exact ⟨_, _, ⟨rfl, rfl⟩, rfl⟩
    · exact ⟨_, _, ⟨rfl, rfl⟩, rfl⟩
    · cases hcall
  · intro t
    refine (sum_eq_zero fun a ha => ?_).le.trans (Nat.zero_le 10)
    obtain ⟨n, hn, rfl⟩ := mem_map.mp ha
    rcases n with _ | _ | n
    · rfl
    · rfl
    · exact absurd hn (by simp [smallCalls])

end Harness
