import Harness.Proofs.SchedulerTick
import Harness.Spec.SchedulerWorkers

/-! What a worker does to the slots of the pool, and how many leases it has left once the control is
closed. Both follow from the moves that a worker can make, whatever the others do in between. -/

namespace Harness

open Lib List Option Function Table SchedulerSystem

variable {x : Externals} {mint : Mint}
  {D : Type} {d : Doubles D} {cfg : SchedulerConfig D} {tickLimit : ℕ} {w : WorkerWorld}
  {sh sh' : SchedulerShared D} {phase phase' : WorkerPhase} {turn : WorkerTurn} {call : TickCall}

namespace WorkerPhase

def slot : WorkerPhase → Option String
  | .holding turn _ => turn.acquiredType
  | .executing turn .. => turn.acquiredType
  | _ => none

/-- How many leases the worker can still make before it looks at the control again. -/
def remaining (tickLimit : ℕ) : WorkerPhase → ℕ
  | .ready => tickLimit
  | .turning call => call.runs.length
  | .holding _ call => call.runs.length + 1
  | .executing _ _ _ call => call.runs.length
  | _ => 0

end WorkerPhase

/-- A worker that looks at this control does not go on to a call. -/
def SchedulerControl.Closed (c : SchedulerControl) : Prop := c.paused = true ∨ c.killRequested = true

def afterTurn (call : TickCall) (result : Except String (TickAction × String)) : WorkerPhase :=
  if call.dynamic && !result.isOk then .top else .turning call

inductive WorkerMoves (d : Doubles D) (tickLimit : ℕ) (sh : SchedulerShared D) :
    WorkerPhase → SchedulerShared D → WorkerPhase → Prop
  | rests {phase phase' : WorkerPhase} {control : SchedulerControl} (hslot : phase.slot = none)
      (hslot' : phase'.slot = none) (hidle : phase.leasedBy phase' = none)
      (hremaining : phase'.remaining tickLimit ≤ phase.remaining tickLimit)
      (hclosed : sh.control.Closed → control.Closed) :
      WorkerMoves d tickLimit sh phase { sh with control := control } phase'
  | goesOn (h : ¬sh.control.Closed) : WorkerMoves d tickLimit sh .checking sh .ready
  | calls {phase' : WorkerPhase} (s : WorkflowStore) (cooled : String → Bool)
      (hslot' : phase'.slot = none) (hremaining : phase'.remaining tickLimit ≤ tickLimit) :
      WorkerMoves d tickLimit sh .ready ⟨s, sh.pool.tickCooldowns cooled, sh.control⟩ phase'
  | takes {runId : String} {dynamic : Bool} {ran : List NodeRef} {runs : List String}
      {selected : SelectedExecutor D} (h : selected.From sh.pool) :
      WorkerMoves d tickLimit sh (.turning ⟨dynamic, ran, runId :: runs⟩)
        { sh with pool := selected.pool }
        (.holding ⟨runId, selected.executor, selected.acquiredType⟩ ⟨dynamic, ran, runs⟩)
  | leases {turn : WorkerTurn} {call : TickCall} {nodeId : String} {attempt : ℕ} (s : WorkflowStore)
      (ran : List NodeRef) :
      WorkerMoves d tickLimit sh (.holding turn call) { sh with store := s }
        (.executing turn nodeId attempt { call with ran := ran })
  | gives {phase : WorkerPhase} {turn : WorkerTurn} {call : TickCall} (s : WorkflowStore)
      (result : Except String (TickAction × String)) (hslot : phase.slot = turn.acquiredType)
      (hremaining : call.runs.length ≤ phase.remaining tickLimit) :
      WorkerMoves d tickLimit sh phase
        { sh with store := s, pool := releaseSlot d sh.pool turn.acquiredType result }
        (afterTurn call result)

lemma finishTurn_cases {report : TickAction × String} :
    ∃ s result,
      finishTurn d w sh turn call report = endTurn d { sh with store := s } turn call result := by
  unfold finishTurn
  split
  · split
    · exact ⟨_, _, rfl⟩
    · exact ⟨_, _, rfl⟩
  · exact ⟨sh.store, _, rfl⟩

variable (w sh turn) in
lemma executeTurn_cases (nodeId : String) (attempt : ℕ) (call : TickCall) :
    ∃ s result, executeTurn x mint d cfg w sh turn nodeId attempt call =
      endTurn d { sh with store := s } turn call result := by
  unfold executeTurn
  dsimp only
  split
  · exact ⟨sh.store, _, rfl⟩
  · exact finishTurn_cases

lemma leaseTurn_cases :
    (∃ s result, leaseTurn x mint d cfg w sh turn call =
        endTurn d { sh with store := s } turn call result) ∨
      ∃ s nodeId attempt, leaseTurn x mint d cfg w sh turn call =
        ({ sh with store := s },
          .executing turn nodeId attempt
            { call with ran := call.ran ++ [(turn.runId, nodeId)] }) := by
  unfold leaseTurn
  split
  · exact .inl ⟨sh.store, _, rfl⟩
  · split
    · exact .inl ⟨_, _, rfl⟩
    · exact .inl finishTurn_cases
  · exact .inl finishTurn_cases
  · exact .inr ⟨_, _, _, rfl⟩

variable (w sh turn call) in
lemma holdTurn_cases :
    (∃ s result, holdTurn x mint d cfg w sh turn call =
        endTurn d { sh with store := s } turn call result) ∨
      ∃ s nodeId attempt, holdTurn x mint d cfg w sh turn call =
        ({ sh with store := s },
          .executing turn nodeId attempt
            { call with ran := call.ran ++ [(turn.runId, nodeId)] }) := by
  unfold holdTurn
  split
  · split
    · exact .inl ⟨_, _, rfl⟩
    · exact .inl ⟨_, _, rfl⟩
    · exact leaseTurn_cases
  · exact leaseTurn_cases

variable {result : Except String (TickAction × String)} {ran : List NodeRef} {runs : List String}
  {runId : String} {ticks retries : ℕ}

lemma moves_endTurn {s : WorkflowStore} (hslot : phase.slot = turn.acquiredType)
    (hremaining : call.runs.length ≤ phase.remaining tickLimit) :
    WorkerMoves d tickLimit sh phase (endTurn d { sh with store := s } turn call result).1
      (endTurn d { sh with store := s } turn call result).2 :=
  .gives s result hslot hremaining

lemma moves_beginTick :
    WorkerMoves d tickLimit sh .ready (beginTick x mint d cfg tickLimit w sh).1
      (beginTick x mint d cfg tickLimit w sh).2 := by
  unfold beginTick
  dsimp only
  split
  · exact .calls _ _ rfl (Nat.zero_le _)
  · split
    · exact .calls _ _ rfl (Nat.zero_le _)
    · exact .calls _ _ rfl (length_take_le _ _)

lemma moves_beginTurn {dynamic : Bool} :
    WorkerMoves d tickLimit sh (.turning ⟨dynamic, ran, runId :: runs⟩)
      (beginTurn d cfg w sh runId ⟨dynamic, ran, runs⟩).1
      (beginTurn d cfg w sh runId ⟨dynamic, ran, runs⟩).2 := by
  unfold beginTurn
  split
  · exact .rests rfl rfl rfl (Nat.le_succ _) id
  · next hselected => exact .takes (ExecutorPool.from_select hselected)

lemma moves_observe :
    WorkerMoves d tickLimit sh .checking (workerStep x mint d cfg tickLimit w sh .checking).1
      (workerStep x mint d cfg tickLimit w sh .checking).2 := by
  unfold workerStep observeSchedulerWorkerControl
  by_cases hkill : (sh.control.killRequested || w.environmentKill) = true
  · rw [if_pos hkill]
    exact .rests rfl rfl rfl le_rfl fun _ => .inr rfl
  · rw [if_neg hkill]
    by_cases hpause : (sh.control.paused || w.environmentPause) = true
    · rw [if_pos hpause]
      exact .rests rfl rfl rfl le_rfl id
    · rw [if_neg hpause]
      refine .goesOn ?_
      rintro (hpaused | hkilled)
      · exact hpause (by rw [hpaused, Bool.true_or])
      · exact hkill (by rw [hkilled, Bool.true_or])

lemma moves_holdTurn :
    WorkerMoves d tickLimit sh (.holding turn call) (holdTurn x mint d cfg w sh turn call).1
      (holdTurn x mint d cfg w sh turn call).2 := by
  rcases @holdTurn_cases x mint D d cfg w sh turn call with
    ⟨s, result, h⟩ | ⟨s, nodeId, attempt, h⟩
  · rw [h]
    exact moves_endTurn rfl (Nat.le_succ _)
  · rw [h]
    exact .leases s _

lemma moves_executeTurn {nodeId : String} {attempt : ℕ} :
    WorkerMoves d tickLimit sh (.executing turn nodeId attempt call)
      (executeTurn x mint d cfg w sh turn nodeId attempt call).1
      (executeTurn x mint d cfg w sh turn nodeId attempt call).2 := by
  obtain ⟨s, result, h⟩ := @executeTurn_cases x mint D d cfg w sh turn nodeId attempt call
  rw [h]
  exact moves_endTurn rfl le_rfl

variable (w sh phase) in
lemma worker_moves :
    WorkerMoves d tickLimit sh phase (workerStep x mint d cfg tickLimit w sh phase).1
      (workerStep x mint d cfg tickLimit w sh phase).2 := by
  cases phase with
  | top =>
    unfold workerStep
    split_ifs
    · exact .rests rfl rfl rfl le_rfl id
    · exact .rests rfl rfl rfl le_rfl id
  | checking => exact moves_observe
  | ready => exact moves_beginTick
  | turning call =>
    obtain ⟨dynamic, ran, runs⟩ := call
    cases runs with
    | nil => exact .rests rfl rfl rfl le_rfl id
    | cons runId runs => exact moves_beginTurn
  | holding turn call => exact moves_holdTurn
  | executing turn nodeId attempt call => exact moves_executeTurn
  | stopped => exact .rests rfl rfl rfl le_rfl id

lemma remaining_afterTurn : (afterTurn call result).remaining tickLimit ≤ call.runs.length := by
  unfold afterTurn
  split_ifs
  · exact Nat.zero_le _
  · exact le_rfl

lemma leasedBy_afterTurn : phase.leasedBy (afterTurn call result) = none := by
  unfold afterTurn WorkerPhase.leasedBy
  split_ifs <;> cases phase <;> rfl

namespace WorkerMoves

lemma remaining_le (h : WorkerMoves d tickLimit sh phase sh' phase')
    (hphase : phase.remaining tickLimit ≤ tickLimit) : phase'.remaining tickLimit ≤ tickLimit := by
  cases h with
  | rests _ _ _ hremaining _ => exact hremaining.trans hphase
  | goesOn _ => exact le_rfl
  | calls _ _ _ hremaining => exact hremaining
  | takes _ => exact hphase
  | leases _ _ => exact (Nat.le_succ _).trans hphase
  | gives _ result _ hremaining =>
    exact remaining_afterTurn.trans (hremaining.trans hphase)

/-- A lease is paid for by what remains. -/
lemma leases_add_remaining_le (h : WorkerMoves d tickLimit sh phase sh' phase')
    (hclosed : sh.control.Closed) :
    (if (phase.leasedBy phase').isSome then 1 else 0) + phase'.remaining tickLimit ≤
      phase.remaining tickLimit := by
  cases h with
  | rests _ _ hidle hremaining _ =>
    rw [hidle]
    simpa using hremaining
  | goesOn hopen => exact absurd hclosed hopen
  | calls _ _ _ hremaining =>
    change 0 + _ ≤ tickLimit
    rw [Nat.zero_add]
    exact hremaining
  | takes _ => exact le_of_eq (Nat.zero_add _)
  | leases _ _ => exact le_of_eq (Nat.add_comm 1 _)
  | gives _ result _ hremaining =>
    rw [leasedBy_afterTurn]
    simpa using remaining_afterTurn.trans hremaining

lemma closed (h : WorkerMoves d tickLimit sh phase sh' phase') (hclosed : sh.control.Closed) :
    sh'.control.Closed := by
  cases h with
  | rests _ _ _ _ hcontrol => exact hcontrol hclosed
  | goesOn _ | calls _ _ _ _ | takes _ | leases _ _ | gives _ _ _ _ => exact hclosed

end WorkerMoves

def SchedulerOp.isResume : SchedulerOp → Bool
  | .resume _ => true
  | _ => false

namespace SchedulerSystem

variable {st : SchedulerSystem D}

variable (x mint d cfg tickLimit st) in
/-- A step is a step of one worker, or leaves the pool and the workers alone. -/
lemma step_cases (op : SchedulerOp) :
    (∃ i w phase, op = .worker i w ∧ st.workers[i]? = some phase ∧
      st.step x mint d cfg tickLimit op =
        ((phase.leasedBy (workerStep x mint d cfg tickLimit w st.toSchedulerShared
            phase).2).map fun node => (i, node),
          st.setWorker i
      (workerStep x mint d cfg tickLimit w st.toSchedulerShared phase))) ∨
    (∃ i phase, op = .panic i ∧ st.workers[i]? = some phase ∧
      st.step x mint d cfg tickLimit op =
        (none, st.setWorker i (st.toSchedulerShared, phase.unwound))) ∨
    ((∀ i phase, op = .panic i → st.workers[i]? ≠ some phase) ∧ ∃ s control,
      st.step x mint d cfg tickLimit op =
        (none, { st with store := s, control := control }) ∧
      (op.isResume = false → st.control.Closed → control.Closed)) := by
  cases op with
  | worker i w =>
    cases hphase : st.workers[i]? with
    | none =>
      refine .inr (.inr ⟨nofun, st.store, st.control, ?_, fun _ => id⟩)
      unfold step
      dsimp only
      rw [hphase]
    | some phase =>
      refine .inl ⟨i, w, phase, rfl, hphase, ?_⟩
      unfold step
      dsimp only
      rw [hphase]
  | panic i =>
    cases hphase : st.workers[i]? with
    | none =>
      refine .inr (.inr ⟨?_, st.store, st.control, ?_, fun _ => id⟩)
      · rintro j phase hj hsome
        cases hj
        rw [hphase] at hsome
        cases hsome
      · unfold step
        dsimp only
        rw [hphase]
    | some phase =>
      refine .inr (.inl ⟨i, phase, rfl, hphase, ?_⟩)
      unfold step
      dsimp only
      rw [hphase]
  | pause trees =>
    refine .inr (.inr ⟨nofun, ?_⟩)
    cases trees with
    | error reason => exact ⟨_, _, rfl, fun _ => id⟩
    | ok s => exact ⟨_, _, rfl, fun _ _ => .inl rfl⟩
  | resume trees =>
    refine .inr (.inr ⟨nofun, ?_⟩)
    cases trees with
    | error reason => exact ⟨_, _, rfl, fun _ => id⟩
    | ok s =>
      unfold step
      split_ifs
      · exact ⟨_, _, rfl, fun _ => id⟩
      · exact ⟨_, _, rfl, nofun⟩
  | kill trees =>
    refine .inr (.inr ⟨nofun, ?_⟩)
    cases trees with
    | error reason => exact ⟨_, _, rfl, fun _ => id⟩
    | ok s => exact ⟨_, _, rfl, fun _ _ => .inr rfl⟩
  | stop => exact .inr (.inr ⟨nofun, _, _, rfl, fun _ => id⟩)
  | external s => exact .inr (.inr ⟨nofun, _, _, rfl, fun _ => id⟩)

/-- No worker has more runs before it than its limit. -/
def Bounded (tickLimit : ℕ) (st : SchedulerSystem D) : Prop :=
  ∀ phase ∈ st.workers, phase.remaining tickLimit ≤ tickLimit

def remainingOf (tickLimit : ℕ) (st : SchedulerSystem D) (i : ℕ) : ℕ :=
  (st.workers[i]?).elim 0 (WorkerPhase.remaining tickLimit)

def leasesFor (i : ℕ) (reply : Option (ℕ × NodeRef)) : Bool := (reply.map Prod.fst) = some i

lemma remaining_unwound : phase.unwound.remaining tickLimit ≤ phase.remaining tickLimit := by
  cases phase with
  | executing turn nodeId attempt call => exact Nat.zero_le _
  | _ => exact le_rfl

variable {next : SchedulerShared D × WorkerPhase} {i : ℕ}

lemma Bounded.setWorker (h : Bounded tickLimit st) (i : ℕ)
    (hnext : next.2.remaining tickLimit ≤ tickLimit) : Bounded tickLimit (st.setWorker i next) := by
  intro phase hphase
  rcases mem_or_eq_of_mem_set hphase with hold | rfl
  · exact h phase hold
  · exact hnext

lemma Bounded.step (h : Bounded tickLimit st) (op : SchedulerOp) :
    Bounded tickLimit (st.step x mint d cfg tickLimit op).2 := by
  rcases step_cases x mint d cfg tickLimit st op with
    ⟨i, w, phase, -, hphase, hstep⟩ | ⟨i, phase, -, hphase, hstep⟩ | ⟨-, s, control, hstep, -⟩
  · rw [hstep]
    exact h.setWorker i ((worker_moves w _ phase).remaining_le
      (h phase (mem_of_getElem? hphase)))
  · rw [hstep]
    exact h.setWorker i (remaining_unwound.trans (h phase (mem_of_getElem? hphase)))
  · rw [hstep]
    exact h

lemma Bounded.run (h : Bounded tickLimit st) (ops : List SchedulerOp) :
    Bounded tickLimit (st.run x mint d cfg tickLimit ops) := by
  induction ops generalizing st with
  | nil => exact h
  | cons op ops ih => exact ih (h.step op)

lemma remainingOf_le (h : Bounded tickLimit st) : remainingOf tickLimit st i ≤ tickLimit := by
  unfold remainingOf
  cases hphase : st.workers[i]? with
  | none => exact Nat.zero_le _
  | some phase => exact h phase (mem_of_getElem? hphase)

lemma remainingOf_setWorker (hphase : st.workers[i]? = some phase) {j : ℕ} :
    remainingOf tickLimit (st.setWorker i next) j =
      if i = j then next.2.remaining tickLimit else remainingOf tickLimit st j := by
  unfold remainingOf setWorker
  rw [getElem?_set]
  obtain ⟨hlt, -⟩ := List.getElem?_eq_some_iff.mp hphase
  split_ifs
  · rfl
  · rfl

lemma closed_step (h : st.control.Closed) {op : SchedulerOp} (hop : op.isResume = false) :
    (st.step x mint d cfg tickLimit op).2.control.Closed := by
  rcases step_cases x mint d cfg tickLimit st op with
    ⟨i, w, phase, -, -, hstep⟩ | ⟨i, phase, -, -, hstep⟩ | ⟨-, s, control, hstep, hcontrol⟩
  · rw [hstep]
    exact (worker_moves w st.toSchedulerShared phase).closed h
  · rw [hstep]
    exact h
  · rw [hstep]
    exact hcontrol hop h

/-- A step pays for a lease of the worker out of what remains for it. -/
lemma leasesFor_add_remaining_le (h : st.control.Closed) (op : SchedulerOp) (j : ℕ) :
    (if leasesFor j (st.step x mint d cfg tickLimit op).1 then 1 else 0) +
        remainingOf tickLimit (st.step x mint d cfg tickLimit op).2 j ≤
      remainingOf tickLimit st j := by
  rcases step_cases x mint d cfg tickLimit st op with
    ⟨i, w, phase, -, hphase, hstep⟩ | ⟨i, phase, -, hphase, hstep⟩ | ⟨-, s, control, hstep, -⟩
  · have hpaid := (@worker_moves x mint D d cfg tickLimit w st.toSchedulerShared
      phase).leases_add_remaining_le h
    rw [hstep, remainingOf_setWorker hphase]
    by_cases hij : i = j
    · subst hij
      rw [if_pos rfl, remainingOf, hphase]
      refine le_trans (Nat.add_le_add_right ?_ _) hpaid
      unfold leasesFor
      cases phase.leasedBy _ <;> simp
    · rw [if_neg hij]
      have hother : leasesFor j ((phase.leasedBy (workerStep x mint d cfg tickLimit w
          st.toSchedulerShared phase).2).map fun node => (i, node)) = false := by
        unfold leasesFor
        cases phase.leasedBy _ <;> simp [hij]
      rw [hother]
      simp
  · rw [hstep, remainingOf_setWorker hphase]
    change 0 + _ ≤ _
    rw [Nat.zero_add]
    split_ifs with hij
    · subst hij
      rw [remainingOf, hphase]
      exact remaining_unwound
    · exact le_rfl
  · rw [hstep]
    exact le_of_eq (Nat.zero_add _)

lemma leases_le_remaining (h : st.control.Closed) {ops : List SchedulerOp}
    (hops : ∀ op ∈ ops, op.isResume = false) :
    (replies (step x mint d cfg tickLimit) st ops).countP (leasesFor i) ≤
      remainingOf tickLimit st i := by
  induction ops generalizing st with
  | nil => exact Nat.zero_le _
  | cons op ops ih =>
    have hop := hops op mem_cons_self
    have hrest := @ih (st.step x mint d cfg tickLimit op).2 (closed_step h hop)
      fun op' hop' => hops op' (mem_cons_of_mem op hop')
    have hpaid := @leasesFor_add_remaining_le x mint D d cfg tickLimit st h op i
    rw [replies, countP_cons]
    omega

end SchedulerSystem

/-- A control call that has returned without an error. -/
inductive ClosesControl : SchedulerOp → Prop
  | pause (s : WorkflowStore) : ClosesControl (.pause (.ok s))
  | kill (s : WorkflowStore) : ClosesControl (.kill (.ok s))

/-- Workers that were started are supervised, and at the head of their loops. -/
lemma start_eq_ok {workers : SupervisedWorkers} {sw : StartWorld D} {st : SchedulerSystem D}
    (h : start cfg workers sw sh = .ok st) :
    workerTickLimit cfg workers.supervisedWorkersEnabled = 1 ∧ ∀ phase ∈ st.workers, phase = .top := by
  obtain ⟨-, h⟩ := seq_ok h
  obtain ⟨-, h⟩ := seq_ok h
  obtain ⟨hvalid, h⟩ := seq_ok h
  obtain ⟨-, h⟩ := seq_ok h
  obtain ⟨-, h⟩ := seq_ok h
  cases h
  obtain ⟨-, hvalid⟩ := seq_ok hvalid
  obtain ⟨hsupervised, -⟩ := seq_ok hvalid
  refine ⟨if_pos ?_, fun phase hphase => eq_of_mem_replicate hphase⟩
  simpa using refuse_ok hsupervised

/-- After a pause or a kill and up to a resume, whatever came before and whatever the workers do,
each worker that was started leases one node at most. -/
theorem leases_after_control_le {workers : SupervisedWorkers} {sw : StartWorld D}
    {st : SchedulerSystem D} (hst : start cfg workers sw sh = .ok st) (before : List SchedulerOp)
    {control : SchedulerOp} (hcontrol : ClosesControl control) {after : List SchedulerOp}
    (hafter : ∀ op ∈ after, op.isResume = false) (i : ℕ) :
    let limit := workerTickLimit cfg workers.supervisedWorkersEnabled
    (replies (step x mint d cfg limit) (st.run x mint d cfg limit (before ++ [control]))
      after).countP (leasesFor i) ≤ 1 := by
  intro limit
  obtain ⟨hlimit, htop⟩ := start_eq_ok hst
  have hbounded : SchedulerSystem.Bounded limit st := by
    intro phase hphase
    rw [htop phase hphase]
    exact Nat.zero_le _
  have hclosed : (st.run x mint d cfg limit (before ++ [control])).control.Closed := by
    unfold run Lib.after
    rw [foldl_append]
    cases hcontrol with
    | pause s => exact .inl rfl
    | kill s => exact .inr rfl
  calc _ ≤ remainingOf limit _ i := leases_le_remaining hclosed hafter
    _ ≤ limit := remainingOf_le (hbounded.run _)
    _ = 1 := hlimit

def calmWorld : WorkerWorld where
  toSchedulerWorld := smallWorld false
  environmentKill := false
  environmentPause := false
  cooled _ := false
  before s _ := (.ok true, s)
  after s _ := (.ok (), s)

def twoPending : WorkflowStore where
  nodes := .ofList [plainRow "a" "unit" .pending,
    { plainRow "b" "unit" .pending with runId := "run-2" }]
  edges := []
  runs := .ofList [⟨"run-1", "wf-1", .running, none, none⟩, ⟨"run-2", "wf-2", .running, none, none⟩]
  trees := .empty

def oneWorker (pool : ExecutorPool (ℕ × ℕ)) : SchedulerSystem (ℕ × ℕ) where
  store := twoPending
  pool := pool
  control := ⟨true, false, false⟩
  workers := [.top]

/-- The scheduler pauses when its worker has entered a call, and the worker takes one of the two
nodes that wait. -/
theorem leases_after_control_sample :
    let step := step sampleExternals sampleMint fractions smallConfig 1
    let leased := replies step (after step (oneWorker .empty)
      (replicate 3 (.worker 0 calmWorld) ++ [.pause (.ok twoPending)]))
      (replicate 8 (.worker 0 calmWorld))
    leased.countP (leasesFor 0) = 1 ∧ leased.countP (leasesFor 0) ≤ 1 := by
  have hstart : start smallConfig ⟨true, 1⟩ ⟨false, .ok (), false, id⟩
      ⟨twoPending, .empty, ⟨false, false, false⟩⟩ = .ok (oneWorker .empty) := by rfl
  exact ⟨by rfl, leases_after_control_le hstart (replicate 3 (.worker 0 calmWorld))
    (.pause twoPending) (by
      intro op hop
      obtain rfl := eq_of_mem_replicate hop
      rfl) 0⟩

/-- The steps of a turn with nothing in between. -/
def turnAlone (x : Externals)
    (mint : Mint) (d : Doubles D)
    (cfg : SchedulerConfig D) (w : WorkerWorld) (sh : SchedulerShared D) (runId : String)
    (call : TickCall) : SchedulerShared D × WorkerPhase :=
  match beginTurn d cfg w sh runId call with
  | (sh, .holding turn call) =>
    match holdTurn x mint d cfg w sh turn call with
    | (sh, .executing turn nodeId attempt call) =>
      executeTurn x mint d cfg w sh turn nodeId attempt call
    | next => next
  | next => next

/-- The turn of a worker is the turn of the scheduler's loop. -/
lemma turnAlone_eq :
    turnAlone x mint d cfg w sh runId ⟨false, ran, runs⟩ =
    let st := tickRun x mint d cfg w.toSchedulerWorld ⟨sh.store, sh.pool, ran, ticks, retries⟩ runId
    (⟨st.store, st.pool, sh.control⟩, .turning ⟨false, st.leased, runs⟩) := by
  unfold turnAlone tickRun beginTurn
  dsimp only
  cases sh.pool.selectSchedulerExecutor d cfg.executorType w.configured
      (schedulerRouteForRun cfg w.toSchedulerWorld sh.store ran runId) with
  | none => rfl
  | some selected =>
    dsimp only
    unfold holdTurn leaseTurn tickWithExecutor
    dsimp only
    cases sh.store.leasePhase x mint
        (schedulerLease cfg w.toSchedulerWorld runId selected.executor) with
    | error reason => simp [endTurn]
    | ok leased =>
      obtain ⟨result, s⟩ := leased
      cases result with
      | terminal status =>
        cases w.recordScorecard runId with
        | error reason => simp [endTurn, Except.map]
        | ok u => simp [endTurn, finishTurn, Except.map]
      | noReadyNode => simp [endTurn, finishTurn]
      | leased nodeId taskType attempt =>
        simp only [Bool.false_eq_true, if_false]
        unfold executeTurn
        dsimp only
        generalize (w.work runId nodeId selected.executor attempt >>= _) = result
        cases result with
        | error reason => simp [endTurn]
        | ok settled => simp [endTurn, finishTurn]

def stepAlone (x : Externals)
    (mint : Mint) (d : Doubles D)
    (cfg : SchedulerConfig D) (tickLimit : ℕ) (w : WorkerWorld)
    (st : SchedulerShared D × WorkerPhase) : SchedulerShared D × WorkerPhase :=
  workerStep x mint d cfg tickLimit w st.1 st.2

variable (w sh runId) in
lemma turnAlone_steps (dynamic : Bool) (ran : List NodeRef) (runs : List String) :
    ∃ n, (stepAlone x mint d cfg tickLimit w)^[n] (sh, .turning ⟨dynamic, ran, runId :: runs⟩) =
      turnAlone x mint d cfg w sh runId ⟨dynamic, ran, runs⟩ := by
  unfold turnAlone
  have hbegin : stepAlone x mint d cfg tickLimit w
      (sh, .turning ⟨dynamic, ran, runId :: runs⟩) = beginTurn d cfg w sh runId ⟨dynamic, ran, runs⟩ :=
    rfl
  split
  · next sh₁ turn call heq =>
    have hhold : stepAlone x mint d cfg tickLimit w (sh₁, .holding turn call) =
      holdTurn x mint d cfg w sh₁ turn call := rfl
    split
    · next sh₂ turn₂ nodeId attempt call₂ heq₂ =>
      refine ⟨3, ?_⟩
      rw [iterate_succ_apply, hbegin, heq, iterate_succ_apply, hhold, heq₂]
      rfl
    · refine ⟨2, ?_⟩
      rw [iterate_succ_apply, hbegin, heq]
      exact hhold
  · exact ⟨1, hbegin⟩

/-- A worker that is alone with its runs does what the scheduler's loop does. -/
theorem loop_steps :
    ∃ n, (stepAlone x mint d cfg tickLimit w)^[n] (sh, .turning ⟨false, ran, runs⟩) =
    let st := runs.foldl (tickRun x mint d cfg w.toSchedulerWorld)
      ⟨sh.store, sh.pool, ran, ticks, retries⟩
    (⟨st.store, st.pool, sh.control⟩, .turning ⟨false, st.leased, []⟩) := by
  induction runs generalizing sh ran ticks retries with
  | nil => exact ⟨0, rfl⟩
  | cons runId runs ih =>
    obtain ⟨n, hturn⟩ := @turnAlone_steps x mint D d cfg tickLimit w sh runId false ran runs
    rw [turnAlone_eq] at hturn
    obtain ⟨m, hloop⟩ := ih
    refine ⟨m + n, ?_⟩
    rw [iterate_add_apply, hturn]
    exact hloop

namespace ExecutorPool

variable {pool pool' : ExecutorPool D}

def activeOf (pool : ExecutorPool D) (executorType : String) : ℕ :=
  (pool.find? executorType).elim 0 ExecutorEntry.activeCount

/-- No executor has more in use than its limit. -/
def WithinLimits (pool : ExecutorPool D) : Prop :=
  ∀ e ∈ pool.rows, e.activeCount ≤ e.concurrencyLimit

variable {f : ExecutorEntry D → ExecutorEntry D} {acquiredType executorType : String}

lemma activeOf_acquire (h : pool.acquire acquiredType = some pool') (executorType : String) :
    pool'.activeOf executorType =
      pool.activeOf executorType + if acquiredType = executorType then 1 else 0 := by
  unfold acquire at h
  split_ifs at h with hslot
  cases h
  unfold activeOf
  rw [find?_modify]
  by_cases htype : acquiredType = executorType
  · subst htype
    cases hfind : pool.find? acquiredType with
    | none =>
      rw [hfind] at hslot
      cases hslot
    | some e => simp
  · rw [if_neg (Ne.symm htype), if_neg htype]
    rfl

lemma WithinLimits.acquire (hwithin : pool.WithinLimits)
    (h : pool.acquire acquiredType = some pool') : pool'.WithinLimits := by
  unfold ExecutorPool.acquire at h
  split_ifs at h with hslot
  cases h
  intro e he
  obtain ⟨e₀, he₀, rfl⟩ := (mem_modify ..).mp he
  split_ifs with htype
  · -- the entry that is taken from had a slot left
    rw [← htype, pool.find?_key he₀] at hslot
    have hleft := (Bool.and_eq_true _ _).mp ((Bool.and_eq_true _ _).mp hslot).1
    exact of_decide_eq_true hleft.2
  · exact hwithin e₀ he₀

lemma activeOf_modify {givenType : String} (hf : ∀ e, (f e).executorType = e.executorType)
    (hcount : ∀ e, (f e).activeCount = e.activeCount - 1) :
    activeOf (pool.modify givenType f hf) executorType =
      pool.activeOf executorType - if givenType = executorType then 1 else 0 := by
  unfold activeOf
  rw [find?_modify]
  by_cases htype : givenType = executorType
  · subst htype
    cases pool.find? givenType with
    | none => simp
    | some e => simpa using hcount e
  · rw [if_neg (Ne.symm htype), if_neg htype]
    rfl

lemma WithinLimits.modify (hwithin : pool.WithinLimits) (givenType : String)
    (hf : ∀ e, (f e).executorType = e.executorType)
    (hcount : ∀ e, (f e).activeCount ≤ e.activeCount)
    (hlimit : ∀ e, (f e).concurrencyLimit = e.concurrencyLimit) :
    WithinLimits (pool.modify givenType f hf) := by
  intro e he
  obtain ⟨e₀, he₀, rfl⟩ := (mem_modify ..).mp he
  split_ifs
  · rw [hlimit]
    exact (hcount e₀).trans (hwithin e₀ he₀)
  · exact hwithin e₀ he₀

/-- A slot is given back in one of two ways, with and without a record of the execution. -/
lemma releaseSlot_cases (pool : ExecutorPool D) (acquiredType : Option String)
    (result : Except String (TickAction × String)) :
    (acquiredType = none ∧ releaseSlot d pool acquiredType result = pool) ∨
      ∃ executorType, acquiredType = some executorType ∧
        ((∃ success, releaseSlot d pool acquiredType result = pool.release d executorType success) ∨
          releaseSlot d pool acquiredType result = pool.releaseWithoutRecording executorType) := by
  cases acquiredType with
  | none => exact .inl ⟨rfl, rfl⟩
  | some executorType =>
    refine .inr ⟨executorType, rfl, ?_⟩
    unfold releaseSlot
    split
    · next h => cases h
    · next h => exact .inl ⟨_, by rw [some.inj h]⟩
    · next h => exact .inl ⟨_, by rw [some.inj h]⟩
    · next h _ _ => exact .inr (by rw [some.inj h])

lemma activeOf_releaseSlot (pool : ExecutorPool D) (acquiredType : Option String)
    (result : Except String (TickAction × String)) (executorType : String) :
    activeOf (releaseSlot d pool acquiredType result) executorType =
      pool.activeOf executorType - if acquiredType = some executorType then 1 else 0 := by
  rcases @releaseSlot_cases D d pool acquiredType result with
    ⟨rfl, h⟩ | ⟨givenType, rfl, ⟨success, h⟩ | h⟩
  · rw [h]
    simp
  · simp only [h, some.injEq]
    exact activeOf_modify (f := fun e => e.record d success) (fun _ => rfl)
      (fun _ => rfl)
  · simp only [h, some.injEq]
    exact activeOf_modify (f := fun e => { e with activeCount := e.activeCount - 1 })
      (fun _ => rfl) (fun _ => rfl)

lemma WithinLimits.releaseSlot (hwithin : pool.WithinLimits) (acquiredType : Option String)
    (result : Except String (TickAction × String)) :
    WithinLimits (Harness.releaseSlot d pool acquiredType result) := by
  rcases @releaseSlot_cases D d pool acquiredType result with
    ⟨-, h⟩ | ⟨givenType, -, ⟨success, h⟩ | h⟩
  · rw [h]
    exact hwithin
  · rw [h]
    exact hwithin.modify (f := fun e => e.record d success) givenType (fun _ => rfl)
      (fun e => Nat.sub_le _ _) fun _ => rfl
  · rw [h]
    exact hwithin.modify (f := fun e => { e with activeCount := e.activeCount - 1 }) givenType
      (fun _ => rfl) (fun e => Nat.sub_le _ _) fun _ => rfl

lemma activeOf_tickCooldowns {cooled : String → Bool} :
    (pool.tickCooldowns cooled).activeOf executorType = pool.activeOf executorType := by
  unfold activeOf tickCooldowns
  rw [Table.find?_map]
  cases pool.find? executorType with
  | none => rfl
  | some e =>
    simp only [map_some, elim_some]
    split_ifs <;> rfl

lemma WithinLimits.tickCooldowns (hwithin : pool.WithinLimits) (cooled : String → Bool) :
    (pool.tickCooldowns cooled).WithinLimits := by
  intro e he
  obtain ⟨e₀, he₀, rfl⟩ := mem_map.mp he
  have hle := hwithin e₀ he₀
  split_ifs <;> exact hle

end ExecutorPool

lemma slot_afterTurn : (afterTurn call result).slot = none := by
  unfold afterTurn
  split_ifs <;> rfl

namespace WorkerMoves

/-- What a move takes from an executor or gives back to it is what the worker holds of it. -/
lemma activeOf_add (h : WorkerMoves d tickLimit sh phase sh' phase') {executorType : String}
    (hheld : phase.slot = some executorType → 0 < sh.pool.activeOf executorType) :
    sh'.pool.activeOf executorType + (if phase.slot = some executorType then 1 else 0) =
      sh.pool.activeOf executorType + if phase'.slot = some executorType then 1 else 0 := by
  cases h with
  | rests hslot hslot' _ _ _ => rw [hslot, hslot']
  | goesOn _ => rfl
  | calls _ cooled hslot' _ =>
    rw [hslot']
    exact ExecutorPool.activeOf_tickCooldowns
  | @takes _ _ _ _ selected hfrom =>
    rcases hfrom with ⟨hnone, hpool⟩ | ⟨acquiredType, hsome, hpool⟩
    · simp [WorkerPhase.slot, hnone, hpool]
    · have hcount := ExecutorPool.activeOf_acquire hpool executorType
      simp only [WorkerPhase.slot, hsome, hcount, some.injEq]
      rfl
  | leases _ _ => rfl
  | gives _ result hslot _ =>
    have hcount := ExecutorPool.activeOf_releaseSlot (d := d) sh.pool phase.slot result executorType
    rw [slot_afterTurn, if_neg (fun h : none = some executorType => by cases h)]
    rw [← hslot, hcount]
    split_ifs with hsome
    · exact Nat.sub_add_cancel (hheld hsome)
    · rfl

lemma withinLimits (h : WorkerMoves d tickLimit sh phase sh' phase')
    (hwithin : sh.pool.WithinLimits) : sh'.pool.WithinLimits := by
  cases h with
  | rests _ _ _ _ _ | goesOn _ | leases _ _ => exact hwithin
  | calls _ cooled _ _ => exact hwithin.tickCooldowns cooled
  | takes hfrom =>
    rcases hfrom with ⟨-, hpool⟩ | ⟨acquiredType, -, hpool⟩
    · rw [hpool]
      exact hwithin
    · exact hwithin.acquire hpool
  | gives _ result _ _ => exact hwithin.releaseSlot _ result

end WorkerMoves

namespace SchedulerSystem

variable {st : SchedulerSystem D}

/-- The workers that hold a slot of the executor. -/
def holders (st : SchedulerSystem D) (executorType : String) : ℕ :=
  st.workers.countP fun phase => phase.slot = some executorType

/-- The pool counts what the workers hold, within its limits. -/
structure Balanced (st : SchedulerSystem D) : Prop where
  counts : ∀ executorType, st.pool.activeOf executorType = st.holders executorType
  within : st.pool.WithinLimits

variable {i : ℕ}

lemma holders_setWorker (hphase : st.workers[i]? = some phase)
    (next : SchedulerShared D × WorkerPhase) (executorType : String) :
    (st.setWorker i next).holders executorType + (if phase.slot = some executorType then 1 else 0) =
      st.holders executorType + if next.2.slot = some executorType then 1 else 0 := by
  obtain ⟨hlt, rfl⟩ := List.getElem?_eq_some_iff.mp hphase
  have hset := countP_set (p := fun phase : WorkerPhase => phase.slot = some executorType)
    (a := next.2) hlt
  simp only [decide_eq_true_eq] at hset
  unfold holders setWorker
  rw [hset, Nat.add_right_comm]
  congr 1
  split_ifs with hheld
  · exact Nat.sub_add_cancel
      (countP_pos_iff.mpr ⟨_, getElem_mem hlt, decide_eq_true hheld⟩)
  · rfl

lemma holders_pos (hphase : st.workers[i]? = some phase) {executorType : String}
    (hslot : phase.slot = some executorType) : 0 < st.holders executorType :=
  countP_pos_iff.mpr ⟨phase, mem_of_getElem? hphase, decide_eq_true hslot⟩

lemma Balanced.worker (h : st.Balanced) (hphase : st.workers[i]? = some phase)
    {next : SchedulerShared D × WorkerPhase}
    (hmoves : WorkerMoves d tickLimit st.toSchedulerShared phase next.1 next.2) :
    (st.setWorker i next).Balanced where
  counts := by
    intro executorType
    have hheld : phase.slot = some executorType → 0 < st.pool.activeOf executorType := by
      intro hslot
      rw [h.counts]
      exact holders_pos hphase hslot
    have hcount := hmoves.activeOf_add hheld
    have hholders := holders_setWorker hphase next executorType
    have hbefore := h.counts executorType
    change next.1.pool.activeOf executorType = _
    omega
  within := hmoves.withinLimits h.within

lemma unwound_slot : phase.unwound.slot = none ∨ phase.unwound.slot = phase.slot := by
  cases phase with
  | executing turn nodeId attempt call => exact .inl rfl
  | _ => exact .inr rfl

/-- A panic empties the hands of the worker and leaves the pool as it is. -/
lemma Balanced.panic_iff (h : st.Balanced) (hphase : st.workers[i]? = some phase) :
    (st.setWorker i (st.toSchedulerShared, phase.unwound)).Balanced ↔
      phase.unwound.slot = phase.slot := by
  have hholders := holders_setWorker hphase (st.toSchedulerShared, phase.unwound)
  constructor
  · intro hbalanced
    rcases unwound_slot with hnone | hsame
    · cases hslot : phase.slot with
      | none => exact hnone
      | some executorType =>
        -- the pool counts one more than is held
        have hlost := hholders executorType
        rw [if_pos hslot, ← hbalanced.counts, ← h.counts] at hlost
        rw [hnone, if_neg nofun] at hlost
        exact absurd hlost (Nat.succ_ne_self _)
    · exact hsame
  · intro hsame
    refine ⟨fun executorType => ?_, h.within⟩
    have hkept := hholders executorType
    rw [hsame] at hkept
    exact (h.counts executorType).trans (Nat.add_right_cancel hkept).symm

def PanicsHolding (st : SchedulerSystem D) (op : SchedulerOp) : Prop :=
  ∃ i turn nodeId attempt call, op = .panic i ∧
    st.workers[i]? = some (.executing turn nodeId attempt call) ∧ turn.acquiredType ≠ none

lemma panicsHolding_iff (hphase : st.workers[i]? = some phase) :
    st.PanicsHolding (.panic i) ↔ phase.unwound.slot ≠ phase.slot := by
  constructor
  · rintro ⟨j, turn, nodeId, attempt, call, hop, hexecuting, hslot⟩
    cases hop
    rw [hphase] at hexecuting
    cases hexecuting
    exact hslot.symm
  · intro hslot
    cases phase with
    | executing turn nodeId attempt call =>
      exact ⟨i, turn, nodeId, attempt, call, rfl, hphase, hslot.symm⟩
    | _ => exact absurd rfl hslot

lemma Balanced.step_iff (h : st.Balanced) {op : SchedulerOp} :
    (st.step x mint d cfg tickLimit op).2.Balanced ↔ ¬st.PanicsHolding op := by
  rcases step_cases x mint d cfg tickLimit st op with
    ⟨i, w, phase, rfl, hphase, hstep⟩ | ⟨i, phase, rfl, hphase, hstep⟩ |
      ⟨hidle, s, control, hstep, -⟩
  · rw [hstep]
    refine iff_of_true (h.worker hphase (worker_moves w st.toSchedulerShared phase)) ?_
    rintro ⟨_, _, _, _, _, hop, -⟩
    cases hop
  · rw [hstep, panicsHolding_iff hphase, not_not]
    exact h.panic_iff hphase
  · rw [hstep]
    refine iff_of_true ⟨h.counts, h.within⟩ ?_
    rintro ⟨i, turn, nodeId, attempt, call, hop, hexecuting, -⟩
    exact hidle i _ hop hexecuting

end SchedulerSystem

/-- Over any interleaving of the workers and the control: the pool counts what the workers hold,
within its limits, after every step, just in case no executor panics for a worker with a slot. -/
theorem slots_balanced_iff {st : SchedulerSystem D} (h : st.Balanced) (ops : List SchedulerOp) :
    (∀ n, (st.run x mint d cfg tickLimit (ops.take n)).Balanced) ↔
      ∀ n op, ops[n]? = some op →
        ¬(st.run x mint d cfg tickLimit (ops.take n)).PanicsHolding op := by
  have hstep : ∀ (st : SchedulerSystem D) (op : SchedulerOp), st.Balanced →
      ((st.step x mint d cfg tickLimit op).2.Balanced ↔ ¬st.PanicsHolding op) :=
    fun _ op hst => hst.step_iff
  exact foldl_keeps_iff hstep h ops

/-- One executor, which runs one node at a time. -/
def noopPool : ExecutorPool (ℕ × ℕ) :=
  .ofList [⟨"noop", "noop", [], [], false, true, 0, 1, false, (0, 1), 0, 0, 0⟩]

lemma balanced_oneWorker : (oneWorker noopPool).Balanced where
  counts executorType := by
    change (noopPool.find? executorType).elim 0 ExecutorEntry.activeCount = 0
    cases hfind : noopPool.find? executorType with
    | none => rfl
    | some e =>
      obtain rfl := mem_singleton.mp (mem_of_find? hfind)
      rfl
  within := by
    intro e he
    obtain rfl := mem_singleton.mp he
    exact Nat.zero_le 1

def executingOps (panics : Bool) : List SchedulerOp :=
  replicate 5 (.worker 0 calmWorld) ++ [if panics then .panic 0 else .worker 0 calmWorld]

def afterExecuting (ops : List SchedulerOp) : SchedulerSystem (ℕ × ℕ) :=
  (oneWorker noopPool).run sampleExternals sampleMint fractions smallConfig 1 ops

/-- After the panic the slot is in use, and no worker holds it. -/
theorem panic_leaks_slot :
    (afterExecuting (executingOps true)).pool.activeOf "noop" = 1 ∧
      (afterExecuting (executingOps true)).holders "noop" = 0 ∧
      (afterExecuting (executingOps true)).workers = [.top] := ⟨by rfl, by rfl, by rfl⟩

theorem slots_balanced_sample :
    (oneWorker noopPool).Balanced ∧
      ∀ n, (afterExecuting ((executingOps false).take n)).Balanced := by
  refine ⟨balanced_oneWorker, (slots_balanced_iff balanced_oneWorker (executingOps false)).mpr ?_⟩
  rintro n op hop ⟨i, _, _, _, _, rfl, -⟩
  have hmem := mem_of_getElem? hop
  simp [executingOps] at hmem

end Harness
