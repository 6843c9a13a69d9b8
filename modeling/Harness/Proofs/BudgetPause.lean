import Harness.Spec.BudgetPause
import Harness.Sanity.Blocking
import Harness.Sanity.PauseReasons
import Harness.Proofs.Fencing

/-! The pause in a run's row and the table of decisions agree as long as a run is paused by one
piece of evidence at a time. A second pause hides the first one for good: only the decision that
the row names can be recovered, and no recovery puts the other name back. -/

namespace Harness.BudgetPause

open Lib List Option WorkflowStore

variable {ext : Externals} {s s' : Store} {runId : String} {d : PauseDecision}

/-- The reason the run's row gives. -/
def reasonOf (s : Store) (runId : String) : Option String := s.workflow.pauseReasonOf runId

variable (s runId d) in
/-- A decision of the run that is in force. -/
structure Paused : Prop where
  mem : d ∈ s.decisions.rows
  run : d.runId = runId
  state : d.state = .paused

lemma mem_pausedDecisions : d ∈ pausedDecisions s runId ↔ Paused s runId d := by
  rw [pausedDecisions, mem_filter, Bool.and_eq_true, decide_eq_true_eq, decide_eq_true_eq]
  exact ⟨fun h => ⟨h.1, h.2.1, h.2.2⟩, fun h => ⟨h.mem, h.run, h.state⟩⟩

variable {f : AnomalyFinding} {a : Apply} {ops : List Op} {reason : Option String}
  {state : PauseState} {r : Recover} {runId' : String} {n : ℕ}

lemma pauseReason_injective {id id' : String} (h : pauseReason id = pauseReason id') : id = id' :=
  (String.append_right_inj _).mp h

lemma append_ne_of_head {a b t : String} {c d : Char} (hcd : c ≠ d)
    (ha : a.toList.head? = some c) (hb : b.toList.head? = some d) : a ++ t ≠ b := by
  rintro rfl
  rw [String.toList_append, head?_append, ha] at hb
  exact hcd (some.inj hb)

lemma pauseReason_ne_api {id : String} : pauseReason id ≠ apiOwnedSupervisedPatch := by
  have hne : 'b' ≠ 'a' := by decide
  refine append_ne_of_head hne ?_ ?_
  · simp
  · simp [apiOwnedSupervisedPatch]

lemma requireOwner_ok (h : reason ≠ some apiOwnedSupervisedPatch) :
    requireRunExecutionOwner runId reason none = .ok () := by
  rw [requireRunExecutionOwner, if_neg h]
  rfl

lemma requireOwner_ne (h : requireRunExecutionOwner runId reason none = .ok ()) :
    reason ≠ some apiOwnedSupervisedPatch := by
  rintro rfl
  cases h

lemma reasonOf_setPauseReason (h : ∃ r, s.workflow.runs.find? runId' = some r) :
    reasonOf (s.setPauseReason runId' reason) runId =
      if runId = runId' then reason else reasonOf s runId := by
  obtain ⟨r, hr⟩ := h
  unfold reasonOf pauseReasonOf Store.setPauseReason
  rw [Table.find?_modify]
  split_ifs with heq
  · rw [heq, hr]
    rfl
  · rfl

lemma active_paused (h : activePauseDecision ext s runId = some d) : Paused s runId d :=
  mem_pausedDecisions.mp ((mem_insertionSort _).mp (mem_of_mem_head? h))

lemma exists_active (ext : Externals) (h : Paused s runId d) :
    ∃ d', activePauseDecision ext s runId = some d' := by
  cases hactive : activePauseDecision ext s runId with
  | some d' => exact ⟨d', rfl⟩
  | none =>
    have hlength := congrArg length (head?_eq_none_iff.mp hactive)
    rw [length_insertionSort, length_nil] at hlength
    have hpos := length_pos_of_mem (mem_pausedDecisions.mpr h)
    omega

/-- An application that writes a decision. -/
structure Inserts (ext : Externals) (s : Store) (a : Apply) (f : AnomalyFinding) : Prop where
  eligible : checkApply ext s a = .ok f
  fresh : pauseDecision s a.runId a.artifactId = none
  new : s.decisions.find? (newDecision ext a f).decisionId = none

def inserted (ext : Externals) (s : Store) (a : Apply) (f : AnomalyFinding) : Store :=
  { s with decisions := s.decisions.insert (newDecision ext a f) }.setPauseReason a.runId
    (some (pauseReason (newDecision ext a f).decisionId))

lemma apply_cases (ext : Externals) (s : Store) (a : Apply) :
    step ext s (.apply a) = s ∨
      ∃ f, Inserts ext s a f ∧ (∃ r, s.workflow.runs.find? a.runId = some r) ∧
        reasonOf s a.runId ≠ some apiOwnedSupervisedPatch ∧
        step ext s (.apply a) = inserted ext s a f := by
  unfold step
  dsimp only
  split
  · next decision s' h =>
    obtain ⟨f, hf, h⟩ := bind_ok h
    split at h
    · cases h
      exact .inl rfl
    · next hfresh =>
      obtain ⟨r, hr, h⟩ := bind_ok h
      obtain ⟨howner, h⟩ := seq_ok h
      obtain ⟨hnew, h⟩ := seq_ok h
      cases h
      have hrun := required_eq_ok.mp hr
      refine .inr ⟨f, ⟨hf, hfresh, ?_⟩, ⟨r, hrun⟩, ?_, rfl⟩
      · simpa using refuse_ok hnew
      · rw [reasonOf, pauseReasonOf, hrun]
        exact requireOwner_ne howner
  · exact .inl rfl

lemma step_inserts (h : Inserts ext s a f) {r : RunRecord}
    (hr : s.workflow.runs.find? a.runId = some r)
    (howner : r.pauseReason ≠ some apiOwnedSupervisedPatch) :
    step ext s (.apply a) = inserted ext s a f := by
  have happly : applyBudgetAutoPause ext s a = .ok (newDecision ext a f, inserted ext s a f) := by
    refine bind_eq_ok.mpr ⟨f, h.eligible, ?_⟩
    rw [h.fresh]
    refine bind_eq_ok.mpr ⟨r, required_eq_ok.mpr hr, ?_⟩
    refine seq_eq_ok.mpr ⟨requireOwner_ok howner, ?_⟩
    refine seq_eq_ok.mpr ⟨refuse_eq_ok.mpr ?_, rfl⟩
    rw [h.new]
    rfl
  unfold step
  dsimp only
  rw [happly]

/-- A recovery that is carried out takes back the decision that the row names. -/
structure Recovers (s : Store) (r : Recover) (d : PauseDecision) : Prop where
  paused : Paused s r.runId d
  row : ∃ run, s.workflow.runs.find? r.runId = some run
  named : reasonOf s r.runId = some (pauseReason d.decisionId)

lemma decisionId_recovered (r : Recover) (state : PauseState) (reason : String)
    (d : PauseDecision) :
    (d.recovered state reason r.actor r.now).decisionId = d.decisionId := rfl

def recoveredStore (s : Store) (r : Recover) (d : PauseDecision) (state : PauseState)
    (reason : String) : Store :=
  { s with
    decisions := s.decisions.modify d.decisionId
      (fun d => d.recovered state reason r.actor r.now)
      (decisionId_recovered r state reason) }.setPauseReason r.runId none

lemma parseRecovery_ne {recovery : String} (h : parseRecovery recovery = .ok state) :
    state ≠ .paused := by
  unfold parseRecovery at h
  split_ifs at h
  · cases h
    decide
  · cases h
    decide

variable (ext s r) in
lemma recover_cases :
    step ext s (.recover r) = s ∨ ∃ d state reason, Recovers s r d ∧ state ≠ .paused ∧
      step ext s (.recover r) = recoveredStore s r d state reason := by
  unfold step
  dsimp only
  split
  · next decision s' h =>
    obtain ⟨state, hstate, h⟩ := bind_ok h
    obtain ⟨-, h⟩ := seq_ok h
    obtain ⟨d, hd, h⟩ := bind_ok h
    obtain ⟨run, hrun, h⟩ := bind_ok h
    obtain ⟨-, h⟩ := seq_ok h
    obtain ⟨hnamed, h⟩ := seq_ok h
    cases h
    have hrow := required_eq_ok.mp hrun
    refine .inr ⟨d, state, _, ⟨active_paused (required_eq_ok.mp hd), ⟨run, hrow⟩, ?_⟩,
      parseRecovery_ne hstate, rfl⟩
    rw [reasonOf, pauseReasonOf, hrow]
    exact not_not.mp (of_decide_eq_false (refuse_ok hnamed))
  · exact .inl rfl

lemma paused_inserted (h : Inserts ext s a f) :
    Paused (inserted ext s a f) runId d ↔
      (a.runId = runId ∧ d = newDecision ext a f) ∨ Paused s runId d := by
  have hmem : d ∈ (inserted ext s a f).decisions.rows ↔
      d = newDecision ext a f ∨ (d ∈ s.decisions.rows ∧
        d.decisionId ≠ (newDecision ext a f).decisionId) := Table.mem_insert ..
  constructor
  · rintro ⟨hd, hrun, hstate⟩
    rcases hmem.mp hd with rfl | ⟨hold, -⟩
    · exact .inl ⟨hrun, rfl⟩
    · exact .inr ⟨hold, hrun, hstate⟩
  · rintro (⟨hrun, rfl⟩ | hold)
    · exact ⟨hmem.mpr (.inl rfl), hrun, rfl⟩
    · refine ⟨hmem.mpr (.inr ⟨hold.mem, ?_⟩), hold.run, hold.state⟩
      exact s.decisions.find?_eq_none.mp h.new d hold.mem

lemma paused_recovered {d₀ : PauseDecision} {reason : String} (hd₀ : d₀ ∈ s.decisions.rows)
    (hstate : state ≠ .paused) :
    Paused (recoveredStore s r d₀ state reason) runId d ↔ Paused s runId d ∧ d ≠ d₀ := by
  have hmem : d ∈ (recoveredStore s r d₀ state reason).decisions.rows ↔
      ∃ old ∈ s.decisions.rows, d = if old.decisionId = d₀.decisionId then
        old.recovered state reason r.actor r.now else old :=
    s.decisions.mem_modify _ (fun d => d.recovered state reason r.actor r.now) (fun _ => rfl)
  constructor
  · rintro ⟨hd, hrun, hpaused⟩
    obtain ⟨old, hold, rfl⟩ := hmem.mp hd
    split_ifs at hrun hpaused ⊢ with hid
    · exact absurd hpaused hstate
    · refine ⟨⟨hold, hrun, hpaused⟩, ?_⟩
      rintro rfl
      exact hid rfl
  · rintro ⟨hold, hne⟩
    have hid : d.decisionId ≠ d₀.decisionId := fun hid =>
      hne (s.decisions.eq_of_key_eq hold.mem hd₀ hid)
    exact ⟨hmem.mpr ⟨d, hold.mem, (if_neg hid).symm⟩, hold.run, hold.state⟩

/-- The run is there and the supervised-patch API does not own it. -/
structure Open (s : Store) (runId : String) : Prop where
  row : ∃ r, s.workflow.runs.find? runId = some r
  free : reasonOf s runId ≠ some apiOwnedSupervisedPatch

lemma setPauseReason_row (h : ∃ r, s.workflow.runs.find? runId = some r) :
    ∃ r, (s.setPauseReason runId' reason).workflow.runs.find? runId = some r := by
  obtain ⟨r, hr⟩ := h
  unfold Store.setPauseReason
  rw [Table.find?_modify, hr]
  split_ifs
  · exact ⟨_, rfl⟩
  · exact ⟨_, rfl⟩

lemma reasonOf_inserted (h : ∃ r, s.workflow.runs.find? a.runId = some r) :
    reasonOf (inserted ext s a f) runId = if runId = a.runId then
      some (pauseReason (newDecision ext a f).decisionId) else reasonOf s runId :=
  reasonOf_setPauseReason h

lemma reasonOf_recovered (h : Recovers s r d) {reason : String} :
    reasonOf (recoveredStore s r d state reason) runId =
      if runId = r.runId then none else reasonOf s runId :=
  reasonOf_setPauseReason h.row

lemma Open.step (h : Open s runId) (op : Op) : Open (step ext s op) runId := by
  cases op with
  | apply a =>
    rcases apply_cases ext s a with hstep | ⟨f, -, hrow, -, hstep⟩
    · rw [hstep]
      exact h
    · rw [hstep]
      refine ⟨setPauseReason_row h.row, ?_⟩
      rw [reasonOf_inserted hrow]
      split_ifs
      · exact fun heq => pauseReason_ne_api (some.inj heq)
      · exact h.free
  | recover r =>
    rcases recover_cases ext s r with hstep | ⟨d, state, reason, hrecovers, -, hstep⟩
    · rw [hstep]
      exact h
    · rw [hstep]
      refine ⟨setPauseReason_row h.row, ?_⟩
      rw [reasonOf_recovered hrecovers]
      split_ifs
      · exact nofun
      · exact h.free

lemma Open.run (h : Open s runId) (ops : List Op) : Open (run ext s ops) runId := by
  induction ops generalizing s with
  | nil => exact h
  | cons op ops ih => exact ih (h.step op)

lemma updateRunPauseReason_eq_ok (h : Open s runId) (hnone : ∀ d, ¬Paused s runId d)
    (hreason : reason ≠ some apiOwnedSupervisedPatch) :
    ∃ s', updateRunPauseReason s runId reason = .ok s' := by
  obtain ⟨r, hr⟩ := h.row
  have hfree : r.pauseReason ≠ some apiOwnedSupervisedPatch := by
    have hfree := h.free
    rwa [reasonOf, pauseReasonOf, hr] at hfree
  have hempty : pausedDecisions s runId = [] :=
    eq_nil_iff_forall_not_mem.mpr fun d hd => hnone d (mem_pausedDecisions.mp hd)
  have hnot : budgetPaused s runId = false := by
    rw [budgetPaused, hempty]
    rfl
  refine ⟨s.setPauseReason runId reason,
    bind_eq_ok.mpr ⟨(s.setPauseReason runId reason).workflow, ?_, rfl⟩⟩
  refine pass (decide_eq_false hreason) ?_
  rw [hr]
  refine seq_eq_ok.mpr ⟨requireOwner_ok hfree, ?_⟩
  exact pass hnot rfl

lemma updateRunPauseReason_refused (h : Paused s runId d) :
    ∃ e, updateRunPauseReason s runId reason = .error e := by
  cases hupdate : updateRunPauseReason s runId reason with
  | error e => exact ⟨e, rfl⟩
  | ok s' =>
    obtain ⟨workflow, hworkflow, -⟩ := bind_ok hupdate
    obtain ⟨-, hworkflow⟩ := seq_ok hworkflow
    cases hr : s.workflow.runs.find? runId with
    | none =>
      rw [hr] at hworkflow
      cases hworkflow
    | some r =>
      rw [hr] at hworkflow
      obtain ⟨-, hworkflow⟩ := seq_ok hworkflow
      obtain ⟨hnot, -⟩ := seq_ok hworkflow
      have hlength := of_decide_eq_false (refuse_ok hnot)
      have hpos := length_pos_of_mem (mem_pausedDecisions.mpr h)
      omega

/-- The row and the table agree, and one decision is in force at most. -/
structure Single (s : Store) (runId : String) : Prop extends Open s runId where
  agree : ((∀ d, ¬Paused s runId d) ∧ ∀ id, reasonOf s runId ≠ some (pauseReason id)) ∨
    ∃ d, Paused s runId d ∧ (∀ d', Paused s runId d' → d' = d) ∧
      reasonOf s runId = some (pauseReason d.decisionId)

variable (ext s runId a) in
/-- New evidence against a run that is paused already. -/
def Overlaps : Prop :=
  a.runId = runId ∧ (∃ d, Paused s runId d) ∧ ∃ f, Inserts ext s a f

lemma Single.apply (h : Single s runId) (hsingle : ¬Overlaps ext s runId a) :
    Single (step ext s (.apply a)) runId := by
  refine ⟨h.toOpen.step (.apply a), ?_⟩
  rcases apply_cases ext s a with hstep | ⟨f, hinserts, hrow, -, hstep⟩
  · rw [hstep]
    exact h.agree
  · rw [hstep]
    have hpaused : ∀ d, Paused (inserted ext s a f) runId d ↔ _ := fun d => paused_inserted hinserts
    by_cases hsame : a.runId = runId
    · -- nothing was in force, so the new decision is the only one
      have hnone : ∀ d, ¬Paused s runId d := fun d hd =>
        hsingle ⟨hsame, ⟨d, hd⟩, f, hinserts⟩
      refine .inr ⟨newDecision ext a f, (hpaused _).mpr (.inl ⟨hsame, rfl⟩), ?_, ?_⟩
      · intro d' hd'
        rcases (hpaused d').mp hd' with ⟨-, rfl⟩ | hold
        · rfl
        · exact absurd hold (hnone d')
      · rw [reasonOf_inserted hrow, if_pos hsame.symm]
    · have hkeep : ∀ d, Paused (inserted ext s a f) runId d ↔ Paused s runId d := by
        intro d
        rw [hpaused]
        exact ⟨fun hor => hor.resolve_left fun hboth => hsame hboth.1, .inr⟩
      rw [reasonOf_inserted hrow, if_neg (Ne.symm hsame)]
      simpa [hkeep] using h.agree

lemma Single.recover (h : Single s runId) (r : Recover) :
    Single (step ext s (.recover r)) runId := by
  refine ⟨h.toOpen.step (.recover r), ?_⟩
  rcases recover_cases ext s r with hstep | ⟨d, state, reason, hrecovers, hstate, hstep⟩
  · rw [hstep]
    exact h.agree
  · rw [hstep, reasonOf_recovered hrecovers]
    have hpaused : ∀ d', Paused (recoveredStore s r d state reason) runId d' ↔
        Paused s runId d' ∧ d' ≠ d := fun d' => paused_recovered hrecovers.paused.mem hstate
    by_cases hsame : r.runId = runId
    · refine .inl ⟨fun d' hd' => ?_, fun id => ?_⟩
      · obtain ⟨hold, hne⟩ := (hpaused d').mp hd'
        have hd : Paused s runId d := hsame ▸ hrecovers.paused
        rcases h.agree with ⟨hnone, -⟩ | ⟨only, -, honly, -⟩
        · exact hnone d hd
        · exact hne ((honly d' hold).trans (honly d hd).symm)
      · rw [if_pos hsame.symm]
        exact nofun
    · have hkeep : ∀ d', Paused (recoveredStore s r d state reason) runId d' ↔
          Paused s runId d' := by
        intro d'
        rw [hpaused]
        refine ⟨And.left, fun hd' => ⟨hd', ?_⟩⟩
        rintro rfl
        exact hsame (hrecovers.paused.run.symm.trans hd'.run)
      rw [if_neg (Ne.symm hsame)]
      simpa [hkeep] using h.agree

/-- What is asked of the two tables, and that some recoveries end every pause of the run. -/
structure Consistent (ext : Externals) (s : Store) (runId : String) : Prop where
  agrees : (∃ id, reasonOf s runId = some (pauseReason id)) ↔ ∃ d, Paused s runId d
  named : ∀ id, reasonOf s runId = some (pauseReason id) → ∃ d, Paused s runId d ∧ d.decisionId = id
  recoverable : ∃ rs : List Recover, (∀ d, ¬Paused (run ext s (rs.map .recover)) runId d) ∧
    ∀ reason ≠ some apiOwnedSupervisedPatch,
      ∃ s', updateRunPauseReason (run ext s (rs.map .recover)) runId reason = .ok s'

/-- A text that an operator may give as the reason of a recovery. -/
def Accepted (ext : Externals) (reason : String) : Prop :=
  trim ext.isWhitespace reason ≠ "" ∧ (trim ext.isWhitespace reason).utf8ByteSize ≤ 512

lemma step_recovers (hstate : r.recovery = "resume") (hreason : Accepted ext r.reason)
    (hactive : activePauseDecision ext s r.runId = some d) (hopen : Open s r.runId)
    (hnamed : reasonOf s r.runId = some (pauseReason d.decisionId)) :
    step ext s (.recover r) = recoveredStore s r d .resume (trim ext.isWhitespace r.reason) := by
  obtain ⟨run, hrun⟩ := hopen.row
  have hfree := hopen.free
  rw [reasonOf, pauseReasonOf, hrun] at hfree hnamed
  have hok : recoverBudgetAutoPause ext s r =
      .ok (d.recovered .resume (trim ext.isWhitespace r.reason) r.actor r.now,
        recoveredStore s r d .resume (trim ext.isWhitespace r.reason)) := by
    refine bind_eq_ok.mpr ⟨.resume, by rw [hstate]; rfl, ?_⟩
    refine seq_eq_ok.mpr ⟨refuse_eq_ok.mpr ?_, ?_⟩
    · rw [Bool.or_eq_false_iff]
      exact ⟨decide_eq_false hreason.1, decide_eq_false (Nat.not_lt.mpr hreason.2)⟩
    refine bind_eq_ok.mpr ⟨d, required_eq_ok.mpr hactive, ?_⟩
    refine bind_eq_ok.mpr ⟨run, required_eq_ok.mpr hrun, ?_⟩
    refine seq_eq_ok.mpr ⟨requireOwner_ok hfree, ?_⟩
    exact pass (decide_eq_false (not_not.mpr hnamed)) rfl
  unfold step
  dsimp only
  rw [hok]

lemma Single.consistent (h : Single s runId) {word : String} (hword : Accepted ext word) :
    Consistent ext s runId := by
  rcases h.agree with ⟨hnone, hreason⟩ | ⟨d, hd, honly, hreason⟩
  · refine ⟨⟨?_, ?_⟩, ?_, [], hnone, fun reason hne => ?_⟩
    · rintro ⟨id, hid⟩
      exact absurd hid (hreason id)
    · rintro ⟨d, hd⟩
      exact absurd hd (hnone d)
    · intro id hid
      exact absurd hid (hreason id)
    · exact updateRunPauseReason_eq_ok h.toOpen hnone hne
  · refine ⟨⟨fun _ => ⟨d, hd⟩, fun _ => ⟨_, hreason⟩⟩, ?_, ?_⟩
    · intro id hid
      rw [hreason] at hid
      exact ⟨d, hd, pauseReason_injective (some.inj hid)⟩
    · obtain ⟨active, hactive⟩ := exists_active ext hd
      obtain rfl := honly active (active_paused hactive)
      let r : Recover := ⟨runId, "resume", word, "", ""⟩
      have hstep : run ext s [.recover r] = _ :=
        step_recovers (r := r) rfl hword hactive h.toOpen hreason
      have hnone : ∀ d', ¬Paused (run ext s [.recover r]) runId d' := by
        intro d' hd'
        rw [hstep, paused_recovered hd.mem (by decide)] at hd'
        exact hd'.2 (honly d' hd'.1)
      exact ⟨[r], hnone, fun reason hne =>
        updateRunPauseReason_eq_ok (h.toOpen.run [.recover r]) hnone hne⟩

variable (s runId d) in
structure Hidden : Prop where
  paused : Paused s runId d
  unnamed : reasonOf s runId ≠ some (pauseReason d.decisionId)

lemma Hidden.step (h : Hidden s runId d) (op : Op) : Hidden (step ext s op) runId d := by
  cases op with
  | apply a =>
    rcases apply_cases ext s a with hstep | ⟨f, hinserts, hrow, -, hstep⟩
    · rw [hstep]
      exact h
    · rw [hstep]
      refine ⟨(paused_inserted hinserts).mpr (.inr h.paused), ?_⟩
      rw [reasonOf_inserted hrow]
      split_ifs
      · intro heq
        have hid := pauseReason_injective (some.inj heq)
        exact s.decisions.find?_eq_none.mp hinserts.new d h.paused.mem hid.symm
      · exact h.unnamed
  | recover r =>
    rcases recover_cases ext s r with hstep | ⟨d₀, state, reason, hrecovers, hstate, hstep⟩
    · rw [hstep]
      exact h
    · rw [hstep]
      refine ⟨(paused_recovered hrecovers.paused.mem hstate).mpr ⟨h.paused, ?_⟩, ?_⟩
      · -- the decision taken back is the one that the row of its run names
        rintro rfl
        have hrun : r.runId = runId := hrecovers.paused.run.symm.trans h.paused.run
        exact h.unnamed (hrun ▸ hrecovers.named)
      · rw [reasonOf_recovered hrecovers]
        split_ifs
        · exact nofun
        · exact h.unnamed

lemma Hidden.run (h : Hidden s runId d) (ops : List Op) : Hidden (run ext s ops) runId d := by
  induction ops generalizing s with
  | nil => exact h
  | cons op ops ih => exact ih (h.step op)

/-- The older of two pauses is hidden by the newer one. -/
lemma Overlaps.hidden (h : Overlaps ext s runId a) (hopen : Open s runId) :
    ∃ d, Hidden (step ext s (.apply a)) runId d := by
  obtain ⟨rfl, ⟨d, hd⟩, f, hinserts⟩ := h
  obtain ⟨r, hr⟩ := hopen.row
  have hfree := hopen.free
  rw [reasonOf, pauseReasonOf, hr] at hfree
  refine ⟨d, ?_⟩
  rw [step_inserts hinserts hr hfree]
  refine ⟨(paused_inserted hinserts).mpr (.inr hd), ?_⟩
  rw [reasonOf_inserted ⟨r, hr⟩, if_pos rfl]
  intro heq
  have hid := pauseReason_injective (some.inj heq)
  exact s.decisions.find?_eq_none.mp hinserts.new d hd.mem hid.symm

lemma run_take_succ {op : Op} (h : ops[n]? = some op) :
    run ext s (ops.take (n + 1)) = step ext (run ext s (ops.take n)) op :=
  foldl_take_succ h

lemma Single.run_take (h : Single s runId)
    (hsingle : ∀ n a, ops[n]? = some (.apply a) → ¬Overlaps ext (run ext s (ops.take n)) runId a) :
    Single (run ext s (ops.take n)) runId := by
  induction n with
  | zero => exact h
  | succ n ih =>
    cases hop : ops[n]? with
    | none =>
      rw [take_succ_eq_take hop]
      exact ih
    | some op =>
      rw [run_take_succ hop]
      cases op with
      | apply a => exact ih.apply (hsingle n a hop)
      | recover r => exact ih.recover r

/-- Over any sequence of pauses and recoveries, from a store in which the row and the table agree:
they agree after every step, and every pause can be taken back, just in case no new evidence
pauses the run while it is paused. -/
theorem budget_pause_consistent_iff (h : Single s runId) {word : String}
    (hword : Accepted ext word) (ops : List Op) :
    (∀ n, Consistent ext (run ext s (ops.take n)) runId) ↔
      ∀ n a, ops[n]? = some (.apply a) → ¬Overlaps ext (run ext s (ops.take n)) runId a := by
  constructor
  · intro hconsistent n a hop hoverlaps
    obtain ⟨d, hd⟩ := hoverlaps.hidden (h.toOpen.run _)
    rw [← run_take_succ hop] at hd
    obtain ⟨rs, hnone, -⟩ := (hconsistent (n + 1)).recoverable
    exact hnone d (hd.run _).paused
  · intro hsingle n
    exact (h.run_take hsingle).consistent hword

def pauseExternals : Externals where
  sha256 := id
  parseRfc3339 := fun _ => some 0
  isWhitespace := (· = ' ')
  validateCommon := fun _ => .ok ()
  validateMeasurement := fun _ => .ok ()
  tie := fun _ => 0

def sampleFinding : AnomalyFinding where
  scopeRunId := some "run-1"
  outcome := .supported
  generatedAt := "10:00"
  freshnessSeconds := 5
  pricingComplete := true
  confidenceLevel := .high
  confidenceScore := 1
  reasonCodes := ["spike"]
  detected := true
  anomalyKind := some .tokenSpike
  severity := some .critical
  measured := true
  evidenceSha256 := "e"

def pauseStore : Store where
  workflow := plainStore [plainRow "a" "unit" .pending] []
  artifacts := fun _ => .ok (some ⟨"anomaly", .ok sampleFinding⟩)
  decisions := .empty

def sampleApply (artifactId now : String) : Apply where
  artifactId := artifactId
  runId := "run-1"
  policy := ⟨"budget_auto_pause_policy.v1", true, 1, 60, true⟩
  actor := "operator"
  now := now

def sampleRecover : Recover := ⟨"run-1", "resume", "done", "operator", "10:02"⟩

lemma single_pauseStore : Single pauseStore "run-1" := by
  refine ⟨⟨⟨_, rfl⟩, by decide⟩, .inl ⟨?_, ?_⟩⟩
  · rintro d ⟨hd, -, -⟩
    cases hd
  · intro id hid
    cases hid

/-- Two pauses and one recovery: the row is free of any pause, the first decision stays in force
whatever is done, and so the pause of the run can never be changed again. -/
theorem budget_pause_hidden :
    Single pauseStore "run-1" ∧
    reasonOf (run pauseExternals pauseStore [.apply (sampleApply "x" "10:00"),
      .apply (sampleApply "y" "10:01"), .recover sampleRecover]) "run-1" = none ∧
    ∀ ops : List Op,
      (∃ d, Paused (run pauseExternals pauseStore (.apply (sampleApply "x" "10:00") ::
        .apply (sampleApply "y" "10:01") :: ops)) "run-1" d) ∧
      ∀ reason, ∃ e, updateRunPauseReason (run pauseExternals pauseStore
        (.apply (sampleApply "x" "10:00") :: .apply (sampleApply "y" "10:01") :: ops))
        "run-1" reason = .error e := by
  have hhidden : Hidden (run pauseExternals pauseStore [.apply (sampleApply "x" "10:00"),
      .apply (sampleApply "y" "10:01")]) "run-1"
      (newDecision pauseExternals (sampleApply "x" "10:00") sampleFinding) :=
    ⟨⟨of_decide_eq_true rfl, rfl, rfl⟩, of_decide_eq_true rfl⟩
  refine ⟨single_pauseStore, by rfl, fun ops => ?_⟩
  have hrun : Paused (run pauseExternals _ ops) "run-1" _ := (Hidden.run hhidden ops).paused
  exact ⟨⟨_, hrun⟩, fun reason => updateRunPauseReason_refused hrun⟩

lemma accepted_sample : Accepted pauseExternals "done" := ⟨by decide, by decide⟩

/-- One pause, its recovery and the next pause. -/
theorem budget_pause_consistent_sample :
    Single pauseStore "run-1" ∧
    ∀ n, Consistent pauseExternals (run pauseExternals pauseStore
      (([.apply (sampleApply "x" "10:00"), .recover sampleRecover,
        .apply (sampleApply "y" "10:03")] : List Op).take n)) "run-1" := by
  refine ⟨single_pauseStore,
    (budget_pause_consistent_iff single_pauseStore accepted_sample _).mpr ?_⟩
  rintro n a hop ⟨-, ⟨d, hd⟩, -⟩
  have hmem := mem_pausedDecisions.mpr hd
  rcases n with _ | _ | _ | n
  · cases hmem
  · cases hop
  · -- the recovery has ended the only pause
    have hnone : pausedDecisions (run pauseExternals pauseStore
      [.apply (sampleApply "x" "10:00"), .recover sampleRecover]) "run-1" = [] := by rfl
    exact not_mem_nil (hnone ▸ hmem)
  · cases hop

section Leases

variable {x : Harness.Externals}
  {mint : Mint}
  {w : WorkflowStore} {q : WorkflowStore.LeaseRequest}

variable (x mint w q) in
def leasedNode : Option String :=
  match w.leasePhase x mint q with
  | .ok (.leased nodeId _ _, _) => some nodeId
  | _ => none

variable (w q) in
/-- The run has nothing for this request: its owner is not the one that the caller expects, it is
missing or over, or every row that waits has a predecessor to wait for or is kept back by a cap. -/
def Resting : Prop :=
  (w.pauseReasonOf q.runId = some apiOwnedSupervisedPatch ↔
      q.expectedOwner ≠ some apiOwnedSupervisedPatch) ∨
    (∀ run, w.runs.find? q.runId = some run → run.status.isTerminal = true) ∨
    ∀ r ∈ w.rowsOf q.runId, w.isReady q.runId r = true → w.capped q r = .ok true

lemma owner_eq_ok {reason expected : Option String}
    (h : requireRunExecutionOwner runId reason expected = .ok ()) :
    reason = some apiOwnedSupervisedPatch ↔ expected = some apiOwnedSupervisedPatch := by
  unfold requireRunExecutionOwner at h
  split_ifs at h with hreason
  · exact iff_of_true hreason (by simpa using refuse_ok h)
  · exact iff_of_false hreason (by simpa using refuse_ok h)

lemma capped_startedStore {run : RunRecord} {r : NodeRow} :
    (startedStore w q run).capped q r = w.capped q r := by
  unfold startedStore
  split_ifs <;> rfl

lemma leasedNode_of_resting (h : Resting w q) : leasedNode x mint w q = none := by
  unfold leasedNode
  split
  · next hphase =>
    obtain ⟨run, hrun, howner, hopen, ⟨-, -, hresult⟩ | ⟨r, hchosen, -⟩⟩ := leasePhase_cases hphase
    · split at hresult <;> cases hresult
    · have hreason : w.pauseReasonOf q.runId = run.pauseReason := by
        rw [pauseReasonOf, hrun]
        rfl
      rcases h with hother | hover | hwaits
      · rw [hreason, owner_eq_ok howner] at hother
        exact absurd hother iff_not_self
      · rw [hover run hrun] at hopen
        cases hopen
      · obtain ⟨hfind, hready, hfree⟩ := selectNode_eq_ok hchosen
        rw [(graph_startedStore w q run).1] at hfind hready
        rw [capped_startedStore, hwaits r (WorkflowGraph.mem_rowsOf.mpr hfind) hready] at hfree
        cases hfree
  · rfl

variable (x mint) in
/-- The requests for a lease of the run that come while a decision pauses it, with the store that
each of them meets. -/
def MeetsPause (ext : Externals) (s : Store) (runId : String) (ops : List TickOp)
    (q : WorkflowStore.LeaseRequest) (s' : Store) : Prop :=
  q.runId = runId ∧
    ∃ n, ops[n]? = some (.lease q) ∧
      s' = tickRun x mint ext s (ops.take n) ∧
      ∃ d, Paused s' runId d

/-- Over any interleaving of pauses, recoveries and leases: a paused run has no node leased if each
request that comes in the meantime finds the run at rest. -/
theorem paused_run_idle_of_resting (runId : String) (ops : List TickOp)
    (hrest : ∀ q s', MeetsPause x mint ext s runId ops q s' → Resting s'.workflow q) :
    ∀ q s', MeetsPause x mint ext s runId ops q s' →
      leasedNode x mint s'.workflow q = none :=
  fun q s' hmeets => leasedNode_of_resting (hrest q s' hmeets)

end Leases

/-- A worker that listed the run before it was paused leases its node. -/
theorem paused_run_leases :
    ∃ d, Paused (run pauseExternals pauseStore [.apply (sampleApply "x" "10:00")]) "run-1" d ∧
      leasedNode sampleExternals (fun _ _ _ _ _ => "")
        (run pauseExternals pauseStore [.apply (sampleApply "x" "10:00")]).workflow plainLease =
          some "a" :=
  ⟨newDecision pauseExternals (sampleApply "x" "10:00") sampleFinding,
    ⟨of_decide_eq_true rfl, rfl, rfl⟩, by rfl⟩

/-- One node under way, and one that waits for it. -/
def waitingStore : Store where
  workflow := plainStore [plainRow "a" "unit" .running, plainRow "b" "unit" .pending]
    [⟨"run-1", "a", "b"⟩]
  artifacts := pauseStore.artifacts
  decisions := .empty

theorem paused_run_idle_sample :
    (∃ q s', MeetsPause sampleExternals (fun _ _ _ _ _ => "") pauseExternals waitingStore "run-1"
      [.pause (.apply (sampleApply "x" "10:00")), .lease plainLease] q s') ∧
    ∀ q s', MeetsPause sampleExternals (fun _ _ _ _ _ => "") pauseExternals waitingStore "run-1"
      [.pause (.apply (sampleApply "x" "10:00")), .lease plainLease] q s' →
        leasedNode sampleExternals (fun _ _ _ _ _ => "") s'.workflow q = none := by
  refine ⟨⟨plainLease, _, rfl, 1, rfl, rfl, newDecision pauseExternals (sampleApply "x" "10:00")
    sampleFinding, of_decide_eq_true rfl, rfl, rfl⟩, paused_run_idle_of_resting "run-1" _ ?_⟩
  rintro q s' ⟨-, n, hop, rfl, -⟩
  rcases n with _ | _ | n
  · cases hop
  · obtain rfl := TickOp.lease.inj (some.inj hop)
    refine .inr (.inr fun r hr hready => ?_)
    rcases mem_pair.mp hr with rfl | rfl
    · cases hready
    · cases hready
  · cases hop

end Harness.BudgetPause
