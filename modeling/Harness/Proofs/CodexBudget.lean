import Harness.Sanity.CodexRun

/-! The gateway over whole runs: how many requests are sent and what they are charged against,
and what the journal still says after a crash. -/

namespace Harness.Codex

open Lib CodexUsageJournal List Option Machine

variable {isWhitespace : Char → Bool} {a : CodexBudgetAuthority} {subscription : Bool}
  {settled unsettled : List Forward} {e : CodexUsageJournalEntry} {g g' : GatewayState}
  {m : Machine} {w : Write} {j j' : CodexUsageJournal} {result : Except String Unit}

/-- A request that nothing interrupts is four events; it takes the gateway down when it panics. -/
lemma phase_run_dispatchRequest {reply : Option Reply} (hready : m.phase = .ready g)
    (hstop : g.stop = false) (now : U64) (r : HttpRequest) (upstream : Upstream)
    (reserve settle idle : Write)
    (h : dispatchRequest g now r upstream reserve settle idle = (reply, g')) :
    (m.run isWhitespace a subscription
        [.request now r reserve, .forward upstream, .answer settle, .idle idle]).phase =
      if reply.isSome then .ready g' else .down (some g'.journal.file) := by
  obtain ⟨phase, settled, unsettled⟩ := m
  cases hready
  unfold dispatchRequest at h
  have hrequest : step isWhitespace a subscription ⟨.ready g, settled, unsettled⟩
      (.request now r reserve) = _ := if_neg (ne_true_of_eq_false hstop)
  rw [run, foldl_cons, hrequest]
  rcases ha : admitRequest g now r reserve with ⟨refusal | _ | _, g₁⟩ <;> rw [ha] at h
  · cases h
    rfl
  · cases h
    rfl
  · dsimp only at h ⊢
    rcases hs : settleForward g₁ upstream settle with ⟨_ | answer, g₂⟩ <;> rw [hs] at h
    · cases upstream with
      | failed => cases hs
      | silent => cases hs
      | reported =>
        cases h
        simp only [foldl_cons, foldl_nil, step, hs]
        rfl
    · cases h
      simp only [foldl_cons, foldl_nil, step, hs]
      rfl

/-- Neither the file nor the gateway lets a request through. -/
def Stuck (m : Machine) : Prop :=
  match m.phase with
  | .down (some e) => ¬e.state.isOpen
  | .ready g => ¬g.journal.file.state.isOpen ∧
      (g.journal.isHalted = true ∨ ¬g.journal.entry.state.isOpen)
  | _ => False

lemma resumeExactAttempt_stuck {id : JournalIdentity} (h : resumeExactAttempt e id w = .ok j)
    (hclosed : ¬e.state.isOpen) : ¬j.file.state.isOpen ∧ ¬j.entry.state.isOpen := by
  rcases resumeExactAttempt_cases h with ⟨-, rfl⟩ | ⟨-, -, rfl⟩
  · exact ⟨not_isOpen_outcomeUnknown, not_isOpen_outcomeUnknown⟩
  · exact ⟨hclosed, hclosed⟩

variable {event : Event} {r : HttpRequest} {now x y : U64}

lemma admitRequest_blocked {admission : Admission}
    (hblocked : g.journal.isHalted = true ∨ ¬g.journal.entry.state.isOpen)
    (h : admitRequest g now r w = (admission, g')) : admission ≠ .reserved ∧ g' = g := by
  unfold admitRequest at h
  cases hreq : requestRefusal g now r with
  | error refusal =>
    rw [hreq] at h
    cases h
    exact ⟨fun hr => requestRefusal_ne_reserved (hr ▸ hreq), rfl⟩
  | ok body =>
    rw [hreq] at h
    dsimp only at h
    cases hbudget : budgetRefusal g body.encodedLength with
    | some reply =>
      rw [hbudget] at h
      cases h
      exact ⟨nofun, rfl⟩
    | none =>
      obtain ⟨reason, hadmits⟩ := admitsNewRequest_blocked hblocked
      cases hadmits.symm.trans (budgetRefusal_eq_none hbudget).admits

lemma Stuck.start (hclosed : ¬e.state.isOpen) :
    Stuck
      (step isWhitespace a subscription ⟨.down (some e), settled, unsettled⟩ (.start now w)) := by
  unfold step
  dsimp only
  split
  · exact hclosed
  · rename_i g hstart
    obtain ⟨_, -, hstart⟩ := bind_ok hstart
    obtain ⟨j, hj, hstart⟩ := bind_ok hstart
    cases hstart
    obtain ⟨hfile, hentry⟩ := resumeExactAttempt_stuck hj hclosed
    exact ⟨hfile, .inr hentry⟩

lemma Stuck.request (hclosed : ¬g.journal.file.state.isOpen)
    (hblocked : g.journal.isHalted = true ∨ ¬g.journal.entry.state.isOpen) :
    Stuck (step isWhitespace a subscription ⟨.ready g, settled, unsettled⟩ (.request now r w)) := by
  unfold step
  dsimp only
  split_ifs
  · exact ⟨hclosed, hblocked⟩
  · split
    · rename_i reply g' hadmit
      obtain ⟨-, rfl⟩ := admitRequest_blocked hblocked hadmit
      exact ⟨hclosed, hblocked⟩
    · rename_i g' hadmit
      obtain ⟨-, rfl⟩ := admitRequest_blocked hblocked hadmit
      exact hclosed
    · rename_i g' hadmit
      exact absurd rfl (admitRequest_blocked hblocked hadmit).1

lemma Stuck.halt (hclosed : ¬g.journal.file.state.isOpen) (w : Write) :
    Stuck ⟨.ready (haltGateway g w), settled, unsettled⟩ := by
  obtain ⟨hhalt, hentry, hfile⟩ := halt_spec
  refine ⟨?_, .inl hhalt⟩
  change ¬(g.journal.halt w).2.file.state.isOpen
  rcases hfile with hfile | hfile
  · rw [hfile, hentry]
    exact not_isOpen_persistenceFailed
  · rwa [hfile]

lemma step_forwards (h : ∀ g, m.phase ≠ .reserved g) (hsent : ∀ g u, m.phase ≠ .sent g u) :
    (m.step isWhitespace a subscription event).forwards = m.forwards := by
  obtain ⟨phase, settled, unsettled⟩ := m
  cases phase with
  | reserved g => exact absurd rfl (h g)
  | sent g u => exact absurd rfl (hsent g u)
  | down file =>
    cases event with
    | start now w =>
      unfold step
      dsimp only
      split <;> rfl
    | _ => rfl
  | ready g =>
    cases event with
    | request now r w =>
      unfold step
      dsimp only
      split_ifs
      · rfl
      · split <;> rfl
    | _ => rfl
  | committed g status => cases event <;> rfl

variable (isWhitespace a subscription) in
lemma Stuck.step (h : Stuck m) (event : Event) :
    Stuck (m.step isWhitespace a subscription event) ∧
      (m.step isWhitespace a subscription event).forwards = m.forwards := by
  refine ⟨?_, step_forwards (fun g hg => ?_) (fun g u hg => ?_)⟩
  · obtain ⟨phase, settled, unsettled⟩ := m
    cases phase with
    | down file =>
      cases file with
      | none => exact h.elim
      | some e =>
        cases event with
        | start now w => exact Stuck.start h
        | _ => exact h
    | ready g =>
      cases event with
      | crash => exact h.1
      | request now r w => exact Stuck.request h.1 h.2
      | halt w => exact Stuck.halt h.1 w
      | _ => exact h
    | reserved g => exact h.elim
    | sent g u => exact h.elim
    | committed g status => exact h.elim
  · unfold Stuck at h
    rw [hg] at h
    exact h
  · unfold Stuck at h
    rw [hg] at h
    exact h

variable (isWhitespace a subscription) in
lemma Stuck.run (h : Stuck m) (events : List Event) :
    Stuck (m.run isWhitespace a subscription events) ∧
      (m.run isWhitespace a subscription events).forwards = m.forwards := by
  induction events generalizing m with
  | nil => exact ⟨h, rfl⟩
  | cons event events ih =>
    obtain ⟨hstuck, hforwards⟩ := h.step isWhitespace a subscription event
    exact ⟨(ih hstuck).1, (ih hstuck).2.trans hforwards⟩

/-- A request that is reserved, under way or lost leaves a file that is not open. -/
lemma Inv.file_closed (h : Inv a m) (he : m.file = some e)
    (hlost : (∃ g, m.phase = .reserved g) ∨ m.unsettled ≠ [] ∨ e.state = .outcomeUnknown) :
    ¬e.state.isOpen := by
  rcases hlost with ⟨g, hphase⟩ | hlost | hstate
  · cases h with
    | reserved hfit hbusy =>
      cases he
      rcases hbusy.file with hfile | hfile
      · rw [hfile, hbusy.flight.state]
        exact not_isOpen_inFlight
      · rw [hfile]
        exact not_isOpen_persistenceFailed
    | _ => cases hphase
  · exact fun ho => hlost ((h.file he).settled_of_open ho)
  · rw [hstate]
    exact not_isOpen_outcomeUnknown

lemma Stuck.crash (he : m.file = some e) (hclosed : ¬e.state.isOpen) :
    Stuck { m with phase := .down m.file } := by
  rw [he]
  exact hclosed

lemma Stuck.admits_nothing (h : Stuck m) (hphase : m.phase = .ready g) :
    ∃ reason, g.journal.admitsNewRequest = .error reason := by
  unfold Stuck at h
  rw [hphase] at h
  exact admitsNewRequest_blocked h.2

/-- A lost request on record in memory is on record in the file, unless the journal is halted. -/
lemma Ready.stuck_of_unknown (h : Ready a settled unsettled g)
    (he : some g.journal.file = some e ∨ some g.journal.entry = some e)
    (hstate : e.state = .outcomeUnknown) :
    ¬g.journal.file.state.isOpen ∧ (g.journal.isHalted = true ∨ ¬g.journal.entry.state.isOpen) := by
  have hclosed : ¬e.state.isOpen := by
    rw [hstate]
    exact not_isOpen_outcomeUnknown
  cases hhalt : g.journal.isHalted with
  | false =>
    have hsame := h.written hhalt
    have hfile : g.journal.file = e :=
      he.elim some.inj fun he => hsame.symm.trans (some.inj he)
    rw [hsame, hfile]
    exact ⟨hclosed, .inr hclosed⟩
  | true =>
    rcases he with he | he
    · rw [some.inj he]
      exact ⟨hclosed, .inl rfl⟩
    · have hfailed := h.failed hhalt
      rw [some.inj he, hstate] at hfailed
      cases hfailed

lemma Busy.ne_unknown {e' : CodexUsageJournalEntry} (h : Busy a settled g e')
    (he : some g.journal.file = some e ∨ some g.journal.entry = some e) :
    e.state ≠ .outcomeUnknown := by
  have hmarked : Marked e' e := he.elim (fun he => some.inj he ▸ h.file)
    fun he => some.inj he ▸ h.entry
  rcases hmarked with rfl | rfl
  · rw [h.flight.state]
    intro hs
    cases hs
  · intro hs
    cases hs

lemma Inv.stuck_of_unknown (h : Inv a m) (he : m.file = some e ∨ m.entry = some e)
    (hstate : e.state = .outcomeUnknown) : Stuck m := by
  cases h with
  | fresh => exact he.elim nofun nofun
  | down hfit hbook =>
    cases (he.elim id id)
    change ¬JournalRequestState.isOpen _
    rw [hstate]
    exact not_isOpen_outcomeUnknown
  | ready hfit h => exact h.stuck_of_unknown he hstate
  | reserved hfit h => exact absurd hstate (h.ne_unknown he)
  | sent hfit h _ _ _ _ => exact absurd hstate (h.ne_unknown he)
  | committed hfit h hhalt hopen =>
    rcases (h.stuck_of_unknown he hstate).2 with hno | hno
    · rw [hhalt] at hno
      cases hno
    · exact absurd hopen hno

def Event.writesSucceed : Event → Bool
  | .start _ w | .request _ _ w | .answer w | .idle w => w.succeeds
  | .forward _ | .crash => true
  | .halt _ => false

/-- No write of the journal has failed. -/
structure Healthy (j : CodexUsageJournal) : Prop where
  halted : j.halted = false
  entry : j.entry.state ≠ .persistenceFailed
  file : j.file.state ≠ .persistenceFailed

def HealthyMachine (m : Machine) : Prop :=
  match m.phase with
  | .down none => True
  | .down (some e) => e.state ≠ .persistenceFailed
  | .ready g | .reserved g | .sent g _ | .committed g _ => Healthy g.journal

lemma healthy_persist (hj : j.persist w = (result, j')) (hw : w.succeeds = true)
    (hhalted : j.halted = false) (hstate : j.entry.state ≠ .persistenceFailed) : Healthy j' := by
  unfold persist at hj
  rw [if_pos hw] at hj
  cases hj
  exact ⟨hhalted, hstate, hstate⟩

lemma Healthy.reserve (h : Healthy j) (hw : w.succeeds = true)
    (hj : j.reserveBeforeForward x y w = (result, j')) : Healthy j' := by
  unfold reserveBeforeForward at hj
  split at hj
  · cases hj
    exact h
  · exact healthy_persist hj hw h.halted nofun

lemma Healthy.mark (h : Healthy j) (hw : w.succeeds = true)
    (hj : j.markOutcomeUnknownWithUsage x y w = (result, j')) : Healthy j' := by
  unfold markOutcomeUnknownWithUsage at hj
  split_ifs at hj
  · cases hj
    exact h
  · exact healthy_persist hj hw h.halted nofun

lemma Healthy.commit {id : Option String} (h : Healthy j) (hw : w.succeeds = true)
    (hj : j.recordCommit x y id w = (result, j')) : Healthy j' := by
  unfold recordCommit at hj
  split_ifs at hj
  · cases hj
    exact h
  · cases hj
    exact h
  · exact healthy_persist hj hw h.halted nofun

lemma Healthy.admitRequest (h : Healthy g.journal) (hw : w.succeeds = true) (now : U64)
    (r : HttpRequest) : Healthy (admitRequest g now r w).2.journal := by
  unfold Codex.admitRequest
  split
  · exact h
  · split
    · exact h
    · split
      · rename_i hj
        exact h.reserve hw hj
      · rename_i hj
        exact h.reserve hw hj

lemma Healthy.settleUnknown (h : Healthy g.journal) (hw : w.succeeds = true) :
    Healthy (settleUnknown g w).journal := by
  unfold Codex.settleUnknown
  split
  · rename_i hj
    exact h.mark hw hj
  · rename_i hj
    exact h.mark hw hj

lemma Healthy.settleForward (h : Healthy g.journal) (hw : w.succeeds = true) (u : Upstream) :
    Healthy (settleForward g u w).2.journal := by
  cases u with
  | failed reason input output => exact h.settleUnknown hw
  | silent status reason input output => exact h.settleUnknown hw
  | reported status id input output =>
    unfold Codex.settleForward
    dsimp only
    split_ifs
    · unfold settleExceeded
      split
      · rename_i hj
        exact h.mark hw hj
      · rename_i hj
        exact h.mark hw hj
    · split
      · rename_i hj
        exact h.commit hw hj
      · rename_i hj
        exact h.commit hw hj

lemma Healthy.finishCommit (h : Healthy g.journal) (hw : w.succeeds = true) (status : ℕ) :
    Healthy (finishCommit g status w).2.journal := by
  unfold Codex.finishCommit
  split
  · rename_i hj
    exact healthy_persist hj hw h.halted nofun
  · rename_i hj
    exact healthy_persist hj hw h.halted nofun

lemma healthy_start {file : Option CodexUsageJournalEntry}
    (hfile : ∀ e, file = some e → e.state ≠ .persistenceFailed)
    (h : GatewayState.start isWhitespace a subscription now file w = .ok g) :
    Healthy g.journal := by
  obtain ⟨_, -, h⟩ := bind_ok h
  cases file with
  | none =>
    obtain ⟨j, hj, h⟩ := bind_ok h
    iterate 2 obtain ⟨-, -, hj⟩ := bind_ok hj
    cases hj
    cases h
    exact ⟨rfl, nofun, nofun⟩
  | some e =>
    obtain ⟨j, hj, h⟩ := bind_ok h
    cases h
    have he := hfile e rfl
    rcases resumeExactAttempt_cases hj with ⟨-, rfl⟩ | ⟨-, -, rfl⟩
    · exact ⟨rfl, nofun, nofun⟩
    · exact ⟨decide_eq_false he, he, he⟩

lemma HealthyMachine.step (h : HealthyMachine m) (hevent : event.writesSucceed = true) :
    HealthyMachine (m.step isWhitespace a subscription event) := by
  obtain ⟨phase, settled, unsettled⟩ := m
  cases phase with
  | down file =>
    cases event with
    | start now w =>
      unfold step
      dsimp only
      split
      · exact h
      · rename_i g hstart
        refine healthy_start (fun e he => ?_) hstart
        subst he
        exact h
    | crash => cases file <;> exact h
    | _ => exact h
  | ready g =>
    cases event with
    | crash => exact h.file
    | request now r w =>
      have hadmit := Healthy.admitRequest h hevent now r
      unfold step
      dsimp only
      split_ifs
      · exact h
      · split
        · rename_i hr
          rw [hr] at hadmit
          exact hadmit
        · rename_i hr
          rw [hr] at hadmit
          exact hadmit.file
        · rename_i hr
          rw [hr] at hadmit
          exact hadmit
    | halt w => cases hevent
    | _ => exact h
  | reserved g =>
    cases event with
    | crash => exact h.file
    | halt w => cases hevent
    | _ => exact h
  | sent g u =>
    cases event with
    | crash => exact h.file
    | answer w =>
      have hsettle := Healthy.settleForward h hevent u
      unfold step
      dsimp only
      cases hr : settleForward g u w with
      | mk reply g' =>
        rw [hr] at hsettle
        cases reply <;> cases u <;> exact hsettle
    | halt w => cases hevent
    | _ => exact h
  | committed g status =>
    cases event with
    | crash => exact h.file
    | idle w => exact Healthy.finishCommit h hevent status
    | _ => exact h

lemma HealthyMachine.run (h : HealthyMachine m) {events : List Event}
    (hevents : ∀ event ∈ events, event.writesSucceed = true) :
    HealthyMachine (m.run isWhitespace a subscription events) := by
  induction events generalizing m with
  | nil => exact h
  | cons event events ih =>
    exact ih (h.step (hevents event mem_cons_self))
      fun event' h' => hevents event' (mem_cons_of_mem event h')

lemma HealthyMachine.ne_failed (h : HealthyMachine m) (he : m.file = some e ∨ m.entry = some e) :
    e.state ≠ .persistenceFailed := by
  obtain ⟨phase, settled, unsettled⟩ := m
  have hjournal : ∀ {j : CodexUsageJournal}, Healthy j → some j.file = some e ∨ some j.entry = some e →
      e.state ≠ .persistenceFailed := by
    rintro j hj (he | he)
    · exact some.inj he ▸ hj.file
    · exact some.inj he ▸ hj.entry
  cases phase with
  | down file =>
    obtain rfl : file = some e := he.elim id id
    exact h
  | ready g => exact hjournal h he
  | reserved g => exact hjournal h he
  | sent g u => exact hjournal h he
  | committed g status => exact hjournal h he

lemma Inv.entry (h : Inv a m) (he : m.file = some e ∨ m.entry = some e) :
    Book a m.settled m.unsettled e := by
  rcases he with he | he
  · exact h.file he
  · cases h with
    | fresh => cases he
    | down hfit h =>
      cases he
      exact h
    | ready hfit h =>
      cases he
      exact h.entry
    | reserved hfit h =>
      cases he
      exact h.book.2
    | sent hfit h hin hout _ _ =>
      cases he
      exact (h.book_sent ⟨hin, hout⟩).2
    | committed hfit h _ _ =>
      cases he
      exact h.entry

lemma Inv.length_le (h : Inv a m) :
    m.forwards.length ≤ min a.maxProviderRequests.toNat (a.maxRetries.toNat + 1) := by
  unfold forwards
  rw [length_append]
  cases hfile : m.file with
  | none =>
    obtain rfl := h.nothing_sent hfile
    exact Nat.zero_le _
  | some e =>
    have hbook := h.file hfile
    exact hbook.count.trans (le_min hbook.requests_le hbook.retries_le)

/-- More than the limit is only ever charged to a request that was lost. -/
lemma Book.lost_of_exceeded (h : Book a settled unsettled e)
    (hlimit : a.maxCumulativeTokens.toNat < maxWord 64)
    (hcharged : a.maxCumulativeTokens.toNat < e.charged) :
    e.state = .outcomeUnknown ∨ e.state = .persistenceFailed := by
  have hopen : ¬(e.state.isOpen ∨ e.state = .inFlight) := fun ho => by
    have := h.limit hlimit ho
    omega
  cases hs : e.state with
  | idle => exact absurd (.inl (.inl hs)) hopen
  | inFlight => exact absurd (.inr hs) hopen
  | committed => exact absurd (.inl (.inr hs)) hopen
  | outcomeUnknown => exact .inl rfl
  | persistenceFailed => exact .inr rfl

lemma inv_init : Inv a .init := .fresh

/-- Below the largest word the limits hold over any number of restarts. -/
theorem gateway_within_budget (isWhitespace : Char → Bool) (a : CodexBudgetAuthority)
    (subscription : Bool) (hlimit : a.maxCumulativeTokens.toNat < 2 ^ 64 - 1)
      (events : List Event) :
    let m := init.run isWhitespace a subscription events
    m.forwards.length ≤ min a.maxProviderRequests.toNat (a.maxRetries.toNat + 1) ∧
    (∀ f ∈ m.forwards, f.reservedOutput = a.maxOutputTokensPerRequest ∧
      f.chargedInput.toNat + f.chargedOutput.toNat + f.reservedInput.toNat +
      f.reservedOutput.toNat ≤
        a.maxCumulativeTokens.toNat) ∧
    (∀ e, m.file = some e ∨ m.entry = some e → a.maxCumulativeTokens.toNat < e.charged →
      (e.state = .outcomeUnknown ∨ e.state = .persistenceFailed) ∧
      ((∀ event ∈ events, event.writesSucceed = true) → e.state = .outcomeUnknown)) ∧
    ∀ e, m.file = some e ∨ m.entry = some e → e.state = .outcomeUnknown →
      ∀ later, (m.run isWhitespace a subscription later).forwards = m.forwards := by
  intro m
  have hinv : Inv a m := inv_init.run events
  refine ⟨hinv.length_le, fun f hf => ?_, fun e he hcharged => ?_, fun e he hstate later => ?_⟩
  · obtain ⟨hout, hfits⟩ := hinv.fitted f hf
    exact ⟨hout, hfits hlimit⟩
  · have hlost := (hinv.entry he).lost_of_exceeded hlimit hcharged
    refine ⟨hlost, fun hevents => ?_⟩
    have hhealthy : HealthyMachine m :=
      HealthyMachine.run (m := .init) trivial hevents
    exact hlost.resolve_right (hhealthy.ne_failed he)
  · exact ((hinv.stuck_of_unknown he hstate).run isWhitespace a subscription later).2

def sampleAuthority (limit : U64) : CodexBudgetAuthority where
  schemaVersion := codexBudgetAuthoritySchema
  taskId := "task"
  workflowNodeId := "node"
  executionId := "codex-attempt-1"
  binarySha256 := "ab"
  providerKind := "openai"
  providerHost := "host"
  providerBaseUrl := "https"
  admittedEndpointPaths := ["/v1/responses"]
  model := "m"
  maxProviderRequests := 3
  maxRetries := 2
  maxInputTokensPerRequest := 100
  maxOutputTokensPerRequest := 10
  maxCumulativeTokens := limit
  maxCostUsd := none
  timeoutMs := 1
  worktreeIsAbsolute := true
  expiresUnixMs := 100

def sampleRequest : HttpRequest where
  authorized := true
  method := "POST"
  path := "/v1/responses"
  body := some ⟨true, "m", .absent, .absent, 20⟩

/-- One request from its admission to the idle journal. -/
def sampleTurn (input output : U64) : List Event :=
  [.request 1 sampleRequest ⟨true, true⟩, .forward (.reported 200 none input output),
   .answer ⟨true, true⟩, .idle ⟨true, true⟩]

def blank (c : Char) : Bool := c = ' '

theorem gateway_within_budget_sample :
    let m := init.run blank (sampleAuthority 100) false
      (.start 1 ⟨true, true⟩ :: (sampleTurn 15 5 ++ sampleTurn 15 60))
    (sampleAuthority 100).maxCumulativeTokens.toNat < 2 ^ 64 - 1 ∧ m.forwards.length = 2 ∧
      m.forwards.length ≤ 3 :=
  ⟨by decide, by decide, (gateway_within_budget blank (sampleAuthority 100) false (by decide) _).1⟩

/-- At the largest word the counters wrap where the journal saturates, and a third request is
sent although the journal has charged more than the limit. -/
theorem gateway_overspent_sample :
    let a := sampleAuthority 0xFFFFFFFFFFFFFFFF
    let m := init.run blank a false
      (.start 1 ⟨true,
      true⟩ :: (sampleTurn 0x8000000000000000 1 ++ sampleTurn 0x8000000000000000 1 ++
        sampleTurn 1 1))
    a.validateNew blank 1 = .ok () ∧ m.forwards.length = 3 ∧
      (∃ f ∈ m.forwards,
      a.maxCumulativeTokens.toNat < f.chargedInput.toNat + f.chargedOutput.toNat) ∧
      ∃ e, m.file = some e ∧ e.state = .idle ∧ a.maxCumulativeTokens.toNat < e.charged :=
  ⟨rfl, rfl, by decide, _, rfl, rfl, by decide⟩

/-- What the loaded journal has charged and reserved covers what was used; a request that was
reserved, under way or lost at the crash closes the gateway for good. -/
theorem reload_covers_usage (isWhitespace : Char → Bool) (a : CodexBudgetAuthority)
    (subscription : Bool) (events : List Event) (w : Write) (e : CodexUsageJournalEntry)
    (j : CodexUsageJournal)
    (hfile : (init.run isWhitespace a subscription events).file = some e)
    (hload : resumeExactAttempt e a.identity w = .ok j) :
    let m := init.run isWhitespace a subscription events
    (WithinReservation m.forwards →
      usedInput m.forwards ≤
          j.entry.cumulativeInputTokens.toNat + j.entry.reservedInputTokens.toNat ∧
        usedOutput m.forwards ≤
          j.entry.cumulativeOutputTokens.toNat + j.entry.reservedOutputTokens.toNat ∧
        (j.entry.state ≠ .persistenceFailed →
          usedInput m.forwards ≤ j.entry.cumulativeInputTokens.toNat ∧
            usedOutput m.forwards ≤ j.entry.cumulativeOutputTokens.toNat)) ∧
    ((∃ g, m.phase = .reserved g) ∨ m.unsettled ≠ [] ∨ e.state = .outcomeUnknown →
      (∃ reason, j.admitsNewRequest = .error reason) ∧
      ∀ later g, (m.run isWhitespace a subscription (.crash :: later)).phase = .ready g →
        ∃ reason, g.journal.admitsNewRequest = .error reason) := by
  intro m
  have hinv : Inv a m := inv_init.run events
  obtain ⟨-, hbook, -⟩ := resumeExactAttempt_book hload (hinv.file hfile)
  refine ⟨fun hw => ?_, fun hlost => ?_⟩
  · obtain ⟨hin, hout⟩ := hbook.covers hw
    refine ⟨hin, hout, fun hstate => ?_⟩
    have hunreserved : j.entry.state.isOpen ∨ j.entry.state = .outcomeUnknown := by
      rcases resumeExactAttempt_cases hload with ⟨-, rfl⟩ | ⟨hflight, hunknown, rfl⟩
      · exact .inr rfl
      · unfold JournalRequestState.isOpen
        cases hs : e.state <;> simp_all
    obtain ⟨hres1, hres2⟩ := hbook.unreserved hunreserved
    rw [hres1] at hin
    rw [hres2] at hout
    exact ⟨hin, hout⟩
  · have hclosed := hinv.file_closed hfile hlost
    refine ⟨admitsNewRequest_blocked (.inr (resumeExactAttempt_stuck hload hclosed).2), ?_⟩
    intro later g hready
    have hstuck : Stuck (m.step isWhitespace a subscription .crash) := Stuck.crash hfile hclosed
    exact (hstuck.run isWhitespace a subscription later).1.admits_nothing hready

theorem reload_covers_usage_sample :
    let events : List Event := .start 1 ⟨true,
      true⟩ :: (sampleTurn 15 5 ++ (sampleTurn 18 7).take 2)
    let m := init.run blank (sampleAuthority 100) false events
    ∃ e j, m.file = some e ∧
      resumeExactAttempt e (sampleAuthority 100).identity ⟨true, true⟩ = .ok j ∧
      m.unsettled ≠ [] ∧ WithinReservation m.forwards ∧ usedInput m.forwards = 33 ∧
      usedInput m.forwards ≤
        j.entry.cumulativeInputTokens.toNat + j.entry.reservedInputTokens.toNat ∧
      ∃ reason, j.admitsNewRequest = .error reason := by
  intro events m
  have hwithin : WithinReservation m.forwards := of_decide_eq_true rfl
  have h := reload_covers_usage blank (sampleAuthority 100) false events ⟨true, true⟩ _ _ rfl rfl
  exact ⟨_, _, rfl, rfl, cons_ne_nil _ _, hwithin, rfl, (h.1 hwithin).1,
    (h.2 (.inr (.inl (cons_ne_nil _ _)))).1⟩

/-- A request is sent only when its reservation is in the file, and between requests memory and
file agree. -/
theorem reserved_before_sent (isWhitespace : Char → Bool) (a : CodexBudgetAuthority)
    (subscription : Bool) (events : List Event) :
    let m := init.run isWhitespace a subscription events
    (∀ g, m.phase = .ready g → g.journal.isHalted = false → g.journal.entry = g.journal.file) ∧
    ∀ g upstream, m.phase = .sent g upstream →
      ∃ f, m.unsettled = [f] ∧ Reserved f g.journal.file := by
  have h : Inv a (init.run isWhitespace a subscription events) := Inv.fresh.run events
  generalize init.run isWhitespace a subscription events = m at h
  refine ⟨fun g hphase => ?_, fun g upstream hphase => ?_⟩
  · cases h with
    | ready _ h =>
      cases hphase
      exact h.written
    | _ => cases hphase
  · cases h with
    | @sent _ _ _ _ f _ h hin hout =>
      cases hphase
      refine ⟨f, rfl, ?_⟩
      rcases h.file with hfile | hfile <;> exact hfile ▸ ⟨hin, hout⟩
    | _ => cases hphase

end Harness.Codex
