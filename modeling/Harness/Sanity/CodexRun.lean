import Harness.Sanity.CodexBooks

/-! The gateway at each phase of a request. At every point of a run the file and the entry in
memory are sound records of what was sent. -/

namespace Harness.Codex

open Lib CodexUsageJournal List Except Machine

/-- The counters are those of the journal. -/
structure Sync (a : CodexBudgetAuthority) (settled : List Forward) (g : GatewayState) : Prop where
  requests : g.providerRequests = g.journal.entry.providerRequests
  tokens : Bounded a settled → g.cumulativeInputTokens = g.journal.entry.cumulativeInputTokens ∧
    g.cumulativeOutputTokens = g.journal.entry.cumulativeOutputTokens

/-- Between two requests. -/
structure Ready (a : CodexBudgetAuthority) (settled unsettled : List Forward) (g : GatewayState) :
    Prop where
  authority : g.authority = a
  output_pos : 0 < a.maxOutputTokensPerRequest.toNat
  file : Book a settled unsettled g.journal.file
  entry : Book a settled unsettled g.journal.entry
  failed : g.journal.isHalted = true → g.journal.entry.state = .persistenceFailed
  written : g.journal.isHalted = false → g.journal.entry = g.journal.file
  sync : g.journal.isHalted = false → g.journal.entry.state.isOpen → Sync a settled g

/-- With a request reserved or under way. -/
structure Busy (a : CodexBudgetAuthority) (settled : List Forward) (g : GatewayState)
    (e : CodexUsageJournalEntry) : Prop where
  authority : g.authority = a
  output_pos : 0 < a.maxOutputTokensPerRequest.toNat
  flight : Flight a settled e
  file : Marked e g.journal.file
  entry : Marked e g.journal.entry
  failed : g.journal.isHalted = true → g.journal.entry.state = .persistenceFailed
  written : g.journal.isHalted = false → g.journal.entry = e
  sync : g.journal.isHalted = false → Sync a settled g

/-- Every request that was sent had its whole output reserved, and fitted the limit. -/
def Fitted (a : CodexBudgetAuthority) (l : List Forward) : Prop :=
  ∀ f ∈ l, f.reservedOutput = a.maxOutputTokensPerRequest ∧
    (a.maxCumulativeTokens.toNat < maxWord 64 →
      f.chargedInput.toNat + f.chargedOutput.toNat + f.reservedInput.toNat + f.reservedOutput.toNat ≤
        a.maxCumulativeTokens.toNat)

/-- What holds at each phase. -/
inductive Inv (a : CodexBudgetAuthority) : Machine → Prop
  | fresh : Inv a ⟨.down none, [], []⟩
  | down {e : CodexUsageJournalEntry} {settled unsettled : List Forward}
      (hfit : Fitted a (settled ++ unsettled)) (h : Book a settled unsettled e) :
      Inv a ⟨.down (some e), settled, unsettled⟩
  | ready {g : GatewayState} {settled unsettled : List Forward}
      (hfit : Fitted a (settled ++ unsettled)) (h : Ready a settled unsettled g) :
      Inv a ⟨.ready g, settled, unsettled⟩
  | reserved {g : GatewayState} {e : CodexUsageJournalEntry} {settled : List Forward}
      (hfit : Fitted a settled) (h : Busy a settled g e) : Inv a ⟨.reserved g, settled, []⟩
  | sent {g : GatewayState} {e : CodexUsageJournalEntry} {settled : List Forward}
      {upstream : Upstream} {f : Forward} (hfit : Fitted a (settled ++ [f]))
      (h : Busy a settled g e) (hin : f.reservedInput = e.reservedInputTokens)
      (hout : f.reservedOutput = e.reservedOutputTokens) (husedIn : f.usedInput = upstream.input)
      (husedOut : f.usedOutput = upstream.output) : Inv a ⟨.sent g upstream, settled, [f]⟩
  | committed {g : GatewayState} {settled : List Forward} {status : ℕ} (hfit : Fitted a settled)
      (h : Ready a settled [] g) (hhalt : g.journal.isHalted = false)
      (hopen : g.journal.entry.state.isOpen) : Inv a ⟨.committed g status, settled, []⟩

variable {isWhitespace : Char → Bool} {a : CodexBudgetAuthority} {subscription : Bool}
  {settled unsettled : List Forward} {e : CodexUsageJournalEntry} {g g' : GatewayState}
  {m : Machine} {w : Write} {j : CodexUsageJournal} {f : Forward} {upstream : Upstream}

lemma Busy.book (h : Busy a settled g e) :
    Book a settled [] g.journal.file ∧ Book a settled [] g.journal.entry :=
  ⟨h.flight.book.marked h.file, h.flight.book.marked h.entry⟩

lemma Busy.book_sent (h : Busy a settled g e) (hres : Reserved f e) :
    Book a settled [f] g.journal.file ∧ Book a settled [f] g.journal.entry :=
  ⟨(h.flight.book_sent hres).marked h.file, (h.flight.book_sent hres).marked h.entry⟩

/-- At every point the file is a sound record. -/
lemma Inv.file (h : Inv a m) (he : m.file = some e) : Book a m.settled m.unsettled e := by
  cases h with
  | fresh => cases he
  | down hfit h =>
    cases he
    exact h
  | ready hfit h =>
    cases he
    exact h.file
  | reserved hfit h =>
    cases he
    exact h.book.1
  | sent hfit h hin hout _ _ =>
    cases he
    exact (h.book_sent ⟨hin, hout⟩).1
  | committed hfit h _ _ =>
    cases he
    exact h.file

lemma Inv.fitted (h : Inv a m) : Fitted a m.forwards := by
  unfold forwards
  cases h with
  | fresh => exact fun f hf => by cases hf
  | down hfit _ => exact hfit
  | ready hfit _ => exact hfit
  | reserved hfit _ => rwa [append_nil]
  | sent hfit _ _ _ _ _ => exact hfit
  | committed hfit _ _ _ => rwa [append_nil]

lemma Inv.nothing_sent (h : Inv a m) (hfile : m.file = none) : m = .init := by
  cases h with
  | fresh => rfl
  | down _ _ => cases hfile
  | ready _ _ => cases hfile
  | reserved _ _ => cases hfile
  | sent _ _ _ _ _ _ => cases hfile
  | committed _ _ _ _ => cases hfile

lemma Inv.crash (h : Inv a m) : Inv a { m with phase := .down m.file } := by
  cases hfile : m.file with
  | none =>
    obtain rfl := h.nothing_sent hfile
    exact .fresh
  | some e => exact .down h.fitted (h.file hfile)

variable {result : Except String Unit} {r : HttpRequest} {id : JournalIdentity}
  {now reservedInput input output : U64}

/-- After a write the gateway is ready, whether it succeeded or not. -/
lemma ready_of_persist (hj : j.persist w = (result, g.journal)) (hauthority : g.authority = a)
    (hpos : 0 < a.maxOutputTokensPerRequest.toNat) (hhalted : j.halted = false)
    (hfile : Book a settled unsettled j.file) (hentry : Book a settled unsettled j.entry)
    (hstate : j.entry.state ≠ .persistenceFailed)
    (hsync : g.journal.entry = j.entry → j.entry.state.isOpen → Sync a settled g) :
    Ready a settled unsettled g := by
  have hbook := book_persist hfile hentry w
  rw [hj] at hbook
  cases result with
  | ok u =>
    have hwritten := persist_ok hj
    have hopen : g.journal.isHalted = false := by
      rw [hwritten]
      simp [isHalted, hhalted, hstate]
    refine ⟨hauthority, hpos, hbook.1, hbook.2, fun h => ?_, fun _ => ?_, fun _ ho => ?_⟩
    · rw [hopen] at h
      cases h
    · rw [hwritten]
    · have hsame : g.journal.entry = j.entry := by rw [hwritten]
      exact hsync hsame (hsame ▸ ho)
  | error reason =>
    obtain ⟨hhalted', hentry', -⟩ := persist_error hj
    have hhalt := isHalted_of_halted hhalted'
    refine ⟨hauthority, hpos, hbook.1, hbook.2, fun _ => ?_, fun h => ?_, fun h => ?_⟩
    · rw [hentry']
    · rw [hhalt] at h
      cases h
    · rw [hhalt] at h
      cases h

lemma book_newIdle : Book a [] [] (.newIdle id) where
  count := le_rfl
  requests_le := Nat.zero_le _
  retries_le := Nat.zero_le _
  settled_of_open _ := rfl
  unreserved _ := ⟨rfl, rfl⟩
  fits _ := ⟨Nat.zero_le _, Nat.zero_le _⟩
  covers _ := ⟨Nat.zero_le _, Nat.zero_le _⟩
  limit _ _ := Nat.zero_le _

/-- The entry of a request that was under way or lost, charged its reservation. -/
def chargedEntry (e : CodexUsageJournalEntry) : CodexUsageJournalEntry :=
  { e with
    cumulativeInputTokens := saturatingAdd e.cumulativeInputTokens e.reservedInputTokens
    cumulativeOutputTokens := saturatingAdd e.cumulativeOutputTokens e.reservedOutputTokens
    reservedInputTokens := 0
    reservedOutputTokens := 0
    state := .outcomeUnknown }

lemma resumeExactAttempt_cases (h : resumeExactAttempt e id w = .ok j) :
    ((e.state = .inFlight ∨ e.state = .outcomeUnknown) ∧
      j = ⟨chargedEntry e, chargedEntry e, false⟩) ∨
    (e.state ≠ .inFlight ∧ e.state ≠ .outcomeUnknown ∧
      j = ⟨e, e, e.state = .persistenceFailed⟩) := by
  unfold resumeExactAttempt loadJournal at h
  simp only [bind_eq_ok, refuse_eq_ok] at h
  obtain ⟨entry, ⟨-, -, -, -, -, -, -, -, -, -, -, -, hentry⟩, -, -, -, -, -, -, -, -, h⟩ := h
  cases hentry
  split_ifs at h with hstate
  · obtain ⟨-, -, h⟩ := bind_ok h
    cases h
    rw [Bool.or_eq_true, decide_eq_true_eq, decide_eq_true_eq] at hstate
    exact .inl ⟨hstate, rfl⟩
  · cases h
    rw [Bool.or_eq_true, decide_eq_true_eq, decide_eq_true_eq, not_or] at hstate
    exact .inr ⟨hstate.1, hstate.2, rfl⟩

/-- The journal that is loaded says what the file said. -/
lemma resumeExactAttempt_book (h : resumeExactAttempt e id w = .ok j)
    (hbook : Book a settled unsettled e) :
    j.entry = j.file ∧ Book a settled unsettled j.entry ∧
      (j.isHalted = true → j.entry.state = .persistenceFailed) := by
  rcases resumeExactAttempt_cases h with ⟨-, rfl⟩ | ⟨-, -, rfl⟩
  · exact ⟨rfl, hbook.charge_unknown le_rfl le_rfl, nofun⟩
  · exact ⟨rfl, hbook, fun hhalt => by simpa [isHalted] using hhalt⟩

lemma output_pos_of_validateNew {u : Unit} (h : a.validateNew isWhitespace now = .ok u) :
    0 < a.maxOutputTokensPerRequest.toNat := by
  iterate 5 obtain ⟨-, -, h⟩ := bind_ok h
  obtain ⟨_, hceilings, -⟩ := bind_ok h
  rw [refuse_eq_ok, Bool.or_eq_false_iff, decide_eq_false_iff_not, decide_eq_false_iff_not] at hceilings
  exact Nat.pos_of_ne_zero fun hzero => hceilings.2 (BitVec.eq_of_toNat_eq hzero)

/-- A loaded or new journal makes a gateway that is ready. -/
lemma ready_of_loaded (hpos : 0 < a.maxOutputTokensPerRequest.toNat) (hsame : j.entry = j.file)
    (hbook : Book a settled unsettled j.entry)
    (hfailed : j.isHalted = true → j.entry.state = .persistenceFailed) :
    Ready a settled unsettled
      { authority := a, subscription
        providerRequests := j.entry.providerRequests
        cumulativeInputTokens := j.entry.cumulativeInputTokens
        cumulativeOutputTokens := j.entry.cumulativeOutputTokens
        stop := false
        journal := j } where
  authority := rfl
  output_pos := hpos
  file := hsame ▸ hbook
  entry := hbook
  failed := hfailed
  written _ := hsame
  sync _ _ := ⟨rfl, fun _ => ⟨rfl, rfl⟩⟩

lemma ready_start {file : Option CodexUsageJournalEntry}
    (h : GatewayState.start isWhitespace a subscription now file w = .ok g)
    (hnone : file = none → settled = [] ∧ unsettled = [])
    (hsome : ∀ e, file = some e → Book a settled unsettled e) :
    Ready a settled unsettled g := by
  obtain ⟨_, hvalid, h⟩ := bind_ok h
  have hpos := output_pos_of_validateNew hvalid
  cases file with
  | none =>
    obtain ⟨rfl, rfl⟩ := hnone rfl
    obtain ⟨j, hj, h⟩ := bind_ok h
    iterate 2 obtain ⟨-, -, hj⟩ := bind_ok hj
    cases hj
    cases h
    exact ready_of_loaded hpos rfl book_newIdle nofun
  | some e =>
    obtain ⟨j, hj, h⟩ := bind_ok h
    cases h
    obtain ⟨hsame, hbook, hfailed⟩ := resumeExactAttempt_book hj (hsome e rfl)
    exact ready_of_loaded hpos hsame hbook hfailed

/-- The budget lets a request through. -/
structure Admitted (g : GatewayState) (reservedInput : U64) : Prop where
  admits : g.journal.admitsNewRequest = .ok ()
  requests : g.providerRequests.toNat < g.authority.maxProviderRequests.toNat
  retries : g.providerRequests.toNat ≤ g.authority.maxRetries.toNat
  tokens : (saturatingAdd reservedInput g.authority.maxOutputTokensPerRequest).toNat ≤
    g.authority.maxCumulativeTokens.toNat - g.cumulativeTokens.toNat

lemma budgetRefusal_eq_none (h : budgetRefusal g reservedInput = none) :
    Admitted g reservedInput := by
  unfold budgetRefusal at h
  dsimp only at h
  split_ifs at h with hadmits hinput hrequests hzero hretries htokens
  have hok : g.journal.admitsNewRequest = .ok () := by
    cases hj : g.journal.admitsNewRequest with
    | error reason => simp [hj, Except.toOption] at hadmits
    | ok u => rfl
  refine ⟨hok, ?_, ?_, ?_⟩
  · rw [BitVec.not_le] at hrequests
    exact hrequests
  · simp only [Bool.and_eq_true, decide_eq_true_eq, not_and, BitVec.le_def, not_le,
      toNat_saturatingSub] at hretries
    have hone : (1 : U64).toNat = 1 := rfl
    by_cases hfirst : 1 ≤ g.providerRequests.toNat
    · omega
    · omega
  · rw [BitVec.not_lt, BitVec.le_def, toNat_saturatingSub] at htokens
    exact htokens

/-- The entry that is written before a request is sent. -/
def reservedEntry (e : CodexUsageJournalEntry) (posts reservedInput reservedOutput : U64) :
    CodexUsageJournalEntry :=
  { e with
    providerRequests := saturatingAdd e.providerRequests 1
    observedRetryPosts := posts
    reservedInputTokens := reservedInput
    reservedOutputTokens := reservedOutput
    state := .inFlight }

lemma requests_reservedEntry (hsync : Sync a settled g) (hadm : Admitted g reservedInput)
    (posts x y : U64) :
    (reservedEntry g.journal.entry posts x y).providerRequests.toNat =
      g.providerRequests.toNat + 1 := by
  have hlt := hadm.requests
  have hmax := toNat_le_maxWord g.authority.maxProviderRequests
  change (saturatingAdd g.journal.entry.providerRequests 1).toNat = _
  rw [toNat_saturatingAdd, ← hsync.requests]
  exact min_eq_left (show g.providerRequests.toNat + 1 ≤ maxWord 64 by omega)

lemma flight_reservedEntry {posts : U64} (hready : Ready a settled unsettled g)
    (hadm : Admitted g reservedInput) :
    unsettled = [] ∧
      Flight a settled (reservedEntry g.journal.entry posts reservedInput
          g.authority.maxOutputTokensPerRequest) := by
  obtain ⟨hhalt, hopen⟩ := admitsNewRequest_eq_ok hadm.admits
  have hsync := hready.sync hhalt hopen
  have hbook := hready.entry
  obtain rfl := hready.authority
  obtain rfl := hbook.settled_of_open hopen
  have hrequests := requests_reservedEntry hsync hadm posts
  obtain ⟨hres1, hres2⟩ := hbook.unreserved (.inl hopen)
  -- the reservation is not zero, so something is left of the limit and the sums do not saturate
  have hpos := hready.output_pos
  have htokens := hadm.tokens
  have hmax := toNat_le_maxWord g.authority.maxCumulativeTokens
  have hin := toNat_le_maxWord reservedInput
  have hout := toNat_le_maxWord g.authority.maxOutputTokensPerRequest
  rw [GatewayState.cumulativeTokens, toNat_saturatingAdd, toNat_saturatingAdd] at htokens
  refine ⟨rfl, ?_⟩
  exact
    { state := rfl
      output := rfl
      count := by
        have hcount := hbook.count
        rw [← hsync.requests] at hcount
        rw [hrequests]
        exact Nat.succ_le_succ hcount
      requests_le := by
        rw [hrequests]
        exact hadm.requests
      retries_le := by
        rw [hrequests]
        exact Nat.succ_le_succ hadm.retries
      fits := fun hb => by
        obtain ⟨h1, h2⟩ := hsync.tokens hb
        rw [h1, h2] at htokens
        unfold reservedEntry
        dsimp only
        omega
      covers := fun hw => by
        have hcovers := hbook.covers (by rwa [append_nil])
        rw [hres1, hres2, append_nil] at hcovers
        exact hcovers
      limit := fun hlt => by
        obtain ⟨h1, h2⟩ := hsync.tokens (.inl hlt)
        rw [h1, h2] at htokens
        unfold CodexUsageJournalEntry.charged CodexUsageJournalEntry.reservedTokens reservedEntry
        dsimp only
        omega }

lemma requestRefusal_ne_reserved : requestRefusal g now r ≠ .error .reserved := by
  intro h
  unfold requestRefusal at h
  split_ifs at h <;> try cases h
  split at h
  · cases h
  · split_ifs at h <;> try cases h
    split at h <;> cases h

/-- A request is either refused, and nothing is sent, or it is on record. -/
lemma admitRequest_cases {admission : Admission} (h : admitRequest g now r w = (admission, g'))
    (hready : Ready a settled unsettled g) :
    (admission ≠ .reserved ∧ Ready a settled unsettled g') ∨
      (admission = .reserved ∧ unsettled = [] ∧ ∃ e, Busy a settled g' e) := by
  unfold admitRequest at h
  cases hreq : requestRefusal g now r with
  | error refusal =>
    rw [hreq] at h
    cases h
    exact .inl ⟨fun hr => requestRefusal_ne_reserved (hr ▸ hreq), hready⟩
  | ok body =>
    rw [hreq] at h
    dsimp only at h
    cases hbudget : budgetRefusal g body.encodedLength with
    | some reply =>
      rw [hbudget] at h
      cases h
      exact .inl ⟨nofun, hready⟩
    | none =>
      rw [hbudget] at h
      have hadm := budgetRefusal_eq_none hbudget
      obtain ⟨hhalt, hopen⟩ := admitsNewRequest_eq_ok hadm.admits
      have hsync := hready.sync hhalt hopen
      have hhalted : g.journal.halted = false := (Bool.or_eq_false_iff.mp hhalt).1
      unfold reserveBeforeForward at h
      rw [hadm.admits] at h
      dsimp only at h
      split at h
      · rename_i reason j hpersist
        cases h
        obtain ⟨rfl, hflight⟩ := flight_reservedEntry hready hadm
        refine .inl ⟨nofun, ?_⟩
        refine ready_of_persist hpersist hready.authority hready.output_pos hhalted hready.file
          hflight.book nofun ?_
        exact fun _ ho => absurd ho not_isOpen_inFlight
      · rename_i j hpersist
        cases h
        obtain rfl := persist_ok hpersist
        obtain ⟨rfl, hflight⟩ := flight_reservedEntry hready hadm
        refine .inr ⟨rfl, rfl, _, hready.authority, hready.output_pos, hflight, .refl _, .refl _,
          fun hno => ?_, fun _ => rfl, fun _ => ⟨?_, hsync.tokens⟩⟩
        · simp [isHalted, hhalted] at hno
        · apply BitVec.eq_of_toNat_eq
          have hone : (1 : U64).toNat = 1 := rfl
          have hrequests := requests_reservedEntry hsync hadm 0 0 0
          have hlt := hadm.requests
          have hmax := toNat_le_maxWord g.authority.maxProviderRequests
          rw [toNat_add_of_le (by omega), hone]
          exact hrequests.symm

/-- A journal left as it is when a request comes back keeps the request on record. -/
lemma Busy.ready_sent (h : Busy a settled g e) (hres : Reserved f e)
    (hhalt : g.journal.isHalted = true)
    (hauthority : g'.authority = g.authority) (hjournal : g'.journal = g.journal) :
    Ready a settled [f] g' where
  authority := hauthority.trans h.authority
  output_pos := h.output_pos
  file := hjournal ▸ (h.book_sent hres).1
  entry := hjournal ▸ (h.book_sent hres).2
  failed := hjournal ▸ h.failed
  written hno := by
    rw [hjournal, hhalt] at hno
    cases hno
  sync hno := by
    rw [hjournal, hhalt] at hno
    cases hno

/-- Charging at least the reservation and leaving the outcome open. -/
lemma Busy.ready_markOutcomeUnknown (h : Busy a settled g e) (hres : Reserved f e) {x y : U64}
    (hmark : g.journal.markOutcomeUnknownWithUsage x y w = (result, g'.journal))
    (hauthority : g'.authority = g.authority) : Ready a settled [f] g' := by
  unfold markOutcomeUnknownWithUsage at hmark
  split_ifs at hmark with hhalt
  · exact h.ready_sent hres hhalt hauthority (Prod.mk.inj hmark).2.symm
  · rw [Bool.not_eq_true] at hhalt
    refine ready_of_persist hmark (hauthority.trans h.authority) h.output_pos
      (Bool.or_eq_false_iff.mp hhalt).1 (h.book_sent hres).1
      ((h.book_sent hres).2.charge_unknown ?_ ?_) nofun ?_
    · rw [toNat_greater]
      exact le_max_left _ _
    · rw [toNat_greater]
      exact le_max_left _ _
    · exact fun _ ho => absurd ho not_isOpen_outcomeUnknown

lemma Busy.ready_settleUnknown (h : Busy a settled g e) (hres : Reserved f e) :
    Ready a settled [f] (settleUnknown g w) := by
  unfold settleUnknown
  split
  · rename_i j hmark
    exact h.ready_markOutcomeUnknown hres hmark rfl
  · rename_i reason j hmark
    exact h.ready_markOutcomeUnknown hres hmark rfl

lemma Busy.ready_settleExceeded (h : Busy a settled g e) (hres : Reserved f e) :
    Ready a settled [f] (settleExceeded g input output w).2 := by
  unfold settleExceeded
  split
  · rename_i reason j hmark
    exact h.ready_markOutcomeUnknown hres hmark rfl
  · rename_i j hmark
    exact h.ready_markOutcomeUnknown hres hmark rfl

/-- The entry that puts a usage on record. -/
def committedEntry (e : CodexUsageJournalEntry) (input output : U64) (responseId : Option String) :
    CodexUsageJournalEntry :=
  { e with
    cumulativeInputTokens := saturatingAdd e.cumulativeInputTokens input
    cumulativeOutputTokens := saturatingAdd e.cumulativeOutputTokens output
    reservedInputTokens := 0
    reservedOutputTokens := 0
    lastRequestId := responseId
    state := .committed }

/-- A usage within the envelope fits what is left of the limit. -/
lemma le_limit_of_envelope (hauthority : g.authority = a)
    (hlt : a.maxCumulativeTokens.toNat < maxWord 64) (h : exceedsEnvelope g input output = false) :
    g.journal.entry.cumulativeInputTokens.toNat + g.journal.entry.cumulativeOutputTokens.toNat +
      input.toNat + output.toNat ≤ a.maxCumulativeTokens.toNat := by
  obtain ⟨-, h⟩ := Bool.or_eq_false_iff.mp h
  rw [decide_eq_false_iff_not, BitVec.not_lt, BitVec.le_def, toNat_saturatingAdd, toNat_saturatingAdd,
    toNat_saturatingAdd, hauthority] at h
  omega

/-- Neither sum of a commit overflows. -/
lemma Flight.sums_fit (h : Flight a settled g.journal.entry) (hauthority : g.authority = a)
    (henvelope : exceedsEnvelope g input output = false)
    (hres : Reserved f g.journal.entry) (huse : Used f input output)
    (hb : Bounded a (f :: settled)) :
    g.journal.entry.cumulativeInputTokens.toNat + input.toNat ≤ maxWord 64 ∧
      g.journal.entry.cumulativeOutputTokens.toNat + output.toNat ≤ maxWord 64 := by
  rcases hb with hlt | hw
  · have := le_limit_of_envelope hauthority hlt henvelope
    omega
  · have hf := hw f mem_cons_self
    have hfits := h.fits (.inr fun f' hf' => hw f' (mem_cons_of_mem f hf'))
    rw [hres.input, hres.output, huse.input, huse.output] at hf
    omega

lemma book_committedEntry (responseId : Option String) (h : Flight a settled g.journal.entry)
    (hauthority : g.authority = a) (henvelope : exceedsEnvelope g input output = false)
    (hres : Reserved f g.journal.entry) (huse : Used f input output) :
    Book a (f :: settled) [] (committedEntry g.journal.entry input output responseId) where
  count := h.count
  requests_le := h.requests_le
  retries_le := h.retries_le
  settled_of_open _ := rfl
  unreserved _ := ⟨rfl, rfl⟩
  fits _ := ⟨toNat_le_maxWord _, toNat_le_maxWord _⟩
  covers hw := by
    rw [append_nil] at hw ⊢
    obtain ⟨hsumIn, hsumOut⟩ :=
      h.sums_fit hauthority henvelope hres huse (.inr hw)
    have hbefore := h.covers fun f' hf' => hw f' (mem_cons_of_mem f hf')
    have hzero : (0 : U64).toNat = 0 := rfl
    unfold committedEntry
    rw [usedInput_cons, usedOutput_cons, toNat_saturatingAdd, toNat_saturatingAdd, huse.input,
      huse.output,
      min_eq_left hsumIn, min_eq_left hsumOut, hzero]
    omega
  limit hlt _ := by
    have hle := le_limit_of_envelope hauthority hlt henvelope
    have hzero : (0 : U64).toNat = 0 := rfl
    unfold committedEntry CodexUsageJournalEntry.charged CodexUsageJournalEntry.reservedTokens
    rw [toNat_saturatingAdd, toNat_saturatingAdd, hzero]
    omega

/-- Whether a request counts as settled makes no difference to an entry that is not open. -/
lemma Book.unsettle (h : Book a (f :: settled) [] e) :
    Book a settled [f] { e with state := .persistenceFailed } := by
  have hwithin : ∀ {l : List Forward}, WithinReservation (l ++ [f]) → WithinReservation (f :: l ++ []) :=
    fun {l} hw f' hf' => hw f' (by simpa [or_comm] using hf')
  refine book_of_failed rfl (by simpa using h.count) h.requests_le h.retries_le
    (fun hb => h.fits (hb.imp_right hwithin)) fun hw => ?_
  have hcovers := h.covers (hwithin hw)
  simp only [usedInput_append, usedOutput_append, usedInput_cons, usedOutput_cons] at hcovers ⊢
  omega

/-- Recording a usage within the envelope: it is on record, or the journal is halted. -/
lemma Busy.recordCommit_cases {responseId : Option String} (h : Busy a settled g e)
    (hres : Reserved f e) (huse : Used f input output)
    (henvelope : exceedsEnvelope g input output = false)
    (hcommit : (g.charge input output).journal.recordCommit input output responseId w = (result, j))
    :
    (result = .ok () ∧ j.isHalted = false ∧ j.entry.state.isOpen ∧
        Ready a (f :: settled) [] { g.charge input output with journal := j }) ∨
      (result ≠ .ok () ∧ ∀ stop, Ready a settled [f]
        { g.charge input output with journal := j, stop := stop }) := by
  change (if g.journal.isHalted = true then (error _, g.journal)
    else if g.journal.entry.state ≠ .inFlight then (error _, g.journal) else _) = _ at hcommit
  split_ifs at hcommit with hhalt hstate
  · cases hcommit
    exact .inr ⟨nofun, fun stop => h.ready_sent hres hhalt rfl rfl⟩
  · rw [Bool.not_eq_true] at hhalt
    exact absurd (h.written hhalt ▸ h.flight.state) hstate
  · rw [Bool.not_eq_true] at hhalt
    have hentry := h.written hhalt
    subst hentry
    have hhalted := (Bool.or_eq_false_iff.mp hhalt).1
    have hbook := book_committedEntry responseId h.flight h.authority henvelope hres huse
    cases result with
    | ok u =>
      have hsync := h.sync hhalt
      obtain rfl := persist_ok hcommit
      have hrunning : isHalted ⟨committedEntry g.journal.entry input output responseId,
          committedEntry g.journal.entry input output responseId, g.journal.halted⟩ = false := by
        simp [isHalted, committedEntry, hhalted]
      refine .inl ⟨rfl, hrunning, .inr rfl, h.authority, h.output_pos, hbook, hbook, fun hno => ?_,
        fun _ => rfl, fun _ _ => ⟨hsync.requests, fun hb => ?_⟩⟩
      · exact absurd (hrunning.symm.trans hno) Bool.false_ne_true
      · obtain ⟨hsumIn, hsumOut⟩ :=
          h.flight.sums_fit h.authority henvelope hres huse hb
        obtain ⟨h1, h2⟩ := hsync.tokens (hb.imp_right
          fun hw f' hf' => hw f' (mem_cons_of_mem f hf'))
        change g.cumulativeInputTokens + input = _ ∧ g.cumulativeOutputTokens + output = _
        rw [h1, h2, add_eq_saturatingAdd hsumIn, add_eq_saturatingAdd hsumOut]
        exact ⟨rfl, rfl⟩
    | error reason =>
      obtain ⟨hhalted', hentry', hfile'⟩ := persist_error hcommit
      have hhalt' := isHalted_of_halted hhalted'
      refine .inr ⟨nofun, fun stop => ⟨h.authority, h.output_pos, ?_, ?_, fun _ => ?_,
        fun hno => ?_, fun hno => ?_⟩⟩
      · rcases hfile' with hfile' | hfile'
        · rw [hfile', hentry']
          exact hbook.unsettle
        · rw [hfile']
          exact (h.book_sent hres).1
      · rw [hentry']
        exact hbook.unsettle
      · rw [hentry']
      · exact absurd (hno.symm.trans hhalt') Bool.false_ne_true
      · exact absurd (hno.symm.trans hhalt') Bool.false_ne_true

/-- What comes back settles the request, or stays on record as open. -/
lemma Busy.settleForward_cases {reply : Option Reply} (h : Busy a settled g e)
    (hres : Reserved f e) (huse : Used f upstream.input upstream.output)
    (hsettle : settleForward g upstream w = (reply, g')) :
    (reply = none ∧ (∃ status id input output, upstream = .reported status id input output) ∧
      g'.journal.isHalted = false ∧ g'.journal.entry.state.isOpen ∧ Ready a (f :: settled) [] g') ∨
    (reply ≠ none ∧ Ready a settled [f] g') := by
  cases upstream with
  | failed reason input output =>
    cases hsettle
    exact .inr ⟨nofun, h.ready_settleUnknown hres⟩
  | silent status reason input output =>
    cases hsettle
    exact .inr ⟨nofun, h.ready_settleUnknown hres⟩
  | reported status id input output =>
    unfold settleForward at hsettle
    dsimp only at hsettle
    split_ifs at hsettle with henvelope
    · cases hsettle
      exact .inr ⟨nofun, h.ready_settleExceeded hres⟩
    · rw [Bool.not_eq_true] at henvelope
      split at hsettle
      · rename_i reason j hcommit
        cases hsettle
        rcases h.recordCommit_cases hres huse henvelope hcommit with
          ⟨hr, -⟩ | ⟨-, hready⟩
        · cases hr
        · exact .inr ⟨nofun, hready true⟩
      · rename_i j hcommit
        cases hsettle
        rcases h.recordCommit_cases hres huse henvelope hcommit with
          ⟨-, hhalt, hopen, hready⟩ | ⟨hr, -⟩
        · exact .inl ⟨rfl, ⟨status, id, input, output, rfl⟩, hhalt, hopen, hready⟩
        · exact absurd rfl hr

lemma Book.idle (h : Book a settled unsettled e) (hopen : e.state.isOpen) :
    Book a settled unsettled { e with state := .idle } where
  count := h.count
  requests_le := h.requests_le
  retries_le := h.retries_le
  settled_of_open _ := h.settled_of_open hopen
  unreserved _ := h.unreserved (.inl hopen)
  fits := h.fits
  covers := h.covers
  limit hlt _ := h.limit hlt (.inl hopen)

lemma Ready.finishCommit (h : Ready a settled unsettled g) (hhalt : g.journal.isHalted = false)
    (hopen : g.journal.entry.state.isOpen) (status : ℕ) (w : Write) :
    Ready a settled unsettled (Codex.finishCommit g status w).2 := by
  have hsync := h.sync hhalt hopen
  have hhalted := (Bool.or_eq_false_iff.mp hhalt).1
  unfold Codex.finishCommit
  split
  · rename_i reason j hidle
    refine ready_of_persist hidle h.authority h.output_pos hhalted h.file (h.entry.idle hopen)
      nofun fun hsame _ => ?_
    exact ⟨hsame ▸ hsync.requests, hsame ▸ hsync.tokens⟩
  · rename_i j hidle
    refine ready_of_persist hidle h.authority h.output_pos hhalted h.file (h.entry.idle hopen)
      nofun fun hsame _ => ?_
    exact ⟨hsame ▸ hsync.requests, hsame ▸ hsync.tokens⟩

/-- A halt marks the entry as failed, and the file too unless its write fails. -/
lemma halt_spec :
    (j.halt w).2.isHalted = true ∧
      (j.halt w).2.entry = { j.entry with state := .persistenceFailed } ∧
      ((j.halt w).2.file = (j.halt w).2.entry ∨ (j.halt w).2.file = j.file) := by
  unfold halt persist
  split_ifs
  · exact ⟨rfl, rfl, .inl rfl⟩
  · exact ⟨rfl, rfl, .inl rfl⟩
  · exact ⟨rfl, rfl, .inr rfl⟩

lemma Ready.halt (h : Ready a settled unsettled g) (w : Write) :
    Ready a settled unsettled (haltGateway g w) := by
  obtain ⟨hhalt, hentry, hfile⟩ := halt_spec
  have hmarked : Book a settled unsettled (g.journal.halt w).2.entry := by
    rw [hentry]
    exact h.entry.mark
  refine ⟨h.authority, h.output_pos, ?_, hmarked, fun _ => ?_, fun hno => ?_, fun hno => ?_⟩
  · change Book a settled unsettled (g.journal.halt w).2.file
    rcases hfile with hfile | hfile
    · rwa [hfile]
    · rw [hfile]
      exact h.file
  · change (g.journal.halt w).2.entry.state = _
    rw [hentry]
  · exact absurd (hno.symm.trans hhalt) Bool.false_ne_true
  · exact absurd (hno.symm.trans hhalt) Bool.false_ne_true

lemma Busy.halt (h : Busy a settled g e)
    (w : Write) : Busy a settled (haltGateway g w) e := by
  obtain ⟨hhalt, hentry, hfile⟩ := halt_spec
  have hmarked : Marked e (g.journal.halt w).2.entry := by
    rw [hentry]
    exact h.entry.mark
  refine ⟨h.authority, h.output_pos, h.flight, ?_, hmarked, fun _ => ?_, fun hno => ?_, fun hno => ?_⟩
  · change Marked e (g.journal.halt w).2.file
    rcases hfile with hfile | hfile
    · rwa [hfile]
    · rw [hfile]
      exact h.file
  · change (g.journal.halt w).2.entry.state = _
    rw [hentry]
  · exact absurd (hno.symm.trans hhalt) Bool.false_ne_true
  · exact absurd (hno.symm.trans hhalt) Bool.false_ne_true

/-- Sending a request that fits the limit. -/
lemma Inv.forward (hfit : Fitted a settled) (h : Busy a settled g e) (upstream : Upstream) :
    Inv a
      ⟨.sent g upstream, settled,
        [{ chargedInput := g.journal.entry.cumulativeInputTokens
           chargedOutput := g.journal.entry.cumulativeOutputTokens
           reservedInput := g.journal.entry.reservedInputTokens
           reservedOutput := g.journal.entry.reservedOutputTokens
           usedInput := upstream.input
           usedOutput := upstream.output }]⟩ := by
  have hsame : g.journal.entry.cumulativeInputTokens = e.cumulativeInputTokens ∧
      g.journal.entry.cumulativeOutputTokens = e.cumulativeOutputTokens ∧
      g.journal.entry.reservedInputTokens = e.reservedInputTokens ∧
      g.journal.entry.reservedOutputTokens = e.reservedOutputTokens := by
    rcases h.entry with hentry | hentry
    · rw [hentry]
      exact ⟨rfl, rfl, rfl, rfl⟩
    · rw [hentry]
      exact ⟨rfl, rfl, rfl, rfl⟩
  obtain ⟨h1, h2, h3, h4⟩ := hsame
  refine .sent (fun f hf => ?_) h h3 h4 rfl rfl
  rcases mem_append.mp hf with hf | hf
  · exact hfit f hf
  · obtain rfl := mem_singleton.mp hf
    refine ⟨h4.trans h.flight.output, fun hlt => ?_⟩
    have hlimit := h.flight.limit hlt
    unfold CodexUsageJournalEntry.charged CodexUsageJournalEntry.reservedTokens at hlimit
    dsimp only
    rw [h1, h2, h3, h4]
    omega

lemma Inv.request (hfit : Fitted a (settled ++ unsettled)) (h : Ready a settled unsettled g) :
    Inv a (step isWhitespace a subscription ⟨.ready g, settled, unsettled⟩
      (.request now r w)) := by
  unfold step
  dsimp only
  split_ifs with hstop
  · exact .ready hfit h
  · split
    · rename_i reply g' hadmit
      rcases admitRequest_cases hadmit h with ⟨-, hready⟩ | ⟨hr, -⟩
      · exact .ready hfit hready
      · cases hr
    · rename_i g' hadmit
      rcases admitRequest_cases hadmit h with ⟨-, hready⟩ | ⟨hr, -⟩
      · exact .down hfit hready.file
      · cases hr
    · rename_i g' hadmit
      rcases admitRequest_cases hadmit h with ⟨hr, -⟩ | ⟨-, rfl, e, hbusy⟩
      · exact absurd rfl hr
      · rw [append_nil] at hfit
        exact .reserved hfit hbusy

lemma Inv.answer (hfit : Fitted a (settled ++ [f])) (h : Busy a settled g e) (hres : Reserved f e)
    (huse : Used f upstream.input upstream.output) :
    Inv a (step isWhitespace a subscription ⟨.sent g upstream, settled, [f]⟩ (.answer w)) := by
  unfold step
  dsimp only
  cases hsettle : settleForward g upstream w with
  | mk reply g' =>
    rcases h.settleForward_cases hres huse hsettle with
      ⟨rfl, ⟨status, id, input, output, rfl⟩, hhalt, hopen, hready⟩ | ⟨hr, hready⟩
    · refine .committed (fun f' hf' => hfit f' ?_) hready hhalt hopen
      rcases mem_cons.mp hf' with rfl | hf'
      · exact mem_append_right _ mem_cons_self
      · exact mem_append_left _ hf'
    · cases reply with
      | none => exact absurd rfl hr
      | some reply => exact .ready hfit hready

lemma Inv.start {file : Option CodexUsageJournalEntry}
    (h : Inv a ⟨.down file, settled, unsettled⟩) :
    Inv a (step isWhitespace a subscription ⟨.down file, settled, unsettled⟩ (.start now w)) := by
  unfold step
  dsimp only
  split
  · exact h
  · rename_i g hstart
    refine .ready h.fitted (ready_start hstart (fun hnone => ?_) fun e he => h.file he)
    have hinit := mk.inj (h.nothing_sent hnone)
    exact hinit.2

lemma Inv.step (h : Inv a m) (event : Event) :
    Inv a (m.step isWhitespace a subscription event) := by
  -- in each phase only a few events do anything
  have hstay := h
  cases h with
  | fresh =>
    cases event with
    | crash => exact hstay.crash
    | start now w => exact hstay.start
    | _ => exact hstay
  | down hfit hbook =>
    cases event with
    | crash => exact hstay.crash
    | start now w => exact hstay.start
    | _ => exact hstay
  | ready hfit hready =>
    cases event with
    | crash => exact hstay.crash
    | request now r w => exact .request hfit hready
    | halt w => exact .ready hfit (hready.halt w)
    | _ => exact hstay
  | reserved hfit hbusy =>
    cases event with
    | crash => exact hstay.crash
    | forward upstream => exact .forward hfit hbusy upstream
    | halt w => exact .reserved hfit (hbusy.halt w)
    | _ => exact hstay
  | sent hfit hbusy hin hout husedIn husedOut =>
    cases event with
    | crash => exact hstay.crash
    | answer w => exact .answer hfit hbusy ⟨hin, hout⟩ ⟨husedIn, husedOut⟩
    | halt w => exact .sent hfit (hbusy.halt w) hin hout husedIn husedOut
    | _ => exact hstay
  | committed hfit hready hhalt hopen =>
    cases event with
    | crash => exact hstay.crash
    | idle w => exact .ready (by rwa [append_nil]) (hready.finishCommit hhalt hopen _ w)
    | _ => exact hstay

lemma Inv.run (h : Inv a m) (events : List Event) :
    Inv a (m.run isWhitespace a subscription events) := by
  induction events generalizing m with
  | nil => exact h
  | cons event events ih => exact ih (h.step event)

end Harness.Codex
