import Harness.Spec.CodexGateway
import Mathlib.Algebra.BigOperators.Group.List.Basic

/-! What a journal entry says about the requests that were sent. Writing an entry that says
the write failed does not make it say less. -/

namespace Harness.Codex

open Lib CodexUsageJournal List

variable {a : CodexBudgetAuthority} {settled unsettled : List Forward}
  {e e' : CodexUsageJournalEntry} {j j' : CodexUsageJournal} {w : Write}

variable {f : Forward} {l l' : List Forward} {x y : U64} {u : Unit}

lemma toNat_add_of_le (h : x.toNat + y.toNat ≤ maxWord 64) : (x + y).toNat = x.toNat + y.toNat := by
  apply Nat.mod_eq_of_lt
  unfold maxWord at h
  omega

lemma add_eq_saturatingAdd (h : x.toNat + y.toNat ≤ maxWord 64) : x + y = saturatingAdd x y := by
  apply BitVec.eq_of_toNat_eq
  rw [toNat_add_of_le h, toNat_saturatingAdd, min_eq_left h]

@[simp] lemma toNat_greater : (greater x y).toNat = max x.toNat y.toNat := by
  unfold greater
  split_ifs <;> omega

def usedInput (l : List Forward) : ℕ := (l.map fun f => f.usedInput.toNat).sum

def usedOutput (l : List Forward) : ℕ := (l.map fun f => f.usedOutput.toNat).sum

@[simp] lemma usedInput_cons :
    usedInput (f :: l) = f.usedInput.toNat + usedInput l := rfl

@[simp] lemma usedOutput_cons :
    usedOutput (f :: l) = f.usedOutput.toNat + usedOutput l := rfl

@[simp] lemma usedInput_append : usedInput (l ++ l') = usedInput l + usedInput l' := by
  unfold usedInput
  rw [map_append, sum_append]

@[simp] lemma usedOutput_append : usedOutput (l ++ l') = usedOutput l + usedOutput l' := by
  unfold usedOutput
  rw [map_append, sum_append]

/-- No request used more than was reserved for it. -/
def WithinReservation (l : List Forward) : Prop :=
  ∀ f ∈ l, f.usedInput.toNat ≤ f.reservedInput.toNat ∧ f.usedOutput.toNat ≤ f.reservedOutput.toNat

instance (l : List Forward) : Decidable (WithinReservation l) :=
  inferInstanceAs (Decidable (∀ f ∈ l, _ ∧ _))

lemma WithinReservation.left (h : WithinReservation (l ++ l')) :
    WithinReservation l := fun f hf => h f (mem_append_left l' hf)

variable (a l) in
/-- The limit is not the largest word, or no request used more than was reserved: then nothing
overflows. -/
def Bounded : Prop :=
  a.maxCumulativeTokens.toNat < maxWord 64 ∨ WithinReservation l

lemma Bounded.left (h : Bounded a (l ++ l')) : Bounded a l :=
  h.imp id WithinReservation.left

/-- No request is under way or lost. -/
def JournalRequestState.isOpen (s : JournalRequestState) : Prop := s = .idle ∨ s = .committed

def CodexUsageJournalEntry.charged (e : CodexUsageJournalEntry) : ℕ :=
  e.cumulativeInputTokens.toNat + e.cumulativeOutputTokens.toNat

def CodexUsageJournalEntry.reservedTokens (e : CodexUsageJournalEntry) : ℕ :=
  e.reservedInputTokens.toNat + e.reservedOutputTokens.toNat

variable (a settled unsettled e) in
/-- The entry counts every request that was sent and covers what they used. -/
structure Book : Prop where
  count : settled.length + unsettled.length ≤ e.providerRequests.toNat
  requests_le : e.providerRequests.toNat ≤ a.maxProviderRequests.toNat
  retries_le : e.providerRequests.toNat ≤ a.maxRetries.toNat + 1
  settled_of_open : e.state.isOpen → unsettled = []
  unreserved : e.state.isOpen ∨ e.state = .outcomeUnknown →
    e.reservedInputTokens = 0 ∧ e.reservedOutputTokens = 0
  fits : Bounded a (settled ++ unsettled) →
    e.cumulativeInputTokens.toNat + e.reservedInputTokens.toNat ≤ maxWord 64 ∧
      e.cumulativeOutputTokens.toNat + e.reservedOutputTokens.toNat ≤ maxWord 64
  covers : WithinReservation (settled ++ unsettled) →
    usedInput (settled ++ unsettled) ≤ e.cumulativeInputTokens.toNat + e.reservedInputTokens.toNat ∧
      usedOutput (settled ++ unsettled) ≤
        e.cumulativeOutputTokens.toNat + e.reservedOutputTokens.toNat
  limit : a.maxCumulativeTokens.toNat < maxWord 64 → e.state.isOpen ∨ e.state = .inFlight →
    e.charged + e.reservedTokens ≤ a.maxCumulativeTokens.toNat

variable (a settled e) in
/-- The entry of a request that is reserved or under way; `settled` are the ones before it. -/
structure Flight : Prop where
  state : e.state = .inFlight
  output : e.reservedOutputTokens = a.maxOutputTokensPerRequest
  count : settled.length + 1 ≤ e.providerRequests.toNat
  requests_le : e.providerRequests.toNat ≤ a.maxProviderRequests.toNat
  retries_le : e.providerRequests.toNat ≤ a.maxRetries.toNat + 1
  fits : Bounded a settled →
    e.cumulativeInputTokens.toNat + e.reservedInputTokens.toNat ≤ maxWord 64 ∧
      e.cumulativeOutputTokens.toNat + e.reservedOutputTokens.toNat ≤ maxWord 64
  covers : WithinReservation settled → usedInput settled ≤ e.cumulativeInputTokens.toNat ∧
    usedOutput settled ≤ e.cumulativeOutputTokens.toNat
  limit : a.maxCumulativeTokens.toNat < maxWord 64 →
    e.charged + e.reservedTokens ≤ a.maxCumulativeTokens.toNat

/-- The same entry, or the same with the state of a failed write. -/
def Marked (e e' : CodexUsageJournalEntry) : Prop :=
  e' = e ∨ e' = { e with state := .persistenceFailed }

lemma Marked.refl (e : CodexUsageJournalEntry) : Marked e e := .inl rfl

lemma Marked.mark (h : Marked e e') : Marked e { e' with state := .persistenceFailed } := by
  rcases h with rfl | rfl
  · exact .inr rfl
  · exact .inr rfl

lemma not_isOpen_persistenceFailed : ¬JournalRequestState.persistenceFailed.isOpen := by
  rintro (h | h) <;> cases h

lemma not_isOpen_inFlight : ¬JournalRequestState.inFlight.isOpen := by
  rintro (h | h) <;> cases h

lemma not_isOpen_outcomeUnknown : ¬JournalRequestState.outcomeUnknown.isOpen := by
  rintro (h | h) <;> cases h

/-- The state of a failed write asks nothing of the rest of the entry. -/
lemma book_of_failed (hstate : e.state = .persistenceFailed)
    (count : settled.length + unsettled.length ≤ e.providerRequests.toNat)
    (requests_le : e.providerRequests.toNat ≤ a.maxProviderRequests.toNat)
    (retries_le : e.providerRequests.toNat ≤ a.maxRetries.toNat + 1)
    (fits : Bounded a (settled ++ unsettled) →
      e.cumulativeInputTokens.toNat + e.reservedInputTokens.toNat ≤ maxWord 64 ∧
      e.cumulativeOutputTokens.toNat + e.reservedOutputTokens.toNat ≤ maxWord 64)
    (covers : WithinReservation (settled ++ unsettled) →
      usedInput (settled ++ unsettled) ≤
        e.cumulativeInputTokens.toNat + e.reservedInputTokens.toNat ∧
      usedOutput (settled ++ unsettled) ≤
        e.cumulativeOutputTokens.toNat + e.reservedOutputTokens.toNat) :
    Book a settled unsettled e := by
  have hclosed : ¬e.state.isOpen := by
    rw [hstate]
    exact not_isOpen_persistenceFailed
  refine ⟨count, requests_le, retries_le, fun ho => absurd ho hclosed, fun ho => ?_, fits, covers,
    fun _ ho => ?_⟩
  · rw [hstate] at ho
    exact ho.elim (fun ho => absurd ho not_isOpen_persistenceFailed) nofun
  · rw [hstate] at ho
    exact ho.elim (fun ho => absurd ho not_isOpen_persistenceFailed) nofun

lemma Book.mark (h : Book a settled unsettled e) :
    Book a settled unsettled { e with state := .persistenceFailed } :=
  book_of_failed rfl h.count h.requests_le h.retries_le h.fits h.covers

lemma Book.marked (h : Book a settled unsettled e) (hm : Marked e e') :
    Book a settled unsettled e' := by
  rcases hm with rfl | rfl
  · exact h
  · exact h.mark

/-- The entry that charges a request at least its reservation and leaves its outcome open. -/
lemma Book.charge_unknown (h : Book a settled unsettled e)
    (hx : e.reservedInputTokens.toNat ≤ x.toNat) (hy : e.reservedOutputTokens.toNat ≤ y.toNat) :
    Book a settled unsettled
      { e with
        cumulativeInputTokens := saturatingAdd e.cumulativeInputTokens x
        cumulativeOutputTokens := saturatingAdd e.cumulativeOutputTokens y
        reservedInputTokens := 0
        reservedOutputTokens := 0
        state := .outcomeUnknown } where
  count := h.count
  requests_le := h.requests_le
  retries_le := h.retries_le
  settled_of_open ho := absurd ho not_isOpen_outcomeUnknown
  unreserved _ := ⟨rfl, rfl⟩
  fits _ := ⟨toNat_le_maxWord _, toNat_le_maxWord _⟩
  covers hw := by
    obtain ⟨hin, hout⟩ := h.covers hw
    obtain ⟨fin, fout⟩ := h.fits (.inr hw)
    have hzero : (0 : U64).toNat = 0 := rfl
    rw [toNat_saturatingAdd, toNat_saturatingAdd, hzero]
    omega
  limit _ ho := ho.elim
    (fun ho => ho.elim nofun nofun) nofun

/-- Before it is sent a reserved request counts for nothing. -/
lemma Flight.book (h : Flight a settled e) : Book a settled [] e where
  count := Nat.le_of_succ_le h.count
  requests_le := h.requests_le
  retries_le := h.retries_le
  settled_of_open _ := rfl
  unreserved ho := by
    rw [h.state] at ho
    exact ho.elim (fun ho => absurd ho not_isOpen_inFlight) nofun
  fits hb := h.fits hb.left
  covers hw := by
    rw [append_nil] at hw ⊢
    have := h.covers hw
    omega
  limit hlt _ := h.limit hlt

/-- The request went out under the reservation of the entry. -/
structure Reserved (f : Forward) (e : CodexUsageJournalEntry) : Prop where
  input : f.reservedInput = e.reservedInputTokens
  output : f.reservedOutput = e.reservedOutputTokens

structure Used (f : Forward) (input output : U64) : Prop where
  input : f.usedInput = input
  output : f.usedOutput = output

/-- Once it is sent, its reservation covers it. -/
lemma Flight.book_sent (h : Flight a settled e) (hres : Reserved f e) : Book a settled [f] e where
  count := h.count
  requests_le := h.requests_le
  retries_le := h.retries_le
  settled_of_open ho := by
    rw [h.state] at ho
    exact absurd ho not_isOpen_inFlight
  unreserved ho := by
    rw [h.state] at ho
    exact ho.elim (fun ho => absurd ho not_isOpen_inFlight) nofun
  fits hb := h.fits hb.left
  covers hw := by
    have hbefore := h.covers hw.left
    have hf := hw f (mem_append_right settled mem_cons_self)
    rw [hres.input, hres.output] at hf
    simp only [usedInput_append, usedOutput_append, usedInput_cons, usedOutput_cons]
    change _ + (_ + 0) ≤ _ ∧ _ + (_ + 0) ≤ _
    omega
  limit hlt _ := h.limit hlt

/-- Whatever becomes of a write, the file and the entry say what they said, up to the mark of
a failure. -/
lemma book_persist (hfile : Book a settled unsettled j.file)
    (hentry : Book a settled unsettled j.entry) (w : Write) :
    Book a settled unsettled (j.persist w).2.file ∧
      Book a settled unsettled (j.persist w).2.entry := by
  unfold persist
  split_ifs
  · exact ⟨hentry, hentry⟩
  · exact ⟨hentry.mark, hentry.mark⟩
  · exact ⟨hfile, hentry.mark⟩

lemma persist_ok (h : j.persist w = (.ok u, j')) : j' = { j with file := j.entry } := by
  unfold persist at h
  split_ifs at h
  · exact (Prod.mk.inj h).2.symm
  all_goals cases (Prod.mk.inj h).1

lemma persist_error {reason : String} (h : j.persist w = (.error reason, j')) :
    j'.halted = true ∧ j'.entry = { j.entry with state := .persistenceFailed } ∧
      (j'.file = j'.entry ∨ j'.file = j.file) := by
  unfold persist at h
  split_ifs at h
  · cases (Prod.mk.inj h).1
  · cases h
    exact ⟨rfl, rfl, .inl rfl⟩
  · cases h
    exact ⟨rfl, rfl, .inr rfl⟩

lemma isHalted_of_halted (h : j.halted = true) : j.isHalted = true := by
  unfold isHalted
  rw [h, Bool.true_or]

lemma admitsNewRequest_eq_ok (h : j.admitsNewRequest = .ok u) :
    j.isHalted = false ∧ j.entry.state.isOpen := by
  obtain ⟨hhalt, h⟩ := seq_ok h
  rw [refuse_eq_ok] at hhalt h
  refine ⟨hhalt, ?_⟩
  unfold isHalted at hhalt
  unfold JournalRequestState.isOpen
  cases hs : j.entry.state <;> simp_all

/-- A journal that is halted, or whose request is under way or lost, admits nothing. -/
lemma admitsNewRequest_blocked (h : j.isHalted = true ∨ ¬j.entry.state.isOpen) :
    ∃ reason, j.admitsNewRequest = .error reason := by
  cases hadmits : j.admitsNewRequest with
  | error reason => exact ⟨reason, rfl⟩
  | ok u =>
    obtain ⟨hhalt, hopen⟩ := admitsNewRequest_eq_ok hadmits
    rcases h with h | h
    · rw [hhalt] at h
      cases h
    · exact absurd hopen h

end Harness.Codex
