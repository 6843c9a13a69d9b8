import Harness.Spec.Delegation
import Mathlib.Algebra.BigOperators.Group.List.Basic

/-! What one write does to the provider journal: a claim appends an entry within the limits, a
reconciliation settles an entry that was sending, and the workspace adds its outcome to one that
succeeded. -/

namespace Harness.Delegated

open Lib List

variable {F : Type}
variable {float : Float64 F} {isWhitespace : Char → Bool} {frozen : Frozen F}
variable {requestSha256 : ManagedProviderCallRequest F → String}
variable {journal journal' : Journal F} {request : ManagedProviderCallRequest F}

/-- The tokens that the entries hold, as a number. -/
def Journal.effective (journal : Journal F) : ℕ := (journal.map fun e => e.effectiveTokens.toNat).sum

lemma toNat_foldl_saturatingAdd {total : U64} :
    (journal.foldl (fun total e => saturatingAdd total e.effectiveTokens) total).toNat =
      min (total.toNat + Journal.effective journal) (maxWord 64) := by
  induction journal generalizing total with
  | nil => simpa [Journal.effective] using (Nat.min_eq_left (toNat_le_maxWord total)).symm
  | cons e journal ih =>
    rw [foldl_cons, ih, toNat_saturatingAdd]
    simp only [Journal.effective, map_cons, sum_cons]
    omega

lemma toNat_priorTokens : journal.priorTokens.toNat = min journal.effective (maxWord 64) := by
  rw [Journal.priorTokens, toNat_foldl_saturatingAdd]
  simp

lemma Journal.effective_append {e : JournalEntry F} :
    Journal.effective (journal ++ [e]) = journal.effective + e.effectiveTokens.toNat := by
  simp [Journal.effective]

variable {e e' : JournalEntry F}

variable {b : ManagedCallBinding} {limits : ManagedCallLimits F} {effect : ManagedFailureEffect}
  {response : Option (ManagedProviderResponse F)} {sha256 : String} {i : ℕ} {now : ℤ}

lemma Journal.effective_set_le (he : journal[i]? = some e)
    (h : e'.effectiveTokens.toNat ≤ e.effectiveTokens.toNat) :
    Journal.effective (journal.set i e') ≤ journal.effective := by
  induction journal generalizing i with
  | nil => simp at he
  | cons a journal ih =>
    cases i with
    | zero =>
      obtain rfl : a = e := by simpa using he
      simpa [Journal.effective] using h
    | succ i =>
      have := ih (i := i) (by simpa using he)
      simpa [Journal.effective] using this

/-! A policy leaves no room for a sum that saturates. -/

lemma limits_of_policy [DecidableEq F] {m : Manifest F} {u : Unit}
    (h : validateDelegatedManifestPolicy isWhitespace frozen m = .ok u) :
    m.limits.maxCumulativeTokens.toNat < maxWord 64 := by
  iterate 2 obtain ⟨-, h⟩ := seq_ok h
  obtain ⟨models, -, h⟩ := bind_ok h
  obtain ⟨expected, -, h⟩ := bind_ok h
  obtain ⟨-, h⟩ := seq_ok h
  have hpolicy := refuse_ok h
  simp only [Bool.not_eq_eq_eq_not, Bool.not_false, Bool.and_eq_true, Bool.or_eq_true] at hpolicy
  obtain ⟨⟨-, hlimits⟩, -⟩ := hpolicy
  have : m.maxCumulativeTokens = some 24000 ∨ m.maxCumulativeTokens = some 16000 ∨
      m.maxCumulativeTokens = some 20192 := by
    rcases hlimits with ⟨-, hl⟩ | ⟨-, hl⟩
    · simp only [Manifest.docsLimits, Bool.and_eq_true, decide_eq_true_eq] at hl
      exact .inl hl.1.2
    · simp only [Manifest.rweLimits, Bool.and_eq_true, Bool.or_eq_true, decide_eq_true_eq] at hl
      rcases hl.1.2 with hl | hl
      · exact .inr (.inl hl.2)
      · exact .inr (.inr hl.2)
  rcases this with h | h | h <;> simp [Manifest.limits, h, maxWord]

/-- An entry that a claim may append under these limits. -/
structure Claimable (limits : ManagedCallLimits F) (journal : Journal F) (e : JournalEntry F) :
    Prop where
  sending : e.status = .sending
  reserved : e.effectiveTokens = e.reservedTokens
  fresh : e.nodeId ∉ journal.map JournalEntry.nodeId
  room : journal.length < limits.maxRequests.toNat
  tokens : journal.effective + e.effectiveTokens.toNat ≤ limits.maxCumulativeTokens.toNat

lemma claim_spec {scheduler : ManagedSchedulerLeaseAuthority}
    (hmax : request.limits.maxCumulativeTokens.toNat < maxWord 64)
    (h : claimProviderJournalEntry float isWhitespace requestSha256 journal request scheduler now =
      .ok journal') : ∃ e, Claimable request.limits journal e ∧ journal' = journal ++ [e] := by
  obtain ⟨hfresh, h⟩ := seq_ok h
  obtain ⟨hroom, h⟩ := seq_ok h
  obtain ⟨htokens, h⟩ := seq_ok h
  obtain ⟨cost, -, h⟩ := bind_ok h
  obtain ⟨prior, -, h⟩ := bind_ok h
  obtain ⟨-, h⟩ := seq_ok h
  cases h
  have hfresh := refuse_ok hfresh
  have hroom := refuse_ok hroom
  have htokens := refuse_ok htokens
  refine ⟨_, ⟨rfl, rfl, ?_, by simpa using hroom, ?_⟩, rfl⟩
  · intro hmem
    obtain ⟨e, he, hnode⟩ := mem_map.mp hmem
    simp only [any_eq_false, Bool.or_eq_true, decide_eq_true_eq, not_or] at hfresh
    exact (hfresh e he).1 hnode
  · simp only [Bool.or_eq_false_iff, decide_eq_false_iff_not, BitVec.not_lt] at htokens
    have hsum := BitVec.le_def.mp htokens.2
    rw [toNat_saturatingAdd, toNat_priorTokens] at hsum
    change _ + request.reservedTokens.toNat ≤ _
    omega

/-- What no write to an entry changes. -/
structure SameClaim (e e' : JournalEntry F) : Prop where
  nodeId : e'.nodeId = e.nodeId
  requestSha256 : e'.requestSha256 = e.requestSha256
  reservedInputTokens : e'.reservedInputTokens = e.reservedInputTokens
  reservedOutputTokens : e'.reservedOutputTokens = e.reservedOutputTokens

lemma SameClaim.refl (e : JournalEntry F) : SameClaim e e := ⟨rfl, rfl, rfl, rfl⟩

lemma SameClaim.trans {a b c : JournalEntry F} (h1 : SameClaim a b) (h2 : SameClaim b c) :
    SameClaim a c :=
  ⟨h2.nodeId.trans h1.nodeId, h2.requestSha256.trans h1.requestSha256,
    h2.reservedInputTokens.trans h1.reservedInputTokens,
    h2.reservedOutputTokens.trans h1.reservedOutputTokens⟩

/-- What an entry holds: its reservation until the outcome is known, what was used after. -/
structure Accounted (e : JournalEntry F) : Prop where
  sending : e.status = .sending → e.effectiveTokens = e.reservedTokens
  outcomeUnknown : e.status = .outcomeUnknown → e.effectiveTokens = e.reservedTokens
  succeeded : e.status = .succeeded → e.usage.map ManagedUsage.cumulativeTokens =
    some e.effectiveTokens
  failedBeforeSend : e.status = .failedBeforeSend → e.effectiveTokens = 0
  failedKnownOutcome : e.status = .failedKnownOutcome → e.effectiveTokens = 0

variable (requestSha256 journal request response) in
/-- Whether a response used no more than the entries it may settle have reserved. -/
def UsageWithin : Prop :=
  ∀ response' ∈ response, ∀ e ∈ journal, e.isFor requestSha256 request →
    response'.usage.cumulativeTokens.toNat ≤ e.reservedTokens.toNat

instance (journal : Journal F) (request : ManagedProviderCallRequest F)
    (response : Option (ManagedProviderResponse F)) :
    Decidable (UsageWithin requestSha256 journal request response) :=
  inferInstanceAs (Decidable (∀ response' ∈ response, ∀ e ∈ journal,
    e.isFor requestSha256 request = true →
      response'.usage.cumulativeTokens.toNat ≤ e.reservedTokens.toNat))

/-- A reconciliation of the entry `e`; `bounded` says that the usage was within the
reservation. -/
structure Reconciles (bounded : Prop) (e e' : JournalEntry F) : Prop where
  claim : SameClaim e e'
  sending : e.status = .sending
  settled : e'.status ≠ .sending
  accounted : Accounted e → Accounted e'
  within : bounded → Accounted e → e'.effectiveTokens.toNat ≤ e.effectiveTokens.toNat

lemma reconciledEntry_spec {bounded : Prop} (hsending : e.status = .sending)
    (hb : bounded → ∀ response' ∈ response,
      response'.usage.cumulativeTokens.toNat ≤ e.reservedTokens.toNat)
    (h : reconciledEntry float e request response effect now = .ok e') :
    Reconciles bounded e e' := by
  cases response with
  | some response =>
    obtain ⟨-, h⟩ := seq_ok h
    obtain ⟨cost, -, h⟩ := bind_ok h
    cases h
    refine ⟨⟨rfl, rfl, rfl, rfl⟩, hsending, by simp, fun _ => ?_, fun hbounded ha => ?_⟩
    · constructor <;> simp
    · rw [ha.sending hsending]
      exact hb hbounded response rfl
  | none =>
    cases effect with
    | preSend =>
      cases h
      refine ⟨⟨rfl, rfl, rfl, rfl⟩, hsending, by simp, fun _ => ?_, fun _ _ => Nat.zero_le _⟩
      constructor <;> simp
    | noExternalEffect =>
      cases h
      refine ⟨⟨rfl, rfl, rfl, rfl⟩, hsending, by simp, fun _ => ?_, fun _ _ => Nat.zero_le _⟩
      constructor <;> simp
    | outcomeUnknown =>
      cases h
      refine ⟨⟨rfl, rfl, rfl, rfl⟩, hsending, by simp, fun ha => ?_, fun _ _ => le_rfl⟩
      -- the reservation stays: the amount is the one the entry had while sending
      have hreserved := ha.sending hsending
      constructor <;> simp [JournalEntry.reservedTokens] at hreserved ⊢
      exact hreserved

lemma reconcile_spec
    (h : reconcileProviderJournalEntry float requestSha256 journal request response effect now =
      .ok journal') :
    ∃ i e e', journal[i]? = some e ∧
      Reconciles (UsageWithin requestSha256 journal request response) e e' ∧
      journal' = journal.set i e' := by
  obtain ⟨e, he, h⟩ := bind_ok h
  have he := required_eq_ok.mp he
  obtain ⟨hsending, h⟩ := seq_ok h
  obtain ⟨-, h⟩ := seq_ok h
  obtain ⟨e', he', h⟩ := bind_ok h
  cases h
  have hsending : e.status = .sending := by simpa using refuse_ok hsending
  obtain ⟨hi, hget⟩ := List.getElem?_eq_some_iff.mp he
  have hfor : e.isFor requestSha256 request := by
    rw [← hget]
    exact findIdx_getElem (p := JournalEntry.isFor requestSha256 request)
  refine ⟨_, e, e', he, reconciledEntry_spec hsending ?_ he', rfl⟩
  intro hwithin response' hr
  exact hwithin response' hr e (hget ▸ getElem_mem hi) hfor

/-- The workspace writes its own two columns. -/
def Notes (e e' : JournalEntry F) : Prop :=
  ∃ action failure, e' = { e with workspaceAction := action, workspaceActionFailure := failure }

lemma Notes.refl (e : JournalEntry F) : Notes e e := ⟨_, _, rfl⟩

lemma Notes.trans {a b c : JournalEntry F} (h1 : Notes a b) (h2 : Notes b c) : Notes a c := by
  obtain ⟨_, _, rfl⟩ := h1
  obtain ⟨action, failure, rfl⟩ := h2
  exact ⟨action, failure, rfl⟩

lemma Notes.sameClaim (h : Notes e e') : SameClaim e e' := by
  obtain ⟨_, _, rfl⟩ := h
  exact ⟨rfl, rfl, rfl, rfl⟩

lemma Notes.status (h : Notes e e') : e'.status = e.status := by
  obtain ⟨_, _, rfl⟩ := h
  rfl

lemma Notes.effectiveTokens (h : Notes e e') : e'.effectiveTokens = e.effectiveTokens := by
  obtain ⟨_, _, rfl⟩ := h
  rfl

lemma Notes.accounted (h : Notes e e') (ha : Accounted e) : Accounted e' := by
  obtain ⟨_, _, rfl⟩ := h
  exact ⟨ha.sending, ha.outcomeUnknown, ha.succeeded, ha.failedBeforeSend, ha.failedKnownOutcome⟩

lemma recordWorkspace_spec
    (h : recordWorkspaceActionInJournal journal b sha256 = .ok journal' ∨
      recordWorkspaceActionFailureInJournal journal b sha256 = .ok journal') :
    ∃ i e e', journal[i]? = some e ∧ e.status = .succeeded ∧ Notes e e' ∧
      journal' = journal.set i e' := by
  rcases h with h | h
  all_goals
    obtain ⟨e, he, h⟩ := bind_ok h
    obtain ⟨hstatus, h⟩ := seq_ok h
    iterate 2 obtain ⟨-, h⟩ := seq_ok h
    cases h
    exact ⟨_, e, _, required_eq_ok.mp he, by simpa using refuse_ok hstatus, ⟨_, _, rfl⟩, rfl⟩

/-! Journals under limits, and what becomes of them. -/

structure JournalWithin (limits : ManagedCallLimits F) (journal : Journal F) : Prop where
  requests : journal.length ≤ limits.maxRequests.toNat
  nodes : (journal.map JournalEntry.nodeId).Nodup
  tokens : journal.effective ≤ limits.maxCumulativeTokens.toNat
  accounted : ∀ e ∈ journal, Accounted e

lemma JournalWithin.nil (limits : ManagedCallLimits F) : JournalWithin limits [] :=
  ⟨Nat.zero_le _, nodup_nil, Nat.zero_le _, fun _ h => absurd h not_mem_nil⟩

lemma JournalWithin.claim (h : JournalWithin limits journal) (hc : Claimable limits journal e) :
    JournalWithin limits (journal ++ [e]) where
  requests := by
    rw [length_append]
    exact hc.room
  nodes := by
    rw [map_append, map_singleton, nodup_append]
    refine ⟨h.nodes, nodup_singleton _, ?_⟩
    intro a ha b hb hab
    rw [mem_singleton.mp hb] at hab
    exact hc.fresh (hab ▸ ha)
  tokens := by
    rw [Journal.effective_append]
    exact hc.tokens
  accounted := by
    intro e' he'
    rcases mem_append.mp he' with he' | he'
    · exact h.accounted e' he'
    · obtain rfl := mem_singleton.mp he'
      exact ⟨fun _ => hc.reserved, fun hs => absurd hs (by simp [hc.sending]),
        fun hs => absurd hs (by simp [hc.sending]), fun hs => absurd hs (by simp [hc.sending]),
        fun hs => absurd hs (by simp [hc.sending])⟩

lemma JournalWithin.set (h : JournalWithin limits journal) (he : journal[i]? = some e)
    (hclaim : SameClaim e e') (ha : Accounted e')
    (hle : e'.effectiveTokens.toNat ≤ e.effectiveTokens.toNat) :
    JournalWithin limits (journal.set i e') where
  requests := by
    rw [length_set]
    exact h.requests
  nodes := by
    have : (journal.set i e').map JournalEntry.nodeId = journal.map JournalEntry.nodeId := by
      rw [map_set, hclaim.nodeId]
      apply ext_getElem?
      intro j
      rw [getElem?_set]
      split_ifs with hij hlen
      · subst hij
        simp [he]
      · subst hij
        simpa using hlen
      · rfl
    rw [this]
    exact h.nodes
  tokens := (Journal.effective_set_le he hle).trans h.tokens
  accounted := by
    intro a hmem
    rcases mem_or_eq_of_mem_set hmem with hmem | rfl
    · exact h.accounted a hmem
    · exact ha

/-- What becomes of the entries: none goes, and one that is settled stays as it is, up to what
the workspace notes on it. -/
def JournalFollows (journal journal' : Journal F) : Prop :=
  ∀ (i : ℕ) (e : JournalEntry F), journal[i]? = some e → ∃ e' : JournalEntry F,
    journal'[i]? = some e' ∧ SameClaim e e' ∧ (e.status ≠ .sending → Notes e e')

lemma JournalFollows.refl (journal : Journal F) : JournalFollows journal journal :=
  fun _ e he => ⟨e, he, SameClaim.refl e, fun _ => Notes.refl e⟩

lemma JournalFollows.trans {a b c : Journal F} (h1 : JournalFollows a b)
    (h2 : JournalFollows b c) : JournalFollows a c := by
  intro i e he
  obtain ⟨e₁, he₁, hc₁, hn₁⟩ := h1 i e he
  obtain ⟨e₂, he₂, hc₂, hn₂⟩ := h2 i e₁ he₁
  refine ⟨e₂, he₂, hc₁.trans hc₂, fun hs => ?_⟩
  have hnote := hn₁ hs
  exact hnote.trans (hn₂ (hnote.status ▸ hs))

lemma JournalFollows.append (journal : Journal F) (e : JournalEntry F) :
    JournalFollows journal (journal ++ [e]) := by
  intro i a ha
  have hi := (List.getElem?_eq_some_iff.mp ha).1
  exact ⟨a, by rw [getElem?_append_left hi, ha], SameClaim.refl a, fun _ => Notes.refl a⟩

lemma JournalFollows.set (he : journal[i]? = some e) (hclaim : SameClaim e e')
    (hnote : e.status ≠ .sending → Notes e e') : JournalFollows journal (journal.set i e') := by
  intro j a ha
  by_cases hij : i = j
  · subst hij
    obtain rfl : e = a := by simpa [he] using ha
    have hi := (List.getElem?_eq_some_iff.mp he).1
    exact ⟨e', by simp [hi], hclaim, hnote⟩
  · exact ⟨a, by rw [getElem?_set_ne hij, ha], SameClaim.refl a, fun _ => Notes.refl a⟩

end Harness.Delegated
