import Harness.Sanity.RweSteps

/-! The budget of an RWE run over every order of claims and finalizations: what is reserved or
reported stays under the ceilings of the run, as long as a claim records its reservation; and a
finalization that does not report what was used gives the reservation back. -/

namespace Harness.Rwe

open Lib Table List Option Function Machine

variable {t : RweTaskAttempt}
variable {ext : Externals} {m : Machine} {runId : String} {ceilings : UInt64 × UInt64}

/-- What an attempt stands for: its whole envelope while it is dispatched, then what was
reported. -/
def charge (granted : String → Option RweCellBudgetEnvelope) (t : RweTaskAttempt) :
    UInt64 × UInt64 :=
  if t.classification = dispatched then
    ((granted t.taskAttemptId).map fun e => (e.maxProviderRequests, e.maxTotalTokens)).getD (0, 0)
  else
    ((u64At t.evidence ["provider_requests"]).getD 0, (u64At t.evidence ["total_tokens"]).getD 0)

/-- The finalization says what was used, and it is no more than was granted. -/
def Reported (m : Machine) (f : Finalize) : Prop :=
  ∀ t e, Closes m.store f t → m.granted f.taskAttemptId = some e →
    ∃ req tok, u64At f.evidence ["provider_requests"] = some req ∧
      u64At f.evidence ["total_tokens"] = some tok ∧
      req ≤ e.maxProviderRequests ∧ tok ≤ e.maxTotalTokens

/-- A step on the run that can record its reservation, or reports its usage. -/
def Sound (m : Machine) (runId : String) : Op → Prop
  | .claim c => c.runId = runId → c.reservationEvidence.isObject = true
  | .finalize f => f.runId = runId → Reported m f

/-- Every step of the sequence is sound where it is taken. -/
def SoundRun (ext : Externals) (runId : String) : Machine → List Op → Prop
  | _, [] => True
  | m, op :: ops => Sound m runId op ∧ SoundRun ext runId (m.step ext op) ops

/-- The reservations of the run are recorded, and all that is recorded is under the ceilings. -/
structure Kept (ceilings : UInt64 × UInt64) (runId : String) (m : Machine) : Prop where
  booked : ∀ t ∈ m.store.attempts.rows, t.runId = runId → t.classification = dispatched →
    ∃ e, m.granted t.taskAttemptId = some e ∧ t.usage = (e.maxProviderRequests, e.maxTotalTokens)
  requests : total m.store runId (fun t => t.usage.1.toNat) ≤ ceilings.1.toNat
  tokens : total m.store runId (fun t => t.usage.2.toNat) ≤ ceilings.2.toNat

lemma Kept.charge_eq (h : Kept ceilings runId m) (ht : t ∈ attemptsOf m.store runId) :
    charge m.granted t = t.usage := by
  obtain ⟨hmem, hrun⟩ := mem_filter.mp ht
  unfold charge
  split_ifs with hdispatched
  · obtain ⟨e, he, husage⟩ := h.booked t hmem (of_decide_eq_true hrun) hdispatched
    rw [he, husage]
    rfl
  · exact (if_neg hdispatched).symm

lemma Kept.total_charge (h : Kept ceilings runId m) {part : UInt64 × UInt64 → UInt64} :
    total m.store runId (fun t => (part (charge m.granted t)).toNat) =
      total m.store runId (fun t => (part t.usage).toNat) := by
  refine congrArg sum (map_congr_left fun t ht => ?_)
  rw [h.charge_eq ht]

/-- A claim adds what it was granted, and it was granted no more than was left. -/
lemma Kept.claim {run : RweRun} {c : Claim} (h : Kept ceilings runId m)
    (hrun : m.store.runs.find? runId = some run)
    (hceilings : rweRunLevelBudgetCeilingsFromRun ext run = .ok ceilings) (htok : 0 < ceilings.2)
    (hobject : c.runId = runId → c.reservationEvidence.isObject = true)
    (hgranted : Granted ext m.store c) :
    Kept ceilings runId
      ⟨m.store.insertAttempt (c.row ext), update m.granted c.taskAttemptId (some c.envelope)⟩ := by
  -- the two sums move by what the new row counts for
  have hfits : c.runId = runId →
      total m.store runId (fun t => t.usage.1.toNat) + (c.row ext).usage.1.toNat ≤
          ceilings.1.toNat ∧
        total m.store runId (fun t => t.usage.2.toNat) + (c.row ext).usage.2.toNat ≤
          ceilings.2.toNat := by
    rintro rfl
    obtain ⟨run', hrun', hbudget⟩ := hgranted.fits
    cases hrun.symm.trans hrun'
    obtain ⟨ceilings', hceilings', hreqFits, htokFits⟩ := requireBudget_fits hbudget
    cases (hceilings.symm.trans hceilings')
    rw [key_of_find? hrun] at hreqFits htokFits
    rw [usage_row (hobject rfl)]
    exact ⟨hreqFits, htokFits htok⟩
  refine ⟨?_, ?_, ?_⟩
  · intro t ht howned hdispatched
    rcases (m.store.attempts.mem_insert _ t).mp ht with rfl | ⟨hold, hne⟩
    · exact ⟨c.envelope, update_self .., usage_row (hobject howned)⟩
    · obtain ⟨e, he, husage⟩ := h.booked t hold howned hdispatched
      exact ⟨e, (update_of_ne hne ..).trans he, husage⟩
  · exact total_insert_le hgranted.new h.requests fun howned => (hfits howned).1
  · exact total_insert_le hgranted.new h.tokens fun howned => (hfits howned).2

variable {f : Finalize} {ops : List Op} {op : Op} {id : String}

/-- A finalization puts no more in the place of a reservation. -/
lemma Kept.finalize (h : Kept ceilings runId m) (hreported : f.runId = runId → Reported m f)
    (hcloses : Closes m.store f t) :
    Kept ceilings runId ⟨m.store.closeAttempt ext f, m.granted⟩ := by
  have hle : t.runId = runId → (f.close ext t).usage.1.toNat ≤ t.usage.1.toNat ∧
      (f.close ext t).usage.2.toNat ≤ t.usage.2.toNat := by
    intro howned
    obtain ⟨e, he, husage⟩ :=
      h.booked t (mem_of_find? hcloses.found) howned hcloses.reserved
    rw [key_of_find? hcloses.found] at he
    obtain ⟨req, tok, hreq, htok, hreqLe, htokLe⟩ :=
      hreported (hcloses.owned.symm.trans howned) t e hcloses he
    rw [usage_close hcloses.terminal, hreq, htok, husage]
    exact ⟨UInt64.le_iff_toNat_le.mp hreqLe, UInt64.le_iff_toNat_le.mp htokLe⟩
  refine ⟨?_, ?_, ?_⟩
  · intro t' ht' howned hdispatched
    obtain ⟨old, hold, rfl⟩ := (m.store.attempts.mem_modify _ (f.close ext) (fun _ => rfl)).mp ht'
    split_ifs at howned hdispatched ⊢ with hkey
    · exact absurd hdispatched hcloses.terminal
    · exact h.booked old hold howned hdispatched
  · exact (hcloses.total_le ext fun howned => (hle howned).1).trans h.requests
  · exact (hcloses.total_le ext fun howned => (hle howned).2).trans h.tokens

lemma Kept.step {run : RweRun} (h : Kept ceilings runId m)
    (hrun : m.store.runs.find? runId = some run)
    (hceilings : rweRunLevelBudgetCeilingsFromRun ext run = .ok ceilings) (htok : 0 < ceilings.2)
    (hsound : Sound m runId op) :
    Kept ceilings runId (m.step ext op) := by
  rcases step_cases ext m op with hstep | ⟨c, rfl, hgranted, hstep⟩ | ⟨f, t, rfl, hcloses, hstep⟩
  · rw [hstep]
    exact h
  · rw [hstep]
    exact h.claim hrun hceilings htok hsound hgranted
  · rw [hstep]
    exact h.finalize hsound hcloses

lemma Kept.run {run : RweRun} (hceilings : rweRunLevelBudgetCeilingsFromRun ext run = .ok ceilings)
    (htok : 0 < ceilings.2) (ops : List Op) (h : Kept ceilings runId m)
    (hrun : m.store.runs.find? runId = some run) (hsound : SoundRun ext runId m ops) :
    Kept ceilings runId (m.run ext ops) := by
  induction ops generalizing m with
  | nil => exact h
  | cons op ops ih =>
    refine ih (h.step hrun hceilings htok hsound.1) ?_ hsound.2
    rw [step_runs]
    exact hrun

lemma SoundRun.take (h : SoundRun ext runId m ops) (n : ℕ) : SoundRun ext runId m (ops.take n) := by
  induction ops generalizing m n with
  | nil => rwa [take_nil]
  | cons op ops ih =>
    cases n with
    | zero => trivial
    | succ n => exact ⟨h.1, ih h.2 n⟩

/-- After every transaction of the sequence, what the attempts of the run stand for is within
both ceilings. -/
theorem rwe_budget_within_ceilings (ext : Externals) (s : Store) (run : RweRun)
    (hrun : s.runs.find? run.runId = some run) (hnone : attemptsOf s run.runId = [])
    (ceilings : UInt64 × UInt64)
    (hceilings : rweRunLevelBudgetCeilingsFromRun ext run = .ok ceilings) (htok : 0 < ceilings.2)
    (ops : List Op)
    (hsound : SoundRun ext run.runId (.start s) ops) (n : ℕ) :
    let m := (start s).run ext (ops.take n)
    total m.store run.runId (fun t => (charge m.granted t).1.toNat) ≤ ceilings.1.toNat ∧
      total m.store run.runId (fun t => (charge m.granted t).2.toNat) ≤ ceilings.2.toNat := by
  intro m
  have hempty : ∀ weight, total s run.runId weight = 0 := by
    intro weight
    rw [total, hnone]
    rfl
  have hstart : Kept ceilings run.runId (.start s) := by
    refine ⟨fun t ht howned _ => ?_, ?_, ?_⟩
    · have hmem : t ∈ attemptsOf s run.runId := mem_filter.mpr ⟨ht, decide_eq_true howned⟩
      rw [hnone] at hmem
      exact absurd hmem not_mem_nil
    · exact (hempty _).trans_le (Nat.zero_le _)
    · exact (hempty _).trans_le (Nat.zero_le _)
  have hkept : Kept ceilings run.runId m :=
    hstart.run hceilings htok (ops.take n) hrun (hsound.take n)
  rw [hkept.total_charge, hkept.total_charge]
  exact ⟨hkept.requests, hkept.tokens⟩

/-! A run with ceilings of ten requests and a hundred tokens. -/

def sampleExternals : Externals where
  sha256 _ := "h"
  isWhitespace ch := ch = ' '
  frozenSchedule := .ok .null
  validateRunAuthorizationV2 _ := .ok ()

def sampleRun : RweRun where
  runId := "r"
  tenantId := "t"
  authorizationId := "a"
  principalId := "p"
  status := "admitted"
  evidence := .obj [("admit_state", .obj
    [("lease_token", .str "l"),
     ("run_body", .obj
       [("max_total_provider_requests", .uint 10), ("max_total_tokens", .uint 100)])])]

def sampleAuthorization : RweAuthorization where
  authorizationId := "a"
  tenantId := "t"
  principalId := "p"
  body := .obj
    [("schema_version", .str "rwe_run_authorization.v2"), ("principal_id", .str "p"),
     ("tenant_id", .str "t")]
  fixtureOnly := false
  status := .consumed
  expiresAt := 9
  consumedByRunId := some "r"
  revokedAt := none

def sampleStore : Store where
  runs := empty.insert sampleRun
  authorizations := empty.insert sampleAuthorization
  attempts := empty

/-- A claim of the whole budget of the run. -/
def sampleClaim (taskAttemptId : String) (reservationEvidence : Json) : Claim where
  principal := ⟨"t", "p", .operatorApiKey, [], "operator", by decide⟩
  runId := "r"
  authorizationId := "a"
  leaseToken := "l"
  taskAttemptId := taskAttemptId
  taskId := "k"
  definitionSha256 := "dddddddddddddddddddddddddddddddddddddddddddddddddddddddddddddddd"
  envelope := ⟨10, 0, 60, 40, 100, 1, none⟩
  reservationEvidence := reservationEvidence
  now := 1

def sampleFinalize (evidence : Json) : Finalize := ⟨"r", "l", "1", "failed", evidence⟩

/-- Two claims of the whole budget go through when neither is recorded. -/
theorem rwe_budget_exceeded :
    let m := (start sampleStore).run sampleExternals
      [.claim (sampleClaim "1" .null), .claim (sampleClaim "2" .null)]
    rweRunLevelBudgetCeilingsFromRun sampleExternals sampleRun = .ok (10, 100) ∧
      total m.store "r" (fun t => (charge m.granted t).1.toNat) = 20 ∧
      total m.store "r" (fun t => (charge m.granted t).2.toNat) = 200 :=
  ⟨rfl, rfl, rfl⟩

/-- An object leaves room for one of the two. -/
theorem rwe_budget_within_ceilings_sample :
    let m := (start sampleStore).run sampleExternals
      [.claim (sampleClaim "1" (.obj [])), .claim (sampleClaim "2" (.obj []))]
    total m.store "r" (fun t => (charge m.granted t).1.toNat) = 10 ∧
      total m.store "r" (fun t => (charge m.granted t).1.toNat) ≤ 10 ∧
      total m.store "r" (fun t => (charge m.granted t).2.toNat) ≤ 100 :=
  ⟨rfl, rwe_budget_within_ceilings sampleExternals sampleStore sampleRun rfl rfl (10, 100) rfl
    (by decide) [.claim (sampleClaim "1" (.obj [])), .claim (sampleClaim "2" (.obj []))]
    ⟨fun _ => rfl, fun _ => rfl, trivial⟩ 2⟩

/-- What the row of an attempt adds to the sum of its run. -/
def counted (s : Store) (taskAttemptId : String) : Option (UInt64 × UInt64) :=
  (s.attempts.find? taskAttemptId).map RweTaskAttempt.usage

def GrantsPositive (m : Machine) : Prop :=
  ∀ id e, m.granted id = some e → e.maxProviderRequests ≠ 0 ∧ e.maxTotalTokens ≠ 0

lemma requirePositiveEnvelope_ne {e : RweCellBudgetEnvelope}
    (h : requirePositiveEnvelope e = .ok ()) :
    e.maxProviderRequests ≠ 0 ∧ e.maxTotalTokens ≠ 0 := by
  obtain ⟨hreq, h⟩ := seq_ok h
  obtain ⟨htok, -⟩ := seq_ok h
  exact ⟨of_decide_eq_false (refuse_ok hreq), of_decide_eq_false (refuse_ok htok)⟩

lemma GrantsPositive.step (h : GrantsPositive m) (op : Op) : GrantsPositive (m.step ext op) := by
  rcases step_cases ext m op with hstep | ⟨c, -, hgranted, hstep⟩ | ⟨f, t, -, -, hstep⟩
  · rw [hstep]
    exact h
  · rw [hstep]
    intro id e he
    dsimp only at he
    by_cases hid : id = c.taskAttemptId
    · subst hid
      rw [update_self] at he
      cases he
      exact requirePositiveEnvelope_ne hgranted.positive
    · rw [update_of_ne hid] at he
      exact h id e he
  · rw [hstep]
    exact h

lemma GrantsPositive.run (h : GrantsPositive m) (ops : List Op) :
    GrantsPositive (m.run ext ops) := by
  induction ops generalizing m with
  | nil => exact h
  | cons op ops ih => exact ih (h.step op)

/-- A row that is no reservation any more stays as it is. -/
lemma find?_step_of_terminal (ht : m.store.attempts.find? id = some t)
    (hterminal : t.classification ≠ dispatched) :
    (m.step ext op).store.attempts.find? id = some t := by
  rcases step_cases ext m op with hstep | ⟨c, -, hgranted, hstep⟩ | ⟨f, t', -, hcloses, hstep⟩
  · rw [hstep]
    exact ht
  · rw [hstep]
    refine (find?_insert _ _ _).trans ((if_neg ?_).trans ht)
    rintro rfl
    cases ht.symm.trans hgranted.new
  · rw [hstep]
    refine (find?_modify _ _ (f.close ext) (fun _ => rfl)).trans ((if_neg ?_).trans ht)
    rintro rfl
    cases ht.symm.trans hcloses.found
    exact hterminal hcloses.reserved

lemma find?_run_of_terminal (ht : m.store.attempts.find? id = some t)
    (hterminal : t.classification ≠ dispatched) :
    (m.run ext ops).store.attempts.find? id = some t := by
  induction ops generalizing m with
  | nil => exact ht
  | cons op ops ih => exact ih (find?_step_of_terminal ht hterminal)

lemma counted_finalized (hcloses : Closes m.store f t) {reply : FinalizeReply × Store}
    (hok : finalizeRweCellDispatch ext m.store f = .ok reply) (after : List Op) :
    counted (m.run ext (.finalize f :: after)).store f.taskAttemptId =
      some ((u64At f.evidence ["provider_requests"]).getD 0,
        (u64At f.evidence ["total_tokens"]).getD 0) := by
  obtain ⟨answer, s'⟩ := reply
  have hstep : m.step ext (.finalize f) = { m with store := s' } := by
    unfold step
    dsimp only
    rw [hok]
  have hs' : s' = m.store.closeAttempt ext f := by
    rcases finalize_cases hok with ⟨-, hnone⟩ | ⟨_, -, hs'⟩
    · exact absurd hcloses (hnone t)
    · exact hs'
  have hrow : (m.step ext (.finalize f)).store.attempts.find? f.taskAttemptId =
      some (f.close ext t) := by
    rw [hstep, hs']
    refine (find?_modify _ _ (f.close ext) (fun _ => rfl)).trans ?_
    rw [if_pos rfl, hcloses.found]
    rfl
  have hlast : ((m.step ext (.finalize f)).run ext after).store.attempts.find? f.taskAttemptId =
      some (f.close ext t) := find?_run_of_terminal hrow hcloses.terminal
  change Option.map _ (((m.step ext (.finalize f)).run ext after).store.attempts.find? _) = _
  rw [hlast, map_some, usage_close hcloses.terminal]

/-- An attempt that is finalized without one of the two counts goes on counting for what it was
granted only if there is no such count missing. -/
theorem missing_usage_keeps_reservation_iff (ext : Externals) (s : Store) (before after : List Op)
    (f : Finalize) (t : RweTaskAttempt) (e : RweCellBudgetEnvelope)
    (reply : FinalizeReply × Store)
    (hcloses : Closes ((start s).run ext before).store f t)
    (hgranted : ((start s).run ext before).granted f.taskAttemptId = some e)
    (hok : finalizeRweCellDispatch ext ((start s).run ext before).store f = .ok reply) :
    ((u64At f.evidence ["provider_requests"] = none ∨ u64At f.evidence ["total_tokens"] = none) →
        counted ((start s).run ext (before ++ .finalize f :: after)).store
          f.taskAttemptId = some (e.maxProviderRequests, e.maxTotalTokens)) ↔
      (u64At f.evidence ["provider_requests"]).isSome = true ∧
        (u64At f.evidence ["total_tokens"]).isSome = true := by
  have hpositive : GrantsPositive ((start s).run ext before) :=
    GrantsPositive.run (fun id e he => by cases he) before
  obtain ⟨hreq, htok⟩ := hpositive _ _ hgranted
  have hcounted := counted_finalized hcloses hok after
  have happend : (start s).run ext (before ++ .finalize f :: after) =
      ((start s).run ext before).run ext (.finalize f :: after) := by
    unfold run
    rw [foldl_append]
  rw [happend, hcounted]
  constructor
  · intro h
    constructor
    · by_contra hmissing
      have hnone := not_isSome_iff_eq_none.mp hmissing
      have hsame := some.inj (h (.inl hnone))
      rw [hnone] at hsame
      exact hreq (congrArg Prod.fst hsame).symm
    · by_contra hmissing
      have hnone := not_isSome_iff_eq_none.mp hmissing
      have hsame := some.inj (h (.inr hnone))
      rw [hnone] at hsame
      exact htok (congrArg Prod.snd hsame).symm
  · rintro ⟨hsomeReq, hsomeTok⟩ (hnone | hnone)
    · rw [hnone] at hsomeReq
      cases hsomeReq
    · rw [hnone] at hsomeTok
      cases hsomeTok

/-- The budget that a lost report gives back goes to the next claim. -/
theorem missing_usage_frees_budget :
    let run := (start sampleStore).run sampleExternals
    let first := Op.claim (sampleClaim "1" (.obj []))
    let second := Op.claim (sampleClaim "2" (.obj []))
    let lost := Op.finalize (sampleFinalize (.obj []))
    counted (run [first]).store "1" = some (10, 100) ∧
      counted (run [first, second]).store "2" = none ∧
      counted (run [first, lost]).store "1" = some (0, 0) ∧
      counted (run [first, lost, second]).store "2" = some (10, 100) :=
  ⟨rfl, rfl, rfl, rfl⟩

def sampleReport : Json := .obj [("provider_requests", .uint 3), ("total_tokens", .uint 30)]

theorem missing_usage_keeps_reservation_sample :
    let m := (start sampleStore).run sampleExternals
      ([.claim (sampleClaim "1" (.obj []))] ++ [.finalize (sampleFinalize sampleReport)])
    counted m.store "1" = some (3, 30) ∧
      ((u64At sampleReport ["provider_requests"] = none ∨
          u64At sampleReport ["total_tokens"] = none) →
        counted m.store "1" = some (10, 100)) :=
  ⟨rfl, (missing_usage_keeps_reservation_iff sampleExternals sampleStore
    [.claim (sampleClaim "1" (.obj []))] [] (sampleFinalize sampleReport)
    ((sampleClaim "1" (.obj [])).row sampleExternals) (sampleClaim "1" (.obj [])).envelope
    (⟨"1", "r", "failed", false, some "h"⟩,
      (sampleStore.insertAttempt ((sampleClaim "1" (.obj [])).row sampleExternals)).closeAttempt
        sampleExternals (sampleFinalize sampleReport))
    ⟨rfl, rfl, rfl, by decide⟩ rfl (by rfl)).mpr ⟨rfl, rfl⟩⟩

end Harness.Rwe
