import Harness.Spec.RweBudget

/-! What the two transactions of an RWE run write, and how the sums over its attempts move. -/

namespace Harness.Rwe

open Lib List

variable {ext : Externals} {s s' : Store} {m : Machine} {c : Claim} {f : Finalize}
  {runId : String} {run : RweRun} {envelope : RweCellBudgetEnvelope}

/-- What an attempt counts for in the sum that a claim reads. -/
def RweTaskAttempt.usage (t : RweTaskAttempt) : UInt64 × UInt64 :=
  budgetUsageFromAttemptRow t.classification t.evidence

def total (s : Store) (runId : String) (weight : RweTaskAttempt → ℕ) : ℕ :=
  ((attemptsOf s runId).map weight).sum

lemma checkedAdd_toNat {a b sum : UInt64} {message : String}
    (h : checkedAdd a b message = .ok sum) : sum.toNat = a.toNat + b.toNat := by
  unfold checkedAdd at h
  split_ifs at h with hlt
  cases h
  rw [UInt64.toNat_add, Nat.mod_eq_of_lt hlt]

variable {t : RweTaskAttempt} {weight : RweTaskAttempt → ℕ} {sum sum' : UInt64 × UInt64}

lemma addUsage_toNat (h : addUsage sum t = .ok sum') :
    sum'.1.toNat = sum.1.toNat + t.usage.1.toNat ∧
      sum'.2.toNat = sum.2.toNat + t.usage.2.toNat := by
  obtain ⟨req, hreq, h⟩ := bind_ok h
  obtain ⟨tok, htok, h⟩ := bind_ok h
  cases h
  exact ⟨checkedAdd_toNat hreq, checkedAdd_toNat htok⟩

lemma foldlM_addUsage_toNat {attempts : List RweTaskAttempt}
    (h : attempts.foldlM addUsage sum = .ok sum') :
    sum'.1.toNat = sum.1.toNat + (attempts.map fun t => t.usage.1.toNat).sum ∧
      sum'.2.toNat = sum.2.toNat + (attempts.map fun t => t.usage.2.toNat).sum := by
  induction attempts generalizing sum with
  | nil =>
    cases h
    exact ⟨rfl, rfl⟩
  | cons t attempts ih =>
    obtain ⟨sum₁, h1, h⟩ := bind_ok h
    obtain ⟨hreq, htok⟩ := addUsage_toNat h1
    obtain ⟨ihreq, ihtok⟩ := ih h
    simp only [map_cons, sum_cons]
    omega

lemma sumRweRunBudgetUsage_toNat {used : UInt64 × UInt64}
    (h : sumRweRunBudgetUsage s runId = .ok used) :
    used.1.toNat = total s runId (fun t => t.usage.1.toNat) ∧
      used.2.toNat = total s runId (fun t => t.usage.2.toNat) := by
  simpa [total] using foldlM_addUsage_toNat h

/-- What passes leaves room for the envelope under both ceilings, if the second is set. -/
lemma requireBudget_fits (h : requireBudget ext s run envelope = .ok ()) :
    ∃ ceilings, rweRunLevelBudgetCeilingsFromRun ext run = .ok ceilings ∧
      total s run.runId (fun t => t.usage.1.toNat) + envelope.maxProviderRequests.toNat ≤
        ceilings.1.toNat ∧
      (0 < ceilings.2 →
        total s run.runId (fun t => t.usage.2.toNat) + envelope.maxTotalTokens.toNat ≤
          ceilings.2.toNat) := by
  obtain ⟨used, hused, h⟩ := bind_ok h
  obtain ⟨ceilings, hceilings, h⟩ := bind_ok h
  obtain ⟨nextReq, hreq, h⟩ := bind_ok h
  obtain ⟨nextTok, htok, h⟩ := bind_ok h
  obtain ⟨hreqLe, h⟩ := seq_ok h
  obtain ⟨htokLe, -⟩ := seq_ok h
  obtain ⟨husedReq, husedTok⟩ := sumRweRunBudgetUsage_toNat hused
  refine ⟨ceilings, hceilings, ?_, fun hset => ?_⟩
  · have hle := UInt64.not_lt.mp (of_decide_eq_false (refuse_ok hreqLe))
    rw [← husedReq, ← checkedAdd_toNat hreq]
    exact UInt64.le_iff_toNat_le.mp hle
  · have hle := refuse_ok htokLe
    rw [decide_eq_true hset, Bool.true_and] at hle
    rw [← husedTok, ← checkedAdd_toNat htok]
    exact UInt64.le_iff_toNat_le.mp (UInt64.not_lt.mp (of_decide_eq_false hle))

/-- A claim that is carried out: its attempt is new and its envelope fits. -/
structure Granted (ext : Externals) (s : Store) (c : Claim) : Prop where
  positive : requirePositiveEnvelope c.envelope = .ok ()
  new : s.attempts.find? c.taskAttemptId = none
  fits : ∃ run, s.runs.find? c.runId = some run ∧ requireBudget ext s run c.envelope = .ok ()

lemma claim_cases {reply : ClaimReply} (h : claimRweCellDispatch ext s c = .ok (reply, s')) :
    (reply.idempotentReplay = true ∧ s' = s) ∨
      Granted ext s c ∧ reply = ⟨c.taskAttemptId, c.runId, c.authorizationId, false, c.envelope⟩ ∧
        s' = s.insertAttempt (c.row ext) := by
  obtain ⟨hpositive, h⟩ := seq_ok h
  iterate 2 obtain ⟨-, h⟩ := seq_ok h
  obtain ⟨run, hrun, h⟩ := bind_ok h
  obtain ⟨auth, -, h⟩ := bind_ok h
  obtain ⟨-, h⟩ := seq_ok h
  split at h
  · obtain ⟨-, h⟩ := seq_ok h
    obtain ⟨-, h⟩ := seq_ok h
    cases h
    exact .inl ⟨rfl, rfl⟩
  · next hnew =>
    obtain ⟨hbudget, h⟩ := seq_ok h
    cases h
    exact .inr ⟨⟨hpositive, hnew, run, required_eq_ok.mp hrun, hbudget⟩, rfl, rfl⟩

variable (s f t) in
/-- A finalization that is carried out replaces a reservation. -/
structure Closes : Prop where
  found : s.attempts.find? f.taskAttemptId = some t
  owned : t.runId = f.runId
  reserved : t.classification = dispatched
  terminal : f.classification ≠ dispatched

lemma finalize_cases {reply : FinalizeReply}
    (h : finalizeRweCellDispatch ext s f = .ok (reply, s')) :
    (s' = s ∧ ∀ t, ¬Closes s f t) ∨ ∃ t, Closes s f t ∧ s' = s.closeAttempt ext f :=
    by
  obtain ⟨hterminal, h⟩ := seq_ok h
  obtain ⟨-, h⟩ := seq_ok h
  obtain ⟨run, -, h⟩ := bind_ok h
  obtain ⟨-, h⟩ := seq_ok h
  obtain ⟨t, ht, h⟩ := bind_ok h
  obtain ⟨howned, h⟩ := seq_ok h
  have hfound := required_eq_ok.mp ht
  split at h
  · next hclosed =>
    obtain ⟨-, h⟩ := seq_ok h
    cases h
    refine .inl ⟨rfl, fun t' ht' => hclosed ?_⟩
    cases hfound.symm.trans ht'.found
    exact ht'.reserved
  · next hopen =>
    cases h
    exact .inr ⟨t, ⟨hfound, not_not.mp (of_decide_eq_false (refuse_ok howned)),
      not_not.mp hopen, of_decide_eq_false (refuse_ok hterminal)⟩, rfl⟩

/-- Everything a step can do. -/
lemma step_cases (ext : Externals) (m : Machine) (op : Op) :
    m.step ext op = m ∨
      (∃ c, op = .claim c ∧ Granted ext m.store c ∧
        m.step ext op =
          ⟨m.store.insertAttempt (c.row ext),
            Function.update m.granted c.taskAttemptId (some c.envelope)⟩) ∨
      ∃ f t, op = .finalize f ∧ Closes m.store f t ∧
        m.step ext op = ⟨m.store.closeAttempt ext f, m.granted⟩ := by
  cases op with
  | claim c =>
    unfold Machine.step
    dsimp only
    split
    · exact .inl rfl
    · next reply store h =>
      rcases claim_cases h with ⟨hreplay, rfl⟩ | ⟨hgranted, rfl, rfl⟩
      · rw [if_pos hreplay]
        exact .inl rfl
      · exact .inr (.inl ⟨c, rfl, hgranted, rfl⟩)
  | finalize f =>
    unfold Machine.step
    dsimp only
    split
    · exact .inl rfl
    · next reply store h =>
      rcases finalize_cases h with ⟨rfl, -⟩ | ⟨t, hcloses, rfl⟩
      · exact .inl rfl
      · exact .inr (.inr ⟨f, t, rfl, hcloses, rfl⟩)

lemma step_runs {op : Op} : (m.step ext op).store.runs = m.store.runs := by
  rcases step_cases ext m op with h | ⟨c, -, -, h⟩ | ⟨f, t, -, -, h⟩
  · rw [h]
  · rw [h, Store.insertAttempt]
  · rw [h, Store.closeAttempt]

lemma total_eq :
    total s runId weight =
      (s.attempts.rows.map fun t => if t.runId = runId then weight t else 0).sum := by
  unfold total attemptsOf
  induction s.attempts.rows with
  | nil => rfl
  | cons t rows ih =>
    by_cases h : t.runId = runId
    · rw [filter_cons_of_pos (by simpa using h), map_cons, map_cons, sum_cons,
        sum_cons, ih, if_pos h]
    · rw [filter_cons_of_neg (by simpa using h), map_cons, sum_cons, ih, if_neg h,
        Nat.zero_add]

/-- A new row keeps the sum under a bound that leaves room for it. -/
lemma total_insert_le {bound : ℕ} (hnew : s.attempts.find? t.taskAttemptId = none)
    (h : total s runId weight ≤ bound)
    (hfits : t.runId = runId → total s runId weight + weight t ≤ bound) :
    total (s.insertAttempt t) runId weight ≤ bound := by
  have hsum := s.attempts.sum_insert_of_new (fun t => if t.runId = runId then weight t else 0) hnew
  rw [total_eq] at h hfits ⊢
  change (Table.rows (s.attempts.insert t) |>.map _).sum ≤ bound
  rw [hsum]
  split_ifs with howned
  · have := hfits howned
    omega
  · omega

/-- Closing an attempt for no more than it counted for does not raise the sum. -/
lemma Closes.total_le (hcloses : Closes s f t) (ext : Externals)
    (h : t.runId = runId → weight (f.close ext t) ≤ weight t) :
    total (s.closeAttempt ext f) runId weight ≤ total s runId weight := by
  have hsum := s.attempts.sum_modify (f.close ext) (fun _ => rfl)
    (fun t => if t.runId = runId then weight t else 0) hcloses.found
  rw [total_eq, total_eq]
  change (Table.rows (s.attempts.modify f.taskAttemptId (f.close ext)) |>.map _).sum ≤ _
  change _ + (if t.runId = runId then weight t else 0) =
    _ + if t.runId = runId then weight (f.close ext t) else 0 at hsum
  split_ifs at hsum with howned
  · have := h howned
    omega
  · omega

lemma usage_close (h : f.classification ≠ dispatched) :
    (f.close ext t).usage = ((u64At f.evidence ["provider_requests"]).getD 0,
      (u64At f.evidence ["total_tokens"]).getD 0) := by
  exact if_neg h

/-- An object takes the reservation in, and the row counts for all of it. -/
lemma usage_row (h : c.reservationEvidence.isObject = true) :
    (c.row ext).usage = (c.envelope.maxProviderRequests, c.envelope.maxTotalTokens) := by
  obtain ⟨members, hmembers⟩ : ∃ members, c.reservationEvidence = .obj members := by
    cases hevidence : c.reservationEvidence with
    | obj members => exact ⟨members, rfl⟩
    | _ => rw [hevidence] at h; cases h
  have hlookup : (c.row ext).evidence.get? "dispatch_reservation" =
      some (dispatchReservation c.authorizationId c.envelope) := by
    change (withReservation c.authorizationId c.envelope c.reservationEvidence).get? _ = _
    rw [hmembers]
    change lookup _ _ = _
    rw [Json.lookup_insertMember_of_ne (by decide), Json.lookup_insertMember_of_ne (by decide),
      Json.lookup_insertMember_of_ne (by decide), Json.lookup_insertMember_of_ne (by decide),
      Json.lookup_insertMember_self]
  have hat : ∀ name, u64At (c.row ext).evidence ["dispatch_reservation", name] =
      ((dispatchReservation c.authorizationId c.envelope).get? name).bind Json.asU64 := by
    intro name
    rw [u64At, Json.pointer_cons, hlookup, Option.bind_some, Json.pointer_cons]
    cases (dispatchReservation c.authorizationId c.envelope).get? name with
    | none => rfl
    | some v => rfl
  have hreq : u64At (c.row ext).evidence ["dispatch_reservation", "reserved_provider_requests"] =
      some c.envelope.maxProviderRequests := (hat _).trans rfl
  have htok : u64At (c.row ext).evidence ["dispatch_reservation", "reserved_total_tokens"] =
      some c.envelope.maxTotalTokens := (hat _).trans rfl
  unfold RweTaskAttempt.usage budgetUsageFromAttemptRow
  rw [if_pos (show (c.row ext).classification = dispatched from rfl), hreq, htok]
  rfl

end Harness.Rwe
