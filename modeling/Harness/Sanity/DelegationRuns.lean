import Harness.Sanity.DelegationRows

/-! What every operation keeps of a row, and from it what a run of the store keeps: the journal
stays under the limits of its manifest, settled entries stay settled, and a closed attempt keeps
its outcome. -/

namespace Harness.Delegated

open Lib Table List

variable {F : Type} {r r' : DelegationRow F} {bounded : Prop}

structure RowInv (r : DelegationRow F) : Prop where
  unspent : r.executionsUsed = 0 → r.manifest = none
  empty : r.manifest = none → r.journal = []
  within : ∀ m, r.manifest = some m → JournalWithin m.limits r.journal

structure RowFollows (r r' : DelegationRow F) : Prop where
  manifest : ∀ m, r.manifest = some m → r'.manifest = some m
  journal : JournalFollows r.journal r'.journal

lemma RowFollows.refl (r : DelegationRow F) : RowFollows r r :=
  ⟨fun _ h => h, .refl _⟩

lemma RowFollows.trans {a b c : DelegationRow F} (h1 : RowFollows a b) (h2 : RowFollows b c) :
    RowFollows a c :=
  ⟨fun m hm => h2.manifest m (h1.manifest m hm), h1.journal.trans h2.journal⟩

/-- A closed attempt: nothing reopens it. -/
structure Closed (r : DelegationRow F) : Prop where
  receipt : r.terminalReceipt.isSome
  status : r.status = .expired ∨ r.status = .revoked ∧ r.attemptStatus = some .closed

structure SameOutcome (r r' : DelegationRow F) : Prop where
  status : r'.status = r.status
  totalCostUsd : r'.totalCostUsd = r.totalCostUsd
  attemptId : r'.attemptId = r.attemptId
  attemptLeaseToken : r'.attemptLeaseToken = r.attemptLeaseToken
  attemptStatus : r'.attemptStatus = r.attemptStatus
  terminalReceipt : r'.terminalReceipt = r.terminalReceipt

lemma SameOutcome.refl (r : DelegationRow F) : SameOutcome r r := ⟨rfl, rfl, rfl, rfl, rfl, rfl⟩

lemma SameOutcome.trans {a b c : DelegationRow F} (h1 : SameOutcome a b) (h2 : SameOutcome b c) :
    SameOutcome a c :=
  ⟨h2.status.trans h1.status, h2.totalCostUsd.trans h1.totalCostUsd,
    h2.attemptId.trans h1.attemptId, h2.attemptLeaseToken.trans h1.attemptLeaseToken,
    h2.attemptStatus.trans h1.attemptStatus, h2.terminalReceipt.trans h1.terminalReceipt⟩

lemma SameOutcome.closed (h : SameOutcome r r') (hr : Closed r) : Closed r' where
  receipt := by rw [h.terminalReceipt]; exact hr.receipt
  status := by rw [h.status, h.attemptStatus]; exact hr.status

variable {journal journal' : Journal F}

lemma JournalChange.follows {manifest : Option (Manifest F)}
    (h : JournalChange bounded manifest journal journal') : JournalFollows journal journal' := by
  cases h with
  | claimed => exact .append _ _
  | reconciled he h => exact .set he h.claim fun hs => absurd h.sending hs
  | noted he _ h => exact .set he h.sameClaim fun _ => h

lemma JournalChange.within {m : Manifest F} (hb : bounded)
    (h : JournalChange bounded (some m) journal journal') (hj : JournalWithin m.limits journal) :
    JournalWithin m.limits journal' := by
  cases h with
  | claimed hm h =>
    cases hm
    exact hj.claim h
  | reconciled he h =>
    have ha := hj.accounted _ (mem_of_getElem? he)
    exact hj.set he h.claim (h.accounted ha) (h.within hb ha)
  | noted he _ h =>
    have ha := hj.accounted _ (mem_of_getElem? he)
    exact hj.set he h.sameClaim (h.accounted ha) (by rw [h.effectiveTokens])

lemma Change.delegationId (h : Change bounded r r') : r'.delegationId = r.delegationId := by
  cases h with
  | prepared h => exact h.delegationId
  | _ => rfl

lemma Change.follows (h : Change bounded r r') (hi : RowInv r) : RowFollows r r' := by
  cases h with
  | prepared h => exact ⟨fun m hm => h.manifest.trans hm, h.journal ▸ .refl _⟩
  | spent _ hunspent =>
    refine ⟨fun m hm => ?_, .refl _⟩
    rw [hi.unspent hunspent] at hm
    cases hm
  | written h => exact ⟨fun _ hm => hm, h.follows⟩
  | activated | completed | revoked | closed => exact ⟨fun _ hm => hm, .refl _⟩

lemma Change.inv (hb : bounded) (h : Change bounded r r') (hi : RowInv r) : RowInv r' := by
  cases h with
  | prepared h =>
    refine ⟨?_, ?_, ?_⟩
    · rw [h.executionsUsed, h.manifest]; exact hi.unspent
    · rw [h.manifest, h.journal]; exact hi.empty
    · rw [h.manifest, h.journal]; exact hi.within
  | spent _ hunspent =>
    -- nothing was sent before the spend: the journal starts empty under its limits
    refine ⟨fun h => absurd h (by simp), fun h => (by cases h), fun m _ => ?_⟩
    rw [show r.journal = [] from hi.empty (hi.unspent hunspent)]
    exact .nil _
  | written h =>
    refine ⟨hi.unspent, fun hm => ?_, fun m hm => ?_⟩
    · have hempty := hi.empty hm
      cases h with
      | claimed hm' => exact absurd (hm.symm.trans hm') (by simp)
      | reconciled he => simp [hempty] at he
      | noted he => simp [hempty] at he
    · have hm' : r.manifest = some m := hm
      rw [hm'] at h
      exact h.within hb (hi.within m hm')
  | activated | completed | revoked | closed => exact ⟨hi.unspent, hi.empty, hi.within⟩

lemma Change.sameOutcome (h : Change bounded r r') (hc : Closed r) : SameOutcome r r' := by
  have hactive : r.status ≠ .active := by
    rcases hc.status with h | ⟨h, -⟩ <;> simp [h]
  cases h with
  | prepared h =>
    exact ⟨h.status, h.totalCostUsd, h.attemptId, h.attemptLeaseToken, h.attemptStatus,
      h.terminalReceipt⟩
  | spent h | written h => exact ⟨rfl, rfl, rfl, rfl, rfl, rfl⟩
  | activated h => exact absurd h hactive
  | revoked h => exact absurd h hactive
  | completed hopen =>
    have := hc.receipt
    rw [hopen] at this
    cases this
  | closed hrevoked hopen =>
    rcases hc.status with h | ⟨-, h⟩
    · rw [h] at hrevoked; cases hrevoked
    · rw [h] at hopen; cases hopen

section Store

variable [DecidableEq F] {float : Float64 F} {isWhitespace : Char → Bool} {frozen : Frozen F}
variable {hash : Hashes F} {s : Delegations F}

variable {p : AuthenticatedPrincipal} {d : DelegationContract F} {ops : List (Op F)} {op : Op F}
  {productTaskId : Option String} {id : String}

omit [DecidableEq F] in
lemma target_mem (h : op.target s = some r) : r ∈ s.rows := by
  cases op with
  | persist => cases h
  | claim | reconcile | workspaceAction | workspaceFailure => exact mem_of_find?_eq_some h
  | _ => exact mem_of_find? h

lemma persist_eq_ok {taskTenant : Option String} {now : ℤ} {s' : Delegations F}
    (h : persistDelegationWithProductTask float isWhitespace frozen hash s p d productTaskId
        taskTenant now = .ok s') :
    s' = s ∨
      s.find? d.delegationId = none ∧
        s' = s.insert (registeredRow float hash p d productTaskId) := by
  iterate 5 obtain ⟨-, h⟩ := seq_ok h
  split at h
  · obtain ⟨-, h⟩ := seq_ok h
    exact .inl (Except.ok.inj h).symm
  · next hnone =>
    iterate 2 obtain ⟨-, h⟩ := seq_ok h
    exact .inr ⟨hnone, (Except.ok.inj h).symm⟩

variable (float isWhitespace frozen hash)

/-- What one operation does to the store. -/
lemma step_cases (s : Delegations F) (op : Op F) :
    step float isWhitespace frozen hash s op = s ∨
      (∃ p d productTaskId, s.find? d.delegationId = none ∧
        step float isWhitespace frozen hash s op =
          s.insert (registeredRow float hash p d productTaskId)) ∨
      ∃ r r', op.target s = some r ∧ Change (op.UsageWithin hash.request r) r r' ∧
        step float isWhitespace frozen hash s op = s.insert r' :=
    by
  cases op with
  | persist p d productTaskId taskTenant now =>
    simp only [step]
    split
    · exact .inl rfl
    · next s' h =>
      rcases persist_eq_ok h with rfl | ⟨hnone, rfl⟩
      · exact .inl rfl
      · exact .inr (.inl ⟨p, d, productTaskId, hnone, rfl⟩)
  | _ =>
    simp only [step]
    split
    · exact .inl rfl
    · next r hr =>
      split
      · exact .inl rfl
      · next r' h => exact .inr (.inr ⟨r, r', hr, rowStep_change h, rfl⟩)

/-- The row of a delegation after one operation is the one before it, or a change of it. -/
lemma find?_step (hr : s.find? id = some r) :
    ∃ r', (step float isWhitespace frozen hash s op).find? id = some r' ∧
      (r' = r ∨ op.target s = some r ∧ Change (op.UsageWithin hash.request r) r r') := by
  have hid := key_of_find? hr
  rcases step_cases float isWhitespace frozen hash s op with
    h | ⟨p, d, productTaskId, hnone, h⟩ | ⟨r₁, r₂, htarget, hchange, h⟩
  · exact ⟨r, by rw [h, hr], .inl rfl⟩
  · refine ⟨r, ?_, .inl rfl⟩
    rw [h, find?_insert, if_neg, hr]
    rintro rfl
    exact absurd (hr.symm.trans hnone) (by simp)
  · rw [h, find?_insert, hchange.delegationId]
    split_ifs with hkey
    · have hsame : r₁ = r :=
        s.eq_of_key_eq (target_mem htarget) (mem_of_find? hr) (hkey.symm.trans hid.symm)
      exact ⟨r₂, rfl, .inr (hsame ▸ ⟨htarget, hchange⟩)⟩
    · exact ⟨r, hr, .inl rfl⟩

/-- The rows after one operation are new, or come from a row before it. -/
lemma mem_step (hr : r' ∈ (step float isWhitespace frozen hash s op).rows) :
    (∃ p d productTaskId, r' = registeredRow float hash p d productTaskId) ∨ ∃ r ∈ s.rows, r' = r ∨
    op.target s = some r ∧ Change (op.UsageWithin hash.request r) r r' := by
  rcases step_cases float isWhitespace frozen hash s op with
    h | ⟨p, d, productTaskId, -, h⟩ | ⟨r₁, r₂, htarget, hchange, h⟩
  · exact .inr ⟨r', h ▸ hr, .inl rfl⟩
  · rw [h, mem_insert] at hr
    rcases hr with rfl | ⟨hr, -⟩
    · exact .inl ⟨p, d, productTaskId, rfl⟩
    · exact .inr ⟨r', hr, .inl rfl⟩
  · rw [h, mem_insert] at hr
    rcases hr with rfl | ⟨hr, -⟩
    · exact .inr ⟨r₁, target_mem htarget, .inr ⟨htarget, hchange⟩⟩
    · exact .inr ⟨r', hr, .inl rfl⟩

/-- Every reconciliation of the run reports a usage within the reservation of its entry. -/
def RunWithin (s : Delegations F) : List (Op F) → Prop
  | [] => True
  | op :: ops => (∀ r ∈ op.target s, op.UsageWithin hash.request r) ∧
      RunWithin (step float isWhitespace frozen hash s op) ops

lemma runWithin_append {ops' : List (Op F)} :
    RunWithin float isWhitespace frozen hash s (ops ++ ops') ↔
      RunWithin float isWhitespace frozen hash s ops ∧
        RunWithin float isWhitespace frozen hash (run float isWhitespace frozen hash s ops)
          ops' := by
  induction ops generalizing s with
  | nil => simp [RunWithin, run]
  | cons op ops ih =>
    rw [cons_append, RunWithin, RunWithin, ih, and_assoc]
    rfl

omit [DecidableEq F] in
lemma rowInv_registered : RowInv (registeredRow float hash p d productTaskId) :=
  ⟨fun _ => rfl, fun _ => rfl, fun _ h => (by cases h)⟩

lemma rowInv_step (hop : ∀ r ∈ op.target s, op.UsageWithin hash.request r)
    (hs : ∀ r ∈ s.rows, RowInv r) :
    ∀ r ∈ (step float isWhitespace frozen hash s op).rows, RowInv r := by
  intro r' hr'
  rcases mem_step float isWhitespace frozen hash hr' with
    ⟨p, d, productTaskId, rfl⟩ | ⟨r, hr, rfl | ⟨htarget, hchange⟩⟩
  · exact rowInv_registered float hash
  · exact hs _ hr
  · exact hchange.inv (hop r htarget) (hs r hr)

lemma rowInv_run (hops : RunWithin float isWhitespace frozen hash s ops)
    (hs : ∀ r ∈ s.rows, RowInv r) :
    ∀ r ∈ (run float isWhitespace frozen hash s ops).rows, RowInv r := by
  induction ops generalizing s with
  | nil => exact hs
  | cons op ops ih =>
    exact ih hops.2 (rowInv_step float isWhitespace frozen hash hops.1 hs)

lemma rowFollows_run (hops : RunWithin float isWhitespace frozen hash s ops)
    (hs : ∀ r ∈ s.rows, RowInv r) (hr : s.find? id = some r) :
    ∃ r', (run float isWhitespace frozen hash s ops).find? id = some r' ∧ RowFollows r r' := by
  induction ops generalizing s r with
  | nil => exact ⟨r, hr, .refl r⟩
  | cons op ops ih =>
    obtain ⟨r₁, hr₁, h⟩ := find?_step float isWhitespace frozen hash hr
    obtain ⟨r₂, hr₂, h₂⟩ :=
      ih hops.2 (rowInv_step float isWhitespace frozen hash hops.1 hs) hr₁
    refine ⟨r₂, hr₂, RowFollows.trans ?_ h₂⟩
    rcases h with rfl | ⟨-, hchange⟩
    · exact .refl _
    · exact hchange.follows (hs r (mem_of_find? hr))

lemma sameOutcome_run (hr : s.find? id = some r) (hc : Closed r) :
    ∃ r', (run float isWhitespace frozen hash s ops).find? id = some r' ∧ SameOutcome r r' := by
  induction ops generalizing s r with
  | nil => exact ⟨r, hr, .refl r⟩
  | cons op ops ih =>
    obtain ⟨r₁, hr₁, h⟩ := find?_step float isWhitespace frozen hash hr
    have hsame : SameOutcome r r₁ := by
      rcases h with rfl | ⟨-, hchange⟩
      · exact .refl _
      · exact hchange.sameOutcome hc
    obtain ⟨r₂, hr₂, h₂⟩ := ih hr₁ (hsame.closed hc)
    exact ⟨r₂, hr₂, hsame.trans h₂⟩

end Store

end Harness.Delegated
