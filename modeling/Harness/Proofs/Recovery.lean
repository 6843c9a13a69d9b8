import Harness.Proofs.Cancel

/-! Stale leases. One transaction goes over all of them, and a lease from the future counts as
expired. -/

namespace Harness

open Lib NodeRow WorkflowStore List Except

variable {x : Externals} {mint : Mint}
  {s s' : WorkflowStore} {q : Recovery} {runId nodeId : String} {stale : NodeRow}

namespace NodeRow

/-- Back in the queue, or failed. -/
def givenUp (r : NodeRow) : Prop := r.status = .pending ∨ r.status = .failed

/-- Left as it was, or given up. -/
inductive Freed (r : NodeRow) : NodeRow → Prop
  | same : Freed r r
  | freed {r' : NodeRow} (h : SameAttempt r r') (hr' : r'.givenUp) : Freed r r'

variable {r r' : NodeRow}

lemma Freed.sameAttempt (h : Freed r r') : SameAttempt r r' := by
  cases h with
  | same => exact .refl r
  | freed h _ => exact h

lemma Freed.trans {r'' : NodeRow} (h : Freed r r') (h' : Freed r' r'') : Freed r r'' := by
  cases h' with
  | same => exact h
  | freed h2 hup => exact .freed (h.sameAttempt.trans h2) hup

lemma Freed.givenUp (h : Freed r r') (hr : r.givenUp) : r'.givenUp := by
  cases h with
  | same => exact hr
  | freed _ hup => exact hup

lemma Failing.freed (h : Failing r r') : Freed r r' := by
  cases h with
  | same => exact .same
  | failed h _ hf => exact .freed h (.inr hf)

end NodeRow

namespace WorkflowStore

/-- The rows that a recovery goes over. -/
def staleLeases (s : WorkflowStore) (q : Recovery) : List NodeRow :=
  s.nodes.rows.filter fun r => r.status = .running && r.leasedAt.any q.expired

lemma mem_staleLeases {r : NodeRow} :
    r ∈ s.staleLeases q ↔
      s.find? r.runId r.nodeId = some r ∧ r.status = .running ∧
        r.leasedAt.any q.expired = true := by
  unfold staleLeases
  rw [mem_filter, Bool.and_eq_true, decide_eq_true_eq]
  refine and_congr_left fun _ => ?_
  exact ⟨fun h => s.nodes.find?_key h, fun h => Table.mem_of_find? h⟩

end WorkflowStore

variable {l : List NodeRow} {r row : NodeRow} {retry : Option Bool}
  {identity : RecursiveCompletionIdentity}

lemma recoveredStatus_givenUp (h : r.status = recoveredStatus retry) : r.givenUp := by
  unfold recoveredStatus at h
  split_ifs at h
  · exact .inl h
  · exact .inr h

lemma freed_recoveringStore : s.nodes.Rel Freed (recoveringStore s q row identity retry).nodes :=
  Table.Rel.of_modify rfl (fun _ => .same) fun _ _ =>
    .freed ⟨rfl, rfl, rfl, rfl⟩ (recoveredStatus_givenUp rfl)

lemma rows_freed_trans {s'' : WorkflowStore} (h : s.nodes.Rel Freed s'.nodes)
    (h' : s'.nodes.Rel Freed s''.nodes) : s.nodes.Rel Freed s''.nodes :=
  Table.Rel.trans (R := Freed) (S := Freed) (fun _ _ _ h1 h2 => h1.trans h2) h h'

/-- After the row was written, the tree can only fail rows. -/
lemma freed_recoverTree
    (hid : resolveRecursiveCompletionIdentity row.nodeId row.nodeJson
        (s.indexedRecursiveRoot row.runId row.nodeId) q.env.recursiveEnabled = .ok identity)
    (hretry : (if identity.recursiveNodeId.isSome then
          s.recoveryRetry x mint q row identity.terminalReason.isSome
        else .ok (some true)) = .ok retry)
    (h : recoverTree x mint q row identity retry (recoveringStore s q row identity retry) =
      .ok s') :
    (recoveringStore s q row identity retry).nodes.Rel Freed s'.nodes := by
  rcases recoverTree_cases hid hretry h with ⟨rfl, -⟩ | ⟨outcome, p, t, hended, -⟩
  · exact .refl (fun _ => .same) _
  · exact hended.moved.rows.mono fun _ _ h => h.freed

lemma freed_recoverNode (h : recoverNode x mint q s stale = .ok s') :
    s.nodes.Rel Freed s'.nodes := by
  rcases recoverNode_cases h with ⟨rfl, -⟩ | ⟨row, identity, retry, -, hid, hretry, -, -, h⟩
  · exact .refl (fun _ => .same) _
  · exact rows_freed_trans freed_recoveringStore
      (freed_recoverTree hid hretry h)

lemma Rel.givenUp (h : s.nodes.Rel Freed s'.nodes) (hr : s.find? runId nodeId = some r)
    (hup : r.givenUp) : ∃ r', s'.find? runId nodeId = some r' ∧ r'.givenUp := by
  obtain ⟨r', hr', hfreed⟩ := Table.Rel.find?_some' h (fun _ _ h => h.sameAttempt.key) hr
  exact ⟨r', hr', hfreed.givenUp hup⟩

/-- The row whose turn it is, if it has not been given up before, is given up now. -/
lemma recoverNode_givenUp (h : recoverNode x mint q s stale = .ok s')
    (hrow : s.find? stale.runId stale.nodeId = some row) (hfreed : Freed stale row)
    (hrun : stale.status = .running) :
    ∃ r', s'.find? stale.runId stale.nodeId = some r' ∧ r'.givenUp := by
  rcases recoverNode_cases h with ⟨rfl, hskip⟩ | ⟨row', identity, retry, hrow', hid, hretry, -, -, h⟩
  · cases hfreed with
    | same => exact absurd rfl (hskip stale hrow hrun)
    | freed _ hup => exact ⟨row, hrow, hup⟩
  · cases hrow.symm.trans hrow'
    obtain ⟨hr, hn⟩ := find?_run hrow
    rw [← hr, ← hn] at hrow ⊢
    obtain ⟨r, hr, hstatus⟩ := find?_recoveringStore hrow
    exact Rel.givenUp (freed_recoverTree hid hretry h) hr (recoveredStatus_givenUp hstatus)

lemma freed_foldlM (h : l.foldlM (recoverNode x mint q) s = .ok s') : s.nodes.Rel Freed s'.nodes :=
  foldlM_induction (P := fun u => s.nodes.Rel Freed u.nodes)
    (fun _ _ _ hu hstep => rows_freed_trans hu (freed_recoverNode hstep)) (.refl (fun _ => .same) _) h

/-- Along the scan every row that is still to come is as it was, or given up already. -/
lemma foldlM_givenUp (h : l.foldlM (recoverNode x mint q) s = .ok s')
    (hl : ∀ r ∈ l, r.status = .running ∧ ∃ row, s.find? r.runId r.nodeId = some row ∧ Freed r row) :
    ∀ r ∈ l, ∃ r', s'.find? r.runId r.nodeId = some r' ∧ r'.givenUp := by
  induction l generalizing s with
  | nil => exact fun r hr => by cases hr
  | cons a l ih =>
    obtain ⟨s₁, hstep, hrest⟩ := bind_ok h
    intro r hr
    rcases mem_cons.mp hr with rfl | hr
    · obtain ⟨hrun, row, hrow, hfreed⟩ := hl r mem_cons_self
      obtain ⟨r', hr', hup⟩ := recoverNode_givenUp hstep hrow hfreed hrun
      exact Rel.givenUp (freed_foldlM hrest) hr' hup
    · refine ih hrest (fun b hb => ?_) r hr
      obtain ⟨hrun, row, hrow, hfreed⟩ := hl b (mem_cons_of_mem a hb)
      obtain ⟨row', hrow', hfreed'⟩ := Table.Rel.find?_some' (freed_recoverNode hstep)
        (fun _ _ h => h.sameAttempt.key) hrow
      exact ⟨hrun, row', hrow', hfreed.trans hfreed'⟩

lemma recoverStaleLeases_givenUp (h : s.recoverStaleLeases x mint q = .ok s') :
    ∀ r ∈ s.staleLeases q, ∃ r', s'.find? r.runId r.nodeId = some r' ∧ r'.givenUp :=
  foldlM_givenUp h fun r hr =>
    have hmem := mem_staleLeases.mp hr
    ⟨hmem.2.1, r, hmem.1, .same⟩

lemma indexed_recoverNode_none (h : recoverNode x mint q s stale = .ok s')
    (hindex : s.indexedRecursiveRoot runId nodeId = none) :
    s'.indexedRecursiveRoot runId nodeId = none := by
  rcases recoverNode_cases h with ⟨rfl, -⟩ | ⟨row, identity, retry, -, hid, hretry, -, -, h⟩
  · exact hindex
  · rcases recoverTree_cases hid hretry h with ⟨rfl, -⟩ | ⟨outcome, p, t, hended, -⟩
    · exact hindex
    · unfold indexedRecursiveRoot
      rw [hended.moved.synced.trees, hended.moved.run]
      split_ifs with hrun
      · subst hrun
        have hnone := hended.moved.ends.find?_none (find?_of_index_none hindex hended.stored)
        rw [Option.bind_some, if_neg]
        rw [Table.contains, hnone]
        exact Bool.false_ne_true
      · exact hindex

/-- The recovery of another row does not touch it. -/
lemma find?_recoverNode_of_ne (h : recoverNode x mint q s stale = .ok s')
    (hindex : s.indexedRecursiveRoot runId nodeId = none)
    (hne : ¬(runId = stale.runId ∧ nodeId = stale.nodeId)) :
    s'.find? runId nodeId = s.find? runId nodeId := by
  rcases recoverNode_cases h with ⟨rfl, -⟩ | ⟨row, identity, retry, hrow, hid, hretry, -, -, h⟩
  · rfl
  · obtain ⟨hr, hn⟩ := find?_run hrow
    rw [← hr, ← hn] at hne
    have hfirst : (recoveringStore s q row identity retry).find? runId nodeId =
        s.find? runId nodeId := by
      unfold recoveringStore
      rw [find?_modifyNode, if_neg hne]
    rcases recoverTree_cases hid hretry h with ⟨rfl, -⟩ | ⟨outcome, p, t, hended, -⟩
    · exact hfirst
    · refine Eq.trans ?_ hfirst
      by_cases hrun : runId = row.runId
      · subst hrun
        exact hended.moved.outside nodeId (find?_of_index_none hindex hended.stored)
      · exact hended.moved.frame runId nodeId hrun

lemma toNat_toUInt64 {ms : Int64} :
    (ms.toUInt64.toNat : ℤ) = if 0 ≤ ms.toInt then ms.toInt else ms.toInt + 2 ^ 64 := by
  have h := BitVec.toInt_eq_toNat_cond ms.toBitVec
  have hn : ms.toUInt64.toNat = ms.toBitVec.toNat := rfl
  have hi : ms.toInt = ms.toBitVec.toInt := rfl
  split_ifs at h ⊢ <;> omega

variable {Time : Type} {chrono : Chrono Time} {leasedAt now : String} {leaseTime nowTime : Time}

/-- The milliseconds from the lease to now, as a signed number. -/
def elapsed (chrono : Chrono Time) (leaseTime nowTime : Time) : ℤ :=
  (chrono.numMilliseconds nowTime leaseTime).toInt

lemma staleLeaseIsExpired_iff (hlease : chrono.parseFromStr leasedAt = some leaseTime)
    (hnow : chrono.parseFromStr now = some nowTime) {timeout : UInt64} :
    staleLeaseIsExpired chrono leasedAt now timeout = true ↔
      (timeout.toNat : ℤ) <
        if 0 ≤ elapsed chrono leaseTime nowTime then elapsed chrono leaseTime nowTime
        else elapsed chrono leaseTime nowTime + 2 ^ 64 := by
  unfold staleLeaseIsExpired elapsed
  rw [hlease, hnow, ← toNat_toUInt64]
  rw [decide_eq_true_eq, UInt64.lt_iff_toNat_lt, Int.ofNat_lt]

lemma foldlM_find?_unindexed (hindex : s.indexedRecursiveRoot runId nodeId = none)
    (hne : ∀ r ∈ l, ¬(runId = r.runId ∧ nodeId = r.nodeId))
    (h : l.foldlM (recoverNode x mint q) s = .ok s') :
    s'.find? runId nodeId = s.find? runId nodeId := by
  induction l generalizing s with
  | nil =>
    cases h
    rfl
  | cons a l ih =>
    obtain ⟨s₁, hstep, h⟩ := bind_ok h
    rw [ih (indexed_recoverNode_none hstep hindex) (fun r hr => hne r (mem_cons_of_mem a hr)) h,
      find?_recoverNode_of_ne hstep hindex (hne a mem_cons_self)]

/-- A row outside the trees is only given up for its own lease. -/
lemma find?_recoverStaleLeases (hr : s.find? r.runId r.nodeId = some r)
    (hindex : s.indexedRecursiveRoot r.runId r.nodeId = none) (hstale : r ∉ s.staleLeases q)
    (h : s.recoverStaleLeases x mint q = .ok s') : s'.find? r.runId r.nodeId = some r := by
  refine (foldlM_find?_unindexed hindex (fun o ho hkey => hstale ?_) h).trans hr
  have hfound := (mem_staleLeases.mp ho).1
  rw [← hkey.1, ← hkey.2, hr] at hfound
  rw [Option.some.inj hfound]
  exact ho

/-- A running row is picked for recovery only after more than the timeout exactly if its lease
is not from the future, or so far from it that the wrapped difference is within the timeout.
A row that is picked is given up, and outside the trees no other. -/
theorem expiry_sound_iff (x : Externals)
    (mint : Mint)
      (chrono : Chrono Time)
    (env : RecursiveEnv) (timeout : UInt64) {r : NodeRow} (hr : s.find? r.runId r.nodeId = some r)
    (hrun : r.status = .running) (hleased : r.leasedAt = some leasedAt)
    (hlease : chrono.parseFromStr leasedAt = some leaseTime)
    (hnow : chrono.parseFromStr now = some nowTime) :
    ((r ∈ s.staleLeases (.ofClock chrono env now timeout) →
        (timeout.toNat : ℤ) < elapsed chrono leaseTime nowTime) ↔
      0 ≤ elapsed chrono leaseTime nowTime ∨
        elapsed chrono leaseTime nowTime + 2 ^ 64 ≤ timeout.toNat) ∧
      ∀ s', s.recoverStaleLeases x mint (.ofClock chrono env now timeout) = .ok s' →
        (r ∈ s.staleLeases (.ofClock chrono env now timeout) →
          ∃ r', s'.find? r.runId r.nodeId = some r' ∧ r'.givenUp) ∧
        (s.indexedRecursiveRoot r.runId r.nodeId = none →
          r ∉ s.staleLeases (.ofClock chrono env now timeout) →
            s'.find? r.runId r.nodeId = some r) := by
  refine ⟨?_, fun s' h => ⟨recoverStaleLeases_givenUp h r, fun hindex hstale =>
    find?_recoverStaleLeases hr hindex hstale h⟩⟩
  have hpicked : r ∈ s.staleLeases (.ofClock chrono env now timeout) ↔
      staleLeaseIsExpired chrono leasedAt now timeout = true := by
    rw [mem_staleLeases, hleased]
    exact ⟨fun h => h.2.2, fun h => ⟨hr, hrun, h⟩⟩
  rw [hpicked, staleLeaseIsExpired_iff hlease hnow]
  split_ifs <;> omega

def hours : Chrono ℕ where
  parseFromStr text := if text = "10:00" then some 10 else if text = "11:00" then some 11 else none
  numMilliseconds later earlier := Int64.ofInt (((later : ℤ) - earlier) * 3600000)

theorem expiry_sound_sample :
    busyRow "a" ∈ (busyStore ["a"]).staleLeases (.ofClock hours sampleEnv "11:00" 60000) ∧
      ((60000 : UInt64).toNat : ℤ) < elapsed hours 10 11 :=
  have hpicked : busyRow "a" ∈
      (busyStore ["a"]).staleLeases (.ofClock hours sampleEnv "11:00" 60000) := of_decide_eq_true rfl
  ⟨hpicked, (expiry_sound_iff sampleExternals (fun _ _ _ _ _ => "") hours sampleEnv 60000
    (s := busyStore ["a"]) (r := busyRow "a") (by rfl) rfl rfl (by rfl) (by rfl)).1.mpr
    (.inl (by decide)) hpicked⟩

/-- The lease was stamped an hour after now, the timeout is a minute, and the row is put back
into the queue. -/
theorem future_lease_taken_sample :
    let s := plainStore [{ busyRow "a" with leasedAt := some "11:00" }] []
    elapsed hours 11 10 = -3600000 ∧
      ((s.recoverStaleLeases sampleExternals (fun _ _ _ _ _ => "")
        (.ofClock hours sampleEnv "10:00" 60000)).toOption.bind (·.find? "run-1" "a")).map
        NodeRow.status = some .pending :=
  ⟨by rfl, by rfl⟩

end Harness
