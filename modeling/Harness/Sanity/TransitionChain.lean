import Harness.Sanity.AcceptanceSteps

/-! The receipts of a decision: which chains their validator accepts, and how the writer, which
shares no code with it, goes on with one. -/

namespace Harness.Acceptance

open Lib Table

/-- A receipt's body names its decision, its actor and its reason. -/
structure TransitionBody.Names {C : Type} (b : TransitionBody) (d : DecisionRow C) : Prop where
  schema : b.schemaVersion = transitionSchemaVersion
  decisionId : b.decisionId = d.decisionId
  tenantId : b.tenantId = d.tenantId
  decisionSha256 : b.decisionBodySha256 = d.decisionBodySha256
  residual : b.residualFindingSha256 = d.residualFindingSha256
  actor : b.actorPrincipalId ≠ ""
  reason : b.reason ≠ ""

/-- The columns of a decision that no receipt is written without. -/
structure DecisionRow.Named {C : Type} (d : DecisionRow C) : Prop where
  decisionId : d.decisionId ≠ ""
  tenantId : d.tenantId ≠ ""
  decisionSha256 : d.decisionBodySha256 ≠ ""
  residual : d.residualFindingSha256 ≠ ""

/-- The receipt of the acceptance. -/
structure Genesis {C : Type} (d : DecisionRow C) (b : TransitionBody) : Prop where
  names : b.Names d
  sequence : b.sequence = 1
  previousSequence : b.previousTransitionSequence = none
  previousSha256 : b.previousTransitionSha256 = none
  fromStatus : b.fromStatus = .draftPendingOperator
  toStatus : b.toStatus = .operatorAccepted

variable {r : TransitionReceipt} {receipts receipts' : List TransitionReceipt}
variable {C : Type} {sha256 : TransitionBody → String} {d d' : DecisionRow C}
  {b b' : TransitionBody}

variable (sha256 d b b') in
/-- The receipt of the revocation that follows. -/
structure Closing : Prop where
  names : b'.Names d
  sequence : b'.sequence = 2
  previousSequence : b'.previousTransitionSequence = some 1
  previousSha256 : b'.previousTransitionSha256 = some (sha256 b)
  fromStatus : b'.fromStatus = .operatorAccepted
  toStatus : b'.toStatus = .revoked

lemma TransitionBody.Names.of_terms (h : b.Names d) (hd : d'.terms = d.terms) : b.Names d' := by
  have hterms : b.Names d.terms := ⟨h.schema, h.decisionId, h.tenantId, h.decisionSha256,
    h.residual, h.actor, h.reason⟩
  rw [← hd] at hterms
  exact ⟨hterms.schema, hterms.decisionId, hterms.tenantId, hterms.decisionSha256,
    hterms.residual, hterms.actor, hterms.reason⟩

lemma DecisionRow.Named.of_terms (h : d.Named) (hd : d'.terms = d.terms) : d'.Named := by
  have hterms : d.terms.Named := ⟨h.decisionId, h.tenantId, h.decisionSha256, h.residual⟩
  rw [← hd] at hterms
  exact ⟨hterms.decisionId, hterms.tenantId, hterms.decisionSha256, hterms.residual⟩

lemma Genesis.of_terms (h : Genesis d b) (hd : d'.terms = d.terms) : Genesis d' b :=
  ⟨h.names.of_terms hd, h.sequence, h.previousSequence, h.previousSha256, h.fromStatus, h.toStatus⟩

variable (sha256 b) in
def TransitionBody.record : TransitionRecord where
  transitionSha256 := sha256 b
  sequence := b.sequence
  fromStatus := b.fromStatus
  toStatus := b.toStatus
  previousTransitionSequence := b.previousTransitionSequence
  previousTransitionSha256 := b.previousTransitionSha256

lemma ne_empty_of_hex {s : String} (h : isHexOfLength 64 s = true) : s ≠ "" := by
  rintro rfl
  cases h

/-- What the validator asks of one receipt that the writer made. -/
lemma transitionRecord_receipt (hhex : ∀ b, isHexOfLength 64 (sha256 b) = true)
    (hb : b.Names d) (hsequence : 1 ≤ b.sequence)
    (hsha : b.previousTransitionSha256 ≠ some "")
    (hprevious : ∀ n, b.previousTransitionSequence = some n → 1 ≤ n)
    (hgenesis : b.sequence = 1 →
      b.previousTransitionSequence = none ∧ b.previousTransitionSha256 = none)
    (hlater : 1 < b.sequence →
      b.previousTransitionSequence ≠ none ∧ b.previousTransitionSha256 ≠ none)
    (hedge : isTransitionEdge b.fromStatus b.toStatus = true) :
    transitionRecord sha256 d (decisionStatusTransitionReceipt sha256 b) =
      .ok (b.record sha256) := by
  have hne := ne_empty_of_hex (hhex b)
  refine pass (by simp [decisionStatusTransitionReceipt, hb.schema]) ?_
  refine seq_eq_ok.mpr ⟨forM_eq_ok.mpr ?_, ?_⟩
  · simp [requireReceiptOwner, refuse_eq_ok, decisionStatusTransitionReceipt, hb.decisionId,
      hb.tenantId, hb.decisionSha256, hb.residual]
  refine bind_eq_ok.mpr ⟨sha256 b, requiredStr_eq_ok.mpr ⟨hne, rfl⟩, ?_⟩
  refine pass (by simp [decisionStatusTransitionReceipt]) ?_
  refine pass (decide_eq_false (not_lt.mpr hsequence)) ?_
  refine pass (by simp [hhex]) ?_
  refine bind_eq_ok.mpr ⟨transitionReceiptId (sha256 b), requiredStr_eq_ok.mpr ⟨?_, rfl⟩, ?_⟩
  · simp [decisionStatusTransitionReceipt, transitionReceiptId]
  refine pass (by simp) ?_
  refine pass (by simp [decisionStatusTransitionReceipt, hb.actor]) ?_
  refine pass (by simp [decisionStatusTransitionReceipt, hb.reason]) ?_
  refine pass (by simp [decisionStatusTransitionReceipt]) ?_
  refine pass (decide_eq_false hsha) ?_
  refine seq_eq_ok.mpr ⟨?_, ?_⟩
  · rw [refuse_eq_ok, Option.any_eq_false]
    intro n hn
    simpa using hprevious n hn
  refine seq_eq_ok.mpr ⟨?_, ?_⟩
  · rw [refuse_eq_ok, Bool.and_eq_false_imp]
    intro h
    simp [decisionStatusTransitionReceipt, hgenesis (of_decide_eq_true h)]
  refine seq_eq_ok.mpr ⟨?_, ?_⟩
  · rw [refuse_eq_ok, Bool.and_eq_false_imp]
    intro h
    obtain ⟨h1, h2⟩ := hlater (of_decide_eq_true h)
    simp [decisionStatusTransitionReceipt, Option.isSome_iff_ne_none, h1, h2]
  refine seq_eq_ok.mpr ⟨?_, rfl⟩
  simpa [refuse_eq_ok, decisionStatusTransitionReceipt] using hedge

def acceptedRecord (hash : String) : TransitionRecord :=
  ⟨hash, 1, .draftPendingOperator, .operatorAccepted, none, none⟩

def revokedRecord (previous hash : String) : TransitionRecord :=
  ⟨hash, 2, .operatorAccepted, .revoked, some 1, some previous⟩

lemma Genesis.record (hhex : ∀ b, isHexOfLength 64 (sha256 b) = true) (hb : Genesis d b) :
    transitionRecord sha256 d (decisionStatusTransitionReceipt sha256 b) =
      .ok (acceptedRecord (sha256 b)) := by
  rw [transitionRecord_receipt hhex hb.names]
  · simp only [TransitionBody.record, acceptedRecord, hb.sequence, hb.previousSequence,
      hb.previousSha256, hb.fromStatus, hb.toStatus]
  · exact hb.sequence.ge
  · simp [hb.previousSha256]
  · simp [hb.previousSequence]
  · exact fun _ => ⟨hb.previousSequence, hb.previousSha256⟩
  · simp [hb.sequence]
  · rw [hb.fromStatus, hb.toStatus]
    rfl

lemma Closing.record (hhex : ∀ b, isHexOfLength 64 (sha256 b) = true) (hb : Closing sha256 d b b') :
    transitionRecord sha256 d (decisionStatusTransitionReceipt sha256 b') =
      .ok (revokedRecord (sha256 b) (sha256 b')) := by
  rw [transitionRecord_receipt hhex hb.names]
  · simp only [TransitionBody.record, revokedRecord, hb.sequence, hb.previousSequence,
      hb.previousSha256, hb.fromStatus, hb.toStatus]
  · simp [hb.sequence]
  · simpa [hb.previousSha256] using ne_empty_of_hex (hhex b)
  · simp [hb.previousSequence]
  · simp [hb.sequence]
  · simp [hb.previousSequence, hb.previousSha256]
  · rw [hb.fromStatus, hb.toStatus]
    rfl

lemma addTransitionRecord_eq_ok {records : TransitionRecords} {record : TransitionRecord}
    (h : transitionRecord sha256 d r = .ok record)
    (hnew : records.find? record.transitionSha256 = none) :
    addTransitionRecord sha256 d records r = .ok (records.insert record) := by
  refine bind_eq_ok.mpr ⟨record, h, seq_eq_ok.mpr ⟨refuse_eq_ok.mpr ?_, rfl⟩⟩
  rw [contains, hnew]
  rfl

/-- The validator, stage by stage. -/
lemma chain_accepted (records : TransitionRecords) {genesis : String}
    {children : TransitionChildren} (visited : List String) (hd : d.Named)
    (hreceipts : receipts ≠ [])
    (hrecords : receipts.foldlM (addTransitionRecord sha256 d) empty = .ok records)
    (hgenesis : requireOneGenesis records = .ok genesis)
    (hchildren : records.rows.foldlM (addTransitionChild records) [] = .ok children)
    (hwalk : walkTransitions records children (records.size + 1) [] genesis .draftPendingOperator
        1 = .ok (d.status, visited))
    (hvisited : visited.length = records.size) :
    validateManagedAcceptanceDecisionTransitionChain sha256 d receipts = .ok () := by
  refine pass (decide_eq_false hd.decisionId) ?_
  refine pass (decide_eq_false hd.tenantId) ?_
  refine pass (decide_eq_false hd.decisionSha256) ?_
  refine pass (decide_eq_false hd.residual) ?_
  refine pass (decide_eq_false hreceipts) ?_
  refine bind_eq_ok.mpr ⟨records, hrecords, bind_eq_ok.mpr ⟨genesis, hgenesis, ?_⟩⟩
  refine bind_eq_ok.mpr ⟨children, hchildren, bind_eq_ok.mpr ⟨_, hwalk, ?_⟩⟩
  refine seq_eq_ok.mpr ⟨?_, ?_⟩
  · simpa [refuse_eq_ok] using hvisited
  · simp [refuse_eq_ok]

lemma Genesis.accepted (hhex : ∀ b, isHexOfLength 64 (sha256 b) = true) (hd : d.Named)
    (hstatus : d.status = .operatorAccepted) (hb : Genesis d b) :
    validateManagedAcceptanceDecisionTransitionChain sha256 d
      [decisionStatusTransitionReceipt sha256 b] = .ok () := by
  refine chain_accepted _ [sha256 b] hd (by simp)
    (bind_eq_ok.mpr ⟨_, addTransitionRecord_eq_ok (hb.record hhex) rfl, rfl⟩) rfl rfl ?_ rfl
  rw [hstatus]
  refine bind_eq_ok.mpr ⟨acceptedRecord (sha256 b), required_eq_ok.mpr ?_, rfl⟩
  exact find?_insert_self

/-- The records of a decision that was accepted and revoked, by their hashes. -/
def bothRecords (g h : String) : TransitionRecords :=
  (empty.insert (acceptedRecord g)).insert (revokedRecord g h)

section Both

variable {g h : String} (hne : g ≠ h)
include hne

lemma bothRecords_first : (bothRecords g h).find? g = some (acceptedRecord g) := by
  have hkeys : (acceptedRecord g).transitionSha256 ≠ (revokedRecord g h).transitionSha256 := hne
  exact (find?_insert _ _ _).trans ((if_neg hkeys).trans find?_insert_self)

lemma bothRecords_rows :
    (bothRecords g h).rows =
      if g < h then [acceptedRecord g, revokedRecord g h]
      else [revokedRecord g h, acceptedRecord g] :=
  rows_of_two hne

lemma bothRecords_genesis : requireOneGenesis (bothRecords g h) = .ok g := by
  rw [requireOneGenesis, bothRecords_rows hne]
  split_ifs <;> rfl

lemma bothRecords_children :
    (bothRecords g h).rows.foldlM (addTransitionChild (bothRecords g h)) [] = .ok [(g, h)] := by
  have hfirst : ∀ children,
      addTransitionChild (bothRecords g h) children (acceptedRecord g) = .ok children :=
    fun _ => rfl
  have hsecond : addTransitionChild (bothRecords g h) [] (revokedRecord g h) = .ok [(g, h)] := by
    refine seq_eq_ok.mpr ⟨refuse_eq_ok.mpr ?_, rfl⟩
    rw [contains, bothRecords_first hne]
    rfl
  -- the records stand in the order of their hashes, and either may come first
  rw [bothRecords_rows hne]
  split_ifs
  · exact bind_eq_ok.mpr ⟨_, hfirst [], bind_eq_ok.mpr ⟨_, hsecond, rfl⟩⟩
  · exact bind_eq_ok.mpr ⟨_, hsecond, bind_eq_ok.mpr ⟨_, hfirst _, rfl⟩⟩

lemma bothRecords_walk :
    walkTransitions (bothRecords g h) [(g, h)] 3 [] g .draftPendingOperator 1 =
      .ok (.revoked, [h, g]) := by
  have hfirst := bothRecords_first hne
  have hsecond : (bothRecords g h).find? h = some (revokedRecord g h) := find?_insert_self
  have hlast : ([(g, h)] : TransitionChildren).lookup h = none := by
    rw [List.lookup_cons, beq_false_of_ne hne.symm]
    rfl
  simp [walkTransitions, hfirst, hsecond, hlast, acceptedRecord, revokedRecord, required, refuse,
    hne.symm, bind, Except.bind, pure, Except.pure]

lemma bothRecords_size : (bothRecords g h).size = 2 := by
  rw [size, bothRecords_rows hne]
  split_ifs <;> rfl

end Both

lemma Closing.accepted (hhex : ∀ b, isHexOfLength 64 (sha256 b) = true) (hd : d.Named)
    (hstatus : d.status = .revoked) (hne : sha256 b ≠ sha256 b') (hb : Genesis d b)
    (hb' : Closing sha256 d b b') :
    validateManagedAcceptanceDecisionTransitionChain sha256 d
        [decisionStatusTransitionReceipt sha256 b, decisionStatusTransitionReceipt sha256 b'] =
      .ok () := by
  have hnew : (empty.insert (acceptedRecord (sha256 b)) : TransitionRecords).find?
      (revokedRecord (sha256 b) (sha256 b')).transitionSha256 = none := by
    exact (find?_insert _ _ _).trans (if_neg (Ne.symm hne))
  refine chain_accepted (bothRecords (sha256 b) (sha256 b')) [sha256 b', sha256 b] hd (by simp)
    (bind_eq_ok.mpr ⟨_, addTransitionRecord_eq_ok (hb.record hhex) rfl,
      bind_eq_ok.mpr ⟨_, addTransitionRecord_eq_ok (hb'.record hhex) hnew, rfl⟩⟩)
    (bothRecords_genesis hne) (bothRecords_children hne) ?_ (bothRecords_size hne).symm
  rw [bothRecords_size hne, hstatus]
  exact bothRecords_walk hne

/-- A step from `revoked` is not an edge. -/
lemma transitionRecord_ne_ok (hfrom : r.body.fromStatus = .revoked) {record : TransitionRecord} :
    transitionRecord sha256 d r ≠ .ok record := by
  intro h
  iterate 2 obtain ⟨-, h⟩ := seq_ok h
  obtain ⟨_, -, h⟩ := bind_ok h
  iterate 3 obtain ⟨-, h⟩ := seq_ok h
  obtain ⟨_, -, h⟩ := bind_ok h
  iterate 8 obtain ⟨-, h⟩ := seq_ok h
  obtain ⟨hedge, -⟩ := seq_ok h
  rw [refuse_eq_ok, hfrom] at hedge
  cases hedge

lemma chain_refused (hr : r ∈ receipts) (hfrom : r.body.fromStatus = .revoked) :
    validateManagedAcceptanceDecisionTransitionChain sha256 d receipts ≠ .ok () := by
  intro h
  iterate 5 obtain ⟨-, h⟩ := seq_ok h
  obtain ⟨records, hrecords, -⟩ := bind_ok h
  obtain ⟨before, after, rfl⟩ := List.append_of_mem hr
  rw [List.foldlM_append] at hrecords
  obtain ⟨records₁, -, hrecords⟩ := bind_ok hrecords
  obtain ⟨records₂, hadd, -⟩ := bind_ok hrecords
  obtain ⟨record, hrecord, -⟩ := bind_ok hadd
  exact transitionRecord_ne_ok hfrom hrecord

def nextTransition (receipts : List TransitionReceipt) (d : DecisionRow C)
    (fromStatus toStatus : DecisionStatus) (p : AuthenticatedPrincipal) (now : ℤ)
    (reason : String) : TransitionBody :=
  let previous := latestTransitionTo receipts d.decisionId fromStatus
  { schemaVersion := transitionSchemaVersion
    decisionId := d.decisionId
    tenantId := d.tenantId
    decisionBodySha256 := d.decisionBodySha256
    residualFindingSha256 := d.residualFindingSha256
    sequence := (previous.map fun r => r.body.sequence + 1).getD 1
    previousTransitionSequence := previous.map fun r => r.body.sequence
    previousTransitionSha256 := previous.map fun r => r.transitionSha256
    fromStatus := fromStatus
    toStatus := toStatus
    actorPrincipalKind := p.kind
    actorPrincipalId := p.principalId
    atTime := now
    reason := reason }

variable {p : AuthenticatedPrincipal} {reason id : String} {now : ℤ}

lemma nextTransition_names (receipts : List TransitionReceipt) (d : DecisionRow C)
    (fromStatus toStatus : DecisionStatus) (p : AuthenticatedPrincipal) (now : ℤ)
    (hreason : reason ≠ "") :
    (nextTransition receipts d fromStatus toStatus p now reason).Names d :=
  ⟨rfl, rfl, rfl, rfl, rfl, p.named, hreason⟩

lemma insertTransition_cases (h : insertTransition receipts r = .ok receipts') :
    (∃ r' ∈ receipts, r'.body.decisionId = r.body.decisionId ∧
        r'.transitionSha256 = r.transitionSha256) ∧ receipts' = receipts ∨
      receipts' = receipts ++ [r] := by
  unfold insertTransition at h
  split at h
  · next hany =>
    obtain ⟨r', hr', hsame⟩ := List.any_eq_true.mp hany
    rw [Bool.and_eq_true, decide_eq_true_eq, decide_eq_true_eq] at hsame
    exact .inl ⟨⟨r', hr', hsame⟩, (Except.ok.inj h).symm⟩
  · obtain ⟨-, happend⟩ := seq_ok h
    exact .inr (Except.ok.inj happend).symm

/-- The writer appends its receipt, unless the decision has one with that hash. -/
lemma persistTransition_cases {fromStatus toStatus : DecisionStatus}
    (h : persistTransition sha256 receipts d fromStatus toStatus p now reason = .ok receipts') :
    d.Named ∧
      ((∃ r ∈ receipts, r.body.decisionId = d.decisionId ∧
            r.transitionSha256 =
              sha256 (nextTransition receipts d fromStatus toStatus p now reason)) ∧
          receipts' = receipts ∨
        receipts' =
          receipts ++
            [decisionStatusTransitionReceipt sha256
              (nextTransition receipts d fromStatus toStatus p now reason)]) := by
  obtain ⟨_, h1, h⟩ := bind_ok h
  obtain ⟨_, h2, h⟩ := bind_ok h
  obtain ⟨_, h3, h⟩ := bind_ok h
  obtain ⟨_, h4, hinsert⟩ := bind_ok h
  obtain ⟨hn1, rfl⟩ := requiredStr_eq_ok.mp h1
  obtain ⟨hn2, rfl⟩ := requiredStr_eq_ok.mp h2
  obtain ⟨hn3, rfl⟩ := requiredStr_eq_ok.mp h3
  obtain ⟨hn4, rfl⟩ := requiredStr_eq_ok.mp h4
  refine ⟨⟨hn1, hn2, hn3, hn4⟩, ?_⟩
  exact insertTransition_cases (r := decisionStatusTransitionReceipt sha256
    (nextTransition receipts d fromStatus toStatus p now reason)) hinsert

/-- The receipts of one decision, as they were written. -/
def receiptsOf (receipts : List TransitionReceipt) (decisionId : String) : List TransitionReceipt :=
  receipts.filter fun r => r.body.decisionId = decisionId

lemma mem_receiptsOf : r ∈ receiptsOf receipts id ↔ r ∈ receipts ∧ r.body.decisionId = id := by
  simp [receiptsOf]

lemma receiptsOf_append_own :
    receiptsOf (receipts ++ [r]) r.body.decisionId =
      receiptsOf receipts r.body.decisionId ++ [r] := by
  simp [receiptsOf]

/-- The writer looks only at the receipts of its decision. -/
lemma latestTransitionTo_eq {status : DecisionStatus} :
    latestTransitionTo receipts id status =
      (((receiptsOf receipts id).filter fun r => r.body.toStatus = status).insertionSort fun r r' =>
        r'.body.sequence ≤ r.body.sequence).head? := by
  rw [latestTransitionTo, receiptsOf, List.filter_filter]
  simp [Bool.and_comm]

/-- How far a decision's chain has come. -/
inductive Chain (sha256 : TransitionBody → String) (d : DecisionRow C)
    (receipts : List TransitionReceipt) : Prop where
  | draft (status : d.status = .draftPendingOperator) (none : receipts = [])
  | accepted {b : TransitionBody} (status : d.status = .operatorAccepted) (named : d.Named)
      (first : Genesis d b) (one : receipts = [decisionStatusTransitionReceipt sha256 b])
  | revoked {b b' : TransitionBody} (status : d.status = .revoked) (named : d.Named)
      (first : Genesis d b) (second : Closing sha256 d b b')
      (two : receipts =
        [decisionStatusTransitionReceipt sha256 b, decisionStatusTransitionReceipt sha256 b'])
  | again {r : TransitionReceipt} (status : d.status = .revoked) (mem : r ∈ receipts)
      (fromStatus : r.body.fromStatus = .revoked)

lemma Chain.accept (hreason : reason ≠ "") (hc : Chain sha256 d (receiptsOf receipts d.decisionId))
    (hdraft : d.status = .draftPendingOperator)
    (h : persistTransition sha256 receipts d .draftPendingOperator .operatorAccepted p now reason =
      .ok receipts') :
    Chain sha256 (d.accepted p now) (receiptsOf receipts' d.decisionId) := by
  obtain ⟨hnamed, hwritten⟩ := persistTransition_cases h
  have hnone : receiptsOf receipts d.decisionId = [] := by
    cases hc with
    | draft _ none => exact none
    | accepted status | revoked status | again status => simp [hdraft] at status
  rcases hwritten with ⟨⟨r, hr, hid, -⟩, -⟩ | rfl
  · have hmem := mem_receiptsOf.mpr ⟨hr, hid⟩
    rw [hnone] at hmem
    cases hmem
  · have hnames := nextTransition_names receipts d .draftPendingOperator .operatorAccepted p now
      hreason
    have hprevious : latestTransitionTo receipts d.decisionId .draftPendingOperator = none := by
      rw [latestTransitionTo_eq, hnone]
      rfl
    refine .accepted rfl (hnamed.of_terms rfl) ⟨hnames.of_terms rfl, ?_, ?_, ?_, rfl, rfl⟩
      (receiptsOf_append_own.trans ?_)
    · simp [nextTransition, hprevious]
    · simp [nextTransition, hprevious]
    · simp [nextTransition, hprevious]
    · exact congrArg (· ++ _) hnone

lemma Chain.revoke (hinj : ∀ b b', sha256 b = sha256 b' → b.fromStatus = b'.fromStatus)
    (hreason : reason ≠ "") (hhashed : ∀ r ∈ receipts, r.transitionSha256 = sha256 r.body)
    (hc : Chain sha256 d (receiptsOf receipts d.decisionId))
    (hdecided : d.status ≠ .draftPendingOperator)
    (h : persistTransition sha256 receipts d d.status .revoked p now reason = .ok receipts') :
    Chain sha256 (d.withdrawn now) (receiptsOf receipts' d.decisionId) := by
  obtain ⟨hnamed, hwritten⟩ := persistTransition_cases h
  -- a receipt with the hash of the new one starts from the same status
  have hsame : ∀ r ∈ receipts, r.transitionSha256 =
      sha256 (nextTransition receipts d d.status .revoked p now reason) →
        r.body.fromStatus = d.status :=
    fun r hr hsha => hinj _ _ ((hhashed r hr).symm.trans hsha)
  cases hc with
  | draft status => exact absurd status hdecided
  | @accepted b status _ first one =>
    rcases hwritten with ⟨⟨r, hr, hid, hsha⟩, -⟩ | rfl
    · have hmem := mem_receiptsOf.mpr ⟨hr, hid⟩
      rw [one, List.mem_singleton] at hmem
      have hfrom := hsame r hr hsha
      rw [hmem, status] at hfrom
      exact absurd (first.fromStatus.symm.trans hfrom) (by decide)
    · have hprevious : latestTransitionTo receipts d.decisionId .operatorAccepted =
          some (decisionStatusTransitionReceipt sha256 b) := by
        rw [latestTransitionTo_eq, one]
        simp [decisionStatusTransitionReceipt, first.toStatus]
      have hnames := nextTransition_names receipts d .operatorAccepted .revoked p now hreason
      have hsequence := first.sequence
      rw [status]
      refine .revoked rfl (hnamed.of_terms rfl) (first.of_terms rfl)
        ⟨hnames.of_terms rfl, ?_, ?_, ?_, rfl, rfl⟩
        (receiptsOf_append_own.trans (congrArg (· ++ _) one))
      · simp [nextTransition, hprevious, decisionStatusTransitionReceipt, hsequence]
      · simp [nextTransition, hprevious, decisionStatusTransitionReceipt, hsequence]
      · simp [nextTransition, hprevious, decisionStatusTransitionReceipt]
  | revoked status | again status =>
    rcases hwritten with ⟨⟨r, hr, hid, hsha⟩, rfl⟩ | rfl
    · exact .again rfl (mem_receiptsOf.mpr ⟨hr, hid⟩) ((hsame r hr hsha).trans status)
    · exact .again rfl (mem_receiptsOf.mpr ⟨List.mem_append_right _ (List.mem_singleton_self _), rfl⟩)
        status

end Harness.Acceptance
