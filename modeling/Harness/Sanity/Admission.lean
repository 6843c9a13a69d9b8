import Harness.Sanity.Sound

/-! Admission keeps a sound tree sound. It is the only operation that changes the
shape of a tree. -/

namespace Harness

open List RecursiveNode RecursiveBudget

open Lib

variable {n : RecursiveNode}

lemma firstRefusal_eq_none {ε : Type} {checks : List (Bool × ε)} :
    firstRefusal checks = none ↔ ∀ c ∈ checks, c.1 = false := by
  induction checks with
  | nil => simp [firstRefusal]
  | cons c checks ih =>
    obtain ⟨failed, reason⟩ := c
    cases failed <;> simp [firstRefusal, ih]

namespace RecursiveTree

variable {x : Externals} {t : RecursiveTree} {parent : RecursiveNode} {proposal : RecursiveProposal}

variable (x t parent proposal) in
/-- What an accepted proposal has passed. -/
structure Admissible : Prop where
  running : t.executionState = .running
  named : proposal.proposalId ≠ ""
  receipt : proposal.receiptSha256 ≠ ""
  unaccepted : proposal.proposalId ∉ t.acceptedProposals
  unrejected : t.rejectedProposals.contains proposal.proposalId = false
  depth_lt : parent.depth < maxRecursiveDepth
  children_lt : parent.acceptedChildren < maxAcceptedChildrenPerNode
  size_lt : t.nodes.size < maxRecursiveNodesPerRoot
  capabilities : proposal.requestedCapabilities ⊆ parent.capabilities
  scope_caps : proposal.requestedScope.capabilities = proposal.requestedCapabilities
  scope : proposal.requestedScope.isSubsetOf parent.scope = true
  objective : ∀ n ∈ t.nodes.rows, n.objectiveFingerprint ≠ objectiveFingerprint x proposal.objective

variable {env : RecursiveEnv} {k : String}

lemma schedulingRefusal_eq_none (h : t.schedulingRefusal env = none) :
    t.executionState = .running := by
  unfold schedulingRefusal at h
  split_ifs at h
  cases hs : t.executionState <;> rw [hs] at h <;> first | rfl | cases h

lemma admissible_of_checks (h : t.proposalRefusal x env proposal = none)
    (h' : t.parentRefusal x parent proposal = none) : Admissible x t parent proposal := by
  obtain ⟨hs, hp⟩ := Option.or_eq_none_iff.mp h
  unfold parentRefusal at h'
  simp only [firstRefusal_eq_none, mem_cons, not_mem_nil, or_false, forall_eq_or_imp,
    forall_eq, decide_eq_false_iff_not, Bool.not_eq_false', ne_eq, not_not, not_le] at hp h'
  obtain ⟨hshape, -, hacc, hrej⟩ := hp
  obtain ⟨-, hdepth, hchildren, hsize, hcaps, hscaps, hscope, -, hdup, -, -⟩ := h'
  simp only [shapeIsValid, Bool.and_eq_true, decide_eq_true_eq, ne_eq] at hshape
  refine ⟨schedulingRefusal_eq_none hs, hshape.1.1.1.1.1, hshape.1.1.1.2, hacc, hrej, hdepth,
    hchildren, hsize, hcaps, hscaps, hscope, fun n hn he => ?_⟩
  rw [any_eq_false] at hdup
  exact hdup n hn (by simpa using he)

/-- What a successful admission did. -/
lemma admitChild_eq_ok {admission : RecursiveAdmission} {t' : RecursiveTree}
    (h : t.admitChild x env proposal = (.ok admission, t')) :
    ∃ parent, t.nodes.find? proposal.parentNodeId = some parent ∧ Admissible x t parent proposal ∧
      admission.node = t.admittedNode x parent proposal ∧ t' = t.admitUnder x parent proposal := by
  unfold admitChild at h
  cases hp : t.proposalRefusal x env proposal with
  | some reason => simp [hp] at h
  | none =>
    cases hn : t.nodes.find? proposal.parentNodeId with
    | none => simp [hp, hn] at h
    | some parent =>
      cases hr : t.parentRefusal x parent proposal with
      | some reason => simp [hp, hn, hr] at h
      | none =>
        simp only [hp, hn, hr, Prod.mk.injEq, Except.ok.injEq] at h
        obtain ⟨rfl, rfl⟩ := h
        exact ⟨parent, rfl, admissible_of_checks hp hr, rfl, rfl⟩

variable (t parent proposal) in
/-- The other nodes: only the parent gives something away. -/
def granted (n : RecursiveNode) : RecursiveNode :=
  if n.nodeId = parent.nodeId then n.grantChild (t.effectiveBudget parent proposal) else n

lemma nodeId_granted : (t.granted parent proposal n).nodeId = n.nodeId := by
  unfold granted
  split_ifs <;> rfl

variable (parent proposal) in
/-- A grant moves the children's budget, their count and the version. -/
lemma granted_cases (n : RecursiveNode) :
    ∃ c v, t.granted parent proposal n = { n with
      acceptedChildren := n.acceptedChildren + if n.nodeId = parent.nodeId then 1 else 0
      childBudget := c
      version := v } := by
  unfold granted
  split_ifs
  · exact ⟨_, _, rfl⟩
  · exact ⟨n.childBudget, n.version, rfl⟩

variable (hnew : t.nodes.find? (t.admittedNode x parent proposal).nodeId = none)

variable (x t parent proposal) in
lemma find?_admitUnder (k : String) :
    (t.admitUnder x parent proposal).nodes.find? k =
      if k = (t.admittedNode x parent proposal).nodeId then some (t.admittedNode x parent proposal)
      else (t.nodes.find? k).map (t.granted parent proposal) := by
  unfold admitUnder
  rw [Table.find?_insert]
  refine if_congr Iff.rfl rfl ?_
  exact t.nodes.find?_map (t.granted parent proposal) (fun n => nodeId_granted)

include hnew

lemma rows_admitUnder :
    (t.admitUnder x parent proposal).nodes.rows.Perm
      (t.admittedNode x parent proposal :: t.nodes.rows.map (t.granted parent proposal)) := by
  refine Table.insert_perm _ ?_
  rw [Table.find?_modify, hnew]
  simp

lemma mem_admitUnder :
    n ∈ (t.admitUnder x parent proposal).nodes.rows ↔
      n = t.admittedNode x parent proposal ∨
        ∃ m ∈ t.nodes.rows, t.granted parent proposal m = n := by
  rw [(rows_admitUnder hnew).mem_iff, mem_cons, mem_map]

omit hnew in
/-- The accepted proposals are the ones with a receipt. -/
lemma receipts_new (hs : Shape x t) {p : String} (hp : p ∉ t.acceptedProposals) :
    t.receipts.find? p = none := by
  have hkeys : (t.receipts.rows.map Prod.fst).toFinset.card = t.receipts.size := by
    rw [toFinset_card_of_nodup t.receipts.keys_nodup, length_map]
    rfl
  have hsub : t.acceptedProposals ⊆ (t.receipts.rows.map Prod.fst).toFinset := by
    intro q hq
    have hall := (hs.accepted q hq).2
    cases hf : t.receipts.find? q with
    | none => simp [hf] at hall
    | some r =>
      obtain ⟨hm, rfl⟩ := t.receipts.find?_eq_some.mp hf
      exact mem_toFinset.mpr (mem_map_of_mem hm)
  have heq := Finset.eq_of_subset_of_card_le hsub (by rw [hkeys, hs.acceptedCard])
  rw [Table.find?_eq_none]
  rintro r hr rfl
  exact hp (heq ▸ mem_toFinset.mpr (mem_map_of_mem hr))

omit hnew in
/-- No node names a missing parent. -/
lemma parent_ne_of_new (hs : Shape x t) (hk : t.nodes.find? k = none) (hn : n ∈ t.nodes.rows) :
    n.parentNodeId ≠ some k := by
  intro hp
  have := (hs.node n hn).lineage
  simp [validateLineage, hp, hk] at this

omit hnew in
lemma ne_of_new {j : String} (hk : t.nodes.find? k = none) (hj : t.nodes.find? j = some n) :
    j ≠ k := by
  rintro rfl
  rw [hj] at hk
  cases hk

/-- A lineage that held still holds. -/
lemma lineage_granted (h : t.validateLineage n = .ok ()) :
    (t.admitUnder x parent proposal).validateLineage (t.granted parent proposal n) = .ok () := by
  obtain ⟨c, v, hg⟩ := t.granted_cases parent proposal n
  unfold validateLineage at h ⊢
  rw [hg]
  cases hp : n.parentNodeId with
  | none => rfl
  | some q =>
    simp only [hp] at h ⊢
    cases hq : t.nodes.find? q with
    | none => simp [hq] at h
    | some m =>
      obtain ⟨c', v', hm⟩ := t.granted_cases parent proposal m
      rw [find?_admitUnder, if_neg (ne_of_new hnew hq), hq]
      simp only [hq] at h
      simp only [Option.map_some, hm]
      exact h

lemma nodeShape_granted (ha : Admissible x t parent proposal)
    (hparent : t.nodes.find? parent.nodeId = some parent) (hn : n ∈ t.nodes.rows)
    (h : NodeShape x t n) :
    NodeShape x (t.admitUnder x parent proposal) (t.granted parent proposal n) := by
  have hlin := lineage_granted hnew h.lineage
  have hchildren : n.acceptedChildren + (if n.nodeId = parent.nodeId then 1 else 0) ≤
      maxAcceptedChildrenPerNode := by
    split_ifs with he
    · rw [t.nodes.eq_of_key_eq hn (Table.mem_of_find? hparent) he]
      exact ha.children_lt
    · exact h.children_le
  obtain ⟨c, v, hg⟩ := t.granted_cases parent proposal n
  rw [hg] at hlin ⊢
  refine { h with children_le := hchildren, lineage := hlin, proposed := fun p hp => ?_ }
  obtain ⟨h1, h2, h3⟩ := h.proposed p hp
  refine ⟨h1, Finset.mem_insert_of_mem h2, ?_⟩
  rw [Table.contains_iff] at h3 ⊢
  obtain ⟨r, hr, rfl⟩ := h3
  refine ⟨r, ?_, rfl⟩
  unfold admitUnder
  rw [Table.mem_insert]
  refine .inr ⟨hr, fun he => ha.unaccepted ?_⟩
  rwa [he] at h2

omit hnew in
lemma lineage_eq_ok {m : RecursiveNode} {q : String} (hp : n.parentNodeId = some q)
    (hm : t.nodes.find? q = some m) :
    t.validateLineage n = .ok () ↔
      n.depth = m.depth + 1 ∧
        n.ancestorFingerprints = m.ancestorFingerprints ++ [m.objectiveFingerprint] ∧
        n.capabilities ⊆ m.capabilities ∧ n.scope.isSubsetOf m.scope = true ∧
        n.tenantId = m.tenantId ∧ n.workspaceId = m.workspaceId := by
  simp only [validateLineage, hp, hm, refuse_eq_ok, Bool.or_eq_false_iff, decide_eq_false_iff_not,
    ne_eq, not_not, Bool.not_eq_false']
  tauto

omit hnew in
/-- A child has its parent one level above. -/
lemma exists_parent (hs : Shape x t) (hn : n ∈ t.nodes.rows) (hr : n.nodeId ≠ t.rootNodeId) :
    ∃ q m, n.parentNodeId = some q ∧ t.nodes.find? q = some m ∧ n.depth = m.depth + 1 ∧
      n.ancestorFingerprints = m.ancestorFingerprints ++ [m.objectiveFingerprint] := by
  obtain ⟨q, hq⟩ := Option.isSome_iff_exists.mp ((hs.node n hn).child hr)
  have hlin := (hs.node n hn).lineage
  cases hm : t.nodes.find? q with
  | none => simp [validateLineage, hq, hm] at hlin
  | some m =>
    obtain ⟨h1, h2, -⟩ := (lineage_eq_ok hq hm).mp hlin
    exact ⟨q, m, hq, hm, h1, h2⟩

omit hnew in
lemma ancestors_length (hs : Shape x t) :
    ∀ d, ∀ n ∈ t.nodes.rows, n.depth = d → n.ancestorFingerprints.length ≤ d := by
  intro d
  induction d with
  | zero =>
    intro n hn hd
    by_cases hr : n.nodeId = t.rootNodeId
    · rw [((hs.node n hn).root hr).2.2]
      exact le_rfl
    · obtain ⟨q, m, -, -, h1, -⟩ := exists_parent hs hn hr
      omega
  | succ d ih =>
    intro n hn hd
    by_cases hr : n.nodeId = t.rootNodeId
    · rw [((hs.node n hn).root hr).2.2]
      exact Nat.zero_le _
    · obtain ⟨q, m, -, hm, h1, h2⟩ := exists_parent hs hn hr
      have := ih m (Table.mem_of_find? hm) (by omega)
      rw [h2, length_append, length_singleton]
      omega

omit hnew in
/-- A part of a valid scope is valid. -/
lemma validateScope_mono {a b : RecursiveScope} (h : a.isSubsetOf b = true)
    (hb : validateScope b = .ok ()) : validateScope a = .ok () := by
  simp only [RecursiveScope.isSubsetOf, Bool.and_eq_true, decide_eq_true_eq] at h
  obtain ⟨⟨hrepo, hpaths⟩, hcaps⟩ := h
  simp only [validateScope, seq_eq_ok, refuse_eq_ok, Bool.or_eq_false_iff,
    decide_eq_false_iff_not, not_lt, not_exists, not_and] at hb ⊢
  obtain ⟨⟨h1, h2⟩, ⟨h3, h4⟩, h5⟩ := hb
  exact ⟨⟨(Finset.card_le_card hpaths).trans h1, (Finset.card_le_card hcaps).trans h2⟩,
    ⟨hrepo ▸ h3, fun v hv => h4 v (hpaths hv)⟩, fun v hv => h5 v (hcaps hv)⟩

omit hnew in
lemma admitted_scope (ha : Admissible x t parent proposal) :
    (t.admittedNode x parent proposal).capabilities ⊆ parent.capabilities ∧
      (t.admittedNode x parent proposal).scope.isSubsetOf parent.scope = true := by
  have hsub : heritableRecursiveCapabilities proposal.requestedCapabilities ⊆
      proposal.requestedCapabilities := Finset.filter_subset _ _
  have hscope := ha.scope
  simp only [RecursiveScope.isSubsetOf, Bool.and_eq_true, decide_eq_true_eq] at hscope
  refine ⟨hsub.trans ha.capabilities, ?_⟩
  simp only [admittedNode, RecursiveScope.isSubsetOf, Bool.and_eq_true]
  exact ⟨⟨decide_eq_true hscope.1.1, decide_eq_true hscope.1.2⟩,
    decide_eq_true (hsub.trans (ha.scope_caps ▸ hscope.2))⟩

omit hnew in
/-- A reference to a proposal fits when the proposal's id does. -/
lemma evidence_admitted (h : proposal.proposalId.utf8ByteSize ≤ 241) :
    evidenceExceedsShape (t.admittedNode x parent proposal).evidenceRefs = false := by
  have hlen : ("agent_proposal/" ++ proposal.proposalId).utf8ByteSize =
      15 + proposal.proposalId.utf8ByteSize := String.utf8ByteSize_append
  simp only [evidenceExceedsShape, admittedNode, length_singleton, any_cons, any_nil,
    hlen, Bool.or_false, Bool.or_eq_false_iff, decide_eq_false_iff_not, not_lt,
    maxRecursiveDecisionEvidenceRefs, maxRecursiveEvidenceRefBytes]
  exact ⟨rfl, by omega⟩

omit hnew in
lemma admitted_named : (t.admittedNode x parent proposal).nodeId ≠ "" := by
  have hlen : (t.admittedNode x parent proposal).nodeId.utf8ByteSize = 10 +
      (x.sha256Hex (t.rootRunId ++ "\x00" ++ proposal.proposalId ++ "\x00" ++
        objectiveFingerprint x proposal.objective)).utf8ByteSize := String.utf8ByteSize_append
  intro he
  rw [he] at hlen
  have h0 : ("" : String).utf8ByteSize = 0 := rfl
  omega

lemma nodeShape_admitted (hs : Shape x t) (ha : Admissible x t parent proposal)
    (hparent : t.nodes.find? parent.nodeId = some parent)
    (hhex : ∀ s, (x.sha256Hex s).utf8ByteSize = 64)
    (hsize : proposal.proposalId.utf8ByteSize ≤ 241) :
    NodeShape x (t.admitUnder x parent proposal) (t.admittedNode x parent proposal) := by
  have hpm := Table.mem_of_find? hparent
  have hne := ne_of_new hnew hparent
  have hfind : (t.admitUnder x parent proposal).nodes.find? parent.nodeId =
      some (t.granted parent proposal parent) := by
    rw [find?_admitUnder, if_neg hne, hparent]
    rfl
  have hroot : (t.admittedNode x parent proposal).nodeId ≠ t.rootNodeId := by
    obtain ⟨root, hr, -⟩ := limit_of_root hs.root hs.node
    exact (ne_of_new hnew hr).symm
  have hlen := ancestors_length hs parent.depth parent hpm rfl
  have hdepth := ha.depth_lt
  obtain ⟨hcaps, hscope⟩ := admitted_scope ha
  refine ⟨?_, ?_, hhex _, ?_, rfl, admitted_named, fun _ => rfl, rfl, fun h => absurd h hroot, ?_,
    ?_, (fun h => by cases h), validateScope_mono hscope (hs.node parent hpm).scope,
    evidence_admitted hsize⟩
  · exact hdepth
  · exact Nat.zero_le _
  · change (parent.ancestorFingerprints ++ [parent.objectiveFingerprint]).length ≤ maxRecursiveDepth
    rw [length_append, length_singleton]
    omega
  · obtain ⟨c, v, hg⟩ := t.granted_cases parent proposal parent
    rw [lineage_eq_ok rfl hfind, hg]
    exact ⟨rfl, rfl, hcaps, hscope, rfl, rfl⟩
  · rintro p ⟨⟩
    refine ⟨rfl, Finset.mem_insert_self _ _, ?_⟩
    rw [Table.contains_iff]
    exact ⟨_, (Table.mem_insert _ _ _).mpr (.inl rfl), rfl⟩

/-- The children of every node are counted again. -/
lemma counts_admitUnder (hs : Shape x t) (hparent : t.nodes.find? parent.nodeId = some parent)
    (hn : n ∈ (t.admitUnder x parent proposal).nodes.rows) :
    n.acceptedChildren =
      (t.admitUnder x parent proposal).nodes.rows.countP fun m =>
        m.parentNodeId = some n.nodeId := by
  have hcount : ∀ k, ((t.admitUnder x parent proposal).nodes.rows.countP
      fun m => m.parentNodeId = some k) = (t.nodes.rows.countP fun m => m.parentNodeId = some k) +
        if parent.nodeId = k then 1 else 0 := by
    intro k
    rw [(rows_admitUnder hnew).countP_eq, countP_cons, countP_map]
    congr 1
    · refine countP_congr fun m _ => ?_
      obtain ⟨c, v, hg⟩ := t.granted_cases parent proposal m
      rw [Function.comp_apply, hg]
    · simp [admittedNode]
  rw [hcount]
  rcases (mem_admitUnder hnew).mp hn with rfl | ⟨m, hm, rfl⟩
  · have h0 : (t.nodes.rows.countP fun m =>
        m.parentNodeId = some (t.admittedNode x parent proposal).nodeId) = 0 := by
      rw [countP_eq_zero]
      intro m hm
      simpa using parent_ne_of_new hs hnew hm
    rw [h0, if_neg (ne_of_new hnew hparent)]
    rfl
  · obtain ⟨c, v, hg⟩ := t.granted_cases parent proposal m
    rw [hg]
    rw [hs.counts m hm]
    simp [eq_comm (a := parent.nodeId)]

lemma shape_admitUnder (hs : Shape x t) (ha : Admissible x t parent proposal)
    (hparent : t.nodes.find? parent.nodeId = some parent)
    (hhex : ∀ s, (x.sha256Hex s).utf8ByteSize = 64)
    (hsize : proposal.proposalId.utf8ByteSize ≤ 241) :
    Shape x (t.admitUnder x parent proposal) := by
  have hperm := rows_admitUnder hnew
  have hmap : ∀ {β : Type} (π : RecursiveNode → β)
      (_ : ∀ n, π (t.granted parent proposal n) = π n),
      (t.nodes.rows.map (t.granted parent proposal)).map π = t.nodes.rows.map π := by
    intro β π hπ
    rw [map_map]
    exact map_congr_left fun n _ => hπ n
  have hfp : ∀ n, (t.granted parent proposal n).objectiveFingerprint = n.objectiveFingerprint := by
    intro n
    obtain ⟨c, v, hg⟩ := t.granted_cases parent proposal n
    rw [hg]
  have hpr : ∀ n, (t.granted parent proposal n).proposalId = n.proposalId := by
    intro n
    obtain ⟨c, v, hg⟩ := t.granted_cases parent proposal n
    rw [hg]
  have hreceipts := receipts_new hs ha.unaccepted
  refine ⟨hs.schema, ?_, hs.rootScope, hs.identity, hs.creation, hs.childLimit, ?_, fun n hn => ?_,
    ?_, ?_, fun n hn => counts_admitUnder hnew hs hparent hn, ?_, fun p hp => ?_, fun p hp => ?_,
    hs.rejected_le, hs.rejected⟩
  · have := hperm.length_eq
    simp only [length_cons, length_map] at this
    have hlt := ha.size_lt
    unfold Table.size at hlt ⊢
    omega
  · obtain ⟨root, hr, -⟩ := limit_of_root hs.root hs.node
    have hroot := hs.root
    obtain ⟨c, v, hg⟩ := t.granted_cases parent proposal root
    simp only [validateRoot, hr] at hroot
    have hr' : (t.admitUnder x parent proposal).nodes.find? t.rootNodeId =
        some (t.granted parent proposal root) := by
      rw [find?_admitUnder, if_neg (ne_of_new hnew hr), hr]
      rfl
    unfold validateRoot
    rw [show (t.admitUnder x parent proposal).rootNodeId = t.rootNodeId from rfl, hr', hg]
    exact hroot
  · rcases (mem_admitUnder hnew).mp hn with rfl | ⟨m, hm, rfl⟩
    · exact nodeShape_admitted hnew hs ha hparent hhex hsize
    · exact nodeShape_granted hnew ha hparent hm (hs.node m hm)
  · rw [(hperm.map _).nodup_iff, map_cons, hmap _ hfp, nodup_cons]
    refine ⟨fun hm => ?_, hs.fingerprints⟩
    obtain ⟨n, hn, he⟩ := mem_map.mp hm
    exact ha.objective n hn he
  · have hrows : (t.nodes.rows.map (t.granted parent proposal)).filterMap proposalId =
        t.nodes.rows.filterMap proposalId := by
      rw [filterMap_map]
      exact filterMap_congr fun n _ => hpr n
    have hchild : (t.admittedNode x parent proposal).proposalId = some proposal.proposalId := rfl
    rw [(hperm.filterMap _).nodup_iff, filterMap_cons_some hchild, hrows, nodup_cons]
    refine ⟨fun hm => ?_, hs.proposals⟩
    obtain ⟨n, hn, he⟩ := mem_filterMap.mp hm
    exact ha.unaccepted ((hs.node n hn).proposed _ he).2.1
  · change (insert proposal.proposalId t.acceptedProposals).card = (Table.insert _ _).size
    rw [Finset.card_insert_of_notMem ha.unaccepted, Table.size_insert_of_new _ hreceipts,
      hs.acceptedCard]
  · have hfind : ∀ q, (t.admitUnder x parent proposal).receipts.find? q =
        if q = proposal.proposalId then some (proposal.proposalId, proposal.receiptSha256)
        else t.receipts.find? q := fun q => Table.find?_insert _ _ q
    rcases Finset.mem_insert.mp hp with rfl | hp
    · refine ⟨⟨_, (mem_admitUnder hnew).mpr (.inl rfl), rfl⟩, ?_⟩
      rw [hfind, if_pos rfl]
      simpa using ha.receipt
    · obtain ⟨⟨n, hn, he⟩, hrec⟩ := hs.accepted p hp
      refine ⟨⟨_, (mem_admitUnder hnew).mpr (.inr ⟨n, hn, rfl⟩), (hpr n).trans he⟩, ?_⟩
      have hne : p ≠ proposal.proposalId := fun e => ha.unaccepted (e ▸ hp)
      rw [hfind, if_neg hne]
      exact hrec
  · rcases Finset.mem_insert.mp hp with rfl | hp
    · exact ha.unrejected
    · exact hs.unrejected p hp

lemma leasesOk_admitUnder (h : t.LeasesOk) : (t.admitUnder x parent proposal).LeasesOk := by
  have hlease : ∀ n, (t.granted parent proposal n).leaseId = n.leaseId ∧
      (t.granted parent proposal n).status = n.status := by
    intro n
    obtain ⟨c, v, hg⟩ := t.granted_cases parent proposal n
    rw [hg]
    exact ⟨rfl, rfl⟩
  refine ⟨h.card_le, fun n hn => ?_, fun l => ?_, fun n hn m hm l hln hlm => ?_⟩
  · rcases (mem_admitUnder hnew).mp hn with rfl | ⟨m, hm, rfl⟩
    · simp [admittedNode]
    · rw [(hlease m).1, (hlease m).2]
      exact h.leased m hm
  · refine (h.active l).trans ⟨?_, ?_⟩
    · rintro ⟨n, hn, hl⟩
      exact ⟨_, (mem_admitUnder hnew).mpr (.inr ⟨n, hn, rfl⟩), (hlease n).1.trans hl⟩
    · rintro ⟨n, hn, hl⟩
      rcases (mem_admitUnder hnew).mp hn with rfl | ⟨m, hm, rfl⟩
      · cases hl
      · exact ⟨m, hm, (hlease m).1.symm.trans hl⟩
  · rcases (mem_admitUnder hnew).mp hn with rfl | ⟨a, ha, rfl⟩
    · cases hln
    · rcases (mem_admitUnder hnew).mp hm with rfl | ⟨b, hb, rfl⟩
      · cases hlm
      · rw [(hlease a).1] at hln
        rw [(hlease b).1] at hlm
        rw [nodeId_granted, nodeId_granted]
        exact h.unique a ha b hb l hln hlm

end RecursiveTree

open RecursiveTree in
lemma Sound.admitUnder {x : Externals} {t : RecursiveTree} {parent : RecursiveNode}
    {proposal : RecursiveProposal} (h : Sound x t) (ha : Admissible x t parent proposal)
    (hparent : t.nodes.find? parent.nodeId = some parent)
    (hnew : t.nodes.find? (t.admittedNode x parent proposal).nodeId = none)
    (hhex : ∀ s, (x.sha256Hex s).utf8ByteSize = 64)
    (hsize : proposal.proposalId.utf8ByteSize ≤ 241) :
    Sound x (t.admitUnder x parent proposal) := by
  refine ⟨shape_admitUnder hnew h.shape ha hparent hhex hsize, leasesOk_admitUnder hnew h.leases,
    ⟨h.receipts.size_le, h.receipts.named⟩, fun d => ?_⟩
  obtain ⟨root, hr, -⟩ := limit_of_root h.shape.root h.shape.node
  rw [ledger_admitUnder t d (ne_of_new hnew hr).symm]
  refine (h.books d).grant (exists_account hparent) ?_ (fun b hb => ?_) ?_ ?_
  · rw [find?_accounts, hnew]
    rfl
  · obtain ⟨n, hn, rfl⟩ := mem_map.mp hb
    exact parent_ne_of_new h.shape hnew hn
  · rw [effectiveBudget, amount_boundedBy]
    exact min_le_right _ _
  · rw [effectiveBudget, amount_boundedBy, amount_boundedBy]
    exact (min_le_left _ _).trans (min_le_right _ _)

end Harness
