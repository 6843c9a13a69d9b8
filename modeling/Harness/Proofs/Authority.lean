import Harness.Proofs.FailedAncestors

/-! Authority in a tree that the store accepts only shrinks on the way down. -/

namespace Harness.RecursiveTree

open List

variable {x : Externals} {t : RecursiveTree} {a k : String} {n m l : RecursiveNode}

/-- `n` lies under `m` and may do no more. -/
structure Under (n m : RecursiveNode) : Prop where
  depth : m.depth < n.depth
  path : m.ancestorFingerprints ++ [m.objectiveFingerprint] <+: n.ancestorFingerprints
  capabilities : n.capabilities ⊆ m.capabilities
  scope : n.scope.isSubsetOf m.scope = true
  tenant : n.tenantId = m.tenantId
  workspace : n.workspaceId = m.workspaceId

lemma Under.trans (h : Under n m) (h' : Under m l) : Under n l where
  depth := h'.depth.trans h.depth
  path := h'.path.trans ((prefix_append _ _).trans h.path)
  capabilities := h.capabilities.trans h'.capabilities
  scope := by
    have h1 := h.scope
    have h2 := h'.scope
    simp only [RecursiveScope.isSubsetOf, Bool.and_eq_true, decide_eq_true_eq] at h1 h2 ⊢
    exact ⟨⟨h1.1.1.trans h2.1.1, h1.1.2.trans h2.1.2⟩, h1.2.trans h2.2⟩
  tenant := h.tenant.trans h'.tenant
  workspace := h.workspace.trans h'.workspace

def Attenuates (t : RecursiveTree) (a k : String) : Prop :=
  ∃ m n, t.nodes.find? a = some m ∧ t.nodes.find? k = some n ∧ Under n m

lemma attenuates_parent (hs : Shape x t) (h : t.parentOf k = some a) : t.Attenuates a k := by
  obtain ⟨n, hn, hparent⟩ := Option.bind_eq_some_iff.mp h
  have hlineage := (hs.node n (Lib.Table.mem_of_find? hn)).lineage
  cases hm : t.nodes.find? a with
  | none => simp [validateLineage, hparent, hm] at hlineage
  | some m =>
    obtain ⟨hdepth, hpath, hcaps, hscope, htenant, hspace⟩ := (lineage_eq_ok hparent hm).mp hlineage
    exact ⟨m, n, hm, hn, by omega, by rw [hpath], hcaps, hscope, htenant, hspace⟩

/-- What a node may do, all its ancestors may do, for the same tenant. No node is its own
ancestor. -/
theorem authority_shrinks (h : t.validateTree x = .ok ()) (ha : t.Above a k) :
    a ≠ k ∧ t.Attenuates a k := by
  have hs := (validateTree_eq_ok.mp h).1
  have hunder : t.Attenuates a k := by
    induction ha with
    | parent h => exact attenuates_parent hs h
    | up h _ ih =>
      obtain ⟨m, p, hm, hp, hpm⟩ := ih
      obtain ⟨p', n, hp', hn, hnp⟩ := attenuates_parent hs h
      cases hp.symm.trans hp'
      exact ⟨m, n, hm, hn, hnp.trans hpm⟩
  refine ⟨?_, hunder⟩
  rintro rfl
  obtain ⟨m, n, hm, hn, hnm⟩ := hunder
  cases hm.symm.trans hn
  exact lt_irrefl _ hnm.depth

lemma validateTree_sampleLate :
    (sampleStale.admitChild sampleExternals sampleEnv lateProposal).2.validateTree
      sampleExternals = .ok () := by
  rfl

/-- A child of the root's child. -/
theorem authority_shrinks_sample :
    let t := (sampleStale.admitChild sampleExternals sampleEnv lateProposal).2
    t.validateTree sampleExternals = .ok () ∧
      t.parentOf sampleSecondId = some sampleChildId ∧
      t.Attenuates t.rootNodeId sampleSecondId := by
  have hparent : (sampleStale.admitChild sampleExternals sampleEnv lateProposal).2.parentOf
      sampleSecondId = some sampleChildId := by rfl
  exact ⟨validateTree_sampleLate, hparent,
    (authority_shrinks validateTree_sampleLate (.up hparent (.parent rfl))).2⟩

end Harness.RecursiveTree
