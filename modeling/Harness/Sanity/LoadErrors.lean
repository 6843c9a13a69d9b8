import Harness.Spec.TreeSave

/-! The texts with which a stored tree is refused on its way out of the store. None of them is
the one for a tree or a node that is missing, on which a recovery goes on without its tree. -/

namespace Harness

open Lib

/-- Neither of the two texts that `recover_stale_leases` takes for a missing tree. -/
def NotMissing (e : String) : Prop := e ≠ "recursive_tree_missing" ∧ e ≠ "recursive_node_missing"

instance (e : String) : Decidable (NotMissing e) := inferInstanceAs (Decidable (_ ∧ _))

variable {x : Externals} {mint : Mint}

variable {t : RecursiveTree} {message : String} {tables : WorkflowTables}

section

variable {failed : Bool} (h : decide (NotMissing message) = true)

include h

lemma refuse_fails : FailsAs NotMissing (refuse failed message) := by
  unfold refuse
  split_ifs
  · exact .error (of_decide_eq_true h)
  · exact .ok ()

lemma refuse_then {α : Type} {f : Unit → Except String α} (hf : FailsAs NotMissing (f ())) :
    FailsAs NotMissing (refuse failed message >>= f) :=
  .bind (refuse_fails h) fun _ => hf

end

lemma validateScope_fails {scope : RecursiveScope} : FailsAs NotMissing (validateScope scope) :=
  refuse_then rfl (refuse_fails rfl)

namespace RecursiveTree

variable (t : RecursiveTree)

lemma validateAggregate_fails : FailsAs NotMissing t.validateAggregate := by
  unfold validateAggregate
  split
  · exact .ok ()
  · exact refuse_then rfl (refuse_fails rfl)

lemma validateRoot_fails : FailsAs NotMissing t.validateRoot := by
  unfold validateRoot
  split
  · exact .error (by decide)
  · exact refuse_fails rfl

variable {node : RecursiveNode} {tally : Tally}

lemma validateReservation_fails : FailsAs NotMissing (t.validateReservation node) := by
  unfold validateReservation
  split_ifs
  · exact refuse_fails rfl
  · exact refuse_fails rfl

lemma validateLineage_fails : FailsAs NotMissing (t.validateLineage node) := by
  unfold validateLineage
  split
  · exact .ok ()
  · split
    · exact .error (by decide)
    · exact refuse_fails rfl

lemma validateProposalIdentity_fails :
    FailsAs NotMissing (t.validateProposalIdentity x tally node) := by
  unfold validateProposalIdentity
  split
  · exact refuse_then rfl (refuse_fails rfl)
  · exact refuse_fails rfl

lemma validateLease_fails : FailsAs NotMissing (t.validateLease node) := by
  unfold validateLease
  split
  · split_ifs
    · exact refuse_fails rfl
    · exact .error (by decide)
  · exact refuse_fails rfl

lemma validateNode_fails : FailsAs NotMissing (t.validateNode x tally node) := by
  refine refuse_then rfl (refuse_then rfl ?_)
  refine refuse_then rfl (.bind t.validateReservation_fails fun _ => ?_)
  refine refuse_then rfl (refuse_then rfl ?_)
  refine .bind t.validateLineage_fails fun _ => ?_
  refine .bind t.validateProposalIdentity_fails fun _ => ?_
  refine .bind t.validateLease_fails fun _ => .bind validateScope_fails fun _ => ?_
  exact refuse_then rfl (.ok _)

lemma validateTotals_fails : FailsAs NotMissing (t.validateTotals tally) := by
  refine refuse_then rfl (refuse_then rfl (refuse_then rfl ?_))
  exact refuse_then rfl (refuse_then rfl (refuse_fails rfl))

lemma validateTree_fails {t : RecursiveTree} : FailsAs NotMissing (t.validateTree x) := by
  refine refuse_then rfl (refuse_then rfl ?_)
  refine .bind validateScope_fails fun _ => ?_
  refine refuse_then rfl (refuse_then rfl ?_)
  refine refuse_then rfl (.bind t.validateAggregate_fails fun _ => ?_)
  refine .bind t.validateRoot_fails fun _ => ?_
  exact .bind (.foldlM (fun _ _ => t.validateNode_fails) _ _) fun tally => t.validateTotals_fails

end RecursiveTree

lemma requireText_fails {field : Option String} (h : NotMissing message) :
    FailsAs NotMissing (requireText field message) := by
  unfold requireText
  split
  · exact .ok _
  · exact .error h

lemma validateRootAuthorityBinding_fails {metadata : RootMetadata} :
    FailsAs NotMissing (validateRootAuthorityBinding mint metadata t) := by
  unfold validateRootAuthorityBinding
  split
  · split
    · exact .error (by decide)
    · exact .error (by decide)
    · refine .bind (.ok _) fun _ => refuse_then rfl ?_
      exact .bind (requireText_fails (by decide)) fun _ => refuse_fails rfl
  · exact .error (by decide)

lemma checkWorkflowBinding_fails : FailsAs NotMissing (checkWorkflowBinding mint tables t) := by
  unfold checkWorkflowBinding
  split
  · refine refuse_then rfl ?_
    split
    · refine refuse_then rfl ?_
      split
      · split
        · exact refuse_then rfl validateRootAuthorityBinding_fails
        · exact .error (by decide)
      · exact .error (by decide)
    · exact .error (by decide)
  · exact .error (by decide)

lemma loadRecursiveTree_fails {trees : TreeTable} {runId : String} :
    FailsAs NotMissing (loadRecursiveTree x mint tables trees runId) := by
  unfold loadRecursiveTree
  split
  · exact .ok none
  · refine refuse_then rfl ?_
    refine .bind checkWorkflowBinding_fails fun _ => .bind ?_ fun _ => .ok _
    exact .bind RecursiveTree.validateTree_fails fun _ => refuse_then rfl (.ok _)

end Harness
