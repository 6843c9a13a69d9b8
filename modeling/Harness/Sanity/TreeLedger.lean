import Harness.Lib.Ledger
import Harness.Sanity.Alike

/-! The books of a tree, one dimension at a time: each operation on the tree is
the ledger operation of the same meaning. -/

namespace Harness

open Lib Table List Function

def RecursiveNode.account (rootNodeId : String) (d : Dim) (n : RecursiveNode) : Account String where
  id := n.nodeId
  parent := n.parentNodeId
  root := n.nodeId = rootNodeId
  closed := n.status.terminal
  limit := n.budgetLimit.amount d
  left := n.budget.amount d
  used := n.actualUsage.amount d
  held := n.reservation.amount d
  kidLimit := n.childBudgetLimit.amount d
  kidLeft := n.childBudget.amount d

variable {f : RecursiveNode → RecursiveNode}

namespace RecursiveTree

def accounts (t : RecursiveTree) (d : Dim) : Table (Account.id : Account String → String) :=
  t.nodes.map (RecursiveNode.account t.rootNodeId d)

def ledger (t : RecursiveTree) (d : Dim) : Ledger String where
  cap := u64Max
  limit := (t.rootBudgetLimit.getD .zero).amount d
  free := t.rootBudget.amount d
  spent := t.spentBudget.amount d
  reserved := t.reservedBudget.amount d
  accounts := t.accounts d

variable (t : RecursiveTree) (d : Dim) (k : String)

lemma find?_accounts :
    (t.ledger d).accounts.find? k = (t.nodes.find? k).map (RecursiveNode.account t.rootNodeId d) :=
  find?_map _ _ (fun _ => rfl)

lemma total_ledger {f : Account String → ℕ} :
    (t.ledger d).total f = (t.nodes.rows.map fun n => f (n.account t.rootNodeId d)).sum := by
  rw [Ledger.total, ledger, accounts, rows_map, map_map]
  rfl

lemma kids_ledger {q : String} {f : Account String → ℕ} :
    (t.ledger d).kids q f =
      (t.nodes.rows.map fun n =>
        if n.parentNodeId = some q then f (n.account t.rootNodeId d) else 0).sum := by
  rw [Ledger.kids, total_ledger]
  rfl

/-- Rewriting one node is rewriting its account. -/
lemma map_account_modify (root : String) (rows : List RecursiveNode)
    {g : Account String → Account String} (h : ∀ n, (f n).account root d = g (n.account root d)) :
    (rows.map fun n => if n.nodeId = k then f n else n).map (RecursiveNode.account root d) =
      (rows.map (RecursiveNode.account root d)).map fun a => if a.id = k then g a else a := by
  rw [map_map, map_map]
  refine map_congr_left fun n _ => ?_
  by_cases hk : n.nodeId = k
  · have hk' : (n.account root d).id = k := hk
    simp [comp_apply, if_pos hk, if_pos hk', h]
  · have hk' : (n.account root d).id ≠ k := hk
    simp only [comp_apply, if_neg hk, if_neg hk']

/-- A rewriting of one node that the books do not see. -/
lemma map_account_same {root : String} {rows : List RecursiveNode}
    (h : ∀ n ∈ rows, n.nodeId = k → (f n).account root d = n.account root d) :
    (rows.map fun n => if n.nodeId = k then f n else n).map (RecursiveNode.account root d) =
      rows.map (RecursiveNode.account root d) := by
  rw [map_map]
  refine map_congr_left fun n hn => ?_
  by_cases hk : n.nodeId = k
  · simp [comp_apply, if_pos hk, h n hn hk]
  · simp [comp_apply, if_neg hk]

lemma ledger_bumpVersion : t.bumpVersion.ledger d = t.ledger d := rfl

lemma ledger_bumpNode : (t.bumpNode k).ledger d = t.ledger d := by
  refine Ledger.ext rfl rfl rfl rfl rfl (ext ?_)
  exact map_account_same d k fun _ _ _ => rfl

lemma ledger_release :
    (t.releaseNodeReservationForPersistence k).ledger d = (t.ledger d).release k := by
  unfold releaseNodeReservationForPersistence Ledger.release
  rw [find?_accounts]
  cases hn : t.nodes.find? k with
  | none => rfl
  | some node =>
    have h1 := map_account_modify d k t.rootNodeId t.nodes.rows
      (f := fun n => { n with reservation := .zero }) (g := fun a => { a with held := 0 })
      fun n => by simp [RecursiveNode.account]
    refine Ledger.ext rfl rfl ?_ rfl ?_ (ext ?_)
    · exact RecursiveBudget.amount_add _ _ d
    · exact RecursiveBudget.amount_spend _ _ d
    · cases hp : node.parentNodeId with
      | none =>
        simp only [Option.map_some, RecursiveNode.account, hp]
        exact h1
      | some p =>
        simp only [Option.map_some, RecursiveNode.account, hp]
        refine (map_account_modify d p t.rootNodeId _ fun n => ?_).trans
          (congrArg (map _) h1)
        simp [RecursiveNode.account, ledger]

lemma ledger_endAttempt {leaseId : String} {completed : Bool}
    {reason : Option RecursiveFailureReason} :
    (t.endAttempt k leaseId completed reason).ledger d = (t.ledger d).setClosed k true := by
  refine Ledger.ext rfl rfl rfl rfl rfl (ext ?_)
  exact map_account_modify d k _ _ fun n => by cases completed <;> rfl

variable {ids : List String} {usage : RecursiveBudget} {reason : RecursiveFailureReason}

lemma ledger_failNode : (failNode reason t k).ledger d = (t.ledger d).setClosed k true := by
  unfold failNode
  cases hn : t.nodes.find? k with
  | none =>
    have ha : (t.ledger d).accounts.find? k = none := by rw [find?_accounts, hn]; rfl
    exact (Ledger.setClosed_of_none ha).symm
  | some node =>
    refine Ledger.ext rfl rfl rfl rfl rfl (ext ?_)
    exact map_account_modify d k _ _ fun n => rfl

/-- A fresh receipt and the charge it stands for. -/
lemma ledger_chargeNode (receiptId : String) :
    ((t.recordFreshUsage receiptId usage true).chargeNode k usage).ledger d =
      (t.ledger d).charge k (usage.amount d) := by
  refine Ledger.ext rfl rfl rfl ?_ ?_ (ext ?_)
  · exact RecursiveBudget.amount_add _ _ d
  · exact RecursiveBudget.amount_spend _ _ d
  · exact map_account_modify d k t.rootNodeId _ fun n => by
      simp only [RecursiveNode.account, RecursiveNode.charge, ledger, RecursiveBudget.amount_add,
        RecursiveBudget.amount_spend]
      rfl

lemma ledger_chargeRoot {receiptId : String} :
    ((t.recordFreshUsage receiptId usage false).chargeRoot usage).ledger d =
      (t.ledger d).chargeFree t.rootNodeId (usage.amount d) := by
  refine Ledger.ext rfl rfl ?_ ?_ rfl (ext ?_)
  · exact RecursiveBudget.amount_spend _ _ d
  · exact RecursiveBudget.amount_add _ _ d
  · exact map_account_modify d t.rootNodeId t.rootNodeId _ fun n => by
      simp only [RecursiveNode.account, RecursiveNode.chargeRoot, ledger,
        RecursiveBudget.amount_add, RecursiveBudget.amount_spend]
      rfl

/-- Putting a node back in the queue opens its account again. -/
lemma ledger_requeue {hf : ∀ n, (f n).nodeId = n.nodeId}
    (h : ∀ n ∈ t.nodes.rows, n.nodeId = k →
      (f n).account t.rootNodeId d = { n.account t.rootNodeId d with closed := false }) :
    ({ t with nodes := t.nodes.modify k f hf } : RecursiveTree).ledger d =
      (t.ledger d).setClosed k false := by
  refine Ledger.ext rfl rfl rfl rfl rfl (ext ?_)
  change (t.nodes.rows.map _).map _ = (t.nodes.rows.map _).map _
  rw [map_map, map_map]
  refine map_congr_left fun n hn => ?_
  by_cases hk : n.nodeId = k
  · have hk' : (n.account t.rootNodeId d).id = k := hk
    simp [comp_apply, if_pos hk, if_pos hk', h n hn hk]
  · have hk' : (n.account t.rootNodeId d).id ≠ k := hk
    simp only [comp_apply, if_neg hk, if_neg hk']

lemma ledger_foldl_failNode :
    (ids.foldl (failNode reason) t).ledger d =
      ids.foldl (fun ℓ k => ℓ.setClosed k true) (t.ledger d) := by
  induction ids generalizing t with
  | nil => rfl
  | cons k ids ih => rw [foldl_cons, foldl_cons, ih, ledger_failNode]

lemma ledger_foldl_release :
    (ids.foldl releaseNodeReservationForPersistence t).ledger d =
      ids.foldl Ledger.release (t.ledger d) := by
  induction ids generalizing t with
  | nil => rfl
  | cons k ids ih => rw [foldl_cons, foldl_cons, ih, ledger_release]

lemma ledger_closeNodes : (t.closeNodes reason ids).ledger d = (t.ledger d).closeAll ids := by
  rw [closeNodes, ledger_foldl_release, ledger_foldl_failNode]
  rfl

/-- An admission is a grant of the effective budget. -/
lemma ledger_admitUnder {x : Externals} {parent : RecursiveNode} {proposal : RecursiveProposal}
    (hroot : (t.admittedNode x parent proposal).nodeId ≠ t.rootNodeId) :
    (t.admitUnder x parent proposal).ledger d =
      (t.ledger d).grant parent.nodeId (t.admittedNode x parent proposal).nodeId
        ((t.effectiveBudget parent proposal).amount d) := by
  refine Ledger.ext rfl rfl ?_ rfl ?_ ?_
  · exact RecursiveBudget.amount_spend _ _ d
  · exact RecursiveBudget.amount_add _ _ d
  · have hchild : (t.admittedNode x parent proposal).account t.rootNodeId d =
        Ledger.opened parent.nodeId (t.admittedNode x parent proposal).nodeId
          ((t.effectiveBudget parent proposal).amount d) := by
      simp [RecursiveNode.account, Ledger.opened, hroot]
      simp [admittedNode, RecursiveNodeStatus.terminal]
    have hparent : (t.nodes.modify parent.nodeId fun entry =>
          entry.grantChild (t.effectiveBudget parent proposal)).map
          (RecursiveNode.account t.rootNodeId d) =
        (t.ledger d).accounts.modify parent.nodeId fun a =>
          { a with kidLeft := a.kidLeft - (t.effectiveBudget parent proposal).amount d } := by
      refine ext (map_account_modify d parent.nodeId t.rootNodeId _ fun n => ?_)
      simp only [RecursiveNode.account, RecursiveNode.grantChild, RecursiveBudget.amount_spend]
      rfl
    have hid : ∀ n : RecursiveNode, (n.account t.rootNodeId d).id = n.nodeId := fun _ => rfl
    have hins := (t.nodes.modify parent.nodeId fun entry =>
        entry.grantChild (t.effectiveBudget parent proposal)).map_insert
      (RecursiveNode.account t.rootNodeId d) hid (t.admittedNode x parent proposal)
    rw [hparent, hchild] at hins
    exact hins

end RecursiveTree

end Harness
