import Harness.Lib.TableRel
import Harness.Sanity.Frozen
import Mathlib.Algebra.Order.BigOperators.Group.Finset

/-! How much longer the text of a tree gets while its shape stays: a counter has at most twenty
digits, a version grows by one with each change, and leases only go. -/

namespace Harness

open Lib List Table

namespace Json

lemma length_bytes (s : String) : (bytes s).length = s.utf8ByteSize := by
  unfold bytes
  rfl

lemma length_number (n : ℕ) : (number n).length = (Nat.toDigits 10 n).length := by
  have hlen : ∀ l : List Char, (∀ c ∈ l, c.isDigit = true) → String.utf8Len l = l.length := by
    intro l
    induction l with
    | nil => exact fun _ => rfl
    | cons c l ih =>
      intro hall
      obtain ⟨hc, hl⟩ := forall_mem_cons.mp hall
      have hsize : c.utf8Size = 1 := by
        rw [Char.utf8Size_eq_one_iff]
        simp only [Char.isDigit, Bool.and_eq_true, decide_eq_true_eq] at hc
        exact UInt32.le_trans hc.2 (by decide)
      simp [String.utf8Len, ih hl, hsize]
  rw [number, length_bytes, Nat.repr_eq_ofList_toDigits, String.utf8ByteSize_ofList]
  exact hlen _ fun c hc => Nat.isDigit_of_mem_toDigits (by decide) (by decide) hc

lemma length_number_le {a b : ℕ} (h : a ≤ b + 99) : (number a).length ≤ (number b).length + 2 := by
  have hlt : b < 10 ^ (Nat.toDigits 10 b).length :=
    (Nat.length_toDigits_le_iff (by decide) Nat.length_toDigits_pos).mp le_rfl
  rw [length_number, length_number, Nat.length_toDigits_le_iff (by decide) (by omega), pow_add]
  have hpos : 1 ≤ 10 ^ (Nat.toDigits 10 b).length := Nat.one_le_pow _ _ (by decide)
  omega

lemma length_budget_le (b : RecursiveBudget) : (bytes b.toJson).length ≤ 166 := by
  have hdigits : ∀ d, (b.amount d).repr.utf8ByteSize ≤ 20 := by
    intro d
    have hmax : u64Max < 10 ^ 20 := of_decide_eq_true rfl
    rw [← length_bytes, ← number, length_number, Nat.length_toDigits_le_iff (by decide) (by decide)]
    exact lt_of_le_of_lt (b.amount_le d) hmax
  obtain ⟨hcalls, htokens, hcost, htime⟩ := RecursiveBudget.forall_dim.mp hdigits
  have h1 : "\x7b\"calls_remaining\":".utf8ByteSize = 19 := by decide
  have h2 : ",\"tokens_remaining\":".utf8ByteSize = 20 := by decide
  have h3 : ",\"cost_micros_remaining\":".utf8ByteSize = 25 := by decide
  have h4 : ",\"time_ms_remaining\":".utf8ByteSize = 21 := by decide
  have h5 : "\x7d".utf8ByteSize = 1 := by decide
  simp only [RecursiveBudget.amount] at hcalls htokens hcost htime
  rw [length_bytes]
  unfold RecursiveBudget.toJson
  simp only [String.utf8ByteSize_append]
  rw [h1, h2, h3, h4, h5]
  omega

lemma length_text_le (s : String) : (text s).length ≤ 6 * s.utf8ByteSize + 2 := by
  have hescape : ∀ b, (escape b).length ≤ 6 := by
    intro b
    unfold escape
    split_ifs <;> simp [length_bytes] <;> decide
  have hflat : ∀ l : List UInt8, (l.flatMap escape).length ≤ 6 * l.length := by
    intro l
    induction l with
    | nil => exact le_rfl
    | cons b l ih =>
      have := hescape b
      simp only [flatMap_cons, length_append, length_cons]
      omega
  have := hflat (bytes s)
  simp only [text, length_cons, length_append, length_nil]
  rw [length_bytes] at this
  omega

lemma length_receipt (within : Bool) (usage : RecursiveBudget) :
    (text (RecursiveTree.receiptText within usage)).length ≤ 1010 := by
  have hsize : (RecursiveTree.receiptText within usage).utf8ByteSize ≤ 168 := by
    have hlen := length_budget_le usage
    rw [length_bytes] at hlen
    rw [RecursiveTree.receiptText, String.utf8ByteSize_append]
    cases within
    · exact Nat.add_le_add_left hlen 2
    · exact Nat.add_le_add_left hlen 2
  have := length_text_le (RecursiveTree.receiptText within usage)
  omega

lemma length_commaSeparated (items : List (List UInt8)) :
    (commaSeparated items).length = (items.map (·.length + 1)).sum - 1 := by
  fun_induction commaSeparated items with
  | case1 => rfl
  | case2 item => simp
  | case3 item rest hrest ih =>
    cases rest with
    | nil => exact absurd rfl (hrest ·)
    | cons first rest =>
      simp only [length_append, length_cons, ih, map_cons, sum_cons]
      omega

lemma length_object (fields : List (String × List UInt8)) :
    (object fields).length =
      (fields.map fun f => (text f.1).length + f.2.length + 2).sum - 1 + 2 := by
  have hsum : (fun f : String × List UInt8 => (text f.1 ++ 58 :: f.2).length + 1) =
      fun f => (text f.1).length + f.2.length + 2 := by
    funext f
    rw [length_append, length_cons]
    omega
  rw [object, length_cons, length_append, length_commaSeparated, map_map]
  exact congrArg (fun g => (fields.map g).sum - 1 + 2) hsum

lemma coe_sorted (s : Finset String) : (sorted s : Multiset String) = s.1 := by
  obtain ⟨s, hs⟩ := s
  induction s using Quot.ind with
  | mk l => exact Quot.sound (l.perm_insertionSort _)

lemma length_textSet_le {s s' : Finset String} (h : s' ⊆ s) :
    (textSet s').length ≤ (textSet s).length := by
  have hlen : ∀ s, (textSet s).length = s.sum (fun a => (text a).length + 1) - 1 + 2 := by
    intro s
    rw [textSet, array, length_cons, length_append, length_commaSeparated, map_map]
    have hsum := congrArg (fun m => (m.map fun a => (text a).length + 1).sum) (coe_sorted s)
    exact congrArg (fun n => n - 1 + 2) hsum
  have := Finset.sum_le_sum_of_subset (f := fun a => (text a).length + 1) h
  rw [hlen, hlen]
  omega

lemma length_status_le (status : RecursiveNodeStatus) : (text status.asStr).length ≤ 11 := by
  cases status <;> decide

lemma length_reason_le (reason : Option RecursiveFailureReason) :
    (reason.elim (bytes "null") RecursiveFailureReason.json).length ≤ 36 := by
  rcases reason with _ | (_ | _) <;> decide

lemma length_state_le (state : RecursiveExecutionState) : state.json.length ≤ 18 := by
  cases state <;> decide

lemma length_lease_le {a b : Option String} (h : a = none ∨ a = b) :
    (textOrNull a).length ≤ (textOrNull b).length + 4 := by
  rcases h with rfl | rfl
  · exact Nat.le_add_left 4 _
  · exact Nat.le_add_right _ 4

end Json

open Json

/-- The same node up to its counters, at most `c` changes later. -/
structure RecursiveNode.Stretched (c : ℕ) (n m : RecursiveNode) : Prop where
  frozen : m.frozen = n.frozen
  version : m.version ≤ n.version + c
  retries : m.retryCount ≤ n.retryCount + c
  lease : m.leaseId = none ∨ m.leaseId = n.leaseId

namespace RecursiveNode.Stretched

variable {c c' : ℕ} {n m l : RecursiveNode}

lemma refl (n : RecursiveNode) : Stretched c n n :=
  ⟨rfl, Nat.le_add_right _ _, Nat.le_add_right _ _, .inr rfl⟩

lemma trans (h : Stretched c n m) (h' : Stretched c' m l) : Stretched (c + c') n l where
  frozen := h'.frozen.trans h.frozen
  version := by have := h.version; have := h'.version; omega
  retries := by have := h.retries; have := h'.retries; omega
  lease := by
    rcases h'.lease with hnone | hsame
    · exact .inl hnone
    · rw [hsame]
      exact h.lease

lemma json_length_le (h : Stretched 99 n m) :
    m.nodeId = n.nodeId ∧ m.json.length ≤ n.json.length + 719 := by
  obtain ⟨hfrozen, hversion, hretries, hlease⟩ := h
  have hbudget := length_budget_le m.budget
  have hchildBudget := length_budget_le m.childBudget
  have hreservation := length_budget_le m.reservation
  have husage := length_budget_le m.actualUsage
  have hstatus := length_status_le m.status
  have hreason := length_reason_le m.failureReason
  have hversion := length_number_le hversion
  have hretries := length_number_le hretries
  have hlease := length_lease_le hlease
  cases n
  cases m
  simp only [RecursiveNode.frozen, RecursiveNode.shell, RecursiveNode.mk.injEq,
    true_and] at hfrozen
  obtain ⟨rfl, rfl, rfl, rfl, rfl, rfl, rfl, rfl, rfl, rfl, rfl, rfl, rfl, rfl, rfl⟩ := hfrozen
  refine ⟨rfl, ?_⟩
  simp only [json, length_object, map_cons, map_nil, sum_cons, sum_nil]
  dsimp only at *
  omega

end RecursiveNode.Stretched

namespace RecursiveTree

open RecursiveNode

/-- At most `c` changes later, with no new node and no new lease. -/
structure Grown (c : ℕ) (t s : RecursiveTree) : Prop where
  rows : t.nodes.Rel (Stretched c) s.nodes
  version : s.version ≤ t.version + c
  leases : s.activeLeases ⊆ t.activeLeases

variable {c c' : ℕ} {t s u : RecursiveTree} {k : String}

namespace Grown

lemma of_nodes (h : s.nodes = t.nodes) (hv : s.version ≤ t.version + c)
    (hl : s.activeLeases ⊆ t.activeLeases) : Grown c t s := by
  refine ⟨?_, hv, hl⟩
  rw [h]
  exact .refl .refl _

lemma refl (c : ℕ) (t : RecursiveTree) : Grown c t t :=
  of_nodes rfl (Nat.le_add_right _ _) (Finset.Subset.refl _)

lemma of_modify {f : RecursiveNode → RecursiveNode}
    (h : s.nodes.rows = t.nodes.rows.map fun n => if n.nodeId = k then f n else n)
    (hf : ∀ n, Stretched c n (f n)) (hv : s.version ≤ t.version + c)
    (hl : s.activeLeases ⊆ t.activeLeases) : Grown c t s :=
  ⟨.of_modify h .refl fun n _ => hf n, hv, hl⟩

lemma trans (h : Grown c t s) (h' : Grown c' s u) : Grown (c + c') t u where
  rows := Rel.trans (S := Stretched c') (fun _ _ _ => Stretched.trans) h.rows h'.rows
  version := by have := h.version; have := h'.version; omega
  leases := h'.leases.trans h.leases

lemma mono (h : Grown c t s) (hc : c ≤ c') : Grown c' t s := by
  have hmore := h.trans (.refl (c' - c) s)
  rwa [Nat.add_sub_cancel' hc] at hmore

lemma size (h : Grown c t s) : s.nodes.size = t.nodes.size := (Forall₂.length_eq h.rows).symm

lemma bumpVersion (h : Grown c t s) : Grown (c + 1) t s.bumpVersion :=
  h.trans (.of_nodes rfl le_rfl (Finset.Subset.refl _))

end Grown

lemma grown_chargeNode (t : RecursiveTree) (k : String) (usage : RecursiveBudget) :
    Grown 0 t (t.chargeNode k usage) :=
  .of_modify (k := k) rfl (fun _ => ⟨rfl, le_rfl, le_rfl, .inr rfl⟩) le_rfl (Finset.Subset.refl _)

lemma grown_bumpNode (t : RecursiveTree) (k : String) : Grown 1 t (t.bumpNode k) :=
  .of_modify (k := k) rfl (fun _ => ⟨rfl, le_rfl, Nat.le_succ _, .inr rfl⟩) (Nat.le_succ _)
    (Finset.Subset.refl _)

lemma grown_endAttempt (t : RecursiveTree) (k leaseId : String) (completed : Bool)
    (reason : Option RecursiveFailureReason) :
    Grown 1 t (t.endAttempt k leaseId completed reason) :=
  .of_modify (k := k) rfl (fun _ => ⟨rfl, le_rfl, Nat.le_succ _, .inl rfl⟩) (Nat.le_succ _)
    (Finset.erase_subset _ _)

lemma grown_failNode {reason : RecursiveFailureReason} : Grown 1 t (failNode reason t k) := by
  unfold failNode
  cases t.nodes.find? k with
  | none => exact .refl 1 t
  | some node =>
    have hl : node.leaseId.elim t.activeLeases t.activeLeases.erase ⊆ t.activeLeases := by
      cases node.leaseId with
      | none => exact Finset.Subset.refl _
      | some leaseId => exact Finset.erase_subset _ _
    exact .of_modify (k := k) rfl (fun _ => ⟨rfl, le_rfl, Nat.le_succ _, .inl rfl⟩)
      (Nat.le_succ _) hl

lemma grown_release : Grown 1 t (t.releaseNodeReservationForPersistence k) := by
  unfold releaseNodeReservationForPersistence
  cases t.nodes.find? k with
  | none => exact .refl 1 t
  | some node =>
    have h1 : Grown 0 t { t with
        nodes := t.nodes.modify k (fun n => { n with reservation := .zero }) nodeId_emptied } :=
      .of_modify (k := k) rfl (fun _ => ⟨rfl, le_rfl, le_rfl, .inr rfl⟩) le_rfl
        (Finset.Subset.refl _)
    dsimp only
    cases node.parentNodeId with
    | none => exact ⟨(h1.mono (Nat.zero_le 1)).rows, le_rfl, Finset.Subset.refl _⟩
    | some parent =>
      refine h1.trans (?_ : Grown 1 _ _)
      refine .of_modify (k := parent) (f := fun n => { n with
        childBudget := n.childBudget.add node.reservation, version := n.version + 1 }) rfl ?_
        le_rfl (Finset.Subset.refl _)
      exact fun n => ⟨rfl, le_rfl, Nat.le_succ _, .inr rfl⟩

lemma grown_closeNodes {reason : RecursiveFailureReason} {p : RecursiveNode → Bool} :
    Grown (2 * t.nodes.size) t (t.closeNodes reason (t.liveIds p)) := by
  have hfold : ∀ (f : RecursiveTree → String → RecursiveTree) (_ : ∀ s k, Grown 1 s (f s k))
      (ids : List String) (s : RecursiveTree), Grown ids.length s (ids.foldl f s) := by
    intro f hf ids
    induction ids with
    | nil => exact fun s => .refl 0 s
    | cons k ids ih =>
      intro s
      have := (hf s k).trans (ih (f s k))
      rwa [Nat.add_comm] at this
  have hlen : (t.liveIds p).length ≤ t.nodes.size := by
    unfold liveIds
    rw [length_map]
    exact length_filter_le _ _
  have hfails := hfold (failNode reason) (fun _ _ => grown_failNode) (t.liveIds p) t
  have hreleases := hfold releaseNodeReservationForPersistence (fun _ _ => grown_release)
    (t.liveIds p) ((t.liveIds p).foldl (failNode reason) t)
  exact (hfails.trans hreleases).mono (by omega)

lemma grown_exhaust : Grown (2 * t.nodes.size + 1) t (t.exhaust k) := by
  have h1 : Grown 0 t { t with executionState := .budgetExhausted } :=
    .of_nodes rfl le_rfl (Finset.Subset.refl _)
  have h2 : Grown (2 * t.nodes.size) t ({ t with executionState := .budgetExhausted }.closeNodes
      .treeBudgetExhausted ({ t with executionState := .budgetExhausted }.remainingNodes k)) :=
    (h1.trans grown_closeNodes).mono (by rw [Nat.zero_add])
  unfold exhaust terminalizeRemainingNodes
  dsimp only
  split_ifs
  · exact h2.mono (Nat.le_succ _)
  · exact h2.bumpVersion

lemma grown_finalizeVerdict : Grown 1 t t.finalizeVerdict := by
  unfold finalizeVerdict
  split
  · exact .of_nodes rfl le_rfl (Finset.Subset.refl _)
  · exact .refl 1 t

lemma grown_finalize {failed : Option String} :
    Grown (2 * t.nodes.size + 1) t (t.finalizeTerminalTree failed) := by
  unfold finalizeTerminalTree
  split_ifs
  · exact .refl _ t
  · cases failed with
    | none => exact grown_finalizeVerdict.mono (Nat.le_add_left 1 _)
    | some k => exact grown_closeNodes.trans grown_finalizeVerdict

lemma grown_recordFreshUsage {receiptId : String} {usage : RecursiveBudget} {consumes : Bool} :
    Grown 1 t (t.recordFreshUsage receiptId usage consumes) := by
  refine .of_nodes rfl ?_ (Finset.Subset.refl _)
  unfold recordFreshUsage
  dsimp only
  split_ifs <;> omega

variable {receiptId : String} {usage : RecursiveBudget} {within : Bool}

variable (t receiptId) in
/-- The tree's text leaves room for one more receipt. -/
def Room : Prop := t.json.length + (text receiptId).length + 10158 ≤ maxRecursiveTreeBytes

/-- What one more receipt and changes of nothing but counters, statuses, reasons and leases add to
the text of a tree. -/
lemma Room.json_le (hroom : t.Room receiptId) (h : Grown 99 t s) (hs : SameShape s t)
    (hsize : t.nodes.size ≤ maxRecursiveNodesPerRoot)
    (hf : t.usageReceipts.find? receiptId = none)
    (hu : s.usageReceipts = t.usageReceipts.insert (receiptId, receiptText within usage)) :
    s.json.length ≤ maxRecursiveTreeBytes := by
  have hnodes : (s.nodes.rows.map fun n => (text n.nodeId).length + n.json.length + 2).sum ≤
      (t.nodes.rows.map fun n => (text n.nodeId).length + n.json.length + 2).sum +
        719 * t.nodes.rows.length := by
    have hrows : Forall₂ (Stretched 99) t.nodes.rows s.nodes.rows := h.rows
    generalize t.nodes.rows = rows at hrows ⊢
    generalize s.nodes.rows = rows' at hrows ⊢
    induction hrows with
    | nil => exact le_rfl
    | cons hnm _ ih =>
      obtain ⟨hid, hlen⟩ := hnm.json_length_le
      simp only [map_cons, sum_cons, length_cons, hid]
      omega
  have hreceipt := length_receipt within usage
  have hreceipts := t.usageReceipts.sum_insert_of_new
    (fun r => (text r.1).length + (text r.2).length + 2)
    (a := (receiptId, receiptText within usage)) hf
  rw [← hu] at hreceipts
  have hbudget := length_budget_le s.rootBudget
  have hspent := length_budget_le s.spentBudget
  have hreserved := length_budget_le s.reservedBudget
  have hstate := length_state_le s.executionState
  have hversion := length_number_le h.version
  have hleases := length_textSet_le h.leases
  refine le_trans ?_ hroom
  clear hroom
  cases s
  cases t
  simp only [SameShape, RecursiveTree.frozen, RecursiveTree.shell, RecursiveTree.mk.injEq,
    true_and, and_true] at hs
  obtain ⟨rfl, rfl, rfl, rfl, rfl, rfl, rfl, rfl, rfl, rfl, rfl, rfl, rfl, -, rfl, rfl, rfl⟩ := hs
  simp only [RecursiveTree.json, length_object, map_cons, map_nil, sum_cons, sum_nil, map_map,
    Function.comp_def]
  dsimp only [Table.size, maxRecursiveNodesPerRoot] at *
  omega

end RecursiveTree

end Harness
