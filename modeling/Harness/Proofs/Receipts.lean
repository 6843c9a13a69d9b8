import Harness.Lib.KeyedList
import Harness.Proofs.LateUsage

/-! Usage receipts are charged once: whatever is delivered, in whatever order and
however often, a receipt is charged when it is recorded and never again. -/

namespace Harness

open Lib Table RecursiveBudget RecursiveTree Prod

variable {within : Bool}
variable {a b : ℕ}

/-- A number in front of a character that is no digit. -/
lemma digits_append_inj {c : Char} {r r' : List Char} (hc : c.isDigit = false)
    (h : Nat.toDigits 10 a ++ c :: r = Nat.toDigits 10 b ++ c :: r') : a = b ∧ r = r' := by
  have hnot : ∀ n, c ∉ Nat.toDigits 10 n := by
    intro n hm
    rw [Nat.isDigit_of_mem_toDigits (by decide) (by decide) hm] at hc
    cases hc
  obtain ⟨h1, h2⟩ := KeyedList.append_cons_inj (hnot a) (hnot b) h
  refine ⟨?_, h2⟩
  rw [← Nat.ofDigitChars_ten_toDigits (n := a), h1, Nat.ofDigitChars_ten_toDigits]

/-- A number in front of a text that starts with no digit. -/
lemma digits_text_inj {text : String} {r r' : List Char}
    (ht : (text.toList.head?.any (!·.isDigit)) = true)
    (h : Nat.toDigits 10 a ++ (text.toList ++ r) = Nat.toDigits 10 b ++ (text.toList ++ r')) :
    a = b ∧ r = r' := by
  cases hl : text.toList with
  | nil =>
    rw [hl] at ht
    cases ht
  | cons c l =>
    rw [hl] at ht h
    obtain ⟨h1, h2⟩ := digits_append_inj (by simpa using ht) h
    exact ⟨h1, List.append_cancel_left h2⟩

lemma toList_numbers {p q r s e : String} {c d : ℕ} :
    (p ++ a.repr ++ q ++ b.repr ++ r ++ c.repr ++ s ++ d.repr ++ e).toList =
      p.toList ++ (Nat.toDigits 10 a ++ (q.toList ++ (Nat.toDigits 10 b ++ (r.toList ++
        (Nat.toDigits 10 c ++ (s.toList ++ (Nat.toDigits 10 d ++ (e.toList ++ [])))))))) := by
  simp

lemma RecursiveBudget.toJson_injective {a b : RecursiveBudget} (h : a.toJson = b.toJson) :
    a = b := by
  have hl : a.toJson.toList = b.toJson.toList := by rw [h]
  unfold toJson at hl
  rw [toList_numbers, toList_numbers] at hl
  obtain ⟨h1, hl⟩ := digits_text_inj (by rfl) (List.append_cancel_left hl)
  obtain ⟨h2, hl⟩ := digits_text_inj (by rfl) hl
  obtain ⟨h3, hl⟩ := digits_text_inj (by rfl) hl
  obtain ⟨h4, -⟩ := digits_text_inj (by rfl) hl
  refine eq_of_amount fun d => ?_
  cases d with
  | calls => exact h1
  | tokens => exact h2
  | costMicros => exact h3
  | timeMs => exact h4

lemma stripPrefix_eq_some {pre s r : String} : stripPrefix pre s = some r ↔ s = pre ++ r := by
  rw [← String.toList_inj, String.toList_append]
  unfold stripPrefix
  constructor
  · intro h
    split_ifs at h with hp
    obtain ⟨l, hl⟩ := hp
    rw [← hl, List.drop_left, Option.some.injEq] at h
    rw [← hl, ← h, String.toList_ofList]
  · intro h
    rw [h, if_pos (List.prefix_append _ _), List.drop_left, String.ofList_toList]

/-- A recorded receipt answers only to the usage it was recorded with. -/
lemma recordedVerdict_eq_ok {previous : String} {usage : RecursiveBudget}
    (h : recordedVerdict previous usage.toJson = .ok within) :
    previous = receiptText within usage := by
  unfold recordedVerdict at h
  split_ifs at h with h1 h2
  · cases h
    exact stripPrefix_eq_some.mp h1
  · cases h
    exact stripPrefix_eq_some.mp h2

lemma receiptText_injective {within' : Bool} {usage usage' : RecursiveBudget}
    (h : receiptText within usage = receiptText within' usage') :
    usage = usage' := by
  have hl : (receiptText within usage).toList =
      (receiptText within' usage').toList := by rw [h]
  unfold receiptText at hl
  rw [String.toList_append, String.toList_append] at hl
  have hlen : ∀ b : Bool, (if b then "1:" else "0:").toList.length = 2 := by decide
  have htail := (List.append_inj hl (by rw [hlen, hlen])).2
  exact toJson_injective (String.toList_inj.mp htail)

/-- A call that brings measured usage with a receipt. -/
inductive UsageDelivery where
  | node (nodeId leaseId receiptId : String) (success : Bool) (usage : RecursiveBudget)
  | root (leaseId receiptId : String) (success : Bool) (usage : RecursiveBudget)
  | late (nodeId receiptId : String) (usage : RecursiveBudget)
  | rootLate (receiptId : String) (usage : RecursiveBudget)

namespace UsageDelivery

def receiptId : UsageDelivery → String
  | node _ _ receiptId _ _ | root _ receiptId _ _ | late _ receiptId _ | rootLate receiptId _ =>
    receiptId

def usage : UsageDelivery → RecursiveBudget
  | node _ _ _ _ usage | root _ _ _ usage | late _ _ usage | rootLate _ usage => usage

/-- The tree the call leaves and whether it succeeded. -/
def deliver (op : UsageDelivery) (t : RecursiveTree) : Bool × RecursiveTree :=
  match op with
  | node nodeId leaseId receiptId success usage =>
    let r := t.completeNodeWithUsageReceipt nodeId leaseId receiptId success usage
    (r.1.isOk, r.2)
  | root leaseId receiptId success usage =>
    let r := t.completeRootWithUsageReceipt leaseId receiptId success usage
    (r.1.isOk, r.2)
  | late nodeId receiptId usage =>
    let r := t.recordLateUsage nodeId receiptId usage
    (r.1.isOk, r.2)
  | rootLate receiptId usage =>
    let r := t.recordRootLateUsage receiptId usage
    (r.1.isOk, r.2)

end UsageDelivery

namespace RecursiveTree

variable {t : RecursiveTree}

def OnRecord (t : RecursiveTree) (receiptId : String) (usage : RecursiveBudget) : Prop :=
  ∃ within, t.usageReceipts.find? receiptId = some (receiptId, receiptText within usage)

/-- Every budget counter of the tree. -/
def counters (t : RecursiveTree) :=
  (t.rootBudget, t.reservedBudget, t.spentBudget, t.nodes.rows.map fun n =>
    (n.nodeId, n.budget, n.childBudget, n.reservation, n.actualUsage))

/-- The counters of `t'` are those of `t` after closing some live children. -/
def ClosedFrom (t t' : RecursiveTree) : Prop :=
  ∃ (s : RecursiveTree) (reason : RecursiveFailureReason) (ids : List String),
    s.counters = t.counters ∧
    (∀ j ∈ ids, ∃ n, s.nodes.find? j = some n ∧ n.live = true ∧ n.parentNodeId.isSome = true) ∧
    t'.counters = (s.closeNodes reason ids).counters

variable {success : Bool} {u usage : RecursiveBudget} {node root : RecursiveNode}
  {s t' : RecursiveTree} {k leaseId r receiptId : String} {previous : String × String}

lemma spending_eq_of_counters (h : s.counters = t.counters) : s.spending = t.spending := by
  have key : ∀ r : RecursiveTree, r.spending = (r.counters.2.2.1,
      r.counters.2.2.2.map fun c => (c.1, c.2.2.2.2)) := by
    intro r
    simp only [spending, counters, List.map_map]
    rfl
  rw [key, key, h]

lemma ClosedFrom.spending (h : ClosedFrom t t') : t'.spending = t.spending := by
  obtain ⟨s, reason, ids, hs, -, ht⟩ := h
  rw [spending_eq_of_counters ht, spending_closeNodes, spending_eq_of_counters hs]

lemma ClosedFrom.of_counters (h : t'.counters = t.counters) : ClosedFrom t t' :=
  ⟨t, .terminalFailed, [], rfl, by simp, h⟩

lemma counters_endAttempt (t : RecursiveTree) (leaseId : String) {completed : Bool}
    {reason : Option RecursiveFailureReason} :
    (t.endAttempt k leaseId completed reason).counters = t.counters := by
  unfold counters endAttempt
  rw [map_modify t.nodes k (fun n => n.finish completed reason) (fun _ => rfl)
    fun _ _ => rfl]

/-- Stopping a tree closes its remaining children. -/
lemma ClosedFrom.terminalize (hs : s.counters = t.counters) (exceptNodeId : Option String)
    (reason : RecursiveFailureReason) :
    ClosedFrom t (s.terminalizeRemainingNodes exceptNodeId reason).bumpVersion := by
  refine ⟨s, reason, s.remainingNodes exceptNodeId, hs, fun j hj => ?_, ?_⟩
  · obtain ⟨n, hn, rfl⟩ := List.mem_map.mp hj
    obtain ⟨hm, hp⟩ := List.mem_filter.mp hn
    simp only [Bool.and_eq_true] at hp
    exact ⟨n, s.nodes.find?_key hm, hp.1, hp.2.1⟩
  · unfold terminalizeRemainingNodes
    dsimp only
    split_ifs <;> rfl

/-! The end of an attempt, whether its receipt is new or not. -/

variable (t node k leaseId) in
def nodeEnded (success within : Bool) : RecursiveTree :=
  let t' := t.endAttempt k leaseId (success && within) (nodeFailureReason node success within)
  (if within then t' else t'.exhaust k).bumpVersion

def rootEnded (t : RecursiveTree) (leaseId : String) (success within : Bool) : RecursiveTree :=
  let rootId := t.rootNodeId
  let t' := t.endAttempt rootId leaseId (success && within) (rootFailureReason success within)
  let t' := if !within then t'.exhaust rootId
    else if !success then
      { t' with executionState := .terminalFailed }.terminalizeRemainingNodes (some rootId)
        .terminalFailed
    else t'
  let t' := t'.bumpVersion
  if success && within then t'.finalizeTerminalTree none else t'

lemma closedFrom_nodeEnded : ClosedFrom t (t.nodeEnded node k leaseId success within) := by
  cases within with
  | true => exact .of_counters (counters_endAttempt t leaseId)
  | false =>
    refine ClosedFrom.terminalize ?_ (some k) .treeBudgetExhausted
    exact counters_endAttempt t leaseId

lemma closedFrom_rootEnded (t : RecursiveTree) (leaseId : String) (success within : Bool) :
    ClosedFrom t (t.rootEnded leaseId success within) := by
  cases within with
  | false =>
    have h := ClosedFrom.terminalize (t := t)
      (s := { t.endAttempt t.rootNodeId leaseId (success && false) (rootFailureReason success false) with
        executionState := .budgetExhausted })
      (counters_endAttempt t leaseId) (some t.rootNodeId) .treeBudgetExhausted
    cases success <;> exact h
  | true =>
    cases success with
    | false =>
      exact ClosedFrom.terminalize (t := t)
        (s := { t.endAttempt t.rootNodeId leaseId false (rootFailureReason false true) with
          executionState := .terminalFailed })
        (counters_endAttempt t leaseId) (some t.rootNodeId) .terminalFailed
    | true =>
      refine .of_counters ?_
      have hv : ∀ s : RecursiveTree, (s.finalizeTerminalTree none).counters = s.counters := by
        intro s
        unfold finalizeTerminalTree finalizeVerdict
        split_ifs <;> rfl
      exact (hv _).trans (counters_endAttempt t leaseId)

def rootCharged (t : RecursiveTree) (receiptId : String) (usage : RecursiveBudget) :
    RecursiveTree :=
  (t.recordFreshUsage receiptId usage false).chargeRoot usage

lemma usageReceipts_terminalize {exceptNodeId : Option String} {reason : RecursiveFailureReason} :
    (t.terminalizeRemainingNodes exceptNodeId reason).usageReceipts = t.usageReceipts :=
  alike_terminalize.usageReceipts

lemma usageReceipts_nodeEnded :
    (t.nodeEnded node k leaseId success within).usageReceipts = t.usageReceipts := by
  cases within with
  | true => rfl
  | false => exact usageReceipts_terminalize

lemma usageReceipts_rootEnded (t : RecursiveTree) (leaseId : String) (success within : Bool) :
    (t.rootEnded leaseId success within).usageReceipts = t.usageReceipts := by
  cases within with
  | true =>
    cases success with
    | true =>
      change (finalizeTerminalTree _ none).usageReceipts = _
      rw [usageReceipts_finalize]
      rfl
    | false => exact usageReceipts_terminalize
  | false => cases success <;> exact usageReceipts_terminalize

lemma completeRoot_fresh (hn : t.nodes.find? t.rootNodeId = some root)
    (hp : root.parentNodeId = none) (hl : root.leaseId = some leaseId) (hs : root.status = .leased)
    (hf : t.usageReceipts.find? receiptId = none) :
    t.completeRootWithUsageReceipt leaseId receiptId success usage =
      (.ok (), (t.rootCharged receiptId usage).rootEnded leaseId success
        (root.budget.canSpend usage && t.withinTreeBudget usage false)) := by
  simp only [completeRootWithUsageReceipt, hn, hp, hl, hs, RecursiveNodeStatus.terminal,
    recordUnreservedUsage, recordUsageInternal, hf, contains, Option.isSome_none,
    Bool.false_eq_true, if_false, ne_eq, not_true_eq_false, or_self, Bool.false_or]
  rfl

lemma completeRoot_known (hn : t.nodes.find? t.rootNodeId = some root)
    (hp : root.parentNodeId = none) (hl : root.leaseId = some leaseId) (hs : root.status = .leased)
    (hf : t.usageReceipts.find? receiptId = some previous)
    (hv : recordedVerdict previous.2 usage.toJson = .ok within) :
    t.completeRootWithUsageReceipt leaseId receiptId success usage =
      (.ok (), t.rootEnded leaseId success within) := by
  simp only [completeRootWithUsageReceipt, hn, hp, hl, hs, RecursiveNodeStatus.terminal,
    recordUnreservedUsage, recordUsageInternal, hf, contains, hv, Option.isSome_none,
    Option.isSome_some, Bool.false_eq_true, if_false, if_true, ne_eq, not_true_eq_false, or_self,
    Bool.true_or, Bool.true_and]
  rfl

lemma completeNode_known (hn : t.nodes.find? k = some node)
    (hl : node.leaseId = some leaseId) (hf : t.usageReceipts.find? receiptId = some previous)
    (hv : recordedVerdict previous.2 usage.toJson = .ok within) :
    t.completeNodeWithUsageReceipt k leaseId receiptId success usage =
      (.ok (), t.nodeEnded node k leaseId success within) := by
  simp only [completeNodeWithUsageReceipt, hn, hl, recordUsage, recordUsageInternal, hf,
    contains, hv, Option.isSome_some, ne_eq, not_true_eq_false, if_false, if_true,
    Bool.true_or, Bool.true_and]
  rfl

lemma onRecord_of_verdict
    (hf : t.usageReceipts.find? receiptId = some previous)
    (hv : recordedVerdict previous.2 usage.toJson = .ok within) : t.OnRecord receiptId usage := by
  refine ⟨within, ?_⟩
  rw [hf, ← recordedVerdict_eq_ok hv, ← key_of_find? hf]

lemma completeNode_cases (t : RecursiveTree) (k leaseId receiptId : String) (success : Bool)
    (usage : RecursiveBudget) :
    (∃ reason,
        t.completeNodeWithUsageReceipt k leaseId receiptId success usage = (.error reason, t)) ∨
      ∃ node, t.nodes.find? k = some node ∧ node.leaseId = some leaseId ∧
        ((t.usageReceipts.find? receiptId = none ∧
            t.completeNodeWithUsageReceipt k leaseId receiptId success usage =
              (.ok (), t.afterAttempt node k leaseId receiptId success usage)) ∨
          ∃ previous within, t.usageReceipts.find? receiptId = some previous ∧
            recordedVerdict previous.2 usage.toJson = .ok within ∧
            t.completeNodeWithUsageReceipt k leaseId receiptId success usage =
              (.ok (), t.nodeEnded node k leaseId success within)) := by
  cases hn : t.nodes.find? k with
  | none => exact .inl ⟨.staleParent, by simp [completeNodeWithUsageReceipt, hn]⟩
  | some node =>
    by_cases hl : node.leaseId = some leaseId
    · cases hf : t.usageReceipts.find? receiptId with
      | none =>
        exact .inr ⟨node, rfl, hl, .inl ⟨rfl, completeNode_fresh hn hl hf⟩⟩
      | some previous =>
        cases hv : recordedVerdict previous.2 usage.toJson with
        | error reason =>
          refine .inl ⟨reason, ?_⟩
          simp only [completeNodeWithUsageReceipt, hn, hl, recordUsage, recordUsageInternal, hf, hv,
            ne_eq, not_true_eq_false, if_false]
        | ok within =>
          exact .inr ⟨node, rfl, hl, .inr ⟨previous, within, rfl, hv,
            completeNode_known hn hl hf hv⟩⟩
    · refine .inl ⟨.receiptConflict, ?_⟩
      simp [completeNodeWithUsageReceipt, hn, hl]

lemma completeRoot_cases (t : RecursiveTree) (leaseId receiptId : String) (success : Bool)
    (usage : RecursiveBudget) :
    (∃ reason,
        t.completeRootWithUsageReceipt leaseId receiptId success usage = (.error reason, t)) ∨
      ((∃ root, t.nodes.find? t.rootNodeId = some root ∧ root.status.terminal = true) ∧
        t.OnRecord receiptId usage ∧
        t.completeRootWithUsageReceipt leaseId receiptId success usage = (.ok (), t)) ∨
      ∃ root, t.nodes.find? t.rootNodeId = some root ∧ root.parentNodeId = none ∧
        root.leaseId = some leaseId ∧ root.status = .leased ∧
        ((t.usageReceipts.find? receiptId = none ∧
            t.completeRootWithUsageReceipt leaseId receiptId success usage =
              (.ok (),
                (t.rootCharged receiptId usage).rootEnded leaseId success
                  (root.budget.canSpend usage && t.withinTreeBudget usage false))) ∨
          ∃ within, t.OnRecord receiptId usage ∧
            t.completeRootWithUsageReceipt leaseId receiptId success usage =
              (.ok (), t.rootEnded leaseId success within)) := by
  cases hn : t.nodes.find? t.rootNodeId with
  | none => exact .inl ⟨.recursiveNodeMissing, by simp [completeRootWithUsageReceipt, hn]⟩
  | some root =>
    cases hp : root.parentNodeId with
    | some p =>
      refine .inl ⟨.receiptConflict, ?_⟩
      simp [completeRootWithUsageReceipt, hn, hp]
    | none =>
      by_cases hterm : root.status.terminal = true
      · -- a root that is done only compares the delivery with what is recorded
        have hcall : t.completeRootWithUsageReceipt leaseId receiptId success usage =
            (t.rootRedelivery root receiptId success usage, t) := by
          simp only [completeRootWithUsageReceipt, hn, hp, hterm, Option.isSome_none,
            Bool.false_eq_true, if_false, if_true]
        rw [hcall]
        unfold rootRedelivery
        cases hf : t.usageReceipts.find? receiptId with
        | none => exact .inl ⟨_, rfl⟩
        | some previous =>
          have hkey := key_of_find? hf
          dsimp only
          split_ifs with h1 h0
          · refine .inr (.inl ⟨⟨root, rfl, hterm⟩, ⟨true, ?_⟩, rfl⟩)
            exact hf.trans (congrArg some (Prod.ext hkey (stripPrefix_eq_some.mp h1.1)))
          · refine .inr (.inl ⟨⟨root, rfl, hterm⟩, ⟨false, ?_⟩, rfl⟩)
            exact hf.trans (congrArg some (Prod.ext hkey (stripPrefix_eq_some.mp h0.1)))
          · exact .inl ⟨_, rfl⟩
      · by_cases hl : root.leaseId = some leaseId ∧ root.status = .leased
        · cases hf : t.usageReceipts.find? receiptId with
          | none =>
            exact .inr (.inr ⟨root, rfl, hp, hl.1, hl.2,
              .inl ⟨rfl, completeRoot_fresh hn hp hl.1 hl.2 hf⟩⟩)
          | some previous =>
            cases hv : recordedVerdict previous.2 usage.toJson with
            | error reason =>
              refine .inl ⟨reason, ?_⟩
              simp only [completeRootWithUsageReceipt, hn, hp, hl.1, hl.2,
                RecursiveNodeStatus.terminal, recordUnreservedUsage, recordUsageInternal, hf, hv,
                Option.isSome_none, Bool.false_eq_true, if_false, ne_eq, not_true_eq_false, or_self]
            | ok within =>
              exact .inr (.inr ⟨root, rfl, hp, hl.1, hl.2, .inr ⟨within,
                onRecord_of_verdict hf hv, completeRoot_known hn hp hl.1 hl.2 hf hv⟩⟩)
        · have hno : root.leaseId ≠ some leaseId ∨ root.status ≠ .leased := by tauto
          refine .inl ⟨.receiptConflict, ?_⟩
          simp only [completeRootWithUsageReceipt, hn, hp, hterm, Option.isSome_none,
            Bool.false_eq_true, if_false, hno, if_true]

/-- The one thing a delivery can be: refused, charged, or known already. -/
inductive Delivered (op : UsageDelivery) (t : RecursiveTree) : Bool × RecursiveTree → Prop
  | refused : Delivered op t (false, t)
  | charged {t' : RecursiveTree} (fresh : t.usageReceipts.find? op.receiptId = none)
      (receipt : ∃ within, t'.usageReceipts =
        t.usageReceipts.insert (op.receiptId, receiptText within op.usage))
      (spent : t'.spentBudget = t.spentBudget.add op.usage) : Delivered op t (true, t')
  | known {t' : RecursiveTree} (recorded : t.OnRecord op.receiptId op.usage)
      (receipts : t'.usageReceipts = t.usageReceipts) (closed : ClosedFrom t t') :
      Delivered op t (true, t')

lemma delivered_node :
    Delivered (.node k leaseId receiptId success usage) t
      ((UsageDelivery.node k leaseId receiptId success usage).deliver t) := by
  unfold UsageDelivery.deliver
  rcases t.completeNode_cases k leaseId receiptId success usage with
    ⟨reason, h⟩ | ⟨node, -, -, ⟨hf, h⟩ | ⟨previous, within, hf, hv, h⟩⟩
  · simp only [h]
    exact .refused
  · simp only [h]
    exact .charged hf ⟨_, t.usageReceipts_afterAttempt node k leaseId receiptId success usage⟩
      (congrArg fst closedFrom_nodeEnded.spending)
  · simp only [h]
    exact .known (onRecord_of_verdict hf hv) usageReceipts_nodeEnded closedFrom_nodeEnded

lemma delivered_root :
    Delivered (.root leaseId receiptId success usage) t
      ((UsageDelivery.root leaseId receiptId success usage).deliver t) := by
  unfold UsageDelivery.deliver
  rcases t.completeRoot_cases leaseId receiptId success usage with
    ⟨reason, h⟩ | ⟨-, hrec, h⟩ | ⟨root, -, -, -, -, ⟨hf, h⟩ | ⟨within, hrec, h⟩⟩
  · simp only [h]
    exact .refused
  · simp only [h]
    exact .known hrec rfl (.of_counters rfl)
  · simp only [h]
    exact .charged hf ⟨_, usageReceipts_rootEnded _ leaseId success _⟩
      (congrArg fst (closedFrom_rootEnded _ leaseId success _).spending)
  · simp only [h]
    exact .known hrec (usageReceipts_rootEnded t leaseId success within)
      (closedFrom_rootEnded t leaseId success within)

lemma usageReceipts_recordOverrun
    (hs : s.usageReceipts = t.usageReceipts.insert (receiptId, receiptText within usage)) :
    (s.recordOverrun k receiptId usage).usageReceipts =
      t.usageReceipts.insert (receiptId, receiptText false usage) := by
  have hins : s.usageReceipts.insert (receiptId, receiptText false usage) =
      t.usageReceipts.insert (receiptId, receiptText false usage) := by
    rw [hs]
    exact t.usageReceipts.insert_insert rfl
  unfold recordOverrun
  dsimp only
  split_ifs
  · exact hins
  · exact usageReceipts_terminalize.trans hins

lemma spending_recordOverrun :
    (s.recordOverrun k receiptId usage).spending = s.spending := by
  unfold recordOverrun
  dsimp only
  split_ifs
  · rfl
  · exact spending_exhaust

/-- What late usage of the root or of another node can do: nothing, or a charge to it. -/
inductive LateUsage (t : RecursiveTree) (consumes : Bool) (k receiptId : String)
    (usage : RecursiveBudget) : Except RecursiveFailureReason Bool × RecursiveTree → Prop
  | refused (reason : RecursiveFailureReason) : LateUsage t consumes k receiptId usage (.error reason, t)
  | known {within : Bool} (recorded : t.OnRecord receiptId usage) :
      LateUsage t consumes k receiptId usage (.ok within, t)
  | charged {node : RecursiveNode} {booked : RecursiveTree} {within : Bool}
      (fresh : t.usageReceipts.find? receiptId = none) (found : t.nodes.find? k = some node)
      (fits : (node.budget.canSpend usage && t.withinTreeBudget usage consumes) = within)
      (alike : Alike booked (t.recordFreshUsage receiptId usage consumes))
      (spent : booked.spentBudget = t.spentBudget.add usage)
      (version : booked.version = (t.recordFreshUsage receiptId usage consumes).version) :
      LateUsage t consumes k receiptId usage
        (.ok within, (if within then booked else booked.recordOverrun k receiptId usage).bumpVersion)

section Late

variable {consumes : Bool}

lemma lateUsage_known (hf : t.usageReceipts.find? receiptId = some previous) :
    LateUsage t consumes k receiptId usage (recordedVerdict previous.2 usage.toJson, t) := by
  cases hv : recordedVerdict previous.2 usage.toJson with
  | error reason => exact .refused reason
  | ok within => exact .known (onRecord_of_verdict hf hv)

lemma lateUsage_node : LateUsage t true k receiptId usage (t.recordLateUsage k receiptId usage) := by
  cases hf : t.usageReceipts.find? receiptId with
  | some previous =>
    simp only [recordLateUsage, hf]
    exact lateUsage_known hf
  | none =>
    cases hn : t.nodes.find? k with
    | none =>
      simp only [recordLateUsage, hf, hn]
      exact .refused _
    | some node =>
      rw [recordLateUsage_fresh hn hf]
      exact .charged hf hn rfl (t.alike_lateCharged receiptId usage k) rfl rfl

lemma lateUsage_root :
    LateUsage t false t.rootNodeId receiptId usage (t.recordRootLateUsage receiptId usage) := by
  cases hf : t.usageReceipts.find? receiptId with
  | some previous =>
    simp only [recordRootLateUsage, hf]
    exact lateUsage_known hf
  | none =>
    cases hn : t.nodes.find? t.rootNodeId with
    | none =>
      simp only [recordRootLateUsage, hf, hn]
      exact .refused _
    | some root =>
      simp only [recordRootLateUsage, hf, hn, recordUnreservedUsage, recordUsageInternal]
      exact .charged hf hn rfl ((alike_bumpNode t.rootNodeId).trans (alike_chargeRoot usage)) rfl rfl

lemma LateUsage.delivered {op : UsageDelivery} {o : Except RecursiveFailureReason Bool × RecursiveTree}
    (h : LateUsage t consumes k op.receiptId op.usage o) : Delivered op t (o.1.isOk, o.2) := by
  cases h with
  | refused reason => exact .refused
  | known recorded => exact .known recorded rfl (.of_counters rfl)
  | charged fresh _ _ alike spent _ =>
    refine .charged fresh ?_ ?_
    · split_ifs
      · exact ⟨_, alike.usageReceipts⟩
      · exact ⟨false, usageReceipts_recordOverrun alike.usageReceipts⟩
    · split_ifs
      · exact spent
      · exact (congrArg fst spending_recordOverrun).trans spent

end Late

/-- Every delivery is refused, charged or known. -/
lemma delivered (op : UsageDelivery) (t : RecursiveTree) : Delivered op t (op.deliver t) := by
  cases op with
  | node k leaseId receiptId success usage =>
    exact delivered_node
  | root leaseId receiptId success usage => exact delivered_root
  | late k receiptId usage => exact LateUsage.delivered lateUsage_node
  | rootLate receiptId usage => exact LateUsage.delivered lateUsage_root

/-- Deliver in order; the receipts that were charged on the way, and the tree left. -/
def deliverAll : List UsageDelivery → RecursiveTree → List (String × RecursiveBudget) × RecursiveTree
  | [], t => ([], t)
  | op :: ops, t =>
    let r := op.deliver t
    let rest := deliverAll ops r.2
    if r.1 && (t.usageReceipts.find? op.receiptId).isNone then
      ((op.receiptId, op.usage) :: rest.1, rest.2)
    else rest

/-- What a run charged: each receipt once, none that was recorded before, and all of
it spent. -/
structure ChargedOnce (t t' : RecursiveTree) (charged : List (String × RecursiveBudget)) : Prop where
  distinct : (charged.map Prod.fst).Nodup
  fresh : ∀ c ∈ charged, t.usageReceipts.find? c.1 = none
  recorded : ∀ c ∈ charged, t'.OnRecord c.1 c.2
  kept : ∀ r u, t.OnRecord r u → t'.OnRecord r u
  spent : ∀ d, t'.spentBudget.amount d =
    min (t.spentBudget.amount d + (charged.map fun c => c.2.amount d).sum) u64Max

lemma OnRecord.not_fresh (h : t.OnRecord r u) : t.usageReceipts.find? r ≠ none := by
  obtain ⟨within, h⟩ := h
  rw [h]
  exact Option.some_ne_none _

lemma OnRecord.insert {receipt : String × String} (h : t.OnRecord r u)
    (ht : t'.usageReceipts = t.usageReceipts.insert receipt)
    (hf : t.usageReceipts.find? receipt.1 = none) : t'.OnRecord r u := by
  obtain ⟨within, h⟩ := h
  have hne : r ≠ receipt.1 := by
    rintro rfl
    rw [hf] at h
    cases h
  exact ⟨within, by rw [ht, find?_insert, if_neg hne, h]⟩

lemma chargedOnce_nil : ChargedOnce t t [] where
  distinct := List.nodup_nil
  fresh := by simp
  recorded := by simp
  kept _ _ h := h
  spent d := by
    have := amount_le t.spentBudget d
    simp only [List.map_nil, List.sum_nil]
    omega

lemma chargedOnce_deliverAll {ops : List UsageDelivery} :
    ChargedOnce t (deliverAll ops t).2 (deliverAll ops t).1 := by
  induction ops generalizing t with
  | nil => exact chargedOnce_nil
  | cons op ops ih =>
    have hd := delivered op t
    unfold deliverAll
    dsimp only
    generalize op.deliver t = r at hd
    cases hd with
    | refused => exact ih
    | @known t' recorded receipts closed =>
      have hnone : (t.usageReceipts.find? op.receiptId).isNone = false :=
        Option.isNone_eq_false_iff.mpr (Option.isSome_iff_ne_none.mpr recorded.not_fresh)
      rw [hnone, Bool.and_false, if_neg Bool.false_ne_true]
      have h := @ih t'
      have hspent : t'.spentBudget = t.spentBudget := congrArg fst closed.spending
      exact
        { h with
          fresh := fun c hc => receipts ▸ h.fresh c hc
          kept := fun r u hr => h.kept r u (by unfold OnRecord; rw [receipts]; exact hr)
          spent := fun d => hspent ▸ h.spent d }
    | @charged t' fresh receipt spent =>
      obtain ⟨within, hreceipt⟩ := receipt
      rw [fresh, Option.isNone_none, Bool.and_self, if_pos rfl]
      have h := @ih t'
      have hrec : t'.OnRecord op.receiptId op.usage :=
        ⟨within, by rw [hreceipt, find?_insert, if_pos rfl]⟩
      refine ⟨?_, ?_, ?_, ?_, fun d => ?_⟩
      · refine List.nodup_cons.mpr ⟨fun hmem => ?_, h.distinct⟩
        obtain ⟨c, hc, hid⟩ := List.mem_map.mp hmem
        have := h.fresh c hc
        rw [hid] at this
        exact hrec.not_fresh this
      · rintro c (_ | ⟨_, hc⟩)
        · exact fresh
        · have := h.fresh c hc
          rw [hreceipt, find?_insert] at this
          split_ifs at this
          exact this
      · rintro c (_ | ⟨_, hc⟩)
        · exact h.kept _ _ hrec
        · exact h.recorded c hc
      · exact fun r u hr => h.kept r u (hr.insert hreceipt fresh)
      · rw [h.spent d, spent, amount_add, List.map_cons, List.sum_cons]
        dsimp only
        omega

lemma recordedVerdict_receiptText (within : Bool) (usage : RecursiveBudget) :
    recordedVerdict (receiptText within usage) usage.toJson = .ok within := by
  unfold recordedVerdict
  cases within with
  | true =>
    have h1 : stripPrefix "1:" (receiptText true usage) = some usage.toJson :=
      stripPrefix_eq_some.mpr rfl
    rw [if_pos h1]
  | false =>
    have h0 : stripPrefix "0:" (receiptText false usage) = some usage.toJson :=
      stripPrefix_eq_some.mpr rfl
    rw [if_neg, if_pos h0]
    intro h
    have hl : (receiptText false usage).toList = ("1:" ++ usage.toJson).toList := by
      rw [stripPrefix_eq_some.mp h]
    unfold receiptText at hl
    rw [String.toList_append, String.toList_append] at hl
    exact absurd (List.append_inj hl rfl).1 (by decide)

/-- Whatever was delivered before: the tree has spent what its receipts say, each
counted once. A receipt on record that is delivered again with its usage charges
nothing; with another usage it is refused and changes nothing. -/
theorem receipts_charged_once (t : RecursiveTree) (ops : List UsageDelivery) :
    ChargedOnce t (deliverAll ops t).2 (deliverAll ops t).1 ∧
    (∀ op : UsageDelivery, (deliverAll ops t).2.OnRecord op.receiptId op.usage →
      (op.deliver (deliverAll ops t).2).2.usageReceipts = (deliverAll ops t).2.usageReceipts ∧
        (op.deliver (deliverAll ops t).2).2.spending = (deliverAll ops t).2.spending ∧
        ClosedFrom (deliverAll ops t).2 (op.deliver (deliverAll ops t).2).2) ∧
    (∀ r u, (deliverAll ops t).2.OnRecord r u →
      (∀ k, (UsageDelivery.late k r u).deliver (deliverAll ops t).2 =
        (true, (deliverAll ops t).2)) ∧
        (UsageDelivery.rootLate r u).deliver (deliverAll ops t).2 = (true, (deliverAll ops t).2)) ∧
    (∀ (op : UsageDelivery) u, (deliverAll ops t).2.OnRecord op.receiptId u → u ≠ op.usage →
      op.deliver (deliverAll ops t).2 = (false, (deliverAll ops t).2)) := by
  refine ⟨chargedOnce_deliverAll, ?_, ?_, ?_⟩
  · intro op hrec
    have hd := delivered op (deliverAll ops t).2
    generalize op.deliver (deliverAll ops t).2 = r at hd
    cases hd with
    | refused => exact ⟨rfl, rfl, .of_counters rfl⟩
    | charged fresh => exact absurd fresh hrec.not_fresh
    | known recorded receipts closed => exact ⟨receipts, closed.spending, closed⟩
  · rintro r u ⟨within, hrec⟩
    have hv := recordedVerdict_receiptText within u
    constructor
    · intro k
      simp only [UsageDelivery.deliver, recordLateUsage, hrec, hv]
      rfl
    · simp only [UsageDelivery.deliver, recordRootLateUsage, hrec, hv]
      rfl
  · intro op u hrec hne
    have hd := delivered op (deliverAll ops t).2
    generalize op.deliver (deliverAll ops t).2 = r at hd
    cases hd with
    | refused => rfl
    | charged fresh => exact absurd fresh hrec.not_fresh
    | known recorded =>
      obtain ⟨within, h⟩ := hrec
      obtain ⟨within', h'⟩ := recorded
      rw [h] at h'
      exact absurd (receiptText_injective (Prod.mk.inj (Option.some.inj h')).2) hne

/-- Late usage of the root is recorded; when the root's own completion brings the
receipt again and reports a failure, the child loses its reservation. -/
theorem redelivery_returns_sample :
    let t := (deliverAll [.rootLate "r-1" (sampleBudget 1)]
      (sampleLeased.leaseNode sampleEnv "root" "lease-0").2).2
    let again := (UsageDelivery.root "lease-0" "r-1" false (sampleBudget 1)).deliver t
    t.OnRecord "r-1" (sampleBudget 1) ∧ again.1 = true ∧
      t.reservedBudget = sampleBudget 3 ∧ again.2.reservedBudget = .zero ∧
      t.rootBudget = sampleBudget 8 ∧ again.2.rootBudget = sampleBudget 11 :=
  ⟨⟨true, by rfl⟩, by decide +kernel, by rfl, by decide +kernel, by rfl, by decide +kernel⟩

end RecursiveTree

end Harness
