import Harness.Lib.Saturating
import Mathlib.Algebra.Group.Nat.Defs

/-! `RecursiveBudget`: four `u64` counters and their componentwise saturating
arithmetic. Every proof about budgets reads them through `amount`, one
dimension at a time. -/

namespace Harness

open Lib

structure RecursiveBudget where
  callsRemaining : BitVec 64 := 0
  tokensRemaining : BitVec 64 := 0
  costMicrosRemaining : BitVec 64 := 0
  timeMsRemaining : BitVec 64 := 0
deriving DecidableEq, Repr

inductive Dim where
  | calls
  | tokens
  | costMicros
  | timeMs
deriving DecidableEq, Repr

/-- `u64::MAX`. -/
def u64Max : ℕ := maxWord 64

namespace RecursiveBudget

instance : Inhabited RecursiveBudget := ⟨{}⟩

/-- `RecursiveBudget::default()`. -/
def zero : RecursiveBudget := {}

def canSpend (self usage : RecursiveBudget) : Bool :=
  usage.callsRemaining ≤ self.callsRemaining && usage.tokensRemaining ≤ self.tokensRemaining &&
    usage.costMicrosRemaining ≤ self.costMicrosRemaining &&
    usage.timeMsRemaining ≤ self.timeMsRemaining

variable (self other : RecursiveBudget)

def spend : RecursiveBudget where
  callsRemaining := saturatingSub self.callsRemaining other.callsRemaining
  tokensRemaining := saturatingSub self.tokensRemaining other.tokensRemaining
  costMicrosRemaining := saturatingSub self.costMicrosRemaining other.costMicrosRemaining
  timeMsRemaining := saturatingSub self.timeMsRemaining other.timeMsRemaining

def add : RecursiveBudget where
  callsRemaining := saturatingAdd self.callsRemaining other.callsRemaining
  tokensRemaining := saturatingAdd self.tokensRemaining other.tokensRemaining
  costMicrosRemaining := saturatingAdd self.costMicrosRemaining other.costMicrosRemaining
  timeMsRemaining := saturatingAdd self.timeMsRemaining other.timeMsRemaining

def boundedBy : RecursiveBudget where
  callsRemaining := lesser self.callsRemaining other.callsRemaining
  tokensRemaining := lesser self.tokensRemaining other.tokensRemaining
  costMicrosRemaining := lesser self.costMicrosRemaining other.costMicrosRemaining
  timeMsRemaining := lesser self.timeMsRemaining other.timeMsRemaining

def isNonzero (self : RecursiveBudget) : Bool :=
  0 < self.callsRemaining && 0 < self.tokensRemaining && 0 < self.costMicrosRemaining &&
    0 < self.timeMsRemaining

/-- The exact value of one counter. -/
def amount (b : RecursiveBudget) : Dim → ℕ
  | .calls => b.callsRemaining.toNat
  | .tokens => b.tokensRemaining.toNat
  | .costMicros => b.costMicrosRemaining.toNat
  | .timeMs => b.timeMsRemaining.toNat

variable (a b : RecursiveBudget) (d : Dim)

lemma amount_le : b.amount d ≤ u64Max := by
  cases d <;> exact toNat_le_maxWord _

lemma eq_of_amount {a b : RecursiveBudget} (h : ∀ d, a.amount d = b.amount d) : a = b := by
  cases a; cases b
  have h1 := h .calls
  have h2 := h .tokens
  have h3 := h .costMicros
  have h4 := h .timeMs
  simp only [amount, BitVec.toNat_inj] at h1 h2 h3 h4
  simp [h1, h2, h3, h4]

lemma eq_iff_amount {a b : RecursiveBudget} : a = b ↔ ∀ d, a.amount d = b.amount d :=
  ⟨fun h d => by rw [h], eq_of_amount⟩

@[simp] lemma amount_zero : zero.amount d = 0 := by
  cases d <;> rfl

@[simp] lemma amount_add : (a.add b).amount d = min (a.amount d + b.amount d) u64Max := by
  cases d <;> exact toNat_saturatingAdd

@[simp] lemma amount_spend : (a.spend b).amount d = a.amount d - b.amount d := by
  cases d <;> exact toNat_saturatingSub

@[simp] lemma amount_boundedBy : (a.boundedBy b).amount d = min (a.amount d) (b.amount d) := by
  cases d <;> exact toNat_lesser

lemma forall_dim {p : Dim → Prop} : (∀ d, p d) ↔ p .calls ∧ p .tokens ∧ p .costMicros ∧ p .timeMs :=
  ⟨fun h => ⟨h _, h _, h _, h _⟩, fun ⟨h1, h2, h3, h4⟩ d => by cases d <;> assumption⟩

lemma canSpend_iff : a.canSpend b = true ↔ ∀ d, b.amount d ≤ a.amount d := by
  simp only [canSpend, Bool.and_eq_true, decide_eq_true_eq, forall_dim, amount, BitVec.le_def,
    and_assoc]

/-- `serde_json::to_string` of a budget: the fingerprint a usage receipt keeps. -/
def toJson (b : RecursiveBudget) : String :=
  "\x7b\"calls_remaining\":" ++ b.callsRemaining.toNat.repr ++
    ",\"tokens_remaining\":" ++ b.tokensRemaining.toNat.repr ++
    ",\"cost_micros_remaining\":" ++ b.costMicrosRemaining.toNat.repr ++
    ",\"time_ms_remaining\":" ++ b.timeMsRemaining.toNat.repr ++ "\x7d"

end RecursiveBudget

end Harness
