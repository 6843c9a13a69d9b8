import Mathlib.Data.BitVec

/-! Saturating arithmetic on unsigned words of any width: sums stop at the
largest word and differences at zero. -/

namespace Harness.Lib

variable {w : ℕ}

/-- The largest word of width `w`. -/
def maxWord (w : ℕ) : ℕ := 2 ^ w - 1

lemma toNat_le_maxWord (a : BitVec w) : a.toNat ≤ maxWord w := by
  unfold maxWord
  omega

def saturatingAdd (a b : BitVec w) : BitVec w := BitVec.ofNat w (min (a.toNat + b.toNat) (maxWord w))

def saturatingSub (a b : BitVec w) : BitVec w := BitVec.ofNat w (a.toNat - b.toNat)

variable {a b : BitVec w}

@[simp] lemma toNat_saturatingAdd :
    (saturatingAdd a b).toNat = min (a.toNat + b.toNat) (maxWord w) := by
  apply Nat.mod_eq_of_lt
  unfold maxWord
  omega

@[simp] lemma toNat_saturatingSub : (saturatingSub a b).toNat = a.toNat - b.toNat := by
  apply Nat.mod_eq_of_lt
  omega

def lesser (a b : BitVec w) : BitVec w := if a.toNat ≤ b.toNat then a else b

@[simp] lemma toNat_lesser : (lesser a b).toNat = min a.toNat b.toNat := by
  unfold lesser
  split_ifs <;> omega

end Harness.Lib
