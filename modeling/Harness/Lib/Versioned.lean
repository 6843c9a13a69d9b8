import Mathlib.Data.Nat.Basic

/-! Values that carry a version. A value is behind another when it is that value or has a
smaller version; a holder of a value behind the current one that finds its own version
current holds the current value. -/

namespace Harness.Lib

variable {α : Type} (ver : α → ℕ)

def Behind (a b : α) : Prop := a = b ∨ ver a < ver b

variable {ver} {a b c : α}

lemma Behind.refl (a : α) : Behind ver a a := .inl rfl

lemma Behind.le (h : Behind ver a b) : ver a ≤ ver b := by
  rcases h with rfl | h
  · exact le_rfl
  · exact Nat.le_of_lt h

lemma Behind.trans (h : Behind ver a b) (h' : Behind ver b c) : Behind ver a c := by
  rcases h with rfl | h
  · exact h'
  · exact .inr (Nat.lt_of_lt_of_le h h'.le)

lemma Behind.eq_of_ver (h : Behind ver a b) (hv : ver a = ver b) : a = b :=
  h.resolve_right (by omega)

end Harness.Lib
