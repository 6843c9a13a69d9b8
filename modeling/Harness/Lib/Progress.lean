import Mathlib.Data.Set.Finite.Lemmas
import Mathlib.Logic.Relation
import Mathlib.Order.WellFoundedSet

/-! Loops that run until nothing is left to do, and relations without cycles. -/

namespace Harness.Lib

open List

section Loop

variable {σ : Type} {more : σ → Bool} {step : σ → σ}

/-- Take steps as long as there is more to do and fuel is left. -/
def untilDone (more : σ → Bool) (step : σ → σ) : ℕ → σ → σ
  | 0, s => s
  | fuel + 1, s => if more s then untilDone more step fuel (step s) else s

variable {s : σ} {fuel : ℕ}

/-- What each step keeps, the loop keeps. -/
lemma untilDone_induction {P : σ → Prop} (hstep : ∀ s, P s → more s = true → P (step s))
    (hs : P s) : P (untilDone more step fuel s) := by
  induction fuel generalizing s with
  | zero => exact hs
  | succ fuel ih =>
    unfold untilDone
    split_ifs with hm
    · exact ih (hstep s hs hm)
    · exact hs

/-- With a measure that every step lowers, enough fuel reaches the end. -/
lemma more_untilDone {μ : σ → ℕ} (hμ : ∀ s, more s = true → μ (step s) < μ s) (h : μ s < fuel) :
    more (untilDone more step fuel s) = false := by
  induction fuel generalizing s with
  | zero => exact absurd h (Nat.not_lt_zero _)
  | succ fuel ih =>
    unfold untilDone
    split_ifs with hm
    · exact ih (Nat.lt_of_lt_of_le (hμ s hm) (Nat.le_of_lt_succ h))
    · exact Bool.eq_false_iff.mpr hm

/-- A count goes down if no row joins it and some row leaves it. -/
lemma countP_lt_countP {α : Type} {p q : α → Bool} {l : List α}
    (hle : ∀ a ∈ l, q a = true → p a = true) {a : α} (ha : a ∈ l) (hp : p a = true)
    (hq : q a = false) :
    l.countP q < l.countP p := by
  induction l with
  | nil => cases ha
  | cons b l ih =>
    have hrest : ∀ a ∈ l, q a = true → p a = true := fun a ha => hle a (mem_cons_of_mem b ha)
    rw [countP_cons, countP_cons]
    rcases mem_cons.mp ha with rfl | ha
    · have := countP_mono_left hrest
      rw [hp, hq, if_pos rfl, if_neg Bool.false_ne_true]
      omega
    · have := ih hrest ha
      have := hle b mem_cons_self
      split_ifs with h1 h2 <;> first | omega | exact absurd (this h1) h2

end Loop

/-- No path leads back to where it started. -/
def Acyclic {α : Type} (r : α → α → Prop) : Prop := ∀ a, ¬ Relation.TransGen r a a

variable {α : Type}

/-- Among finitely many with a property there is a first one. -/
lemma Acyclic.exists_first {r : α → α → Prop} (h : Acyclic r) {P : α → Prop} {l : List α} {a : α}
    (ha : a ∈ l) (hP : P a) : ∃ a ∈ l, P a ∧ ∀ b ∈ l, P b → ¬ r b a := by
  have hstrict : IsStrictOrder α (Relation.TransGen r) :=
    { irrefl := h, trans := fun _ _ _ => Relation.TransGen.trans }
  have hwf : {a | a ∈ l}.WellFoundedOn (Relation.TransGen r) :=
    (finite_toSet l).wellFoundedOn
  obtain ⟨m, hm, hmin⟩ := hwf.has_min {b | P b} ⟨⟨a, ha⟩, hP⟩
  exact ⟨m, m.2, hm, fun b hb hPb hbm => hmin ⟨b, hb⟩ hPb (.single hbm)⟩

lemma Acyclic.of_rank {r : α → α → Prop} (rank : α → ℕ) (h : ∀ a b, r a b → rank a < rank b) :
    Acyclic r := by
  have hpath : ∀ a b, Relation.TransGen r a b → rank a < rank b := by
    intro a b hab
    induction hab with
    | single hab => exact h _ _ hab
    | tail _ hbc ih => exact ih.trans (h _ _ hbc)
  exact fun a ha => Nat.lt_irrefl _ (hpath a a ha)

end Harness.Lib
