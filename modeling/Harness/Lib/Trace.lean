import Mathlib.Algebra.BigOperators.Group.List.Basic

/-! Labelled runs, and machines whose replies are the labels of one. A potential that pays for
every label bounds what all the labels of a run amount to. -/

namespace Harness.Lib

section Runs

variable {σ ε : Type} {Step : σ → ε → σ → Prop}

inductive Runs (Step : σ → ε → σ → Prop) : σ → List ε → σ → Prop
  | nil (p : σ) : Runs Step p [] p
  | cons {p q r : σ} {e : ε} {es : List ε} (head : Step p e q) (tail : Runs Step q es r) :
      Runs Step p (e :: es) r

namespace Runs

/-- A run through a label passes the two states around it. -/
lemma split {p r : σ} {past rest : List ε} {e : ε} (h : Runs Step p (past ++ e :: rest) r) :
    ∃ q q', Runs Step p past q ∧ Step q e q' ∧ Runs Step q' rest r := by
  induction past generalizing p with
  | nil =>
    cases h with
    | cons head tail => exact ⟨p, _, .nil p, head, tail⟩
  | cons e' past ih =>
    cases h with
    | cons head tail =>
      obtain ⟨q, q', hpast, hstep, hrest⟩ := ih tail
      exact ⟨q, q', .cons head hpast, hstep, hrest⟩

/-- If each step pays for its label out of the potential, the run pays for all of them. -/
lemma countP_add_le {counts : ε → Bool} {potential : σ → ℕ} {p q : σ} {es : List ε}
    (h : Runs Step p es q)
    (hstep : ∀ {p e q}, Step p e q → (if counts e then 1 else 0) + potential q ≤ potential p) :
    es.countP counts + potential q ≤ potential p := by
  induction h with
  | nil p => simp
  | cons head tail ih =>
    have hhead := hstep head
    rw [List.countP_cons]
    omega

end Runs

end Runs

section Machines

variable {σ τ α ε ε' : Type} {Step : σ → ε → σ → Prop} (step : τ → α → ε' × τ)

/-- The replies of a machine to its inputs, in order. -/
def replies : τ → List α → List ε'
  | _, [] => []
  | t, a :: as => (step t a).1 :: replies (step t a).2 as

/-- The state of a machine after its inputs. -/
def after (t : τ) (as : List α) : τ := as.foldl (fun t a => (step t a).2) t

variable {step}

/-- A machine that refines a transition system step by step refines it run by run. -/
lemma runs_replies {abstraction : τ → σ} {label : ε' → ε}
    (h : ∀ t a, Step (abstraction t) (label (step t a).1) (abstraction (step t a).2)) (t : τ)
    (as : List α) :
    Runs Step (abstraction t) ((replies step t as).map label) (abstraction (after step t as)) := by
  induction as generalizing t with
  | nil => exact .nil _
  | cons a as ih => exact .cons (h t a) (ih _)

end Machines

section Folds

variable {σ α : Type} {f : σ → α → σ}

variable {as : List α} {s : σ} {Inv : σ → Prop} {Keeps : σ → α → Prop} {n : ℕ}

lemma foldl_take_succ {a : α} (h : as[n]? = some a) :
    (as.take (n + 1)).foldl f s = f ((as.take n).foldl f s) a := by
  rw [List.take_add_one, h, Option.toList_some, List.foldl_append]
  rfl

lemma take_succ_eq_take (h : as[n]? = none) : as.take (n + 1) = as.take n := by
  rw [List.take_add_one, h, Option.toList_none, List.append_nil]

/-- What a step keeps under a condition, a run keeps all along when each of its steps meets the
condition. -/
lemma foldl_keeps (hstep : ∀ s a, Inv s → Keeps s a → Inv (f s a)) (hs : Inv s)
    (hkeeps : ∀ n a, as[n]? = some a → Keeps ((as.take n).foldl f s) a) (n : ℕ) :
    Inv ((as.take n).foldl f s) := by
  induction n with
  | zero => exact hs
  | succ n ih =>
    cases ha : as[n]? with
    | none =>
      rw [take_succ_eq_take ha]
      exact ih
    | some a =>
      rw [foldl_take_succ ha]
      exact hstep _ a ih (hkeeps n a ha)

/-- What a step keeps under exactly one condition, a run keeps all along only when each of its
steps meets the condition. -/
lemma foldl_keeps_iff (hstep : ∀ s a, Inv s → (Inv (f s a) ↔ Keeps s a)) (hs : Inv s)
    (as : List α) :
    (∀ n, Inv ((as.take n).foldl f s)) ↔
      ∀ n a, as[n]? = some a → Keeps ((as.take n).foldl f s) a := by
  refine ⟨fun hall n a ha => ?_, foldl_keeps (fun s a h => (hstep s a h).mpr) hs⟩
  have hnext := hall (n + 1)
  rw [foldl_take_succ ha] at hnext
  exact (hstep _ a (hall n)).mp hnext

end Folds

end Harness.Lib
