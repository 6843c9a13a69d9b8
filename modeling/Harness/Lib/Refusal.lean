import Mathlib.Logic.Basic

/-! Computations that may fail: how a sequence of checks goes through, and what it can fail
with. -/

namespace Harness

/-- Stop with a message when a check fails. -/
def refuse (failed : Bool) (message : String) : Except String Unit :=
  if failed then .error message else .ok ()

/-- The value of an option, or the error that stands for its absence. -/
def required {α : Type} (value : Option α) (message : String) : Except String α :=
  value.elim (.error message) .ok

variable {m : String} {α ε β : Type} {u : Unit} {a : α} {b : β} {c : Bool}
  {r : Except ε α} {f : α → Except ε β} {check : Except String Unit} {rest : Unit → Except String α}

lemma required_eq_ok {o : Option α} : required o m = .ok a ↔ o = some a := by
  cases o <;> simp [required]

lemma bind_eq_ok : (r >>= f) = .ok b ↔ ∃ a, r = .ok a ∧ f a = .ok b := by
  cases r <;> simp [bind, Except.bind]

lemma bind_ok (h : (r >>= f) = .ok b) : ∃ a, r = .ok a ∧ f a = .ok b := bind_eq_ok.mp h

lemma refuse_eq_ok : refuse c m = .ok u ↔ c = false := by
  cases c <;> simp [refuse]

lemma refuse_ok (h : refuse c m = .ok u) : c = false := refuse_eq_ok.mp h

/-- A check, then the rest. -/
lemma seq_eq_ok : (check >>= rest) = .ok a ↔ check = .ok () ∧ rest () = .ok a := by
  cases check <;> simp [bind, Except.bind]

lemma seq_ok (h : (check >>= rest) = .ok a) : check = .ok () ∧ rest () = .ok a := seq_eq_ok.mp h

/-- A check that does not refuse is passed. -/
lemma pass (hc : c = false) (h : rest () = .ok a) : (refuse c m >>= rest) = .ok a :=
  seq_eq_ok.mpr ⟨refuse_eq_ok.mpr hc, h⟩

lemma map_eq_ok {f : α → β} : (f <$> r) = .ok b ↔ ∃ a, r = .ok a ∧ f a = b := by
  cases r <;> simp [Functor.map, Except.map]

/-- A list of checks goes through if each does. -/
lemma forM_eq_ok {f : α → Except String Unit} {l : List α} :
    l.forM f = .ok u ↔ ∀ a ∈ l, f a = .ok () := by
  induction l with
  | nil => exact ⟨fun _ _ h => absurd h List.not_mem_nil, fun _ => rfl⟩
  | cons a l ih =>
    change (f a >>= fun _ => l.forM f) = .ok u ↔ _
    rw [seq_eq_ok, ih, List.forall_mem_cons]

lemma option_forM_eq_ok {f : α → Except String Unit} {o : Option α} :
    o.forM f = .ok u ↔ ∀ a, o = some a → f a = .ok () := by
  cases o with
  | none =>
    constructor
    · rintro - b ⟨⟩
    · intro _
      rfl
  | some a =>
    constructor
    · rintro h b ⟨⟩
      exact h
    · intro h
      exact h a rfl

/-- What holds of each step of a loop that may fail holds of the loop. -/
lemma foldlM_induction {σ : Type} {P : σ → Prop} {f : σ → α → Except String σ}
    (hf : ∀ s a s', P s → f s a = .ok s' → P s') {l : List α} {s s' : σ} (hs : P s)
    (h : l.foldlM f s = .ok s') : P s' := by
  induction l generalizing s with
  | nil =>
    cases h
    exact hs
  | cons a l ih =>
    obtain ⟨s₁, h1, h⟩ := bind_ok h
    exact ih (hf s a s₁ hs h1) h

end Harness

namespace Harness.Lib

variable {ε α β : Type} {P : ε → Prop}

/-- Every failure of the computation is of the kind `P`. -/
def FailsAs (P : ε → Prop) (r : Except ε α) : Prop := ∀ e, r = .error e → P e

namespace FailsAs

lemma ok (a : α) : FailsAs P (.ok a : Except ε α) := nofun

lemma error {e : ε} (h : P e) : FailsAs P (.error e : Except ε α) := by
  rintro _ ⟨⟩
  exact h

lemma bind {r : Except ε α} {f : α → Except ε β} (h : FailsAs P r) (hf : ∀ a, FailsAs P (f a)) :
    FailsAs P (r >>= f) := by
  cases r with
  | error e => exact .error (h e rfl)
  | ok a => exact hf a

lemma foldlM {f : β → α → Except ε β} (hf : ∀ b a, FailsAs P (f b a)) (l : List α) (b : β) :
    FailsAs P (l.foldlM f b) := by
  induction l generalizing b with
  | nil => exact .ok b
  | cons a l ih => exact .bind (hf b a) fun b => ih b

end FailsAs

end Harness.Lib
