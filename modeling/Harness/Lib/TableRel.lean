import Harness.Lib.Table
import Mathlib.Data.List.Forall2

/-! Two states of one table, row by row. What every row's change has in common carries over
to looking a row up and to counting rows. -/

namespace Harness.Lib.Table

open List

variable {α κ : Type} [LinearOrder κ] {key : α → κ} {R S : α → α → Prop} {s t u : Table key}

/-- The rows of `t` are those of `s`, each changed as `R` allows. -/
def Rel (R : α → α → Prop) (s t : Table key) : Prop := List.Forall₂ R s.rows t.rows

lemma Rel.refl (h : ∀ a, R a a) (t : Table key) : Rel R t t := by
  unfold Rel
  induction t.rows with
  | nil => exact .nil
  | cons a rows ih => exact .cons (h a) ih

lemma Rel.mono (h : Rel R s t) (hRS : ∀ a b, R a b → S a b) : Rel S s t := List.Forall₂.imp hRS h

lemma Rel.trans {T : α → α → Prop} (hRS : ∀ a b c, R a b → S b c → T a c) (h : Rel R s t)
    (h' : Rel S t u) : Rel T s u := by
  unfold Rel at h h' ⊢
  generalize s.rows = l at h
  generalize t.rows = m at h h'
  generalize u.rows = r at h'
  induction h generalizing r with
  | nil =>
    cases h'
    exact .nil
  | cons hab _ ih =>
    cases h' with
    | cons hbc hrest => exact .cons (hRS _ _ _ hab hbc) (ih _ hrest)

variable {p : α → Bool} {f : α → α} {k : κ}

lemma Rel.of_map (ht : t.rows = s.rows.map f) (h : ∀ a ∈ s.rows, R a (f a)) : Rel R s t := by
  unfold Rel
  rw [ht]
  generalize s.rows = rows at h ⊢
  induction rows with
  | nil => exact .nil
  | cons a rows ih =>
    exact .cons (h a mem_cons_self) (ih fun b hb => h b (mem_cons_of_mem a hb))

lemma Rel.of_map_eq {β : Type} {f : α → β} (h : s.rows.map f = t.rows.map f) :
    Rel (fun a b => f a = f b) s t := by
  unfold Rel
  generalize s.rows = l at h
  generalize t.rows = m at h
  induction l generalizing m with
  | nil =>
    rw [map_nil, eq_comm, map_eq_nil_iff] at h
    rw [h]
    exact .nil
  | cons a l ih =>
    cases m with
    | nil => cases h
    | cons b m =>
      exact .cons (cons.inj h).1 (ih m (cons.inj h).2)

lemma Rel.of_modify (ht : t.rows = s.rows.map fun a => if key a = k then f a else a)
    (hrefl : ∀ a, R a a) (h : ∀ a, s.find? k = some a → R a (f a)) : Rel R s t := by
  refine Rel.of_map ht fun a ha => ?_
  split_ifs with hk
  · exact h a (by rw [← hk]; exact s.find?_key ha)
  · exact hrefl a

/-- Looking up a key in both states. -/
lemma Rel.find? (h : Rel R s t) (hkey : ∀ a b, R a b → key b = key a) (k : κ) :
    (s.find? k = none ∧ t.find? k = none) ∨
      ∃ a b, s.find? k = some a ∧ t.find? k = some b ∧ R a b := by
  unfold Rel at h
  unfold Table.find?
  generalize s.rows = l at h ⊢
  generalize t.rows = m at h ⊢
  induction h with
  | nil => exact .inl ⟨rfl, rfl⟩
  | @cons a b l m hab _ ih =>
    have hb := hkey a b hab
    by_cases hk : key a = k
    · refine .inr ⟨a, b, ?_, ?_, hab⟩
      · exact find?_cons_of_pos (by simpa using hk)
      · exact find?_cons_of_pos (by simpa [hb] using hk)
    · rw [find?_cons_of_neg (by simpa using hk), find?_cons_of_neg (by simpa [hb] using hk)]
      exact ih

lemma Rel.find?_some (h : Rel R s t) (hkey : ∀ a b, R a b → key b = key a) {b : α}
    (hb : t.find? k = some b) : ∃ a, s.find? k = some a ∧ R a b := by
  rcases h.find? hkey k with ⟨-, hn⟩ | ⟨a, b', ha, hb', hab⟩
  · rw [hb] at hn
    cases hn
  · cases hb.symm.trans hb'
    exact ⟨a, ha, hab⟩

lemma Rel.find?_some' (h : Rel R s t) (hkey : ∀ a b, R a b → key b = key a) {a : α}
    (ha : s.find? k = some a) : ∃ b, t.find? k = some b ∧ R a b := by
  rcases h.find? hkey k with ⟨hn, -⟩ | ⟨a', b, ha', hb, hab⟩
  · rw [ha] at hn
    cases hn
  · cases ha.symm.trans ha'
    exact ⟨b, hb, hab⟩

/-- What lookups say of a row and of what became of it. -/
lemma Rel.mono_find? (h : Rel R s t) (hkey : ∀ a b, R a b → key b = key a)
    (hRS : ∀ a b, s.find? (key a) = some a → t.find? (key a) = some b → R a b → S a b) :
    Rel S s t := by
  have hmem : ∀ a b, a ∈ s.rows → b ∈ t.rows → R a b → S a b := fun a b ha hb hab =>
    hRS a b (s.find?_key ha) (by rw [← hkey a b hab]; exact t.find?_key hb) hab
  unfold Rel at h ⊢
  generalize s.rows = l at h hmem
  generalize t.rows = m at h hmem
  induction h with
  | nil => exact .nil
  | cons hab _ ih =>
    exact .cons (hmem _ _ mem_cons_self mem_cons_self hab)
      (ih fun a b ha hb => hmem a b (mem_cons_of_mem _ ha) (mem_cons_of_mem _ hb))

/-- Rows counted after a change were counted before it. -/
lemma Rel.countP_le (h : Rel R s t) {q : α → Bool} (hpq : ∀ a b, R a b → q b = true → p a = true) :
    t.rows.countP q ≤ s.rows.countP p := by
  unfold Rel at h
  generalize s.rows = l at h ⊢
  generalize t.rows = m at h ⊢
  induction h with
  | nil => exact le_rfl
  | @cons a b l m hab _ ih =>
    rw [countP_cons, countP_cons]
    by_cases hq : q b = true
    · rw [if_pos hq, if_pos (hpq a b hab hq)]
      exact Nat.add_le_add_right ih 1
    · rw [if_neg hq]
      exact ih.trans (Nat.le_add_right _ _)

/-- Rewriting one row adds at most one to a count. -/
lemma countP_le_succ_of_modify (ht : t.rows = s.rows.map fun a => if key a = k then f a else a) :
    t.rows.countP p ≤ s.rows.countP p + 1 := by
  have hs := s.sorted
  rw [ht]
  generalize s.rows = rows at hs ⊢
  induction rows with
  | nil => exact Nat.zero_le _
  | cons a rows ih =>
    rw [pairwise_cons] at hs
    rw [map_cons, countP_cons, countP_cons]
    by_cases hk : key a = k
    · -- no other row has this key
      have hrest : rows.map (fun b => if key b = k then f b else b) = rows := by
        refine (map_congr_left fun b hb => ?_).trans (map_id _)
        exact if_neg fun hb' => absurd (hs.1 b hb) (by rw [hb', hk]; exact lt_irrefl k)
      rw [hrest]
      split_ifs <;> omega
    · rw [if_neg hk]
      have := ih hs.2
      omega

end Harness.Lib.Table
