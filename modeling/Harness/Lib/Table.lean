import Mathlib.Algebra.Order.BigOperators.Group.List
import Mathlib.Algebra.Order.Ring.Nat
import Mathlib.Data.List.Nodup

/-! Finite tables: rows listed in increasing order of a key that each row
carries. One table models an ordered map whose values know their own key, and
equally an SQL table with a primary key. Sums over a table are sums over its
rows; the update lemmas say how they move when one row changes. -/

namespace Harness.Lib

open List

structure Table {α κ : Type} [LinearOrder κ] (key : α → κ) where
  rows : List α
  sorted : rows.Pairwise (fun a b => key a < key b)

namespace Table

variable {α κ : Type} [LinearOrder κ] {key : α → κ}

def empty : Table key := ⟨[], List.Pairwise.nil⟩

instance : Inhabited (Table key) := ⟨empty⟩

instance [DecidableEq α] : DecidableEq (Table key) := fun s t =>
  match decEq s.rows t.rows with
  | isTrue h => isTrue (by cases s; cases t; cases h; rfl)
  | isFalse h => isFalse (fun e => h (congrArg rows e))

def size (t : Table key) : ℕ := t.rows.length

def find? (t : Table key) (k : κ) : Option α := t.rows.find? (fun a => key a = k)

def contains (t : Table key) (k : κ) : Bool := (t.find? k).isSome

/-- Insert a row, replacing the row with the same key if there is one. -/
def insert (t : Table key) (a : α) : Table key where
  rows := t.rows.filter (fun b => key b < key a) ++ a :: t.rows.filter (fun b => key a < key b)
  sorted := by
    rw [List.pairwise_append, List.pairwise_cons]
    refine ⟨t.sorted.filter _, ⟨?_, t.sorted.filter _⟩, ?_⟩
    · intro b hb
      simpa using (List.mem_filter.mp hb).2
    · intro b hb c hc
      have hba : key b < key a := by simpa using (List.mem_filter.mp hb).2
      rcases List.mem_cons.mp hc with rfl | hc
      · exact hba
      · exact hba.trans (by simpa using (List.mem_filter.mp hc).2)

def ofList (rows : List α) : Table key := rows.foldl insert empty

/-- Rewrite every row, keeping the keys. -/
def map {β : Type} {key' : β → κ} (t : Table key) (f : α → β)
    (hf : ∀ a, key' (f a) = key a := by
      as_aux_lemma => (intro _; first | rfl | (split_ifs <;> rfl))) : Table key' where
  rows := t.rows.map f
  sorted := by
    rw [List.pairwise_map]
    exact t.sorted.imp (fun h => by simpa only [hf] using h)

/-- Rewrite the row with key `k`, if there is one. -/
def modify (t : Table key) (k : κ) (f : α → α)
    (hf : ∀ a, key (f a) = key a := by
      as_aux_lemma => (intro _; first | rfl | (split_ifs <;> rfl))) : Table key :=
  t.map (fun a => if key a = k then f a else a) (fun a => by split_ifs <;> simp [hf])

/-- Keep the rows that pass. -/
def filter (t : Table key) (p : α → Bool) : Table key where
  rows := t.rows.filter p
  sorted := t.sorted.filter p

variable {t : Table key} {a b : α} {k : κ}

lemma rows_map {β : Type} {key' : β → κ} {f : α → β} (hf : ∀ a, key' (f a) = key a) :
    (t.map f hf).rows = t.rows.map f := rfl

lemma rows_modify {f : α → α} (hf : ∀ a, key (f a) = key a) :
    (t.modify k f hf).rows = t.rows.map (fun a => if key a = k then f a else a) := rfl

@[ext] lemma ext {s t : Table key} (h : s.rows = t.rows) : s = t := by
  cases s; cases t; cases h; rfl

lemma keys_nodup (t : Table key) : (t.rows.map key).Nodup := by
  rw [List.Nodup, pairwise_map]
  exact t.sorted.imp (fun h => ne_of_lt h)

lemma eq_of_key_eq (t : Table key) (ha : a ∈ t.rows) (hb : b ∈ t.rows) (h : key a = key b) :
    a = b :=
  inj_on_of_nodup_map t.keys_nodup ha hb h

lemma find?_eq_some (t : Table key) : t.find? k = some a ↔ a ∈ t.rows ∧ key a = k := by
  constructor
  · intro h
    exact ⟨mem_of_find?_eq_some h, by simpa using find?_some h⟩
  · rintro ⟨ha, rfl⟩
    cases h : t.find? (key a) with
    | none => simpa using find?_eq_none.mp h a ha
    | some b =>
      have hb : key b = key a := by simpa using find?_some h
      rw [t.eq_of_key_eq (mem_of_find?_eq_some h) ha hb]

lemma find?_eq_none (t : Table key) : t.find? k = none ↔ ∀ a ∈ t.rows, key a ≠ k := by
  simp [find?]

lemma mem_of_find? (h : t.find? k = some a) : a ∈ t.rows :=
  (t.find?_eq_some.mp h).1

lemma key_of_find? (h : t.find? k = some a) : key a = k :=
  (t.find?_eq_some.mp h).2

lemma find?_key (t : Table key) (h : a ∈ t.rows) : t.find? (key a) = some a :=
  t.find?_eq_some.mpr ⟨h, rfl⟩

lemma contains_iff : t.contains k = true ↔ ∃ a ∈ t.rows, key a = k := by
  simp [contains, Option.isSome_iff_exists, find?_eq_some]

section Map

variable {β : Type} {key' : β → κ} (t : Table key) (f : α → β) (hf : ∀ a, key' (f a) = key a)

lemma find?_map {k : κ} : (t.map f hf).find? k = (t.find? k).map f := by
  ext b
  rw [find?_eq_some, rows_map, mem_map, Option.map_eq_some_iff]
  constructor
  · rintro ⟨⟨a, ha, rfl⟩, rfl⟩
    exact ⟨a, (t.find?_eq_some).mpr ⟨ha, (hf a).symm⟩, rfl⟩
  · rintro ⟨a, ha, rfl⟩
    obtain ⟨hm, rfl⟩ := t.find?_eq_some.mp ha
    exact ⟨⟨a, hm, rfl⟩, hf a⟩

lemma map_insert (a : α) : (t.insert a).map f hf = (t.map f hf).insert (f a) := by
  ext1
  simp only [rows_map, insert, map_append, map_cons, filter_map,
    Function.comp_def, hf]

end Map

lemma mem_insert (t : Table key) (a b : α) :
    b ∈ (t.insert a).rows ↔ b = a ∨ (b ∈ t.rows ∧ key b ≠ key a) := by
  simp only [insert, mem_append, mem_cons, mem_filter, decide_eq_true_eq,
    ne_iff_lt_or_gt]
  tauto

lemma find?_insert (t : Table key) (a : α) (k : κ) :
    (t.insert a).find? k = if k = key a then some a else t.find? k := by
  split_ifs with h
  · exact (find?_eq_some _).mpr ⟨(t.mem_insert a a).mpr (.inl rfl), h.symm⟩
  · ext b
    rw [find?_eq_some, find?_eq_some, mem_insert]
    constructor
    · rintro ⟨rfl | hb, rfl⟩
      · exact absurd rfl h
      · exact ⟨hb.1, rfl⟩
    · rintro ⟨hb, rfl⟩
      exact ⟨.inr ⟨hb, h⟩, rfl⟩

lemma find?_insert_self : (t.insert a).find? (key a) = some a := by
  rw [find?_insert, if_pos rfl]

/-- A table is what its lookups say. -/
lemma ext_find? {s : Table key} (h : ∀ k, s.find? k = t.find? k) : s = t := by
  have hmem : ∀ a, a ∈ s.rows ↔ a ∈ t.rows := by
    intro a
    have hs := s.find?_eq_some (k := key a) (a := a)
    have ht := t.find?_eq_some (k := key a) (a := a)
    rw [h, ht] at hs
    simpa using hs.symm
  have hperm := (perm_ext_iff_of_nodup s.keys_nodup.of_map t.keys_nodup.of_map).mpr hmem
  exact Table.ext (hperm.eq_of_pairwise (fun a b _ _ hab hba => absurd hba hab.asymm) s.sorted t.sorted)

/-- Putting back a row that is there changes nothing. -/
lemma insert_of_find? (h : t.find? k = some a) : t.insert a = t := by
  apply ext_find?
  intro k'
  rw [find?_insert]
  split_ifs with hk
  · rw [hk, key_of_find? h, h]
  · rfl

/-- The later of two rows with one key stays. -/
lemma insert_insert (t : Table key) (h : key a = key b) : (t.insert a).insert b = t.insert b := by
  refine ext_find? fun k => ?_
  rw [find?_insert, find?_insert, find?_insert, h]
  split_ifs <;> rfl

/-- A row with a new key only moves the others apart. -/
lemma insert_perm (t : Table key) (h : t.find? (key a) = none) :
    (t.insert a).rows.Perm (a :: t.rows) := by
  have hne := t.find?_eq_none.mp h
  have hgt : t.rows.filter (fun b => key a < key b) = t.rows.filter (fun b => !decide (key b < key a)) := by
    apply filter_congr
    intro b hb
    have := hne b hb
    rw [← decide_not, decide_eq_decide, not_lt]
    exact ⟨le_of_lt, fun hle => lt_of_le_of_ne hle (Ne.symm this)⟩
  refine perm_middle.trans (List.Perm.cons a ?_)
  rw [hgt]
  exact filter_append_perm (fun b => decide (key b < key a)) t.rows

/-- Two rows with different keys, in the order of the keys. -/
lemma rows_of_two (h : key a ≠ key b) :
    ((empty.insert a).insert b : Table key).rows = if key a < key b then [a, b] else [b, a] := by
  rcases lt_or_gt_of_ne h with hlt | hlt
  · simp [insert, empty, hlt, hlt.not_gt]
  · simp [insert, empty, hlt, hlt.not_gt]

lemma size_insert_of_new (t : Table key) (h : t.find? (key a) = none) :
    (t.insert a).size = t.size + 1 := by
  simpa [size] using (t.insert_perm h).length_eq

lemma sum_insert_of_new (t : Table key) (f : α → ℕ) (h : t.find? (key a) = none) :
    ((t.insert a).rows.map f).sum = f a + (t.rows.map f).sum := by
  simpa using ((t.insert_perm h).map f).sum_eq

lemma find?_filter {p : α → Bool} : (t.filter p).find? k = (t.find? k).filter p := by
  ext a
  rw [find?_eq_some, Option.filter_eq_some_iff, find?_eq_some]
  change a ∈ t.rows.filter p ∧ _ ↔ _
  rw [mem_filter]
  exact and_right_comm

section Modify

variable (t : Table key) (k : κ) (f : α → α) (hf : ∀ a, key (f a) = key a)

lemma find?_modify {k' : κ} :
    (t.modify k f hf).find? k' = if k' = k then (t.find? k').map f else t.find? k' := by
  ext b
  rw [find?_eq_some, rows_modify, mem_map]
  constructor
  · rintro ⟨⟨a, ha, rfl⟩, rfl⟩
    by_cases hk : key a = k
    · rw [if_pos hk, hf, if_pos hk, t.find?_key ha, Option.map_some]
    · rw [if_neg hk, if_neg hk, t.find?_key ha]
  · intro h
    split_ifs at h with hk
    · obtain ⟨a, ha, rfl⟩ := Option.map_eq_some_iff.mp h
      obtain ⟨hm, hak⟩ := t.find?_eq_some.mp ha
      exact ⟨⟨a, hm, by rw [if_pos (hak.trans hk)]⟩, by rw [hf, hak]⟩
    · obtain ⟨hm, hbk⟩ := t.find?_eq_some.mp h
      exact ⟨⟨b, hm, by rw [if_neg (by rwa [hbk])]⟩, hbk⟩

lemma mem_modify {b : α} :
    b ∈ (t.modify k f hf).rows ↔ ∃ a ∈ t.rows, b = if key a = k then f a else a := by
  simp [rows_modify, mem_map, eq_comm]

/-- A projection that the rewriting keeps reads the same column as before. -/
lemma map_modify {β : Type} {π : α → β} (h : ∀ a, key a = k → π (f a) = π a) :
    (t.modify k f hf).rows.map π = t.rows.map π := by
  rw [rows_modify, map_map]
  apply map_congr_left
  intro a _
  by_cases hk : key a = k <;> simp [hk, h]

lemma modify_of_none (h : t.find? k = none) : t.modify k f hf = t := by
  ext1
  refine (map_congr_left fun a ha => ?_).trans (map_id _)
  simp [t.find?_eq_none.mp h a ha]

variable {k}

/-- The sum of a column moves by the change of the rewritten row. -/
lemma sum_modify (g : α → ℕ) {a : α} (h : t.find? k = some a) :
    ((t.modify k f hf).rows.map g).sum + g a = (t.rows.map g).sum + g (f a) := by
  obtain ⟨ha, rfl⟩ := t.find?_eq_some.mp h
  obtain ⟨l₁, l₂, hl⟩ := append_of_mem ha
  have hs := t.sorted
  rw [hl, pairwise_append, pairwise_cons] at hs
  obtain ⟨-, ⟨h₂, -⟩, h₁⟩ := hs
  have e₁ : l₁.map (fun b => if key b = key a then f b else b) = l₁ :=
    (map_congr_left fun b hb => by
      rw [if_neg (ne_of_lt (h₁ b hb a (by simp)))]; rfl).trans (map_id _)
  have e₂ : l₂.map (fun b => if key b = key a then f b else b) = l₂ :=
    (map_congr_left fun b hb => by
      rw [if_neg (ne_of_gt (h₂ b hb))]; rfl).trans (map_id _)
  rw [rows_modify, hl, map_append, map_cons, e₁, e₂, if_pos rfl]
  simp only [map_append, map_cons, sum_append, sum_cons]
  omega

end Modify

lemma le_sum (t : Table key) {f : α → ℕ} (h : a ∈ t.rows) : f a ≤ (t.rows.map f).sum :=
  single_le_sum (by simp) _ (mem_map_of_mem h)

end Table

end Harness.Lib
