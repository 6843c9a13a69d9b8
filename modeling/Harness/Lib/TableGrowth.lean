import Harness.Lib.Table

/-! Two states of a table that only grows: every row stays, changed as a relation allows. -/

namespace Harness.Lib.Table

open Option

variable {α κ : Type} [LinearOrder κ] {key : α → κ} {R : α → α → Prop} {s t u : Table key}

/-- Every row of `s` is still in `t`, changed as `R` allows. -/
def Grows (R : α → α → Prop) (s t : Table key) : Prop :=
  ∀ k a, s.find? k = some a → ∃ b, t.find? k = some b ∧ R a b

lemma Grows.refl (h : ∀ a, R a a) (t : Table key) : Grows R t t := fun _ a ha => ⟨a, ha, h a⟩

lemma Grows.trans (hR : ∀ a b c, R a b → R b c → R a c) (h : Grows R s t) (h' : Grows R t u) :
    Grows R s u := by
  intro k a ha
  obtain ⟨b, hb, hab⟩ := h k a ha
  obtain ⟨c, hc, hbc⟩ := h' k b hb
  exact ⟨c, hc, hR a b c hab hbc⟩

variable {a b : α}

lemma Grows.insert_new (h : ∀ a, R a a) (hnew : s.find? (key a) = none) :
    Grows R s (s.insert a) := by
  intro k b hb
  refine ⟨b, ?_, h b⟩
  rw [find?_insert, if_neg, hb]
  rintro rfl
  rw [hnew] at hb
  cases hb

lemma Grows.insert_update (h : ∀ a, R a a) {k : κ} (ha : s.find? k = some a) (hab : R a b)
    (hkey : key b = key a) : Grows R s (s.insert b) := by
  intro k' c hc
  rw [find?_insert]
  split_ifs with hk
  · rw [hk, hkey, key_of_find? ha, ha] at hc
    cases hc
    exact ⟨b, rfl, hab⟩
  · exact ⟨c, hc, h c⟩

lemma Grows.map {f : α → α} (hf : ∀ a, key (f a) = key a) (h : ∀ a ∈ s.rows, R a (f a)) :
    Grows R s (s.map f hf) := by
  intro k a ha
  exact ⟨f a, by rw [find?_map, ha, map_some], h a (mem_of_find? ha)⟩

/-- Every row of `t` comes from a row of `s`, as `R` allows, or is new and as `N` says. -/
def Came (R : α → α → Prop) (N : α → Prop) (s t : Table key) : Prop :=
  ∀ k b, t.find? k = some b → (∃ a, s.find? k = some a ∧ R a b) ∨ s.find? k = none ∧ N b

section Came

variable {N : α → Prop}

lemma Came.refl (h : ∀ a, R a a) (t : Table key) : Came R N t t :=
  fun _ b hb => .inl ⟨b, hb, h b⟩

variable {a : α}

lemma Came.insert_new (h : ∀ a, R a a) (hnew : s.find? (key a) = none) (ha : N a) :
    Came R N s (s.insert a) := by
  intro k b hb
  rw [find?_insert] at hb
  split_ifs at hb with hk
  · cases hb
    exact .inr ⟨hk ▸ hnew, ha⟩
  · exact .inl ⟨b, hb, h b⟩

lemma Came.insert_update (h : ∀ a, R a a) {k : κ} {b : α} (ha : s.find? k = some a) (hab : R a b)
    (hkey : key b = key a) : Came R N s (s.insert b) := by
  intro k' c hc
  rw [find?_insert] at hc
  split_ifs at hc with hk
  · cases hc
    refine .inl ⟨a, ?_, hab⟩
    rw [hk, hkey, key_of_find? ha]
    exact ha
  · exact .inl ⟨c, hc, h c⟩

lemma Came.map {f : α → α} (hf : ∀ a, key (f a) = key a) (h : ∀ a ∈ s.rows, R a (f a)) :
    Came R N s (s.map f hf) := by
  intro k b hb
  rw [find?_map] at hb
  obtain ⟨a, ha, rfl⟩ := map_eq_some_iff.mp hb
  exact .inl ⟨a, ha, h a (mem_of_find? ha)⟩

end Came

/-- Replacing a row by another with its key leaves the others where they are. -/
lemma rows_insert_of_find? (h : s.find? (key b) = some a) :
    (s.insert b).rows = s.rows.map fun c => if key c = key b then b else c := by
  have hf : ∀ c, key (if key c = key b then b else c) = key c := by
    intro c
    split_ifs with hc
    · exact hc.symm
    · rfl
  have heq : s.insert b = s.map (fun c => if key c = key b then b else c) hf := by
    refine ext_find? fun k => ?_
    rw [find?_insert, find?_map]
    split_ifs with hk
    · rw [hk, h, map_some, if_pos (key_of_find? h)]
    · cases hc : s.find? k with
      | none => rfl
      | some c => rw [map_some, if_neg (by rw [key_of_find? hc]; exact hk)]
  rw [heq, rows_map]

lemma filterMap_insert_of_find? {β : Type} {g : α → Option β} (h : s.find? (key b) = some a)
    (hg : g b = g a) : (s.insert b).rows.filterMap g = s.rows.filterMap g := by
  rw [rows_insert_of_find? h, List.filterMap_map]
  refine List.filterMap_congr fun c hc => ?_
  rw [Function.comp_apply]
  split_ifs with hk
  · rw [hg, ← s.eq_of_key_eq hc (mem_of_find? h) (hk.trans (key_of_find? h).symm)]
  · rfl

end Harness.Lib.Table
