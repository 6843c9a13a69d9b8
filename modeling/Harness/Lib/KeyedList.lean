import Mathlib.Data.List.Nodup
import Mathlib.Data.List.Perm.Basic

/-! Lists whose items have a key: what a lookup by key finds after the list has changed. -/

namespace Harness.Lib.KeyedList

open List Function

variable {α κ : Type} {key : α → κ}

variable {l : List α} {a b : α} {k : κ}

/-- What stands before a separator, and what after it. -/
lemma append_cons_inj {l' r r' : List α} (hl : a ∉ l) (hl' : a ∉ l')
    (h : l ++ a :: r = l' ++ a :: r') : l = l' ∧ r = r' := by
  rcases append_eq_append_iff.mp h with ⟨m, rfl, hm⟩ | ⟨m, rfl, hm⟩
  · cases m with
    | nil => simp_all
    | cons b m => simp_all
  · cases m with
    | nil => simp_all
    | cons b m => simp_all

lemma nodup_map_of_keys {γ : Type} {val : α → γ} (hl : (l.map key).Nodup) :
    (l.map fun a => (key a, val a)).Nodup := by
  refine List.Nodup.of_map Prod.fst ?_
  rw [map_map]
  exact hl

variable [DecidableEq κ]

/-- The first item with this key. -/
def lookup (key : α → κ) (l : List α) (k : κ) : Option α := l.find? fun a => key a = k

lemma key_of_lookup (h : lookup key l k = some a) : key a = k := by
  simpa using find?_some h

lemma mem_of_lookup (h : lookup key l k = some a) : a ∈ l :=
  mem_of_find?_eq_some h

lemma lookup_eq_none : lookup key l k = none ↔ ∀ a ∈ l, key a ≠ k := by
  simp [lookup]

lemma lookup_eq_some (hl : (l.map key).Nodup) : lookup key l k = some a ↔ a ∈ l ∧ key a = k := by
  refine ⟨fun h => ⟨mem_of_lookup h, key_of_lookup h⟩, ?_⟩
  rintro ⟨ha, rfl⟩
  cases h : lookup key l (key a) with
  | none => exact absurd rfl (lookup_eq_none.mp h a ha)
  | some b => rw [inj_on_of_nodup_map hl (mem_of_lookup h) ha (key_of_lookup h)]

lemma lookup_append_singleton :
    lookup key (l ++ [a]) k = (lookup key l k).or (if key a = k then some a else none) := by
  unfold lookup
  by_cases h : key a = k <;> simp [h]

/-- An item with a new key comes after the others. -/
lemma lookup_append_of_new (hnew : lookup key l (key a) = none) :
    lookup key (l ++ [a]) k = if k = key a then some a else lookup key l k := by
  rw [lookup_append_singleton]
  by_cases h : k = key a
  · rw [if_pos h, if_pos h.symm, h, hnew]
    rfl
  · rw [if_neg h, if_neg (Ne.symm h), Option.or_none]

lemma lookup_filter_ne (l : List α) (k k' : κ) :
    lookup key (l.filter fun a => key a ≠ k) k' = if k' = k then none else lookup key l k' := by
  unfold lookup
  rw [find?_filter]
  by_cases h : k' = k
  · rw [if_pos h, find?_eq_none]
    simp [h]
  · rw [if_neg h]
    congr 1
    funext a
    by_cases ha : key a = k' <;> simp [ha, h]

/-- Put `b` in the place of the items with its key. -/
lemma lookup_map_replace (hb : key b = k) {k' : κ} :
    lookup key (l.map fun a => if key a = k then b else a) k' =
      if k' = k then (lookup key l k).map fun _ => b else lookup key l k' := by
  unfold lookup
  induction l with
  | nil => simp
  | cons a l ih =>
    rw [map_cons, find?_cons, ih]
    by_cases ha : key a = k
    · by_cases hk : k' = k
      · simp [ha, hb, hk]
      · simp [ha, hb, hk, Ne.symm hk]
    · by_cases hk : k' = k
      · simp [ha, hk]
      · simp [ha, hk, find?_cons]

section Values

variable {γ : Type} {val : α → γ} {l : List α} {a b : α} {k : κ}

lemma map_lookup_append (hnew : lookup key l (key a) = none) :
    (fun k => (lookup key (l ++ [a]) k).map val) =
      update (fun k => (lookup key l k).map val) (key a) (some (val a)) := by
  funext k
  rw [lookup_append_of_new hnew, update_apply]
  split_ifs <;> rfl

lemma map_lookup_filter_ne :
    (fun k' => (lookup key (l.filter fun a => key a ≠ k) k').map val) =
      update (fun k' => (lookup key l k').map val) k none := by
  funext k'
  rw [lookup_filter_ne, update_apply]
  split_ifs <;> rfl

lemma map_lookup_replace (h : lookup key l k = some a) (hb : key b = k) :
    (fun k' => (lookup key (l.map fun a => if key a = k then b else a) k').map val) =
      update (fun k' => (lookup key l k').map val) k (some (val b)) := by
  funext k'
  rw [lookup_map_replace hb, update_apply, h]
  split_ifs <;> rfl

end Values

lemma nodup_append_of_new (hl : (l.map key).Nodup) (hnew : lookup key l (key a) = none) :
    ((l ++ [a]).map key).Nodup := by
  rw [map_append, map_singleton, nodup_append]
  refine ⟨hl, nodup_singleton _, fun k hk k' hk' => ?_⟩
  obtain ⟨b, hb, rfl⟩ := mem_map.mp hk
  rw [mem_singleton.mp hk']
  exact lookup_eq_none.mp hnew b hb

lemma map_key_replace (hb : key b = k) :
    (l.map fun a => if key a = k then b else a).map key = l.map key := by
  rw [map_map]
  refine map_congr_left fun a _ => ?_
  rw [comp_apply]
  split_ifs with ha
  · rw [hb, ha]
  · rfl

section Values

variable {β γ : Type} {key' : β → κ} {val : α → γ} {val' : β → γ} {l : List α} {l' : List β}

lemma mem_map_iff_lookup (hl : (l.map key).Nodup) {p : κ × γ} :
    p ∈ l.map (fun a => (key a, val a)) ↔ (lookup key l p.1).map val = some p.2 := by
  rw [mem_map, Option.map_eq_some_iff]
  constructor
  · rintro ⟨a, ha, rfl⟩
    exact ⟨a, (lookup_eq_some hl).mpr ⟨ha, rfl⟩, rfl⟩
  · rintro ⟨a, ha, hval⟩
    obtain ⟨ha, hkey⟩ := (lookup_eq_some hl).mp ha
    exact ⟨a, ha, Prod.ext hkey hval⟩

/-- Two lists are the same up to their order just in case they look alike under every key. -/
lemma perm_iff_lookup (hl : (l.map key).Nodup) (hl' : (l'.map key').Nodup) :
    (l.map fun a => (key a, val a)).Perm (l'.map fun b => (key' b, val' b)) ↔
      ∀ k, (lookup key l k).map val = (lookup key' l' k).map val' := by
  rw [perm_ext_iff_of_nodup (nodup_map_of_keys hl) (nodup_map_of_keys hl')]
  constructor
  · intro h k
    refine Option.ext fun v => ?_
    exact (mem_map_iff_lookup hl).symm.trans ((h (k, v)).trans (mem_map_iff_lookup hl'))
  · intro h p
    rw [mem_map_iff_lookup hl, mem_map_iff_lookup hl', h]

end Values

end Harness.Lib.KeyedList
