import Harness.Lib.Trace
import Harness.Spec.Redaction

/-! A run of `redact_secrets` on cells that carry their place in the text shows which places are
still there at the end: those that no occurrence of a secret covers which was still whole at its
turn. A secret that an earlier one broke up may leave its tail. -/

namespace Harness.Redaction

open List

variable {l : List (Char × Option ℕ)} {p : ℕ}

/-- What replaces a secret has no place in the text. -/
def stars : List (Char × Option ℕ) :=
  "***".toList.map (·, none)

def trace (text : String) (secrets : List String) : List (Char × Option ℕ) :=
  redact Prod.fst stars (text.toList.zipIdx.map fun c => (c.1, some c.2)) secrets

def places (l : List (Char × Option ℕ)) : List ℕ :=
  l.flatMap (·.2.toList)

/-- The place belongs to an occurrence of one of the secrets. -/
def InSecret (text : String) (secrets : List String) (p : ℕ) : Prop :=
  ∃ secret ∈ secrets, ∃ i, secret.toList <+: text.toList.drop i ∧ i ≤ p ∧
    p < i + secret.toList.length

lemma replace_map {α : Type} {char : α → Char} {star : List α} {secret : List Char} {skip : ℕ}
    {l : List α} :
    (replace char star secret skip l).map char =
      replace id (star.map char) secret skip (l.map char) := by
  induction l generalizing skip with
  | nil => simp [replace]
  | cons a l ih =>
    cases skip with
    | zero => simp only [replace, apply_ite (map char), map_append, map_cons, map_id, id_eq, ih]
    | succ skip => simp [replace, ih]

lemma trace_map {text : String} {secrets : List String} :
    (trace text secrets).map Prod.fst = (redactSecrets text secrets).toList := by
  have hstart : (text.toList.zipIdx.map fun c => (c.1, some c.2)).map Prod.fst = text.toList := by
    simp [Function.comp_def]
  rw [redactSecrets, String.toList_ofList, ← hstart]
  refine (foldl_hom _ fun result secret => ?_).symm
  have hstars : stars.map Prod.fst = "***".toList := by decide
  simp only [map_id, apply_ite (map Prod.fst), replace_map, hstars]

@[simp] lemma places_cons {a : Char × Option ℕ} : places (a :: l) = a.2.toList ++ places l :=
  flatMap_cons

@[simp] lemma places_stars : places (stars ++ l) = places l := by
  rfl

section Selection

variable (text : List Char) (secrets : List String)

/-- The characters of the secret with this number; none if there is no such secret. -/
def word (n : ℕ) : List Char := (secrets[n]?.getD "").toList

/-- The place belongs to the word with number `n` at place `i`. -/
def Covers (n i p : ℕ) : Prop := i ≤ p ∧ p < i + (word secrets n).length

/-- The word with number `n` occurs at place `i` of the text, and no occurrence of an earlier word,
or an earlier one of the same word, was taken that shares a place with it. -/
def Taken (n i : ℕ) : Prop :=
  word secrets n ≠ [] ∧ word secrets n <+: text.drop i ∧
    ∀ m j, (m < n ∨ m = n ∧ j < i) → Taken m j →
      ∀ p, Covers secrets n i p → ¬Covers secrets m j p
termination_by (n, i)
decreasing_by
  all_goals
    simp only [Prod.lex_def]
    assumption

end Selection

/-- What is left of the characters from place `i` on: each is still there, or a block of them was
replaced by stars. -/
inductive Layout : ℕ → List Char → List (Char × Option ℕ) → Prop
  | nil {i : ℕ} : Layout i [] []
  | keep {i : ℕ} {c : Char} {cs : List Char} {l : List (Char × Option ℕ)} (h : Layout (i + 1) cs l) :
      Layout i (c :: cs) ((c, some i) :: l)
  | block {i k : ℕ} {cs : List Char} {l : List (Char × Option ℕ)} (hk : 0 < k)
      (h : Layout (i + k) (cs.drop k) l) : Layout i cs (stars ++ l)

variable {i : ℕ} {cs w : List Char}

lemma places_behind {c : Char} (h : i < p) : p ∈ places ((c, some i) :: l) ↔ p ∈ places l := by
  rw [places_cons, Option.toList_some, singleton_append, mem_cons, or_iff_right (by omega)]

lemma Layout.le (h : Layout i cs l) (hp : p ∈ places l) : i ≤ p := by
  induction h with
  | nil => cases hp
  | keep _ ih =>
    rcases mem_cons.mp hp with rfl | hp
    · exact le_rfl
    · exact (Nat.le_succ _).trans (ih hp)
  | block _ _ ih => exact (Nat.le_add_right _ _).trans (ih hp)

/-- A word without stars is there if and only if none of its places is gone. -/
lemma Layout.prefix_iff (h : Layout i cs l) (hw : '*' ∉ w) :
    w <+: l.map Prod.fst ↔ w <+: cs ∧ ∀ p, i ≤ p → p < i + w.length → p ∈ places l := by
  induction w generalizing i cs l with
  | nil => simp; omega
  | cons a w ih =>
    obtain ⟨ha, hw⟩ := not_or.mp (mt mem_cons.mpr hw)
    cases h with
    | nil => simp
    | keep h =>
      simp only [map_cons, cons_prefix_cons, ih h hw, places_cons, Option.toList_some,
        singleton_append, mem_cons, length_cons]
      rw [and_assoc]
      refine and_congr_right fun _ => and_congr_right fun _ =>
        ⟨fun hall p h1 h2 => ?_, fun hall p h1 h2 => ?_⟩
      · rcases h1.eq_or_lt with rfl | hlt
        · exact .inl rfl
        · exact .inr (hall p hlt (by omega))
      · exact (hall p (by omega) (by omega)).resolve_left (by omega)
    | block hk h =>
      refine iff_of_false (fun hpre => ha (cons_prefix_cons.mp hpre).1.symm) fun ⟨_, hall⟩ => ?_
      have := h.le (hall i le_rfl (by simp))
      omega

/-- The text behind a word that is there. -/
lemma Layout.drop (h : Layout i cs l) (hw : '*' ∉ w) (hpre : w <+: l.map Prod.fst) :
    Layout (i + w.length) (cs.drop w.length) (l.drop w.length) ∧
      ∀ p, i + w.length ≤ p → (p ∈ places (l.drop w.length) ↔ p ∈ places l) := by
  induction w generalizing i cs l with
  | nil => exact ⟨h, fun _ _ => Iff.rfl⟩
  | cons a w ih =>
    obtain ⟨ha, hw⟩ := not_or.mp (mt mem_cons.mpr hw)
    cases h with
    | nil => cases prefix_nil.mp hpre
    | keep h =>
      obtain ⟨hrest, hplaces⟩ := ih h hw (cons_prefix_cons.mp hpre).2
      rw [Nat.add_right_comm] at hrest hplaces
      refine ⟨hrest, fun p hp => (hplaces p hp).trans (places_behind ?_).symm⟩
      rw [length_cons] at hp
      omega
    | block => exact absurd (cons_prefix_cons.mp hpre).1.symm ha

section Replace

variable {star : List (Char × Option ℕ)}

lemma replace_skip {skip : ℕ} :
    replace Prod.fst star w skip l = replace Prod.fst star w 0 (l.drop skip) := by
  induction l generalizing skip with
  | nil => simp [replace]
  | cons a l ih =>
    cases skip with
    | zero => rfl
    | succ skip => exact ih

lemma replace_absent (h : ¬w <:+: l.map Prod.fst) : replace Prod.fst star w 0 l = l := by
  induction l with
  | nil => rfl
  | cons a l ih =>
    rw [replace, if_neg fun hpre => h hpre.isInfix, ih fun hin => h ?_]
    exact hin.trans (suffix_cons _ _).isInfix

lemma replace_stars (hne : w ≠ []) (hw : '*' ∉ w) :
    replace Prod.fst star w 0 (stars ++ l) = stars ++ replace Prod.fst star w 0 l := by
  have hstars : stars = [('*', none), ('*', none), ('*', none)] := by decide
  have hnot : ∀ rest : List Char, ¬w <+: '*' :: rest := by
    rintro rest hpre
    obtain ⟨a, w, rfl⟩ := exists_cons_of_ne_nil hne
    exact hw (mem_cons.mpr (.inl (cons_prefix_cons.mp hpre).1.symm))
  simp [hstars, replace, hnot]

end Replace

variable {text : List Char} {secrets : List String} {n : ℕ}

variable (text secrets) in
/-- One of the first `n` words has covered the place. -/
def Gone (n p : ℕ) : Prop := ∃ m j, m < n ∧ Taken text secrets m j ∧ Covers secrets m j p

lemma gone_succ :
    Gone text secrets (n + 1) p ↔
      Gone text secrets n p ∨ ∃ j, Taken text secrets n j ∧ Covers secrets n j p := by
  constructor
  · rintro ⟨m, j, hm, ht, hc⟩
    rcases Nat.lt_succ_iff_lt_or_eq.mp hm with hlt | rfl
    · exact .inl ⟨m, j, hlt, ht, hc⟩
    · exact .inr ⟨j, ht, hc⟩
  · rintro (⟨m, j, hm, ht, hc⟩ | ⟨j, ht, hc⟩)
    · exact ⟨m, j, hm.trans (Nat.lt_succ_self n), ht, hc⟩
    · exact ⟨n, j, Nat.lt_succ_self n, ht, hc⟩

lemma Taken.not_gone (h : Taken text secrets n i) (hc : Covers secrets n i p) :
    ¬Gone text secrets n p := by
  rw [Taken] at h
  rintro ⟨m, j, hm, ht, hc'⟩
  exact h.2.2 m j (.inl hm) ht p hc hc'

lemma Taken.lt_length (h : Taken text secrets n i) (hc : Covers secrets n i p) : p < text.length := by
  rw [Taken] at h
  have hpos := length_pos_of_ne_nil h.1
  have hle := h.2.1.length_le
  rw [length_drop] at hle
  have := hc.2
  omega

variable (text secrets) in
/-- What was taken of the word before place `i` ends there. -/
def Behind (n i : ℕ) : Prop := ∀ j < i, Taken text secrets n j → j + (word secrets n).length ≤ i

variable (text secrets) in
/-- The text from place `i` on, as the first `n` words left it. -/
structure Left (n i : ℕ) (l : List (Char × Option ℕ)) : Prop where
  layout : Layout i (text.drop i) l
  places_iff : ∀ p, i ≤ p → p < text.length → (p ∈ places l ↔ ¬Gone text secrets n p)

/-- At the turn of a word, an occurrence behind the last one taken is taken if it is still whole. -/
lemma taken_iff (hprev : Behind text secrets n i) :
    Taken text secrets n i ↔
      word secrets n ≠ [] ∧ word secrets n <+: text.drop i ∧
        ∀ p, Covers secrets n i p → ¬Gone text secrets n p := by
  refine ⟨fun h => ?_, fun ⟨hne, hpre, hfree⟩ => ?_⟩
  · have hfree := fun p hc => h.not_gone (p := p) hc
    rw [Taken] at h
    exact ⟨h.1, h.2.1, hfree⟩
  · rw [Taken]
    refine ⟨hne, hpre, ?_⟩
    rintro m j (hm | ⟨rfl, hj⟩) ht p hc hc'
    · exact hfree p hc ⟨m, j, hm, ht, hc'⟩
    · have := hprev j hj ht
      have := hc.1
      have := hc'.2
      omega

lemma Left.block {k : ℕ} (hk : 0 < k) (h : Left text secrets n (i + k) l)
    (hgone : ∀ p, i ≤ p → p < i + k → p < text.length → Gone text secrets n p) :
    Left text secrets n i (stars ++ l) := by
  refine ⟨.block hk (by rw [drop_drop]; exact h.layout), fun p h1 h2 => ?_⟩
  rw [places_stars]
  by_cases hlt : p < i + k
  · refine iff_of_false (fun hmem => ?_) (not_not.mpr (hgone p h1 hlt h2))
    have := h.layout.le hmem
    omega
  · exact h.places_iff p (by omega) h2

section Turn

variable (hne : word secrets n ≠ []) (hw : '*' ∉ word secrets n)
include hne hw

/-- The word is in the text just in case its occurrence there is taken. -/
lemma Left.taken_iff (h : Left text secrets n i l) (hprev : Behind text secrets n i) :
    Taken text secrets n i ↔ word secrets n <+: l.map Prod.fst := by
  rw [Redaction.taken_iff hprev, and_iff_right hne, h.layout.prefix_iff hw]
  refine and_congr_right fun hpre => ?_
  have hle := hpre.length_le
  rw [length_drop] at hle
  exact ⟨fun hfree p h1 h2 => (h.places_iff p h1 (by omega)).mpr (hfree p ⟨h1, h2⟩),
    fun hfree p ⟨h1, h2⟩ => (h.places_iff p h1 (by omega)).mp (hfree p h1 h2)⟩

/-- The turn of a word, from the place the replacement has come to. -/
lemma Left.replace (h : Left text secrets n i l) (hprev : Behind text secrets n i) :
    Left text secrets (n + 1) i (replace Prod.fst stars (word secrets n) 0 l) := by
  induction hlen : l.length using Nat.strong_induction_on generalizing i l with
  | h len ih =>
  subst hlen
  have hpos := length_pos_of_ne_nil hne
  have hstart := h.taken_iff hne hw hprev
  obtain ⟨hlay, hleft⟩ := h
  generalize hcs : text.drop i = cs at hlay
  cases hlay with
  | nil =>
    refine ⟨hcs ▸ .nil, fun p hi hp => ?_⟩
    have := drop_eq_nil_iff.mp hcs
    omega
  | @keep _ c cs l hlay =>
    by_cases hm : word secrets n <+: ((c, some i) :: l).map Prod.fst
    · have ht := hstart.mpr hm
      obtain ⟨hrest, hplaces⟩ := (Layout.keep hlay).drop hw hm
      rw [← hcs, drop_drop] at hrest
      have hprev' : Behind text secrets n (i + (word secrets n).length) := by
        -- an occurrence that begins inside this one is not taken
        intro j hj htj
        by_contra hover
        rw [Taken] at htj
        exact htj.2.2 n i (.inr ⟨rfl, by omega⟩) ht j ⟨le_rfl, by omega⟩ ⟨by omega, hj⟩
      have hnext := ih _ (by rw [length_drop, length_cons]; omega)
        ⟨hrest, fun p h1 h2 => (hplaces p h1).trans (hleft p (by omega) h2)⟩ hprev' rfl
      rw [Redaction.replace, if_pos hm, replace_skip]
      obtain ⟨a, w, hword⟩ := exists_cons_of_ne_nil hne
      have hskip : l.drop ((word secrets n).length - 1) =
          ((c, some i) :: l).drop (word secrets n).length := by
        rw [hword]
        rfl
      rw [hskip]
      exact hnext.block hpos fun p h1 h2 _ => gone_succ.mpr (.inr ⟨i, ht, h1, h2⟩)
    · have ht := mt hstart.mp hm
      have hdrop : cs = text.drop (i + 1) := by
        rw [← tail_drop, hcs]
        rfl
      have hprev' : Behind text secrets n (i + 1) := by
        intro j hj htj
        rcases Nat.lt_succ_iff_lt_or_eq.mp hj with hj | rfl
        · exact (hprev j hj htj).trans (Nat.le_succ _)
        · exact absurd htj ht
      obtain ⟨hnext, hout⟩ := ih _ (Nat.lt_succ_self _) ⟨hdrop ▸ hlay, fun p h1 h2 =>
        (places_behind h1).symm.trans (hleft p (by omega) h2)⟩ hprev' rfl
      rw [Redaction.replace, if_neg hm]
      refine ⟨hcs ▸ .keep (hdrop ▸ hnext), fun p h1 h2 => ?_⟩
      rcases h1.eq_or_lt with rfl | hlt
      · refine iff_of_true mem_cons_self ?_
        rw [gone_succ, not_or]
        refine ⟨(hleft i le_rfl h2).mp mem_cons_self, ?_⟩
        rintro ⟨j, htj, hj, hi⟩
        rcases hj.eq_or_lt with rfl | hj
        · exact ht htj
        · have := hprev j hj htj
          omega
      · exact (places_behind hlt).trans (hout p hlt h2)
  | @block _ k _ l hk hlay =>
    have hgone : ∀ p, i ≤ p → p < i + k → p < text.length → Gone text secrets n p := by
      intro p h1 h2 h3
      by_contra hnot
      have := hlay.le ((hleft p h1 h3).mpr hnot)
      omega
    rw [← hcs, drop_drop] at hlay
    have hprev' : Behind text secrets n (i + k) := by
      intro j hj htj
      by_cases hji : j < i
      · exact (hprev j hji htj).trans (Nat.le_add_right _ _)
      · have hc : Covers secrets n j j := ⟨le_rfl, by omega⟩
        exact absurd (hgone j (by omega) hj (htj.lt_length hc)) (htj.not_gone hc)
    have hnext := ih _ (by rw [length_append]; exact Nat.lt_add_of_pos_left (by decide))
      ⟨hlay, fun p h1 h2 => hleft p (by omega) h2⟩ hprev' rfl
    rw [replace_stars hne hw]
    exact hnext.block hk fun p h1 h2 h3 => gone_succ.mpr (.inl (hgone p h1 h2 h3))

end Turn

lemma layout_cells (cs : List Char) (i : ℕ) :
    Layout i cs ((cs.zipIdx i).map fun c => (c.1, some c.2)) := by
  induction cs generalizing i with
  | nil => exact .nil
  | cons c cs ih => exact .keep (ih (i + 1))

lemma trace_succ {text : String} :
    trace text (secrets.take (n + 1)) =
      if word secrets n = [] then trace text (secrets.take n)
      else replace Prod.fst stars (word secrets n) 0 (trace text (secrets.take n)) := by
  unfold word
  cases hs : secrets[n]? with
  | none =>
    rw [Lib.take_succ_eq_take hs]
    exact (if_pos rfl).symm
  | some secret =>
    rw [trace, redact, Lib.foldl_take_succ hs]
    change (if _ then _ else trace text (secrets.take n)) = _
    rw [Option.getD_some]
    by_cases hne : secret.toList = []
    · rw [if_neg fun h => h.1 hne, if_pos hne]
    · rw [if_neg hne]
      split_ifs with hin
      · rfl
      · exact (replace_absent fun h => hin ⟨hne, h⟩).symm

/-- After the first `n` secrets the places left are those that none of them has covered. -/
lemma left_trace {text : String} (hstar : ∀ secret ∈ secrets, '*' ∉ secret.toList) (n : ℕ) :
    Left text.toList secrets n 0 (trace text (secrets.take n)) := by
  induction n with
  | zero =>
    refine ⟨layout_cells text.toList 0, fun p _ hp => iff_of_true ?_ ?_⟩
    · simp [trace, redact, places, flatMap_map, ← map_eq_flatMap, ← range_eq_range', hp]
    · rintro ⟨m, _, hm, -⟩
      cases hm
  | succ n ih =>
    rw [trace_succ]
    split_ifs with hne
    · refine ⟨ih.layout, fun p h1 h2 => (ih.places_iff p h1 h2).trans (not_congr ?_)⟩
      rw [gone_succ, or_iff_left]
      rintro ⟨j, ht, -⟩
      rw [Taken] at ht
      exact ht.1 hne
    · have hw : '*' ∉ word secrets n := by
        unfold word
        cases hs : secrets[n]? with
        | none => exact not_mem_nil
        | some secret => exact hstar secret (mem_of_getElem? hs)
      exact ih.replace hne hw fun j hj => absurd hj (Nat.not_lt_zero j)

end Harness.Redaction
