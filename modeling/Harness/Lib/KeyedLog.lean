import Mathlib.Data.List.Basic

/-! What a log says of one key: it creates the value, deletes it, edits it or does not touch it.
A log that is replayed over the value it led to, and not over the one it began with, says the same
only if it cannot tell the two apart. -/

namespace Harness.Lib.KeyedLog

open List Option

inductive Entry (β : Type) where
  | create (init : β)
  | delete
  | edit (f : β → β)
  | skip

variable {β : Type} {es : List (Entry β)}

/-- Creating what is there does nothing, and so does editing what is not. -/
def act : Entry β → Option β → Option β
  | .create init, b => b.or (some init)
  | .delete, _ => none
  | .edit f, b => b.map f
  | .skip, b => b

def replay (es : List (Entry β)) (b : Option β) : Option β := es.foldl (fun b e => act e b) b

variable {es' : List (Entry β)} {b : Option β}

lemma replay_append :
    replay (es ++ es') b = replay es' (replay es b) := foldl_append

lemma replay_concat {e : Entry β} :
    replay (es ++ [e]) b = act e (replay es b) := foldl_concat ..

lemma replay_append_skips (h : ∀ e ∈ es', e = .skip) : replay (es ++ es') b = replay es b := by
  rw [replay_append]
  induction es' with
  | nil => rfl
  | cons e es' ih =>
    rw [h e mem_cons_self]
    exact ih fun e' he' => h e' (mem_cons_of_mem e he')

/-- After a deletion, what was there before is forgotten. -/
lemma replay_of_delete (h : .delete ∈ es) : replay es b = replay es none := by
  obtain ⟨before, rest, rfl⟩ := append_of_mem h
  rw [replay_append, replay_append]
  rfl

lemma replay_none (h : ∀ init, .create init ∉ es) : replay es none = none := by
  induction es with
  | nil => rfl
  | cons e es ih =>
    have hrest := ih fun init hinit => h init (mem_cons_of_mem e hinit)
    cases e with
    | create init => exact absurd mem_cons_self (h init)
    | delete | edit f | skip => exact hrest

lemma replay_ne_none (h : .delete ∉ es) (hb : b ≠ none) : replay es b ≠ none := by
  induction es generalizing b with
  | nil => exact hb
  | cons e es ih =>
    rw [mem_cons, not_or] at h
    refine ih h.2 ?_
    obtain ⟨v, rfl⟩ := ne_none_iff_exists'.mp hb
    cases e with
    | create init => exact some_ne_none v
    | delete => exact absurd rfl h.1
    | edit f => exact some_ne_none (f v)
    | skip => exact some_ne_none v

lemma replay_ne_none_of_create (h : .delete ∉ es) {init : β} (hinit : .create init ∈ es) :
    replay es b ≠ none := by
  obtain ⟨before, rest, rfl⟩ := append_of_mem hinit
  rw [mem_append, mem_cons, not_or, not_or] at h
  rw [replay_append]
  refine replay_ne_none h.2.2 (b := act (.create init) (replay before b)) ?_
  cases replay before b <;> exact some_ne_none _

/-- What no edit changes stays as it was. -/
lemma replay_map_of_kept {γ : Type} {π : β → γ} (h : .delete ∉ es)
    (hedit : ∀ f, .edit f ∈ es → ∀ b, π (f b) = π b) (b : β) :
    (replay es (some b)).map π = some (π b) := by
  induction es generalizing b with
  | nil => rfl
  | cons e es ih =>
    rw [mem_cons, not_or] at h
    have ih := ih h.2 fun f hf => hedit f (mem_cons_of_mem e hf)
    cases e with
    | create init => exact ih b
    | delete => exact absurd rfl h.1
    | edit f => exact (ih (f b)).trans (congrArg some (hedit f mem_cons_self b))
    | skip => exact ih b

/-- What holds of everything created, and is kept by each edit, holds of what a log creates. -/
lemma forall_replay {P : β → Prop} (hcreate : ∀ init, .create init ∈ es → P init)
    (hedit : ∀ f, .edit f ∈ es → ∀ b, P b → P (f b)) (hb : ∀ v, b = some v → P v) :
    ∀ v, replay es b = some v → P v := by
  induction es generalizing b with
  | nil => exact hb
  | cons e es ih =>
    refine ih (fun init h => hcreate init (mem_cons_of_mem e h))
      (fun f h => hedit f (mem_cons_of_mem e h)) fun v hv => ?_
    cases e with
    | create init =>
      cases b with
      | none =>
        obtain rfl := some.inj hv
        exact hcreate init mem_cons_self
      | some b => exact hb v hv
    | delete => cases hv
    | edit f =>
      obtain ⟨b', rfl, rfl⟩ := map_eq_some_iff.mp hv
      exact hedit f mem_cons_self b' (hb b' rfl)
    | skip => exact hb v hv

/-! A log fits a value if it can be replayed over it and changes nothing that is seen. -/

section Fits

variable {γ : Type} {seen : β → γ} {b : Option β}

def Fits (seen : β → γ) (es : List (Entry β)) (b : Option β) : Prop :=
  (replay es b).map seen = b.map seen

lemma fits_append_skips {es' : List (Entry β)} (h : ∀ e ∈ es', e = .skip) :
    Fits seen (es ++ es') b ↔ Fits seen es b := by
  unfold Fits
  rw [replay_append_skips h]

lemma fits_none : Fits seen es none ↔ replay es none = none := map_eq_none_iff

lemma fits_concat_delete : Fits seen (es ++ [.delete]) none := by
  rw [fits_none, replay_append]
  rfl

lemma fits_of_delete (h : .delete ∈ es) {b : β} :
    Fits seen es (some b) ↔ (replay es none).map seen = some (seen b) := by
  unfold Fits
  rw [replay_of_delete h]
  rfl

lemma not_delete_of_fits (h : Fits seen es none) {b : β} (h' : Fits seen es (some b)) :
    .delete ∉ es := by
  intro hdelete
  rw [fits_of_delete hdelete, fits_none.mp h] at h'
  cases h'

/-- A log that fits what it led to fits nothing exactly when it creates nothing. -/
lemma fits_none_iff (h : Fits seen es b) :
    Fits seen es none ↔ (b ≠ none → ∀ init, .create init ∉ es) := by
  cases b with
  | none => exact iff_of_true h fun hne => absurd rfl hne
  | some b =>
    refine ⟨fun hnone _ init hinit => ?_, fun hcreate =>
      fits_none.mpr (replay_none (hcreate (some_ne_none b)))⟩
    exact replay_ne_none_of_create (not_delete_of_fits hnone h) hinit (fits_none.mp hnone)

end Fits

end Harness.Lib.KeyedLog
