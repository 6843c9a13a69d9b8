import Mathlib.Data.List.Basic

/-! JSON values: what a lookup finds, and what it finds after an insertion. -/

namespace Harness.Lib

open List

/-- A number that fits into 64 bits without a sign stands for itself, any other for its text. -/
inductive Json where
  | null
  | bool (b : Bool)
  | uint (n : UInt64)
  | number (text : String)
  | str (s : String)
  | arr (items : List Json)
  | obj (members : List (String × Json))

namespace Json

def get? : Json → String → Option Json
  | obj members, key => members.lookup key
  | _, _ => none

/-- The value at the end of a path of member names. -/
def pointer (v : Json) (path : List String) : Option Json := path.foldlM get? v

def asU64 : Json → Option UInt64
  | uint n => some n
  | _ => none

def asStr : Json → Option String
  | str s => some s
  | _ => none

def asObject : Json → Option (List (String × Json))
  | obj members => some members
  | _ => none

def isObject : Json → Bool
  | obj _ => true
  | _ => false

/-- Put a member into an object, in place of one with its name. -/
def insertMember (members : List (String × Json)) (key : String) (v : Json) :
    List (String × Json) :=
  (key, v) :: members.filter fun m => m.1 ≠ key

def text (v : Json) (key : String) : Option String := (v.get? key).bind asStr

/-- `as_object_mut` and `insert`: what is not an object stays as it is. -/
def set : Json → String → Json → Json
  | obj members, key, value => obj (insertMember members key value)
  | v, _, _ => v

variable {v : Json} {members : List (String × Json)} {key key' : String}

lemma pointer_cons {path : List String} :
    v.pointer (key :: path) = (v.get? key).bind fun w => w.pointer path := by
  unfold pointer
  rfl

lemma lookup_insertMember_self : (insertMember members key v).lookup key = some v := by
  simp [insertMember]

private lemma lookup_filter_ne (h : key' ≠ key) :
    ∀ members : List (String × Json),
      (members.filter fun m => m.1 ≠ key).lookup key' = members.lookup key' := by
  intro members
  induction members with
  | nil => rfl
  | cons m members ih =>
    by_cases hname : m.1 = key
    · rw [filter_cons_of_neg (by simpa using hname), ih, lookup_cons, hname,
        beq_false_of_ne h]
    · rw [filter_cons_of_pos (by simpa using hname), lookup_cons, lookup_cons, ih]

lemma lookup_insertMember_of_ne (h : key' ≠ key) :
    (insertMember members key v).lookup key' = members.lookup key' := by
  rw [insertMember, lookup_cons, beq_false_of_ne h]
  exact lookup_filter_ne h members

lemma text_set_of_ne {value : Json} (h : key' ≠ key) :
    (v.set key value).text key' = v.text key' := by
  cases v with
  | obj members =>
    exact congrArg (Option.bind · asStr) (lookup_insertMember_of_ne h)
  | _ => rfl

/-- A value with a text under some name is an object. -/
lemma text_set_self {s : String} (h : v.text key' = some s) (key value : String) :
    (v.set key (.str value)).text key = some value := by
  cases v with
  | obj members =>
    exact congrArg (Option.bind · asStr) lookup_insertMember_self
  | _ => cases h

end Json

end Harness.Lib
