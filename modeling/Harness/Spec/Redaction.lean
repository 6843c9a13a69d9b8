import Mathlib.Data.List.Infix

/-! Redaction of known secrets (`provider/redaction.rs`). A text is a list of cells with a character
each, so that the same code also runs on cells that know where they come from. -/

namespace Harness.Redaction

variable {α : Type} (char : α → Char) (star : List α)

/-- `str::replace`: leftmost matches that do not overlap. The first `skip` cells belong to a match
already replaced. -/
def replace (secret : List Char) : ℕ → List α → List α
  | _, [] => []
  | 0, a :: rest =>
    if secret <+: (a :: rest).map char then star ++ replace secret (secret.length - 1) rest
    else a :: replace secret 0 rest
  | skip + 1, _ :: rest => replace secret skip rest

def redact (text : List α) (secrets : List String) : List α :=
  secrets.foldl (fun result secret =>
    if secret.toList ≠ [] ∧ secret.toList <:+: result.map char then
      replace char star secret.toList 0 result
    else result) text

def redactSecrets (text : String) (secrets : List String) : String :=
  .ofList (redact id "***".toList text.toList secrets)

end Harness.Redaction
