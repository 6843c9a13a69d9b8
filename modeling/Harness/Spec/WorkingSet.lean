import Mathlib.Data.List.Infix
import Mathlib.Data.List.SplitOn
import Mathlib.Data.Nat.Notation
import Mathlib.Data.String.Basic

/-! The working set. Its digests tell a provider's cache what has changed. Of a tool's result the
model sees a bounded part, in which the lines that tell of a failure come first. Decoding,
redaction and hashing are given. -/

namespace Harness.WorkingSet

inductive RecipeKind where
  | gitBlob
  | artifactRef
  | deterministicRerun
deriving DecidableEq

structure RehydrationHandle where
  (sourceOwner sourceIdentity contentSha256 : String)
  recipeKind : RecipeKind

structure ProjectorError where
  (code message : String)

structure Externals where
  isWhitespace : Char → Bool
  contentSha256 : ByteArray → String
  fromUtf8Lossy : ByteArray → String
  redactSensitivePatterns : String → String

inductive Residency where
  | pinned
  | hot
  | warm
  | cold
deriving DecidableEq

inductive ItemKind where
  | authority
  | blocker
  | outcomeUnknown
  | working
  | toolResult
deriving DecidableEq

structure SourceIdentity where
  (owner identity contentSha256 : String)

structure ProjectedItem where
  identity : SourceIdentity
  kind : ItemKind
  residency : Residency
  bytes : ByteArray

structure ProjectedWorkingSet where
  (prefixItems dynamic : List ProjectedItem)
  coldHandles : List RehydrationHandle

structure CacheTelemetryObservation where
  providerId : String
  (cachedInputTokens cacheWriteTokens : Option ℕ)

structure CachePartition where
  (stablePrefixDigest dynamicDigest : String)
  telemetry : Option CacheTelemetryObservation

/-- `{:?}`. -/
def ItemKind.debug : ItemKind → String
  | .authority => "Authority"
  | .blocker => "Blocker"
  | .outcomeUnknown => "OutcomeUnknown"
  | .working => "Working"
  | .toolResult => "ToolResult"

def itemFingerprint (item : ProjectedItem) : String :=
  item.identity.owner ++ "\x00" ++ item.identity.identity ++ "\x00" ++
    item.identity.contentSha256 ++ "\x00" ++ item.kind.debug

/-- Each line is pushed with its end. -/
def material : List String → String
  | [] => ""
  | line :: lines => line ++ "\n" ++ material lines

def partitionWorkingSet (ext : Externals) (projected : ProjectedWorkingSet)
    (telemetry : Option CacheTelemetryObservation) : Except ProjectorError CachePartition :=
  if projected.prefixItems.any fun item => item.residency ≠ .pinned then
    .error ⟨"prefix_contaminated", "stable prefix may only contain PINNED items"⟩
  else if projected.dynamic.any fun item =>
      item.kind = .authority || item.kind = .blocker || item.kind = .outcomeUnknown then
    .error ⟨"prefix_contaminated",
      "authority/blocker/unknown must not enter the dynamic partition"⟩
  else
    let prefixMaterial := material (projected.prefixItems.map itemFingerprint)
    let dynamicMaterial := material (projected.dynamic.map itemFingerprint ++
      projected.coldHandles.map (·.contentSha256))
    .ok ⟨ext.contentSha256 prefixMaterial.toByteArray,
      ext.contentSha256 dynamicMaterial.toByteArray, telemetry⟩

inductive ToolOutcome where
  | success
  | failure
  | unknown
deriving DecidableEq

structure ToolResultAdmission where
  outcome : ToolOutcome
  raw : ByteArray
  (artifactId owner : String)
  maxVisibleBytes : ℕ
  stale : Bool

structure ReducedToolResult where
  outcome : ToolOutcome
  visible : ByteArray
  handle : RehydrationHandle
  (truncated redacted : Bool)

/-- `str::lines`. -/
def lines (text : String) : List String :=
  let parts := text.toList.splitOn '\n'
  let ended := parts.dropLast.map fun line =>
    if line.getLast? = some '\r' then line.dropLast else line
  (ended ++ (parts.getLast?.filter (· ≠ [])).toList).map String.ofList

def isSalientLine (line : String) : Bool :=
  let upper := line.toList.map Char.toUpper
  ["ERROR", "FAIL", "PANIC", "BLOCKER", "UNKNOWN"].any fun word =>
    upper.tails.any word.toList.isPrefixOf

/-- One turn of the loop over the lines. -/
def keepSalient (maxBytes : ℕ) (kept line : String) : String :=
  if isSalientLine line then
    let candidate := if kept.isEmpty then line else kept ++ "\n" ++ line
    if candidate.utf8ByteSize ≤ maxBytes then candidate else kept
  else kept

/-- The characters up to the last boundary within so many bytes. -/
def headWithin : ℕ → List Char → List Char
  | _, [] => []
  | n, c :: text => if c.utf8Size ≤ n then c :: headWithin (n - c.utf8Size) text else []

def boundVisible (text : String) (maxBytes : ℕ) (mustKeepSalient : Bool) : String × Bool :=
  if text.utf8ByteSize ≤ maxBytes then (text, false)
  else
    let kept := if mustKeepSalient then (lines text).foldl (keepSalient maxBytes) "" else ""
    if kept.utf8ByteSize ≥ maxBytes then (kept, true)
    else
      let remaining := maxBytes - (kept.utf8ByteSize + 1)
      let head := String.ofList (headWithin remaining text.toList)
      if kept.isEmpty then (head, true)
      else if head.isEmpty then (kept, true)
      else (kept ++ "\n" ++ head, true)

def reduceToolResult (ext : Externals) (admission : ToolResultAdmission) :
    Except ProjectorError ReducedToolResult :=
  if admission.stale then
    .error ⟨"unavailable", "stale tool-result artifact cannot be reduced"⟩
  else if admission.artifactId.toList.all ext.isWhitespace then
    .error ⟨"unbound_evidence", "tool result has no artifact identity"⟩
  else
    let lossy := ext.fromUtf8Lossy admission.raw
    let redacted := ext.redactSensitivePatterns lossy
    let keepSalient := admission.outcome = .failure || admission.outcome = .unknown
    let visible := boundVisible redacted (max admission.maxVisibleBytes 1) keepSalient
    if keepSalient && (lines redacted).any isSalientLine && !(lines visible.1).any isSalientLine then
      .error ⟨"blocker_dropped", "reduction would drop required failure diagnostics"⟩
    else
      .ok {
        outcome := admission.outcome
        visible := visible.1.toByteArray
        handle := ⟨admission.owner, admission.artifactId, ext.contentSha256 admission.raw,
          .artifactRef⟩
        truncated := visible.2
        redacted := redacted ≠ lossy }

end Harness.WorkingSet
