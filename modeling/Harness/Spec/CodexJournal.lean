import Harness.Lib.Refusal
import Harness.Lib.Saturating

/-! The usage journal of a Codex attempt: an entry in memory and the file it is written to
before each step that depends on it. -/

namespace Harness.Codex

open Lib

abbrev U64 := BitVec 64

inductive JournalRequestState where
  | idle
  | inFlight
  | committed
  | outcomeUnknown
  | persistenceFailed
deriving DecidableEq, Repr

structure JournalIdentity where
  (attemptId taskId providerKind providerHost model binarySha256 : String)
deriving DecidableEq

structure CodexUsageJournalEntry extends JournalIdentity where
  providerRequests : U64
  /-- Every request after the first. -/
  (observedRetryPosts cumulativeInputTokens cumulativeOutputTokens reservedInputTokens
    reservedOutputTokens : U64)
  state : JournalRequestState
  lastRequestId : Option String
deriving DecidableEq

def asciiLowercase (s : String) : String := String.ofList (s.toList.map Char.toLower)

def CodexUsageJournalEntry.newIdle (id : JournalIdentity) : CodexUsageJournalEntry where
  toJournalIdentity := { id with binarySha256 := asciiLowercase id.binarySha256 }
  providerRequests := 0
  observedRetryPosts := 0
  cumulativeInputTokens := 0
  cumulativeOutputTokens := 0
  reservedInputTokens := 0
  reservedOutputTokens := 0
  state := .idle
  lastRequestId := none

/-- What becomes of a write: whether it succeeds and, if not, whether the write of the halted
state that is tried next does. A write that fails leaves the file as it was. -/
structure Write where
  (succeeds fallback : Bool)
deriving DecidableEq

/-- The journal as the gateway holds it, with the content of its file. -/
structure CodexUsageJournal where
  (file entry : CodexUsageJournalEntry)
  halted : Bool
deriving DecidableEq

/-- Reading the file back; the fields that name the attempt must not be empty. -/
def loadJournal (file : CodexUsageJournalEntry) : Except String CodexUsageJournalEntry := do
  refuse (file.attemptId = "") "usage journal missing attempt_id"
  refuse (file.taskId = "") "usage journal missing task_id"
  refuse (file.providerKind = "") "usage journal missing provider_kind"
  refuse (file.providerHost = "") "usage journal missing provider_host"
  refuse (file.model = "") "usage journal missing model"
  refuse (file.binarySha256 = "") "usage journal missing binary_sha256"
  pure file

namespace CodexUsageJournal

def createNew (file : Option CodexUsageJournalEntry) (id : JournalIdentity) (w : Write) :
    Except String CodexUsageJournal := do
  refuse file.isSome "usage journal path already exists; refusing to overwrite a different attempt"
  refuse (!w.succeeds) "failed to commit usage journal"
  pure ⟨.newIdle id, .newIdle id, false⟩

/-- A request that was under way, or whose outcome is unknown, is charged its reservation. -/
def resumeExactAttempt (file : CodexUsageJournalEntry) (id : JournalIdentity) (w : Write) :
    Except String CodexUsageJournal := do
  let entry ← loadJournal file
  refuse (entry.attemptId ≠ id.attemptId) "usage journal attempt_id does not match authority"
  refuse (entry.taskId ≠ id.taskId) "usage journal task_id does not match authority"
  refuse (entry.providerKind ≠ id.providerKind || entry.providerHost ≠ id.providerHost)
    "usage journal provider identity does not match authority"
  refuse (entry.model ≠ id.model || entry.binarySha256 ≠ asciiLowercase id.binarySha256)
    "usage journal model/binary identity does not match authority"
  if entry.state = .inFlight || entry.state = .outcomeUnknown then
    let charged :=
      { entry with
        cumulativeInputTokens := saturatingAdd entry.cumulativeInputTokens entry.reservedInputTokens
        cumulativeOutputTokens :=
          saturatingAdd entry.cumulativeOutputTokens entry.reservedOutputTokens
        reservedInputTokens := 0
        reservedOutputTokens := 0
        state := .outcomeUnknown }
    refuse (!w.succeeds) "failed to commit usage journal"
    pure ⟨charged, charged, false⟩
  else pure ⟨entry, entry, entry.state = .persistenceFailed⟩

variable (j : CodexUsageJournal)

def isHalted : Bool := j.halted || j.entry.state = .persistenceFailed

def admitsNewRequest : Except String Unit := do
  refuse j.isHalted "usage journal is halted after persistence failure"
  refuse (j.entry.state = .inFlight || j.entry.state = .outcomeUnknown)
    "usage journal has unresolved in-flight or outcome-unknown request; no new request admitted"

def persist (w : Write) : Except String Unit × CodexUsageJournal :=
  if w.succeeds then (.ok (), { j with file := j.entry })
  else
    let entry := { j.entry with state := .persistenceFailed }
    (.error "failed to commit usage journal",
      { file := if w.fallback then entry else j.file, entry := entry, halted := true })

def reserveBeforeForward (reservedInput reservedOutput : U64) (w : Write) :
    Except String Unit × CodexUsageJournal :=
  match j.admitsNewRequest with
  | .error reason => (.error reason, j)
  | .ok () =>
    let requests := saturatingAdd j.entry.providerRequests 1
    persist
      { j with entry :=
        { j.entry with
          providerRequests := requests
          observedRetryPosts := if 1 < requests then saturatingAdd j.entry.observedRetryPosts 1
            else j.entry.observedRetryPosts
          reservedInputTokens := reservedInput
          reservedOutputTokens := reservedOutput
          state := .inFlight } }
      w

/-- The first half of `commit_after_forward`: the usage is on record. -/
def recordCommit (inputTokens outputTokens : U64) (lastRequestId : Option String) (w : Write) :
    Except String Unit × CodexUsageJournal :=
  if j.isHalted then (.error "usage journal is halted", j)
  else if j.entry.state ≠ .inFlight then (.error "commit requires in_flight journal state", j)
  else
    persist
      { j with entry :=
        { j.entry with
          cumulativeInputTokens := saturatingAdd j.entry.cumulativeInputTokens inputTokens
          cumulativeOutputTokens := saturatingAdd j.entry.cumulativeOutputTokens outputTokens
          reservedInputTokens := 0
          reservedOutputTokens := 0
          lastRequestId := lastRequestId
          state := .committed } }
      w

/-- The second half: the journal is open for the next request. -/
def returnToIdle (w : Write) : Except String Unit × CodexUsageJournal :=
  persist { j with entry := { j.entry with state := .idle } } w

def greater (a b : U64) : U64 := if a.toNat ≤ b.toNat then b else a

/-- The larger of the reservation and what was observed is charged. -/
def markOutcomeUnknownWithUsage (observedInput observedOutput : U64) (w : Write) :
    Except String Unit × CodexUsageJournal :=
  if j.isHalted then (.error "usage journal is halted", j)
  else
    persist
      { j with entry :=
        { j.entry with
          cumulativeInputTokens := saturatingAdd j.entry.cumulativeInputTokens
            (greater j.entry.reservedInputTokens observedInput)
          cumulativeOutputTokens := saturatingAdd j.entry.cumulativeOutputTokens
            (greater j.entry.reservedOutputTokens observedOutput)
          reservedInputTokens := 0
          reservedOutputTokens := 0
          state := .outcomeUnknown } }
      w

def markOutcomeUnknown (w : Write) : Except String Unit × CodexUsageJournal :=
  j.markOutcomeUnknownWithUsage j.entry.reservedInputTokens j.entry.reservedOutputTokens w

def halt (w : Write) : Except String Unit × CodexUsageJournal :=
  persist { j with entry := { j.entry with state := .persistenceFailed }, halted := true } w

end CodexUsageJournal

end Harness.Codex
