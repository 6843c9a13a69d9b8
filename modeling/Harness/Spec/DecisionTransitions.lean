import Harness.Spec.ManagedAcceptance
import Mathlib.Data.List.Sort

/-! The receipts for the changes of a decision's status, hash-linked, and the validator of the
chain that they form. The validator shares no code with the writer. -/

namespace Harness.Acceptance

open Lib

/-- A stored receipt. `transitionReceiptId`, `transitionSha256` and `receiptSha256` are added to
the body once it is hashed. -/
structure TransitionReceipt where
  body : TransitionBody
  (transitionReceiptId transitionSha256 receiptSha256 : String)
deriving DecidableEq

def transitionSchemaVersion : String := "managed_acceptance_decision_status_transition.v2"

def transitionReceiptId (sha256 : String) : String :=
  "matr-" ++ String.ofList (sha256.toList.take 24)

variable {C : Type} (sha256 : TransitionBody → String)

def decisionStatusTransitionReceipt (b : TransitionBody) : TransitionReceipt where
  body := b
  transitionReceiptId := transitionReceiptId (sha256 b)
  transitionSha256 := sha256 b
  receiptSha256 := sha256 b

variable (receipts : List TransitionReceipt)

/-- The latest receipt that reached a status: `ORDER BY sequence DESC LIMIT 1`. -/
def latestTransitionTo (decisionId : String) (status : DecisionStatus) : Option TransitionReceipt :=
  ((receipts.filter fun r => r.body.decisionId = decisionId && r.body.toStatus = status).insertionSort
    fun r r' => r'.body.sequence ≤ r.body.sequence).head?

/-- The unique indexes on the receipts beyond the one on their hash. -/
def requireUniqueTransition (r : TransitionReceipt) :
    Except String Unit := do
  refuse (receipts.any fun r' => r'.transitionReceiptId = r.transitionReceiptId)
    "UNIQUE constraint failed: transition_receipt_id"
  refuse (receipts.any fun r' => r'.body.decisionId = r.body.decisionId &&
      r'.body.previousTransitionSha256 = r.body.previousTransitionSha256)
    "UNIQUE constraint failed: decision_id, previous_transition_sha256"
  refuse (receipts.any fun r' => r'.body.decisionId = r.body.decisionId &&
      r'.body.sequence = r.body.sequence)
    "UNIQUE constraint failed: decision_id, sequence"

/-- A receipt whose decision and hash are stored already is not inserted again. -/
def insertTransition (r : TransitionReceipt) : Except String (List TransitionReceipt) :=
  if receipts.any fun r' => r'.body.decisionId = r.body.decisionId &&
      r'.transitionSha256 = r.transitionSha256 then .ok receipts
  else do
    requireUniqueTransition receipts r
    pure (receipts ++ [r])

def persistTransition (d : DecisionRow C)
    (fromStatus toStatus : DecisionStatus) (p : AuthenticatedPrincipal) (now : ℤ)
    (reason : String) : Except String (List TransitionReceipt) := do
  let decisionId ← requiredStr d.decisionId "decision_id"
  let tenantId ← requiredStr d.tenantId "tenant_id"
  let decisionSha256 ← requiredStr d.decisionBodySha256 "decision_body_sha256"
  let residualSha256 ← requiredStr d.residualFindingSha256 "residual_finding_sha256"
  let previous := latestTransitionTo receipts decisionId fromStatus
  insertTransition receipts (decisionStatusTransitionReceipt sha256
    { schemaVersion := transitionSchemaVersion
      decisionId := decisionId
      tenantId := tenantId
      decisionBodySha256 := decisionSha256
      residualFindingSha256 := residualSha256
      sequence := (previous.map fun r => r.body.sequence + 1).getD 1
      previousTransitionSequence := previous.map fun r => r.body.sequence
      previousTransitionSha256 := previous.map fun r => r.transitionSha256
      fromStatus := fromStatus
      toStatus := toStatus
      actorPrincipalKind := p.kind
      actorPrincipalId := p.principalId
      atTime := now
      reason := reason })

structure TransitionRecord where
  transitionSha256 : String
  sequence : ℤ
  (fromStatus toStatus : DecisionStatus)
  previousTransitionSequence : Option ℤ
  previousTransitionSha256 : Option String
deriving DecidableEq

/-- The validator's map from hashes to records. -/
abbrev TransitionRecords := Table TransitionRecord.transitionSha256

def requireReceiptOwner (field : String × String × String) : Except String Unit :=
  refuse (field.2.1 ≠ field.2.2)
    ("managed Codex decision transition receipt " ++ field.1 ++ " mismatches its owner")

/-- The two edges that a decision may take. -/
def isTransitionEdge (fromStatus toStatus : DecisionStatus) : Bool :=
  (fromStatus = .draftPendingOperator && toStatus = .operatorAccepted) ||
    (fromStatus = .operatorAccepted && toStatus = .revoked)

variable (d : DecisionRow C)

def transitionRecord (r : TransitionReceipt) :
    Except String TransitionRecord := do
  let b := r.body
  refuse (b.schemaVersion ≠ transitionSchemaVersion)
    "managed Codex decision transition receipt schema is invalid"
  [("decision_id", b.decisionId, d.decisionId), ("tenant_id", b.tenantId, d.tenantId),
    ("decision_body_sha256", b.decisionBodySha256, d.decisionBodySha256),
    ("residual_finding_sha256", b.residualFindingSha256, d.residualFindingSha256)].forM
      requireReceiptOwner
  let transitionSha256 ← requiredStr r.transitionSha256 "transition_sha256"
  refuse (r.receiptSha256 ≠ transitionSha256)
    "managed Codex transition receipt hash alias is invalid"
  refuse (b.sequence < 1) "managed Codex transition sequence is invalid"
  refuse (!isHexOfLength 64 transitionSha256)
    "managed Codex decision transition receipt hash is invalid"
  let receiptId ← requiredStr r.transitionReceiptId "transition_receipt_id"
  refuse (receiptId ≠ transitionReceiptId transitionSha256)
    "managed Codex decision transition receipt identifier is stale"
  refuse (b.actorPrincipalId = "") "actor_principal_id required"
  refuse (b.reason = "") "reason required"
  refuse (sha256 b ≠ transitionSha256)
    "managed Codex decision transition receipt hash does not match content"
  refuse (b.previousTransitionSha256 = some "")
    "managed Codex decision transition predecessor is malformed"
  refuse (b.previousTransitionSequence.any (· < 1))
    "managed Codex transition predecessor sequence is invalid"
  refuse (b.sequence = 1 &&
      (b.previousTransitionSequence.isSome || b.previousTransitionSha256.isSome))
    "genesis transition cannot have a predecessor"
  refuse (1 < b.sequence &&
      (b.previousTransitionSequence.isNone || b.previousTransitionSha256.isNone))
    "non-genesis transition requires one predecessor"
  refuse (!isTransitionEdge b.fromStatus b.toStatus)
    "managed Codex decision transition edge is invalid"
  pure
    { transitionSha256 := transitionSha256
      sequence := b.sequence
      fromStatus := b.fromStatus
      toStatus := b.toStatus
      previousTransitionSequence := b.previousTransitionSequence
      previousTransitionSha256 := b.previousTransitionSha256 }

def addTransitionRecord (records : TransitionRecords) (r : TransitionReceipt) :
    Except String TransitionRecords := do
  let record ← transitionRecord sha256 d r
  refuse (records.contains record.transitionSha256)
    "managed Codex decision transition receipt hash is duplicated"
  pure (records.insert record)

/-- The map from a hash to the one that follows it. -/
abbrev TransitionChildren := List (String × String)

def addTransitionChild (records : TransitionRecords) (children : TransitionChildren)
    (record : TransitionRecord) : Except String TransitionChildren :=
  match record.previousTransitionSha256 with
  | none => .ok children
  | some previous => do
    refuse (!records.contains previous)
      "managed Codex decision transition predecessor is missing"
    refuse (children.lookup previous).isSome
      "managed Codex decision transition chain is forked"
    pure ((previous, record.transitionSha256) :: children)

/-- The walk from the genesis along the children: the status it ends in and the hashes that it
visited. Every turn visits another record, so there are fewer turns than `fuel`. -/
def walkTransitions (records : TransitionRecords) (children : TransitionChildren) :
    (fuel : ℕ) → (visited : List String) → (current : String) → (expectedFrom : DecisionStatus) →
      (expectedSequence : ℤ) → Except String (DecisionStatus × List String)
  | 0, _, _, _, _ => .error "managed Codex decision transition chain contains a cycle"
  | fuel + 1, visited, current, expectedFrom, expectedSequence => do
    let record ← required (records.find? current)
      "managed Codex decision transition chain is malformed"
    refuse (record.fromStatus ≠ expectedFrom)
      "managed Codex decision transition predecessor link is stale"
    refuse (record.sequence ≠ expectedSequence)
      "managed Codex decision transition sequence is not contiguous"
    refuse (current ∈ visited) "managed Codex decision transition chain contains a cycle"
    match children.lookup current with
    | none => pure (record.toStatus, current :: visited)
    | some next => do
      let nextRecord ← required (records.find? next)
        "managed Codex decision transition chain is malformed"
      refuse (nextRecord.previousTransitionSequence ≠ some record.sequence)
        "managed Codex decision transition predecessor sequence is stale"
      walkTransitions records children fuel (current :: visited) next record.toStatus
        (expectedSequence + 1)

def requireOneGenesis (records : TransitionRecords) : Except String String :=
  match records.rows.filter fun r => r.previousTransitionSha256.isNone with
  | [genesis] => .ok genesis.transitionSha256
  | _ => .error "managed Codex decision transition chain must have one genesis"

def validateManagedAcceptanceDecisionTransitionChain
    (receipts : List TransitionReceipt) : Except String Unit := do
  refuse (d.decisionId = "") "decision_id required"
  refuse (d.tenantId = "") "tenant_id required"
  refuse (d.decisionBodySha256 = "") "decision_body_sha256 required"
  refuse (d.residualFindingSha256 = "") "residual_finding_sha256 required"
  refuse (receipts = []) "managed Codex decision transition receipt set is empty"
  let records ← receipts.foldlM (addTransitionRecord sha256 d) Table.empty
  let genesis ← requireOneGenesis records
  let children ← records.rows.foldlM (addTransitionChild records) []
  let (latest, visited) ← walkTransitions records children (records.size + 1) [] genesis
    .draftPendingOperator 1
  refuse (visited.length ≠ records.size)
    "managed Codex decision transition chain is disconnected"
  refuse (latest ≠ d.status)
    "managed Codex current decision status is not backed by the latest transition receipt"

/-- The stored receipts of a decision, `ORDER BY sequence`. -/
def decisionReceipts (decisionId : String) : List TransitionReceipt :=
  (receipts.filter fun r => r.body.decisionId = decisionId).insertionSort
    fun r r' => r.body.sequence ≤ r'.body.sequence

end Harness.Acceptance
