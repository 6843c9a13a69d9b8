import Harness.Sanity.Sound

/-! The root a run starts from, and a small run to try results on. -/

namespace Harness

open Lib Table

/-- A tree before anything happened to it. -/
def freshRoot (x : Externals) (rootRunId workflowId nodeId objective agentId receipt : String)
    (authority : RecursiveRootAuthority) (boundaries : RunBoundaries) : RecursiveTree :=
  let root : RecursiveNode :=
    { nodeId := nodeId, rootRunId := rootRunId, parentNodeId := none, proposalId := none,
      depth := 0, objectiveFingerprint := objectiveFingerprint x objective,
      ancestorFingerprints := [],
      scope := { authority.scope with capabilities := authority.capabilities },
      capabilities := authority.capabilities, tenantId := boundaries.tenantId,
      workspaceId := boundaries.workspaceId, budget := authority.treeBudget,
      budgetLimit := authority.treeBudget, childBudget := authority.childBudget,
      childBudgetLimit := authority.childBudget, reservation := .zero, actualUsage := .zero,
      status := .ready, acceptedChildren := 0, retryCount := 0, version := 1, leaseId := none,
      failureReason := none, evidenceRefs := [] }
  { schemaVersion := recursiveSchemaVersion, rootRunId := rootRunId, workflowId := workflowId,
    rootNodeId := nodeId, rootAgentId := agentId, rootRecursiveMarker := nodeId,
    rootCreationReceiptSha256 := receipt, rootScope := root.scope,
    rootCapabilities := authority.capabilities, rootTenantId := boundaries.tenantId,
    rootWorkspaceId := boundaries.workspaceId, rootBudget := authority.treeBudget,
    rootBudgetLimit := some authority.treeBudget,
    rootChildBudgetLimit := some authority.childBudget, spentBudget := .zero,
    reservedBudget := .zero, executionState := .running, version := 1,
    nodes := empty.insert root, acceptedProposals := ∅, receipts := .empty,
    activeLeases := ∅, rejectedProposals := .empty, usageReceipts := .empty }

lemma reasonText_eq_ok {α : Type} {r : Except RecursiveFailureReason α} {a : α} :
    reasonText r = .ok a ↔ r = .ok a := by
  cases r <;> simp [reasonText, Except.mapError]

/-- The root a workflow node starts with. -/
lemma recursiveRootTreeFromMetadata_eq_ok {x : Externals} {mint : (plan agent : String) → String}
    {rootRunId workflowId nodeId : String} {metadata : RootMetadata} {boundaries : RunBoundaries}
    {t : RecursiveTree}
    (h : recursiveRootTreeFromMetadata x mint rootRunId workflowId nodeId metadata boundaries =
      .ok t) :
    ∃ objective agentId receipt authority, t =
      freshRoot x rootRunId workflowId nodeId objective agentId receipt authority boundaries := by
  simp only [recursiveRootTreeFromMetadata, bind_eq_ok, reasonText_eq_ok] at h
  obtain ⟨-, -, agentId, -, objective, -, plan, -, authority, -, t', hbind, hscope⟩ := h
  refine ⟨objective, agentId, mint plan agentId, authority, ?_⟩
  unfold RecursiveTree.bindRootIdentity at hbind
  split_ifs at hbind
  cases hbind
  unfold RecursiveTree.bindRootExecutionScope at hscope
  split_ifs at hscope
  cases hscope
  simp only [freshRoot, RecursiveTree.newWithRootNodeId, RecursiveTree.mk.injEq, true_and, and_true]
  refine ext ?_
  simp [rows_modify, Table.insert, empty]

/-! A small run to try the results on: a root and the child it proposes. -/

def sampleDigests : List (String × String) :=
  [("\x7b\"version\":\"recursive-objective.v2\",\"intent\":\"plan\",\"subject\":\"release\"," ++
      "\"qualifiers\":[]\x7d",
    "62eed7290d7c9bc6b56c471abdf386a6b37a864e23a66d4be5815f04bbc3565c"),
   ("\x7b\"version\":\"recursive-objective.v2\",\"intent\":\"review\",\"subject\":\"docs\"," ++
      "\"qualifiers\":[]\x7d",
    "b2881cdd21056ee9515d593c6d2dd967511cf08ebf73309ade953739c15d33cd"),
   ("\x7b\"version\":\"recursive-objective.v2\",\"intent\":\"run\",\"subject\":\"tests\"," ++
      "\"qualifiers\":[]\x7d",
    "0aa37a268d5c05b32ec954abeeb989d5954c07dfb10ee655fc37f643383e7723"),
   ("run-1\x00p-1\x00b2881cdd21056ee9515d593c6d2dd967511cf08ebf73309ade953739c15d33cd",
    "93a43c88c105a28176747ba6d5fca5c584bda277bd3c45c4ef4c1a2f9d152c76"),
   ("run-1\x00p-2\x000aa37a268d5c05b32ec954abeeb989d5954c07dfb10ee655fc37f643383e7723",
    "3d4fde9e37d9edb80691625367d7c5e0424b34a88d284e0b65098730c6b781d0")]

def sampleExternals : Externals where
  sha256Hex s := (sampleDigests.lookup s).getD
    "0000000000000000000000000000000000000000000000000000000000000000"
  isAlphanumeric := Char.isAlphanum
  isWhitespace := Char.isWhitespace

def sampleEnv : RecursiveEnv where
  recursiveEnabled := true
  killSwitchActive := false

def sampleScope : RecursiveScope where
  repository := some "repo"
  allowedPaths := {"docs"}
  capabilities := {"read"}

def sampleBudget (calls : ℕ) : RecursiveBudget where
  callsRemaining := BitVec.ofNat 64 calls
  tokensRemaining := BitVec.ofNat 64 (100 * calls)
  costMicrosRemaining := BitVec.ofNat 64 (1000 * calls)
  timeMsRemaining := BitVec.ofNat 64 (10000 * calls)

def sampleBoundaries : RunBoundaries where
  tenantId := none
  workspaceId := none

def sampleAuthority : RecursiveRootAuthority where
  schemaVersion := recursiveRootAuthorityVersion
  scope := sampleScope
  capabilities := {"read"}
  treeBudget := sampleBudget 12
  childBudget := sampleBudget 6

def sampleMetadata : RootMetadata where
  recursiveRootNodeId := some "root"
  taskType := some "agent_step"
  agentId := some "planner"
  agentObjective := some "Plan the release"
  creationReceiptSha256 := some "plan-receipt"
  authority := some (some sampleAuthority)

def sampleReceipt : String := "fa2fa8b6fe9e060530f22e344878170b4071cac03f7725844fdec949cce99b0a"

def sampleRoot : RecursiveTree :=
  freshRoot sampleExternals "run-1" "wf-1" "root" "Plan the release" "planner" sampleReceipt
    sampleAuthority sampleBoundaries

def sampleProposal : RecursiveProposal where
  proposalId := "p-1"
  parentNodeId := "root"
  parentVersion := 1
  objective := "Review the docs"
  contextSummary := ""
  requestedScope := sampleScope
  requestedCapabilities := {"read"}
  budget := sampleBudget 3
  receiptSha256 := "action-1"

def sampleChildId : String :=
  "recursive-93a43c88c105a28176747ba6d5fca5c584bda277bd3c45c4ef4c1a2f9d152c76"

/-- The child at work on its first attempt. -/
def sampleWorker : RecursiveNode where
  nodeId := sampleChildId
  rootRunId := "run-1"
  parentNodeId := some "root"
  proposalId := some "p-1"
  depth := 1
  objectiveFingerprint := "b2881cdd21056ee9515d593c6d2dd967511cf08ebf73309ade953739c15d33cd"
  ancestorFingerprints := ["62eed7290d7c9bc6b56c471abdf386a6b37a864e23a66d4be5815f04bbc3565c"]
  scope := sampleScope
  capabilities := {"read"}
  tenantId := none
  workspaceId := none
  budget := sampleBudget 3
  budgetLimit := sampleBudget 3
  childBudget := sampleBudget 3
  childBudgetLimit := sampleBudget 3
  reservation := sampleBudget 3
  actualUsage := .zero
  status := .leased
  acceptedChildren := 0
  retryCount := 0
  version := 2
  leaseId := some "lease-1"
  failureReason := none
  evidenceRefs := ["agent_proposal/p-1"]

/-- The root after the admission. -/
def sampleParent : RecursiveNode where
  nodeId := "root"
  rootRunId := "run-1"
  parentNodeId := none
  proposalId := none
  depth := 0
  objectiveFingerprint := "62eed7290d7c9bc6b56c471abdf386a6b37a864e23a66d4be5815f04bbc3565c"
  ancestorFingerprints := []
  scope := sampleScope
  capabilities := {"read"}
  tenantId := none
  workspaceId := none
  budget := sampleBudget 12
  budgetLimit := sampleBudget 12
  childBudget := sampleBudget 3
  childBudgetLimit := sampleBudget 6
  reservation := .zero
  actualUsage := .zero
  status := .ready
  acceptedChildren := 1
  retryCount := 0
  version := 2
  leaseId := none
  failureReason := none
  evidenceRefs := []

def sampleLeased : RecursiveTree where
  schemaVersion := recursiveSchemaVersion
  rootRunId := "run-1"
  workflowId := "wf-1"
  rootNodeId := "root"
  rootAgentId := "planner"
  rootRecursiveMarker := "root"
  rootCreationReceiptSha256 := sampleReceipt
  rootScope := sampleScope
  rootCapabilities := {"read"}
  rootTenantId := none
  rootWorkspaceId := none
  rootBudget := sampleBudget 9
  rootBudgetLimit := some (sampleBudget 12)
  rootChildBudgetLimit := some (sampleBudget 6)
  spentBudget := .zero
  reservedBudget := sampleBudget 3
  executionState := .running
  version := 3
  nodes := (empty.insert sampleParent).insert sampleWorker
  acceptedProposals := {"p-1"}
  receipts := empty.insert ("p-1", "action-1")
  activeLeases := {"lease-1"}
  rejectedProposals := .empty
  usageReceipts := .empty

lemma sampleRoot_new :
    recursiveRootTreeFromMetadata sampleExternals (fun _ _ => sampleReceipt) "run-1" "wf-1" "root"
      sampleMetadata sampleBoundaries = .ok sampleRoot := by
  rfl

lemma validateTree_sampleRoot : sampleRoot.validateTree sampleExternals = .ok () := by
  rfl

lemma find?_sampleWorker : sampleLeased.nodes.find? sampleChildId = some sampleWorker := by
  rfl

def sampleSecond : RecursiveProposal where
  proposalId := "p-2"
  parentNodeId := "root"
  parentVersion := 2
  objective := "Run the tests"
  contextSummary := ""
  requestedScope := sampleScope
  requestedCapabilities := {"read"}
  budget := sampleBudget 3
  receiptSha256 := "action-2"

def sampleSecondId : String :=
  "recursive-3d4fde9e37d9edb80691625367d7c5e0424b34a88d284e0b65098730c6b781d0"

lemma validateTree_sampleLeased : sampleLeased.validateTree sampleExternals = .ok () := by
  rfl

lemma kept_sampleLeased : Kept sampleLeased where
  unique := by
    have h : ∀ n ∈ sampleLeased.nodes.rows, n.leaseId.isSome = true → n.nodeId = sampleChildId := by
      decide
    intro n hn m hm l hnl hml
    rw [h n hn (by simp [hnl]), h m hm (by simp [hml])]
  room d := by cases d <;> exact ⟨by rfl, of_decide_eq_true rfl⟩

end Harness
