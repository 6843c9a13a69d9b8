import Harness.Spec.ToolAuthorization

/-! A tool call of a node is authorized at most once. The row of the node refines a machine with
five stages that goes one way only, from absent over requested and approved to consumed, or to
rejected; an authorization is given on the way to consumed and nowhere else. -/

namespace Harness.ToolPolicy

open Lib List Option Table ToolAuthorization

variable {sha256 : String → String} {s s' : Store} {c : Invocation} {runId nodeId : String}
  {gate : ToolExecutionGate} {reason now : String} {r : ToolAuthorization}

/-! What the transactions do to the rows of authorizations. -/

variable {a : Approval} {status : AuthorizationStatus} {runId' nodeId' : String}

lemma insertApproval_authorizations (h : insertApproval s a = .ok s') :
    s'.authorizations = s.authorizations := by
  obtain ⟨-, h⟩ := seq_ok h
  cases h
  rfl

lemma insertAuthorization_find? (h : insertAuthorization s r = .ok s') (runId nodeId : String) :
    s'.find? runId nodeId =
      if toLex (runId, nodeId) = r.key then some r else s.find? runId nodeId := by
  obtain ⟨-, h⟩ := seq_ok h
  cases h
  exact find?_insert ..

variable (r status) in
/-- The row of a node with a new status. -/
def ToolAuthorization.moved (resolvedBy : Option String) (now : String) : ToolAuthorization :=
  { r with status := status, resolvedBy := resolvedBy.or r.resolvedBy, updatedAt := now }

lemma setStatus_find? (s : Store) (runId nodeId runId' nodeId' : String)
    (status : AuthorizationStatus) (resolvedBy : Option String) (now : String) :
    (s.setStatus runId nodeId status resolvedBy now).find? runId' nodeId' =
      if toLex (runId', nodeId') = toLex (runId, nodeId) then
        (s.find? runId' nodeId').map fun r => r.moved status resolvedBy now
      else s.find? runId' nodeId' :=
  s.authorizations.find?_modify _ (fun r => r.moved status resolvedBy now) (fun _ => rfl)

/-- What a gate or a claim that goes through finds and leaves. -/
inductive Gated (s : Store) (c : Invocation) : ToolExecutionGate → Store → Prop
  /-- Nothing changes, and nothing is authorized. -/
  | kept {gate : ToolExecutionGate} (refused : gate ≠ .authorized) : Gated s c gate s
  | asked {s' : Store} {r : ToolAuthorization} {approvalId : String}
      (absent : s.find? c.runId c.nodeId = none) (open_ : r.status = .requested)
      (rows : ∀ runId nodeId, s'.find? runId nodeId =
        if toLex (runId, nodeId) = toLex (c.runId, c.nodeId) then some r
        else s.find? runId nodeId) : Gated s c (.awaitingApproval approvalId) s'
  | spent {r : ToolAuthorization} {now : String} (row : s.find? c.runId c.nodeId = some r)
      (approved : r.status = .approved) (bound : r.binds c = true) :
      Gated s c .authorized (s.setStatus c.runId c.nodeId .consumed none now)

/-- What a claim leaves in the place of an absent row. -/
structure Claimed (s : Store) (c : Invocation) (s' : Store) : Prop where
  absent : s.find? c.runId c.nodeId = none
  rows : ∃ r : ToolAuthorization, r.status = .consumed ∧ ∀ runId nodeId, s'.find? runId nodeId =
    if toLex (runId, nodeId) = toLex (c.runId, c.nodeId) then some r else s.find? runId nodeId

lemma gateFromStatus_ne {approvalId : String} (h : gateFromStatus status approvalId = .ok gate) :
    gate ≠ .authorized := by
  cases status with
  | approved => cases h
  | requested | rejected | consumed =>
    cases h
    intro hgate
    cases hgate

lemma gate_cases (h : gateToolExecution s c reason now = .ok (gate, s')) : Gated s c gate s' := by
  obtain ⟨-, h⟩ := seq_ok h
  split at h
  · next r hr =>
    obtain ⟨hbound, h⟩ := seq_ok h
    have hbinds : r.binds c = true := by simpa using refuse_ok hbound
    split at h
    · next happroved =>
      cases h
      exact .spent hr happroved hbinds
    · obtain ⟨answer, hanswer, h⟩ := bind_ok h
      cases h
      exact .kept (gateFromStatus_ne hanswer)
  · next habsent =>
    obtain ⟨s₁, h1, h⟩ := bind_ok h
    obtain ⟨s₂, h2, h⟩ := bind_ok h
    cases h
    refine .asked habsent (r := c.row .requested (approvalIdOf s.nextSequence) none now) rfl fun runId nodeId => ?_
    rw [insertAuthorization_find? h2]
    unfold Store.find?
    rw [insertApproval_authorizations h1]
    rfl

lemma claim_cases (h : claimToolExecutionWithoutApproval sha256 s c now = .ok (gate, s')) :
    (gate ≠ .authorized ∧ s' = s) ∨ gate = .authorized ∧ Claimed s c s' := by
  obtain ⟨-, h⟩ := seq_ok h
  split at h
  · obtain ⟨-, h⟩ := seq_ok h
    obtain ⟨-, h⟩ := seq_ok h
    cases h
    exact .inl ⟨nofun, rfl⟩
  · next habsent =>
    obtain ⟨s₁, h1, h⟩ := bind_ok h
    cases h
    exact .inr ⟨rfl, habsent, _, rfl, insertAuthorization_find? h1⟩

/-- The operator's answer is about this row: its action, tool and profile. -/
structure Approval.Names (a : Approval) (r : ToolAuthorization) : Prop where
  tool : a.isToolExecution = true
  action : a.json.actionSha256 = some r.actionSha256
  toolName : a.json.toolName = some r.toolName
  profile : a.json.profileId = some r.profileId

lemma parseResolution_eq {resolution : String} {d : Decision}
    (h : parseResolution resolution = .ok (d, status)) :
    (d = .approved ∧ status = .approved) ∨ d = .rejected ∧ status = .rejected := by
  unfold parseResolution at h
  split_ifs at h
  · cases h
    exact .inl ⟨rfl, rfl⟩
  · cases h
    exact .inr ⟨rfl, rfl⟩

lemma releaseNode_find? (h : releaseNode s runId nodeId = .ok s') :
    s'.find? runId' nodeId' = s.find? runId' nodeId' := by
  obtain ⟨_, -, h⟩ := bind_ok h
  obtain ⟨-, h⟩ := seq_ok h
  cases h
  rfl

/-- A resolution moves a requested row, if it is about a tool call. -/
structure Resolved (s : Store) (a : Approval) (s' : Store) (r : ToolAuthorization)
    (status : AuthorizationStatus) : Prop where
  row : s.find? a.runId a.nodeId = some r
  waiting : r.status = .requested
  names : a.Names r
  outcome : (a.decision = .approved ∧ status = .approved) ∨
    a.decision = .rejected ∧ status = .rejected
  rows : ∃ actor now, ∀ runId nodeId, s'.find? runId nodeId =
    if toLex (runId, nodeId) = toLex (a.runId, a.nodeId) then
      (s.find? runId nodeId).map fun r => r.moved status actor now
    else s.find? runId nodeId

lemma resolve_cases {q : Resolution} (h : resolveRequestedWorkflowRunApproval s q = .ok (a, s')) :
    (a.isToolExecution = false ∧ s'.authorizations = s.authorizations) ∨
      ∃ r status, Resolved s a s' r status := by
  obtain ⟨⟨decision, status⟩, hparse, h⟩ := bind_ok h
  obtain ⟨-, h⟩ := seq_ok h
  obtain ⟨requested, hrequested, h⟩ := bind_ok h
  obtain ⟨-, h⟩ := seq_ok h
  obtain ⟨hbinding, h⟩ := seq_ok h
  obtain ⟨s₁, h1, h⟩ := bind_ok h
  obtain ⟨s₂, h2, h⟩ := bind_ok h
  cases h
  have hfound := find?_some (required_eq_ok.mp hrequested)
  simp only [Bool.and_eq_true, decide_eq_true_eq] at hfound
  obtain ⟨⟨hrun, -⟩, -⟩ := hfound
  unfold checkToolBinding at hbinding
  unfold resolveToolRequest at h2
  by_cases htool : requested.isToolExecution = true
  · rw [if_pos htool] at hbinding h2
    obtain ⟨r, hr, hsame⟩ := bind_ok hbinding
    obtain ⟨hr, -⟩ := filter_eq_some_iff.mp (required_eq_ok.mp hr)
    have hjson := refuse_ok hsame
    simp only [Bool.or_eq_false_iff, decide_eq_false_iff_not, not_not] at hjson
    obtain ⟨⟨⟨hwaiting, haction⟩, htoolName⟩, hprofile⟩ := hjson
    refine .inr ⟨r, status, ?_, hwaiting, ?_, parseResolution_eq hparse, some q.actor, q.now, ?_⟩
    · rw [← hr, hrun]
      rfl
    · have hjson : resolvedJson requested q.requestedApprovalId = _ := if_pos htool
      refine ⟨decide_eq_true (congrArg ApprovalJson.approvalKind hjson), ?_, ?_, ?_⟩
      · exact (congrArg ApprovalJson.actionSha256 hjson).trans haction
      · exact (congrArg ApprovalJson.toolName hjson).trans htoolName
      · exact (congrArg ApprovalJson.profileId hjson).trans hprofile
    · intro runId nodeId
      rw [releaseNode_find? h2, setStatus_find?]
      unfold Store.find?
      rw [insertApproval_authorizations h1]
      rfl
  · rw [if_neg htool] at h2
    cases h2
    refine .inl ⟨?_, insertApproval_authorizations h1⟩
    have hkind : (resolvedJson requested q.requestedApprovalId).approvalKind = none := by
      rw [resolvedJson, if_neg htool]
    refine decide_eq_false fun hsome => ?_
    cases hkind.symm.trans hsome

/-! The stages of a node's row, and what is told about it. -/

structure Binding where
  (actionSha256 toolName profileId : String)
deriving DecidableEq

inductive Stage where
  | absent
  | requested (b : Binding)
  | approved (b : Binding)
  | rejected
  | consumed
deriving DecidableEq

inductive Event where
  | quiet
  /-- The gate authorizes a call. -/
  | gated (b : Binding)
  /-- A call is authorized without an approval. -/
  | claimed
  /-- An operator answers a request for a call. -/
  | approved (b : Binding)
  | rejected
deriving DecidableEq

def Event.authorizes : Event → Bool
  | gated _ | claimed => true
  | _ => false

inductive Stage.Step : Stage → Event → Stage → Prop
  | stay (p : Stage) : Step p .quiet p
  | ask (b : Binding) : Step .absent .quiet (.requested b)
  | approve (b : Binding) : Step (.requested b) (.approved b) (.approved b)
  | reject (b : Binding) : Step (.requested b) .rejected .rejected
  | spend (b : Binding) : Step (.approved b) (.gated b) .consumed
  | claim : Step .absent .claimed .consumed

/-- How many authorizations are still to come at most. -/
def Stage.left : Stage → ℕ
  | absent | requested _ | approved _ => 1
  | rejected | consumed => 0

lemma Stage.Step.left_le {p q : Stage} {e : Event} (h : Step p e q) :
    (if e.authorizes then 1 else 0) + q.left ≤ p.left := by
  cases h with
  | stay => simp [Event.authorizes]
  | ask | approve | reject | spend | claim => simp [Event.authorizes, Stage.left]

/-- A call that is approved was approved on the way. -/
lemma Stage.approved_of_runs {p q : Stage} {b : Binding} {events : List Event}
    (h : Runs Step p events q) (hq : q = .approved b) : p = .approved b ∨ .approved b ∈ events := by
  induction h with
  | nil p => exact .inl hq
  | cons head tail ih =>
    rcases ih hq with rfl | hmem
    · cases head with
      | stay => exact .inl rfl
      | approve => exact .inr mem_cons_self
    · exact .inr (mem_cons_of_mem _ hmem)

def ToolAuthorization.binding (r : ToolAuthorization) : Binding :=
  ⟨r.actionSha256, r.toolName, r.profileId⟩

def Invocation.binding (c : Invocation) : Binding := ⟨c.actionSha256, c.toolName, c.profileId⟩

def ToolAuthorization.stage (r : ToolAuthorization) : Stage :=
  match r.status with
  | .requested => .requested r.binding
  | .approved => .approved r.binding
  | .rejected => .rejected
  | .consumed => .consumed

def Store.stage (runId nodeId : String) (s : Store) : Stage :=
  (s.find? runId nodeId).elim .absent ToolAuthorization.stage

def Approval.binding (a : Approval) : Option Binding := do
  pure ⟨← a.json.actionSha256, ← a.json.toolName, ← a.json.profileId⟩

/-- What the answer to a request for a tool call says. -/
def Approval.event (a : Approval) : Event :=
  match a.decision, a.binding with
  | .approved, some b => .approved b
  | .rejected, _ => .rejected
  | _, _ => .quiet

/-- What an operation and its reply say about the calls of a node. -/
def Entry.event (runId nodeId : String) (e : Entry) : Event :=
  match e.op, e.reply with
  | .gate c _ _, .gate (.ok .authorized) =>
    if c.runId = runId ∧ c.nodeId = nodeId then .gated c.binding else .quiet
  | .claim c _, .gate (.ok .authorized) =>
    if c.runId = runId ∧ c.nodeId = nodeId then .claimed else .quiet
  | .resolve _, .approval (.ok a) =>
    if a.runId = runId ∧ a.nodeId = nodeId ∧ a.isToolExecution then a.event else .quiet
  | _, _ => .quiet

lemma binds_iff : r.binds c = true ↔ r.binding = c.binding := by
  simp [binds, binding, Invocation.binding, and_assoc]

lemma key_eq_iff :
    toLex (runId, nodeId) = toLex (runId', nodeId') ↔ runId' = runId ∧ nodeId' = nodeId := by
  rw [toLex_inj, Prod.mk.injEq, eq_comm, eq_comm (a := nodeId)]

lemma stage_of_find? (h : s.find? runId nodeId = some r) : s.stage runId nodeId = r.stage := by
  rw [Store.stage, h]
  rfl

lemma stage_of_none (h : s.find? runId nodeId = none) : s.stage runId nodeId = .absent := by
  rw [Store.stage, h]
  rfl

lemma stage_congr (h : s'.find? runId nodeId = s.find? runId nodeId) :
    s'.stage runId nodeId = s.stage runId nodeId := by
  rw [Store.stage, Store.stage, h]

lemma Approval.Names.binding_eq (h : a.Names r) : a.binding = some r.binding := by
  unfold Approval.binding
  rw [h.action, h.toolName, h.profile]
  rfl

/-- The event of a gate that goes through is a step of the stages. -/
lemma Gated.step (h : Gated s c gate s') (reason now runId nodeId : String) :
    Stage.Step (s.stage runId nodeId)
      (Entry.event runId nodeId ⟨.gate c reason now, .gate (.ok gate)⟩)
      (s'.stage runId nodeId) := by
  cases h with
  | kept refused =>
    cases gate with
    | authorized => exact absurd rfl refused
    | awaitingApproval | rejected | consumedOutcomeUnknown => exact .stay _
  | asked absent open_ rows =>
    have hrow := rows runId nodeId
    by_cases hkey : c.runId = runId ∧ c.nodeId = nodeId
    · obtain ⟨rfl, rfl⟩ := hkey
      rw [if_pos rfl] at hrow
      rw [stage_of_none absent, stage_of_find? hrow, stage, open_]
      exact .ask _
    · rw [if_neg (fun heq => hkey (key_eq_iff.mp heq))] at hrow
      rw [stage_congr hrow]
      exact .stay _
  | spent row approved bound =>
    by_cases hkey : c.runId = runId ∧ c.nodeId = nodeId
    · have hevent : Entry.event runId nodeId ⟨.gate c reason now, .gate (.ok .authorized)⟩ =
          .gated c.binding := if_pos hkey
      obtain ⟨rfl, rfl⟩ := hkey
      have hrow := setStatus_find? s c.runId c.nodeId c.runId c.nodeId .consumed none ‹String›
      rw [if_pos rfl, row, map_some] at hrow
      rw [hevent, stage_of_find? row, stage_of_find? hrow, stage, approved,
        binds_iff.mp bound]
      exact .spend _
    · have hevent : Entry.event runId nodeId ⟨.gate c reason now, .gate (.ok .authorized)⟩ =
          .quiet := if_neg hkey
      have hrow := setStatus_find? s c.runId c.nodeId runId nodeId .consumed none ‹String›
      rw [if_neg (fun heq => hkey (key_eq_iff.mp heq))] at hrow
      rw [hevent, stage_congr hrow]
      exact .stay _

lemma Claimed.step (h : Claimed s c s') (now runId nodeId : String) :
    Stage.Step (s.stage runId nodeId)
      (Entry.event runId nodeId ⟨.claim c now, .gate (.ok .authorized)⟩)
      (s'.stage runId nodeId) := by
  obtain ⟨r, hconsumed, hrows⟩ := h.rows
  have hrow := hrows runId nodeId
  by_cases hkey : c.runId = runId ∧ c.nodeId = nodeId
  · have hevent : Entry.event runId nodeId ⟨.claim c now, .gate (.ok .authorized)⟩ = .claimed :=
      if_pos hkey
    obtain ⟨rfl, rfl⟩ := hkey
    rw [if_pos rfl] at hrow
    rw [hevent, stage_of_none h.absent, stage_of_find? hrow, stage, hconsumed]
    exact .claim
  · have hevent : Entry.event runId nodeId ⟨.claim c now, .gate (.ok .authorized)⟩ = .quiet :=
      if_neg hkey
    rw [if_neg (fun heq => hkey (key_eq_iff.mp heq))] at hrow
    rw [hevent, stage_congr hrow]
    exact .stay _

lemma Resolved.step (h : Resolved s a s' r status) (q : Resolution) (runId nodeId : String) :
    Stage.Step (s.stage runId nodeId)
      (Entry.event runId nodeId ⟨.resolve q, .approval (.ok a)⟩) (s'.stage runId nodeId) := by
  obtain ⟨actor, now, hrows⟩ := h.rows
  have hrow := hrows runId nodeId
  by_cases hkey : a.runId = runId ∧ a.nodeId = nodeId
  · have hevent : Entry.event runId nodeId ⟨.resolve q, .approval (.ok a)⟩ = a.event :=
      if_pos ⟨hkey.1, hkey.2, h.names.tool⟩
    obtain ⟨rfl, rfl⟩ := hkey
    rw [if_pos rfl, h.row, map_some] at hrow
    rw [hevent, Approval.event, h.names.binding_eq, stage_of_find? h.row, stage_of_find? hrow,
      stage, h.waiting]
    rcases h.outcome with ⟨hdecision, rfl⟩ | ⟨hdecision, rfl⟩
    · rw [hdecision]
      exact .approve _
    · rw [hdecision]
      exact .reject _
  · have hevent : Entry.event runId nodeId ⟨.resolve q, .approval (.ok a)⟩ = .quiet :=
      if_neg fun hboth => hkey ⟨hboth.1, hboth.2.1⟩
    rw [if_neg (fun heq => hkey (key_eq_iff.mp heq))] at hrow
    rw [hevent, stage_congr hrow]
    exact .stay _

/-- Every operation, with its reply, is a step of the stages of every node. -/
lemma step_refines (sha256 : String → String) (runId nodeId : String) (s : Store) (op : Op) :
    Stage.Step (s.stage runId nodeId) ((step sha256 s op).1.event runId nodeId)
      ((step sha256 s op).2.stage runId nodeId) := by
  cases op with
  | gate c reason now =>
    cases h : gateToolExecution s c reason now with
    | error e =>
      have hstep : step sha256 s (.gate c reason now) =
          (⟨.gate c reason now, .gate (.error e)⟩, s) := by
        simp [step, answer, commit, h]
      rw [hstep]
      exact .stay _
    | ok reply =>
      have hstep : step sha256 s (.gate c reason now) =
          (⟨.gate c reason now, .gate (.ok reply.1)⟩, reply.2) := by
        simp [step, answer, commit, h]
      rw [hstep]
      exact (gate_cases h).step reason now runId nodeId
  | claim c now =>
    cases h : claimToolExecutionWithoutApproval sha256 s c now with
    | error e =>
      have hstep : step sha256 s (.claim c now) = (⟨.claim c now, .gate (.error e)⟩, s) := by
        simp [step, answer, commit, h]
      rw [hstep]
      exact .stay _
    | ok reply =>
      have hstep : step sha256 s (.claim c now) =
          (⟨.claim c now, .gate (.ok reply.1)⟩, reply.2) := by
        simp [step, answer, commit, h]
      rw [hstep]
      obtain ⟨gate, s'⟩ := reply
      rcases claim_cases h with ⟨hrefused, rfl⟩ | ⟨rfl, hclaimed⟩
      · cases gate with
        | authorized => exact absurd rfl hrefused
        | awaitingApproval | rejected | consumedOutcomeUnknown => exact .stay _
      · exact hclaimed.step now runId nodeId
  | resolve q =>
    cases h : resolveRequestedWorkflowRunApproval s q with
    | error e =>
      have hstep : step sha256 s (.resolve q) = (⟨.resolve q, .approval (.error e)⟩, s) := by
        simp [step, answer, commit, h]
      rw [hstep]
      exact .stay _
    | ok reply =>
      have hstep : step sha256 s (.resolve q) =
          (⟨.resolve q, .approval (.ok reply.1)⟩, reply.2) := by
        simp [step, answer, commit, h]
      rw [hstep]
      obtain ⟨a, s'⟩ := reply
      rcases resolve_cases h with ⟨hother, hsame⟩ | ⟨r, status, hresolved⟩
      · have hevent : Entry.event runId nodeId ⟨.resolve q, .approval (.ok a)⟩ = .quiet :=
          if_neg fun hall => by
            rw [hother] at hall
            cases hall.2.2
        have hstage : s'.stage runId nodeId = s.stage runId nodeId :=
          stage_congr (by rw [Store.find?, hsame, Store.find?])
        rw [hevent, hstage]
        exact .stay _
      · exact hresolved.step q runId nodeId
  | record run node decision actor reason now =>
    cases h : recordWorkflowRunApproval s run node decision actor reason now with
    | error e =>
      have hstep : (step sha256 s (.record run node decision actor reason now)).2 = s := by
        simp [step, answer, commit, h]
      rw [hstep]
      exact .stay _
    | ok reply =>
      have hstep : (step sha256 s (.record run node decision actor reason now)).2 = reply.2 := by
        simp [step, answer, commit, h]
      obtain ⟨_, -, h⟩ := bind_ok h
      obtain ⟨-, h⟩ := seq_ok h
      obtain ⟨s₁, h1, h⟩ := bind_ok h
      cases h
      have hstage : s₁.stage runId nodeId = s.stage runId nodeId :=
        stage_congr (by rw [Store.find?, insertApproval_authorizations h1, Store.find?])
      rw [hstep, hstage]
      exact .stay _
  | elsewhere workflow policy => exact .stay _

/-- Over every history from the day a node has no row: one authorization at most; one by the gate
only after an operator approved this action, tool and profile; none after a rejection. -/
theorem tool_authorization_single_use (sha256 : String → String) (s : Store)
    (runId nodeId : String) (hnew : s.find? runId nodeId = none) (ops : List Op) :
    let events := (replies (step sha256) s ops).map (Entry.event runId nodeId)
    events.countP Event.authorizes ≤ 1 ∧
      (∀ past rest b, events = past ++ .gated b :: rest → .approved b ∈ past) ∧
      ∀ past rest, events = past ++ .rejected :: rest →
        ∀ e ∈ past ++ rest, e.authorizes = false := by
  have hruns := runs_replies (step_refines sha256 runId nodeId) s ops
  rw [stage_of_none hnew] at hruns
  refine ⟨?_, ?_, ?_⟩
  · have hcount := hruns.countP_add_le Stage.Step.left_le
    exact (Nat.le_add_right _ _).trans hcount
  · intro past rest b hsplit
    rw [show (replies (step sha256) s ops).map _ = _ from hsplit] at hruns
    obtain ⟨p, q, hpast, hstep, -⟩ := hruns.split
    cases hstep with
    | spend =>
      rcases Stage.approved_of_runs hpast rfl with hstart | hmem
      · cases hstart
      · exact hmem
  · intro past rest hsplit
    rw [show (replies (step sha256) s ops).map _ = _ from hsplit] at hruns
    obtain ⟨p, q, hpast, hstep, hrest⟩ := hruns.split
    have hbefore := hpast.countP_add_le Stage.Step.left_le
    have hafter := hrest.countP_add_le Stage.Step.left_le
    cases hstep with
    | reject b =>
      have hnone : (past ++ rest).countP Event.authorizes = 0 := by
        rw [countP_append]
        simp only [Stage.left] at hbefore hafter
        omega
      intro e he
      exact Bool.eq_false_iff.mpr (countP_eq_zero.mp hnone e he)

/-! A node whose tool call is asked for, approved and made. -/

def sampleNode : NodeRow where
  runId := "r"
  nodeId := "n"
  taskType := "tool"
  status := .awaitingApproval
  attemptCount := 0
  leasedAt := none
  nodeJson := .scalar "1"

def sampleStore : Store where
  workflow :=
    { nodes := empty.insert sampleNode
      edges := []
      runs := empty.insert ⟨"r", "w", .running, none, none⟩
      trees := empty }
  policy _ _ := .ok "bbbbbbbbbbbbbbbbbbbbbbbbbbbbbbbbbbbbbbbbbbbbbbbbbbbbbbbbbbbbbbbb"
  approvals := empty
  authorizations := empty

def sampleInvocation : Invocation :=
  ⟨"r", "n", "t", "p", "bbbbbbbbbbbbbbbbbbbbbbbbbbbbbbbbbbbbbbbbbbbbbbbbbbbbbbbbbbbbbbbb",
    "bbbbbbbbbbbbbbbbbbbbbbbbbbbbbbbbbbbbbbbbbbbbbbbbbbbbbbbbbbbbbbbb"⟩

def sampleOps : List Op :=
  [.gate sampleInvocation "why" "1",
   .resolve ⟨"r", "workflow-approval-0001", "approved", "operator", none, "2"⟩,
   .gate sampleInvocation "why" "3", .gate sampleInvocation "why" "4"]

theorem tool_authorization_single_use_sample :
    let events := (replies (step id) sampleStore sampleOps).map (Entry.event "r" "n")
    events = [.quiet, .approved sampleInvocation.binding, .gated sampleInvocation.binding, .quiet] ∧
      events.countP Event.authorizes ≤ 1 :=
  ⟨by rfl, (tool_authorization_single_use id sampleStore "r" "n" rfl sampleOps).1⟩

end Harness.ToolPolicy
