import Harness.Sanity.Versions
import Harness.Spec.TreeSave

/-! Clients of the table of trees. Each loads a tree, makes one call on it and saves the
result under the version it loaded. Saves come one at a time, so what is stored is the
calls whose save went through, one after the other. -/

namespace Harness

open Lib RecursiveTree List Function Table TreeOp

variable {trees trees' : TreeTable}

/-- What is stored, and the tree each client holds since it loaded it. -/
structure Clients where
  trees : TreeTable
  held : ℕ → Option RecursiveTree

inductive ClientAction where
  | load (runId : String)
  | save (op : TreeOp)
  | mutate (op : TreeOp)

/-- One client's turn. The metadata of workflow nodes is what it is at that moment. -/
structure Turn where
  client : ℕ
  action : ClientAction
  agentStep : (runId nodeId : String) → Option (Option RootMetadata)

variable (x : Externals) (mint : Mint)
  (runs : String → Option RunRow)

/-- The store after a turn, and the calls it put into effect. -/
def Turn.take (w : Clients) (turn : Turn) : Clients × List (String × TreeOp) :=
  let tables : WorkflowTables := ⟨runs, turn.agentStep⟩
  match turn.action, w.held turn.client with
  | .load runId, _ =>
    match loadRecursiveTree x mint tables w.trees runId with
    | .ok (some t) => ({ w with held := update w.held turn.client (some t) }, [])
    | _ => (w, [])
  | .save op, some loaded =>
    let held := update w.held turn.client none
    match saveRecursiveTreeWithExpectedVersion x mint tables w.trees (op.apply x loaded)
      loaded.version with
    | .ok trees => (⟨trees, held⟩, [(loaded.rootRunId, op)])
    | .error _ => (⟨w.trees, held⟩, [])
  | .mutate op, some loaded =>
    let held := update w.held turn.client none
    match persistTreeMutation x mint tables w.trees (op.apply x loaded)
      (some loaded.version) with
    | .ok (none, trees) => (⟨trees, held⟩, [(loaded.rootRunId, op)])
    | .ok (some rejected, trees) => (⟨trees, held⟩, rejected.map fun entry =>
        (loaded.rootRunId, .recordRejectionEvidence entry.1 entry.2))
    | .error _ => (⟨w.trees, held⟩, [])
  | _, none => (w, [])

def playTurns (w : Clients) : List Turn → Clients × List (String × TreeOp)
  | [] => (w, [])
  | turn :: turns =>
    let (w, log) := turn.take x mint runs w
    let (w, rest) := playTurns w turns
    (w, log ++ rest)

/-- The calls on one run's tree. -/
def callsOn (runId : String) (log : List (String × TreeOp)) : List TreeOp :=
  log.filterMap fun entry => if entry.1 = runId then some entry.2 else none

variable {x mint runs} {w : Clients} {t p : RecursiveTree}

lemma validateTree_of_persistable (h : (t.validateTreeForPersistence x).isOk = true) :
    t.validateTree x = .ok () := by
  unfold validateTreeForPersistence at h
  cases hv : t.validateTree x with
  | ok u => rfl
  | error e =>
    rw [hv] at h
    cases h

variable {log : List (String × TreeOp)} {s : RecursiveTree} {runId : String}
  {agentStep : String → String → Option (Option RootMetadata)} {tables : WorkflowTables} {v : ℕ}

lemma bound_of_checkWorkflowBinding (h : checkWorkflowBinding mint tables t = .ok ()) :
    ∃ b, (tables.run t.rootRunId).bind RunRow.boundaries = some b ∧ b.tenantId = t.rootTenantId ∧
      b.workspaceId = t.rootWorkspaceId := by
  unfold checkWorkflowBinding at h
  cases hrun : tables.run t.rootRunId with
  | none => simp [hrun] at h
  | some run =>
    rw [hrun] at h
    obtain ⟨-, -, h⟩ := bind_ok h
    cases hb : run.boundaries with
    | none => simp [hb] at h
    | some b =>
      rw [hb] at h
      obtain ⟨u, hsame, -⟩ := bind_ok h
      simp only [refuse_eq_ok, Bool.or_eq_false_iff, decide_eq_false_iff_not, ne_eq, not_not] at hsame
      exact ⟨b, hb, hsame.1, hsame.2⟩

lemma persistRecursiveTree_eq_ok
    (h : persistRecursiveTree x mint tables trees t (some v) = .ok trees') :
    t.validateTree x = .ok () ∧ checkExpected trees t.rootRunId v = .ok () ∧
      checkWorkflowBinding mint tables t = .ok () ∧ trees' = trees.insert t := by
  obtain ⟨json, hv, h⟩ := bind_ok h
  obtain ⟨u, hc, h⟩ := bind_ok h
  obtain ⟨u', hb, h⟩ := bind_ok h
  exact ⟨validateTree_of_persistable (by rw [hv]; rfl), hc, hb, (Except.ok.inj h).symm⟩

lemma version_of_checkExpected (hp : trees.find? runId = some p)
    (h : checkExpected trees runId v = .ok ()) : p.version = v := by
  unfold checkExpected at h
  rw [hp] at h
  simp only [Option.map_some, refuse_eq_ok, decide_eq_false_iff_not, not_not] at h
  split_ifs at h with hv
  exact Option.some.inj h

@[simp] lemma version_normalizeLoadedTree : (normalizeLoadedTree t).version = t.version := by
  unfold normalizeLoadedTree
  split_ifs <;> rfl

@[simp] lemma rootRunId_normalizeLoadedTree : (normalizeLoadedTree t).rootRunId = t.rootRunId := by
  unfold normalizeLoadedTree
  split_ifs <;> rfl

/-- An accepted tree carries its aggregate limit. -/
lemma normalizeLoadedTree_accepted (h : t.validateTree x = .ok ()) : normalizeLoadedTree t = t := by
  obtain ⟨root, -, hlim⟩ := limit_of_root (validateTree_eq_ok.mp h).1.root
    (validateTree_eq_ok.mp h).1.node
  unfold normalizeLoadedTree
  rw [hlim]
  rfl

/-- A client's tree: accepted, bound to its run, and the stored tree or an older one. -/
structure Holds (runs : String → Option RunRow) (x : Externals) (trees : TreeTable)
    (s : RecursiveTree) : Prop where
  accepted : s.validateTree x = .ok ()
  bound : ∃ b, (runs s.rootRunId).bind RunRow.boundaries = some b ∧ b.tenantId = s.rootTenantId ∧
    b.workspaceId = s.rootWorkspaceId
  behind : ∃ p, trees.find? s.rootRunId = some p ∧ Behind version s (normalizeLoadedTree p)

lemma loadRecursiveTree_eq_ok (h : loadRecursiveTree x mint tables trees runId = .ok (some t)) :
    t.rootRunId = runId ∧ Holds tables.run x trees t ∧
      ∃ p, trees.find? runId = some p ∧ t = normalizeLoadedTree p := by
  unfold loadRecursiveTree at h
  cases hp : trees.find? runId with
  | none => simp [hp] at h
  | some p =>
    rw [hp] at h
    obtain ⟨-, -, h⟩ := bind_ok h
    obtain ⟨u, hb, h⟩ := bind_ok h
    obtain ⟨json, hv, h⟩ := bind_ok h
    cases h
    have hrun : (normalizeLoadedTree p).rootRunId = runId :=
      rootRunId_normalizeLoadedTree.trans (key_of_find? hp)
    refine ⟨hrun, ⟨validateTree_of_persistable (by rw [hv]; rfl), bound_of_checkWorkflowBinding hb,
      p, hrun ▸ hp, .refl _⟩, p, rfl, rfl⟩

/-- A write: the stored tree of one run moves on by the calls in `ops`. -/
structure Wrote (x : Externals) (trees trees' : TreeTable) (runId : String) (ops : List TreeOp) :
    Prop where
  moved : ∃ p c, trees.find? runId = some p ∧ trees' = trees.insert c ∧
    c = ops.foldl (TreeOp.apply x) (normalizeLoadedTree p) ∧ c.validateTree x = .ok () ∧
    Advance (normalizeLoadedTree p) c

/-- The holder of a current version holds the current tree, and saves its call on that. -/
lemma Holds.persist (h : Holds runs x trees s) {op : TreeOp}
    (hok : persistRecursiveTree x mint ⟨runs, agentStep⟩ trees (op.apply x s) (some s.version) =
      .ok trees') :
    Wrote x trees trees' s.rootRunId [op] := by
  obtain ⟨hacc, hexp, hbind, rfl⟩ := persistRecursiveTree_eq_ok hok
  have hs := (validateTree_eq_ok.mp h.accepted).1
  have hrun := op.rootRunId_apply hs
  obtain ⟨b, hb, htenant, hspace⟩ := h.bound
  obtain ⟨b', hb', htenant', hspace'⟩ := bound_of_checkWorkflowBinding hbind
  rw [hrun] at hexp hb'
  cases hb.symm.trans hb'
  obtain ⟨p, hp, hbehind⟩ := h.behind
  have hver := version_of_checkExpected hp hexp
  obtain rfl := hbehind.eq_of_ver (by rw [version_normalizeLoadedTree, hver])
  exact ⟨p, _, hp, rfl, rfl, hacc,
    op.advance hs (htenant'.symm.trans htenant) (hspace'.symm.trans hspace)⟩

/-- A save that came too late records rejections on the current tree. -/
lemma recordRecursiveCasRejection_eq_ok {candidate : RecursiveTree}
    {rejected : List (String × RecursiveDecisionEvidence)}
    (h : recordRecursiveCasRejection x mint ⟨runs, agentStep⟩ trees candidate =
      .ok (rejected, trees')) :
    rejected = [] ∧ trees' = trees ∨
      rejected ≠ [] ∧
        Wrote x trees trees' candidate.rootRunId
          (rejected.map fun entry => .recordRejectionEvidence entry.1 entry.2) := by
  obtain ⟨loaded, hload, h⟩ := bind_ok h
  cases loaded with
  | none => cases h
  | some current =>
    obtain ⟨hrun, -, p, hp, rfl⟩ := loadRecursiveTree_eq_ok hload
    dsimp only at h
    split_ifs at h with hnone
    · cases h
      exact .inl ⟨rfl, rfl⟩
    · obtain ⟨saved, hok, h⟩ := bind_ok h
      cases h
      obtain ⟨hacc, -, -, rfl⟩ := persistRecursiveTree_eq_ok hok
      refine .inr ⟨hnone, p, _, hp, rfl, by rw [foldl_map]; rfl, hacc, ?_⟩
      have hstep : ∀ (t : RecursiveTree) (entry : String × RecursiveDecisionEvidence),
          Advance t (t.recordRejectionEvidence entry.1 entry.2) :=
        fun t entry => ⟨rfl, rfl, .inr (Nat.lt_succ_self _)⟩
      exact advance_foldl hstep

/-- What one turn does to the stored trees. -/
inductive Took (x : Externals) (action : ClientAction) (trees trees' : TreeTable) :
    List (String × TreeOp) → Prop
  | idle (h : trees' = trees) : Took x action trees trees' []
  | saved {runId : String} {op : TreeOp} (ha : action = .save op ∨ action = .mutate op)
      (h : Wrote x trees trees' runId [op]) : Took x action trees trees' [(runId, op)]
  | rejected {runId : String} {rejected : List (String × RecursiveDecisionEvidence)}
      (hne : rejected ≠ [])
      (h : Wrote x trees trees' runId
        (rejected.map fun entry => .recordRejectionEvidence entry.1 entry.2)) :
      Took x action trees trees'
        (rejected.map fun entry => (runId, .recordRejectionEvidence entry.1 entry.2))

variable (mint) in
lemma Turn.take_cases (hw : ∀ c s, w.held c = some s → Holds runs x w.trees s) (turn : Turn) :
    Took x turn.action w.trees (turn.take x mint runs w).1.trees (turn.take x mint runs w).2 ∧
      ∀ c s, (turn.take x mint runs w).1.held c = some s → Holds runs x w.trees s := by
  have hdrop : ∀ c s, update w.held turn.client none c = some s → Holds runs x w.trees s := by
    intro c s h
    by_cases hc : c = turn.client
    · rw [hc, update_self] at h
      cases h
    · rw [update_of_ne hc] at h
      exact hw c s h
  obtain ⟨client, action, agentStep⟩ := turn
  unfold Turn.take
  cases action with
  | load runId =>
    dsimp only
    split
    · next s hload =>
      refine ⟨.idle rfl, fun c r h => ?_⟩
      dsimp only at h
      by_cases hc : c = client
      · rw [hc, update_self] at h
        cases h
        exact (loadRecursiveTree_eq_ok hload).2.1
      · rw [update_of_ne hc] at h
        exact hw c r h
    · exact ⟨.idle rfl, hw⟩
  | save op =>
    cases hh : w.held client with
    | none => exact ⟨.idle rfl, hw⟩
    | some loaded =>
      dsimp only
      split
      · next trees hok =>
        obtain ⟨u, -, hok⟩ := bind_ok hok
        exact ⟨.saved (.inl rfl) ((hw client loaded hh).persist hok), hdrop⟩
      · exact ⟨.idle rfl, hdrop⟩
  | mutate op =>
    cases hh : w.held client with
    | none => exact ⟨.idle rfl, hw⟩
    | some loaded =>
      have hold := hw client loaded hh
      dsimp only
      unfold persistTreeMutation
      split
      · next trees hok =>
        split at hok
        · next trees' hok' =>
          cases hok
          exact ⟨.saved (.inr rfl) (hold.persist hok'), hdrop⟩
        · split_ifs at hok
          obtain ⟨r, -, hok⟩ := bind_ok hok
          cases hok
      · next rejected trees hok =>
        split at hok
        · cases hok
        · split_ifs at hok
          obtain ⟨⟨rejected', trees'⟩, hrec, hok⟩ := bind_ok hok
          obtain ⟨hr, rfl⟩ := Prod.mk.inj (Except.ok.inj hok)
          cases hr
          refine ⟨?_, hdrop⟩
          have hrun := op.rootRunId_apply (validateTree_eq_ok.mp hold.accepted).1
          rcases recordRecursiveCasRejection_eq_ok hrec with ⟨rfl, rfl⟩ | ⟨hne, hwrote⟩
          · exact .idle rfl
          · rw [hrun] at hwrote
            exact .rejected hne hwrote
      · exact ⟨.idle rfl, hdrop⟩

/-- A held tree stays behind what is written. -/
lemma Holds.wrote (h : Holds runs x trees s) {ops : List TreeOp}
    (hwrote : Wrote x trees trees' runId ops) : Holds runs x trees' s := by
  obtain ⟨p, c, hp, rfl, -, hacc, hadv⟩ := hwrote.moved
  obtain ⟨q, hq, hbehind⟩ := h.behind
  have hc : c.rootRunId = runId :=
    hadv.run.trans (rootRunId_normalizeLoadedTree.trans (key_of_find? hp))
  refine ⟨h.accepted, h.bound, ?_⟩
  rw [find?_insert]
  split_ifs with hk
  · rw [hk, hc, hp] at hq
    cases hq
    refine ⟨c, rfl, ?_⟩
    rw [normalizeLoadedTree_accepted hacc]
    exact hbehind.trans hadv.behind
  · exact ⟨q, hq, hbehind⟩

/-- The stored tree of a run after a turn: the turn's calls on it, in order. -/
lemma Took.stored {action : ClientAction} (h : Took x action trees trees' log)
    (hp : trees.find? runId = some p) :
    ∃ q, trees'.find? runId = some q ∧
      Behind version (normalizeLoadedTree p) (normalizeLoadedTree q) ∧
      normalizeLoadedTree q = (callsOn runId log).foldl (apply x) (normalizeLoadedTree p) := by
  have key : ∀ {run : String} {ops : List TreeOp}, Wrote x trees trees' run ops →
      ∃ q, trees'.find? runId = some q ∧
        Behind version (normalizeLoadedTree p) (normalizeLoadedTree q) ∧
        normalizeLoadedTree q = (callsOn runId (ops.map fun op => (run, op))).foldl
          (apply x) (normalizeLoadedTree p) := by
    intro run ops hwrote
    obtain ⟨r, c, hr, rfl, hc, hacc, hadv⟩ := hwrote.moved
    have hcrun : c.rootRunId = run :=
      hadv.run.trans (rootRunId_normalizeLoadedTree.trans (key_of_find? hr))
    rw [find?_insert]
    split_ifs with hk
    · obtain rfl := hk.trans hcrun
      cases hp.symm.trans hr
      have hcalls : callsOn runId (ops.map fun op => (runId, op)) = ops := by
        simp [callsOn, filterMap_map]
      refine ⟨c, rfl, ?_, ?_⟩
      · rw [normalizeLoadedTree_accepted hacc]
        exact hadv.behind
      · rw [normalizeLoadedTree_accepted hacc, hcalls]
        exact hc
    · have hcalls : callsOn runId (ops.map fun op => (run, op)) = [] := by
        have hne : run ≠ runId := fun he => hk (by rw [hcrun, he])
        simp [callsOn, filterMap_map, hne]
      rw [hcalls]
      exact ⟨p, hp, .refl _, rfl⟩
  cases h with
  | idle h =>
    subst h
    exact ⟨p, hp, .refl _, rfl⟩
  | saved _ h => exact key h
  | rejected _ h => simpa [map_map, comp_def] using key h

/-- After a turn every client still holds a tree behind the stored one. -/
lemma holds_take (hw : ∀ c s, w.held c = some s → Holds runs x w.trees s) {turn : Turn} :
    ∀ c s, (turn.take x mint runs w).1.held c = some s →
      Holds runs x (turn.take x mint runs w).1.trees s := by
  intro c s hs
  obtain ⟨htook, hheld⟩ := turn.take_cases mint hw
  have hold := hheld c s hs
  generalize (turn.take x mint runs w).2 = log at htook
  cases htook with
  | idle h => exact h ▸ hold
  | saved _ h => exact hold.wrote h
  | rejected _ h => exact hold.wrote h

variable (mint) in
lemma playTurns_stored {turns : List Turn} :
    ∀ {w : Clients} {p : RecursiveTree}, (∀ c s, w.held c = some s → Holds runs x w.trees s) →
      w.trees.find? runId = some p →
      (∀ c s, (playTurns x mint runs w turns).1.held c = some s →
          Holds runs x (playTurns x mint runs w turns).1.trees s) ∧
        ∃ q, (playTurns x mint runs w turns).1.trees.find? runId = some q ∧
          normalizeLoadedTree q =
            (callsOn runId (playTurns x mint runs w turns).2).foldl (apply x)
              (normalizeLoadedTree p) := by
  induction turns with
  | nil =>
    intro w p hw hp
    exact ⟨hw, p, hp, rfl⟩
  | cons turn turns ih =>
    intro w p hw hp
    obtain ⟨q, hq, -, hcalls⟩ := (turn.take_cases mint hw).1.stored hp
    obtain ⟨hheld, r, hr, hrest⟩ := ih (holds_take hw) hq
    refine ⟨hheld, r, hr, ?_⟩
    rw [hrest, hcalls]
    exact ((congrArg (fun ops => foldl (apply x) (normalizeLoadedTree p) ops)
      filterMap_append).trans foldl_append).symm

/-- Whatever clients load and save, and in whatever order, the stored tree of a run is the
first one under exactly the calls whose save went through, with the rejections that refused
saves recorded. A turn with no effect leaves the table alone, and a turn that changes the
tree makes its version larger. -/
theorem no_lost_update (x : Externals)
    (mint : Mint)
    (runs : String → Option RunRow) (w : Clients) (hw : ∀ c, w.held c = none) (turns : List Turn)
    (runId : String) (p : RecursiveTree) (hp : w.trees.find? runId = some p) :
    ∃ q, (playTurns x mint runs w turns).1.trees.find? runId = some q ∧
      normalizeLoadedTree q = (callsOn runId (playTurns x mint runs w turns).2).foldl
        (apply x) (normalizeLoadedTree p) ∧
      ∀ turn : Turn,
        (∀ entry ∈ (turn.take x mint runs
            (playTurns x mint runs w turns).1).2,
          turn.action = .save entry.2 ∨ turn.action = .mutate entry.2 ∨
            ∃ proposalId evidence, entry.2 = .recordRejectionEvidence proposalId evidence) ∧
        ((turn.take x mint runs (playTurns x mint runs w turns).1).2 = [] →
          (turn.take x mint runs (playTurns x mint runs w turns).1).1.trees =
            (playTurns x mint runs w turns).1.trees) ∧
        ∃ q', (turn.take x mint runs
            (playTurns x mint runs w turns).1).1.trees.find? runId = some q' ∧
          (normalizeLoadedTree q' = normalizeLoadedTree q ∨ q.version < q'.version) := by
  have hnone : ∀ c s, w.held c = some s → Holds runs x w.trees s := by
    intro c s h
    rw [hw c] at h
    cases h
  obtain ⟨hheld, q, hq, hcalls⟩ := playTurns_stored mint hnone hp
  refine ⟨q, hq, hcalls, fun turn => ?_⟩
  have htook := (turn.take_cases mint hheld).1
  obtain ⟨q', hq', hbehind, -⟩ := htook.stored hq
  refine ⟨?_, ?_, q', hq', ?_⟩
  · generalize (turn.take x mint runs
      (playTurns x mint runs w turns).1).2 = log at htook ⊢
    cases htook with
    | idle _ => simp
    | saved ha _ => simpa using or_assoc.mp (.inl ha)
    | rejected _ _ =>
      intro entry hentry
      obtain ⟨e, -, rfl⟩ := mem_map.mp hentry
      exact .inr (.inr ⟨e.1, e.2, rfl⟩)
  · generalize (turn.take x mint runs
      (playTurns x mint runs w turns).1).2 = log at htook ⊢
    intro hlog
    cases htook with
    | idle h => exact h
    | saved _ _ => cases hlog
    | rejected hne _ => exact absurd (map_eq_nil_iff.mp hlog) hne
  · rcases hbehind with h | h
    · exact .inl h.symm
    · simp only [version_normalizeLoadedTree] at h
      exact .inr h

def sampleClients : Clients where
  trees := empty.insert sampleLeased
  held _ := none

def sampleRuns (runId : String) : Option RunRow :=
  if runId = "run-1" then some ⟨"wf-1", some sampleBoundaries⟩ else none

def sampleTurn (client : ℕ) (action : ClientAction) : Turn where
  client := client
  action := action
  agentStep _ _ := some (some sampleMetadata)

/-- Both load; the first one's pause is saved, and the other's call comes too late. -/
def sampleTurns : List Turn :=
  [sampleTurn 1 (.load "run-1"), sampleTurn 2 (.load "run-1"), sampleTurn 1 (.save .pause),
    sampleTurn 2 (.save .resume)]

theorem no_lost_update_sample :
    (callsOn "run-1" (playTurns sampleExternals (fun _ _ _ _ _ => sampleReceipt) sampleRuns
        sampleClients sampleTurns).2).length = 1 ∧
      ∃ q, (playTurns sampleExternals (fun _ _ _ _ _ => sampleReceipt) sampleRuns sampleClients
          sampleTurns).1.trees.find? "run-1" = some q ∧
        normalizeLoadedTree q = (callsOn "run-1" (playTurns sampleExternals
          (fun _ _ _ _ _ => sampleReceipt) sampleRuns sampleClients sampleTurns).2).foldl
            (apply sampleExternals) (normalizeLoadedTree sampleLeased) := by
  refine ⟨by decide +kernel, ?_⟩
  obtain ⟨q, hq, hcalls, -⟩ := no_lost_update sampleExternals (fun _ _ _ _ _ => sampleReceipt)
    sampleRuns sampleClients (fun _ => rfl) sampleTurns "run-1" sampleLeased (by rfl)
  exact ⟨q, hq, hcalls⟩

/-- Resuming a tree that runs is saved, and the version stays. -/
theorem idle_save_sample :
    (playTurns sampleExternals (fun _ _ _ _ _ => sampleReceipt) sampleRuns sampleClients
        [sampleTurn 1 (.load "run-1"), sampleTurn 1 (.save .resume)]).2.length = 1 ∧
      ((playTurns sampleExternals (fun _ _ _ _ _ => sampleReceipt) sampleRuns sampleClients
        [sampleTurn 1 (.load "run-1"), sampleTurn 1 (.save .resume)]).1.trees.find? "run-1").map
          version = (sampleClients.trees.find? "run-1").map version := by
  decide +kernel

end Harness
