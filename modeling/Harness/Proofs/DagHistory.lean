import Harness.Lib.Trace
import Harness.Sanity.GraphViews

/-! The history of a manager. It holds the graph of every earlier version, each of them valid, and
a rollback goes back to the last graph that had the version. What the manager is asked for and does
not do is to let a mutation through once it is approved. -/

namespace Harness

variable {p : DAGMutationProposal} {st st' : DAGState}

lemma DAGState.next_of_applyKind (h : st.applyKind p = .ok st') :
    ∃ nodes edges, st.next p nodes edges = st' := by
  unfold applyKind at h
  split at h
  · obtain ⟨_, _, _, h⟩ := applyAddNode_eq_ok.mp h
    exact ⟨_, _, h⟩
  · obtain ⟨_, _, _, _, h⟩ := applyRemoveNode_eq_ok.mp h
    exact ⟨_, _, h⟩
  · obtain ⟨_, _, _, _, _, _, _, _, _, _, h⟩ := applyAddEdge_eq_ok.mp h
    exact ⟨_, _, h⟩
  · obtain ⟨_, _, _, h⟩ := applyRemoveEdge_eq_ok.mp h
    exact ⟨_, _, h⟩
  · obtain ⟨_, _, _, _, _, _, _, h⟩ := applyRewireEdge_eq_ok.mp h
    exact ⟨_, _, h⟩
  · obtain ⟨_, _, _, _, h⟩ := applyUpdateNode_eq_ok.mp h
    exact ⟨_, _, h⟩
  · cases h

namespace DAGManager

open Lib List DAGState

variable {m : DAGManager} {history : List (DAGState × DAGMutationProposal)}

/-- Valid graphs of one DAG on top of each other, a version apart. -/
def Stacked : DAGState → List (DAGState × DAGMutationProposal) → Prop
  | st, [] => st.Valid ∧ st.version = 0
  | st, (prev, _) :: history =>
    st.Valid ∧ st.version = prev.version + 1 ∧ st.dagId = prev.dagId ∧ Stacked prev history

namespace Stacked

lemma valid (h : Stacked st history) : st.Valid := by
  cases history <;> exact h.1

lemma version (h : Stacked st history) : st.version = history.length := by
  induction history generalizing st with
  | nil => exact h.2
  | cons prev history ih => rw [h.2.1, ih h.2.2.2, length_cons]

lemma version_lt (h : Stacked st history) (hst' : st' ∈ history.map Prod.fst) :
    st'.version < st.version := by
  induction history generalizing st with
  | nil => cases hst'
  | cons prev history ih =>
    have hprev := h.2.1
    rcases mem_cons.mp hst' with rfl | hst'
    · omega
    · have := ih h.2.2.2 hst'
      omega

end Stacked

/-- The graphs that a manager holds, the newest first. -/
def states (m : DAGManager) : List DAGState := m.state :: m.history.map Prod.fst

/-- An applied mutation puts a graph on top of the others. -/
lemma stacked_applyMutation (h : Stacked m.state m.history) (p : DAGMutationProposal) :
    (m.applyMutation p).1 = m ∨ Stacked (m.applyMutation p).1.state (m.applyMutation p).1.history ∧
    (m.applyMutation p).1.history = (m.state, p) :: m.history := by
  rw [applyMutation]
  cases hp : m.state.applyMutation p with
  | error e => exact .inl rfl
  | ok st =>
    have happlies := ((applyMutation_spec h.valid).2 st hp).2
    obtain ⟨_, _, rfl⟩ := next_of_applyKind (applyMutation_eq_ok.mp hp).2.2
    exact .inr ⟨⟨happlies.valid, rfl, rfl, h⟩, rfl⟩

/-- A rollback takes graphs off, down to the version if there is one. -/
lemma stacked_popTo {toVersion : ℤ} (h : Stacked st history) :
    Stacked (popTo toVersion st history).state (popTo toVersion st history).history ∧
      (popTo toVersion st history).states <:+ states ⟨st, history⟩ ∧
      (0 ≤ toVersion → toVersion ≤ st.version →
        (popTo toVersion st history).state.version = toVersion) := by
  induction history generalizing st with
  | nil =>
    refine ⟨h, suffix_rfl, fun hle hge => ?_⟩
    have hzero : st.version = 0 := h.2
    change (st.version : ℤ) = toVersion
    omega
  | cons prev history ih =>
    have hprev := h.2.1
    unfold popTo
    split_ifs with hgt
    · obtain ⟨hstacked, hsuffix, hversion⟩ := ih h.2.2.2
      refine ⟨hstacked, hsuffix.trans (suffix_cons _ _), fun hle hge => hversion hle ?_⟩
      omega
    · exact ⟨h, suffix_rfl, fun _ hge => le_antisymm (not_lt.mp hgt) hge⟩

lemma stacked_call (h : Stacked m.state m.history) (c : Call) :
    Stacked (m.call c).state (m.call c).history := by
  cases c with
  | applyMutation p =>
    rcases stacked_applyMutation h p with hsame | ⟨hstacked, -⟩
    · rwa [call, hsame]
    · exact hstacked
  | rollback toVersion => exact (stacked_popTo h).1

lemma stacked_run (dagId timestamp : String) (calls : List Call) :
    Stacked ((new dagId timestamp).run calls).state ((new dagId timestamp).run calls).history := by
  have hnew : Stacked (new dagId timestamp).state (new dagId timestamp).history :=
    ⟨valid_new dagId timestamp, rfl⟩
  exact foldlRecOn calls call (motive := fun m => Stacked m.state m.history) hnew
    fun _ h c _ => stacked_call h c

lemma validateDag_of_valid (h : m.state.Valid) : m.validateDag = [] := by
  have hends : ∀ e ∈ m.state.edges, e.fromNode ∈ m.nodeIds ∧ e.toNode ∈ m.nodeIds := by
    intro e he
    obtain ⟨edgeId, hab⟩ := (edge_iff h.edgesKeyed).mpr ⟨e, he, rfl, rfl⟩
    obtain ⟨hfrom, hto⟩ := h.wellFormed.connected edgeId e.fromNode e.toNode hab
    exact ⟨findNode_isNone.mp (status_ne_none_iff.mp hfrom),
      findNode_isNone.mp (status_ne_none_iff.mp hto)⟩
  have hcycle : hasCycle m.state.nodes m.state.edges = false :=
    (hasCycle_eq_false_iff h.edgesKeyed h.wellFormed.connected).mpr h.wellFormed.acyclic
  rw [validateDag, hcycle, flatMap_eq_nil_iff.mpr]
  · rfl
  · intro e he
    rw [if_pos (hends e he).1, if_pos (hends e he).2]
    rfl

/-- Whatever is done to a manager, its graph is valid and its history goes back to the first
version. -/
theorem manager_stays_valid (dagId timestamp : String) (calls : List Call) :
    let m := (new dagId timestamp).run calls
    m.validateDag = [] ∧ (m.state.nodes.map DAGNode.nodeId).Nodup ∧
      (m.state.edges.map DAGEdge.edgeId).Nodup ∧ m.state.version = m.history.length := by
  have h := stacked_run dagId timestamp calls
  exact ⟨validateDag_of_valid h.valid, h.valid.nodesKeyed, h.valid.edgesKeyed, h.version⟩

/-- The graphs that a manager has had so far, the newest first. -/
def past (m : DAGManager) (calls : List Call) : List DAGState :=
  calls.inits.reverse.map fun earlier => (m.run earlier).state

/-- The graph that was there when the version was last reached. -/
def lastAt (m : DAGManager) (calls : List Call) (version : ℤ) : Option DAGState :=
  (m.past calls).find? fun st => st.version = version

lemma lastAt_concat (m : DAGManager) (calls : List Call) (c : Call) (version : ℤ) :
    m.lastAt (calls ++ [c]) version =
      if ((m.run calls).call c).state.version = version then some ((m.run calls).call c).state
      else m.lastAt calls version := by
  have hpast : m.past (calls ++ [c]) = ((m.run calls).call c).state :: m.past calls := by
    simp [past, inits_append, run]
  rw [lastAt, hpast, find?_cons]
  split_ifs with h <;> simp [h, lastAt]

lemma mem_states_of_call (h : Stacked m.state m.history) {c : Call}
    (hst : st ∈ (m.call c).history.map Prod.fst) : st ∈ m.states := by
  cases c with
  | applyMutation p =>
    rcases stacked_applyMutation h p with hsame | ⟨-, hhistory⟩
    · rw [call, hsame] at hst
      exact mem_cons_of_mem _ hst
    · rw [call, hhistory] at hst
      exact hst
  | rollback toVersion => exact (stacked_popTo h).2.1.subset (mem_cons_of_mem _ hst)

/-- Each graph that the manager holds is the last one with its version. -/
lemma lastAt_of_mem_states (dagId timestamp : String) (calls : List Call)
    (hst : st ∈ ((new dagId timestamp).run calls).states) :
    (new dagId timestamp).lastAt calls st.version = some st := by
  induction calls using reverseRecOn with
  | nil =>
    obtain rfl := mem_singleton.mp hst
    rfl
  | append_singleton calls c ih =>
    have hstacked := stacked_run dagId timestamp calls
    have hrun : (new dagId timestamp).run (calls ++ [c]) =
        ((new dagId timestamp).run calls).call c := foldl_concat ..
    rw [lastAt_concat]
    rw [hrun] at hst
    rcases mem_cons.mp hst with rfl | hst
    · rw [if_pos rfl]
    · have hlt := (stacked_call hstacked c).version_lt hst
      rw [if_neg (by omega)]
      exact ih (mem_states_of_call hstacked hst)

/-- A rollback to a version finds the graph that was there when the version was last reached, and a
mutation that is rejected changes nothing. -/
theorem rollback_exact (dagId timestamp : String) (calls : List Call) :
    let m := (new dagId timestamp).run calls
    (∀ v : ℤ, 0 ≤ v → v ≤ m.state.version →
      (new dagId timestamp).lastAt calls v = some (m.rollback v).state) ∧
      ∀ p, (m.applyMutation p).2.applied = false → (m.applyMutation p).1 = m := by
  intro m
  constructor
  · intro v hle hge
    obtain ⟨-, hsuffix, hversion⟩ := @stacked_popTo _ _ v (stacked_run dagId timestamp calls)
    have hlast := lastAt_of_mem_states dagId timestamp calls (hsuffix.subset mem_cons_self)
    rwa [hversion hle hge] at hlast
  · intro p hrejected
    unfold applyMutation at hrejected ⊢
    cases hp : m.state.applyMutation p with
    | error e => rfl
    | ok st =>
      rw [hp] at hrejected
      cases hrejected

end DAGManager

/-- The gate for a proposal that needs approval. -/
structure GateWorks (m : DAGManager) (p : DAGMutationProposal) : Prop where
  refuses : p.status ≠ "approved" → (m.applyMutation p).2.applied = false
  applies : (m.applyMutation { p with status := "approved" }).2.applied = true

/-- Nothing but the approval is in the way. -/
def DAGState.Applicable (st : DAGState) (p : DAGMutationProposal) : Prop :=
  p.dagId = st.dagId ∧ ∃ st', st.applyKind p = .ok st'

lemma not_applied_of_requiresApproval {m : DAGManager} {p : DAGMutationProposal}
    (h : requiresApproval p m.state = true) : (m.applyMutation p).2.applied = false := by
  rw [DAGManager.applyMutation]
  cases hp : m.state.applyMutation p with
  | error e => rfl
  | ok st =>
    rw [(DAGState.applyMutation_eq_ok.mp hp).2.1] at h
    cases h

/-- The status of a proposal is never read, so that the gate works only where it has nothing to
do. -/
theorem gate_works_iff (dagId timestamp : String) (calls : List DAGManager.Call)
    (p : DAGMutationProposal) :
    let m := (DAGManager.new dagId timestamp).run calls
    (requiresApproval p m.state = true → m.state.Applicable p → GateWorks m p) ↔
      ¬(requiresApproval p m.state = true ∧ m.state.Applicable p) := by
  intro m
  rw [not_and]
  refine imp_congr_right fun happroval => imp_congr_right fun _ => iff_of_false ?_ id
  intro h
  have hrefused := @not_applied_of_requiresApproval m { p with status := "approved" } happroval
  cases hrefused.symm.trans h.applies

def addRunning : DAGMutationProposal where
  proposalId := "p1"
  dagId := "dag"
  mutationType := .addNode
  targetNodeId := none
  targetEdgeId := none
  payload := [("node_id", .str "n1"), ("status", .str "running")]
  reason := ""
  requiresApproval := false

def removeRunning : DAGMutationProposal :=
  { addRunning with mutationType := .removeNode, targetNodeId := some "n1", payload := [] }

theorem approved_removal_refused :
    let m := (DAGManager.new "dag" "t0").run [.applyMutation addRunning]
    requiresApproval removeRunning m.state = true ∧ m.state.Applicable removeRunning ∧
      (m.applyMutation { removeRunning with status := "approved" }).2.applied = false := by
  refine ⟨by decide, ⟨rfl, _, rfl⟩, by decide⟩

end Harness
