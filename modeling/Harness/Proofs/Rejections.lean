import Harness.Sanity.Root
import Mathlib.Data.Finset.Card

/-! Rejected proposals. Each is kept in the tree, and a tree that keeps too many is not saved
any more. -/

namespace Harness

open Lib RecursiveTree List Table

variable {x : Externals} {t : RecursiveTree}

/-- Proposals that were rejected one after the other, each with its reason. -/
abbrev Rejections := List (String × RecursiveFailureReason)

def rejection (entry : String × RecursiveFailureReason) : String × RecursiveDecisionEvidence :=
  (entry.1, { reasonCode := entry.2, evidenceRefs := ["agent_proposal/" ++ entry.1] })

namespace RecursiveTree

def rejectAll (t : RecursiveTree) (rejections : Rejections) : RecursiveTree :=
  rejections.foldl (fun t entry => t.recordRejection entry.1 entry.2) t

def rejectedIds (t : RecursiveTree) : Finset String :=
  (t.rejectedProposals.rows.map Prod.fst).toFinset

lemma mem_rejectedIds {p : String} : p ∈ t.rejectedIds ↔ t.rejectedProposals.contains p = true := by
  rw [rejectedIds, mem_toFinset, mem_map, Table.contains_iff]

lemma card_rejectedIds : t.rejectedIds.card = t.rejectedProposals.size := by
  rw [rejectedIds, toFinset_card_of_nodup t.rejectedProposals.keys_nodup, length_map]
  rfl

/-- One more rejection adds its proposal, unless it was rejected before. -/
lemma rejectedIds_recordRejection {entry : String × RecursiveFailureReason} :
    (t.recordRejection entry.1 entry.2).rejectedIds = insert entry.1 t.rejectedIds := by
  ext p
  rw [Finset.mem_insert, mem_rejectedIds, mem_rejectedIds, Table.contains, Table.contains]
  change ((t.rejectedProposals.insert (rejection entry)).find? p).isSome = true ↔ _
  rw [find?_insert]
  by_cases hp : p = (rejection entry).1
  · rw [if_pos hp]
    exact ⟨fun _ => .inl hp, fun _ => rfl⟩
  · rw [if_neg hp]
    exact ⟨.inr, fun h => h.resolve_left hp⟩

variable {rejections : Rejections}

lemma rejectedIds_rejectAll :
    (t.rejectAll rejections).rejectedIds = t.rejectedIds ∪ (rejections.map Prod.fst).toFinset := by
  induction rejections generalizing t with
  | nil => exact (Finset.union_empty _).symm
  | cons entry rejections ih =>
    change ((t.recordRejection entry.1 entry.2).rejectAll rejections).rejectedIds = _
    rw [ih, rejectedIds_recordRejection, map_cons, toFinset_cons, Finset.insert_union,
      Finset.union_insert]

/-- What the tree keeps about a rejection is what it kept, or what was recorded. -/
lemma mem_rejectAll {decision : String × RecursiveDecisionEvidence}
    (h : decision ∈ (t.rejectAll rejections).rejectedProposals.rows) :
    decision ∈ t.rejectedProposals.rows ∨ ∃ entry ∈ rejections, decision = rejection entry := by
  induction rejections generalizing t with
  | nil => exact .inl h
  | cons entry rejections ih =>
    rcases ih (t := t.recordRejection entry.1 entry.2) h with h | ⟨other, hother, rfl⟩
    · rcases (mem_insert _ _ _).mp h with rfl | ⟨h, -⟩
      · exact .inr ⟨entry, mem_cons_self, rfl⟩
      · exact .inl h
    · exact .inr ⟨other, mem_cons_of_mem entry hother, rfl⟩

/-- Nothing else changes but the version. -/
lemma rejectAll_eq (rejections : Rejections) :
    ∃ version, t.rejectAll rejections =
      { t with
        rejectedProposals := (t.rejectAll rejections).rejectedProposals
        version := version } := by
  induction rejections generalizing t with
  | nil => exact ⟨t.version, rfl⟩
  | cons entry rejections ih =>
    obtain ⟨version, h⟩ := ih (t := t.recordRejection entry.1 entry.2)
    exact ⟨version, h⟩

/-- What the validator asks of the rejections, the rest of the tree being accepted. -/
lemma validateTree_rejections (h : t.validateTree x = .ok ())
    {rejected : TextMap RecursiveDecisionEvidence} {version : ℕ} :
    { t with rejectedProposals := rejected, version := version }.validateTree x = .ok () ↔
      (∀ p ∈ t.acceptedProposals, rejected.contains p = false) ∧
        rejected.size ≤ maxRecursiveNodesPerRoot ∧
        ∀ decision ∈ rejected.rows, evidenceExceedsShape decision.2.evidenceRefs = false ∧
          decision.2.reasonCode.asStr.utf8ByteSize ≤ 128 := by
  obtain ⟨hs, hl, hr, hc⟩ := validateTree_eq_ok.mp h
  rw [validateTree_eq_ok]
  constructor
  · rintro ⟨hs', -, -, -⟩
    exact ⟨hs'.unrejected, hs'.rejected_le, hs'.rejected⟩
  · rintro ⟨hunrejected, hle, hrejected⟩
    refine ⟨?_, ⟨hl.card_le, hl.node, hl.held⟩, ⟨hr.size_le, hr.named⟩, hc⟩
    refine { hs with unrejected := hunrejected, rejected_le := hle, rejected := hrejected, node := ?_ }
    intro n hn
    obtain ⟨a, b, c, d, e, f, g, i, j, k, l, m, o, p⟩ := hs.node n hn
    exact ⟨a, b, c, d, e, f, g, i, j, k, l, m, o, p⟩

end RecursiveTree

lemma RecursiveFailureReason.utf8ByteSize_asStr (reason : RecursiveFailureReason) :
    reason.asStr.utf8ByteSize ≤ 128 := by
  cases reason <;> decide

/-- The reference that a rejection keeps has room for 241 bytes of the proposal's name. -/
lemma evidence_rejection {entry : String × RecursiveFailureReason}
    (h : entry.1.utf8ByteSize ≤ 241) :
    evidenceExceedsShape (rejection entry).2.evidenceRefs = false := by
  have hsize : ("agent_proposal/" ++ entry.1).utf8ByteSize = 15 + entry.1.utf8ByteSize :=
    String.utf8ByteSize_append
  simp only [evidenceExceedsShape, rejection, any_cons, any_nil, Bool.or_false, hsize,
    Bool.or_eq_false_iff, decide_eq_false_iff_not]
  exact ⟨rfl, by unfold maxRecursiveEvidenceRefBytes; omega⟩

/-- However often and for whatever reasons proposals that were not accepted are rejected, the
tree stays one that can be saved exactly if it has rejected no more than twelve in all. -/
theorem rejections_saved_iff (h : t.validateTree x = .ok ()) (rejections : Rejections)
    (hrejections : ∀ entry ∈ rejections, entry.1 ∉ t.acceptedProposals ∧
      entry.1.utf8ByteSize ≤ 241) :
    (t.rejectAll rejections).validateTree x = .ok () ↔
      (t.rejectedIds ∪ (rejections.map Prod.fst).toFinset).card ≤ maxRecursiveNodesPerRoot := by
  have hshape := (validateTree_eq_ok.mp h).1
  obtain ⟨version, heq⟩ := t.rejectAll_eq rejections
  rw [heq, validateTree_rejections h, ← card_rejectedIds, rejectedIds_rejectAll]
  refine ⟨fun hall => hall.2.1, fun hle => ⟨fun p hp => ?_, hle, fun decision hd => ?_⟩⟩
  · rw [← Bool.not_eq_true, ← mem_rejectedIds, rejectedIds_rejectAll, Finset.mem_union, mem_rejectedIds,
      hshape.unrejected p hp, mem_toFinset, mem_map]
    rintro (hp' | ⟨entry, hentry, rfl⟩)
    · cases hp'
    · exact (hrejections entry hentry).1 hp
  · rcases mem_rejectAll hd with hd | ⟨entry, hentry, rfl⟩
    · exact hshape.rejected decision hd
    · exact ⟨evidence_rejection (hrejections entry hentry).2, entry.2.utf8ByteSize_asStr⟩

theorem rejections_saved_sample :
    (sampleRoot.rejectAll
      [("p-1", .staleParent), ("p-2", .staleParent), ("p-1", .scopeMismatch)]).validateTree
        sampleExternals = .ok () :=
  (rejections_saved_iff validateTree_sampleRoot _ (by decide)).mpr (by decide)

/-- The thirteenth rejection. -/
theorem rejections_unsaved_sample :
    sampleRoot.validateTree sampleExternals = .ok () ∧
      (sampleRoot.rejectAll (["a", "b", "c", "d", "e", "f", "g", "h", "i", "j", "k", "l"].map
        (·, .staleParent))).validateTree sampleExternals = .ok () ∧
      (sampleRoot.rejectAll (["a", "b", "c", "d", "e", "f", "g", "h", "i", "j", "k", "l", "m"].map
        (·, .staleParent))).validateTree sampleExternals =
        .error "recursive decision evidence exceeds bounded shape" :=
  ⟨by rfl, by rfl, by rfl⟩

end Harness
