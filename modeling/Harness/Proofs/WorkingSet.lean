import Harness.Lib.KeyedList
import Harness.Spec.WorkingSet

/-! What the reducer lets through: text within the bound, and with it a line that tells of the
failure. What a cache's digests tell apart: the texts they are made of can be read back. -/

namespace Harness.WorkingSet

open Lib.KeyedList List

lemma utf8ByteSize_headWithin (n : ℕ) (text : List Char) :
    (String.ofList (headWithin n text)).utf8ByteSize ≤ n := by
  rw [String.utf8ByteSize_ofList]
  induction text generalizing n with
  | nil => exact Nat.zero_le n
  | cons c text ih =>
    unfold headWithin
    split_ifs with hfits
    · have hrest := ih (n - c.utf8Size)
      rw [String.utf8Len_cons]
      omega
    · exact Nat.zero_le n

lemma utf8ByteSize_keepSalient {maxBytes : ℕ} {kept : String} (lines : List String)
    (h : kept.utf8ByteSize ≤ maxBytes) :
    (lines.foldl (keepSalient maxBytes) kept).utf8ByteSize ≤ maxBytes := by
  induction lines generalizing kept with
  | nil => exact h
  | cons line lines ih =>
    refine ih ?_
    unfold keepSalient
    dsimp only
    split_ifs with _ _ hfits hfits
    all_goals assumption

lemma utf8ByteSize_boundVisible (text : String) (maxBytes : ℕ) (mustKeepSalient : Bool) :
    (boundVisible text maxBytes mustKeepSalient).1.utf8ByteSize ≤ maxBytes := by
  have hkept : (if mustKeepSalient then (lines text).foldl (keepSalient maxBytes) ""
      else "").utf8ByteSize ≤ maxBytes := by
    split_ifs
    · exact utf8ByteSize_keepSalient _ (Nat.zero_le maxBytes)
    · exact Nat.zero_le maxBytes
  unfold boundVisible
  dsimp only
  generalize (if mustKeepSalient then (lines text).foldl (keepSalient maxBytes) "" else "") = kept
    at hkept ⊢
  have hhead := utf8ByteSize_headWithin (maxBytes - (kept.utf8ByteSize + 1)) text.toList
  split_ifs with hfits hfull
  · exact hfits
  · exact hkept
  · exact hhead.trans (Nat.sub_le ..)
  · exact hkept
  · have hbreak : "\n".utf8ByteSize = 1 := by decide
    simp only [String.utf8ByteSize_append, hbreak]
    omega

/-- A result that goes through has its outcome, and text within the bound; where a failure was
told of, a line of the text still tells of it. -/
theorem reduction_keeps_failure (ext : Externals) (admission : ToolResultAdmission) :
    match reduceToolResult ext admission with
    | .ok r => r.outcome = admission.outcome ∧ r.visible.IsValidUTF8 ∧
        r.visible.size ≤ max 1 admission.maxVisibleBytes ∧
        (admission.outcome ≠ .success →
          (∃ line ∈ lines (ext.redactSensitivePatterns (ext.fromUtf8Lossy admission.raw)),
            isSalientLine line = true) →
          ∃ text : String, r.visible = text.toByteArray ∧
            ∃ line ∈ lines text, isSalientLine line = true)
    | .error e => e.code ∈ ["unavailable", "unbound_evidence", "blocker_dropped"] := by
  unfold reduceToolResult
  split_ifs with hstale hblank
  · simp
  · simp
  · dsimp only
    split_ifs with hdropped
    · simp
    · refine ⟨rfl, String.isValidUTF8 _, ?_, fun hfailed hline => ⟨_, rfl, ?_⟩⟩
      · rw [String.size_toByteArray, max_comm]
        exact utf8ByteSize_boundVisible ..
      · have hkeep : admission.outcome = .failure ∨ admission.outcome = .unknown := by
          cases houtcome : admission.outcome with
          | success => exact absurd houtcome hfailed
          | failure => exact .inl rfl
          | unknown => exact .inr rfl
        simpa [hkeep, any_eq_true.mpr hline] using hdropped

def Externals.CollisionFree (ext : Externals) : Prop :=
  ∀ s s' : String, ext.contentSha256 s.toByteArray = ext.contentSha256 s'.toByteArray → s = s'

/-- Text that can stand between separators. -/
def Plain (text : String) : Prop := '\n' ∉ text.toList ∧ '\x00' ∉ text.toList

structure SourceIdentity.Clean (id : SourceIdentity) : Prop where
  owner : Plain id.owner
  identity : Plain id.identity
  contentSha256 : Plain id.contentSha256

lemma append_zero_inj {a a' b b' : String} (ha : Plain a) (ha' : Plain a')
    (h : a ++ ("\x00" ++ b) = a' ++ ("\x00" ++ b')) : a = a' ∧ b = b' := by
  have hlist := congrArg String.toList h
  simp only [String.toList_append] at hlist
  obtain ⟨hfirst, hrest⟩ := append_cons_inj ha.2 ha'.2 hlist
  exact ⟨String.toList_injective hfirst, String.toList_injective hrest⟩

lemma debug_injective {kind kind' : ItemKind} (h : kind.debug = kind'.debug) : kind = kind' := by
  cases kind <;> cases kind' <;> first | rfl | exact absurd h (by decide)

lemma itemFingerprint_inj {item item' : ProjectedItem} (h : item.identity.Clean)
    (h' : item'.identity.Clean) (heq : itemFingerprint item = itemFingerprint item') :
    (item.identity, item.kind) = (item'.identity, item'.kind) := by
  simp only [itemFingerprint, String.append_assoc] at heq
  obtain ⟨howner, heq⟩ := append_zero_inj h.owner h'.owner heq
  obtain ⟨hidentity, heq⟩ := append_zero_inj h.identity h'.identity heq
  obtain ⟨hsha, hkind⟩ := append_zero_inj h.contentSha256 h'.contentSha256 heq
  rw [debug_injective hkind]
  cases hi : item.identity
  cases hi' : item'.identity
  simp_all

lemma material_inj {lines lines' : List String} (h : ∀ line ∈ lines, '\n' ∉ line.toList)
    (h' : ∀ line ∈ lines', '\n' ∉ line.toList) (heq : material lines = material lines') :
    lines = lines' := by
  induction lines generalizing lines' with
  | nil =>
    cases lines' with
    | nil => rfl
    | cons line lines' => exact absurd (congrArg String.toList heq) (by simp [material])
  | cons line lines ih =>
    cases lines' with
    | nil => exact absurd (congrArg String.toList heq) (by simp [material])
    | cons line' lines' =>
      have hlist := congrArg String.toList heq
      simp only [material, String.toList_append, append_assoc] at hlist
      obtain ⟨hline, hrest⟩ := append_cons_inj (h line mem_cons_self)
        (h' line' mem_cons_self) hlist
      rw [String.toList_injective hline, ih (fun l hl => h l (mem_cons_of_mem _ hl))
        (fun l hl => h' l (mem_cons_of_mem _ hl)) (String.toList_injective hrest)]

lemma map_eq_map_of {α β γ : Type} {f : α → β} {g : α → γ} {l l' : List α}
    (hfg : ∀ a ∈ l, ∀ b ∈ l', f a = f b → g a = g b) (h : l.map f = l'.map f) :
    l.map g = l'.map g := by
  induction l generalizing l' with
  | nil => rw [map_eq_nil_iff.mp h.symm]
  | cons a l ih =>
    cases l' with
    | nil => cases h
    | cons b l' =>
      obtain ⟨hab, hrest⟩ := cons.inj h
      rw [map_cons, map_cons, hfg a mem_cons_self b mem_cons_self hab,
        ih (fun c hc d hd => hfg c (mem_cons_of_mem a hc) d (mem_cons_of_mem b hd)) hrest]

/-- What a cache has to know of the items. -/
def known (items : List ProjectedItem) : List (SourceIdentity × ItemKind) :=
  items.map fun item => (item.identity, item.kind)

/-- The hashes of the cold handles' contents. -/
def coldHashes (w : ProjectedWorkingSet) : List String := w.coldHandles.map (·.contentSha256)

structure ProjectedWorkingSet.Clean (w : ProjectedWorkingSet) : Prop where
  prefixItems : ∀ item ∈ w.prefixItems, item.identity.Clean
  dynamic : ∀ item ∈ w.dynamic, item.identity.Clean
  coldHandles : ∀ sha ∈ coldHashes w, Plain sha

lemma newline_not_mem_itemFingerprint {item : ProjectedItem} (h : item.identity.Clean) :
    '\n' ∉ (itemFingerprint item).toList := by
  have hkind : '\n' ∉ item.kind.debug.toList := by cases item.kind <;> decide
  have hzero : '\n' ∉ "\x00".toList := by decide
  simp only [itemFingerprint, String.toList_append, mem_append, not_or]
  exact ⟨⟨⟨⟨⟨⟨h.owner.1, hzero⟩, h.identity.1⟩, hzero⟩, h.contentSha256.1⟩, hzero⟩, hkind⟩

lemma newline_not_mem_fingerprints {items : List ProjectedItem}
    (h : ∀ item ∈ items, item.identity.Clean) :
    ∀ line ∈ items.map itemFingerprint, '\n' ∉ line.toList :=
  forall_mem_map.mpr fun item hitem => newline_not_mem_itemFingerprint (h item hitem)

lemma fingerprints_eq_iff {items items' : List ProjectedItem}
    (h : ∀ item ∈ items, item.identity.Clean) (h' : ∀ item ∈ items', item.identity.Clean) :
    items.map itemFingerprint = items'.map itemFingerprint ↔ known items = known items' := by
  refine ⟨map_eq_map_of fun a ha b hb => itemFingerprint_inj (h a ha) (h' b hb),
    map_eq_map_of fun a _ b _ hab => ?_⟩
  obtain ⟨hidentity, hkind⟩ := Prod.mk.inj hab
  simp only [itemFingerprint, hidentity, hkind]

variable {w : ProjectedWorkingSet}

/-- A fingerprint has a separator in it and a hash has none, so the two kinds of lines cannot be
taken for one another. -/
lemma filter_dynamic_lines (hw : w.Clean) :
    (w.dynamic.map itemFingerprint ++ coldHashes w).filter (fun line => '\x00' ∈ line.toList) =
      w.dynamic.map itemFingerprint := by
  have hitems : ∀ line ∈ w.dynamic.map itemFingerprint, '\x00' ∈ line.toList :=
    forall_mem_map.mpr fun item _ => by simp [itemFingerprint]
  have hcold : ∀ line ∈ coldHashes w, '\x00' ∉ line.toList :=
    fun line hline => (hw.coldHandles line hline).2
  rw [filter_append, filter_eq_self.mpr (by simpa using hitems),
    filter_eq_nil_iff.mpr (by simpa using hcold), append_nil]

lemma newline_not_mem_dynamic (hw : w.Clean) :
    ∀ line ∈ w.dynamic.map itemFingerprint ++ coldHashes w, '\n' ∉ line.toList :=
  forall_mem_append.mpr
    ⟨newline_not_mem_fingerprints hw.dynamic, fun line hline => (hw.coldHandles line hline).1⟩

lemma digests_of_partition {ext : Externals}
    {telemetry : Option CacheTelemetryObservation} {c : CachePartition}
    (h : partitionWorkingSet ext w telemetry = .ok c) :
    c.stablePrefixDigest =
        ext.contentSha256 (material (w.prefixItems.map itemFingerprint)).toByteArray ∧
      c.dynamicDigest = ext.contentSha256
        (material (w.dynamic.map itemFingerprint ++ coldHashes w)).toByteArray := by
  unfold partitionWorkingSet at h
  split_ifs at h
  cases h
  exact ⟨rfl, rfl⟩

/-- The digests tell prefixes and dynamic items apart, and of the cold handles their contents. -/
theorem digests_identify_iff (ext : Externals) (hsha : ext.CollisionFree) (w w' : ProjectedWorkingSet)
    (hw : w.Clean) (hw' : w'.Clean) (telemetry telemetry' : Option CacheTelemetryObservation)
    (c c' : CachePartition)
    (hc : partitionWorkingSet ext w telemetry = .ok c)
    (hc' : partitionWorkingSet ext w' telemetry' = .ok c') :
    (c.stablePrefixDigest = c'.stablePrefixDigest ↔ known w.prefixItems = known w'.prefixItems) ∧
      (c.dynamicDigest = c'.dynamicDigest ↔
        known w.dynamic = known w'.dynamic ∧ coldHashes w = coldHashes w') := by
  obtain ⟨hstable, hdynamic⟩ := digests_of_partition hc
  obtain ⟨hstable', hdynamic'⟩ := digests_of_partition hc'
  rw [hstable, hstable', hdynamic, hdynamic', ← fingerprints_eq_iff hw.prefixItems hw'.prefixItems,
    ← fingerprints_eq_iff hw.dynamic hw'.dynamic]
  refine ⟨⟨fun h => ?_, fun h => by rw [h]⟩, fun h => ?_, fun h => by rw [h.1, h.2]⟩
  · exact material_inj (newline_not_mem_fingerprints hw.prefixItems)
      (newline_not_mem_fingerprints hw'.prefixItems) (hsha _ _ h)
  · have hlines := material_inj (newline_not_mem_dynamic hw) (newline_not_mem_dynamic hw')
      (hsha _ _ h)
    have hitems := congrArg (filter fun line => '\x00' ∈ line.toList) hlines
    rw [filter_dynamic_lines hw, filter_dynamic_lines hw'] at hitems
    rw [hitems] at hlines
    exact ⟨hitems, append_cancel_left hlines⟩

/-- A hash that is the text itself. -/
def textHash : Externals where
  isWhitespace := Char.isWhitespace
  contentSha256 bytes := (String.fromUTF8? bytes).getD ""
  fromUtf8Lossy bytes := (String.fromUTF8? bytes).getD ""
  redactSensitivePatterns := id

lemma textHash_collisionFree : textHash.CollisionFree := by
  intro s s' h
  simpa [textHash, String.fromUTF8?, String.isValidUTF8, String.fromUTF8,
    String.toByteArray_inj] using h

/-- An item of either kind and a cold handle of so named a source. -/
def mixedSet (task identity : String) : ProjectedWorkingSet where
  prefixItems := [⟨⟨"docs", "rules", "hash"⟩, .authority, .pinned, .empty⟩]
  dynamic := [⟨⟨"queue", task, "hash"⟩, .working, .hot, .empty⟩]
  coldHandles := [⟨"docs", identity, "hash", .gitBlob⟩]

/-- A handle under another name leaves the digests as they were. -/
theorem renamed_handle_unseen :
    textHash.CollisionFree ∧
      ∃ c, partitionWorkingSet textHash (mixedSet "build" "a") none = .ok c ∧
        partitionWorkingSet textHash (mixedSet "build" "b") none = .ok c ∧
        (mixedSet "build" "a").coldHandles.map (·.sourceIdentity) ≠
          (mixedSet "build" "b").coldHandles.map (·.sourceIdentity) :=
  ⟨textHash_collisionFree, _, rfl, rfl, by decide⟩

lemma mixedSet_clean {task identity : String} (h : Plain task) : (mixedSet task identity).Clean :=
  ⟨forall_mem_singleton.mpr ⟨by simp [Plain], by simp [Plain], by simp [Plain]⟩,
    forall_mem_singleton.mpr ⟨by simp [Plain], h, by simp [Plain]⟩,
    forall_mem_singleton.mpr (by simp [Plain])⟩

theorem digests_identify_iff_mixed :
    ∃ c c', partitionWorkingSet textHash (mixedSet "build" "a") none = .ok c ∧
      partitionWorkingSet textHash (mixedSet "test" "b") none = .ok c' ∧
      c.stablePrefixDigest = c'.stablePrefixDigest ∧
      c.dynamicDigest ≠ c'.dynamicDigest := by
  obtain ⟨hstable, hdynamic⟩ := digests_identify_iff textHash textHash_collisionFree
    (mixedSet "build" "a") (mixedSet "test" "b") (mixedSet_clean (by simp [Plain]))
    (mixedSet_clean (by simp [Plain])) none none _ _ rfl rfl
  refine ⟨_, _, rfl, rfl, hstable.mpr rfl, fun h => absurd (hdynamic.mp h).1 ?_⟩
  simp [known, mixedSet]

end Harness.WorkingSet
