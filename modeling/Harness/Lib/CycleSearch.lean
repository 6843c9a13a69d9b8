import Mathlib.Algebra.Order.BigOperators.Group.List
import Mathlib.Algebra.Order.Ring.Nat
import Mathlib.Logic.Relation
import Mathlib.Order.WellFoundedSet

/-! Depth-first search for a cycle, with three colors and an explicit stack. The gray nodes are
those on the stack, which is a path; what is black has been searched, and no edge leads out of it.
Each turn of the loop uses up some of the work that is left, so the search ends. -/

namespace Harness.Lib.CycleSearch

open List Function

inductive Color where
  | white
  | gray
  | black
deriving DecidableEq

variable {α : Type} (adj : α → List α)

section Search

variable [DecidableEq α]

/-- Go on from the stack of nodes, each with the number of its neighbors that have been looked
at. True if a neighbor is gray. -/
def walk : ℕ → (α → Option Color) → List (α × ℕ) → Bool × (α → Option Color)
  | 0, color, _ => (false, color)
  | _ + 1, color, [] => (false, color)
  | fuel + 1, color, (node, idx) :: stack =>
    match (adj node)[idx]? with
    | none => walk fuel (update color node (some .black)) stack
    | some neighbor =>
      match color neighbor with
      | some .gray => (true, color)
      | some .white =>
        walk fuel (update color neighbor (some .gray))
          ((neighbor, 0) :: (node, idx + 1) :: stack)
      | _ => walk fuel color ((node, idx + 1) :: stack)

/-- Walk from every node that is still white when its turn comes. -/
def visit (fuel : ℕ) : List α → (α → Option Color) → Bool
  | [], _ => false
  | start :: rest, color =>
    if color start = some .white then
      match walk adj fuel (update color start (some .gray)) [(start, 0)] with
      | (true, _) => true
      | (false, color) => visit fuel rest color
    else visit fuel rest color

/-- One turn for each neighbor of a node, and one to leave it. -/
def work (adj : α → List α) (node : α) : ℕ := (adj node).length + 1

/-- Whether the graph on these nodes has a cycle; they are visited in the given order. -/
def search (nodes order : List α) : Bool :=
  visit adj ((nodes.map (work adj)).sum + 1) order fun a => if a ∈ nodes then some .white else none

end Search

variable (nodes : List α)

def Edge (a b : α) : Prop := a ∈ nodes ∧ b ∈ nodes ∧ b ∈ adj a

def Cyclic : Prop := ∃ a, Relation.TransGen (Edge adj nodes) a a

/-- The stack from its top on: each node has an edge to the one above it, and of the neighbors
that have been looked at, all but that one are black or outside the graph. -/
def Frames (color : α → Option Color) : Option α → List (α × ℕ) → Prop
  | _, [] => True
  | above, (node, idx) :: stack =>
    (∀ a, above = some a → Edge adj nodes node a) ∧
      (∀ b ∈ (adj node).take idx, color b = some .black ∨ color b = none ∨ above = some b) ∧
        Frames color (some node) stack

structure Inv (color : α → Option Color) (stack : List (α × ℕ)) : Prop where
  known : ∀ a, color a = none ↔ a ∉ nodes
  nodup : (stack.map Prod.fst).Nodup
  gray : ∀ a, color a = some .gray ↔ a ∈ stack.map Prod.fst
  frames : Frames adj nodes color none stack
  closed : ∀ a b, color a = some .black → Edge adj nodes a b → color b = some .black
  acyclic : ∀ a, color a = some .black → ¬Relation.TransGen (Edge adj nodes) a a

variable {adj nodes} {color color' : α → Option Color} {stack : List (α × ℕ)} {node : α} {idx : ℕ}

lemma Frames.mono {above : Option α} (h : Frames adj nodes color above stack)
    (hblack : ∀ b, color b = some .black → color' b = some .black)
    (hnone : ∀ b, color b = none → color' b = none) : Frames adj nodes color' above stack := by
  induction stack generalizing above with
  | nil => trivial
  | cons f stack ih =>
    obtain ⟨habove, hseen, hrest⟩ := h
    refine ⟨habove, fun b hb => ?_, ih hrest⟩
    rcases hseen b hb with hb | hb | hb
    · exact .inl (hblack b hb)
    · exact .inr (.inl (hnone b hb))
    · exact .inr (.inr hb)

/-- The node above is done. -/
lemma Frames.pop (h : Frames adj nodes color (some node) stack)
    (hnode : color node = some .black) : Frames adj nodes color none stack := by
  cases stack with
  | nil => trivial
  | cons f stack =>
    obtain ⟨-, hseen, hrest⟩ := h
    refine ⟨nofun, fun b hb => ?_, hrest⟩
    rcases hseen b hb with hb | hb | hb
    · exact .inl hb
    · exact .inr (.inl hb)
    · exact .inl (Option.some.inj hb ▸ hnode)

/-- What is on the stack reaches what is above it. -/
lemma Frames.reaches (h : Frames adj nodes color (some node) stack) {a : α}
    (ha : a ∈ stack.map Prod.fst) : Relation.TransGen (Edge adj nodes) a node := by
  induction stack generalizing node with
  | nil => cases ha
  | cons f stack ih =>
    obtain ⟨habove, -, hrest⟩ := h
    have hedge : Edge adj nodes f.1 node := habove node rfl
    rcases mem_cons.mp ha with rfl | ha
    · exact .single hedge
    · exact (ih hrest ha).tail hedge

namespace Inv

variable {a b neighbor : α}

lemma mem_of_color (h : Inv adj nodes color stack) {c : Color} (ha : color a = some c) :
    a ∈ nodes := by
  by_contra hnot
  rw [(h.known a).mpr hnot] at ha
  cases ha

lemma top_gray (h : Inv adj nodes color ((node, idx) :: stack)) : color node = some .gray :=
  (h.gray node).mpr mem_cons_self

/-- Nothing black reaches a node that is not. -/
lemma black_of_reaches (h : Inv adj nodes color stack) (ha : color a = some .black)
    (hab : Relation.TransGen (Edge adj nodes) a b) : color b = some .black := by
  induction hab with
  | single hedge => exact h.closed _ _ ha hedge
  | tail _ hedge ih => exact h.closed _ _ ih hedge

/-- A node whose neighbors have all been looked at turns black. -/
lemma leave [DecidableEq α] (h : Inv adj nodes color ((node, idx) :: stack))
    (hidx : (adj node)[idx]? = none) :
    Inv adj nodes (update color node (some .black)) stack := by
  obtain ⟨-, hseen, hrest⟩ := h.frames
  have hall : ∀ b, Edge adj nodes node b → color b = some .black := by
    rintro b ⟨-, hb, hadj⟩
    have htake : b ∈ (adj node).take idx := by
      rw [take_of_length_le (getElem?_eq_none_iff.mp hidx)]
      exact hadj
    rcases hseen b htake with hblack | hnone | habove
    · exact hblack
    · exact absurd hb ((h.known b).mp hnone)
    · cases habove
  have hkeeps : ∀ b, color b = some .black →
      update color node (some .black) b = some .black := by
    intro b hb
    by_cases hbn : b = node
    · rw [hbn, update_self]
    · rw [update_of_ne hbn, hb]
  refine ⟨fun a => ?_, (nodup_cons.mp h.nodup).2, fun a => ?_, ?_, ?_, ?_⟩
  · by_cases han : a = node
    · rw [han, update_self]
      exact iff_of_false nofun fun hnot => hnot (h.mem_of_color h.top_gray)
    · rw [update_of_ne han]
      exact h.known a
  · by_cases han : a = node
    · rw [han, update_self]
      exact iff_of_false nofun (nodup_cons.mp h.nodup).1
    · rw [update_of_ne han, h.gray a, map_cons, mem_cons]
      exact or_iff_right han
  · refine Frames.pop (hrest.mono hkeeps fun b hb => ?_) (update_self ..)
    have hbn : b ≠ node := by
      rintro rfl
      rw [h.top_gray] at hb
      cases hb
    rw [update_of_ne hbn, hb]
  · intro a b ha hedge
    by_cases han : a = node
    · exact hkeeps b (hall b (han ▸ hedge))
    · rw [update_of_ne han] at ha
      exact hkeeps b (h.closed a b ha hedge)
  · intro a ha hcycle
    by_cases han : a = node
    · -- the cycle goes on from a black neighbor, and would have to come back to a gray node
      subst han
      obtain ⟨b, hedge, hback⟩ := Relation.TransGen.head'_iff.mp hcycle
      have hblack : color a = some .black := by
        rcases Relation.reflTransGen_iff_eq_or_transGen.mp hback with heq | htrans
        · rw [heq]
          exact hall b hedge
        · exact h.black_of_reaches (hall b hedge) htrans
      rw [h.top_gray] at hblack
      cases hblack
    · rw [update_of_ne han] at ha
      exact h.acyclic a ha hcycle

lemma take_succ (hidx : (adj node)[idx]? = some neighbor) (hb : b ∈ (adj node).take (idx + 1)) :
    b ∈ (adj node).take idx ∨ b = neighbor := by
  rw [take_add_one, hidx] at hb
  exact (mem_append.mp hb).imp_right mem_singleton.mp

/-- A neighbor that is black or outside the graph is passed over. -/
lemma pass (h : Inv adj nodes color ((node, idx) :: stack))
    (hidx : (adj node)[idx]? = some neighbor)
    (hcolor : color neighbor = some .black ∨ color neighbor = none) :
    Inv adj nodes color ((node, idx + 1) :: stack) := by
  obtain ⟨habove, hseen, hrest⟩ := h.frames
  refine ⟨h.known, h.nodup, h.gray, ⟨habove, fun b hb => ?_, hrest⟩, h.closed, h.acyclic⟩
  rcases take_succ hidx hb with hb | rfl
  · exact hseen b hb
  · exact hcolor.imp_right .inl

/-- A white node that is found goes on the stack: it is `start`, or a neighbor of the top. -/
lemma paint [DecidableEq α] (h : Inv adj nodes color stack) {start : α}
    (hwhite : color start = some .white) {stack' : List (α × ℕ)}
    (hstack : stack'.map Prod.fst = stack.map Prod.fst)
    (hframes : ∀ color', (∀ b, color b = some .black → color' b = some .black) →
      (∀ b, color b = none → color' b = none) → Frames adj nodes color' (some start) stack') :
    Inv adj nodes (update color start (some .gray)) ((start, 0) :: stack') := by
  have hother : ∀ {b : α} {c : Option Color}, color b = c → c ≠ some .white →
      update color start (some .gray) b = c := by
    intro b c hb hc
    have hbs : b ≠ start := by
      rintro rfl
      exact hc (hb.symm.trans hwhite)
    rw [update_of_ne hbs, hb]
  have hback : ∀ {b : α}, update color start (some .gray) b = some .black →
      color b = some .black := by
    intro b hb
    by_cases hbs : b = start
    · rw [hbs, update_self] at hb
      cases hb
    · rwa [update_of_ne hbs] at hb
  refine ⟨fun a => ?_, ?_, fun a => ?_, ?_, ?_, fun a ha => h.acyclic a (hback ha)⟩
  · by_cases has : a = start
    · rw [has, update_self]
      exact iff_of_false nofun fun hnot => hnot (h.mem_of_color hwhite)
    · rw [update_of_ne has]
      exact h.known a
  · rw [map_cons, nodup_cons, hstack, ← h.gray, hwhite]
    exact ⟨nofun, h.nodup⟩
  · rw [map_cons, mem_cons, hstack]
    by_cases has : a = start
    · rw [has, update_self]
      exact iff_of_true rfl (.inl rfl)
    · rw [update_of_ne has, h.gray a]
      exact (or_iff_right has).symm
  · exact ⟨nofun, nofun,
      hframes _ (fun b hb => hother hb (by decide)) fun b hb => hother hb (by decide)⟩
  · intro a b ha hedge
    exact hother (h.closed a b (hback ha) hedge) (by decide)

lemma push [DecidableEq α] (h : Inv adj nodes color ((node, idx) :: stack))
    (hidx : (adj node)[idx]? = some neighbor) (hwhite : color neighbor = some .white) :
    Inv adj nodes (update color neighbor (some .gray))
      ((neighbor, 0) :: (node, idx + 1) :: stack) := by
  obtain ⟨-, hseen, hrest⟩ := h.frames
  refine h.paint hwhite rfl fun color' hblack hnone => ⟨?_, fun b hb => ?_, hrest.mono hblack hnone⟩
  · intro a ha
    cases ha
    exact ⟨h.mem_of_color h.top_gray, h.mem_of_color hwhite, mem_of_getElem? hidx⟩
  · rcases take_succ hidx hb with hb | rfl
    · rcases hseen b hb with hb | hb | hb
      · exact .inl (hblack b hb)
      · exact .inr (.inl (hnone b hb))
      · cases hb
    · exact .inr (.inr rfl)

/-- A gray neighbor closes a cycle. -/
lemma cyclic (h : Inv adj nodes color ((node, idx) :: stack))
    (hidx : (adj node)[idx]? = some neighbor) (hgray : color neighbor = some .gray) :
    Cyclic adj nodes := by
  have hedge : Edge adj nodes node neighbor :=
    ⟨h.mem_of_color h.top_gray, h.mem_of_color hgray, mem_of_getElem? hidx⟩
  rcases mem_cons.mp ((h.gray neighbor).mp hgray) with hself | hbelow
  · obtain rfl : neighbor = node := hself
    exact ⟨neighbor, .single hedge⟩
  · exact ⟨node, .head hedge (h.frames.2.2.reaches hbelow)⟩

/-- With an empty stack, what is not white is black. -/
lemma black_of_not_white (h : Inv adj nodes color []) (ha : a ∈ nodes)
    (hwhite : color a ≠ some .white) : color a = some .black := by
  cases hcolor : color a with
  | none => exact absurd ha ((h.known a).mp hcolor)
  | some c =>
    cases c with
    | white => exact absurd hcolor hwhite
    | gray => cases (h.gray a).mp hcolor
    | black => rfl

end Inv

def left (adj : α → List α) (nodes : List α) (color : α → Option Color) (stack : List (α × ℕ)) :
    ℕ :=
  (nodes.map fun a => if color a = some .white then work adj a else 0).sum +
    (stack.map fun f => (adj f.1).length - f.2 + 1).sum

lemma sum_add_le {l : List α} {f g : α → ℕ} (hle : ∀ a, f a ≤ g a) {a : α} (ha : a ∈ l)
    (hzero : f a = 0) : (l.map f).sum + g a ≤ (l.map g).sum := by
  obtain ⟨l₁, l₂, rfl⟩ := append_of_mem ha
  have h₁ : (l₁.map f).sum ≤ (l₁.map g).sum := sum_le_sum fun b _ => hle b
  have h₂ : (l₂.map f).sum ≤ (l₂.map g).sum := sum_le_sum fun b _ => hle b
  simp only [map_append, map_cons, sum_append, sum_cons, hzero]
  omega

lemma left_paint [DecidableEq α] {start : α} (hmem : start ∈ nodes)
    (hwhite : color start = some .white) :
    left adj nodes (update color start (some .gray)) ((start, 0) :: stack) ≤
      left adj nodes color stack := by
  have hsum := @sum_add_le α nodes
    (fun a => if update color start (some .gray) a = some .white then work adj a else 0)
    (fun a => if color a = some .white then work adj a else 0) (by
      intro a
      by_cases has : a = start
      · simp [has, update_self]
      · rw [update_of_ne has]) start hmem (by simp [update_self])
  simp only [hwhite, if_true, work] at hsum
  simp only [left, map_cons, sum_cons, work, Nat.sub_zero]
  omega

lemma left_leave [DecidableEq α] (hgray : color node = some .gray) :
    left adj nodes (update color node (some .black)) stack <
      left adj nodes color ((node, idx) :: stack) := by
  have hsame : (nodes.map fun a =>
      if update color node (some .black) a = some .white then work adj a else 0) =
        nodes.map fun a => if color a = some .white then work adj a else 0 := by
    refine map_congr_left fun a _ => ?_
    by_cases han : a = node
    · simp [han, hgray, update_self]
    · rw [update_of_ne han]
  simp only [left, hsame, map_cons, sum_cons]
  omega

lemma left_next {neighbor : α} (hidx : (adj node)[idx]? = some neighbor) :
    left adj nodes color ((node, idx + 1) :: stack) <
      left adj nodes color ((node, idx) :: stack) := by
  have hlt : idx < (adj node).length := (List.getElem?_eq_some_iff.mp hidx).1
  simp only [left, map_cons, sum_cons]
  omega

/-! The search finds a cycle just in case there is one. -/

/-- The search meets a cycle, or it gets to `stack` with everything visited that is `seen`. -/
structure Leads (adj : α → List α) (nodes : List α) (color : α → Option Color) (seen : List α)
    (r : Option (α → Option Color)) (stack : List (α × ℕ)) : Prop where
  cyclic : r = none → Cyclic adj nodes
  inv : ∀ color' ∈ r, Inv adj nodes color' stack
  visited : ∀ color' ∈ r, ∀ a, a ∈ seen ∨ color a ≠ some .white → color' a ≠ some .white

namespace Leads

variable {r : Option (α → Option Color)} {seen seen' : List α} {stack' : List (α × ℕ)}

lemma refl (h : Inv adj nodes color stack) (hseen : ∀ a ∈ seen, color a ≠ some .white) :
    Leads adj nodes color seen (some color) stack := by
  refine ⟨nofun, ?_, ?_⟩ <;> rintro _ ⟨⟩
  · exact h
  · exact fun a ha => ha.elim (hseen a) id

lemma subset (h : Leads adj nodes color seen r stack) (hsub : seen' ⊆ seen) :
    Leads adj nodes color seen' r stack :=
  ⟨h.cyclic, h.inv, fun c hc a ha => h.visited c hc a (ha.imp_left (hsub ·))⟩

/-- From a node that has been painted. -/
lemma of_update [DecidableEq α] {c : Color} (hc : c ≠ .white)
    (h : Leads adj nodes (update color node (some c)) seen r stack) :
    Leads adj nodes color (node :: seen) r stack := by
  refine ⟨h.cyclic, h.inv, fun c' hc' a ha => h.visited c' hc' a ?_⟩
  by_cases han : a = node
  · rw [han, update_self]
    exact .inr fun h => hc (Option.some.inj h)
  · rw [update_of_ne han]
    exact ha.imp_left fun ha => (mem_cons.mp ha).resolve_left han

lemma bind {f : (α → Option Color) → Option (α → Option Color)}
    (h : Leads adj nodes color seen r stack)
    (hf : ∀ color₁ ∈ r, Leads adj nodes color₁ seen' (f color₁) stack') :
    Leads adj nodes color (seen ++ seen') (r.bind f) stack' := by
  cases r with
  | none => exact ⟨h.cyclic, nofun, nofun⟩
  | some color₁ =>
    refine ⟨(hf color₁ rfl).cyclic, (hf color₁ rfl).inv, fun c hc a ha => ?_⟩
    refine (hf color₁ rfl).visited c hc a ?_
    rw [mem_append, or_assoc, or_left_comm] at ha
    exact ha.imp_right (h.visited color₁ rfl a)

lemma left_le (h : Leads adj nodes color seen r stack) (hc : color' ∈ r) :
    left adj nodes color' [] ≤ left adj nodes color [] := by
  refine Nat.add_le_add_right (sum_le_sum fun a _ => ?_) 0
  by_cases ha : color a = some .white
  · rw [if_pos ha]
    split_ifs
    · exact le_rfl
    · exact Nat.zero_le _
  · rw [if_neg (h.visited color' hc a (.inr ha))]
    exact Nat.zero_le _

end Leads

lemma black_or_none {a : α} (hgray : color a ≠ some .gray) (hwhite : color a ≠ some .white) :
    color a = some .black ∨ color a = none := by
  cases hcolor : color a with
  | none => exact .inr rfl
  | some c =>
    cases c with
    | white => exact absurd hcolor hwhite
    | gray => exact absurd hcolor hgray
    | black => exact .inl rfl

section Loop

variable {fuel : ℕ} {order : List α}
  {f : (α → Option Color) → α → Option (α → Option Color)}
  (hf : ∀ color, Inv adj nodes color [] → left adj nodes color [] < fuel → ∀ start ∈ order,
    Leads adj nodes color [start] (f color start) [])

include hf

/-- A search that starts in turn at each node of a list. -/
lemma foldlM_leads (h : Inv adj nodes color []) (hfuel : left adj nodes color [] < fuel) :
    Leads adj nodes color order (order.foldlM f color) [] := by
  induction order generalizing color with
  | nil => exact .refl h nofun
  | cons start order ih =>
    have hstart := hf color h hfuel start mem_cons_self
    rw [foldlM_cons]
    refine hstart.bind fun color₁ h₁ => ih ?_ (hstart.inv color₁ h₁)
      ((hstart.left_le h₁).trans_lt hfuel)
    exact fun c hc hleft a ha => hf c hc hleft a (mem_cons_of_mem _ ha)

lemma isNone_foldlM_iff [DecidableEq α] (hfuel : (nodes.map (work adj)).sum < fuel)
    (horder : ∀ a ∈ nodes, a ∈ order) :
    (order.foldlM f fun a => if a ∈ nodes then some .white else none).isNone = true ↔
      Cyclic adj nodes := by
  have hstart : Inv adj nodes (fun a => if a ∈ nodes then some .white else none) [] :=
    { known := fun a => by simp
      nodup := nodup_nil
      gray := fun a => by simp
      frames := trivial
      closed := fun a b ha => by simp at ha
      acyclic := fun a ha => by simp at ha }
  have hleft : left adj nodes (fun a => if a ∈ nodes then some .white else none) [] < fuel := by
    refine lt_of_le_of_lt ((Nat.add_zero _).trans_le (sum_le_sum fun a _ => ?_)) hfuel
    split_ifs
    · exact le_rfl
    · exact Nat.zero_le _
  have hleads := foldlM_leads hf hstart hleft
  rw [Option.isNone_iff_eq_none]
  refine ⟨hleads.cyclic, fun ⟨a, hcycle⟩ => ?_⟩
  by_contra hsome
  obtain ⟨color', hcolor'⟩ := Option.ne_none_iff_exists'.mp hsome
  have hinv := hleads.inv color' hcolor'
  obtain ⟨b, hedge, -⟩ := Relation.TransGen.head'_iff.mp hcycle
  have hvisited := hleads.visited color' hcolor' a (.inl (horder a hedge.1))
  exact hinv.acyclic a (hinv.black_of_not_white hedge.1 hvisited) hcycle

end Loop

variable [DecidableEq α]

def found (w : Bool × (α → Option Color)) : Option (α → Option Color) :=
  if w.1 then none else some w.2

/-- The walk ends with an empty stack, or with a cycle. -/
lemma walk_leads {fuel : ℕ} (h : Inv adj nodes color stack)
    (hfuel : left adj nodes color stack < fuel) :
    Leads adj nodes color [] (found (walk adj fuel color stack)) [] := by
  induction fuel generalizing color stack with
  | zero => exact absurd hfuel (Nat.not_lt_zero _)
  | succ fuel ih =>
    cases stack with
    | nil => exact .refl h nofun
    | cons f stack =>
      obtain ⟨node, idx⟩ := f
      unfold walk
      split
      · next hidx =>
        have hleave := ih (h.leave hidx)
          (Nat.lt_of_lt_of_le (left_leave h.top_gray) (Nat.le_of_lt_succ hfuel))
        exact (hleave.of_update (by decide)).subset (nil_subset _)
      · next neighbor hidx =>
        have hnext : left adj nodes color ((node, idx + 1) :: stack) <
            left adj nodes color ((node, idx) :: stack) := left_next hidx
        split
        · next hgray => exact ⟨fun _ => h.cyclic hidx hgray, nofun, nofun⟩
        · next hwhite =>
          have hpush := ih (h.push hidx hwhite)
            (Nat.lt_of_le_of_lt (left_paint (h.mem_of_color hwhite) hwhite) (by omega))
          exact (hpush.of_update (by decide)).subset (nil_subset _)
        · next hgray hwhite =>
          exact ih (h.pass hidx (black_or_none hgray hwhite)) (by omega)

lemma visit_eq {fuel : ℕ} {order : List α} :
    visit adj fuel order color = (order.foldlM (fun color start =>
      if color start = some .white then
        found (walk adj fuel (update color start (some .gray)) [(start, 0)])
      else some color) color).isNone := by
  induction order generalizing color with
  | nil => rfl
  | cons start order ih =>
    rw [visit, foldlM_cons]
    split_ifs
    · unfold found
      split
      · next hwalk =>
        rw [hwalk]
        rfl
      · next hwalk =>
        rw [hwalk]
        exact ih
    · exact ih

lemma search_eq_true_iff {order : List α} (horder : ∀ a ∈ nodes, a ∈ order) :
    search adj nodes order = true ↔ Cyclic adj nodes := by
  rw [search, visit_eq]
  refine isNone_foldlM_iff (fun color h hleft start _ => ?_) (Nat.lt_succ_self _) horder
  split_ifs with hwhite
  · exact (walk_leads (h.paint hwhite rfl fun _ _ _ => trivial)
      ((left_paint (h.mem_of_color hwhite) hwhite).trans_lt hleft)).of_update (by decide)
  · exact .refl h fun a ha => mem_singleton.mp ha ▸ hwhite

/-! The same search by recursion. It starts at every node, also at those that are black by then. -/

/-- One neighbor of the node that is looked at: `next` goes on from a white one. -/
def look (next : (α → Option Color) → α → Option (α → Option Color)) (color : α → Option Color)
    (dep : α) : Option (α → Option Color) :=
  match color dep with
  | some .gray => none
  | some .white => next color dep
  | _ => some color

/-- Search from a node. `none` if a gray node is met: no color is looked at after that. -/
def dfs (adj : α → List α) : ℕ → (α → Option Color) → α → Option (α → Option Color)
  | 0, color, _ => some color
  | fuel + 1, color, nid =>
    ((adj nid).foldlM (look (dfs adj fuel)) (update color nid (some .gray))).map
      (update · nid (some .black))

def dfsAll (adj : α → List α) (nodes order : List α) : Bool :=
  (order.foldlM (dfs adj ((nodes.map (work adj)).sum + 1))
    fun a => if a ∈ nodes then some .white else none).isNone

lemma left_paint_lt {start : α} (hmem : start ∈ nodes) (hwhite : color start = some .white) :
    left adj nodes (update color start (some .gray)) [] < left adj nodes color [] := by
  refine lt_of_lt_of_le ?_ (left_paint hmem hwhite)
  simp [left]

lemma dfs_leads {fuel : ℕ} (h : Inv adj nodes (update color node (some .gray)) ((node, 0) :: stack))
    (hfuel : left adj nodes (update color node (some .gray)) [] < fuel) :
    Leads adj nodes color [node] (dfs adj fuel color node) stack := by
  induction fuel generalizing color node stack with
  | zero => exact absurd hfuel (Nat.not_lt_zero _)
  | succ fuel ih =>
    -- the loop, from any neighbor on
    have hloop : ∀ rest idx color, (adj node).drop idx = rest →
        Inv adj nodes color ((node, idx) :: stack) → left adj nodes color [] < fuel + 1 →
        Leads adj nodes color rest ((rest.foldlM (look (dfs adj fuel)) color).map
          (update · node (some .black))) stack := by
      intro rest
      induction rest with
      | nil =>
        intro idx color hdrop h _
        have hleave := h.leave (getElem?_eq_none_iff.mpr (drop_eq_nil_iff.mp hdrop))
        exact ((Leads.refl hleave (forall_mem_nil _)).of_update (by decide)).subset (nil_subset _)
      | cons dep rest hrest =>
        intro idx color hdrop h hfuel
        have hidx : (adj node)[idx]? = some dep := by
          rw [← head?_drop, hdrop]
          rfl
        have hdep : Leads adj nodes color [dep] (look (dfs adj fuel) color dep)
            ((node, idx + 1) :: stack) := by
          unfold look
          split
          · next hgray => exact ⟨fun _ => h.cyclic hidx hgray, nofun, nofun⟩
          · next hwhite =>
            exact ih (h.push hidx hwhite)
              ((left_paint_lt (h.mem_of_color hwhite) hwhite).trans_le (Nat.le_of_lt_succ hfuel))
          · next hgray hwhite =>
            exact .refl (h.pass hidx (black_or_none hgray hwhite)) fun a ha =>
              mem_singleton.mp ha ▸ hwhite
        rw [foldlM_cons, Option.bind_eq_bind, Option.map_bind]
        refine hdep.bind fun color₁ h₁ => hrest (idx + 1) color₁ ?_ (hdep.inv color₁ h₁)
          ((hdep.left_le h₁).trans_lt hfuel)
        rw [← tail_drop, hdrop]
        rfl
    exact ((hloop _ 0 _ rfl h hfuel).of_update (by decide)).subset (by simp)

/-- Nothing comes of a search from a black node. -/
lemma dfs_black {fuel : ℕ} (h : Inv adj nodes color []) (hnode : color node = some .black) :
    dfs adj (fuel + 1) color node = some color := by
  have hloop : ∀ l : List α, (∀ dep ∈ l, dep ∈ adj node) →
      l.foldlM (look (dfs adj fuel)) (update color node (some .gray)) =
        some (update color node (some .gray)) := by
    intro l hl
    induction l with
    | nil => rfl
    | cons dep l ih =>
      have hdep := hl dep mem_cons_self
      have hne : dep ≠ node := by
        rintro rfl
        have hmem := h.mem_of_color hnode
        exact h.acyclic dep hnode (.single ⟨hmem, hmem, hdep⟩)
      rw [foldlM_cons, look, update_of_ne hne]
      by_cases hmem : dep ∈ nodes
      · rw [h.closed node dep hnode ⟨h.mem_of_color hnode, hmem, hdep⟩]
        exact ih fun d hd => hl d (mem_cons_of_mem _ hd)
      · rw [(h.known dep).mpr hmem]
        exact ih fun d hd => hl d (mem_cons_of_mem _ hd)
  rw [dfs, hloop _ fun _ => id, Option.map_some, update_idem, ← hnode,
    update_eq_self]

lemma dfsAll_eq_true_iff {order : List α} (horder : ∀ a, a ∈ order ↔ a ∈ nodes) :
    dfsAll adj nodes order = true ↔ Cyclic adj nodes := by
  refine isNone_foldlM_iff (fun color h hleft start hstart => ?_) (Nat.lt_succ_self _)
    fun a => (horder a).mpr
  by_cases hwhite : color start = some .white
  · exact dfs_leads (h.paint hwhite rfl fun _ _ _ => trivial)
      ((left_paint_lt (h.mem_of_color hwhite) hwhite).trans hleft)
  · rw [dfs_black h (h.black_of_not_white ((horder start).mp hstart) hwhite)]
    exact .refl h fun a ha => mem_singleton.mp ha ▸ hwhite

/-- Among finitely many nodes of an acyclic graph there is one that no other leads to. -/
lemma exists_source {α : Type} {R : α → α → Prop} (hacyclic : ∀ a, ¬Relation.TransGen R a a)
    {l : List α} (hl : l ≠ []) : ∃ a ∈ l, ∀ b ∈ l, ¬R b a := by
  have hstrict : IsStrictOrder α (Relation.TransGen R) :=
    { irrefl := hacyclic, trans := fun _ _ _ => .trans }
  have hwf := (finite_toSet l).wellFoundedOn (r := Relation.TransGen R)
  obtain ⟨a, ha, hmin⟩ := hwf.has_min Set.univ ⟨⟨l.head hl, head_mem hl⟩, trivial⟩
  exact ⟨a, a.2, fun b hb hba => hmin ⟨b, hb⟩ trivial (.single hba)⟩

end Harness.Lib.CycleSearch
