import Harness.Lib.Table

/-! A ledger of one budgeted quantity. A limit is split into what is free, what
is spent and what is reserved by open accounts; an account may in turn grant
part of its own authority to the accounts below it. Counters stop at `cap`.

`Checked` is what can be read off the books at rest. `Balanced` also covers the
moments in between: `pending` accounts are closed and have not returned their
reservation yet, and `slack` is how much more was taken from the reserved pool
than the paying account held. -/

namespace Harness.Lib

open List Function Table

structure Account (κ : Type) where
  id : κ
  parent : Option κ
  (root closed : Bool)
  (limit left used held kidLimit kidLeft : ℕ)

@[ext] structure Ledger (κ : Type) [LinearOrder κ] where
  cap : ℕ
  limit : ℕ
  free : ℕ
  spent : ℕ
  reserved : ℕ
  accounts : Table (Account.id : Account κ → κ)

namespace Ledger

variable {κ : Type} [LinearOrder κ]

def total (ℓ : Ledger κ) (f : Account κ → ℕ) : ℕ := (ℓ.accounts.rows.map f).sum

/-- The same sum over the accounts directly below `k`. -/
def kids (ℓ : Ledger κ) (k : κ) (f : Account κ → ℕ) : ℕ :=
  ℓ.total fun a => if a.parent = some k then f a else 0

def charge (ℓ : Ledger κ) (k : κ) (u : ℕ) : Ledger κ :=
  { ℓ with
    spent := min (ℓ.spent + u) ℓ.cap
    reserved := ℓ.reserved - u
    accounts := ℓ.accounts.modify k fun a =>
      { a with left := a.left - u, used := min (a.used + u) ℓ.cap, held := a.held - u } }

/-- Charge an account that holds no reservation: the free pool pays. -/
def chargeFree (ℓ : Ledger κ) (k : κ) (u : ℕ) : Ledger κ :=
  { ℓ with
    spent := min (ℓ.spent + u) ℓ.cap
    free := ℓ.free - u
    accounts := ℓ.accounts.modify k fun a =>
      { a with left := a.left - u, used := min (a.used + u) ℓ.cap } }

def setClosed (ℓ : Ledger κ) (k : κ) (closed : Bool) : Ledger κ :=
  { ℓ with accounts := ℓ.accounts.modify k fun a => { a with closed := closed } }

omit [LinearOrder κ] in
lemma id_emptied (a : Account κ) : { a with held := 0 }.id = a.id := rfl

lemma id_repaid (ℓ : Ledger κ) (a b : Account κ) :
    { b with kidLeft := min (b.kidLeft + a.held) ℓ.cap }.id = b.id := rfl

/-- Return what the account holds to the free pool and to its parent. -/
def release (ℓ : Ledger κ) (k : κ) : Ledger κ :=
  match ℓ.accounts.find? k with
  | none => ℓ
  | some a =>
    let accounts := ℓ.accounts.modify k (fun b => { b with held := 0 }) id_emptied
    { ℓ with
      reserved := ℓ.reserved - a.held
      free := min (ℓ.free + a.held) ℓ.cap
      accounts := match a.parent with
        | none => accounts
        | some p => accounts.modify p
          (fun b => { b with kidLeft := min (b.kidLeft + a.held) ℓ.cap }) (id_repaid ℓ a) }

/-- A new account below `p` that holds all of its limit `e`. -/
def opened (p k : κ) (e : ℕ) : Account κ where
  id := k
  parent := some p
  root := false
  closed := false
  limit := e
  left := e
  used := 0
  held := e
  kidLimit := e
  kidLeft := e

def grant (ℓ : Ledger κ) (p k : κ) (e : ℕ) : Ledger κ :=
  { ℓ with
    free := ℓ.free - e
    reserved := min (ℓ.reserved + e) ℓ.cap
    accounts := (ℓ.accounts.modify p fun a => { a with kidLeft := a.kidLeft - e }).insert
      (opened p k e) }

/-- Close a list of accounts, then release them. -/
def closeAll (ℓ : Ledger κ) (ks : List κ) : Ledger κ :=
  ks.foldl release (ks.foldl (fun ℓ k => ℓ.setClosed k true) ℓ)

/-- The account's own books. `excess` says that an overrun is on record, which
excuses amounts that are too large, never amounts that are too small. -/
structure AccountChecked (excess : Bool) (ℓ : Ledger κ) (a : Account κ) : Prop where
  left_le : a.left ≤ a.limit
  kidLeft_le : a.kidLeft ≤ a.kidLimit
  own_ge : a.limit ≤ a.left + a.used
  own_eq : excess = false → min (a.left + a.used) ℓ.cap = a.limit
  kids_ge : a.kidLimit ≤ a.kidLeft + ℓ.kids a.id fun b => b.used + b.held
  kids_eq : excess = false →
    min (a.kidLeft + ℓ.kids a.id fun b => b.used + b.held) ℓ.cap = a.kidLimit
  held_eq : a.held = if a.root ∨ a.closed then 0 else a.left

structure Checked (excess : Bool) (ℓ : Ledger κ) : Prop where
  free_le : ℓ.free ≤ ℓ.limit
  conserved : excess = false → min (ℓ.free + ℓ.spent + ℓ.reserved) ℓ.cap = ℓ.limit
  spent_eq : ℓ.spent = min (ℓ.total Account.used) ℓ.cap
  reserved_eq : ℓ.reserved = min (ℓ.total Account.held) ℓ.cap
  account : ∀ a ∈ ℓ.accounts.rows, AccountChecked excess ℓ a

/-- Every reservation can be returned without exceeding a limit. -/
structure Room (ℓ : Ledger κ) : Prop where
  free : ℓ.free + ℓ.total Account.held ≤ ℓ.limit
  kids : ∀ a ∈ ℓ.accounts.rows, a.kidLeft + ℓ.kids a.id Account.held ≤ a.kidLimit

/-- The counters fit their words. -/
structure Bounded (ℓ : Ledger κ) : Prop where
  limit_le : ℓ.limit ≤ ℓ.cap
  account : ∀ a ∈ ℓ.accounts.rows, a.limit ≤ ℓ.cap ∧ a.kidLimit ≤ ℓ.cap ∧ a.used ≤ ℓ.cap

/-- An account of a ledger that may be in the middle of an operation. -/
structure AccountBalanced (excess : Bool) (pending : List κ) (ℓ : Ledger κ) (a : Account κ) :
    Prop where
  limit_le : a.limit ≤ ℓ.cap
  kidLimit_le : a.kidLimit ≤ ℓ.cap
  used_le : a.used ≤ ℓ.cap
  left_le : a.left ≤ a.limit
  own_ge : a.limit ≤ a.left + a.used
  own_eq : excess = false → min (a.left + a.used) ℓ.cap = a.limit
  kidRoom : a.kidLeft + ℓ.kids a.id Account.held ≤ a.kidLimit
  kids_ge : a.kidLimit ≤ a.kidLeft + ℓ.kids a.id fun b => b.used + b.held
  kids_eq : excess = false →
    min (a.kidLeft + ℓ.kids a.id fun b => b.used + b.held) ℓ.cap = a.kidLimit
  held_root : a.root → a.held = 0
  held_eq : a.id ∉ pending → a.held = if a.root ∨ a.closed then 0 else a.left

structure Balanced (excess : Bool) (pending : List κ) (slack : ℕ) (ℓ : Ledger κ) : Prop where
  limit_le : ℓ.limit ≤ ℓ.cap
  room : ℓ.free + ℓ.total Account.held ≤ ℓ.limit
  conserved : excess = false → min (ℓ.free + ℓ.spent + ℓ.reserved) ℓ.cap = ℓ.limit
  slack_eq : excess = false → slack = 0 ∨ ℓ.limit = ℓ.cap
  spent_eq : ℓ.spent = min (ℓ.total Account.used) ℓ.cap
  reserved_eq : ℓ.reserved = ℓ.total Account.held - slack
  account : ∀ a ∈ ℓ.accounts.rows, AccountBalanced excess pending ℓ a

variable {a : Account κ} {excess : Bool} {ℓ : Ledger κ} {pending : List κ} {slack : ℕ}

lemma Balanced.of_checked (hc : Checked excess ℓ) (hr : Room ℓ) (hb : Bounded ℓ) :
    Balanced excess [] 0 ℓ where
  limit_le := hb.limit_le
  room := hr.free
  conserved := hc.conserved
  slack_eq := fun _ => .inl rfl
  spent_eq := hc.spent_eq
  reserved_eq := by
    have := hc.reserved_eq
    have := hr.free
    have := hb.limit_le
    omega
  account := fun a ha =>
    let c := hc.account a ha
    { limit_le := (hb.account a ha).1
      kidLimit_le := (hb.account a ha).2.1
      used_le := (hb.account a ha).2.2
      left_le := c.left_le
      own_ge := c.own_ge
      own_eq := c.own_eq
      kidRoom := hr.kids a ha
      kids_ge := c.kids_ge
      kids_eq := c.kids_eq
      held_root := fun h => by rw [c.held_eq, if_pos (.inl h)]
      held_eq := fun _ => c.held_eq }

lemma Balanced.checked (h : Balanced excess [] 0 ℓ) : Checked excess ℓ where
  free_le := by have := h.room; omega
  conserved := h.conserved
  spent_eq := h.spent_eq
  reserved_eq := by
    have := h.reserved_eq
    have := h.room
    have := h.limit_le
    omega
  account := fun a ha =>
    let b := h.account a ha
    { left_le := b.left_le
      kidLeft_le := by have := b.kidRoom; omega
      own_ge := b.own_ge
      own_eq := b.own_eq
      kids_ge := b.kids_ge
      kids_eq := b.kids_eq
      held_eq := b.held_eq (by simp) }

/-- Once nothing is held any more, the slack is gone. -/
lemma Balanced.settle (h : Balanced excess pending slack ℓ) (h0 : ℓ.total Account.held = 0) :
    Balanced excess pending 0 ℓ :=
  { h with
    slack_eq := fun _ => .inl rfl
    reserved_eq := by have := h.reserved_eq; omega }

lemma le_total (ℓ : Ledger κ) (f : Account κ → ℕ) (ha : a ∈ ℓ.accounts.rows) : f a ≤ ℓ.total f :=
  ℓ.accounts.le_sum ha

lemma le_kids (ℓ : Ledger κ) (f : Account κ → ℕ) {k : κ} (ha : a ∈ ℓ.accounts.rows)
    (hp : a.parent = some k) : f a ≤ ℓ.kids k f := by
  have := ℓ.le_total (fun b => if b.parent = some k then f b else 0) ha
  simpa [kids, hp] using this

section Modify

variable {ℓ ℓ' : Ledger κ} {k : κ} {g : Account κ → Account κ} {hg : ∀ a, (g a).id = a.id}
  {a : Account κ} (hℓ : ℓ'.accounts = ℓ.accounts.modify k g hg)
include hℓ

lemma total_modify (ha : ℓ.accounts.find? k = some a)
    (f : Account κ → ℕ) : ℓ'.total f + f a = ℓ.total f + f (g a) := by
  rw [total, hℓ]
  exact ℓ.accounts.sum_modify g hg f ha

lemma kids_modify (ha : ℓ.accounts.find? k = some a) (hp : (g a).parent = a.parent) (q : κ)
    (f : Account κ → ℕ) :
    ℓ'.kids q f + (if a.parent = some q then f a else 0) =
      ℓ.kids q f + (if a.parent = some q then f (g a) else 0) := by
  have := total_modify hℓ ha (fun b => if b.parent = some q then f b else 0)
  simpa [kids, hp] using this

variable {f : Account κ → ℕ}

/-- A rewriting that keeps `f` and the parents keeps the sums of `f`. -/
lemma total_frame (hf : ∀ a, f (g a) = f a) :
    ℓ'.total f = ℓ.total f := by
  rw [total, hℓ, ℓ.accounts.map_modify k g hg (fun a _ => hf a)]
  rfl

lemma kids_frame {q : κ} (hf : ∀ a, f (g a) = f a)
    (hp : ∀ a, (g a).parent = a.parent) : ℓ'.kids q f = ℓ.kids q f :=
  total_frame hℓ fun a => by rw [hf, hp]

/-- The accounts after one was rewritten: that one, and the others as they were. -/
lemma forall_modify {p : Account κ → Prop}
    (ha : ℓ.accounts.find? k = some a) :
    (∀ b ∈ ℓ'.accounts.rows, p b) ↔ p (g a) ∧ ∀ b ∈ ℓ.accounts.rows, b.id ≠ k → p b := by
  obtain ⟨hm, rfl⟩ := ℓ.accounts.find?_eq_some.mp ha
  simp only [hℓ, mem_modify]
  constructor
  · intro h
    refine ⟨h _ ⟨a, hm, by rw [if_pos rfl]⟩, fun b hb hne => h b ⟨b, hb, by rw [if_neg hne]⟩⟩
  · rintro ⟨h1, h2⟩ b ⟨c, hc, rfl⟩
    split_ifs with hk
    · rwa [ℓ.accounts.eq_of_key_eq hc hm hk]
    · exact h2 c hc hk

end Modify

section Balance

variable {excess : Bool} {pending : List κ} {slack : ℕ} {ℓ : Ledger κ} {k : κ} {a : Account κ}

/-- What an account may be charged while no overrun is on record: what it holds, anything
once its own limit is the cap, and what it has left once the limits above it are the cap. -/
def Payable (ℓ : Ledger κ) (a : Account κ) (u : ℕ) : Prop :=
  u ≤ a.held ∧ u ≤ a.left ∨ a.held = a.left ∧ a.limit = ℓ.cap ∨
    u ≤ a.left ∧ ℓ.limit = ℓ.cap ∧
      ∀ b ∈ ℓ.accounts.rows, a.parent = some b.id → b.kidLimit = ℓ.cap

/-- An account whose limit is the cap is covered by limits that are the cap. -/
lemma Balanced.limit_eq_cap (h : Balanced false pending slack ℓ) (ha : a ∈ ℓ.accounts.rows)
    (hl : a.held = a.left) (hc : a.limit = ℓ.cap) : ℓ.limit = ℓ.cap := by
  have hown := (h.account a ha).own_eq rfl
  have hu := ℓ.le_total Account.used ha
  have hh := ℓ.le_total Account.held ha
  have hcons := h.conserved rfl
  have hs := h.spent_eq
  have hr := h.reserved_eq
  rcases h.slack_eq rfl with h0 | h0
  · omega
  · exact h0

variable {excess' : Bool} {pending' ks : List κ} {j p : κ} {e : ℕ}

/-- Charging moves `u` from the reserved pool to the spent one; what the account
did not hold becomes slack. -/
lemma Balanced.charge (h : Balanced excess pending slack ℓ) (ha : ℓ.accounts.find? k = some a)
    (hr : a.root = false) (u : ℕ) (hover : excess' = false → excess = false ∧ ℓ.Payable a u) :
    Balanced excess' pending (slack + (u - a.held)) (ℓ.charge k u) := by
  have hm := mem_of_find? ha
  have hacc := h.account a hm
  have hℓ : (ℓ.charge k u).accounts = ℓ.accounts.modify k fun a =>
    { a with left := a.left - u, used := min (a.used + u) ℓ.cap, held := a.held - u } := rfl
  have hu := total_modify hℓ ha Account.used
  have hh := total_modify hℓ ha Account.held
  have hlu := ℓ.le_total Account.used hm
  have hlh := ℓ.le_total Account.held hm
  -- the accounts above the paying one see its usage grow by what its reservation shrinks
  have hkid : ∀ b ∈ ℓ.accounts.rows,
      b.kidLeft + (ℓ.charge k u).kids b.id Account.held ≤ b.kidLimit ∧
      b.kidLimit ≤ b.kidLeft + ((ℓ.charge k u).kids b.id fun c => c.used + c.held) ∧
      (excess' = false →
        min (b.kidLeft + (ℓ.charge k u).kids b.id fun c => c.used + c.held) ℓ.cap = b.kidLimit) := by
    intro b hb
    have hbb := h.account b hb
    have hkh := kids_modify hℓ ha rfl b.id Account.held
    have hks := kids_modify hℓ ha rfl b.id fun c => c.used + c.held
    by_cases hp : a.parent = some b.id
    · have hle := ℓ.le_kids (fun c => c.used + c.held) hm hp
      have hroom := hbb.kidRoom
      have hge := hbb.kids_ge
      have hcap := hbb.kidLimit_le
      simp only [hp, if_true] at hkh hks hle
      refine ⟨by omega, by omega, fun e => ?_⟩
      obtain ⟨rfl, hpay⟩ := hover e
      have heq := hbb.kids_eq rfl
      rcases hpay with ⟨h1, h2⟩ | ⟨h1, h2⟩ | ⟨-, -, h3⟩
      · omega
      · have hown := hacc.own_eq rfl
        omega
      · have := h3 b hb hp
        omega
    · simp only [hp, if_false, Nat.add_zero] at hkh hks
      rw [hkh, hks]
      exact ⟨hbb.kidRoom, hbb.kids_ge, fun e => hbb.kids_eq (hover e).1⟩
  refine
    { limit_le := h.limit_le
      room := ?_
      conserved := fun e => ?_
      slack_eq := fun e => ?_
      spent_eq := ?_
      reserved_eq := ?_
      account := ?_ }
  · have := h.room
    simp only [Ledger.charge] at hh ⊢
    omega
  · obtain ⟨rfl, hpay⟩ := hover e
    have hc := h.conserved rfl
    have hsl := h.slack_eq rfl
    have hre := h.reserved_eq
    have hcap := h.limit_le
    simp only [Ledger.charge]
    rcases hpay with ⟨h1, h2⟩ | ⟨h1, h2⟩ | ⟨-, h2, -⟩
    · omega
    · have := h.limit_eq_cap hm h1 h2
      omega
    · omega
  · obtain ⟨rfl, hpay⟩ := hover e
    rcases hpay with ⟨h1, h2⟩ | ⟨h1, h2⟩ | ⟨-, h2, -⟩
    · rcases h.slack_eq rfl with h0 | h0
      · left; omega
      · exact .inr h0
    · exact .inr (h.limit_eq_cap hm h1 h2)
    · exact .inr h2
  · have hse := h.spent_eq
    have hle := hacc.used_le
    simp only [Ledger.charge] at hu ⊢
    omega
  · have hre := h.reserved_eq
    simp only [Ledger.charge] at hh ⊢
    omega
  · rw [forall_modify hℓ ha]
    constructor
    · obtain ⟨hk1, hk2, hk3⟩ := hkid a hm
      refine ⟨hacc.limit_le, hacc.kidLimit_le, ?_, ?_, ?_, fun e => ?_, hk1, hk2, hk3, ?_, ?_⟩
      · exact min_le_right _ _
      · have := hacc.left_le
        simp only
        omega
      · have := hacc.own_ge
        have := hacc.limit_le
        simp only
        omega
      · obtain ⟨rfl, hpay⟩ := hover e
        have hown := hacc.own_eq rfl
        simp only [Ledger.charge]
        rcases hpay with ⟨h1, h2⟩ | ⟨h1, h2⟩ | ⟨h1, -⟩
        · omega
        · omega
        · omega
      · intro e
        simp [hr] at e
      · intro hp
        have hheld := hacc.held_eq hp
        simp only [hr] at hheld ⊢
        split_ifs at hheld ⊢ <;> omega
    · intro b hb hne
      obtain ⟨hk1, hk2, hk3⟩ := hkid b hb
      have hbb := h.account b hb
      exact { hbb with
        kidRoom := hk1
        kids_ge := hk2
        kids_eq := hk3
        own_eq := fun e => hbb.own_eq (hover e).1 }

/-- An account that holds nothing any more cannot pay: the charge is taken from what is reserved
for others, and the books show it unless nothing is and the sums are not looked at closely. -/
lemma Balanced.checked_charge_iff (h : Balanced excess [] 0 ℓ) {u : ℕ}
    (ha : ℓ.accounts.find? k = some a) (hr : a.root = false) (h0 : a.held = 0) (hle : u ≤ a.left) :
    Checked excess (ℓ.charge k u) ↔
      u = 0 ∨ ℓ.reserved = 0 ∧ (excess = true ∨ ℓ.limit = ℓ.cap ∧
        ∀ b ∈ ℓ.accounts.rows, a.parent = some b.id → b.kidLimit = ℓ.cap) := by
  have hm := mem_of_find? ha
  have hℓ : (ℓ.charge k u).accounts = ℓ.accounts.modify k fun a =>
    { a with left := a.left - u, used := min (a.used + u) ℓ.cap, held := a.held - u } := rfl
  have hheld := total_modify hℓ ha Account.held
  have hreserved := h.reserved_eq
  have hroom := h.room
  have hcap := h.limit_le
  dsimp only at hheld
  constructor
  · intro hc
    refine or_iff_not_imp_left.mpr fun hu => ?_
    have hreserved' : ℓ.reserved - u = min ((ℓ.charge k u).total Account.held) ℓ.cap :=
      hc.reserved_eq
    refine ⟨by omega, ?_⟩
    cases hx : excess with
    | true => exact .inl rfl
    | false =>
      refine .inr ⟨?_, fun b hb hp => ?_⟩
      · have hcons := h.conserved hx
        have hcons' : min (ℓ.free + min (ℓ.spent + u) ℓ.cap + (ℓ.reserved - u)) ℓ.cap = ℓ.limit :=
          hc.conserved hx
        omega
      · have hkids := (h.account b hb).kids_eq hx
        have hkids' : min (b.kidLeft + (ℓ.charge k u).kids b.id fun c => c.used + c.held) ℓ.cap =
            b.kidLimit := by
          obtain ⟨hself, hothers⟩ := (forall_modify hℓ ha).mp hc.account
          by_cases hbk : b.id = k
          · obtain ⟨-, hak⟩ := ℓ.accounts.find?_eq_some.mp ha
            obtain rfl := ℓ.accounts.eq_of_key_eq hb hm (hbk.trans hak.symm)
            exact hself.kids_eq hx
          · exact (hothers b hb hbk).kids_eq hx
        have hmoved := kids_modify hℓ ha rfl b.id fun c => c.used + c.held
        have hpart := ℓ.le_kids (fun c => c.used + c.held) hm hp
        have hused := (h.account a hm).used_le
        have hlimit := (h.account b hb).kidLimit_le
        simp only [hp, if_true] at hmoved hpart
        omega
  · rintro (rfl | ⟨hnone, hpay⟩)
    · have hb := h.charge ha hr 0 fun e => ⟨e, .inl ⟨Nat.zero_le _, Nat.zero_le _⟩⟩
      rw [Nat.zero_sub, Nat.zero_add] at hb
      exact hb.checked
    · have hb := h.charge ha hr u fun e => ⟨e, .inr (.inr ⟨hle, by simpa [e] using hpay⟩)⟩
      exact (hb.settle (by omega)).checked

/-- The free pool pays for a root: the books stay exact as long as the limit
covers what is then spent and reserved. -/
lemma Balanced.chargeFree (h : Balanced excess pending slack ℓ) (ha : ℓ.accounts.find? k = some a)
    (hr : a.root = true) (hp : a.parent = none) (u : ℕ)
    (hover : excess' = false →
      excess = false ∧ u ≤ a.left ∧ min (min (ℓ.spent + u) ℓ.cap + ℓ.reserved) ℓ.cap ≤ ℓ.limit) :
    Balanced excess' pending slack (ℓ.chargeFree k u) := by
  have hm := mem_of_find? ha
  have hacc := h.account a hm
  have hℓ : (ℓ.chargeFree k u).accounts = ℓ.accounts.modify k fun a =>
    { a with left := a.left - u, used := min (a.used + u) ℓ.cap } := rfl
  have hu := total_modify hℓ ha Account.used
  have hh : (ℓ.chargeFree k u).total Account.held = ℓ.total Account.held :=
    total_frame hℓ fun _ => rfl
  have hlu := ℓ.le_total Account.used hm
  have hkids : ∀ q f, (ℓ.chargeFree k u).kids q f = ℓ.kids q f := by
    intro q f
    have := kids_modify hℓ ha rfl q f
    simpa [hp] using this
  refine
    { limit_le := h.limit_le
      room := ?_
      conserved := fun e => ?_
      slack_eq := fun e => h.slack_eq (hover e).1
      spent_eq := ?_
      reserved_eq := ?_
      account := ?_ }
  · have := h.room
    rw [hh]
    simp only [Ledger.chargeFree]
    omega
  · obtain ⟨rfl, h1, h2⟩ := hover e
    have hc := h.conserved rfl
    simp only [Ledger.chargeFree]
    omega
  · have hse := h.spent_eq
    simp only [Ledger.chargeFree] at hu ⊢
    omega
  · rw [hh]
    exact h.reserved_eq
  · rw [forall_modify hℓ ha]
    constructor
    · refine ⟨hacc.limit_le, hacc.kidLimit_le, min_le_right _ _, ?_, ?_, fun e => ?_, ?_, ?_,
        fun e => ?_, hacc.held_root, ?_⟩
      · have := hacc.left_le
        simp only
        omega
      · have := hacc.own_ge
        have := hacc.limit_le
        simp only
        omega
      · obtain ⟨rfl, h1, -⟩ := hover e
        have := hacc.own_eq rfl
        simp only [Ledger.chargeFree]
        omega
      · rw [hkids]
        exact hacc.kidRoom
      · rw [hkids]
        exact hacc.kids_ge
      · rw [hkids]
        exact hacc.kids_eq (hover e).1
      · intro _
        simp only [hr, true_or, if_true]
        exact hacc.held_root hr
    · intro b hb _
      have hbb := h.account b hb
      refine { hbb with kidRoom := ?_, kids_ge := ?_, kids_eq := fun e => ?_,
                        own_eq := fun e => hbb.own_eq (hover e).1 }
      · rw [hkids]
        exact hbb.kidRoom
      · rw [hkids]
        exact hbb.kids_ge
      · rw [hkids]
        exact hbb.kids_eq (hover e).1

lemma setClosed_of_none (h : ℓ.accounts.find? k = none) {closed : Bool} :
    ℓ.setClosed k closed = ℓ := by
  refine Ledger.ext rfl rfl rfl rfl rfl ?_
  exact ℓ.accounts.modify_of_none k (fun a => { a with closed := closed }) (fun _ => rfl) h

lemma Balanced.setClosed (h : Balanced excess pending slack ℓ) (ha : ℓ.accounts.find? k = some a)
    (closed : Bool) (hsub : ∀ b, b ≠ k → b ∉ pending' → b ∉ pending)
    (hk : k ∉ pending' → a.held = if a.root ∨ closed then 0 else a.left) :
    Balanced excess pending' slack (ℓ.setClosed k closed) := by
  have hm := mem_of_find? ha
  have hℓ : (ℓ.setClosed k closed).accounts =
    ℓ.accounts.modify k fun a => { a with closed := closed } := rfl
  have htotal : ∀ f : Account κ → ℕ, (∀ b c, f { b with closed := c } = f b) →
      (ℓ.setClosed k closed).total f = ℓ.total f := fun f hf => total_frame hℓ fun b => hf b _
  have hkids : ∀ q (f : Account κ → ℕ), (∀ b c, f { b with closed := c } = f b) →
      (ℓ.setClosed k closed).kids q f = ℓ.kids q f := fun q f hf =>
    kids_frame hℓ (fun b => hf b _) fun _ => rfl
  have hkh := fun q => hkids q Account.held fun _ _ => rfl
  have hks := fun q => hkids q (fun c => c.used + c.held) fun _ _ => rfl
  refine
    { limit_le := h.limit_le
      room := by rw [htotal _ fun _ _ => rfl]; exact h.room
      conserved := h.conserved
      slack_eq := h.slack_eq
      spent_eq := by rw [htotal _ fun _ _ => rfl]; exact h.spent_eq
      reserved_eq := by rw [htotal _ fun _ _ => rfl]; exact h.reserved_eq
      account := ?_ }
  rw [forall_modify hℓ ha]
  constructor
  · have hacc := h.account a hm
    obtain rfl := key_of_find? ha
    exact ⟨hacc.limit_le, hacc.kidLimit_le, hacc.used_le, hacc.left_le, hacc.own_ge, hacc.own_eq,
      by rw [hkh]; exact hacc.kidRoom, by rw [hks]; exact hacc.kids_ge,
      by rw [hks]; exact hacc.kids_eq, hacc.held_root, hk⟩
  · intro b hb hne
    have hbb := h.account b hb
    exact { hbb with
      kidRoom := by rw [hkh]; exact hbb.kidRoom
      kids_ge := by rw [hks]; exact hbb.kids_ge
      kids_eq := by rw [hks]; exact hbb.kids_eq
      held_eq := fun hp => hbb.held_eq (hsub _ hne hp) }

/-- A closed account may wait for its release. -/
lemma Balanced.close (h : Balanced excess pending slack ℓ) (ha : ℓ.accounts.find? k = some a) :
    Balanced excess (k :: pending) slack (ℓ.setClosed k true) :=
  h.setClosed ha true (fun _ _ hb hmem => hb (mem_cons_of_mem _ hmem))
    fun hk => absurd mem_cons_self hk

/-- An account that still holds all it has left may open again. -/
lemma Balanced.reopen (h : Balanced excess (k :: pending) slack ℓ)
    (ha : ℓ.accounts.find? k = some a) (hr : a.root = false) (hl : a.held = a.left) :
    Balanced excess pending slack (ℓ.setClosed k false) :=
  h.setClosed ha false
    (fun b hne hb hmem => hb ((mem_cons.mp hmem).resolve_left hne))
    (fun _ => by simpa [hr] using hl)

/-- An account after `a` was released: `a` holds nothing, its parent has the amount back. -/
def released (ℓ : Ledger κ) (a b : Account κ) : Account κ :=
  { b with
    held := if b.id = a.id then 0 else b.held
    kidLeft := if a.parent = some b.id then min (b.kidLeft + a.held) ℓ.cap else b.kidLeft }

lemma rows_release (ha : ℓ.accounts.find? k = some a) :
    (ℓ.release k).accounts.rows = ℓ.accounts.rows.map (ℓ.released a) := by
  obtain rfl := key_of_find? ha
  simp only [release, ha]
  cases hp : a.parent with
  | none =>
    refine map_congr_left fun b _ => ?_
    by_cases hb : b.id = a.id <;> simp [released, hp, hb]
  | some p =>
    rw [rows_modify, rows_modify, map_map]
    refine map_congr_left fun b _ => ?_
    by_cases hb : b.id = a.id
    · by_cases hbp : p = b.id
      · simp [comp_apply, released, hp, if_pos hb, hbp]
      · simp only [comp_apply, released, hp, if_pos hb, Option.some.injEq, if_neg hbp,
          if_neg (Ne.symm hbp)]
    · by_cases hbp : p = b.id
      · simp [comp_apply, released, hp, if_neg hb, hbp]
      · simp only [comp_apply, released, hp, if_neg hb, Option.some.injEq, if_neg hbp,
          if_neg (Ne.symm hbp)]

lemma total_release (ha : ℓ.accounts.find? k = some a) (f : Account κ → ℕ)
    (hf : ∀ b c, f { b with kidLeft := c } = f b) :
    (ℓ.release k).total f + f a = ℓ.total f + f { a with held := 0 } := by
  have h := ℓ.accounts.sum_modify (fun b => { b with held := 0 }) (fun _ => rfl) f ha
  obtain rfl := key_of_find? ha
  rw [total, rows_release ha, map_map]
  rw [rows_modify, map_map] at h
  have he : f ∘ ℓ.released a = f ∘ fun b => if b.id = a.id then { b with held := 0 } else b := by
    funext b
    by_cases hb : b.id = a.id
    · simp only [comp_apply, released, if_pos hb]
      exact hf { b with held := 0 } _
    · simp only [comp_apply, released, if_neg hb]
      exact hf b _
  rw [he, h]
  rfl

lemma kids_release (ha : ℓ.accounts.find? k = some a) (q : κ) (f : Account κ → ℕ)
    (hf : ∀ b c, f { b with kidLeft := c } = f b) :
    (ℓ.release k).kids q f + (if a.parent = some q then f a else 0) =
      ℓ.kids q f + (if a.parent = some q then f { a with held := 0 } else 0) :=
  total_release ha (fun b => if b.parent = some q then f b else 0) fun b c => by simp [hf]

lemma release_eq (ha : ℓ.accounts.find? k = some a) :
    (ℓ.release k).cap = ℓ.cap ∧ (ℓ.release k).limit = ℓ.limit ∧ (ℓ.release k).spent = ℓ.spent ∧
      (ℓ.release k).free = min (ℓ.free + a.held) ℓ.cap ∧
      (ℓ.release k).reserved = ℓ.reserved - a.held := by
  simp [release, ha]

/-- Releasing a closed account moves what it holds back to the free pool and to its parent. -/
lemma Balanced.release (h : Balanced excess (k :: pending) slack ℓ)
    (ha : ℓ.accounts.find? k = some a) (hc : a.closed = true) :
    Balanced excess pending slack (ℓ.release k) := by
  have hm := mem_of_find? ha
  obtain ⟨e1, e2, e3, e4, e5⟩ := release_eq ha
  have hh := total_release ha Account.held fun _ _ => rfl
  have hu := total_release ha Account.used fun _ _ => rfl
  have hroom := h.room
  simp only [Nat.add_right_cancel_iff] at hu
  simp only [Nat.add_zero] at hh
  refine
    { limit_le := by rw [e1, e2]; exact h.limit_le
      room := by rw [e2, e4]; omega
      conserved := fun e => ?_
      slack_eq := by rw [e1, e2]; exact h.slack_eq
      spent_eq := by rw [e1, e3, hu]; exact h.spent_eq
      reserved_eq := by have := h.reserved_eq; rw [e5]; omega
      account := ?_ }
  · have := h.conserved e
    have := h.slack_eq e
    have := h.reserved_eq
    omega
  · rw [rows_release ha]
    intro b' hb'
    obtain ⟨b, hb, rfl⟩ := mem_map.mp hb'
    have hbb := h.account b hb
    have hkh := kids_release ha b.id Account.held fun _ _ => rfl
    have hks := kids_release ha b.id (fun c => c.used + c.held) fun _ _ => rfl
    simp only at hkh hks
    have hroomb := hbb.kidRoom
    have hgeb := hbb.kids_ge
    have heqb := hbb.kids_eq
    have hcapb := hbb.kidLimit_le
    have hlek := fun hp => ℓ.le_kids Account.held hm (k := b.id) hp
    refine ⟨?_, ?_, ?_, hbb.left_le, hbb.own_ge, ?_, ?_, ?_, fun e => ?_, fun e => ?_, fun hp => ?_⟩
    · rw [e1]; exact hbb.limit_le
    · rw [e1]; exact hbb.kidLimit_le
    · rw [e1]; exact hbb.used_le
    · rw [e1]; exact hbb.own_eq
    · simp only [released]
      split_ifs at hkh ⊢ with hp
      · omega
      · omega
    · simp only [released]
      split_ifs at hks ⊢ with hp
      · omega
      · omega
    · have := heqb e
      simp only [released]
      split_ifs at hks ⊢ with hp
      · omega
      · omega
    · have hroot : b.root = true := e
      simp [released, hbb.held_root hroot]
    · simp only [released] at hp ⊢
      by_cases hbk : b.id = a.id
      · obtain rfl := ℓ.accounts.eq_of_key_eq hb hm hbk
        simp [hc]
      · have hkey := key_of_find? ha
        rw [if_neg hbk]
        exact hbb.held_eq (by
          rw [mem_cons, not_or]
          exact ⟨fun e => hbk (e.trans hkey.symm), hp⟩)

lemma Balanced.congr_pending (h : Balanced excess pending slack ℓ)
    (hp : ∀ b, b ∈ pending → b ∈ pending') : Balanced excess pending' slack ℓ :=
  { h with
    account := fun a ha =>
      let c := h.account a ha
      { c with held_eq := fun hn => c.held_eq fun hm => hn (hp _ hm) } }

def IsClosed (ℓ : Ledger κ) (k : κ) : Prop := ∃ a, ℓ.accounts.find? k = some a ∧ a.closed = true

lemma find?_setClosed {c : Bool} :
    (ℓ.setClosed k c).accounts.find? j =
      if j = k then (ℓ.accounts.find? j).map fun a => { a with closed := c }
      else ℓ.accounts.find? j :=
  ℓ.accounts.find?_modify k (fun a => { a with closed := c }) (fun _ => rfl)

lemma find?_release (ha : ℓ.accounts.find? k = some a) :
    (ℓ.release k).accounts.find? j = (ℓ.accounts.find? j).map (ℓ.released a) := by
  have : (ℓ.release k).accounts = ℓ.accounts.map (ℓ.released a) := ext (rows_release ha)
  rw [this]
  exact ℓ.accounts.find?_map (ℓ.released a) (fun _ => rfl)

lemma IsClosed.release (h : ℓ.IsClosed j) : (ℓ.release k).IsClosed j := by
  cases ha : ℓ.accounts.find? k with
  | none => simpa [Ledger.release, ha] using h
  | some a =>
    obtain ⟨b, hb, hc⟩ := h
    exact ⟨ℓ.released a b, by rw [find?_release ha, hb]; rfl, hc⟩

lemma IsClosed.setClosed (h : ℓ.IsClosed j) : (ℓ.setClosed k true).IsClosed j := by
  obtain ⟨b, hb, hc⟩ := h
  by_cases hj : j = k
  · exact ⟨{ b with closed := true }, by rw [find?_setClosed, if_pos hj, hb]; rfl, rfl⟩
  · exact ⟨b, by rw [find?_setClosed, if_neg hj, hb], hc⟩

/-- Closing accounts makes them pending. -/
lemma Balanced.foldl_close (h : Balanced excess pending slack ℓ)
    (hks : ∀ k ∈ ks, ∃ a, ℓ.accounts.find? k = some a) :
    Balanced excess (ks ++ pending) slack (ks.foldl (fun ℓ k => ℓ.setClosed k true) ℓ) ∧
      ∀ j, (j ∈ ks ∨ ℓ.IsClosed j) → (ks.foldl (fun ℓ k => ℓ.setClosed k true) ℓ).IsClosed j := by
  induction ks generalizing ℓ pending with
  | nil => exact ⟨h, fun j hj => hj.resolve_left (by simp)⟩
  | cons k ks ih =>
    obtain ⟨a, ha⟩ := hks k mem_cons_self
    have hfind : ∀ j, (∃ b, ℓ.accounts.find? j = some b) →
        ∃ b, (ℓ.setClosed k true).accounts.find? j = some b := by
      rintro j ⟨b, hb⟩
      rw [find?_setClosed, hb]
      split_ifs
      · exact ⟨_, rfl⟩
      · exact ⟨_, rfl⟩
    have hk : (ℓ.setClosed k true).IsClosed k :=
      ⟨{ a with closed := true }, by rw [find?_setClosed, if_pos rfl, ha]; rfl, rfl⟩
    obtain ⟨h1, h2⟩ := ih (h.close ha) fun j hj => hfind j (hks j (mem_cons_of_mem _ hj))
    refine ⟨h1.congr_pending fun b hb => ?_, fun j hj => h2 j ?_⟩
    · simp only [mem_append, mem_cons, cons_append] at hb ⊢
      tauto
    · rcases hj with hj | hj
      · rcases mem_cons.mp hj with rfl | hj
        · exact .inr hk
        · exact .inl hj
      · exact .inr hj.setClosed

/-- Releasing the pending accounts leaves none pending. -/
lemma Balanced.foldl_release (h : Balanced excess (ks ++ pending) slack ℓ)
    (hks : ∀ k ∈ ks, ℓ.IsClosed k) : Balanced excess pending slack (ks.foldl Ledger.release ℓ) := by
  induction ks generalizing ℓ with
  | nil => exact h
  | cons k ks ih =>
    obtain ⟨a, ha, hc⟩ := hks k mem_cons_self
    exact ih (h.release ha hc) fun j hj => (hks j (mem_cons_of_mem _ hj)).release

lemma Balanced.closeAll (ks : List κ) (h : Balanced excess pending slack ℓ)
    (hks : ∀ k ∈ ks, ∃ a, ℓ.accounts.find? k = some a) :
    Balanced excess pending slack (ℓ.closeAll ks) := by
  obtain ⟨h1, h2⟩ := h.foldl_close hks
  exact h1.foldl_release fun k hk => h2 k (.inl hk)

lemma total_grant (hnew : ℓ.accounts.find? k = none) (f : Account κ → ℕ)
    (hf : ∀ b c, f { b with kidLeft := c } = f b) :
    (ℓ.grant p k e).total f = f (opened p k e) + ℓ.total f := by
  have hnone : (ℓ.accounts.modify p fun a => { a with kidLeft := a.kidLeft - e }).find?
      (opened p k e).id = none := by
    rw [find?_modify]
    simp [opened, hnew]
  rw [total, grant, sum_insert_of_new _ _ hnone,
    map_modify _ _ _ _ fun b _ => hf b _]
  rfl

/-- Granting takes the amount from the free pool and from the parent's authority. -/
lemma Balanced.grant (h : Balanced excess [] 0 ℓ) (ha : ℓ.accounts.find? p = some a)
    (hnew : ℓ.accounts.find? k = none) (horphan : ∀ b ∈ ℓ.accounts.rows, b.parent ≠ some k)
    (hfree : e ≤ ℓ.free) (hkid : e ≤ a.kidLeft) : Balanced excess [] 0 (ℓ.grant p k e) := by
  have hm := mem_of_find? ha
  obtain rfl := key_of_find? ha
  have hne : a.id ≠ k := fun e => ℓ.accounts.find?_eq_none.mp hnew a hm e
  have hh := total_grant (p := a.id) (e := e) hnew Account.held fun _ _ => rfl
  have hu := total_grant (p := a.id) (e := e) hnew Account.used fun _ _ => rfl
  have hkids : ∀ q (f : Account κ → ℕ), (∀ b c, f { b with kidLeft := c } = f b) →
      (ℓ.grant a.id k e).kids q f =
        (if a.id = q then f (opened a.id k e) else 0) + ℓ.kids q f := by
    intro q f hf
    have := total_grant (p := a.id) (e := e) hnew (fun b => if b.parent = some q then f b else 0)
      fun b c => by simp [hf]
    simpa [opened, kids] using this
  have hkh := fun q => hkids q Account.held fun _ _ => rfl
  have hks := fun q => hkids q (fun c => c.used + c.held) fun _ _ => rfl
  have hnone : ∀ f, ℓ.kids k f = 0 := by
    intro f
    rw [kids, total, sum_eq_zero]
    intro n hn
    obtain ⟨b, hb, rfl⟩ := mem_map.mp hn
    rw [if_neg (horphan b hb)]
  have hroom := h.room
  have hcap := h.limit_le
  have hre := h.reserved_eq
  simp only [opened, Nat.zero_add] at hh hu hkh hks
  refine
    { limit_le := h.limit_le
      room := by rw [hh]; simp only [Ledger.grant]; omega
      conserved := fun ho => ?_
      slack_eq := fun _ => .inl rfl
      spent_eq := by rw [hu]; exact h.spent_eq
      reserved_eq := by rw [hh]; simp only [Ledger.grant]; omega
      account := ?_ }
  · have := h.conserved ho
    simp only [Ledger.grant]
    omega
  · intro b' hb'
    simp only [Ledger.grant, mem_insert, mem_modify] at hb'
    rcases hb' with rfl | ⟨⟨b, hb, rfl⟩, -⟩
    · have he : e ≤ ℓ.cap := by omega
      have h1 : (ℓ.grant a.id k e).kids (opened a.id k e).id Account.held = 0 := by
        rw [show (opened a.id k e).id = k from rfl, hkh, hnone, if_neg hne]
      have h2 : ((ℓ.grant a.id k e).kids (opened a.id k e).id fun c => c.used + c.held) = 0 := by
        rw [show (opened a.id k e).id = k from rfl, hks, hnone, if_neg hne]
      exact
        { limit_le := he
          kidLimit_le := he
          used_le := Nat.zero_le _
          left_le := le_rfl
          own_ge := le_rfl
          own_eq := fun _ => min_eq_left he
          kidRoom := by rw [h1]; exact le_rfl
          kids_ge := by rw [h2]; exact le_rfl
          kids_eq := fun _ => by rw [h2]; exact min_eq_left he
          held_root := fun hr => Bool.noConfusion hr
          held_eq := fun _ => by simp [opened] }
    · have hbb := h.account b hb
      have hroomb := hbb.kidRoom
      have hgeb := hbb.kids_ge
      have heqb := hbb.kids_eq
      by_cases hbk : b.id = a.id
      · obtain rfl := ℓ.accounts.eq_of_key_eq hb hm hbk
        have h1 := hkh b.id
        have h2 := hks b.id
        simp only [if_true] at h1 h2 ⊢
        exact ⟨hbb.limit_le, hbb.kidLimit_le, hbb.used_le, hbb.left_le, hbb.own_ge, hbb.own_eq,
          by simp; omega, by simp; omega,
          fun ho => by have := heqb ho; simp only [h2]; simp only [Ledger.grant]; omega,
          hbb.held_root, hbb.held_eq⟩
      · have h1 := hkh b.id
        have h2 := hks b.id
        simp only [if_neg (Ne.symm hbk), Nat.zero_add] at h1 h2
        rw [if_neg hbk]
        exact { hbb with
          kidRoom := by rw [h1]; exact hroomb
          kids_ge := by rw [h2]; exact hgeb
          kids_eq := fun ho => by rw [h2]; exact heqb ho }

end Balance

end Ledger

end Harness.Lib
