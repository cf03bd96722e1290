import Mathlib
import GuildCards.Play.Apply

/-!
Effects on a player who counts in whole numbers. There nothing that a card does can fail, so each
effect is a function of the player, and none of them touches a card.
-/
namespace GuildCards
open Effect

variable {ι : Type}

namespace Player

def granted (p : Player ι Int) (d : Delta) : Player ι Int :=
  match d.resource with
  | .army => { p with armies := p.armies + d.amount }
  | .counter c => { p with counters := p.counters.set c (p.counters.get c + d.amount) }

def grantedAll (p : Player ι Int) (ds : List Delta) : Player ι Int := ds.foldl granted p

def spent (p : Player ι Int) (c : Counter) : Player ι Int :=
  { p with counters := p.counters.set c (p.counters.get c - 1) }

def affords (p : Player ι Int) (c : Cost) : Bool :=
  match c.kind, c.resource with
  | .discard, _ => decide (c.amount ≤ p.hand.length)
  | .pay, none => false
  | .pay, some r => decide (c.amount ≤ p.holds r)

/-- A cost is paid like a grant of the opposite amount. -/
def paid (p : Player ι Int) (c : Cost) : Player ι Int :=
  match c.kind, c.resource with
  | .pay, some r => p.granted ⟨r, -c.amount⟩
  | _, _ => p

theorem gain_int (p : Player ι Int) (d : Delta) : p.gain d = .ok (p.granted d) := by
  obtain ⟨r, n⟩ := d
  cases r <;> rfl

theorem gainAll_int (p : Player ι Int) (ds : List Delta) :
    p.gainAll ds = .ok (p.grantedAll ds) := by
  induction ds generalizing p with
  | nil => rfl
  | cons d ds ih =>
    unfold gainAll at ih ⊢
    rw [List.foldlM_cons, gain_int]
    exact ih (p.granted d)

theorem spend_int (p : Player ι Int) (c : Counter) : p.spend c = .ok (p.spent c) := rfl

theorem canPay_int (p : Player ι Int) (c : Cost) : p.canPay c = .ok (p.affords c) := by
  obtain ⟨kind, text, n, resource⟩ := c
  cases kind with
  | discard => rfl
  | pay =>
    cases resource with
    | none => rfl
    | some r => exact Amount.atLeast_int _ _

theorem pay_int (p : Player ι Int) (c : Cost) : p.pay c = .ok (p.paid c) := by
  obtain ⟨kind, text, n, resource⟩ := c
  cases kind with
  | discard => rfl
  | pay =>
    cases resource with
    | none => rfl
    | some r => exact gain_int _ _

def withAmounts (p : Player ι Int) (cs : Counters Int) (armies : Int) : Player ι Int :=
  { p with counters := cs, armies := armies }

theorem granted_eq (p : Player ι Int) (d : Delta) :
    p.granted d = p.withAmounts (p.granted d).counters (p.granted d).armies := by
  unfold granted
  split <;> rfl

theorem grantedAll_eq (p : Player ι Int) (ds : List Delta) :
    p.grantedAll ds = p.withAmounts (p.grantedAll ds).counters (p.grantedAll ds).armies := by
  induction ds generalizing p with
  | nil => rfl
  | cons d ds ih =>
    have h : p.grantedAll (d :: ds) = (p.granted d).grantedAll ds := rfl
    rw [h, ih, granted_eq p d]
    rfl

@[simp] theorem grantedAll_id (p : Player ι Int) (ds : List Delta) :
    (p.grantedAll ds).id = p.id := by
  rw [grantedAll_eq]
  rfl

@[simp] theorem grantedAll_name (p : Player ι Int) (ds : List Delta) :
    (p.grantedAll ds).name = p.name := by
  rw [grantedAll_eq]
  rfl

theorem paid_eq (p : Player ι Int) (c : Cost) :
    p.paid c = p.withAmounts (p.paid c).counters (p.paid c).armies := by
  unfold paid
  split
  · exact granted_eq _ _
  · rfl

end Player

/-- The clauses of a card for the power of a tier: those of the power, then those of the bonus. -/
def Card.clausesAt (c : Card ι) (t : Tier) : List Clause :=
  (c.power.get t).program.clauses ++ c.bonus.program.clauses

def grantsOf (clauses : List Clause) : List Delta := clauses.flatMap Clause.gains

def payableOf (clauses : List Clause) (p : Player ι Int) : List Conditional :=
  (clauses.filterMap Clause.conditional?).filter fun c => p.affords c.cost

def Plan.whole (clauses : List Clause) (p : Player ι Int) : Plan :=
  { immediate := grantsOf clauses
    conditionals := payableOf clauses (p.grantedAll (grantsOf clauses))
    choices := clauses.filterMap Clause.choice?
    dropped := clauses.filterMap Clause.unrecognized? }

theorem filterAuxM_ok {α ε : Type} (f : α → Bool) (as kept : List α) :
    as.filterAuxM (fun a => (.ok (f a) : Except ε Bool)) kept =
      .ok ((as.filter f).reverse ++ kept) := by
  induction as generalizing kept with
  | nil => rfl
  | cons a as ih =>
    have h : (a :: as).filterAuxM (fun a => (.ok (f a) : Except ε Bool)) kept =
        as.filterAuxM (fun a => .ok (f a)) (if f a then a :: kept else kept) := by
      cases hf : f a <;> simp [List.filterAuxM, hf, bind, Except.bind]
    rw [h, ih, List.filter_cons]
    cases f a <;> simp

theorem filterM_ok {α ε : Type} (f : α → Bool) (as : List α) :
    (as.filterM fun a => (.ok (f a) : Except ε Bool)) = .ok (as.filter f) := by
  unfold List.filterM
  rw [filterAuxM_ok]
  simp [bind, Except.bind, pure, Except.pure]

theorem Plan.ofClauses_int (clauses : List Clause) (p : Player ι Int) :
    Plan.ofClauses clauses p = .ok (Plan.whole clauses p) := by
  simp only [Plan.ofClauses, Player.gainAll_int, Player.canPay_int, bind, Except.bind, filterM_ok]
  rfl

theorem Card.planAt_int {c : Card ι} {t : Tier} {place : Int} (h : Tier.at? place = some t)
    (p : Player ι Int) : c.planAt place p = .ok (Plan.whole (c.clausesAt t) p) := by
  unfold Card.planAt
  rw [h]
  exact Plan.ofClauses_int _ p

end GuildCards
