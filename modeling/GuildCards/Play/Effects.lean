import GuildCards.Player

/-!
Effects on a player. What a card grants at once is added first; then its questions are asked, leaving
out a conditional whose cost the player could not pay by now.
-/
namespace GuildCards
open Effect

namespace Player
variable {ι ν : Type} [Amount ν]

def gain (p : Player ι ν) (d : Delta) : Except Fault (Player ι ν) := do
  match d.resource with
  | .army => pure { p with armies := ← Amount.plus p.armies d.amount }
  | .counter c => pure { p with counters := ← p.counters.add c d.amount }

def gainAll (p : Player ι ν) (ds : List Delta) : Except Fault (Player ι ν) := ds.foldlM gain p

/-- A cost in cards needs that many in hand; a cost without a resource cannot be paid. -/
def canPay (p : Player ι ν) (c : Cost) : Except Fault Bool :=
  match c.kind, c.resource with
  | .discard, _ => .ok (c.amount ≤ p.hand.length)
  | .pay, none => .ok false
  | .pay, some r => Amount.stands .atLeast (p.holds r) c.amount

def pay (p : Player ι ν) (c : Cost) : Except Fault (Player ι ν) :=
  match c.kind, c.resource with
  | .pay, some r => p.gain ⟨r, -c.amount⟩
  | _, _ => .ok p

end Player

/-- What playing a card does; what comes from its power precedes what comes from its bonus. -/
structure Plan where
  immediate : List Delta := []
  conditionals : List Conditional := []
  choices : List Choice := []
  /-- the texts that mean nothing -/
  dropped : List String := []
  deriving DecidableEq

def Plan.ofClauses {ι ν : Type} [Amount ν] (clauses : List Clause) (p : Player ι ν) :
    Except Fault Plan := do
  let immediate := clauses.flatMap Clause.gains
  let after ← p.gainAll immediate
  pure {
    immediate
    conditionals := ← (clauses.filterMap Clause.conditional?).filterM fun c => after.canPay c.cost
    choices := clauses.filterMap Clause.choice?
    dropped := clauses.filterMap Clause.unrecognized? }

def Card.planIn {ι ν : Type} [Amount ν] (c : Card ι) (t : Tier) (p : Player ι ν) : Except Fault Plan :=
  Plan.ofClauses ((c.power.get t).program.clauses ++ c.bonus.program.clauses) p

def Card.planAt {ι ν : Type} [Amount ν] (c : Card ι) (place : Int) (p : Player ι ν) :
    Except Fault Plan :=
  match Tier.at? place with
  | some t => c.planIn t p
  | none => .ok {}

end GuildCards
