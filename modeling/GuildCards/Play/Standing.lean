import GuildCards.Rulebook
import GuildCards.Sorting
import GuildCards.State

/-!
Ranking the players and ending the game. Victory points count first, then gold, then spots held; who
is level keeps the order of the seats. The game is over when a player reaches the points to win or the
common deck is empty.
-/
namespace GuildCards
open Document

structure Standing (ι ν : Type) where
  player : ι
  name : ι
  victoryPoints : ν
  gold : ν
  spots : Nat
  outposts : Nat
  deriving DecidableEq, Repr

namespace Standing
variable {ι ν : Type} [Amount ν]

def key (r : Standing ι ν) : Value :=
  .list [Datum.value r.victoryPoints, Datum.value r.gold, .int r.spots]

def below (a b : Standing ι ν) : Except Fault Bool := a.key.stands .below b.key

end Standing

namespace State
variable {ι ν : Type} [Label ι] [Amount ν]

def standingOf (s : State ι ν) (p : Player ι ν) : Standing ι ν :=
  { player := p.id, name := p.name
    victoryPoints := p.counters.victoryPoints, gold := p.counters.gold
    spots := s.spots.countP (·.isHeldBy (Datum.value p.id))
    outposts := p.outposts.length }

def standings (s : State ι ν) : Except Fault (List (Standing ι ν)) := do
  pure (← Sorting.sort Standing.below (s.players.map s.standingOf).reverse).reverse

def leader? (s : State ι ν) : Except Fault (Option (Player ι ν)) := do
  pure ((← s.standings).head?.bind fun r => s.player? (Datum.value r.player))

def isOver (rules : Rulebook ι) (s : State ι ν) : Except Fault Bool :=
  match s.phase with
  | .ended => .ok true
  | .setup => .ok false
  | .playing =>
    if s.common.isEmpty then .ok true
    else s.players.anyM fun p =>
      Amount.stands .atLeast p.counters.victoryPoints rules.winningPoints

def endIfOver (rules : Rulebook ι) (s : State ι ν) : Except Fault (State ι ν) := do
  if s.phase = .playing ∧ (← s.isOver rules) then pure { s with phase := .ended } else pure s

end State
end GuildCards
