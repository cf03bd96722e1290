import GuildCards.State

/-!
Where armies may go. A spot held by another player is closed; a starting spot is open to all others,
and any other spot to a player who holds a neighbour. Who holds a neighbour may also attack.
-/
namespace GuildCards.State
open Document

variable {ι ν : Type} [Label ι] [Amount ν]

def holdsNextTo (s : State ι ν) (player : Value) (x : Spot ι ν) : Bool :=
  x.adjacent.any fun i => (s.spot? (Datum.value i)).any (·.isHeldBy player)

def canPlaceOn (s : State ι ν) (player : Value) (x : Spot ι ν) : Bool :=
  !x.isHeldAgainst player && (x.kind = .starting || s.holdsNextTo player x)

def canAttack (s : State ι ν) (player : Value) (x : Spot ι ν) : Bool :=
  x.isHeldAgainst player && s.holdsNextTo player x

def canBuildOn (s : State ι ν) (player : Value) (x : Spot ι ν) : Bool :=
  x.kind = .outpost && x.isHeldBy player &&
    !s.players.any fun p => p.outposts.any (Datum.same · x.id)

def onSpot (s : State ι ν) (judge : Spot ι ν → Bool) (id : Value) : Bool := (s.spot? id).any judge

def adjacent (s : State ι ν) (id : Value) : List ν := ((s.spot? id).map (·.adjacent)).getD []

def canPlayCard (s : State ι ν) (player card : Value) : Bool :=
  (s.player? player).any fun p =>
    (Zone.named? p.hand card).any fun c => (p.piles.get c.guild).admits c.color

def playableCards (s : State ι ν) (player : Value) : List ι :=
  match s.player? player with
  | some p => (Zone.ids p.hand).filter fun id => s.canPlayCard player (Datum.value id)
  | none => []

end GuildCards.State
