import GuildCards.Board.Spot
import GuildCards.Zone

/-!
A rulebook: the catalog of cards, the map and the constants of a game. It is fixed for the whole game.
-/
namespace GuildCards

structure Rulebook (ι : Type) where
  id : String
  title : String
  minPlayers : Int := 2
  maxPlayers : Int := 4
  cards : List (Card ι) := []
  sites : List Site := []
  grid : Grid := ⟨5, 4⟩
  handSize : Int := 5
  marketSize : Int := 5
  deckSize : Int := 5
  startingGold : Int := 5
  winningPoints : Int := 15
  /-- refuse a new card while a question of the last one is open, instead of dropping the question -/
  strict : Bool := false

namespace Rulebook
variable {ι : Type} [Label ι]

def card? (r : Rulebook ι) (id : Document.Value) : Option (Card ι) := Zone.named? r.cards.reverse id

def withCards (r : Rulebook ι) (cards : List (Card ι)) : Except Fault (Rulebook ι) := do
  cards.forM fun c => (Datum.value c.id).comparable
  pure { r with cards }

end Rulebook

end GuildCards
