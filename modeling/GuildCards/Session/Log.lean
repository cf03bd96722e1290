import GuildCards.Document.Wording
import GuildCards.Move
import GuildCards.Play.Refusal

/-!
What a session writes to its log. The first field of an entry is the id of the game.
-/
namespace GuildCards
open Document

inductive LogEntry where
  | created (game : String) (players : Nat) (seed : Value)
  | rejected (game : String) (move : Move) (why : Refusal)
  /-- a card was played with a clause that means nothing -/
  | ignored (game : String) (card : Value) (clause : String)
  /-- an open question was dropped -/
  | declined (game source : String)
  | ended (game : String) (turn leader points : Value)

namespace LogEntry

def whole (v : Value) : String :=
  match v.quantity? with
  | some (.whole n) => toString n
  | some (.real x) => (x.trunc?.map toString).getD v.plain
  | none => v.plain

def level : LogEntry → String
  | created .. | ended .. => "INFO"
  | rejected .. | declined .. => "DEBUG"
  | ignored .. => "WARNING"

def message : LogEntry → String
  | created game players seed => s!"Created game {game} with {players} players (seed {whole seed})"
  | rejected game move why =>
    s!"Game {game}: rejected {move.kind.name} from {move.player.plain}: {why.message} ({why.code})"
  | ignored game card clause =>
    s!"Game {game}: {card.plain} has an unrecognized clause '{clause}'; it was ignored"
  | declined game source => s!"Game {game}: implicitly declined '{source}'"
  | ended game turn leader points =>
    s!"Game {game} ended on turn {whole turn}; leader {leader.plain} with {whole points} VP"

end LogEntry
end GuildCards
