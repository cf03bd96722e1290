import GuildCards.Play.Event
import GuildCards.Play.Refusal
import GuildCards.State

/-!
What an accepted move comes to: the new state, and what happened on the way.
-/
namespace GuildCards

structure Played (ι ν : Type) where
  state : State ι ν
  events : List Event := []
  /-- the questions that were still open when a new card was played -/
  dropped : List Intent := []

end GuildCards
