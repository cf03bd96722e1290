import GuildCards.Fault
import GuildCards.Rulebook
import GuildCards.State

/-!
Stores: where games are kept between moves. A store keeps one state under an id; saving overwrites. An
id that is not there is no fault.
-/
namespace GuildCards

class Store (σ : Type) (ι ν : outParam Type) where
  load : Rulebook ι → σ → String → Except Fault (Option (State ι ν))
  save : σ → String → State ι ν → Except Fault σ
  delete : σ → String → Except Fault σ
  ids : σ → List String

end GuildCards
