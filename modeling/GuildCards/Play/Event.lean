import GuildCards.Card

/-!
Events: what an accepted move brought about, told to the players. The first field is the name of the
player who acted.
-/
namespace GuildCards
open Document Effect

inductive Event where
  | expanded (name card : Value) (guild : Guild) (place : Nat) (tier : Tier)
  | gained (name : Value) (d : Delta)
  | leftOpen (source : String)
  | consolidated (name : Value) (drawn : Nat)
  | turnEnded (next : Value)
  | started (name : Value) (drawn : Nat)
  | drew (name : Value)
  | took (name card : Value)
  | discarded (name card : Value)
  | exiled (name card : Value)
  | buried (name card : Value)
  | revived (name card : Value)
  | placed (name spot : Value)
  | fought (name defender spot : Value)
  | built (name spot : Value)
  | chose (name : Value) (option : String)
  | declined (name : Value) (source : String)
  | accepted (name : Value) (source : String) (cards : Int) (benefit : String)
  | paid (name : Value) (cost benefit : String)
  | received (name : Value) (benefit : String)

def Event.message : Event → String
  | expanded name card guild place tier =>
    s!"{name.plain} expanded {card.plain} into {guild.name} at position {place} ({tier.name})"
  | gained name d => s!"{name.plain} gained {d.describe}"
  | leftOpen source => s!"Declined '{source}'"
  | consolidated name drawn => s!"{name.plain} consolidated and drew {drawn} card(s)"
  | turnEnded next => s!"Turn ended. Next player: {next.plain}"
  | started name drawn => s!"Game started. {name.plain} drew {drawn} card(s)"
  | drew name => s!"{name.plain} drew a card"
  | took name card => s!"{name.plain} took {card.plain} from the market"
  | discarded name card => s!"{name.plain} discarded {card.plain}"
  | exiled name card => s!"{name.plain} exiled {card.plain}"
  | buried name card => s!"{name.plain} buried {card.plain}"
  | revived name card => s!"{name.plain} revived {card.plain}"
  | placed name spot => s!"{name.plain} placed an army on spot {spot.plain}"
  | fought name defender spot =>
    s!"{name.plain} removed an army of {defender.plain} from spot {spot.plain}"
  | built name spot => s!"{name.plain} built an outpost on spot {spot.plain}"
  | chose name option => s!"{name.plain} chose {option}"
  | declined name source => s!"{name.plain} declined '{source}'"
  | accepted name source cards benefit =>
    s!"{name.plain} accepted '{source}': discard {cards} card(s) to receive {benefit}"
  | paid name cost benefit => s!"{name.plain} paid {cost} for {benefit}"
  | received name benefit => s!"{name.plain} received {benefit}"

def Event.shown : Event → List Value
  | expanded name v _ _ _ | took name v | discarded name v | exiled name v | buried name v
  | revived name v | placed name v | built name v => [name, v]
  | fought name v w => [name, v, w]
  | gained name d => [name, .int d.amount]
  | accepted name _ n _ => [name, .int n]
  | consolidated name _ | turnEnded name | started name _ | drew name | chose name _
  | declined name _ | paid name _ _ | received name _ => [name]
  | leftOpen _ => []

def Event.told (e : Event) : Except Fault Event := Value.tell e.shown e

end GuildCards
