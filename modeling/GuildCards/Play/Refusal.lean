import GuildCards.Card

/-!
Refusals: why a move is not allowed. A refused move changes nothing. Each cause has a code for
programs and a message for players.
-/
namespace GuildCards
open Document

inductive Refusal where
  | gameOver
  | notStarted
  | noPlayers
  | notYourTurn (player : Value)
  | noCredits (c : Counter)
  | notInHand (card : Value)
  | notInMarket (card : Value)
  | notInDiscard (card : Value)
  | owesDiscards
  | mustAnswer
  | colorHeld (guild : Guild) (color : Color)
  | nothingToDraw
  | noArmies
  | unknownSpot (id : Value)
  | cannotPlace (name spot : Value)
  | cannotAttack (name spot : Value)
  | cannotBuild (name spot : Value)
  | noChoice
  | noChoiceAt (place : Int)
  | notAnOption (name : String) (options : List String)
  | choicesFirst
  | noConditional
  | discardsFirst
  | noAnswer
  | nameOneOf (options : List String)
  | cannotPay (cost : String)
  /-- what the move does cannot be done with the values of the game or of the move -/
  | failed (f : Fault)
  /-- the game is such that no move can be judged -/
  | broken (f : Fault)

namespace Refusal

def code : Refusal → String
  | gameOver | notStarted | noPlayers => "WRONG_PHASE"
  | notYourTurn _ => "WRONG_PLAYER"
  | noCredits _ => "NO_CREDITS"
  | notInHand _ => "CARD_NOT_IN_HAND"
  | notInMarket _ => "CARD_NOT_IN_MARKET"
  | notInDiscard _ => "CARD_NOT_IN_DISCARD"
  | owesDiscards | discardsFirst => "DISCARD_PENDING"
  | mustAnswer => "AWAITING_INPUT"
  | colorHeld .. => "COLOR_RESTRICTION"
  | nothingToDraw => "DECK_EMPTY"
  | noArmies => "NO_ARMIES"
  | unknownSpot _ => "UNKNOWN_SPOT"
  | cannotPlace .. | cannotAttack .. | cannotBuild .. => "ILLEGAL_PLACEMENT"
  | noChoice | noChoiceAt _ | noConditional => "NO_PENDING_INTENT"
  | notAnOption .. | noAnswer | nameOneOf _ => "INVALID_CHOICE"
  | choicesFirst => "CHOICE_FIRST"
  | cannotPay _ => "COST_UNPAYABLE"
  | failed _ | broken _ => "HANDLER_ERROR"

def message : Refusal → String
  | gameOver => "Game is over - no actions allowed"
  | notStarted => "Game not started - only endTurn allowed during setup"
  | noPlayers => "Game has no players"
  | notYourTurn player => s!"Not {player.plain}'s turn"
  | noCredits c => s!"No {c.name} credits left"
  | notInHand card => s!"Card {card.plain} not in hand"
  | notInMarket card => s!"Card {card.plain} not in market"
  | notInDiscard card => s!"Card {card.plain} not in discard pile"
  | owesDiscards => "Discard the owed cards before playing another card"
  | mustAnswer => "Answer the pending effects before playing another card"
  | colorHeld guild color => s!"Guild {guild.name} already holds a {color.name} card"
  | nothingToDraw => "No cards left to draw"
  | noArmies => "No armies to place"
  | unknownSpot id => s!"Unknown spot {id.plain}"
  | cannotPlace name spot => s!"{name.plain} cannot place an army on spot {spot.plain}"
  | cannotAttack name spot => s!"{name.plain} cannot attack spot {spot.plain}"
  | cannotBuild name spot => s!"{name.plain} cannot build an outpost on spot {spot.plain}"
  | noChoice => "No choice pending"
  | noChoiceAt place => s!"No pending choice at index {place}"
  | notAnOption name options => s!"'{name}' is not one of: " ++ ", ".intercalate options
  | choicesFirst => "Resolve pending choices first"
  | noConditional => "No conditional pending"
  | discardsFirst => "Finish discarding for the accepted conditional first"
  | noAnswer => "Answer must accept or decline"
  | nameOneOf options => "Choose one of: " ++ ", ".intercalate options
  | cannotPay cost => s!"Cannot pay '{cost}'"
  | failed f | broken f => f.message

def shown : Refusal → List Value
  | notYourTurn v | notInHand v | notInMarket v | notInDiscard v | unknownSpot v => [v]
  | cannotPlace v w | cannotAttack v w | cannotBuild v w => [v, w]
  | noChoiceAt n => [.int n]
  | _ => []

def told (why : Refusal) : Refusal :=
  if Value.areWritable why.shown then why else .failed .tooLongToWrite

/-- The fault of the game that a refusal stands for; such a fault is not the fault of the move. -/
def fault? : Refusal → Option Fault
  | broken f => some f
  | _ => none

end Refusal

/-- Where a move meets a fault on the way, it fails. -/
instance : MonadLift (Except Fault) (Except Refusal) := ⟨Except.mapError .failed⟩

def need (p : Prop) [Decidable p] (r : Refusal) : Except Refusal Unit :=
  if p then .ok () else .error r

def needSome {α : Type} (a : Option α) (r : Refusal) : Except Refusal α :=
  match a with
  | some a => .ok a
  | none => .error r

theorem need_bind_eq_ok {α : Type} {p : Prop} [Decidable p] {r : Refusal}
    {f : Unit → Except Refusal α} {a : α} :
    (need p r >>= f) = .ok a ↔ p ∧ f () = .ok a := by
  unfold need
  split <;> simp_all [bind, Except.bind]

theorem needSome_bind_eq_ok {α β : Type} {o : Option β} {r : Refusal}
    {f : β → Except Refusal α} {a : α} :
    (needSome o r >>= f) = .ok a ↔ ∃ b, o = some b ∧ f b = .ok a := by
  cases o <;> simp [needSome, bind, Except.bind]

end GuildCards
