import GuildCards.Play.Answer
import GuildCards.Play.Placement
import GuildCards.Rulebook

/-!
Playing a move. First what every move needs: a game that goes on, the player whose turn it is and a
credit to spend; then what its kind needs; then its effect. A move that is refused has no effect, and
one that is accepted goes into the history. What it tells is written while it is made: if that shows a
number too long to be written, the move fails, however legal it is.

Shuffling is an argument: given the seed, the number of the shuffle and the cards, it returns them in
a new order.
-/
namespace GuildCards
open Document Effect

abbrev Shuffler (ι ν : Type) := ν → ν → List (Card ι) → Except Fault (List (Card ι))

namespace State
variable {ι ν : Type} [Label ι] [Amount ν]

def shuffled (s : State ι ν) (shuffle : Shuffler ι ν) (cards : List (Card ι)) :
    Except Fault (List (Card ι) × State ι ν) := do
  let cards ← shuffle s.seed s.shuffles cards
  pure (cards, { s with shuffles := ← Amount.plus s.shuffles 1 })

def passTurn (s : State ι ν) : Except Fault (State ι ν) := do
  let seat := ((← Amount.toPlace s.seat) + 1).fmod s.players.length
  pure { s.dropIntents with seat := Amount.ofInt seat, turn := ← Amount.plus s.turn 1 }

def currentName (s : State ι ν) : Except Fault Value := do
  pure (Datum.value (← s.current).name)

/-- Finds the named card in a zone; what counts as false names the card without an id. -/
def named (z : Zone ι) (card : Value) : Option (Card ι) :=
  z.named? (if card.truthy then card else .text "")

def namedSpot (s : State ι ν) (spot : Value) : Except Refusal (Spot ι ν) :=
  needSome (spot.given?.bind s.spot?) (Refusal.unknownSpot spot).told

def expand (rules : Rulebook ι) (s : State ι ν) (p : Player ι ν) (card : Value) :
    Except Refusal (Played ι ν) := do
  need card.truthy (Refusal.notInHand card).told
  let c ← needSome (named p.hand card) (Refusal.notInHand card).told
  need (¬ (← Amount.isPositive p.counters.discard)) .owesDiscards
  need (rules.strict = false ∨ s.awaiting? = none) .mustAnswer
  need (s.canPlayCard (Datum.value p.id) (Datum.value c.id)) (.colorHeld c.guild c.color)
  let pile := p.piles.get c.guild ++ [c]
  let tier ← needSome (Tier.at? pile.length) (.failed (.noPart "NoneType" "value"))
  let p := { p with hand := p.hand.remove c, piles := p.piles.set c.guild pile }
  let plan ← c.planAt pile.length p
  let p ← p.gainAll plan.immediate
  let name := Datum.value p.name
  pure {
    state := { s.withPlayer p with
      choices := plan.choices, conditionals := plan.conditionals, deferred := none }
    events := .expanded name (Datum.value c.id) c.guild pile.length tier ::
      plan.immediate.map (.gained name) ++ s.open?.map fun i => .leftOpen i.source
    dropped := s.open? }

/-- Gathers hand and piles down to their bases into the discard, shuffles it under the deck, draws a
new hand and passes the turn. -/
def consolidate (rules : Rulebook ι) (shuffle : Shuffler ι ν) (s : State ι ν) (p : Player ι ν) :
    Except Refusal (Played ι ν) := do
  let gathered := p.hand ++ Guild.all.flatMap fun g => Pile.aboveBase (p.piles.get g)
  let (cards, s) ← s.shuffled shuffle (p.discard ++ gathered)
  let (hand, deck) := Zone.draw rules.handSize (p.deck ++ cards)
  let s ← (s.withPlayer { p with
    hand, deck, discard := [], piles := p.piles.map Pile.base
    counters := p.counters.endTurn }).passTurn
  pure {
    state := s
    events := [.consolidated (Datum.value p.name) hand.length, .turnEnded (← s.currentName)] }

def start (rules : Rulebook ι) (s : State ι ν) (p : Player ι ν) : Played ι ν :=
  let (drawn, deck) := Zone.draw (max 0 (rules.handSize - p.hand.length)) p.deck
  { state := { s.withPlayer { p with hand := p.hand ++ drawn, deck } with phase := .playing }
    events := [.started (Datum.value p.name) drawn.length] }

def endTurn (s : State ι ν) (p : Player ι ν) : Except Refusal (Played ι ν) := do
  let s ← (s.withPlayer { p with counters := p.counters.endTurn }).passTurn
  pure { state := s, events := [.turnEnded (← s.currentName)] }

/-- Draws the top card of the deck; an empty deck is first made from the discard. -/
def draw (shuffle : Shuffler ι ν) (s : State ι ν) (p : Player ι ν) :
    Except Refusal (Played ι ν) := do
  let drawFrom (s : State ι ν) (deck discard : Zone ι) : Except Refusal (Played ι ν) := do
    let (drawn, deck) := Zone.draw 1 deck
    pure {
      state := s.withPlayer { ← p.spend .draw with hand := p.hand ++ drawn, deck, discard }
      events := [.drew (Datum.value p.name)] }
  if p.deck.isEmpty then
    need (¬ p.discard.isEmpty) .nothingToDraw
    let (cards, s) ← s.shuffled shuffle p.discard
    drawFrom s cards []
  else drawFrom s p.deck p.discard

def take (s : State ι ν) (p : Player ι ν) (card : Value) : Except Refusal (Played ι ν) := do
  let market ← s.market
  let c ← needSome (market.named? card) (Refusal.notInMarket card).told
  pure {
    state := { s.withPlayer { ← p.spend .take with hand := p.hand ++ [c] } with
      common := s.common.remove c }
    events := [.took (Datum.value p.name) (Datum.value c.id)] }

/-- Discards a card from the hand; the last discard owed brings the deferred benefit. -/
def discard (s : State ι ν) (p : Player ι ν) (card : Value) : Except Refusal (Played ι ν) := do
  let c ← needSome (named p.hand card) (Refusal.notInHand card).told
  let p := { ← p.spend .discard with hand := p.hand.remove c, discard := p.discard ++ [c] }
  let (s, events) ← (s.withPlayer p).settle p
  pure { state := s, events := .discarded (Datum.value p.name) (Datum.value c.id) :: events }

def exile (s : State ι ν) (p : Player ι ν) (card : Value) : Except Refusal (Played ι ν) := do
  let c ← needSome (named p.hand card) (Refusal.notInHand card).told
  pure {
    state := s.withPlayer
      { ← p.spend .exile with hand := p.hand.remove c, exile := p.exile ++ [c] }
    events := [.exiled (Datum.value p.name) (Datum.value c.id)] }

def bury (s : State ι ν) (p : Player ι ν) (card : Value) : Except Refusal (Played ι ν) := do
  let c ← needSome (named p.hand card) (Refusal.notInHand card).told
  pure {
    state := s.withPlayer { ← p.spend .bury with hand := p.hand.remove c, deck := p.deck ++ [c] }
    events := [.buried (Datum.value p.name) (Datum.value c.id)] }

def revive (s : State ι ν) (p : Player ι ν) (card : Value) : Except Refusal (Played ι ν) := do
  let c ← needSome (named p.discard card) (Refusal.notInDiscard card).told
  pure {
    state := s.withPlayer
      { ← p.spend .revive with hand := p.hand ++ [c], discard := p.discard.remove c }
    events := [.revived (Datum.value p.name) (Datum.value c.id)] }

def placeArmy (s : State ι ν) (p : Player ι ν) (spot : Value) : Except Refusal (Played ι ν) := do
  need (¬ (← Amount.stands .atMost p.armies 0)) .noArmies
  let x ← s.namedSpot spot
  let name := Datum.value p.name
  need (s.canPlaceOn (Datum.value p.id) x) (Refusal.cannotPlace name (Datum.value x.id)).told
  let x := { x with holder := some p.id, armies := ← Amount.plus x.armies 1 }
  pure {
    state := (s.withPlayer { p with armies := ← Amount.minus p.armies 1 }).withSpot x
    events := [← (Event.placed name (Datum.value x.id)).told] }

/-- Removes an army of another player; with the last one the spot is free. -/
def fight (s : State ι ν) (p : Player ι ν) (spot : Value) : Except Refusal (Played ι ν) := do
  let x ← s.namedSpot spot
  let name := Datum.value p.name
  need (s.canAttack (Datum.value p.id) x) (Refusal.cannotAttack name (Datum.value x.id)).told
  let left ← Amount.minus x.armies 1
  let holder := if ← Amount.isPositive left then x.holder else none
  let armies := if ← Amount.stands .below left 0 then Amount.ofInt 0 else left
  pure {
    state := (s.withPlayer (← p.spend .fight)).withSpot { x with holder, armies }
    events := [← (Event.fought name x.holderValue (Datum.value x.id)).told] }

def buildOutpost (s : State ι ν) (p : Player ι ν) (spot : Value) :
    Except Refusal (Played ι ν) := do
  let x ← s.namedSpot spot
  let name := Datum.value p.name
  need (s.canBuildOn (Datum.value p.id) x) (Refusal.cannotBuild name (Datum.value x.id)).told
  pure {
    state := s.withPlayer { ← p.spend .outpost with outposts := p.outposts ++ [x.id] }
    events := [← (Event.built name (Datum.value x.id)).told] }

def perform (rules : Rulebook ι) (shuffle : Shuffler ι ν) (s : State ι ν) (p : Player ι ν) (m : Move) :
    Except Refusal (Played ι ν) :=
  match m.kind with
  | .expand => s.expand rules p m.card
  | .consolidate => s.consolidate rules shuffle p
  | .endTurn => if s.phase = .setup then .ok (s.start rules p) else s.endTurn p
  | .draw => s.draw shuffle p
  | .take => s.take p m.card
  | .discard => s.discard p m.card
  | .exile => s.exile p m.card
  | .bury => s.bury p m.card
  | .revive => s.revive p m.card
  | .fight => s.fight p m.spot
  | .buildOutpost => s.buildOutpost p m.spot
  | .placeArmy => s.placeArmy p m.spot
  | .resolveChoice => s.answerChoice p (m.intent.getD 0) m.choice
  | .resolveConditional => do
    need (m.accept.isNull = false) .noAnswer
    s.answerConditional p m.accept.truthy m.choice

def mover (s : State ι ν) (m : Move) : Except Refusal (Player ι ν) := do
  need (s.phase ≠ .ended) .gameOver
  need (s.phase ≠ .setup ∨ m.kind = .endTurn) .notStarted
  need (¬ s.players.isEmpty) .noPlayers
  let p ← s.current.mapError .broken
  need (Datum.is p.id m.player) (.notYourTurn m.player)
  match m.kind.credit? with
  | some c =>
    need (¬ (← (Amount.stands .atMost (p.counters.get c) 0).mapError .broken)) (.noCredits c)
  | none => pure ()
  pure p

def play (rules : Rulebook ι) (shuffle : Shuffler ι ν) (s : State ι ν) (m : Move) :
    Except Refusal (Played ι ν) := do
  let p ← s.mover m
  let r ← s.perform rules shuffle p m
  pure { r with state := { r.state with history := r.state.history ++ [m] } }

def next (rules : Rulebook ι) (shuffle : Shuffler ι ν) (s : State ι ν) (m : Move) : State ι ν :=
  match s.play rules shuffle m with
  | .ok r => r.state
  | .error _ => s

end State
end GuildCards
