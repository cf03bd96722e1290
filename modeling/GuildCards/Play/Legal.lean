import GuildCards.Play.Apply

/-!
The legal moves of a state: answers to open questions first, then cards to play, then moves that spend
credits, then the two that end the turn.
-/
namespace GuildCards
open Document Effect

namespace State
variable {ι ν : Type} [Label ι] [Amount ν]

def choiceAnswers (s : State ι ν) (p : Player ι ν) : List Move :=
  s.choices.zipIdx.flatMap fun (c, i) => c.options.map fun b => .choose p.id i b.text

def conditionalAnswers (s : State ι ν) (p : Player ι ν) : Except Fault (List Move) :=
  match s.choices, s.conditionals, s.deferred with
  | [], c :: _, none => do
    let accepting :=
      if c.nested.isEmpty then [.answer p.id true]
      else c.nested.map fun b => .answer p.id true (.text b.text)
    pure ((if ← p.canPay c.cost then accepting else []) ++ [.answer p.id false])
  | _, _, _ => .ok []

def expansions (rules : Rulebook ι) (s : State ι ν) (p : Player ι ν) : Except Fault (List Move) := do
  if (← Amount.isPositive p.counters.discard) ∨ (rules.strict ∧ s.awaiting? ≠ none) then pure []
  else pure ((s.playableCards (Datum.value p.id)).map (.onCard .expand p.id))

/-- The moves, one for each item, that a number above zero allows. -/
def whilePositive {α : Type} (n : ν) (items : List α) (move : α → Move) : Except Fault (List Move) := do
  pure (if ← Amount.isPositive n then items.map move else [])

def handMoves (p : Player ι ν) (c : Card ι) : Except Fault (List Move) := do
  pure ((← whilePositive p.counters.discard [c.id] (.onCard .discard p.id)) ++
    (← whilePositive p.counters.exile [c.id] (.onCard .exile p.id)) ++
    (← whilePositive p.counters.bury [c.id] (.onCard .bury p.id)))

def cardMoves (s : State ι ν) (p : Player ι ν) : Except Fault (List Move) := do
  let drawing ← whilePositive p.counters.draw ((p.deck ++ p.discard).take 1) fun _ => .plain .draw p.id
  let market ← if ← Amount.isPositive p.counters.take then s.market else pure []
  let ofHand ← p.hand.mapM (handMoves p)
  let reviving ← whilePositive p.counters.revive (Zone.ids p.discard) (.onCard .revive p.id)
  pure (drawing ++ (Zone.ids market).map (.onCard .take p.id) ++ ofHand.flatten ++ reviving)

def spotMove (s : State ι ν) (p : Player ι ν) (x : Spot ι ν) (n : ν) (kind : MoveKind)
    (judge : Value → Spot ι ν → Bool) : Except Fault (List Move) :=
  let fit := s.onSpot (judge (Datum.value p.id)) (Datum.value x.id)
  whilePositive n (if fit then [x.id] else []) (.onSpot kind p.id)

def movesOn (s : State ι ν) (p : Player ι ν) (x : Spot ι ν) : Except Fault (List Move) := do
  pure ((← s.spotMove p x p.armies .placeArmy s.canPlaceOn) ++
    (← s.spotMove p x p.counters.fight .fight s.canAttack) ++
    (← s.spotMove p x p.counters.outpost .buildOutpost s.canBuildOn))

def spotMoves (s : State ι ν) (p : Player ι ν) : Except Fault (List Move) := do
  pure (← s.spots.mapM (s.movesOn p)).flatten

def movesOf (rules : Rulebook ι) (s : State ι ν) (p : Player ι ν) : Except Fault (List Move) := do
  pure (s.choiceAnswers p ++ (← s.conditionalAnswers p) ++ (← s.expansions rules p) ++
    (← s.cardMoves p) ++ (← s.spotMoves p) ++ [.plain .consolidate p.id, .plain .endTurn p.id])

def legalMoves (rules : Rulebook ι) (s : State ι ν) : Except Fault (List Move) := do
  if s.phase = .ended ∨ s.players.isEmpty then return []
  let p ← s.current
  if s.phase = .setup then return [.plain .endTurn p.id]
  s.movesOf rules p

end State

namespace Move

def caseless (v : Value) : Except Fault Value :=
  match v with
  | .null => .ok .null
  | .text s => .ok (.text (Text.lowercase s))
  | v => .error (.noPart v.kind "lower")

def normal (m : Move) : Except Fault Move := do
  pure { m with choice := ← caseless m.choice }

def comparable (m : Move) : Except Fault Unit :=
  [m.player, m.card, m.spot, m.accept].forM Value.comparable

def agrees (m n : Move) : Bool :=
  m.kind = n.kind && m.player.same n.player && m.card.same n.card && m.spot.same n.spot &&
    m.intent = n.intent && m.accept.same n.accept && m.choice.same n.choice

end Move

/-- Is this move, field by field and with the case of its choice left aside, one of the legal ones? -/
def State.isLegal {ι ν : Type} [Label ι] [Amount ν] (rules : Rulebook ι) (s : State ι ν) (m : Move) :
    Except Fault Bool := do
  let m ← m.normal
  let legal ← (← s.legalMoves rules).mapM Move.normal
  legal.forM Move.comparable
  m.comparable
  pure (legal.any m.agrees)

end GuildCards
