import GuildCards.Datum
import GuildCards.Resource

/-!
Moves, as a player sends them. Every kind of move has the same fields and reads only some of them;
names and answers are kept as they were sent, of whatever kind of value, and judged when the move is
played. A field that is null was not sent.
-/
namespace GuildCards
open Document

inductive MoveKind where
  | expand
  | consolidate
  | endTurn
  | draw
  | take
  | discard
  | exile
  | bury
  | revive
  | fight
  | buildOutpost
  | placeArmy
  | resolveChoice
  | resolveConditional
  deriving DecidableEq, Repr

namespace MoveKind

def all : List MoveKind :=
  [expand, consolidate, endTurn, draw, take, discard, exile, bury, revive, fight, buildOutpost,
   placeArmy, resolveChoice, resolveConditional]

def name : MoveKind → String
  | expand => "expand"
  | consolidate => "consolidate"
  | endTurn => "endTurn"
  | draw => "draw"
  | take => "take"
  | discard => "discard"
  | exile => "exile"
  | bury => "bury"
  | revive => "revive"
  | fight => "fight"
  | buildOutpost => "buildOutpost"
  | placeArmy => "placeArmy"
  | resolveChoice => "resolveChoice"
  | resolveConditional => "resolveConditional"

def ofName? (name : String) : Option MoveKind := all.find? fun k => k.name = name

def credit? : MoveKind → Option Counter
  | draw => some .draw
  | take => some .take
  | discard => some .discard
  | exile => some .exile
  | bury => some .bury
  | revive => some .revive
  | fight => some .fight
  | buildOutpost => some .outpost
  | _ => none

end MoveKind

structure Move where
  kind : MoveKind
  player : Value := .null
  card : Value := .null
  spot : Value := .null
  intent : Option Int := none
  accept : Value := .null
  choice : Value := .null

namespace Move

section Named
variable {ι ν : Type} [Datum ι]

def onCard (kind : MoveKind) (player card : ι) : Move :=
  { kind := kind, player := Datum.value player, card := Datum.value card }

def onSpot [Datum ν] (kind : MoveKind) (player : ι) (spot : ν) : Move :=
  { kind := kind, player := Datum.value player, spot := Datum.value spot }

def plain (kind : MoveKind) (player : ι) : Move := { kind := kind, player := Datum.value player }

def choose (player : ι) (place : Nat) (option : String) : Move :=
  { kind := .resolveChoice, player := Datum.value player, intent := some place
    choice := .text option }

def answer (player : ι) (accept : Bool) (option : Value := .null) : Move :=
  { kind := .resolveConditional, player := Datum.value player, accept := .bool accept
    choice := option }

end Named

def sent (name : String) (v : Value) : Fields := if v.isNull then [] else [(name, v)]

def toFields (m : Move) : Fields :=
  ("type", .text m.kind.name) :: sent "playerId" m.player ++ sent "cardId" m.card ++
    sent "spotId" m.spot ++ sent "intentIndex" (.ofOption .int m.intent) ++
    sent "accept" m.accept ++ sent "choice" m.choice

def toRecord (m : Move) : Value := .object m.toFields

def firstSent (r : Value) (names : List String) : Value :=
  (names.findSome? fun n => (r.get? n).bind Value.given?).getD .null

def toNumber? (v : Value) : Except Fault (Option Int) :=
  if v.isNull then .ok none else v.toInteger.map some

def kindOf (v : Value) : Except Fault MoveKind :=
  match v.text?.bind MoveKind.ofName? with
  | some k => .ok k
  | none => .error (.notNamed v .moveKind)

/-- Reads a move; a field of two words may be written in either of two ways. -/
def ofRecord (r : Value) : Except Fault Move := do
  let some fields := r.object? | throw (.noPart r.kind "get")
  let some name := fields.get? "type" | throw (.missing "type")
  let kind ← kindOf name
  let spot ← toNumber? (firstSent r ["spotId", "spot_id"])
  let intent ← toNumber? (firstSent r ["intentIndex", "intent_index"])
  pure {
    kind, intent
    spot := .ofOption .int spot
    player := firstSent r ["playerId", "player_id"]
    card := firstSent r ["cardId", "card_id"]
    accept := firstSent r ["accept"]
    choice := firstSent r ["choice"] }

end Move
end GuildCards
