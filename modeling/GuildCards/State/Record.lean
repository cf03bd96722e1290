import GuildCards.Document.Printer
import GuildCards.Rulebook
import GuildCards.State

/-!
A state as a document and back. Cards are written by id and looked up in the rulebook; open questions
are written by their text and compiled again, so a document does not depend on how effects are held.
A document is read in a fixed order, and the first fault met is the one reported.
-/
namespace GuildCards
open Document Effect

def formatVersion : Int := 1

namespace Document.Value

def items? : Value → Option (List Value)
  | .list vs => some vs
  | .text s => some (s.toList.map fun c => .text c.toString)
  | .object fs => some (fs.map fun f => .text f.1)
  | _ => none

def toItems (v : Value) : Except Fault (List Value) :=
  match v.items? with
  | some vs => .ok vs
  | none => .error (.noItems v.kind)

def fieldOr (v : Value) (name : String) (other : Value) : Value := (v.get? name).getD other

def toFields (part : String) : Value → Except Fault Fields
  | .object fs => .ok fs
  | v => .error (.noPart v.kind part)

def toPhase (v : Value) : Except Fault Phase :=
  match v.text?.bind Phase.ofName? with
  | some p => .ok p
  | none => .error (.notNamed v .phase)

def readOr {α : Type} [Datum α] (v : Value) (name : String) (other : Value) : Except Fault α :=
  Datum.read name (v.fieldOr name other)

def itemsOf (v : Value) (name : String) : Except Fault (List Value) :=
  (v.fieldOr name (.list [])).toItems

def readItems {α : Type} [Datum α] (v : Value) (name : String) : Except Fault (List α) := do
  (← v.itemsOf name).mapM (Datum.read name)

def toName : Value → String
  | .text s => s
  | v => v.print .compact

def toField (place : Nat) (v : Value) : Except Fault (String × Value) :=
  match v.items? with
  | none => .error (.noPair place)
  | some [name, w] => name.comparable.map fun _ => (name.toName, w)
  | some vs => .error (.notPair place vs.length)

/-- The fields of an object, or those that a list of pairs stands for. -/
def toNotes (v : Value) : Except Fault Fields :=
  match v with
  | .object fs => .ok fs
  | v => do
    (← v.toItems).zipIdx.foldlM (fun fs (item, place) => do
      let (name, w) ← item.toField place
      pure (Keyed.put name w fs)) []

end Document.Value

/-! Writing -/

def Zone.toRecord {ι : Type} [Label ι] (z : Zone ι) : Value := .ofList Datum.value z.ids

def Counters.toRecord {ν : Type} [Amount ν] (cs : Counters ν) : Value :=
  .object (Counter.all.map fun c => (c.field, Datum.value (cs.get c)))

section Writing
variable {ι ν : Type} [Label ι] [Amount ν]

def Piles.toRecord (ps : Piles ι) : Value :=
  .object (Guild.all.map fun g => (g.name, Zone.toRecord (ps.get g)))

def Player.toRecord (p : Player ι ν) : Value :=
  .object [
    ("player_id", Datum.value p.id), ("name", Datum.value p.name),
    ("hand", p.hand.toRecord), ("deck", p.deck.toRecord),
    ("discard", p.discard.toRecord), ("exile", p.exile.toRecord),
    ("guild_piles", p.piles.toRecord), ("resources", p.counters.toRecord),
    ("armies", Datum.value p.armies), ("outposts", .ofList Datum.value p.outposts)]

def Spot.toRecord (x : Spot ι ν) : Value :=
  .object [
    ("id", Datum.value x.id), ("kind", .text x.kind.name), ("row", Datum.value x.row),
    ("col", Datum.value x.column), ("adjacent", .ofList Datum.value x.adjacent),
    ("occupying_player", x.holderValue), ("army_count", Datum.value x.armies)]

def Deferred.toRecord (d : Deferred) : Value :=
  .object [("intent", .text d.intent.source), ("benefit", .text d.benefit.text)]

def State.toRecord (s : State ι ν) : Value :=
  .object [
    ("format_version", .int formatVersion),
    ("game_id", Datum.value s.id), ("spec_id", Datum.value s.rulebook),
    ("phase", .text s.phase.name), ("turn_number", Datum.value s.turn),
    ("current_player_idx", Datum.value s.seat),
    ("players", .ofList Player.toRecord s.players),
    ("common_deck", s.common.toRecord), ("market_size", Datum.value s.marketSize),
    ("map", .ofList Spot.toRecord s.spots),
    ("pending_choices", .ofList (fun c => .text c.source) s.choices),
    ("pending_conditionals", .ofList (fun c => .text c.source) s.conditionals),
    ("deferred_conditional", .ofOption Deferred.toRecord s.deferred),
    ("action_history", .ofList Move.toRecord s.history),
    ("random_seed", Datum.value s.seed), ("shuffle_count", Datum.value s.shuffles),
    ("metadata", .object s.notes)]

def State.cards (s : State ι ν) : List (Card ι) := s.common ++ s.players.flatMap (·.cards)

def Card.alike (c d : Card ι) : Bool :=
  c.guild = d.guild && c.color = d.color && c.power = d.power && c.bonus = d.bonus

/-- Equality of contents: of all that a document tells, and of what it tells by name only. -/
def State.same (s t : State ι ν) : Bool :=
  s.toRecord.same t.toRecord && s.choices = t.choices && s.conditionals = t.conditionals &&
    s.deferred = t.deferred && (s.cards.zip t.cards).all fun (c, d) => c.alike d

end Writing

/-! Reading -/

section Reading
variable {ι ν : Type} [Label ι] [Amount ν]

def Rulebook.cardOf (rules : Rulebook ι) (id : Value) : Except Fault (Card ι) := do
  id.comparable
  match rules.card? id with
  | some c => pure c
  | none => throw (.unknownCard id)

def Zone.ofRecord (rules : Rulebook ι) (v : Value) : Except Fault (Zone ι) := do
  (← v.toItems).mapM rules.cardOf

def Zone.ofField (rules : Rulebook ι) (v : Value) (name : String) : Except Fault (Zone ι) :=
  Zone.ofRecord rules (v.fieldOr name (.list []))

def Piles.ofFields (rules : Rulebook ι) (ps : Piles ι) (fs : Fields) : Except Fault (Piles ι) :=
  fs.foldlM (fun ps f => do
    let g ← (Value.text f.1).toGuild
    pure (ps.set g (← Zone.ofRecord rules f.2))) ps

def Counter.ofField? (field : String) : Option Counter := Counter.all.find? fun c => c.field = field

/-- The name that no counter can have, since it stands for all of them. -/
def Counters.ownName : String := "self"

def Counters.ofFields (fs : Fields) : Except Fault (Counters ν) :=
  fs.foldlM (fun cs f => do
    if f.1 = ownName then throw (.counterTwice f.1)
    let some c := Counter.ofField? f.1 | throw (.unknownCounter f.1)
    pure (cs.set c (← Datum.read f.1 f.2))) none

def Counters.ofRecord (v : Value) : Except Fault (Counters ν) :=
  match v with
  | .object fs => ofFields fs
  | v => .error (.noCounters v.kind)

def Player.ofRecord (rules : Rulebook ι) (v : Value) : Except Fault (Player ι ν) := do
  let _ ← v.toFields "get"
  let piles ← Piles.ofFields rules {} (← (v.fieldOr "guild_piles" (.object [])).toFields "items")
  pure {
    piles
    id := ← Datum.read "player_id" (← v.field "player_id")
    name := ← Datum.read "name" (← v.field "name")
    hand := ← Zone.ofField rules v "hand"
    deck := ← Zone.ofField rules v "deck"
    discard := ← Zone.ofField rules v "discard"
    exile := ← Zone.ofField rules v "exile"
    counters := ← Counters.ofRecord (v.fieldOr "resources" (.object []))
    armies := ← v.readOr "armies" (.int 0)
    outposts := ← v.readItems "outposts" }

def Spot.ofRecord (v : Value) : Except Fault (Spot ι ν) := do
  pure {
    id := ← Datum.read "id" (← v.field "id")
    kind := ← (← v.field "kind").toSpotKind
    row := ← Datum.read "row" (← v.field "row")
    column := ← Datum.read "col" (← v.field "col")
    adjacent := ← v.readItems "adjacent"
    holder := ← ((v.get? "occupying_player").bind Value.given?).mapM (Datum.read "occupying_player")
    armies := ← v.readOr "army_count" (.int 0) }

def recompile {α : Type} (select : Clause → Option α) (v : Value) : Except Fault α := do
  let source ← v.toEffectText
  match select (← (Clause.compile source).mapError .overlong) with
  | some a => pure a
  | none => throw (.staleIntent source)

def Deferred.ofRecord (v : Value) : Except Fault Deferred := do
  let intent ← recompile Clause.conditional? (← v.field "intent")
  let name ← v.field "benefit"
  if intent.nested.isEmpty then pure ⟨intent, intent.benefit⟩
  else
    match name with
    | .text name => pure ⟨intent, (intent.find? name).getD intent.benefit⟩
    | name => throw (.noPart name.kind "strip")

def State.ofRecord (rules : Rulebook ι) (v : Value) : Except Fault (State ι ν) := do
  let _ ← v.toFields "get"
  let version := v.fieldOr "format_version" (.int formatVersion)
  if !version.same (.int formatVersion) then throw (.wrongVersion version)
  let players ← (← v.itemsOf "players").mapM (Player.ofRecord rules)
  let conditionals ← (← v.itemsOf "pending_conditionals").mapM (recompile Clause.conditional?)
  let stored := v.fieldOr "deferred_conditional" .null
  let deferred ← if stored.truthy then (Deferred.ofRecord stored).map some else pure none
  pure {
    players, conditionals, deferred
    id := ← Datum.read "game_id" (← v.field "game_id")
    rulebook := ← Datum.read "spec_id" (← v.field "spec_id")
    phase := ← (v.fieldOr "phase" (.text Phase.setup.name)).toPhase
    turn := ← v.readOr "turn_number" (.int 0)
    seat := ← v.readOr "current_player_idx" (.int 0)
    common := ← Zone.ofField rules v "common_deck"
    marketSize := ← v.readOr "market_size" (.int 0)
    spots := ← (← v.itemsOf "map").mapM Spot.ofRecord
    choices := ← (← v.itemsOf "pending_choices").mapM (recompile Clause.choice?)
    history := ← (← v.itemsOf "action_history").mapM Move.ofRecord
    seed := ← v.readOr "random_seed" (.int 0)
    shuffles := ← v.readOr "shuffle_count" (.int 0)
    notes := ← (v.fieldOr "metadata" (.object [])).toNotes }

end Reading
end GuildCards
