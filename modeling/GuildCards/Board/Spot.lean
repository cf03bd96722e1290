import GuildCards.Board.Grid
import GuildCards.Datum

/-!
Spots of the map: as a rulebook lists them, and as they stand in a game, with their neighbours and
the army that holds them.
-/
namespace GuildCards
open Document

inductive SpotKind where
  | normal
  | starting
  | outpost
  deriving DecidableEq, Repr

namespace SpotKind

def all : List SpotKind := [normal, starting, outpost]

def name : SpotKind → String
  | normal => "normal"
  | starting => "starting"
  | outpost => "outpost"

def ofName? (name : String) : Option SpotKind := all.find? fun k => k.name = name

end SpotKind

structure Site where
  id : Int
  kind : SpotKind
  row : Int
  column : Int
  deriving DecidableEq, Repr

structure Spot (ι ν : Type) where
  id : ν
  kind : SpotKind
  row : ν
  column : ν
  adjacent : List ν
  holder : Option ι := none
  armies : ν
  deriving DecidableEq, Repr

namespace Spot
variable {ι ν : Type} [Label ι]

def holderValue (x : Spot ι ν) : Value := .ofOption Datum.value x.holder

def isHeldBy (x : Spot ι ν) (player : Value) : Bool := x.holderValue.same player

def isHeldAgainst (x : Spot ι ν) (player : Value) : Bool := x.holder.any fun h => !Datum.is h player

@[simp] theorem isHeldBy_text (x : Spot String ν) (player : String) :
    x.isHeldBy (.text player) = decide (x.holder = some player) := by
  rw [Bool.eq_iff_iff]
  cases h : x.holder <;>
    simp [isHeldBy, holderValue, h, Value.ofOption, Datum.value, Value.same, Value.isNaN, Value.alike,
      Value.number?]

end Spot

def Document.Value.toSpotKind (v : Value) : Except Fault SpotKind :=
  match v.text?.bind SpotKind.ofName? with
  | some k => .ok k
  | none => .error (.notNamed v .spotKind)

def Site.ofRecord (r : Value) : Except Fault Site := do
  let id ← (← r.field "id").toInteger
  let kind ← (← r.field "kind").toSpotKind
  let row ← (← r.field "row").toInteger
  let column ← (← r.field "col").toInteger
  pure ⟨id, kind, row, column⟩

def emptyMap {ι ν : Type} [Amount ν] (g : Grid) (sites : List Site) : List (Spot ι ν) :=
  (sites.mergeSort fun a b => a.id ≤ b.id).map fun s =>
    { id := Amount.ofInt s.id, kind := s.kind, row := Amount.ofInt s.row
      column := Amount.ofInt s.column, adjacent := (g.adjacent s.id).map Amount.ofInt
      armies := Amount.ofInt 0 }

end GuildCards
