import GuildCards.Datum
import GuildCards.Effect.Compile

/-!
Cards. A card belongs to a guild and has a color, a power text for each tier and a bonus text. The
texts are compiled when the card is made, so a card with an overlong numeral cannot be made.
-/
namespace GuildCards
open Document Effect

inductive Guild where
  | military
  | culture
  | technology
  | royal
  | building
  deriving DecidableEq, Repr

inductive Color where
  | blue
  | red
  | green
  | yellow
  | purple
  deriving DecidableEq, Repr

inductive Tier where
  | first
  | middle
  | last
  deriving DecidableEq, Repr

namespace Guild

def all : List Guild := [military, culture, technology, royal, building]

def name : Guild → String
  | military => "military"
  | culture => "culture"
  | technology => "technology"
  | royal => "royal"
  | building => "building"

def ofName? (name : String) : Option Guild := all.find? fun g => g.name = name

end Guild

namespace Color

def all : List Color := [blue, red, green, yellow, purple]

def name : Color → String
  | blue => "blue"
  | red => "red"
  | green => "green"
  | yellow => "yellow"
  | purple => "purple"

def ofName? (name : String) : Option Color := all.find? fun c => c.name = name

end Color

def pileLimit : Nat := Color.all.length

namespace Tier

def all : List Tier := [first, middle, last]

def name : Tier → String
  | first => "tier1"
  | middle => "tier2-3"
  | last => "tier4-5"

def at? (place : Int) : Option Tier :=
  if place = 1 then some first
  else if 2 ≤ place ∧ place ≤ 3 then some middle
  else if 4 ≤ place ∧ place ≤ pileLimit then some last
  else none

/-- The tier at a place that a value tells; a place may lie between two. -/
def ofValue (place : Value) : Except Fault (Option Tier) := do
  let between (least most : Int) : Except Fault Bool := do
    if ← Value.stands .atMost (.int least) place then Value.stands .atMost place (.int most) else pure false
  if place.same (.int 1) then pure (some first)
  else if ← between 2 3 then pure (some middle)
  else if ← between 4 pileLimit then pure (some last)
  else pure none

end Tier

structure Tiered (α : Type) where
  first : α
  middle : α
  last : α
  deriving DecidableEq, Repr

namespace Tiered
variable {α β : Type}

def get (x : Tiered α) : Tier → α
  | .first => x.first
  | .middle => x.middle
  | .last => x.last

end Tiered

structure EffectText where
  text : String
  program : Program
  compiled : Program.compile text = .ok program
  deriving DecidableEq

def EffectText.of (text : String) : Except Number.Overlong EffectText :=
  match h : Program.compile text with
  | .ok p => .ok ⟨text, p, h⟩
  | .error e => .error e

structure Card (ι : Type) where
  id : ι
  guild : Guild
  color : Color
  power : Tiered EffectText
  bonus : EffectText
  deriving DecidableEq

namespace Document.Value

def toEffectText (v : Value) : Except Fault String :=
  match v with
  | .text s => .ok s
  | v => .error (.notText v.kind)

def toEffect (v : Value) : Except Fault EffectText := do
  (EffectText.of (← v.toEffectText)).mapError .overlong

def toGuild (v : Value) : Except Fault Guild :=
  match v.text?.bind Guild.ofName? with
  | some g => .ok g
  | none => .error (.notNamed v .guild)

def toColor (v : Value) : Except Fault Color :=
  match v.text?.bind Color.ofName? with
  | some c => .ok c
  | none => .error (.notNamed v .color)

end Document.Value

namespace Card
variable {ι : Type}

def make (id : ι) (guild : Guild) (color : Color) (power : Tiered String) (bonus : String) :
    Except Number.Overlong (Card ι) := do
  let first ← EffectText.of power.first
  let middle ← EffectText.of power.middle
  let last ← EffectText.of power.last
  let bonus ← EffectText.of bonus
  pure { id, guild, color, power := ⟨first, middle, last⟩, bonus }

def ofValues [Label ι] (id : Value) (guild : Guild) (color : Color) (power : Tiered Value)
    (bonus : Value) : Except Fault (Card ι) := do
  let first ← power.first.toEffect
  let middle ← power.middle.toEffect
  let last ← power.last.toEffect
  let bonus ← bonus.toEffect
  pure { id := ← Datum.read "id" id, guild, color, power := ⟨first, middle, last⟩, bonus }

def bonusOf (r : Value) : Value := (r.get? "bonus").getD (.text "")

/-- Makes a card from a record. All fields but the bonus must be there; that is checked first. -/
def ofRecord [Label ι] (r : Value) : Except Fault (Card ι) := do
  let id ← r.field "id"
  let guild ← r.field "guild"
  let color ← r.field "color"
  let first ← r.field "tier1"
  let middle ← r.field "tier2-3"
  let last ← r.field "tier4-5"
  ofValues id (← guild.toGuild) (← color.toColor) ⟨first, middle, last⟩ (bonusOf r)

/-- Makes a card from a record, judging guild and color before the texts are looked for. A bonus that
counts as false is none. -/
def ofPartialRecord [Label ι] (r : Value) : Except Fault (Card ι) := do
  let id ← r.field "id"
  let guild ← (← r.field "guild").toGuild
  let color ← (← r.field "color").toColor
  let first ← r.field "tier1"
  let middle ← r.field "tier2-3"
  let last ← r.field "tier4-5"
  let bonus := bonusOf r
  ofValues id guild color ⟨first, middle, last⟩ (if bonus.truthy then bonus else .text "")

end Card
end GuildCards
