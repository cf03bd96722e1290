import GuildCards.Card

/-!
Zones and piles: ordered cards, first the top of a zone and the base of a pile. A negative count
counts from the other end. Removing a card removes every card with its id.
-/
namespace GuildCards
open Document

/-- The first `n` items; a negative `n` leaves out that many at the end. -/
def firstOf {α : Type} (n : Int) (as : List α) : List α :=
  if 0 ≤ n then as.take n.toNat else as.take (as.length - n.natAbs)

def restOf {α : Type} (n : Int) (as : List α) : List α :=
  if 0 ≤ n then as.drop n.toNat else as.drop (as.length - n.natAbs)

theorem firstOf_append_restOf {α : Type} (n : Int) (as : List α) :
    firstOf n as ++ restOf n as = as := by
  unfold firstOf restOf
  split <;> exact List.take_append_drop _ _

abbrev Zone (ι : Type) := List (Card ι)

namespace Zone
variable {ι : Type} [Label ι]

def named? (z : Zone ι) (id : Value) : Option (Card ι) := List.find? (fun c => Datum.is c.id id) z

def find? (z : Zone ι) (id : ι) : Option (Card ι) := named? z (Datum.value id)

def remove (z : Zone ι) (card : Card ι) : Zone ι := z.filter fun c => !Datum.same c.id card.id

def draw {ι : Type} (n : Int) (z : Zone ι) : Zone ι × Zone ι := (firstOf n z, restOf n z)

def ids {ι : Type} (z : Zone ι) : List ι := z.map (·.id)

end Zone

abbrev Pile (ι : Type) := List (Card ι)

namespace Pile
variable {ι : Type}

def hasColor (p : Pile ι) (c : Color) : Bool := p.any fun card => card.color = c

def admits (p : Pile ι) (c : Color) : Bool := decide (p.length < pileLimit) && !p.hasColor c

def base (p : Pile ι) : Pile ι := p.take 1

def aboveBase (p : Pile ι) : List (Card ι) := p.drop 1

end Pile
end GuildCards
