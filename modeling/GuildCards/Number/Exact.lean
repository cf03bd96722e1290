import GuildCards.Number.Real64

/-!
Exact numbers: whole multiples of a power of two, which every finite number of 64 bits is. They are
compared and added without loss; what is added is rounded once, at the end.
-/
namespace GuildCards.Number

/-- The number `units * 2 ^ exp`. -/
structure Exact where
  units : Int
  exp : Int
  deriving DecidableEq, Repr

namespace Exact

def ofInt (n : Int) : Exact := ⟨n, 0⟩

def unitsAt (x : Exact) (exp : Int) : Int := x.units * (power 2 (x.exp - exp) : Int)

def compare (x y : Exact) : Ordering :=
  let e := min x.exp y.exp
  Ord.compare (x.unitsAt e) (y.unitsAt e)

def add (x y : Exact) : Exact :=
  let e := min x.exp y.exp
  ⟨x.unitsAt e + y.unitsAt e, e⟩

def toReal (x : Exact) (negativeZero : Bool) : Real64 :=
  Real64.ofRatio (if x.units = 0 then negativeZero else x.units < 0)
    (x.units.natAbs * power 2 x.exp) (power 2 (-x.exp))

end Exact

namespace Real64

def exact (x : Real64) : Exact :=
  ⟨if x.negative then -(x.significand : Int) else x.significand, x.exponent⟩

def compareTo? (x : Real64) (y : Exact) : Option Ordering :=
  if x.isNaN then none
  else if x.isFinite then some (x.exact.compare y)
  else some (if x.negative then .lt else .gt)

def compare? (x y : Real64) : Option Ordering :=
  if y.isNaN then none
  else if y.isFinite then x.compareTo? y.exact
  else if x.isNaN then none
  else if x = y then some .eq
  else some (if y.negative then .gt else .lt)

def add (x y : Real64) : Real64 :=
  if x.isFinite then (x.exact.add y.exact).toReal (x.negative && y.negative) else x

end Real64
end GuildCards.Number
