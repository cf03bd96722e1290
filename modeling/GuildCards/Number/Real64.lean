/-!
Binary floating-point numbers of 64 bits, kept as their bits. Reading a decimal rounds to the nearest
such number, a tie going to the even one; all arithmetic is on naturals and exact.
-/
namespace GuildCards.Number

/-- The power `b ^ e`; one for a negative exponent. -/
def power (b : Nat) (e : Int) : Nat := Nat.pow b e.toNat

structure Real64 where
  bits : UInt64
  deriving DecidableEq, Repr, Inhabited

namespace Real64

def negative (x : Real64) : Bool := x.bits >>> 63 == 1

def exponentField (x : Real64) : Nat := ((x.bits >>> 52) &&& 0x7FF).toNat

def fraction (x : Real64) : Nat := (x.bits &&& 0xFFFFFFFFFFFFF).toNat

def isFinite (x : Real64) : Bool := x.exponentField < 0x7FF

def isNaN (x : Real64) : Bool := !x.isFinite && x.fraction != 0

/-- The weight of the exponent field, which is also that of the leading bit it stands for. -/
def fieldUnit : Nat := 0x10000000000000

/-- The absolute value of a finite number is `x.significand * 2 ^ x.exponent`. -/
def significand (x : Real64) : Nat :=
  if x.exponentField = 0 then x.fraction else fieldUnit + x.fraction

def exponent (x : Real64) : Int :=
  if x.exponentField = 0 then -1074 else (x.exponentField : Int) - 1075

def withSign (negative : Bool) (magnitude : Nat) : Real64 :=
  ⟨UInt64.ofNat (magnitude + if negative then 0x8000000000000000 else 0)⟩

def infinity (negative : Bool) : Real64 := withSign negative (0x7FF * fieldUnit)

def nan : Real64 := ⟨0x7FF8000000000000⟩

/-- `num / den` to the nearest whole number, a tie going to the even one. -/
def roundDiv (num den : Nat) : Nat :=
  let down := num / den
  let rest := 2 * (num % den)
  if rest < den ∨ (rest = den ∧ down % 2 = 0) then down else down + 1

/-- The greatest `e` with `2 ^ e * den ≤ num`, for positive `num` and `den`. -/
def binaryOrder (num den : Nat) : Int :=
  let e := (num.log2 : Int) - den.log2
  if den * power 2 e ≤ num * power 2 (-e) then e else e - 1

def ofRatio (negative : Bool) (num den : Nat) : Real64 :=
  if num = 0 then withSign negative 0
  else
    let q := max (binaryOrder num den - 52) (-1074)
    let m := roundDiv (num * power 2 (-q)) (den * power 2 q)
    -- a significand that rounds up to the next power of two carries into the exponent by itself
    let magnitude := if m < fieldUnit then m else (q + 1074).toNat * fieldUnit + m
    if magnitude < 0x7FF * fieldUnit then withSign negative magnitude else infinity negative

/-- The number nearest to `digits * 10 ^ exp`. Exponents far outside the range are decided at once. -/
def ofDecimal (negative : Bool) (digits : Nat) (exp : Int) : Real64 :=
  let order := (digits.log2 : Int) / 4 + exp
  if digits = 0 then withSign negative 0
  else if 400 < order then infinity negative
  else if (digits.log2 : Int) + 400 < -exp then withSign negative 0
  else ofRatio negative (digits * power 10 exp) (power 10 (-exp))

def ofNat (n : Nat) : Real64 := ofRatio false n 1

def ofInt (n : Int) : Real64 := ofRatio (n < 0) n.natAbs 1

def trunc? (x : Real64) : Option Int :=
  if x.isFinite then
    let n := x.significand * power 2 x.exponent / power 2 (-x.exponent)
    some (if x.negative then -(n : Int) else n)
  else none

def toInt? (x : Real64) : Option Int :=
  match x.trunc? with
  | some n =>
    if x.significand * power 2 x.exponent = n.natAbs * power 2 (-x.exponent) then some n else none
  | none => none

/-- Equality of values: zero has two forms, and what is not a number equals nothing. -/
def same (x y : Real64) : Bool :=
  !x.isNaN && (x == y || (x.toInt? == some 0 && y.toInt? == some 0))

end Real64
end GuildCards.Number
