import GuildCards.Number.Real64

/-!
Decimal text of a binary floating-point number: the fewest digits that identify it, and of those the
nearest. Numbers from 10^-4 up to 10^16 are written positionally, others with a signed exponent.
-/
namespace GuildCards.Number

structure Decimal where
  digits : Nat
  exp : Int
  deriving DecidableEq, Repr

namespace Decimal

/-- Compares `a * 10 ^ i` with `n * 2 ^ j`, exactly. -/
def compareScaled (a : Nat) (i : Int) (n : Nat) (j : Int) : Ordering :=
  compare (a * power 10 i * power 2 (-j)) (n * power 2 j * power 10 (-i))

/-- Does `d` lie among the numbers that round to the absolute value of `x`? -/
def identifies (d : Decimal) (x : Real64) : Bool :=
  let m := x.significand
  let below := if x.fraction = 0 ∧ 1 < x.exponentField then 4 * m - 1 else 4 * m - 2
  let ends := m % 2 == 0
  let low := compareScaled d.digits d.exp below (x.exponent - 2)
  let high := compareScaled d.digits d.exp (4 * m + 2) (x.exponent - 2)
  (low == .gt || (ends && low == .eq)) && (high == .lt || (ends && high == .eq))

/-- The least `k` such that the absolute value of `x` lies below `10 ^ k`, for `x` not zero. -/
def order (x : Real64) : Int :=
  let guess := ((x.significand.log2 : Int) + x.exponent) * 30103 / 100000 + 1
  if compareScaled 1 guess x.significand x.exponent != .gt then guess + 1
  else if compareScaled 1 (guess - 1) x.significand x.exponent == .gt then guess - 1
  else guess

/-- The greatest decimal with last place `10 ^ exp` that is not above the absolute value of `x`. -/
def floorOn (exp : Int) (x : Real64) : Decimal :=
  ⟨x.significand * power 2 x.exponent * power 10 (-exp) / (power 2 (-x.exponent) * power 10 exp), exp⟩

/-- The nearer of two neighbours that identify `x`; of two equally near ones, the even one. -/
def onGrid? (exp : Int) (x : Real64) : Option Decimal :=
  let d := floorOn exp x
  let u : Decimal := ⟨d.digits + 1, exp⟩
  match d.identifies x, u.identifies x with
  | false, false => none
  | true, false => some d
  | false, true => some u
  | true, true =>
    match compareScaled (2 * d.digits + 1) exp (2 * x.significand) x.exponent with
    | .gt => some d
    | .lt => some u
    | .eq => some (if d.digits % 2 = 0 then d else u)

def shortest (x : Real64) : Decimal :=
  let k := order x
  ((List.range 17).findSome? fun (n : Nat) => onGrid? (k - (n + 1)) x).getD (floorOn (k - 17) x)

def stripZeros (digits : List Char) : List Char :=
  match (digits.reverse.dropWhile (· = '0')).reverse with
  | [] => ['0']
  | ds => ds

/-- Positional or with an exponent, by the place of the leading digit. -/
def layout (d : Decimal) : List Char :=
  let all := Nat.toDigits 10 d.digits
  let ds := stripZeros all
  let lead := d.exp + all.length - 1
  if -4 ≤ lead ∧ lead < 16 then
    if lead < 0 then '0' :: '.' :: List.replicate (-lead - 1).toNat '0' ++ ds
    else
      let n := lead.toNat + 1
      let whole := ds.take n ++ List.replicate (n - ds.length) '0'
      whole ++ '.' :: (if ds.length ≤ n then ['0'] else ds.drop n)
  else
    let mark := 'e' :: (if lead < 0 then '-' else '+') ::
      (if lead.natAbs < 10 then ['0'] else []) ++ Nat.toDigits 10 lead.natAbs
    match ds with
    | [c] => c :: mark
    | c :: cs => c :: '.' :: cs ++ mark
    | [] => mark

end Decimal

def Real64.text (x : Real64) : String :=
  let sign := if x.negative then ['-'] else []
  if x.isNaN then "nan"
  else if !x.isFinite then String.ofList (sign ++ ['i', 'n', 'f'])
  else if x.significand = 0 then String.ofList (sign ++ ['0', '.', '0'])
  else String.ofList (sign ++ (Decimal.shortest x).layout)

end GuildCards.Number
