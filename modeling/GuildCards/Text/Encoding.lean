import GuildCards.Text.Half

/-!
Encodings of a document's text. A document begins with two ASCII characters, so the zero bytes among
the first four tell how many bytes a unit has and which of them comes first.
-/
namespace GuildCards.Text

structure Encoding where
  /-- the bytes of a unit: one, two or four -/
  width : Nat
  /-- does the most significant byte come first? -/
  bigEndian : Bool
  deriving DecidableEq, Repr

namespace Encoding

def ofBytes : List UInt8 → Encoding
  | a :: b :: c :: d :: _ =>
    if a = 0 then ⟨if b = 0 then 4 else 2, true⟩
    else if b = 0 then ⟨if c = 0 ∧ d = 0 then 4 else 2, false⟩
    else ⟨1, false⟩
  | [a, b] => if a = 0 then ⟨2, true⟩ else if b = 0 then ⟨2, false⟩ else ⟨1, false⟩
  | _ => ⟨1, false⟩

def unitOf (e : Encoding) (bytes : List UInt8) : Nat :=
  (if e.bigEndian then bytes else bytes.reverse).foldl (fun n b => 256 * n + b.toNat) 0

def units? (e : Encoding) (bytes : List UInt8) : Option (List Nat) :=
  if bytes.length % e.width = 0 then
    some ((List.range (bytes.length / e.width)).map fun i =>
      e.unitOf ((bytes.drop (i * e.width)).take e.width))
  else none

end Encoding

def isFirstHalf (unit : Nat) : Bool := firstHalf ≤ unit && unit < 0xDC00

def isSecondHalf (unit : Nat) : Bool := 0xDC00 ≤ unit && unit < afterHalves

def ofPair (first second : Nat) : Char :=
  Char.ofNat (0x10000 + (first - firstHalf) * 0x400 + (second - 0xDC00))

/-- The characters of units of 16 bits; a half without its other half is kept. -/
def ofUnits : List Nat → List Char
  | m :: n :: r =>
    if isFirstHalf m && isSecondHalf n then ofPair m n :: ofUnits r else ofUnit m :: ofUnits (n :: r)
  | [m] => [ofUnit m]
  | [] => []

def ofNumbers? (units : List Nat) : Option (List Char) :=
  if units.all (· < 0x110000) then some (units.map ofUnit) else none

def decode? (bytes : List UInt8) : Option (List Char) :=
  let e := Encoding.ofBytes bytes
  match e.width with
  | 1 => (String.fromUTF8? ⟨bytes.toArray⟩).map String.toList
  | 2 => (e.units? bytes).map ofUnits
  | _ => (e.units? bytes).bind ofNumbers?

/-- The text that a sent text is once its bytes are judged; a byte order mark is passed over. -/
def redecode? (s : String) : Option (List Char) :=
  match s.toList with
  | '\uFEFF' :: r => some r
  | _ => decode? s.toUTF8.toList

end GuildCards.Text
