import GuildCards.Document.Value
import GuildCards.Number.Numeral
import GuildCards.Text.Encoding

/-!
Lexemes of a document's text, each with its place. Reading stops at the first text that is no lexeme.
What is wrong with a quoted text is kept in its lexeme: it counts only where a text may stand.
-/
namespace GuildCards.Document
open Number

inductive Flaw where
  | byteOrderMark
  | noValue
  | noName
  | noColon
  | noComma
  | extraData
  | openText
  | controlCharacter
  | badEscape
  | badUnitEscape
  deriving DecidableEq, Repr

inductive Lexeme where
  | openList
  | closeList
  | openObject
  | closeObject
  | colon
  | comma
  | text (s : String)
  | scalar (v : Value)
  | overlong (cause : Overlong)
  | badText (flaw : Flaw) (place : Nat)
  | junk

structure Placed where
  place : Nat
  lexeme : Lexeme

def isSpace (c : Char) : Bool := c = ' ' || c = '\t' || c = '\n' || c = '\r'

def hexValue? (c : Char) : Option Nat :=
  if '0' ≤ c ∧ c ≤ '9' then some (c.toNat - 48)
  else if 'a' ≤ c ∧ c ≤ 'f' then some (c.toNat - 87)
  else if 'A' ≤ c ∧ c ≤ 'F' then some (c.toNat - 55)
  else none

def unitOf? (a b c d : Char) : Option Nat := do
  let a ← hexValue? a
  let b ← hexValue? b
  let c ← hexValue? c
  let d ← hexValue? d
  pure (((a * 16 + b) * 16 + c) * 16 + d)

def escapeOf? : Char → Option Char
  | '"' => some '"'
  | '\\' => some '\\'
  | '/' => some '/'
  | 'b' => some '\x08'
  | 'f' => some '\x0c'
  | 'n' => some '\n'
  | 'r' => some '\r'
  | 't' => some '\t'
  | _ => none

/-- Reads the rest of a quoted text that began at `start`: its characters and the place after it, or
the flaw and its place. -/
def readText (start pos : Nat) (acc : List Char) : List Char → (Flaw × Nat) ⊕ (List Char × Nat)
  | [] => .inl (.openText, start)
  | '"' :: _ => .inr (acc.reverse, pos + 1)
  | '\\' :: 'u' :: a :: b :: c :: d :: '\\' :: 'u' :: e :: f :: g :: h :: q :: r =>
    match unitOf? a b c d with
    | none => .inl (.badUnitEscape, pos + 1)
    | some m =>
      if Text.isFirstHalf m then
        match unitOf? e f g h with
        | none => .inl (.badUnitEscape, pos + 7)
        | some n =>
          if Text.isSecondHalf n then
            readText start (pos + 12) (Text.ofPair m n :: acc) (q :: r)
          else readText start (pos + 6) (Text.ofUnit m :: acc) ('\\' :: 'u' :: e :: f :: g :: h :: q :: r)
      else readText start (pos + 6) (Text.ofUnit m :: acc) ('\\' :: 'u' :: e :: f :: g :: h :: q :: r)
  | '\\' :: 'u' :: a :: b :: c :: d :: q :: r =>
    match unitOf? a b c d with
    | none => .inl (.badUnitEscape, pos + 1)
    | some m => readText start (pos + 6) (Text.ofUnit m :: acc) (q :: r)
  | '\\' :: 'u' :: _ => .inl (.badUnitEscape, pos + 1)
  | ['\\'] => .inl (.openText, start)
  | '\\' :: c :: r =>
    match escapeOf? c with
    | some c => readText start (pos + 2) (c :: acc) r
    | none => .inl (.badEscape, pos)
  | c :: r =>
    if c.toNat < 0x20 then .inl (.controlCharacter, pos) else readText start (pos + 1) (c :: acc) r
termination_by s => s.length

/-- The fraction at the front of a text: its digits, none if a point is not followed by any. -/
def fraction? : List Char → Option (List Char)
  | '.' :: r =>
    match r.takeWhile Char.isDigit with
    | [] => none
    | ds => some ds
  | _ => none

def exponent? : List Char → Option (Int × Nat)
  | e :: r =>
    if e = 'e' ∨ e = 'E' then
      let (negative, signs, r) := match r with
        | '-' :: r => (true, 1, r)
        | '+' :: r => (false, 1, r)
        | r => (false, 0, r)
      match r.takeWhile Char.isDigit with
      | [] => none
      | ds => some (if negative then -(decimal ds : Int) else decimal ds, 1 + signs + ds.length)
    else none
  | [] => none

/-- The digits before any point at the front of a text; a zero stands alone. -/
def wholePart : List Char → List Char
  | '0' :: _ => ['0']
  | s => s.takeWhile Char.isDigit

/-- The number at the front of a text without its sign, and how many characters it takes. -/
def readUnsigned? (negative : Bool) (s : List Char) : Option (Lexeme × Nat) :=
  let whole := wholePart s
  if whole = [] then none
  else
    let s := s.drop whole.length
    let places := (fraction? s).getD []
    let point := if places = [] then 0 else 1 + places.length
    let length := whole.length + point
    match exponent? (s.drop point) with
    | some (e, n) =>
      let x := Real64.ofDecimal negative (decimal (whole ++ places)) (e - places.length)
      some (.scalar (.real x), length + n)
    | none =>
      if places ≠ [] then
        let x := Real64.ofDecimal negative (decimal (whole ++ places)) (-places.length)
        some (.scalar (.real x), length)
      else
        match natural whole with
        | .ok n => some (.scalar (.int (if negative then -(n : Int) else n)), length)
        | .error o => some (.overlong o, length)

def readNumber? : List Char → Option (Lexeme × Nat)
  | '-' :: s => (readUnsigned? true s).map fun (x, n) => (x, n + 1)
  | s => readUnsigned? false s

def scalarNames : List (List Char × Value) :=
  [("null".toList, .null), ("true".toList, .bool true), ("false".toList, .bool false),
   ("NaN".toList, .real Real64.nan), ("Infinity".toList, .real (Real64.infinity false)),
   ("-Infinity".toList, .real (Real64.infinity true))]

def scalarName? (s : List Char) : Option (Lexeme × Nat) :=
  (scalarNames.find? fun n => n.1.isPrefixOf s).map fun n => (.scalar n.2, n.1.length)

/-- The lexeme that begins with `c` at `pos`, and how many of the characters after `c` it takes. -/
def firstLexeme (pos : Nat) (c : Char) (r : List Char) : Lexeme × Nat :=
  match c with
  | '[' => (.openList, 0)
  | ']' => (.closeList, 0)
  | '\x7b' => (.openObject, 0)
  | '\x7d' => (.closeObject, 0)
  | ':' => (.colon, 0)
  | ',' => (.comma, 0)
  | '"' =>
    match readText pos (pos + 1) [] r with
    | .inl (flaw, place) => (.badText flaw place, 0)
    | .inr (cs, stop) => (.text (String.ofList cs), stop - (pos + 1))
  | c =>
    match (scalarName? (c :: r)).orElse fun _ => readNumber? (c :: r) with
    | some (x, n) => (x, n - 1)
    | none => (.junk, 0)

def Lexeme.isLast : Lexeme → Bool
  | .badText .. | .junk | .overlong _ => true
  | _ => false

/-- The lexemes of a text whose first character stands at `pos`, and the place where they end. -/
def lexemes (pos : Nat) : List Char → List Placed × Nat
  | [] => ([], pos)
  | c :: r =>
    if isSpace c then lexemes (pos + 1) r
    else
      let x := firstLexeme pos c r
      if x.1.isLast then ([⟨pos, x.1⟩], pos)
      else
        let (xs, stop) := lexemes (pos + (x.2 + 1)) (r.drop x.2)
        (⟨pos, x.1⟩ :: xs, stop)
termination_by s => s.length

end GuildCards.Document
