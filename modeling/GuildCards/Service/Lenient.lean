import GuildCards.Document.Lexeme
import GuildCards.Service.Issue
import GuildCards.Text.Blank
import GuildCards.Text.Half

/-!
Lenient reading of the values in a request. A whole number may come as an integral real, a truth value
or a text; a truth value as zero, one or a word; a time as any number. Texts are read after some
cleaning, and only ASCII digits count.
-/
namespace GuildCards.Service
open Document Number

/-- Reads a text as something else; it must not hold halves of characters. -/
def ofText {α : Type} (f : List Char → Checked α) (s : String) : Checked α :=
  if (Text.halves? s.toList).isSome then Checked.issue .brokenText else f s.toList

def signed : List Char → Bool × List Char
  | '-' :: r => (true, r)
  | r => (false, r)

/-- Do digits at the front, the first of them no zero, go on for too long? -/
def beginsOverlong (s : List Char) : Bool :=
  let digits := (signed s).2.takeWhile Char.isDigit
  digits.head? ≠ some '0' && digitLimit < digits.length

def wholeOfDigits? (s : List Char) : Option (Checked Int) :=
  let (negative, digits) := signed s
  if digits = [] ∨ !digits.all Char.isDigit then none
  else
    let digits := digits.dropWhile (· = '0')
    if digitLimit < digits.length then some (Checked.issue .oversized)
    else some (.ok (if negative then -(decimal digits : Int) else decimal digits))

/-- Drops zeros and underscores after a first zero. Digits or a sign may follow; of what is dropped the
last character stays before a point and at the end. -/
def afterZero (last : Char) : List Char → Option (List Char)
  | [] => some [last]
  | c :: r =>
    if c = '0' ∨ c = '_' then afterZero c r
    else if c.isDigit ∨ c = '-' then some (c :: r)
    else if c = '.' then some (last :: c :: r)
    else none

def dropLeadingZeros : List Char → Option (List Char)
  | '0' :: r => afterZero '0' r
  | c :: r => if c.isDigit ∨ c = '-' then some (c :: r) else none
  | [] => none

def dropZeroFraction (s : List Char) : List Char :=
  match s.dropWhile (· ≠ '.') with
  | _ :: zeros => if zeros ≠ [] ∧ zeros.all (· = '0') then s.takeWhile (· ≠ '.') else s
  | [] => s

def hasDoubleUnderscore : List Char → Bool
  | '_' :: '_' :: _ => true
  | _ :: r => hasDoubleUnderscore r
  | [] => false

/-- Drops underscores that stand between other characters, one at a time. -/
def dropUnderscores (s : List Char) : List Char :=
  if s.head? = some '_' ∨ s.getLast? = some '_' ∨ hasDoubleUnderscore s then s
  else s.filter (· ≠ '_')

/-- Cleans the text of a whole number: blanks around it, a plus sign, leading zeros, a zero fraction
and underscores go. -/
def cleanWhole? (s : List Char) : Option (List Char) := do
  let s ← match Text.stripBy isNumeralBlank s with
    | '+' :: '-' :: _ => none
    | '+' :: r => some r
    | r => some r
  pure (dropUnderscores (dropZeroFraction (← dropLeadingZeros s)))

def wholeOfText (s : List Char) : Checked Int :=
  if beginsOverlong s then Checked.issue .oversized
  else ((cleanWhole? s).bind wholeOfDigits?).getD (Checked.issue .malformedWhole)

/-- One more than the greatest signed word of 64 bits. -/
def wordLimit : Int := 0x8000000000000000

def isWord (n : Int) : Bool := -wordLimit ≤ n && n < wordLimit

def whole : Value → Checked Int
  | .int n => .ok n
  | .bool b => .ok (if b then 1 else 0)
  | .real x =>
    if !x.isFinite then Checked.issue .notFinite
    else
      match x.toInt? with
      | some n => if isWord n && n ≠ -wordLimit then .ok n else Checked.issue .oversized
      | none => Checked.issue .hasFraction
  | .text s => ofText wholeOfText s
  | _ => Checked.issue .notWhole

def truthOfNumber (n : Int) : Checked Bool :=
  if n = 0 then .ok false else if n = 1 then .ok true else Checked.issue .malformedTruth

def yesWords : List String := ["1", "t", "y", "on", "yes", "true"]

def noWords : List String := ["0", "f", "n", "no", "off", "false"]

def truthOfText (s : List Char) : Checked Bool :=
  let word := String.ofList (s.map Char.toLower)
  if word ∈ yesWords then .ok true
  else if word ∈ noWords then .ok false
  else Checked.issue .malformedTruth

def truth : Value → Checked Bool
  | .bool b => .ok b
  | .int n => if isWord n then truthOfNumber n else Checked.issue .notTruth
  | .real x =>
    match x.toInt? with
    | some n => if isWord n && n ≠ -wordLimit then truthOfNumber n else Checked.issue .notTruth
    | none => Checked.issue .notTruth
  | .text s => ofText truthOfText s
  | _ => Checked.issue .notTruth

def text : Value → Checked String
  | .text s => .ok s
  | _ => Checked.issue .notText

def powerOfTen? : List Char → Option Int
  | [] => some 0
  | e :: r =>
    let (negative, digits) := match r with
      | '+' :: r => (false, r)
      | r => signed r
    if (e = 'e' ∨ e = 'E') ∧ digits ≠ [] ∧ digits.all Char.isDigit then
      some (if negative then -(decimal digits : Int) else decimal digits)
    else none

def realOfDigits? (negative : Bool) (s : List Char) : Option Real64 := do
  let whole := s.takeWhile Char.isDigit
  let (places, rest) := match s.dropWhile Char.isDigit with
    | '.' :: r => (r.takeWhile Char.isDigit, r.dropWhile Char.isDigit)
    | r => ([], r)
  if whole = [] ∧ places = [] then none
  let exp ← powerOfTen? rest
  pure (Real64.ofDecimal negative (decimal (whole ++ places)) (exp - places.length))

def infinityWords : List String := ["inf", "infinity"]

def realOfWriting? (s : List Char) : Option Real64 :=
  let (negative, s) := match s with
    | '+' :: r => (false, r)
    | r => signed r
  let word := String.ofList (s.map Char.toLower)
  if word ∈ infinityWords then some (.infinity negative)
  else if word = "nan" then some .nan
  else realOfDigits? negative s

/-- Reads a real; with underscores, it may have no blanks around it. -/
def realOfText (s : List Char) : Checked Real64 :=
  match (realOfWriting? (Text.stripBy isNumeralBlank s)).orElse
      fun _ => realOfWriting? (dropUnderscores s) with
  | some x => .ok x
  | none => Checked.issue .malformedReal

def time : Value → Checked Real64
  | .real x => .ok x
  | .int n =>
    let x := Real64.ofInt n
    if x.isFinite then .ok x else Checked.issue .notReal
  | .bool b => .ok (Real64.ofInt (if b then 1 else 0))
  | .text s => ofText realOfText s
  | _ => Checked.issue .notReal

end GuildCards.Service
