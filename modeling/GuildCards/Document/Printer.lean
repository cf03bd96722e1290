import GuildCards.Document.Value
import GuildCards.Number.Shortest
import GuildCards.Text.Half

/-!
Writing a document as text: on one line, with each item on its own line and indented, or without a
blank. Only ASCII is written, and other characters become escapes of their 16-bit units; without blanks
they are written as they are.
-/
namespace GuildCards.Document
open Number

def unitEscape (n : Nat) : List Char :=
  '\\' :: 'u' :: [n / 0x1000, n / 0x100 % 16, n / 0x10 % 16, n % 16].map Nat.digitChar

def escapedChar (c : Char) : List Char :=
  match c with
  | '"' => ['\\', '"']
  | '\\' => ['\\', '\\']
  | '\n' => ['\\', 'n']
  | '\r' => ['\\', 'r']
  | '\t' => ['\\', 't']
  | '\x08' => ['\\', 'b']
  | '\x0c' => ['\\', 'f']
  | c =>
    let n := c.toNat
    if 0x20 ≤ n ∧ n < 0x7F then [c]
    else if n < 0x10000 then unitEscape n
    else
      match Text.half? c with
      | some unit => unitEscape unit
      | none =>
        unitEscape (0xD800 + (n - 0x10000) / 0x400) ++ unitEscape (0xDC00 + (n - 0x10000) % 0x400)

def plainChar (c : Char) : List Char := if 0x7F ≤ c.toNat then [c] else escapedChar c

def printReal (x : Real64) : String :=
  if x.isNaN then "NaN"
  else if x.isFinite then x.text
  else if x.negative then "-Infinity" else "Infinity"

inductive Spacing where
  | tight
  | oneLine
  | manyLines
  deriving DecidableEq, Repr

structure Layout where
  spacing : Spacing
  /-- how many containers there are around -/
  depth : Nat := 0

namespace Layout

def tight : Layout := ⟨.tight, 0⟩

def compact : Layout := ⟨.oneLine, 0⟩

def indented : Layout := ⟨.manyLines, 0⟩

def deeper (l : Layout) : Layout := { l with depth := l.depth + 1 }

def newline (l : Layout) : String :=
  match l.spacing with
  | .manyLines => "\n" ++ String.ofList (List.replicate (2 * l.depth) ' ')
  | _ => ""

def separator (l : Layout) : String :=
  match l.spacing with
  | .tight => ","
  | .oneLine => ", "
  | .manyLines => "," ++ l.newline

def colon (l : Layout) : String := if l.spacing = .tight then ":" else ": "

def text (l : Layout) (s : String) : String :=
  let written := if l.spacing = .tight then plainChar else escapedChar
  String.ofList ('"' :: s.toList.flatMap written ++ ['"'])

end Layout

def enclose (l : Layout) (opening closing : String) (items : List String) : String :=
  if items.isEmpty then opening ++ closing
  else opening ++ l.deeper.newline ++ l.deeper.separator.intercalate items ++ l.newline ++ closing

namespace Value

mutual

def print (l : Layout) : Value → String
  | .null => "null"
  | .bool b => if b then "true" else "false"
  | .int n => toString n
  | .real x => printReal x
  | .text s => l.text s
  | .list vs => enclose l "[" "]" (printItems l.deeper vs)
  | .object fs => enclose l "\x7b" "\x7d" (printFields l.deeper fs)

def printItems (l : Layout) : List Value → List String
  | [] => []
  | v :: vs => v.print l :: printItems l vs

def printFields (l : Layout) : List (String × Value) → List String
  | [] => []
  | (k, v) :: fs => (l.text k ++ l.colon ++ v.print l) :: printFields l fs

end

end Value
end GuildCards.Document
