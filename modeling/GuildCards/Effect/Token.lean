import GuildCards.Text.Blank
import GuildCards.Text.DecimalDigit

/-!
Tokens of effect text. Blanks separate tokens and belong to none; every other character is in exactly
one token, and a token knows where in the text it begins.
-/
namespace GuildCards.Effect
open Text

inductive TokenKind where
  | arrow
  | number
  | word
  | period
  | comma
  | other
  deriving DecidableEq, Repr

structure Token where
  kind : TokenKind
  text : List Char
  start : Nat
  deriving DecidableEq, Repr

def Token.stop (t : Token) : Nat := t.start + t.text.length

def isLetter (c : Char) : Bool := ('a' ≤ c && c ≤ 'z') || ('A' ≤ c && c ≤ 'Z')

/-- An apostrophe or a hyphen joins two letters into one word. -/
def isJoiner (c : Char) : Bool := c = '\'' || c = '-'

def wordRun : List Char → Nat
  | [] => 0
  | [c] => if isLetter c then 1 else 0
  | c :: d :: r =>
    if isLetter c then wordRun (d :: r) + 1
    else if isJoiner c && isLetter d then wordRun r + 2
    else 0

def runOf (p : Char → Bool) (s : List Char) : Nat := (s.takeWhile p).length

/-- The kind of the lexeme that begins with `c`, none for blanks, and how many of the characters after
`c` belong to it. -/
def lexeme (c : Char) (r : List Char) : Option TokenKind × Nat :=
  if c = '→' then (some .arrow, 0)
  else if c = '-' && r.head? = some '>' then (some .arrow, 1)
  else if isDigit c then (some .number, runOf isDigit r)
  else if isLetter c then (some .word, wordRun r)
  else if c = '.' then (some .period, 0)
  else if c = ',' then (some .comma, 0)
  else if isBlank c then (none, runOf isBlank r)
  else (some .other, 0)

def scanFrom (pos : Nat) : List Char → List Token
  | [] => []
  | c :: r =>
    let n := (lexeme c r).2
    let rest := scanFrom (pos + (n + 1)) (r.drop n)
    match (lexeme c r).1 with
    | none => rest
    | some kind => ⟨kind, c :: r.take n, pos⟩ :: rest
termination_by s => s.length

def scan (s : List Char) : List Token := scanFrom 0 s

namespace Token

/-- The word that stands in a token, without regard to case; words are ASCII. -/
def isWord (w : String) (t : Token) : Bool :=
  t.kind = .word && t.text.map Char.toLower = w.toList

def isNumber (t : Token) : Bool := t.kind = .number

def isPeriod (t : Token) : Bool := t.kind = .period

def isArrow (t : Token) : Bool := t.kind = .arrow

end Token
end GuildCards.Effect
