import GuildCards.Text.CaseTable
import GuildCards.Text.Ranges

/-!
Lower case of a whole text. One character depends on its neighbours: a capital sigma becomes the
final form after a letter that no letter follows. One character becomes two: the dotted capital I.
-/
namespace GuildCards.Text

def lowerCode : List (Nat × Nat × Nat × Int) → Nat → Nat
  | [], n => n
  | (first, last, step, gap) :: rs, n =>
    if n < first then n
    else if n ≤ last && (n - first) % step == 0 then (n + gap).toNat
    else lowerCode rs n

def nextIsCased (s : List Char) : Bool :=
  match s.dropWhile fun c => inRanges caseIgnorableRanges c.toNat with
  | [] => false
  | c :: _ => inRanges casedRanges c.toNat

/-- The lower-case form of `c`, with the text before it (nearest first) and after it. -/
def lowerChar (before : List Char) (c : Char) (after : List Char) : List Char :=
  if c.toNat < 0x80 then [c.toLower]
  else if c.toNat = 0x130 then ['i', '\u0307']
  else if c.toNat = 0x3A3 then
    if nextIsCased before && !nextIsCased after then ['\u03C2'] else ['\u03C3']
  else [Char.ofNat (lowerCode lowerRuns c.toNat)]

def lowerFrom (before : List Char) : List Char → List Char
  | [] => []
  | c :: cs => lowerChar before c cs ++ lowerFrom (c :: before) cs

def lower (s : List Char) : List Char := lowerFrom [] s

def lowercase (s : String) : String := String.ofList (lower s.toList)

end GuildCards.Text
