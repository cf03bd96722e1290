/-!
Halves of a pair of 16-bit units. A half that stands alone is no character. Where a text has one, it is
kept as a character of a block that Unicode leaves unassigned, so it prints as the half it is and
equals no other text.
-/
namespace GuildCards.Text

def firstHalf : Nat := 0xD800

def afterHalves : Nat := 0xE000

/-- How far the block that stands for the halves lies above them. -/
def halfOffset : Nat := 0xD0000

def isHalf (unit : Nat) : Bool := firstHalf ≤ unit && unit < afterHalves

def ofUnit (unit : Nat) : Char :=
  Char.ofNat (if isHalf unit then halfOffset + unit else unit)

/-- The half that a character stands for, if it stands for one. -/
def half? (c : Char) : Option Nat :=
  if isHalf (c.toNat - halfOffset) && halfOffset ≤ c.toNat then some (c.toNat - halfOffset) else none

/-- The place of the first half in a text, and how many halves follow one another there. -/
def halves? (s : List Char) : Option (Nat × List Nat) :=
  match s.dropWhile fun c => (half? c).isNone with
  | [] => none
  | r => some (s.length - r.length, (r.takeWhile fun c => (half? c).isSome).filterMap half?)

end GuildCards.Text
