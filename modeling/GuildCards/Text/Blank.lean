import GuildCards.Text.Ranges

/-!
Blank characters: the white space of Unicode and the four information separators U+001C to U+001F.
`trim` drops them from both ends of a text and keeps them inside.
-/
namespace GuildCards.Text

def blankRanges : List (Nat × Nat) :=
  [(0x09, 0x0D), (0x1C, 0x20), (0x85, 0x85), (0xA0, 0xA0), (0x1680, 0x1680), (0x2000, 0x200A),
   (0x2028, 0x2029), (0x202F, 0x202F), (0x205F, 0x205F), (0x3000, 0x3000)]

def isBlank (c : Char) : Bool := inRanges blankRanges c.toNat

def stripBy (p : Char → Bool) (s : List Char) : List Char :=
  ((s.dropWhile p).reverse.dropWhile p).reverse

def strip (s : List Char) : List Char := stripBy isBlank s

def trim (s : String) : String := String.ofList (strip s.toList)

end GuildCards.Text
