/-!
The grid of a map: spots numbered row by row from one. Two spots are adjacent when they touch along a
side; the grid does not wrap around.
-/
namespace GuildCards

structure Grid where
  columns : Int
  rows : Int
  deriving DecidableEq, Repr

namespace Grid

def size (g : Grid) : Int := g.columns * g.rows

def row (g : Grid) (spot : Int) : Int := (spot - 1).fdiv g.columns

def column (g : Grid) (spot : Int) : Int := (spot - 1).fmod g.columns

/-- The row and the column of a spot, both from zero; a grid without columns has no positions. -/
def position? (g : Grid) (spot : Int) : Option (Int × Int) :=
  if g.columns = 0 then none else some (g.row spot, g.column spot)

def adjacent (g : Grid) (spot : Int) : List Int :=
  if spot < 1 ∨ g.size < spot then []
  else
    (if 0 < g.row spot then [spot - g.columns] else []) ++
    (if g.row spot < g.rows - 1 then [spot + g.columns] else []) ++
    (if 0 < g.column spot then [spot - 1] else []) ++
    (if g.column spot < g.columns - 1 then [spot + 1] else [])

end Grid
end GuildCards
