/-!
Classes of characters, given as closed ranges of code points in ascending order.
-/
namespace GuildCards.Text

/-- Is `n` in one of the ranges? They ascend, so the search stops at the first that begins above `n`. -/
def inRanges : List (Nat × Nat) → Nat → Bool
  | [], _ => false
  | (lo, hi) :: rs, n => lo ≤ n && (n ≤ hi || inRanges rs n)

end GuildCards.Text
