/-!
The four relations that tell which of two things comes first.
-/
namespace GuildCards.Number

inductive Relation where
  | below
  | atMost
  | above
  | atLeast
  deriving DecidableEq, Repr

namespace Relation

def sign : Relation → String
  | below => "<"
  | atMost => "<="
  | above => ">"
  | atLeast => ">="

def holds : Relation → Ordering → Bool
  | below, o => o.isLT
  | atMost, o => o.isLE
  | above, o => o.isGT
  | atLeast, o => o.isGE

end Relation
end GuildCards.Number
