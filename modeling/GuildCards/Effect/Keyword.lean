import GuildCards.Resource
import GuildCards.Text.Lowercase

/-!
Keywords of effect text. A keyword counts wherever it occurs, inside words too and without regard to
case; of several, the first of the list wins, wherever in the text it stands.
-/
namespace GuildCards.Effect

def keywords : List (String × Resource) :=
  [("army", .army), ("armies", .army), ("gold", .counter .gold),
   ("knowledge", .counter .knowledge), ("victory point", .counter .victoryPoints),
   ("vp", .counter .victoryPoints), ("draw", .counter .draw), ("take", .counter .take),
   ("discard", .counter .discard), ("exile", .counter .exile), ("bury", .counter .bury),
   ("fight", .counter .fight), ("outpost", .counter .outpost), ("revive", .counter .revive)]

def occursIn (part : List Char) : List Char → Bool
  | [] => part.isEmpty
  | c :: s => part.isPrefixOf (c :: s) || occursIn part s

def keyword? (s : List Char) : Option Resource :=
  let lowered := Text.lower s
  (keywords.find? fun k => occursIn k.1.toList lowered).map (·.2)

def isPayable (r : Resource) : Bool :=
  r = .army || r = .counter .gold || r = .counter .knowledge || r = .counter .victoryPoints

end GuildCards.Effect
