import GuildCards.Catalog.Cards
import GuildCards.Rulebook

/-!
The standard rulebook: the catalog on a map of five by four spots. Players start from the corners; the
two outpost spots lie in the middle.
-/
namespace GuildCards

def standardGrid : Grid := ⟨5, 4⟩

def standardSpotKind (id : Int) : SpotKind :=
  if id ∈ [1, 5, 16, 20] then .starting
  else if id ∈ [8, 13] then .outpost
  else .normal

def standardSites : List Site :=
  (List.range standardGrid.size.toNat).map fun (i : Nat) =>
    let id := (i : Int) + 1
    ⟨id, standardSpotKind id, standardGrid.row id, standardGrid.column id⟩

def standardRulebook {ι : Type} [Label ι] : Rulebook ι :=
  { id := "guilds_base", title := "Guilds", cards := standardCards, sites := standardSites,
    grid := standardGrid }

end GuildCards
