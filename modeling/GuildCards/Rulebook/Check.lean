import GuildCards.Rulebook

/-!
Checking a rulebook. A problem makes it unfit to play; a warning only says that a text means nothing.
Both are causes, listed in a fixed order, and worded in one place. The check lists the ids that the map
should have and writes the problems that it finds, so it fails if there is no room for the one or a
number too long in the other.
-/
namespace GuildCards
open Document

inductive Problem where
  | noId
  | tooFewPlayers
  | playersInverted
  | emptyHand
  | cardWithoutId
  | cardRepeated (id : String) (count : Nat)
  | cardCount (guild : Guild) (color : Color) (found : Nat)
  | spotIds (expected : Int)
  | spotMisplaced (site : Site) (row column : Int)
  | noStart
  | tooFewCards (players needed : Int) (found : Nat)
  deriving DecidableEq, Repr

inductive CardPart where
  | power (t : Tier)
  | bonus
  deriving DecidableEq, Repr

inductive Warning where
  | noCards
  | unrecognized (card : String) (part : CardPart) (source : String)
  deriving DecidableEq, Repr

def cardsPerPair : Nat := 2

def Problem.message : Problem → String
  | noId => "game_id is required"
  | tooFewPlayers => "min_players must be >= 1"
  | playersInverted => "max_players must be >= min_players"
  | emptyHand => "hand_size must be >= 1"
  | cardWithoutId => "Card has empty ID"
  | cardRepeated id count => s!"Card id '{id}' appears {count} times"
  | cardCount guild color found =>
    s!"Expected {cardsPerPair} {color.name} {guild.name} cards, found {found}"
  | spotIds expected => s!"Spot ids must be 1..{expected}"
  | spotMisplaced site row column =>
    s!"Spot {site.id} is at ({site.row}, {site.column}), expected ({row}, {column})"
  | noStart => "Map has no starting spots"
  | tooFewCards players needed found =>
    s!"{players} players need {needed} cards, catalog has {found}"

def Problem.shown : Problem → List Value
  | spotIds expected => [.int expected]
  | spotMisplaced site row column =>
    [.int site.id, .int site.row, .int site.column, .int row, .int column]
  | tooFewCards players needed _ => [.int players, .int needed]
  | _ => []

def Problem.tell (ps : List Problem) : Except Fault (List Problem) :=
  Value.tell (ps.flatMap Problem.shown) ps

def CardPart.name : CardPart → String
  | power t => t.name
  | bonus => "bonus"

def Warning.message : Warning → String
  | noCards => "No cards defined - catalog may be incomplete"
  | unrecognized card part source =>
    s!"Card '{card}' {part.name}: unrecognized clause '{source}'"

def onlyIf {α : Type} (p : Prop) [Decidable p] (a : α) : List α := if p then [a] else []

/-- How many items are too many to be counted, whatever the memory. -/
def countLimit : Nat := 0x8000000000000000

/-- The most items that a list can be asked for, whatever the memory. -/
def ampleRoom : Nat := 0xfffffffffffffff

/-- A list of `n` items can be made only if they can be counted and there is room for them. -/
def makeRoom (room : Nat) (n : Int) : Except Fault Unit :=
  if countLimit ≤ n then .error .tooManyItems
  else if room < n then .error .outOfMemory
  else .ok ()

namespace Rulebook
variable {ι : Type}

def constantProblems (r : Rulebook ι) : List Problem :=
  onlyIf (r.id = "") .noId ++
  onlyIf (r.minPlayers < 1) .tooFewPlayers ++
  onlyIf (r.maxPlayers < r.minPlayers) .playersInverted ++
  onlyIf (r.handSize < 1) .emptyHand

/-- What is wrong with the ids of the cards, each id once, in order of first appearance. -/
def idProblems [Label ι] (r : Rulebook ι) : List Problem :=
  let ids := r.cards.map (·.id)
  (ids.eraseDupsBy Datum.same).flatMap fun id =>
    let count := ids.countP (Datum.same · id)
    if (Datum.value id).truthy then onlyIf (1 < count) (.cardRepeated (Datum.plain id) count)
    else [.cardWithoutId]

def pairCount (r : Rulebook ι) (g : Guild) (c : Color) : Nat :=
  r.cards.countP fun card => card.guild = g && card.color = c

def pairProblems (r : Rulebook ι) : List Problem :=
  if r.cards.isEmpty then []
  else Guild.all.flatMap fun g => Color.all.flatMap fun c =>
    onlyIf (r.pairCount g c ≠ cardsPerPair) (.cardCount g c (r.pairCount g c))

def expectedIds (r : Rulebook ι) : List Int :=
  (List.range r.grid.size.toNat).map fun (i : Nat) => (i : Int) + 1

def sortedIds (r : Rulebook ι) : List Int :=
  (r.sites.map (·.id)).mergeSort fun a b => a ≤ b

/-- Do the spots have the expected ids? The list of these must be made, but they are looked at only if
there are as many spots. -/
def hasExpectedIds (r : Rulebook ι) (room : Nat) : Except Fault Bool := do
  makeRoom room r.grid.size
  pure (r.sites.length == r.grid.size.toNat && r.sortedIds == r.expectedIds)

def siteProblems (r : Rulebook ι) : List Problem :=
  r.sites.flatMap fun s =>
    let row := r.grid.row s.id
    let column := r.grid.column s.id
    onlyIf ((s.row, s.column) ≠ (row, column)) (.spotMisplaced s row column)

/-- What is wrong with the spots, be their ids the expected ones or not. -/
def layoutProblems (r : Rulebook ι) (expected : Bool) : List Problem :=
  onlyIf (expected = false) (.spotIds r.grid.size) ++ r.siteProblems ++
    onlyIf (¬ r.sites.any fun s => s.kind = .starting) .noStart

/-- What is wrong with the map; a map with spots needs columns to place them in. -/
def mapProblems (r : Rulebook ι) (room : Nat) : Except Fault (List Problem) := do
  if r.sites.isEmpty then return []
  let expected ← r.hasExpectedIds room
  if r.grid.columns = 0 then throw .divisionByZero
  Problem.tell (r.layoutProblems expected)

def cardsNeeded (r : Rulebook ι) : Int := r.maxPlayers * (r.handSize + r.deckSize)

def supplyProblems (r : Rulebook ι) : List Problem :=
  onlyIf (r.cards.isEmpty = false ∧ (r.cards.length : Int) < r.cardsNeeded)
    (.tooFewCards r.maxPlayers r.cardsNeeded r.cards.length)

def problems [Label ι] (r : Rulebook ι) (room : Nat) : Except Fault (List Problem) := do
  let onMap ← r.mapProblems room
  let onSupply ← Problem.tell r.supplyProblems
  pure (r.constantProblems ++ r.idProblems ++ r.pairProblems ++ onMap ++ onSupply)

def cardWarnings [Label ι] (c : Card ι) : List Warning :=
  (Tier.all.flatMap fun t =>
    (c.power.get t).program.unrecognized.map (.unrecognized (Datum.plain c.id) (.power t))) ++
  c.bonus.program.unrecognized.map (.unrecognized (Datum.plain c.id) .bonus)

def warnings [Label ι] (r : Rulebook ι) : List Warning :=
  (if r.cards.isEmpty then [.noCards] else []) ++ r.cards.flatMap cardWarnings

end Rulebook

structure Report where
  problems : List Problem
  warnings : List Warning

def Report.valid (c : Report) : Bool := c.problems.isEmpty

/-- Checks a rulebook, with room for lists of so many items. -/
def Rulebook.check {ι : Type} [Label ι] (r : Rulebook ι) (room : Nat) : Except Fault Report := do
  pure ⟨← r.problems room, r.warnings⟩

def Rulebook.require {ι : Type} [Label ι] (r : Rulebook ι) (room : Nat) : Except Fault Report := do
  let report ← r.check room
  if report.valid then pure report
  else throw (.invalidRulebook (report.problems.map Problem.message))

end GuildCards
