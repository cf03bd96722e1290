import GuildCards.Play.Apply

/-!
Dealing a new game. The catalog is shuffled, shuffle number zero; then each player in turn draws a
hand and a deck from the top, and the rest is the common deck.
-/
namespace GuildCards
variable {ι ν : Type} [Label ι] [Amount ν]

/-- Deals to players with the given names, the first with number `n`; also what is left of the cards. -/
def deal (rules : Rulebook ι) (n : Nat) (cards : List (Card ι)) :
    List ι → List (Player ι ν) × List (Card ι)
  | [] => ([], cards)
  | name :: names =>
    let (hand, cards) := Zone.draw rules.handSize cards
    let (deck, cards) := Zone.draw rules.deckSize cards
    let (players, left) := deal rules (n + 1) cards names
    ({ id := Label.ofText s!"player-{n}", name, hand, deck
       counters := Counters.none.set .gold (Amount.ofInt rules.startingGold)
       armies := Amount.ofInt 0 } :: players,
      left)

def Rulebook.seats {ι : Type} (rules : Rulebook ι) (count : Nat) : Bool :=
  rules.minPlayers ≤ count && count ≤ rules.maxPlayers

def newGame (rules : Rulebook ι) (shuffle : Shuffler ι ν) (id : ι) (seed : ν) (names : List ι) :
    Except Fault (State ι ν) := do
  if !rules.seats names.length then
    throw (.wrongTable rules.title rules.minPlayers rules.maxPlayers)
  let (players, common) := deal rules 1 (← shuffle seed (Amount.ofInt 0) rules.cards) names
  pure {
    id, seed, players, common
    rulebook := Label.ofText rules.id
    turn := Amount.ofInt 0
    seat := Amount.ofInt 0
    marketSize := Amount.ofInt rules.marketSize
    spots := emptyMap rules.grid rules.sites
    shuffles := Amount.ofInt 1 }

end GuildCards
