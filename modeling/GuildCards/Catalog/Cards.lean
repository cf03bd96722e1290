import GuildCards.Card

/-!
The standard catalog: fifty cards, two of each guild and color. Military cards bring armies and
fights, culture cards victory points and knowledge, technology cards draw and order the deck, royal
cards gold and the market, building cards outposts, exile and revival.
-/
namespace GuildCards

structure CatalogEntry where
  guild : Guild
  color : Color
  number : Nat
  power : Tiered String
  bonus : String

def entry (guild : Guild) (color : Color) (number : Nat) (first middle last : String)
    (bonus : String := "") : CatalogEntry :=
  ⟨guild, color, number, ⟨first, middle, last⟩, bonus⟩

namespace CatalogEntry

def id (e : CatalogEntry) : String := s!"{e.guild.name}-{e.color.name}-{e.number}"

def card {ι : Type} [Label ι] (e : CatalogEntry) : Except Number.Overlong (Card ι) :=
  Card.make (Label.ofText e.id) e.guild e.color e.power e.bonus

end CatalogEntry

def catalogEntries : List CatalogEntry :=
  [entry .military .red 1 "1 Army" "2 Army" "3 Army and 1 Fight" "Pay 1 Gold → 1 Army",
   entry .military .red 2 "1 Fight" "1 Army and 1 Fight" "2 Army and 2 Fight" "1 Gold",
   entry .military .blue 1 "1 Gold" "1 Army or 2 Gold" "2 Army and 2 Gold"
      "Discard 1 card → 1 Army",
   entry .military .blue 2 "1 Army" "1 Army and 1 Draw" "2 Army and 1 Victory Point",
   entry .military .green 1 "1 Draw" "1 Army and 1 Draw" "2 Army and 2 Draw"
      "Pay 2 Gold → 1 Victory Point",
   entry .military .green 2 "1 Army" "2 Gold or 2 Army" "3 Army",
   entry .military .yellow 1 "2 Gold" "1 Army and 2 Gold" "Pay 2 Gold → 3 Army" "1 Army",
   entry .military .yellow 2 "1 Take" "1 Army and 1 Take" "2 Army and 1 Take",
   entry .military .purple 1 "1 Victory Point" "1 Army and 1 Victory Point"
      "2 Fight and 2 Victory Points",
   entry .military .purple 2 "1 Army" "1 Fight and 1 Outpost" "2 Army and 1 Outpost" "1 Knowledge",
   entry .culture .red 1 "1 Knowledge" "1 Victory Point" "2 Victory Points"
      "Pay 1 Knowledge → 1 Victory Point",
   entry .culture .red 2 "1 Gold" "1 Knowledge and 1 Gold" "Spend 2 Knowledge → 2 Victory Points",
   entry .culture .blue 1 "1 Revive" "1 Victory Point or 2 Gold" "2 Victory Points and 1 Revive",
   entry .culture .blue 2 "1 Knowledge" "2 Knowledge" "1 Victory Point and 2 Knowledge" "1 Draw",
   entry .culture .green 1 "1 Draw" "1 Draw and 1 Knowledge" "Discard 2 cards → 2 Victory Points",
   entry .culture .green 2 "1 Gold" "1 Victory Point" "1 Victory Point and 2 Gold"
      "Discard 1 card → 1 Knowledge",
   entry .culture .yellow 1 "2 Gold" "1 Victory Point and 1 Gold" "2 Victory Points and 1 Gold",
   entry .culture .yellow 2 "1 Knowledge or 1 Gold" "2 Knowledge or 2 Gold"
      "1 Victory Point and 1 Knowledge",
   entry .culture .purple 1 "1 Victory Point" "1 Victory Point and 1 Knowledge" "3 Victory Points",
   entry .culture .purple 2 "1 Exile" "1 Exile and 1 Victory Point"
      "Pay 3 Gold → 3 Victory Points" "1 Gold",
   entry .technology .red 1 "1 Draw" "2 Draw" "3 Draw and 1 Knowledge",
   entry .technology .red 2 "1 Bury" "1 Bury and 1 Draw" "2 Bury and 2 Draw" "1 Knowledge",
   entry .technology .blue 1 "1 Knowledge" "1 Draw and 1 Knowledge" "2 Draw and 2 Knowledge"
      "Spend 1 Knowledge → 2 Draw",
   entry .technology .blue 2 "1 Draw" "1 Draw or 1 Bury" "2 Draw and 1 Victory Point",
   entry .technology .green 1 "1 Gold" "1 Draw and 1 Gold" "2 Draw and 2 Gold",
   entry .technology .green 2 "1 Revive" "1 Revive and 1 Draw" "2 Revive and 1 Victory Point",
   entry .technology .yellow 1 "1 Take" "1 Take and 1 Draw" "2 Take and 1 Draw" "1 Gold",
   entry .technology .yellow 2 "1 Draw" "Discard 1 card → 2 Draw"
      "Discard 1 card → 3 Draw or 2 Gold",
   entry .technology .purple 1 "1 Knowledge" "2 Knowledge and 1 Draw" "1 Victory Point and 2 Draw",
   entry .technology .purple 2 "1 Exile" "1 Exile and 1 Draw" "2 Exile and 1 Victory Point",
   entry .royal .red 1 "2 Gold" "3 Gold" "4 Gold and 1 Victory Point",
   entry .royal .red 2 "1 Take" "1 Take and 1 Gold" "2 Take and 2 Gold" "1 Army",
   entry .royal .blue 1 "1 Gold" "2 Gold or 1 Take" "3 Gold and 1 Take",
   entry .royal .blue 2 "1 Gold" "Pay 1 Gold → 1 Victory Point" "Pay 2 Gold → 2 Victory Points"
      "1 Gold",
   entry .royal .green 1 "1 Take" "2 Take" "2 Take and 1 Victory Point",
   entry .royal .green 2 "1 Gold" "2 Gold and 1 Draw" "3 Gold and 2 Draw",
   entry .royal .yellow 1 "3 Gold" "1 Victory Point and 2 Gold" "2 Victory Points and 2 Gold",
   entry .royal .yellow 2 "1 Gold and 1 Draw" "Discard 1 card → 3 Gold" "Discard 2 cards → 5 Gold",
   entry .royal .purple 1 "1 Victory Point" "2 Victory Points" "3 Victory Points and 1 Gold",
   entry .royal .purple 2 "1 Gold" "1 Gold and 1 Outpost" "2 Gold and 1 Outpost" "1 Take",
   entry .building .red 1 "1 Outpost" "1 Outpost and 1 Army" "2 Outpost and 1 Army",
   entry .building .red 2 "1 Gold" "1 Outpost or 2 Gold" "1 Outpost and 1 Victory Point",
   entry .building .blue 1 "1 Exile" "1 Exile and 1 Gold" "2 Exile and 2 Gold",
   entry .building .blue 2 "1 Revive" "1 Revive and 1 Gold" "2 Revive and 1 Victory Point"
      "1 Knowledge",
   entry .building .green 1 "1 Army" "1 Army and 1 Outpost" "2 Army and 1 Outpost",
   entry .building .green 2 "1 Gold" "Pay 1 Gold → 1 Outpost" "Pay 2 Gold → 2 Victory Points",
   entry .building .yellow 1 "2 Gold" "1 Bury and 2 Gold" "1 Bury and 3 Gold",
   entry .building .yellow 2 "1 Draw" "1 Draw and 1 Outpost" "2 Draw and 1 Outpost" "1 Gold",
   entry .building .purple 1 "1 Victory Point" "1 Victory Point and 1 Outpost"
      "2 Victory Points and 1 Outpost",
   entry .building .purple 2 "1 Knowledge" "1 Knowledge and 1 Exile"
      "Spend 2 Knowledge → 2 Victory Points"]

def standardCards {ι : Type} [Label ι] : List (Card ι) :=
  catalogEntries.filterMap fun e => e.card.toOption

end GuildCards
