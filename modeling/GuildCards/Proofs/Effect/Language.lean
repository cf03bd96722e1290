import Mathlib
import GuildCards.Effect.Compile

/-!
The language of effects, as it is written and as it is meant. A numeral and a noun are an item; items
joined by "and" are a grant; grants joined by "or" are options; a price, an arrow and a grant or
options are an offer for a price; and sentences are joined by periods. Every phrase has its text and,
told without looking at the text, what it means.
-/
namespace GuildCards.Effect.Phrase
open Text Number

/-- Digits of any script, no more than can be read. -/
structure Numeral where
  digits : List Char
  nonempty : digits ≠ []
  digital : ∀ c ∈ digits, isDigit c = true
  short : digits.length ≤ digitLimit

def Numeral.value (n : Numeral) : Nat :=
  Nat.ofDigits 10 (n.digits.reverse.map fun c => (digitValue? c).getD 0)

structure Noun where
  letters : List Char
  keyword : String
  resource : Resource
  known : (keyword, resource) ∈ keywords
  spelled : letters.map Char.toLower = keyword.toList

structure Item where
  count : Numeral
  noun : Noun

namespace Item

def text (i : Item) : List Char := i.count.digits ++ ' ' :: i.noun.letters

def delta (i : Item) : Delta := ⟨i.noun.resource, i.count.value⟩

end Item

structure Grant where
  items : List Item
  nonempty : items ≠ []

namespace Grant

def text (g : Grant) : List Char := " and ".toList.intercalate (g.items.map Item.text)

def deltas (g : Grant) : List Delta := g.items.map Item.delta

def benefit (g : Grant) : Benefit := ⟨String.ofList g.text, g.deltas⟩

end Grant

structure Options where
  grants : List Grant
  several : 2 ≤ grants.length

namespace Options

def text (o : Options) : List Char := " or ".toList.intercalate (o.grants.map Grant.text)

def benefits (o : Options) : List Benefit := o.grants.map Grant.benefit

end Options

/-- What stands behind an arrow. -/
inductive Offer where
  | grant (g : Grant)
  | options (o : Options)

namespace Offer

def text : Offer → List Char
  | grant g => g.text
  | options o => o.text

def benefit : Offer → Benefit
  | grant g => g.benefit
  | options o => ⟨String.ofList o.text, []⟩

def nested : Offer → List Benefit
  | grant _ => []
  | options o => o.benefits

end Offer

inductive Verb where
  | pay
  | spend

def Verb.text : Verb → List Char
  | pay => "Pay".toList
  | spend => "Spend".toList

def payables : List Resource :=
  [.army, .counter .gold, .counter .knowledge, .counter .victoryPoints]

inductive Price where
  | pay (verb : Verb) (item : Item) (payable : item.noun.resource ∈ payables)
  | discard (count : Numeral)

namespace Price

def text : Price → List Char
  | pay verb item _ => verb.text ++ ' ' :: item.text
  | discard count => "Discard".toList ++ ' ' :: (count.digits ++ ' ' :: "cards".toList)

def cost : Price → Cost
  | pay verb item h =>
    ⟨.pay, String.ofList (pay verb item h).text, item.count.value, some item.noun.resource⟩
  | discard count => ⟨.discard, String.ofList (discard count).text, count.value, none⟩

end Price

inductive Arrow where
  | sign
  | ascii

def Arrow.text : Arrow → List Char
  | sign => "→".toList
  | ascii => "->".toList

inductive Sentence where
  | gain (g : Grant)
  | choice (o : Options)
  | conditional (price : Price) (arrow : Arrow) (offer : Offer)

namespace Sentence

def text : Sentence → List Char
  | gain g => g.text
  | choice o => o.text
  | conditional price arrow offer => price.text ++ (' ' :: arrow.text ++ [' ']) ++ offer.text

/-- What a sentence means. -/
def clause (s : Sentence) : Clause :=
  match s with
  | gain g => .gain (String.ofList s.text) g.deltas
  | choice o => .choice ⟨String.ofList s.text, o.benefits⟩
  | conditional price _ offer =>
    .conditional ⟨String.ofList s.text, price.cost, offer.benefit, offer.nested⟩

end Sentence

/-- Sentences with periods between them, and one at the end or none. -/
def written (ss : List Sentence) (period : Bool) : String :=
  String.ofList (". ".toList.intercalate (ss.map Sentence.text) ++ if period then ['.'] else [])

end GuildCards.Effect.Phrase
