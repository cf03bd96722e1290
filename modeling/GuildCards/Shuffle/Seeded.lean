import GuildCards.Datum
import GuildCards.Shuffle.Digest
import GuildCards.Shuffle.Twister

/-!
Shuffling by seed. The order depends on the seed, the number of the shuffle and how many items there
are, and on nothing else: it is a list of exchanges of places, fixed before any item is looked at.
-/
namespace GuildCards.Shuffle

/-- The bytes of a label, its digest after it. -/
def keyBytes (label : String) : List UInt8 :=
  let bytes := label.toUTF8.toList
  bytes ++ digest bytes

def key (label : String) : Array UInt32 :=
  ((Digest.groupsOf 4 (keyBytes label).reverse).map fun word =>
    UInt32.ofNat (Digest.numberOf word.reverse)).toArray

def generator (label : String) : Twister := Twister.ofKey (key label)

/-- The exchanges that shuffle `n` places: each from the last down to the second with one not above. -/
def exchanges : Nat → Twister → List (Nat × Nat)
  | 0, _ | 1, _ => []
  | n + 2, t =>
    let (j, t') := t.below (n + 2) Twister.patience
    (n + 1, j) :: exchanges (n + 1) t'

/-- Exchanges two places; a place that does not exist leaves everything as it is. -/
def exchange {α : Type} (as : Array α) (p : Nat × Nat) : Array α := as.swapIfInBounds p.1 p.2

def labelled {α : Type} (label : String) (as : List α) : List α :=
  ((exchanges as.length (generator label)).foldl exchange as.toArray).toList

/-- The label of a shuffle: its seed and its number. It must be a text that can be encoded. -/
def label {ν : Type} [Amount ν] (seed counter : ν) : Except Fault String := do
  let label := (← (Datum.value seed).wording) ++ ":" ++ (← (Datum.value counter).wording)
  match Text.halves? label.toList with
  | some (place, halves) => throw (.notEncodable false place halves)
  | none => pure label

def seeded {α ν : Type} [Amount ν] (seed counter : ν) (as : List α) : Except Fault (List α) := do
  pure (labelled (← label seed counter) as)

end GuildCards.Shuffle
