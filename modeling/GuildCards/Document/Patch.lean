import GuildCards.Document.Value
import GuildCards.Number.Numeral

/-!
Patching a document. An object patches an object field by field, and a list at the places that its
names give in decimal; any other patch takes the place of what was there.
-/
namespace GuildCards.Document

/-- The place that a name stands for: a number written with the ten digits and no leading zero. -/
def placeOf? (name : String) : Option Nat :=
  match name.toList with
  | ['0'] => some 0
  | c :: cs =>
    if c ≠ '0' ∧ (c :: cs).all Char.isDigit then some (Number.decimal (c :: cs)) else none
  | [] => none

mutual

def Value.patch (base : Value) : Value → Value
  | .object ps =>
    match base with
    | .object fs => .object (patchFields fs ps)
    | .list vs => .list (patchItems vs ps)
    | _ => .object ps
  | v => v

def patchFields (fs : List (String × Value)) : List (String × Value) → List (String × Value)
  | [] => fs
  | (k, p) :: ps =>
    let v := match Keyed.get? fs k with
      | some w => w.patch p
      | none => p
    patchFields (Keyed.put k v fs) ps

def patchItems (vs : List Value) : List (String × Value) → List Value
  | [] => vs
  | (k, p) :: ps =>
    match placeOf? k with
    | some i =>
      match vs[i]? with
      | some w => patchItems (vs.set i (w.patch p)) ps
      | none => patchItems vs ps
    | none => patchItems vs ps

end

end GuildCards.Document
