import GuildCards.Keyed
import GuildCards.Number.Real64

/-!
Values of a document: what a saved game, a request and a patch are made of. The fields of an object
keep the order in which they were first written, and a name occurs once.
-/
namespace GuildCards.Document
open Number

inductive Value where
  | null
  | bool (b : Bool)
  | int (n : Int)
  | real (x : Real64)
  | text (s : String)
  | list (items : List Value)
  | object (fields : List (String × Value))
  deriving Inhabited

abbrev Fields := Keyed Value

namespace Value

def ofOption {α : Type} (f : α → Value) : Option α → Value
  | some a => f a
  | none => .null

def ofList {α : Type} (f : α → Value) (as : List α) : Value := .list (as.map f)

def texts (ss : List String) : Value := ofList .text ss

def ints (ns : List Int) : Value := ofList .int ns

def text? : Value → Option String
  | .text s => some s
  | _ => none

def int? : Value → Option Int
  | .int n => some n
  | _ => none

def list? : Value → Option (List Value)
  | .list vs => some vs
  | _ => none

def object? : Value → Option Fields
  | .object fs => some fs
  | _ => none

def get? (v : Value) (name : String) : Option Value := v.object?.bind (·.get? name)

def isNull : Value → Bool
  | .null => true
  | _ => false

def given? (v : Value) : Option Value := if v.isNull then none else some v

/-- Null, false, zero and everything empty are false; the rest is true. -/
def truthy : Value → Bool
  | .null => false
  | .bool b => b
  | .int n => n != 0
  | .real x => x.toInt? != some 0
  | .text s => s != ""
  | .list vs => !vs.isEmpty
  | .object fs => !fs.isEmpty

/-- The number that a truth value, an integer or an integral real is equal to. -/
def number? : Value → Option Int
  | .bool b => some (if b then 1 else 0)
  | .int n => some n
  | .real x => x.toInt?
  | _ => none

mutual

/-- Are two values indistinguishable in a list or an object? Numbers compare by value, truth values as 0
and 1, and the order of the fields of an object does not count. -/
def alike : Value → Value → Bool
  | .null, .null => true
  | .text s, .text t => s == t
  | .list vs, .list ws => alikeItems vs ws
  | .object fs, .object gs => fs.length == gs.length && alikeFields fs gs
  | .real x, .real y => (x.isNaN && y.isNaN) || x.same y
  | v, w =>
    match v.number?, w.number? with
    | some m, some n => m == n
    | _, _ => false

def alikeItems : List Value → List Value → Bool
  | [], [] => true
  | v :: vs, w :: ws => v.alike w && alikeItems vs ws
  | _, _ => false

def alikeFields : List (String × Value) → List (String × Value) → Bool
  | [], _ => true
  | (k, v) :: fs, gs =>
    (match Keyed.get? gs k with
      | some w => v.alike w
      | none => false) && alikeFields fs gs

end

def isNaN : Value → Bool
  | .real x => x.isNaN
  | _ => false

/-- Equality of contents. A real that is no number is equal to nothing, unless it stands inside a list
or an object, where it counts as itself. -/
def same (v w : Value) : Bool := !v.isNaN && v.alike w

end Value
end GuildCards.Document
