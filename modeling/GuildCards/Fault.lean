import GuildCards.Document.Reader
import GuildCards.Document.Wording
import GuildCards.Number.Relation

/-!
Faults: why a record, a document or a call is not acceptable. Refusing a move is no fault. A fault is
a cause; its wording is in one place.
-/
namespace GuildCards
open Document Number

inductive NameSet where
  | guild
  | color
  | spotKind
  | phase
  | moveKind
  | costKind
  | resource
  deriving DecidableEq, Repr

def NameSet.label : NameSet → String
  | .guild => "Guild"
  | .color => "Color"
  | .spotKind => "SpotKind"
  | .phase => "GamePhase"
  | .moveKind => "ActionType"
  | .costKind => "CostType"
  | .resource => "Resource"

inductive Fault where
  /-- a field is missing -/
  | missing (field : String)
  /-- armies are on no counter -/
  | noCounter
  /-- a value is no name of the set -/
  | notNamed (v : Value) (names : NameSet)
  | malformedNumeral (s : String)
  | overlong (cause : Overlong)
  /-- a number that is not finite has no whole part -/
  | notFinite (isNaN : Bool)
  /-- a value of this kind is no whole number -/
  | notInteger (kind : String)
  | unknownCounter (field : String)
  /-- counters are not made of a value of this kind -/
  | noCounters (kind : String)
  /-- a field of this name stands for the counters as a whole -/
  | counterTwice (field : String)
  | unknownCard (id : Value)
  | wrongVersion (v : Value)
  | staleIntent (source : String)
  | notText (kind : String)
  /-- a value of this kind holds no items -/
  | noItems (kind : String)
  /-- a value of this kind has no part of this name -/
  | noPart (kind part : String)
  /-- a value of this kind cannot be compared by content -/
  | notComparable (kind : String)
  /-- a relation does not order values of these kinds -/
  | notOrdered (r : Relation) (kind kind' : String)
  /-- nothing can be added to a value of this kind -/
  | notAddable (kind : String)
  /-- nothing can be subtracted from a value of this kind -/
  | notSubtractable (kind : String)
  /-- a value of this kind is no place in a list -/
  | notPlace (kind : String)
  /-- a value that cuts off no number of items -/
  | notCut
  /-- a place that no list could have -/
  | placeTooGreat
  /-- a whole number out of the range of reals -/
  | tooGreatForReal
  /-- a number of too many digits to be written -/
  | tooLongToWrite
  /-- more items than can be counted -/
  | tooManyItems
  /-- no memory for the items of a list -/
  | outOfMemory
  /-- a container inside so many others that it is not read -/
  | tooDeep (record : Bool)
  /-- the item at this place is no pair of a name and a value -/
  | noPair (place : Nat)
  /-- the item at this place has another length than a pair -/
  | notPair (place length : Nat)
  /-- a real that is not finite cannot be sent -/
  | notSendable
  /-- a text with halves of characters cannot be sent: where they are, and how it was to be sent -/
  | notEncodable (byFields : Bool) (place : Nat) (halves : List Nat)
  /-- a value of this kind has no fields -/
  | noFields (kind : String)
  /-- a field holds a value of another kind -/
  | wrongKind (field : String) (found : String)
  | wrongTable (title : String) (least most : Int)
  | unsafeId (id : String)
  /-- a seat or a rank that nobody has; `fixed` tells the seats of a game from a ranking -/
  | outOfRange (fixed : Bool)
  | divisionByZero
  | unknownGame (id : String)
  | badText (flaw : Flaw) (line column place : Nat)
  | invalidRulebook (errors : List String)

namespace Fault

def message : Fault → String
  | missing field => Text.quoted field
  | noCounter => "<Resource.ARMY: 'army'>"
  | notNamed v names => s!"{v.quoted} is not a valid {names.label}"
  | malformedNumeral s =>
    "invalid literal for int() with base 10: " ++ String.ofList ((Text.quoted s).toList.take 200)
  | overlong cause =>
    s!"Exceeds the limit ({digitLimit} digits) for integer string conversion: value has " ++
      s!"{cause.digits} digits; use sys.set_int_max_str_digits() to increase the limit"
  | notFinite isNaN =>
    if isNaN then "cannot convert float NaN to integer" else "cannot convert float infinity to integer"
  | notInteger kind =>
    s!"int() argument must be a string, a bytes-like object or a real number, not '{kind}'"
  | unknownCounter field => s!"Resources.__init__() got an unexpected keyword argument '{field}'"
  | noCounters kind =>
    s!"guildhall.engine_core.state.Resources() argument after ** must be a mapping, not {kind}"
  | counterTwice field => s!"Resources.__init__() got multiple values for argument '{field}'"
  | unknownCard id => s!"Unknown card id: {id.plain}"
  | wrongVersion v => s!"Unsupported state format version: {v.plain}"
  | staleIntent source => s!"Stored intent no longer compiles: {Text.quoted source}"
  | notText kind => s!"expected string or bytes-like object, got '{kind}'"
  | noItems kind => s!"'{kind}' object is not iterable"
  | noPart kind part => s!"'{kind}' object has no attribute '{part}'"
  | notComparable kind => s!"unhashable type: '{kind}'"
  | notOrdered r kind kind' =>
    s!"'{r.sign}' not supported between instances of '{kind}' and " ++ Text.quoted kind'
  | notAddable kind =>
    if kind = "str" ∨ kind = "list" then s!"can only concatenate {kind} (not \"int\") to {kind}"
    else s!"unsupported operand type(s) for +: '{kind}' and 'int'"
  | notSubtractable kind => s!"unsupported operand type(s) for -: '{kind}' and 'int'"
  | notPlace kind => s!"tuple indices must be integers or slices, not {kind}"
  | notCut => "slice indices must be integers or None or have an __index__ method"
  | placeTooGreat => "cannot fit 'int' into an index-sized integer"
  | tooGreatForReal => "int too large to convert to float"
  | tooLongToWrite =>
    s!"Exceeds the limit ({digitLimit} digits) for integer string conversion; " ++
      "use sys.set_int_max_str_digits() to increase the limit"
  | tooManyItems => "Python int too large to convert to C ssize_t"
  | outOfMemory => ""
  | tooDeep record =>
    "maximum recursion depth exceeded while decoding a JSON " ++
      (if record then "object" else "array") ++ " from a unicode string"
  | noPair place => s!"cannot convert dictionary update sequence element #{place} to a sequence"
  | notPair place length =>
    s!"dictionary update sequence element #{place} has length {length}; 2 is required"
  | notSendable => "Out of range float values are not JSON compliant"
  | notEncodable byFields place halves =>
    (if byFields then "Error serializing to JSON: UnicodeEncodeError: " else "") ++
      "'utf-8' codec can't encode " ++
      (match halves with
        | [unit] => "character " ++ Text.quoted (Text.ofUnit unit).toString ++ s!" in position {place}"
        | _ => s!"characters in position {place}-{place + halves.length - 1}") ++
      ": surrogates not allowed"
  | noFields kind =>
    if kind = "list" then "list indices must be integers or slices, not str"
    else if kind = "str" then "string indices must be integers, not 'str'"
    else s!"'{kind}' object is not subscriptable"
  | wrongKind field found => s!"field '{field}' cannot be a '{found}'"
  | wrongTable title least most => s!"{title} supports {least}-{most} players"
  | unsafeId id => s!"Invalid game id: {Text.quoted id}"
  | outOfRange fixed => (if fixed then "tuple" else "list") ++ " index out of range"
  | divisionByZero => "integer division or modulo by zero"
  | unknownGame id => s!"Game not found: {id}"
  | badText flaw line column place =>
    s!"{flaw.message}: line {line} column {column} (char {place})"
  | invalidRulebook errors => s!"Catalog validation failed with {errors.length} error(s)"

/-- Does the fault say that a value is not acceptable, as opposed to missing or of the wrong kind? -/
def isBadValue : Fault → Bool
  | notNamed .. | malformedNumeral _ | overlong _ | unknownCard _ | wrongVersion _ | staleIntent _
  | wrongTable .. | unsafeId _ | badText .. | tooLongToWrite | notPair .. | notSendable
  | notEncodable .. => true
  | notFinite isNaN => isNaN
  | _ => false

end Fault

def NumeralError.toFault (s : String) : NumeralError → Fault
  | .malformed => .malformedNumeral s
  | .overlong cause => .overlong cause

namespace Document.Value

/-- The whole number that a value stands for: a real loses its fraction, a text is read. -/
def toInteger : Value → Except Fault Int
  | .int n => .ok n
  | .bool b => .ok (if b then 1 else 0)
  | .real x =>
    match x.trunc? with
    | some n => .ok n
    | none => .error (.notFinite x.isNaN)
  | .text s => (integer s.toList).mapError (NumeralError.toFault s)
  | v => .error (.notInteger v.kind)

def field (v : Value) (name : String) : Except Fault Value :=
  match v with
  | .object fs =>
    match Keyed.get? fs name with
    | some w => .ok w
    | none => .error (.missing name)
  | v => .error (.noFields v.kind)

end Document.Value
end GuildCards
