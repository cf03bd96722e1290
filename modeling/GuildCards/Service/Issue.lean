/-!
Issues with what was sent to the service. A request is checked field by field in a fixed order, and
every issue is reported with its place, not only the first.
-/
namespace GuildCards.Service

inductive Cause where
  | missing
  | notRecord
  /-- what is sent is no record, but might be made into one -/
  | notRecordLike
  | notDocument
  | notText
  | notList
  | tooShort
  | notWhole
  | malformedWhole
  | hasFraction
  | oversized
  | notFinite
  | notTruth
  | malformedTruth
  | notReal
  | malformedReal
  /-- a text with halves of characters -/
  | brokenText
  deriving DecidableEq, Repr

def Cause.code : Cause → String
  | missing => "missing"
  | notRecord => "model_type"
  | notRecordLike => "model_attributes_type"
  | notDocument => "json_invalid"
  | notText => "string_type"
  | notList => "list_type"
  | tooShort => "too_short"
  | notWhole => "int_type"
  | malformedWhole => "int_parsing"
  | hasFraction => "int_from_float"
  | oversized => "int_parsing_size"
  | notFinite => "finite_number"
  | notTruth => "bool_type"
  | malformedTruth => "bool_parsing"
  | notReal => "float_type"
  | malformedReal => "float_parsing"
  | brokenText => "string_unicode"

def Cause.message : Cause → String
  | missing => "Field required"
  | notRecord => "Input should be a valid dictionary"
  | notRecordLike => "Input should be a valid dictionary or object to extract fields from"
  | notDocument => "JSON decode error"
  | notText => "Input should be a valid string"
  | notList => "Input should be a valid list"
  | tooShort => "List should have at least 1 item after validation, not 0"
  | notWhole => "Input should be a valid integer"
  | malformedWhole => "Input should be a valid integer, unable to parse string as an integer"
  | hasFraction => "Input should be a valid integer, got a number with a fractional part"
  | oversized => "Unable to parse input string as an integer, exceeded maximum size"
  | notFinite => "Input should be a finite number"
  | notTruth => "Input should be a valid boolean"
  | malformedTruth => "Input should be a valid boolean, unable to interpret input"
  | notReal => "Input should be a valid number"
  | malformedReal => "Input should be a valid number, unable to parse string as a number"
  | brokenText => "Input should be a valid string, unable to parse raw data as a unicode string"

inductive Place where
  | field (name : String)
  | item (n : Nat)
  deriving DecidableEq, Repr

structure Issue where
  cause : Cause
  place : List Place := []
  deriving DecidableEq, Repr

abbrev Checked (α : Type) := Except (List Issue) α

namespace Checked
variable {α β : Type}

def issue (c : Cause) : Checked α := .error [⟨c, []⟩]

/-- Places the issues of a part inside the whole. -/
def within (p : Place) : Checked α → Checked α :=
  Except.mapError fun is => is.map fun i => { i with place := p :: i.place }

def both (a : Checked α) (b : Checked β) : Checked (α × β) :=
  match a, b with
  | .ok a, .ok b => .ok (a, b)
  | .error is, .ok _ => .error is
  | .ok _, .error js => .error js
  | .error is, .error js => .error (is ++ js)

def items (f : α → Checked β) (n : Nat) : List α → Checked (List β)
  | [] => .ok []
  | a :: as => (both (within (.item n) (f a)) (items f (n + 1) as)).map fun (b, bs) => b :: bs

def fields (fs : List (String × Checked β)) : Checked (List (String × β)) :=
  match fs with
  | [] => .ok []
  | (name, v) :: fs => (both (within (.field name) v) (fields fs)).map fun (w, ws) => (name, w) :: ws

end Checked
end GuildCards.Service
