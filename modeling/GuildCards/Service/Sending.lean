import GuildCards.Document.Printer
import GuildCards.Fault
import GuildCards.Service.Issue

/-!
What can be sent. A text with a half of a character cannot be encoded, and a real that is not finite is
no number of a document. A document of a game is sent field by field; anything else is printed first,
and a half is then told by its place in the print.
-/
namespace GuildCards.Service
open Document

mutual

def halvesIn? : Value → Option (Nat × List Nat)
  | .text s => Text.halves? s.toList
  | .list vs => halvesInItems? vs
  | .object fs => halvesInFields? fs
  | _ => none

def halvesInItems? : List Value → Option (Nat × List Nat)
  | [] => none
  | v :: vs => (halvesIn? v).or (halvesInItems? vs)

def halvesInFields? : List (String × Value) → Option (Nat × List Nat)
  | [] => none
  | (_, v) :: fs => (halvesIn? v).or (halvesInFields? fs)

end

def needEncodable (v : Value) : Except Fault Unit :=
  match halvesIn? v with
  | some (place, halves) => .error (.notEncodable true place halves)
  | none => .ok ()

mutual

def isFinite : Value → Bool
  | .real x => x.isFinite
  | .list vs => areFinite vs
  | .object fs => haveFinite fs
  | _ => true

def areFinite : List Value → Bool
  | [] => true
  | v :: vs => isFinite v && areFinite vs

def haveFinite : List (String × Value) → Bool
  | [] => true
  | (_, v) :: fs => isFinite v && haveFinite fs

end

def needPrintable (v : Value) : Except Fault Unit :=
  if isFinite v then
    match Text.halves? (v.print .tight).toList with
    | some (place, halves) => .error (.notEncodable false place halves)
    | none => .ok ()
  else .error .notSendable

/-! Issues are sent with the value that each is about. -/

def Place.view : Place → Value
  | field name => .text name
  | item n => .int n

def valueAt (v : Value) : List Place → Value
  | [] => v
  | .field name :: ps => valueAt ((v.get? name).getD .null) ps
  | .item n :: ps => valueAt ((v.list?.bind (·[n]?)).getD .null) ps

/-- The value that an issue with a body is about; what is missing is missing from a record. -/
def Issue.input (body : Value) (i : Issue) : Value :=
  valueAt body (if i.cause = .missing then i.place.dropLast else i.place)

def Cause.context : Cause → Fields
  | tooShort =>
    [("ctx", .object [("field_type", .text "List"), ("min_length", .int 1), ("actual_length", .int 0)])]
  | _ => []

def Issue.report (body : Value) (i : Issue) : Value :=
  .object ([
    ("type", .text i.cause.code), ("loc", .list (.text "body" :: i.place.map Place.view)),
    ("msg", .text i.cause.message), ("input", i.input body)] ++ i.cause.context)

def report (body : Value) (is : List Issue) : Value :=
  .object [("detail", .ofList (Issue.report body) is)]

end GuildCards.Service
