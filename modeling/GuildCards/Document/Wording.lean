import GuildCards.Document.Value
import GuildCards.Number.Shortest
import GuildCards.Text.Quoted

/-!
How a value appears inside a message. A text stands as it is at the outside and quoted inside a list
or an object.
-/
namespace GuildCards.Document.Value

def kind : Value → String
  | .null => "NoneType"
  | .bool _ => "bool"
  | .int _ => "int"
  | .real _ => "float"
  | .text _ => "str"
  | .list _ => "list"
  | .object _ => "dict"

mutual

def quoted : Value → String
  | .null => "None"
  | .bool b => if b then "True" else "False"
  | .int n => toString n
  | .real x => x.text
  | .text s => Text.quoted s
  | .list vs => "[" ++ ", ".intercalate (quotedItems vs) ++ "]"
  | .object fs => "\x7b" ++ ", ".intercalate (quotedFields fs) ++ "\x7d"

def quotedItems : List Value → List String
  | [] => []
  | v :: vs => v.quoted :: quotedItems vs

def quotedFields : List (String × Value) → List String
  | [] => []
  | (k, v) :: fs => (Text.quoted k ++ ": " ++ v.quoted) :: quotedFields fs

end

def plain : Value → String
  | .text s => s
  | v => v.quoted

end GuildCards.Document.Value
