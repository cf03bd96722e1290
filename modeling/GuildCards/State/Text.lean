import GuildCards.Document.Printer
import GuildCards.State.Record
import GuildCards.Text.Newline

/-!
A state as the text of its document, and back.
-/
namespace GuildCards
open Document

def Document.ReadError.toFault (s : List Char) : ReadError → Fault
  | .flaw cause place =>
    let (line, column) := lineAndColumn s place
    .badText cause line column place
  | .overlong cause => .overlong cause
  | .tooDeep record => .tooDeep record

namespace State
variable {ι ν : Type} [Label ι] [Amount ν]

def toText (s : State ι ν) : Except Fault String :=
  let r := s.toRecord
  if r.isWritable then .ok (r.print .indented) else .error .tooLongToWrite

/-- Reads a state from the text of its document; the way in which lines end does not matter. -/
def ofText (rules : Rulebook ι) (text : String) : Except Fault (State ι ν) := do
  let s := Text.unifyNewlines text.toList
  State.ofRecord rules (← (Document.read s).mapError (ReadError.toFault s))

end State
end GuildCards
