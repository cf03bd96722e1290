import GuildCards.State.Text
import GuildCards.Store

/-!
The store that keeps a text file for each game. Only safe ids name a file; ids are listed in the order
of their characters.
-/
namespace GuildCards

structure FileStore (ι ν : Type) where
  files : Keyed String := []

namespace FileStore

def isSafeChar (c : Char) : Bool := c.isAlphanum || c = '_' || c = '.' || c = '-'

/-- A safe id is made of letters, digits and three marks; one line feed may follow. -/
def isSafe (id : String) : Bool :=
  let cs := id.toList
  let cs := if cs.getLast? = some '\n' then cs.dropLast else cs
  !cs.isEmpty && cs.all isSafeChar

variable {ι ν : Type} [Label ι] [Amount ν]

def load (rules : Rulebook ι) (s : FileStore ι ν) (id : String) : Except Fault (Option (State ι ν)) :=
  if isSafe id then
    match s.files.get? id with
    | some text => (State.ofText rules text).map some
    | none => .ok none
  else .ok none

def needSafe (id : String) : Except Fault Unit :=
  if isSafe id then .ok () else .error (.unsafeId id)

def save (s : FileStore ι ν) (id : String) (g : State ι ν) : Except Fault (FileStore ι ν) := do
  needSafe id
  pure ⟨s.files.put id (← g.toText)⟩

def delete (s : FileStore ι ν) (id : String) : Except Fault (FileStore ι ν) := do
  needSafe id
  pure ⟨s.files.erase id⟩

instance : Store (FileStore ι ν) ι ν where
  load := load
  save := save
  delete := delete
  ids s := s.files.names.mergeSort fun a b => a ≤ b

end FileStore
end GuildCards
