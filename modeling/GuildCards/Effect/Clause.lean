import GuildCards.Resource
import GuildCards.Text.Lowercase
import GuildCards.Text.Blank

/-!
Compiled effects. A program is the list of clauses of a power or bonus text; every clause keeps the
text it came from, so that it can be shown and compiled again.
-/
namespace GuildCards.Effect

structure Delta where
  resource : Resource
  amount : Int
  deriving DecidableEq, Repr

def Delta.describe (d : Delta) : String := s!"+{d.amount} {d.resource.name}"

structure Benefit where
  text : String
  deltas : List Delta
  deriving DecidableEq, Repr

/-- The form in which names of benefits are compared. -/
def nameKey (s : String) : String := Text.lowercase (Text.trim s)

def Benefit.matches (b : Benefit) (name : String) : Bool := nameKey b.text = nameKey name

/-- A cost is paid from a resource at once, or by discarding cards one at a time. -/
inductive CostKind where
  | pay
  | discard
  deriving DecidableEq, Repr

structure Cost where
  kind : CostKind
  text : String
  amount : Int
  resource : Option Resource
  deriving DecidableEq, Repr

/-- An optional benefit for a cost. With nested benefits the player names one of them, and the benefit
of the clause itself only shows their text. -/
structure Conditional where
  source : String
  cost : Cost
  benefit : Benefit
  nested : List Benefit
  deriving DecidableEq, Repr

structure Choice where
  source : String
  options : List Benefit
  deriving DecidableEq, Repr

inductive Clause where
  | gain (source : String) (deltas : List Delta)
  | conditional (c : Conditional)
  | choice (c : Choice)
  | unrecognized (source : String)
  deriving DecidableEq, Repr

def Conditional.find? (c : Conditional) (name : String) : Option Benefit :=
  c.nested.find? (·.matches name)

def Choice.find? (c : Choice) (name : String) : Option Benefit :=
  c.options.find? (·.matches name)

namespace Clause

def source : Clause → String
  | gain s _ => s
  | conditional c => c.source
  | choice c => c.source
  | unrecognized s => s

def unrecognized? : Clause → Option String
  | unrecognized s => some s
  | _ => none

def conditional? : Clause → Option Conditional
  | conditional c => some c
  | _ => none

def choice? : Clause → Option Choice
  | choice c => some c
  | _ => none

def gains : Clause → List Delta
  | gain _ ds => ds
  | _ => []

end Clause

structure Program where
  source : String
  clauses : List Clause
  deriving DecidableEq, Repr

def Program.unrecognized (p : Program) : List String := p.clauses.filterMap Clause.unrecognized?

end GuildCards.Effect
