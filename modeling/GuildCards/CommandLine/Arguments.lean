import GuildCards.Document.Value
import GuildCards.Number.Numeral

/-!
Arguments of a command line. An option begins with a dash and may be shortened as long as only one
option begins so; its value follows it or an equals sign. What looks like a negative number or holds a
space is plain. After two dashes everything is plain, and two dashes as a value leave an empty list.
-/
namespace GuildCards.CommandLine
open Document Text

def dashes : String := "--"

def given (s : String) : Value := if s = dashes then .list [] else .text s

structure Opt where
  /-- the name, with its two dashes -/
  name : String
  /-- the name of one letter -/
  letter : Option Char := none
  takesValue : Bool := false
  deriving DecidableEq, Repr

inductive Reading where
  | plain
  /-- an option by its name, with what follows an equals sign -/
  | named (o : Opt) (value : Option String)
  /-- options by their letters -/
  | letters (os : List Opt)

/-- A minus sign and digits, with a point at most; a line feed may follow. -/
def looksNegative (s : List Char) : Bool :=
  let s := if s.getLast? = some '\n' then s.dropLast else s
  match s with
  | '-' :: r =>
    match r.dropWhile isDigit with
    | [] => !r.isEmpty
    | '.' :: places => !places.isEmpty && places.all isDigit
    | _ => false
  | _ => false

def named? (opts : List Opt) (name : List Char) : Option Opt :=
  opts.find? fun o => o.name.toList = name || o.letter.any fun c => name = ['-', c]

def lettered? (opts : List Opt) (letters : List Char) : Option (List Opt) :=
  letters.mapM fun c => opts.find? fun o => o.letter = some c && !o.takesValue

def read? (opts : List Opt) (arg : String) : Option Reading :=
  let s := arg.toList
  match s with
  | '-' :: c :: r =>
    let front := s.takeWhile (· ≠ '=')
    let value := match s.dropWhile (· ≠ '=') with
      | _ :: v => some (String.ofList v)
      | [] => none
    match named? opts s, (value.bind fun _ => named? opts front) with
    | some o, _ => some (.named o none)
    | none, some o =>
      if c = '-' then some (.named o value)
      else (lettered? opts ((value.getD "").toList)).bind fun os =>
        if os.isEmpty then none else some (.letters (o :: os))
    | none, none =>
      if c = '-' then
        match opts.filter fun o => front.isPrefixOf o.name.toList with
        | [o] => some (.named o value)
        | _ :: _ => none
        | [] => if s.contains ' ' then some .plain else none
      else if opts.any fun o => o.letter = some c then
        (lettered? opts (c :: r)).map .letters
      else if looksNegative s || s.contains ' ' then some .plain
      else none
  | _ => some .plain

inductive Item where
  | plain (s : String)
  | flag (o : Opt)
  | value (o : Opt) (v : Value)
  /-- two dashes; did they follow a plain argument? -/
  | dashes (joined : Bool)

/-- Reads arguments in order. `owed` is the option whose value comes next, and `joined` tells whether the
argument before was plain: two dashes at the end must follow one. With `first`, reading stops at the
first plain argument, and what is left from there is returned too. -/
def scan (opts : List Opt) (first : Bool) (owed : Option Opt) (joined : Bool) :
    List String → Option (List Item × List String)
  | [] => if owed.isSome then none else some ([], [])
  | arg :: rest =>
    let go := fun (items : List Item) (owed : Option Opt) (joined : Bool) =>
      (scan opts first owed joined rest).map fun (more, left) => (items ++ more, left)
    if arg = dashes then
      if first || owed.isSome || (rest.isEmpty && !joined) then none
      else some (.dashes joined :: rest.map .plain, [])
    else
      match owed, read? opts arg with
      | some o, some .plain => go [.value o (.text arg)] none false
      | some _, _ => none
      | none, some .plain => if first then some ([], arg :: rest) else go [.plain arg] none true
      | none, some (.named o none) => if o.takesValue then go [] (some o) false else go [.flag o] none false
      | none, some (.named o (some v)) => if o.takesValue then go [.value o (given v)] none false else none
      | none, some (.letters os) => go (os.map .flag) none false
      | none, none => none

namespace Item

def plain? : Item → Option String
  | plain s => some s
  | _ => none

def continues : Item → Bool
  | plain _ | dashes true => true
  | _ => false

def isDashes : Item → Bool
  | dashes _ => true
  | _ => false

end Item

def plains (items : List Item) : List String := items.filterMap Item.plain?

def together (items : List Item) : Bool :=
  let inner := items.dropWhile fun i => i.plain?.isNone
  (inner.dropWhile Item.continues).all fun i => i.plain?.isNone

/-- The value of the second of two plain arguments. Two dashes there give nothing, unless those before
it belong to it: options stood between them and the first. -/
def secondPlain (items : List Item) (s : String) : Value :=
  match items.dropWhile (!·.isDashes) with
  | .dashes joined :: after =>
    if after.length = 2 ∨ (after.length = 1 ∧ joined) then given s else .text s
  | _ => .text s

def has (items : List Item) (o : Opt) : Bool :=
  items.any fun
    | .flag p | .value p _ => p = o
    | .plain _ | .dashes _ => false

def valuesOf (items : List Item) (o : Opt) : List Value :=
  items.filterMap fun
    | .value p v => if p = o then some v else none
    | _ => none

def valueOf (items : List Item) (o : Opt) : Value := (valuesOf items o).getLast?.getD .null

def wholeOf (items : List Item) (o : Opt) : Option Value := do
  let numbers ← (valuesOf items o).mapM fun
    | .text s => (Number.integer s.toList).toOption.map .int
    | v => some v
  pure (numbers.getLast?.getD .null)

end GuildCards.CommandLine
