import GuildCards.Effect.Clause
import GuildCards.Effect.Keyword
import GuildCards.Effect.Token
import GuildCards.Number.Numeral

/-!
Compiling effect text. Periods part the clauses. A clause with an arrow is a cost for a benefit; one
with the word "or" is a choice; any other grants what its keywords name. Inside a benefit "and" joins
what is granted. The amount is the first number of a part, and one if there is none.

The only failure is a numeral that is too long, and only one whose value is asked for.
-/
namespace GuildCards.Effect
open Number

def cutAt {α : Type} (sep : α → Bool) : List α → List (List α)
  | [] => [[]]
  | a :: as =>
    match cutAt sep as with
    | [] => []
    | g :: gs => if sep a then [] :: g :: gs else (a :: g) :: gs

/-- The text from the first token to the last, without blanks at its ends. -/
def span (text : List Char) (ts : List Token) : List Char :=
  match ts.head?, ts.getLast? with
  | some a, some b => Text.strip ((text.drop a.start).take (b.stop - a.start))
  | _, _ => []

def spanText (text : List Char) (ts : List Token) : String := String.ofList (span text ts)

def amount (ts : List Token) : Except Overlong Int :=
  match ts.find? Token.isNumber with
  | some t => (natural t.text).map fun n => (n : Int)
  | none => .ok 1

def part (text : List Char) (ts : List Token) : Except Overlong (List Delta) :=
  match ts, keyword? (span text ts) with
  | [], _ | _, none => .ok []
  | ts, some r => (amount ts).map fun n => [⟨r, n⟩]

def benefit (text : List Char) (ts : List Token) : Except Overlong Benefit := do
  let deltas ← (cutAt (Token.isWord "and") ts).mapM (part text)
  pure ⟨spanText text ts, deltas.flatten⟩

/-- The benefits that the word "or" parts, leaving out empty ones. -/
def alternatives (text : List Char) (ts : List Token) : Except Overlong (List Benefit) :=
  ((cutAt (Token.isWord "or") ts).filter (!·.isEmpty)).mapM (benefit text)

def hasAlternatives (ts : List Token) : Bool := ts.any (Token.isWord "or")

def grantsAny (bs : List Benefit) : Bool := bs.any (!·.deltas.isEmpty)

def cost? (text : List Char) (ts : List Token) : Except Overlong (Option Cost) := do
  let n ← amount ts
  if ts.any (Token.isWord "discard") then
    pure (some ⟨.discard, spanText text ts, n, none⟩)
  else if ts.any fun t => t.isWord "pay" || t.isWord "spend" then
    pure (((keyword? (span text ts)).filter isPayable).map fun r =>
      ⟨.pay, spanText text ts, n, some r⟩)
  else pure none

def conditional (text : List Char) (source : String) (before after : List Token) :
    Except Overlong Clause := do
  if before.isEmpty || after.isEmpty then return .unrecognized source
  let some cost ← cost? text before | return .unrecognized source
  if hasAlternatives after then
    let nested ← alternatives text after
    if grantsAny nested then
      return .conditional ⟨source, cost, ⟨spanText text after, []⟩, nested⟩
  else
    let b ← benefit text after
    if !b.deltas.isEmpty then return .conditional ⟨source, cost, b, []⟩
  return .unrecognized source

def choice (text : List Char) (source : String) (ts : List Token) : Except Overlong Clause := do
  let options ← alternatives text ts
  if 2 ≤ options.length ∧ grantsAny options then return .choice ⟨source, options⟩
  return .unrecognized source

def gain (text : List Char) (source : String) (ts : List Token) : Except Overlong Clause := do
  let b ← benefit text ts
  if b.deltas.isEmpty then return .unrecognized source
  return .gain source b.deltas

def clause (text : List Char) (ts : List Token) : Except Overlong Clause :=
  let source := spanText text ts
  if ts.any Token.isArrow then
    conditional text source (ts.takeWhile (!·.isArrow)) ((ts.dropWhile (!·.isArrow)).drop 1)
  else if hasAlternatives ts then choice text source ts
  else gain text source ts

def Program.compile (text : String) : Except Overlong Program := do
  let cs := text.toList
  let sentences := (cutAt Token.isPeriod (scan cs)).filter (!·.isEmpty)
  pure ⟨text, ← sentences.mapM (clause cs)⟩

/-- Compiles a text that is one clause, whatever periods it holds. -/
def Clause.compile (text : String) : Except Overlong Clause :=
  let cs := text.toList
  match (scan cs).filter (!·.isPeriod) with
  | [] => .ok (.unrecognized (Text.trim text))
  | ts => clause cs ts

def Benefit.compile (text : String) : Except Overlong Benefit :=
  let cs := text.toList
  match scan cs with
  | [] => .ok ⟨Text.trim text, []⟩
  | ts => benefit cs ts

end GuildCards.Effect
