import GuildCards.Text.Blank
import GuildCards.Text.DecimalDigit

/-!
Reading whole numbers. Digits may come from any script and mix; a written number may carry blanks
around it, a sign, and single underscores between digits. A numeral of more than `digitLimit` digits
is refused as overlong, whatever follows it.
-/
namespace GuildCards.Number
open Text

def digitLimit : Nat := 4300

structure Overlong where
  digits : Nat
  deriving DecidableEq, Repr

/-- The value of a run of digits; a character that is no digit counts as zero. -/
def decimal (digits : List Char) : Nat :=
  digits.foldl (fun n c => 10 * n + (digitValue? c).getD 0) 0

def natural (digits : List Char) : Except Overlong Nat :=
  if digits.length ≤ digitLimit then .ok (decimal digits) else .error ⟨digits.length⟩

inductive NumeralError where
  | malformed
  | overlong (cause : Overlong)
  deriving DecidableEq, Repr

def isNumeralBlank (c : Char) : Bool :=
  isBlank c && !(0x1C ≤ c.toNat && c.toNat ≤ 0x1F)

def underscoreGroups : List Char → List (List Char)
  | [] => [[]]
  | c :: cs =>
    match underscoreGroups cs with
    | [] => []
    | g :: gs => if c = '_' then [] :: g :: gs else (c :: g) :: gs

def unsigned (s : List Char) : Except NumeralError Nat := do
  let inNumeral := fun c => isDigit c || c = '_'
  let groups := underscoreGroups (s.takeWhile inNumeral)
  if groups.any List.isEmpty then throw .malformed
  let n ← (natural groups.flatten).mapError .overlong
  if (s.dropWhile inNumeral).all isNumeralBlank then pure n else throw .malformed

def integer (s : List Char) : Except NumeralError Int :=
  match s.dropWhile isNumeralBlank with
  | '-' :: r => (unsigned r).map fun n => -(n : Int)
  | '+' :: r => (unsigned r).map fun n => (n : Int)
  | r => (unsigned r).map fun n => (n : Int)

end GuildCards.Number
