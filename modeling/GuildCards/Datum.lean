import GuildCards.Document.Arithmetic

/-!
What the names and the numbers of a game are. A game that is dealt has texts for names and counts in
whole numbers. A document may hold any value in their place; a game read from it keeps that value, and
does with it what can be done with values.
-/
namespace GuildCards
open Document Number

/-- A type whose members stand for values of documents. -/
class Datum (α : Type) where
  value : α → Value
  /-- reads what a field of the given name holds -/
  read : String → Value → Except Fault α

class Label (ι : Type) extends Datum ι where
  ofText : String → ι

class Amount (ν : Type) extends Datum ν where
  ofInt : Int → ν
  plus : ν → Int → Except Fault ν
  minus : ν → Int → Except Fault ν

instance : Label String where
  value := .text
  read field
    | .text s => .ok s
    | v => .error (.wrongKind field v.kind)
  ofText s := s

instance : Amount Int where
  value := .int
  read field
    | .int n => .ok n
    | v => .error (.wrongKind field v.kind)
  ofInt n := n
  plus m n := .ok (m + n)
  minus m n := .ok (m - n)

instance : Datum Value where
  value v := v
  read _ v := .ok v

instance : Label Value where
  ofText := .text

instance : Amount Value where
  ofInt := .int
  plus := Value.plus
  minus := Value.minus

namespace Datum
variable {α : Type} [Datum α]

def same (a b : α) : Bool := (value a).same (value b)

def is (a : α) (v : Value) : Bool := (value a).same v

def plain (a : α) : String := (value a).plain

@[simp] theorem same_text (s t : String) : same s t = decide (s = t) := by
  rw [Bool.eq_iff_iff]
  simp [same, value, Value.same, Value.isNaN, Value.alike]

@[simp] theorem same_int (m n : Int) : same m n = decide (m = n) := by
  rw [Bool.eq_iff_iff]
  simp [same, value, Value.same, Value.isNaN, Value.alike, Value.number?]

@[simp] theorem is_text (s t : String) : is s (.text t) = decide (s = t) := by
  rw [Bool.eq_iff_iff]
  simp [is, value, Value.same, Value.isNaN, Value.alike]

@[simp] theorem is_int (m n : Int) : is m (.int n) = decide (m = n) := by
  rw [Bool.eq_iff_iff]
  simp [is, value, Value.same, Value.isNaN, Value.alike, Value.number?]

end Datum

namespace Amount
variable {ν : Type} [Amount ν]

def stands (r : Relation) (a : ν) (n : Int) : Except Fault Bool := (Datum.value a).stands r (.int n)

def isPositive (a : ν) : Except Fault Bool := stands .above a 0

def toPlace (a : ν) : Except Fault Int := (Datum.value a).toPlace

def toCut (a : ν) : Except Fault (Option Int) := (Datum.value a).toCut

@[simp] theorem plus_int (m n : Int) : plus m n = .ok (m + n) := rfl

@[simp] theorem minus_int (m n : Int) : minus m n = .ok (m - n) := rfl

@[simp] theorem ofInt_int (n : Int) : (ofInt n : Int) = n := rfl

theorem stands_int (r : Relation) (m n : Int) : stands r m n = .ok (r.holds (compare m n)) := by
  simp [stands, Datum.value, Value.stands, Value.quantity?, Value.Quantity.compare?]

@[simp] theorem atMost_int (m n : Int) : stands .atMost m n = .ok (decide (m ≤ n)) := by
  rw [stands_int, Except.ok.injEq, Bool.eq_iff_iff]
  simp [Relation.holds, Int.isLE_compare]

@[simp] theorem atLeast_int (m n : Int) : stands .atLeast m n = .ok (decide (n ≤ m)) := by
  rw [stands_int, Except.ok.injEq, Bool.eq_iff_iff]
  simp [Relation.holds, Int.isGE_compare]

@[simp] theorem above_int (m n : Int) : stands .above m n = .ok (decide (n < m)) := by
  rw [stands_int, Except.ok.injEq, Bool.eq_iff_iff]
  simp [Relation.holds, Ordering.isGT_iff_eq_gt, Int.compare_eq_gt]

@[simp] theorem isPositive_int (m : Int) : isPositive m = .ok (decide (0 < m)) := above_int m 0

@[simp] theorem toPlace_int (n : Int) : toPlace n = .ok n := rfl

@[simp] theorem toCut_int (n : Int) : toCut n = .ok (some n) := rfl

end Amount
end GuildCards
