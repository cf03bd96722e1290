import GuildCards.Fault
import GuildCards.Number.Exact

/-!
Values where numbers are called for. Truth values count as zero and one. Texts and lists have an order
of their own, but nothing can be added to them; what does not fit a calculation is a fault of it.
-/
namespace GuildCards.Document.Value
open Number

inductive Quantity where
  | whole (n : Int)
  | real (x : Real64)

def quantity? : Value → Option Quantity
  | .bool b => some (.whole (if b then 1 else 0))
  | .int n => some (.whole n)
  | .real x => some (.real x)
  | _ => none

/-- How two numbers stand to each other; what is not a number at all stands in no order. -/
def Quantity.compare? : Quantity → Quantity → Option Ordering
  | .whole m, .whole n => some (Ord.compare m n)
  | .real x, .real y => x.compare? y
  | .real x, .whole n => x.compareTo? (.ofInt n)
  | .whole m, .real y => (y.compareTo? (.ofInt m)).map Ordering.swap

def Quantity.add (n : Int) : Quantity → Except Fault Value
  | .whole m => .ok (.int (m + n))
  | .real x =>
    let y := Real64.ofInt n
    if y.isFinite then .ok (.real (x.add y)) else .error .tooGreatForReal

def plus (v : Value) (n : Int) : Except Fault Value :=
  match v.quantity? with
  | some q => q.add n
  | none => .error (.notAddable v.kind)

def minus (v : Value) (n : Int) : Except Fault Value :=
  match v.quantity? with
  | some q => q.add (-n)
  | none => .error (.notSubtractable v.kind)

def compareTexts (s t : String) : Ordering :=
  if s < t then .lt else if s = t then .eq else .gt

mutual

def stands (r : Relation) : Value → Value → Except Fault Bool
  | .text s, .text t => .ok (r.holds (compareTexts s t))
  | .list vs, .list ws => standsItems r vs ws
  | v, w =>
    match v.quantity?, w.quantity? with
    | some a, some b => .ok ((a.compare? b).any r.holds)
    | _, _ => .error (.notOrdered r v.kind w.kind)

/-- Two lists stand to each other as the first items that differ, or else as their lengths. -/
def standsItems (r : Relation) : List Value → List Value → Except Fault Bool
  | [], ws => .ok (r.holds (if ws.isEmpty then .eq else .lt))
  | _ :: _, [] => .ok (r.holds .gt)
  | v :: vs, w :: ws => if v.alike w then standsItems r vs ws else stands r v w

end

def toPlace (v : Value) : Except Fault Int :=
  match v with
  | .int n => .ok n
  | .bool b => .ok (if b then 1 else 0)
  | v => .error (.notPlace v.kind)

/-- The number of items that a value cuts off; null cuts off nothing. -/
def toCut (v : Value) : Except Fault (Option Int) :=
  match v with
  | .null => .ok none
  | .int n => .ok (some n)
  | .bool b => .ok (some (if b then 1 else 0))
  | _ => .error .notCut

def comparable (v : Value) : Except Fault Unit :=
  match v with
  | .list _ | .object _ => .error (.notComparable v.kind)
  | _ => .ok ()

mutual

/-- Can a value be written out? A number of too many digits cannot. -/
def isWritable : Value → Bool
  | .int n => n.natAbs < 10 ^ digitLimit
  | .list vs => areWritable vs
  | .object fs => haveWritable fs
  | _ => true

def areWritable : List Value → Bool
  | [] => true
  | v :: vs => v.isWritable && areWritable vs

def haveWritable : List (String × Value) → Bool
  | [] => true
  | (_, v) :: fs => v.isWritable && haveWritable fs

end

def wording (v : Value) : Except Fault String :=
  if v.isWritable then .ok v.plain else .error .tooLongToWrite

/-- Tells something by a message that shows values; it fails if one of them cannot be written. -/
def tell {α : Type} (shown : List Value) (a : α) : Except Fault α :=
  if areWritable shown then .ok a else .error .tooLongToWrite

end GuildCards.Document.Value
