import GuildCards.Board.Spot
import GuildCards.Move
import GuildCards.Player

/-!
The state of a game: everything that is saved, and all that a move is judged by. The market is a window
on the top of the common deck. The open questions are those of the last card played; choices are
answered before conditionals.
-/
namespace GuildCards
open Document Effect

inductive Phase where
  | setup
  | playing
  | ended
  deriving DecidableEq, Repr

namespace Phase

def all : List Phase := [setup, playing, ended]

def name : Phase → String
  | setup => "setup"
  | playing => "playing"
  | ended => "ended"

def ofName? (name : String) : Option Phase := all.find? fun p => p.name = name

end Phase

inductive Intent where
  | choice (c : Choice)
  | conditional (c : Conditional)
  deriving DecidableEq

def Intent.source : Intent → String
  | choice c => c.source
  | conditional c => c.source

/-- An accepted conditional whose cards are not all discarded yet, and the benefit that will follow. -/
structure Deferred where
  intent : Conditional
  benefit : Benefit
  deriving DecidableEq

structure State (ι ν : Type) where
  id : ι
  rulebook : ι
  phase : Phase := .setup
  turn : ν
  /-- the place of the player whose turn it is; a negative seat counts from the last player -/
  seat : ν
  players : List (Player ι ν) := []
  common : Zone ι := []
  marketSize : ν
  spots : List (Spot ι ν) := []
  choices : List Choice := []
  conditionals : List Conditional := []
  deferred : Option Deferred := none
  history : List Move := []
  seed : ν
  /-- how many shuffles there have been -/
  shuffles : ν
  notes : Fields := []

def atSeat? {α : Type} (as : List α) (seat : Int) : Option α :=
  if 0 ≤ seat then as[seat.toNat]?
  else if seat.natAbs ≤ as.length then as[as.length - seat.natAbs]? else none

/-- One more than the greatest place that a list could have. -/
def placeLimit : Nat := 0x8000000000000000

namespace State
variable {ι ν : Type}

def current [Amount ν] (s : State ι ν) : Except Fault (Player ι ν) := do
  let seat ← Amount.toPlace s.seat
  match atSeat? s.players seat with
  | some p => pure p
  | none => throw (if -placeLimit ≤ seat ∧ seat < placeLimit then .outOfRange true else .placeTooGreat)

def player? [Label ι] (s : State ι ν) (id : Value) : Option (Player ι ν) :=
  s.players.find? fun p => Datum.is p.id id

def spot? [Amount ν] (s : State ι ν) (id : Value) : Option (Spot ι ν) :=
  s.spots.find? fun x => Datum.is x.id id

def market [Amount ν] (s : State ι ν) : Except Fault (Zone ι) := do
  match ← Amount.toCut s.marketSize with
  | some n => pure (firstOf n s.common)
  | none => pure s.common

def awaiting? (s : State ι ν) : Option Intent :=
  match s.choices, s.conditionals with
  | c :: _, _ => some (.choice c)
  | [], c :: _ => some (.conditional c)
  | [], [] => none

def open? (s : State ι ν) : List Intent :=
  s.choices.map .choice ++ s.conditionals.map .conditional

def withPlayer [Label ι] (s : State ι ν) (p : Player ι ν) : State ι ν :=
  { s with players := s.players.map fun q => if Datum.same q.id p.id then p else q }

def withSpot [Amount ν] (s : State ι ν) (x : Spot ι ν) : State ι ν :=
  { s with spots := s.spots.map fun y => if Datum.same y.id x.id then x else y }

def dropIntents (s : State ι ν) : State ι ν :=
  { s with choices := [], conditionals := [], deferred := none }

end State
end GuildCards
