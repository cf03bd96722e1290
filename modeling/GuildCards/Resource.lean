import GuildCards.Datum

/-!
Resources and the counters a player holds of them. Gold and victory points last; every other counter
is reset when a turn ends. Armies are a resource but no counter: they stand on the player.
-/
namespace GuildCards

inductive Counter where
  | gold
  | victoryPoints
  | knowledge
  | draw
  | take
  | discard
  | exile
  | bury
  | fight
  | outpost
  | revive
  deriving DecidableEq, Repr

inductive Resource where
  | army
  | counter (c : Counter)
  deriving DecidableEq, Repr

namespace Counter

def all : List Counter :=
  [gold, victoryPoints, knowledge, draw, take, discard, exile, bury, fight, outpost, revive]

def name : Counter → String
  | gold => "gold"
  | victoryPoints => "victory_points"
  | knowledge => "knowledge"
  | draw => "draw"
  | take => "take"
  | discard => "discard"
  | exile => "exile"
  | bury => "bury"
  | fight => "fight"
  | outpost => "outpost"
  | revive => "revive"

def lasts (c : Counter) : Bool := c = gold || c = victoryPoints

/-- The name of the counter's field in a document. What is left besides amounts are credits, one
action each. -/
def field (c : Counter) : String :=
  if c.lasts ∨ c = knowledge then c.name else c.name ++ "_credits"

end Counter

namespace Resource

def name : Resource → String
  | army => "army"
  | counter c => c.name

def all : List Resource := army :: Counter.all.map counter

def ofName? (name : String) : Option Resource := all.find? fun r => r.name = name

end Resource

structure Counters (ν : Type) where
  gold : ν
  victoryPoints : ν
  knowledge : ν
  draw : ν
  take : ν
  discard : ν
  exile : ν
  bury : ν
  fight : ν
  outpost : ν
  revive : ν
  deriving DecidableEq, Repr

namespace Counters
variable {ν : Type}

def get (cs : Counters ν) : Counter → ν
  | .gold => cs.gold
  | .victoryPoints => cs.victoryPoints
  | .knowledge => cs.knowledge
  | .draw => cs.draw
  | .take => cs.take
  | .discard => cs.discard
  | .exile => cs.exile
  | .bury => cs.bury
  | .fight => cs.fight
  | .outpost => cs.outpost
  | .revive => cs.revive

def set (cs : Counters ν) (c : Counter) (n : ν) : Counters ν :=
  match c with
  | .gold => { cs with gold := n }
  | .victoryPoints => { cs with victoryPoints := n }
  | .knowledge => { cs with knowledge := n }
  | .draw => { cs with draw := n }
  | .take => { cs with take := n }
  | .discard => { cs with discard := n }
  | .exile => { cs with exile := n }
  | .bury => { cs with bury := n }
  | .fight => { cs with fight := n }
  | .outpost => { cs with outpost := n }
  | .revive => { cs with revive := n }

def of (f : Counter → ν) : Counters ν :=
  ⟨f .gold, f .victoryPoints, f .knowledge, f .draw, f .take, f .discard, f .exile, f .bury, f .fight,
    f .outpost, f .revive⟩

@[simp] theorem get_of (f : Counter → ν) (c : Counter) : (of f).get c = f c := by
  cases c <;> rfl

@[simp] theorem get_set (cs : Counters ν) (c d : Counter) (n : ν) :
    (cs.set c n).get d = if d = c then n else cs.get d := by
  cases c <;> cases d <;> rfl

theorem ext_get {cs ds : Counters ν} (h : ∀ c, cs.get c = ds.get c) : cs = ds := by
  cases cs
  cases ds
  simp only [Counters.mk.injEq]
  exact ⟨h .gold, h .victoryPoints, h .knowledge, h .draw, h .take, h .discard, h .exile, h .bury,
    h .fight, h .outpost, h .revive⟩

section Amounts
variable [Amount ν]

def none : Counters ν := of fun _ => Amount.ofInt 0

def add (cs : Counters ν) (c : Counter) (n : Int) : Except Fault (Counters ν) := do
  pure (cs.set c (← Amount.plus (cs.get c) n))

def spend (cs : Counters ν) (c : Counter) : Except Fault (Counters ν) := cs.add c (-1)

def endTurn (cs : Counters ν) : Counters ν :=
  of fun c => if c.lasts then cs.get c else Amount.ofInt 0

theorem get_endTurn (cs : Counters ν) (c : Counter) :
    cs.endTurn.get c = if c.lasts then cs.get c else Amount.ofInt 0 := get_of _ c

end Amounts

@[simp] theorem add_int (cs : Counters Int) (c : Counter) (n : Int) :
    cs.add c n = .ok (cs.set c (cs.get c + n)) := rfl

def passing (cs : Counters Int) : Int :=
  (Counter.all.filter (!·.lasts)).foldr (fun c n => cs.get c + n) 0

def settled (gold victoryPoints : Int) : Counters Int where
  gold := gold
  victoryPoints := victoryPoints
  knowledge := 0
  draw := 0
  take := 0
  discard := 0
  exile := 0
  bury := 0
  fight := 0
  outpost := 0
  revive := 0

theorem eq_settled {cs : Counters Int} (h : ∀ c : Counter, c.lasts = false → cs.get c = 0) :
    cs = settled cs.gold cs.victoryPoints := by
  refine ext_get fun c => ?_
  cases c
  case gold => rfl
  case victoryPoints => rfl
  all_goals exact h _ rfl

end Counters
end GuildCards
