import GuildCards.Resource
import GuildCards.Zone

/-!
Players: their zones, their piles, what they hold and where they have built.
-/
namespace GuildCards

structure Piles (ι : Type) where
  military : Pile ι := []
  culture : Pile ι := []
  technology : Pile ι := []
  royal : Pile ι := []
  building : Pile ι := []
  deriving DecidableEq

namespace Piles
variable {ι : Type}

def get (ps : Piles ι) : Guild → Pile ι
  | .military => ps.military
  | .culture => ps.culture
  | .technology => ps.technology
  | .royal => ps.royal
  | .building => ps.building

def set (ps : Piles ι) (g : Guild) (p : Pile ι) : Piles ι :=
  match g with
  | .military => { ps with military := p }
  | .culture => { ps with culture := p }
  | .technology => { ps with technology := p }
  | .royal => { ps with royal := p }
  | .building => { ps with building := p }

def cards (ps : Piles ι) : List (Card ι) := Guild.all.flatMap ps.get

def map (f : Pile ι → Pile ι) (ps : Piles ι) : Piles ι :=
  ⟨f ps.military, f ps.culture, f ps.technology, f ps.royal, f ps.building⟩

@[simp] theorem get_set (ps : Piles ι) (g h : Guild) (p : Pile ι) :
    (ps.set g p).get h = if h = g then p else ps.get h := by
  cases g <;> cases h <;> rfl

@[simp] theorem get_map (f : Pile ι → Pile ι) (ps : Piles ι) (g : Guild) :
    (ps.map f).get g = f (ps.get g) := by
  cases g <;> rfl

end Piles

structure Player (ι ν : Type) where
  id : ι
  name : ι
  hand : Zone ι := []
  deck : Zone ι := []
  discard : Zone ι := []
  exile : Zone ι := []
  piles : Piles ι := {}
  counters : Counters ν
  /-- armies that stand on no spot yet -/
  armies : ν
  /-- the spots that carry an outpost of the player -/
  outposts : List ν := []
  deriving DecidableEq

namespace Player
variable {ι ν : Type}

def cards (p : Player ι ν) : List (Card ι) :=
  p.hand ++ p.deck ++ p.discard ++ p.exile ++ p.piles.cards

def holds (p : Player ι ν) : Resource → ν
  | .army => p.armies
  | .counter c => p.counters.get c

def spend [Amount ν] (p : Player ι ν) (c : Counter) : Except Fault (Player ι ν) := do
  pure { p with counters := ← p.counters.spend c }

end Player
end GuildCards
