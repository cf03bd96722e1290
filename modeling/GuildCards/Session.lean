import GuildCards.Play.Deal
import GuildCards.Play.Legal
import GuildCards.Play.Standing
import GuildCards.Session.Log
import GuildCards.Shuffle.Seeded
import GuildCards.Store

/-!
Sessions: many games over one store. A game is created, then moves are submitted to it. An accepted move
ends a game that is over, is stamped with the time and is saved; a rejected one changes nothing.

What comes from outside, times, ids and seeds, is an endless supply that the session uses up in order.
-/
namespace GuildCards
open Document Number

structure Supply where
  time : Nat → Real64
  id : Nat → String
  seed : Nat → Int

structure Session (σ ι : Type) where
  rules : Rulebook ι
  supply : Supply
  store : σ
  /-- how many times have been used -/
  times : Nat := 0
  /-- how many ids have been used -/
  made : Nat := 0

/-- What a step of a session came to, what was logged on the way and the session that is left. -/
structure Done (σ ι α : Type) where
  value : Except Fault α
  log : List LogEntry := []
  session : Session σ ι

structure Submission (ι ν : Type) where
  outcome : Except Refusal (Played ι ν)
  state : State ι ν

def createdAt : String := "created_at"

def updatedAt : String := "updated_at"

def State.note {ι ν : Type} (s : State ι ν) (name : String) (time : Real64) : State ι ν :=
  { s with notes := s.notes.put name (.real time) }

namespace Session
variable {σ ι ν α β : Type}

def thenDo (s : Session σ ι) (log : List LogEntry) (x : Except Fault α) (next : α → Done σ ι β) :
    Done σ ι β :=
  match x with
  | .ok a => next a
  | .error f => { value := .error f, log, session := s }

variable [Label ι] [Amount ν] [Store σ ι ν]

def game (s : Session σ ι) (id : String) : Except Fault (State ι ν) := do
  match ← Store.load s.rules s.store id with
  | some g => pure g
  | none => throw (.unknownGame id)

def create (s : Session σ ι) (names : List ι) (seed : Option ν := none) : Done σ ι (State ι ν) :=
  let seed := seed.getD (Amount.ofInt (s.supply.seed s.made))
  let id := s.supply.id s.made
  s.thenDo [] (newGame s.rules Shuffle.seeded (Label.ofText id) seed names) fun g =>
    let now := s.supply.time s.times
    let g := (g.note createdAt now).note updatedAt now
    let s := { s with times := s.times + 1, made := s.made + 1 }
    s.thenDo [] (Store.save s.store id g) fun store => {
      value := .ok g, log := [.created id g.players.length (Datum.value g.seed)]
      session := { s with store } }

/-- A value, or the empty text for what counts as false. -/
def orEmpty (v : Value) : Value := if v.truthy then v else .text ""

/-- The clauses that meant nothing when a card was played: those of the tier where it lies now, then
those of its bonus. -/
def ignoredClauses (s : Session σ ι) (g : State ι ν) (m : Move) : List (Card ι × String) :=
  let found := do
    let card ← s.rules.card? (orEmpty m.card)
    let p ← g.player? (orEmpty m.player)
    let tier ← Tier.at? (p.piles.get card.guild).length
    let power := card.power.get tier
    pure (power.program.unrecognized ++ card.bonus.program.unrecognized |>.map (card, ·))
  found.getD []

def playedLog (s : Session σ ι) (id : String) (m : Move) (r : Played ι ν) : List LogEntry :=
  let ignored := if m.kind = .expand then s.ignoredClauses r.state m else []
  ignored.map (fun (card, clause) => .ignored id (Datum.value card.id) clause) ++
    r.dropped.map fun i => .declined id i.source

def endedLog (id : String) (before after : State ι ν) : Except Fault (List LogEntry) := do
  if after.phase = .ended ∧ before.phase ≠ .ended then
    pure ((← after.standings).head?.toList.map fun r =>
      .ended id (Datum.value after.turn) (Datum.value r.name) (Datum.value r.victoryPoints))
  else pure []

def submit (s : Session σ ι) (id : String) (m : Move) : Done σ ι (Submission ι ν) :=
  s.thenDo [] (s.game id) fun g =>
    match g.play s.rules Shuffle.seeded m with
    | .error (.broken f) => { value := .error f, session := s }
    | .error why => { value := .ok ⟨.error why, g⟩, log := [.rejected id m why], session := s }
    | .ok r =>
      let log := s.playedLog id m r
      s.thenDo log (r.state.endIfOver s.rules) fun ended =>
        s.thenDo log (endedLog id g ended) fun last =>
          let log := log ++ last
          let state := ended.note updatedAt (s.supply.time s.times)
          let s := { s with times := s.times + 1 }
          s.thenDo log (Store.save s.store id state) fun store => {
            value := .ok ⟨.ok { r with state }, state⟩
            log, session := { s with store } }

def legalMoves (s : Session σ ι) (id : String) : Except Fault (List Move) := do
  (← s.game id).legalMoves s.rules

def standings (s : Session σ ι) (id : String) : Except Fault (List (Standing ι ν)) := do
  (← s.game id).standings

end Session
end GuildCards
