import GuildCards.Play.Effects
import GuildCards.Play.Outcome

/-!
Answering open questions. A choice may be answered at any place of its queue, a conditional only at
the front and once no choice is open. Accepting a cost in cards gives the player as many discards to
make; the benefit follows with the last of them.
-/
namespace GuildCards
open Document Effect

/-- The text of a choice; anything that counts as false is no text at all. -/
def choiceText (v : Value) : Except Refusal String :=
  match v with
  | .text s => .ok s
  | v => if v.truthy then .error (.failed (.noPart v.kind "strip")) else .ok ""

def Effect.Conditional.chosen (c : Conditional) (choice : Value) : Except Refusal Benefit := do
  if c.nested.isEmpty then return c.benefit
  let options := c.nested.map (·.text)
  need choice.truthy (.nameOneOf options)
  needSome (c.find? (← choiceText choice)) (.nameOneOf options)

namespace State
variable {ι ν : Type} [Label ι] [Amount ν]

def answerChoice (s : State ι ν) (p : Player ι ν) (place : Int) (choice : Value) :
    Except Refusal (Played ι ν) := do
  need (s.choices ≠ []) .noChoice
  need (0 ≤ place) (Refusal.noChoiceAt place).told
  let c ← needSome s.choices[place.toNat]? (Refusal.noChoiceAt place).told
  let name ← choiceText choice
  let b ← needSome (c.find? name) (.notAnOption name (c.options.map (·.text)))
  let p ← p.gainAll b.deltas
  pure {
    state := { s.withPlayer p with choices := s.choices.eraseIdx place.toNat }
    events := [.chose (Datum.value p.name) b.text] }

def answerConditional (s : State ι ν) (p : Player ι ν) (accept : Bool) (choice : Value) :
    Except Refusal (Played ι ν) := do
  need (s.choices = []) .choicesFirst
  let c ← needSome s.conditionals.head? .noConditional
  need (s.deferred = none) .discardsFirst
  let rest := s.conditionals.tail
  let name := Datum.value p.name
  if !accept then
    return { state := { s with conditionals := rest }, events := [.declined name c.source] }
  let b ← c.chosen choice
  need (← p.canPay c.cost) (.cannotPay c.cost.text)
  match c.cost.kind with
  | .discard =>
    let p := { p with counters := p.counters.set .discard (Amount.ofInt c.cost.amount) }
    pure {
      state := { s.withPlayer p with deferred := some ⟨c, b⟩ }
      events := [.accepted name c.source c.cost.amount b.text] }
  | .pay =>
    let p ← (← p.pay c.cost).gainAll b.deltas
    pure {
      state := { s.withPlayer p with conditionals := rest }
      events := [.paid name c.cost.text b.text] }

/-- Grants the deferred benefit once no discard is owed. It belongs to the first conditional. -/
def settle (s : State ι ν) (p : Player ι ν) : Except Fault (State ι ν × List Event) := do
  let some d := s.deferred | return (s, [])
  if ← Amount.isPositive p.counters.discard then return (s, [])
  let p ← p.gainAll d.benefit.deltas
  pure ({ s.withPlayer p with conditionals := s.conditionals.tail, deferred := none },
    [.received (Datum.value p.name) d.benefit.text])

end State
end GuildCards
