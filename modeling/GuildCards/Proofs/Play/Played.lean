import Mathlib
import GuildCards.Proofs.Play.Accepted

/-!
When an answer to an open question is accepted, and when a move as a whole is: the game goes on, the
move is the current player's, its credit is there, and its kind accepts it.
-/
namespace GuildCards
open Document Effect

theorem choiceText_eq_ok {v : Value} {name : String} :
    choiceText v = .ok name ↔ v = .text name ∨ (v.text? = none ∧ v.truthy = false ∧ name = "") := by
  cases v <;> simp only [choiceText, Value.text?] <;> grind

def Player.Ready (p : Player String Int) (k : MoveKind) : Prop :=
  ∀ c, k.credit? = some c → 0 < p.counters.get c

theorem Player.ready_iff {p : Player String Int} {k : MoveKind} {c : Counter}
    (h : k.credit? = some c) : p.Ready k ↔ 0 < p.counters.get c := by
  simp [Ready, h]

theorem Player.ready_of_free {p : Player String Int} {k : MoveKind} (h : k.credit? = none) :
    p.Ready k := by
  intro c hc
  rw [h] at hc
  cases hc

namespace Effect.Conditional
variable {c : Conditional} {choice : Value} {b : Benefit}

/-- The benefit that an answer gets: the conditional's own, or the nested one that it names. -/
def Grants (c : Conditional) (choice : Value) (b : Benefit) : Prop :=
  (c.nested = [] ∧ b = c.benefit) ∨
    (c.nested ≠ [] ∧ ∃ name, choice = .text name ∧ name ≠ "" ∧ c.find? name = some b)

theorem chosen_eq_ok : c.chosen choice = .ok b ↔ c.Grants choice b := by
  unfold chosen Grants
  by_cases h : c.nested = []
  · simp [h, pure_eq_ok]
  · have he : c.nested.isEmpty = false := by simpa using h
    simp only [he, Bool.false_eq_true, if_false, bind_eq_ok, need_eq_ok, exists_const,
      needSome_eq_ok, h, false_and, false_or, ne_eq, not_false_eq_true, true_and]
    constructor
    · rintro ⟨ht, name, hn, hb⟩
      rcases choiceText_eq_ok.mp hn with rfl | ⟨-, hf, -⟩
      · exact ⟨name, rfl, by simpa [Value.truthy] using ht, hb⟩
      · rw [hf] at ht
        cases ht
    · rintro ⟨name, rfl, hne, hb⟩
      exact ⟨by simpa [Value.truthy] using hne, name, rfl, hb⟩

end Effect.Conditional

namespace State
variable {rules : Rulebook String} {shuffle : Shuffler String Int} {s : State String Int}
  {p : Player String Int} {r : Played String Int} {choice : Value}

theorem answerChoice_eq_ok {place : Int} :
    s.answerChoice p place choice = .ok r ↔
      ∃ c name b, 0 ≤ place ∧ s.choices[place.toNat]? = some c ∧ choiceText choice = .ok name ∧
        c.find? name = some b ∧
        r = {
          state := { s.withPlayer (p.grantedAll b.deltas) with
            choices := s.choices.eraseIdx place.toNat }
          events := [.chose (.text p.name) b.text] } := by
  unfold answerChoice
  simp only [bind_eq_ok, need_eq_ok, exists_const, needSome_eq_ok, lift_eq_ok, Player.gainAll_int,
    Except.ok.injEq, exists_eq_left', pure_eq_ok, Player.grantedAll_name]
  constructor
  · rintro ⟨-, h0, c, hc, name, hn, b, hb, rfl⟩
    exact ⟨c, name, b, h0, hc, hn, hb, rfl⟩
  · rintro ⟨c, name, b, h0, hc, hn, hb, rfl⟩
    -- no place of an empty list holds a choice
    refine ⟨fun h => ?_, h0, c, hc, name, hn, b, hb, rfl⟩
    simp [h] at hc

def declined (s : State String Int) (p : Player String Int) (c : Conditional) : Played String Int :=
  { state := { s with conditionals := s.conditionals.tail }
    events := [.declined (.text p.name) c.source] }

/-- The state after a conditional is accepted: its cost is paid at once, or so many discards are
owed. -/
def accepted (s : State String Int) (p : Player String Int) (c : Conditional) (b : Benefit) :
    Played String Int :=
  match c.cost.kind with
  | .discard =>
    { state := { s.withPlayer { p with counters := p.counters.set .discard c.cost.amount } with
        deferred := some ⟨c, b⟩ }
      events := [.accepted (.text p.name) c.source c.cost.amount b.text] }
  | .pay =>
    { state := { s.withPlayer ((p.paid c.cost).grantedAll b.deltas) with
        conditionals := s.conditionals.tail }
      events := [.paid (.text p.name) c.cost.text b.text] }

theorem answerConditional_eq_ok {accept : Bool} :
    s.answerConditional p accept choice = .ok r ↔
      ∃ c, s.choices = [] ∧ s.conditionals.head? = some c ∧ s.deferred = none ∧
        ((accept = false ∧ r = s.declined p c) ∨
          (accept = true ∧ ∃ b, c.Grants choice b ∧ p.affords c.cost = true ∧
            r = s.accepted p c b)) := by
  unfold answerConditional
  simp only [bind_eq_ok, need_eq_ok, exists_const, needSome_eq_ok]
  rw [← exists_and_left]
  refine exists_congr fun c => and_congr_right fun _ => and_congr_right fun _ =>
    and_congr_right fun _ => ?_
  cases accept with
  | false =>
    simp only [Bool.not_false, if_true, pure_eq_ok, true_and, Bool.false_eq_true, false_and,
      or_false]
    rfl
  | true =>
    simp only [Bool.not_true, Bool.false_eq_true, if_false, bind_eq_ok, need_eq_ok,
      Conditional.chosen_eq_ok, exists_const, lift_eq_ok, Player.canPay_int, Except.ok.injEq,
      exists_eq_left', reduceCtorEq, false_and, true_and, false_or]
    refine exists_congr fun b => and_congr_right fun _ => and_congr_right fun _ => ?_
    unfold accepted
    cases c.cost.kind with
    | discard =>
      rw [pure_eq_ok]
      rfl
    | pay =>
      simp only [bind_eq_ok, lift_eq_ok, Player.pay_int, Player.gainAll_int, Except.ok.injEq,
        exists_eq_left', pure_eq_ok]
      rfl

structure MayMove (s : State String Int) (m : Move) (p : Player String Int) : Prop where
  goesOn : s.phase ≠ .ended
  started : s.phase ≠ .setup ∨ m.kind = .endTurn
  seated : s.players ≠ []
  current : atSeat? s.players s.seat = some p
  named : m.player = .text p.id
  credit : p.Ready m.kind

theorem mover_eq_ok {m : Move} : s.mover m = .ok p ↔ s.MayMove m p := by
  unfold mover
  simp only [bind_eq_ok, need_eq_ok, exists_const, mapError_eq_ok, current_eq_ok, is_iff,
    List.isEmpty_iff]
  constructor
  · rintro ⟨he, hs, hp, q, hq, hn, hc⟩
    cases h : m.kind.credit? with
    | none =>
      rw [h] at hc
      obtain rfl := pure_eq_ok.mp hc
      exact ⟨he, hs, hp, hq, hn, Player.ready_of_free h⟩
    | some c =>
      simp only [h, Amount.atMost_int, Except.mapError, bind_eq_ok, need_eq_ok, exists_const,
        pure_eq_ok, Except.ok.injEq, exists_eq_left', decide_eq_true_eq, not_le] at hc
      obtain ⟨hpos, rfl⟩ := hc
      exact ⟨he, hs, hp, hq, hn, (Player.ready_iff h).mpr hpos⟩
  · rintro ⟨he, hs, hp, hq, hn, hc⟩
    refine ⟨he, hs, hp, p, hq, hn, ?_⟩
    cases h : m.kind.credit? with
    | none => rfl
    | some c =>
      simp only [Amount.atMost_int, Except.mapError, bind_eq_ok, need_eq_ok, exists_const,
        pure_eq_ok, Except.ok.injEq, exists_eq_left', decide_eq_true_eq, not_le, and_true]
      exact (Player.ready_iff h).mp hc

theorem play_eq_ok {m : Move} :
    s.play rules shuffle m = .ok r ↔
      ∃ p x, s.MayMove m p ∧ s.perform rules shuffle p m = .ok x ∧
        r = { x with state := { x.state with history := x.state.history ++ [m] } } := by
  unfold play
  simp only [bind_eq_ok, mover_eq_ok, pure_eq_ok, exists_and_left]

end State
end GuildCards
