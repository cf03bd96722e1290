import Mathlib
import GuildCards.Proofs.Play.Deeds
import GuildCards.Proofs.Play.History
import GuildCards.Proofs.Play.Legality

/-!
A turn is finite. What a card grants can bring it back to the hand, and no single number goes down
with every move; but a card played takes room on a pile, which a turn never gives back, an answer
takes a question, an acceptance can be given once as long as its cards are owed, and every other
move uses up a credit or an army. In that order these make up what is left of a turn.
-/
namespace GuildCards
open Document Effect

namespace Piles

def room (ps : Piles String) : Nat := (Guild.all.map fun g => pileLimit - (ps.get g).length).sum

theorem room_put {ps : Piles String} {g : Guild} (h : (ps.get g).length < pileLimit)
    (c : Card String) : (ps.set g (ps.get g ++ [c])).room < ps.room := by
  cases g <;>
    simp only [room, Guild.all, List.map_cons, List.map_nil, List.sum_cons, List.sum_nil, get_set,
      reduceCtorEq, if_true, if_false, List.length_append, List.length_singleton] <;> omega

end Piles

def usable : List Resource := MoveKind.all.filterMap MoveKind.uses?

theorem mem_usable {k : MoveKind} {x : Resource} (h : k.uses? = some x) : x ∈ usable := by
  refine List.mem_filterMap.mpr ⟨k, ?_, h⟩
  cases k <;> decide

namespace Player
variable {p q : Player String Int} {x : Resource}

def means (p : Player String Int) : Nat := (usable.map fun x => (p.holds x).toNat).sum

theorem Uses.means_lt (h : p.Uses x q) (hx : x ∈ usable) : q.means < p.means := by
  refine List.sum_lt_sum _ _ (fun y _ => ?_) ⟨x, hx, ?_⟩
  · have := h.holds y
    split_ifs at this <;> omega
  · have := h.holds x
    have := h.had
    simp only [if_true] at *
    omega

end Player

variable {rules : Rulebook String} {shuffle : Shuffler String Int} {s t : State String Int}
  {p q : Player String Int} {r : Played String Int} {m : Move}

namespace State

/-- What is left of a turn in which a player moves: room on the piles, open questions, an acceptance
to give, credits and armies; the first that changes decides. -/
def leftFor (s : State String Int) (p : Player String Int) : ℕ ×ₗ ℕ ×ₗ ℕ ×ₗ ℕ :=
  toLex (p.piles.room, toLex (s.choices.length + s.conditionals.length,
    toLex (if s.deferred = none then 1 else 0, p.means)))

/-- What is left of the turn of the current player. -/
def turnLeft (s : State String Int) : ℕ ×ₗ ℕ ×ₗ ℕ ×ₗ ℕ :=
  ((atSeat? s.players s.seat).map s.leftFor).getD (toLex (0, toLex (0, toLex (0, 0))))

theorem turnLeft_eq (h : atSeat? s.players s.seat = some p) : s.turnLeft = s.leftFor p := by
  rw [turnLeft, h]
  rfl

theorem leftFor_lt_of_room (h : q.piles.room < p.piles.room) : t.leftFor q < s.leftFor p :=
  Prod.Lex.toLex_lt_toLex.mpr (.inl h)

theorem leftFor_lt_of_questions (hpiles : q.piles = p.piles)
    (h : t.choices.length + t.conditionals.length < s.choices.length + s.conditionals.length) :
    t.leftFor q < s.leftFor p := by
  refine Prod.Lex.toLex_lt_toLex.mpr (.inr ⟨congrArg Piles.room hpiles, ?_⟩)
  exact Prod.Lex.toLex_lt_toLex.mpr (.inl h)

theorem leftFor_lt_of_deferring (hpiles : q.piles = p.piles) (hchoices : t.choices = s.choices)
    (hconditionals : t.conditionals = s.conditionals) (hs : s.deferred = none)
    (ht : t.deferred ≠ none) : t.leftFor q < s.leftFor p := by
  unfold leftFor
  rw [hpiles, hchoices, hconditionals, if_pos hs, if_neg ht]
  refine Prod.Lex.toLex_lt_toLex.mpr (.inr ⟨rfl, Prod.Lex.toLex_lt_toLex.mpr (.inr ⟨rfl, ?_⟩)⟩)
  exact Prod.Lex.toLex_lt_toLex.mpr (.inl Nat.zero_lt_one)

theorem leftFor_lt_of_means (hpiles : q.piles = p.piles) (hchoices : t.choices = s.choices)
    (hconditionals : t.conditionals = s.conditionals) (hdeferred : t.deferred = s.deferred)
    (h : q.means < p.means) : t.leftFor q < s.leftFor p := by
  unfold leftFor
  rw [hpiles, hchoices, hconditionals, hdeferred]
  refine Prod.Lex.toLex_lt_toLex.mpr (.inr ⟨rfl, Prod.Lex.toLex_lt_toLex.mpr (.inr ⟨rfl, ?_⟩)⟩)
  exact Prod.Lex.toLex_lt_toLex.mpr (.inr ⟨rfl, h⟩)

end State

theorem Deed.turnLeft_lt {e : Option Expansion} (hs : s.Seated) (hq : Questions s e)
    (hp : atSeat? s.players s.seat = some p) (h : Deed s p m t) (hend : m.kind ≠ .endTurn)
    (hconsolidate : m.kind ≠ .consolidate) : t.turnLeft < s.turnLeft := by
  have hlt {q : Player String Int} (goes : s.Goes p q t) (h : t.leftFor q < s.leftFor p) :
      t.turnLeft < s.turnLeft := by
    rwa [State.turnLeft_eq (goes.current hs hp), State.turnLeft_eq hp]
  cases h with
  | spending x q goes hm hx choices conditionals deferred owing =>
    exact hlt goes (State.leftFor_lt_of_means hx.piles choices conditionals deferred
      (hx.means_lt (mem_usable hm)))
  | settling d q goes hm hd last piles choices conditionals deferred =>
    -- the benefit may grant anything, but its question is the front one and goes
    refine hlt goes (State.leftFor_lt_of_questions piles ?_)
    have hfront := List.length_pos_of_mem (List.mem_of_head? (hq.deferred d hd).2.1)
    rw [choices, conditionals, List.length_tail]
    omega
  | expanding c q goes hm owesNothing room piles deferred =>
    exact hlt goes (State.leftFor_lt_of_room (piles ▸ Piles.room_put room c))
  | choosing place q goes hm open_ piles choices conditionals deferred =>
    refine hlt goes (State.leftFor_lt_of_questions piles ?_)
    rw [choices, conditionals, List.length_eraseIdx_of_lt open_]
    omega
  | closing q goes hm hd open_ piles choices conditionals deferred =>
    refine hlt goes (State.leftFor_lt_of_questions piles ?_)
    have := List.length_pos_iff.mpr open_
    rw [choices, conditionals, List.length_tail]
    omega
  | deferring d hm hd goes choices conditionals deferred =>
    exact hlt goes (State.leftFor_lt_of_deferring rfl choices conditionals hd (by simp [deferred]))
  | starting q goes hm hs counters deferred => exact absurd hm hend
  | passing q hm => exact absurd hm (not_or.mpr ⟨hend, hconsolidate⟩)

theorem Reachable.turnLeft_lt (h : Reachable rules shuffle s)
    (hr : s.play rules shuffle m = .ok r) (hend : m.kind ≠ .endTurn)
    (hconsolidate : m.kind ≠ .consolidate) : r.state.turnLeft < s.turnLeft := by
  obtain ⟨p, hp, hdeed⟩ := State.play_deed h.seated hr
  obtain ⟨e, he⟩ := h.questions
  exact hdeed.turnLeft_lt h.seated he hp.current hend hconsolidate

/-- No play goes on forever with every move accepted and none of them ending the turn. -/
theorem no_endless_turn (h : Reachable rules shuffle s) :
    ¬∃ (states : ℕ → State String Int) (moves : ℕ → Move), states 0 = s ∧
      ∀ n, (moves n).kind ≠ .endTurn ∧ (moves n).kind ≠ .consolidate ∧
        ∃ r, (states n).play rules shuffle (moves n) = .ok r ∧ r.state = states (n + 1) := by
  rintro ⟨states, moves, rfl, hplay⟩
  have hreachable (n : ℕ) : Reachable rules shuffle (states n) := by
    induction n with
    | zero => exact h
    | succ n ih =>
      obtain ⟨-, -, r, hr, heq⟩ := hplay n
      exact heq ▸ ih.play hr
  obtain ⟨n, hn⟩ := WellFounded.not_rel_apply_succ (r := (· < ·)) fun n => (states n).turnLeft
  obtain ⟨hend, hconsolidate, r, hr, heq⟩ := hplay n
  exact hn (heq ▸ (hreachable n).turnLeft_lt hr hend hconsolidate)

/-- A game of two in the middle of a turn, with a card played and a conditional accepted. -/
theorem no_endless_turn_sample :
    ∃ s₀ : State String Int,
      newGame sampleRulebook unshuffled "game" 7 ["Ada", "Ben"] = .ok s₀ ∧
        let s := s₀.run sampleRulebook unshuffled sampleSteps
        s.phase = .playing ∧
          ¬∃ (states : ℕ → State String Int) (moves : ℕ → Move), states 0 = s ∧
            ∀ n, (moves n).kind ≠ .endTurn ∧ (moves n).kind ≠ .consolidate ∧
              ∃ r, (states n).play sampleRulebook unshuffled (moves n) = .ok r ∧
                r.state = states (n + 1) := by
  obtain ⟨s₀, h⟩ : ∃ s₀ : State String Int,
      newGame sampleRulebook unshuffled "game" 7 ["Ada", "Ben"] = .ok s₀ := ⟨_, rfl⟩
  refine ⟨s₀, h, ?_, no_endless_turn (Reachable.run (.deal h) sampleSteps)⟩
  obtain rfl := Except.ok.inj h
  decide +kernel

end GuildCards
