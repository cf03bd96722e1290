import Mathlib
import GuildCards.Proofs.Effect.Names
import GuildCards.Proofs.Play.Seats

/-!
The open questions. They are those of the last card played in the current turn: choices are answered
in any order and conditionals from the front, and a deferred conditional is the front one, so the
benefit that the last discard brings belongs to the question that goes.
-/
namespace GuildCards
open Document Effect

theorem Effect.Conditional.Grants.offers {c : Conditional} {v : Value} {b : Benefit}
    (h : c.Grants v b) : c.Offers b := by
  unfold Offers
  obtain ⟨hn, rfl⟩ | ⟨hn, name, -, -, hb⟩ := h
  · rw [if_pos hn]
  · rw [if_neg hn]
    exact ⟨List.mem_of_find?_eq_some hb, find?_text hb⟩

/-- A card played for the power of a tier, and the player once what it grants at once is granted. -/
structure Expansion where
  card : Card String
  tier : Tier
  player : Player String Int

namespace Expansion

def choices (x : Expansion) : List Choice := (x.card.clausesAt x.tier).filterMap Clause.choice?

def conditionals (x : Expansion) : List Conditional := payableOf (x.card.clausesAt x.tier) x.player

end Expansion

variable {rules : Rulebook String} {shuffle : Shuffler String Int} {s t s₀ : State String Int}
  {p : Player String Int} {r : Played String Int} {m : Move} {e : Option Expansion}

namespace State

def expansion? (s : State String Int) (m : Move) : Option Expansion := do
  let p ← atSeat? s.players s.seat
  let c ← named p.hand m.card
  let t ← Tier.at? (p.piles.get c.guild ++ [c]).length
  some ⟨c, t, (p.putDown c).grantedAll (grantsOf (c.clausesAt t))⟩

/-- The last card played in the turn, after a step. -/
def expansionAfter (rules : Rulebook String) (shuffle : Shuffler String Int) (s : State String Int)
    (e : Option Expansion) : Step → Option Expansion
  | .move m =>
    match s.play rules shuffle m with
    | .ok r =>
      if m.kind = .expand then s.expansion? m else if r.state.turn = s.turn then e else none
    | .error _ => e
  | _ => e

def lastExpansion (rules : Rulebook String) (shuffle : Shuffler String Int) (s : State String Int)
    (e : Option Expansion) : List Step → Option Expansion
  | [] => e
  | x :: xs =>
    (s.after rules shuffle x).lastExpansion rules shuffle (s.expansionAfter rules shuffle e x) xs

end State

/-- The open questions of a state where a card, if any, was the last one played in the turn. -/
structure Questions (s : State String Int) (e : Option Expansion) : Prop where
  none_asked : e = none → s.choices = [] ∧ s.conditionals = [] ∧ s.deferred = none
  choices : ∀ x, e = some x → s.choices.Sublist x.choices
  conditionals : ∀ x, e = some x → s.conditionals <:+ x.conditionals
  deferred : ∀ d, s.deferred = some d → s.choices = [] ∧ s.conditionals.head? = some d.intent ∧
    d.intent.cost.kind = .discard ∧ d.intent.Offers d.benefit

inductive Answers (s : State String Int) (m : Move) (t : State String Int) : Prop where
  | none (hm : m.kind ≠ .expand) (turn : t.turn = s.turn) (choices : t.choices = s.choices)
    (conditionals : t.conditionals = s.conditionals) (deferred : t.deferred = s.deferred)
  | asking (x : Expansion) (hm : m.kind = .expand) (hx : s.expansion? m = some x)
    (choices : t.choices = x.choices) (conditionals : t.conditionals = x.conditionals)
    (deferred : t.deferred = .none)
  | passing (hm : m.kind ≠ .expand) (turn : t.turn ≠ s.turn) (choices : t.choices = [])
    (conditionals : t.conditionals = []) (deferred : t.deferred = .none)
  | choosing (place : Nat) (hm : m.kind ≠ .expand) (turn : t.turn = s.turn) (open_ : s.choices ≠ [])
    (choices : t.choices = s.choices.eraseIdx place)
    (conditionals : t.conditionals = s.conditionals) (deferred : t.deferred = s.deferred)
  | closing (hm : m.kind ≠ .expand) (turn : t.turn = s.turn) (choices : t.choices = s.choices)
    (conditionals : t.conditionals = s.conditionals.tail) (deferred : t.deferred = .none)
  | deferring (d : Deferred) (hm : m.kind ≠ .expand) (turn : t.turn = s.turn)
    (noChoice : s.choices = []) (front : s.conditionals.head? = some d.intent)
    (cost : d.intent.cost.kind = .discard) (offers : d.intent.Offers d.benefit)
    (choices : t.choices = s.choices) (conditionals : t.conditionals = s.conditionals)
    (deferred : t.deferred = some d)

namespace State

theorem perform_answers (hp : s.MayMove m p) (h : s.perform rules shuffle p m = .ok r) :
    Answers s m r.state := by
  have hcurrent := hp.current
  unfold perform at h
  cases hk : m.kind <;> rw [hk] at h <;> simp only [] at h
  case expand =>
    obtain ⟨c, t, hc, rfl⟩ := expand_eq_ok.mp h
    refine .asking ⟨c, t, _⟩ hk ?_ rfl rfl rfl
    simp only [expansion?, hcurrent, hc.found, hc.tier, Option.bind_eq_bind, Option.bind_some]
    rfl
  case consolidate =>
    obtain ⟨cards, q, -, -, rfl⟩ := consolidate_eq_ok.mp h
    refine .passing (by simp [hk]) ?_ rfl rfl rfl
    change s.turn + 1 ≠ s.turn
    omega
  case endTurn =>
    split at h
    · obtain rfl := Except.ok.inj h
      exact .none (by simp [hk]) rfl rfl rfl rfl
    · obtain ⟨q, -, rfl⟩ := endTurn_eq_ok.mp h
      refine .passing (by simp [hk]) ?_ rfl rfl rfl
      change s.turn + 1 ≠ s.turn
      omega
  case draw =>
    rcases draw_eq_ok.mp h with ⟨-, rfl⟩ | ⟨-, -, cards, -, rfl⟩ <;>
      exact .none (by simp [hk]) rfl rfl rfl rfl
  case take =>
    obtain ⟨c, -, rfl⟩ := take_eq_ok.mp h
    exact .none (by simp [hk]) rfl rfl rfl rfl
  case discard =>
    obtain ⟨c, -, ⟨-, hr⟩ | ⟨d, -, -, hr⟩⟩ := discard_cases h <;> rw [hr]
    · exact .none (by simp [hk]) rfl rfl rfl rfl
    · exact .closing (by simp [hk]) rfl rfl rfl rfl
  case exile =>
    obtain ⟨c, -, rfl⟩ := exile_eq_ok.mp h
    exact .none (by simp [hk]) rfl rfl rfl rfl
  case bury =>
    obtain ⟨c, -, rfl⟩ := bury_eq_ok.mp h
    exact .none (by simp [hk]) rfl rfl rfl rfl
  case revive =>
    obtain ⟨c, -, rfl⟩ := revive_eq_ok.mp h
    exact .none (by simp [hk]) rfl rfl rfl rfl
  case fight =>
    obtain ⟨x, -, -, -, rfl⟩ := fight_eq_ok.mp h
    exact .none (by simp [hk]) rfl rfl rfl rfl
  case buildOutpost =>
    obtain ⟨x, -, -, -, rfl⟩ := buildOutpost_eq_ok.mp h
    exact .none (by simp [hk]) rfl rfl rfl rfl
  case placeArmy =>
    obtain ⟨x, -, -, -, -, rfl⟩ := placeArmy_eq_ok.mp h
    exact .none (by simp [hk]) rfl rfl rfl rfl
  case resolveChoice =>
    obtain ⟨c, name, b, -, hc, -, -, rfl⟩ := answerChoice_eq_ok.mp h
    exact .choosing _ (by simp [hk]) rfl (List.ne_nil_of_mem (List.mem_of_getElem? hc)) rfl rfl rfl
  case resolveConditional =>
    obtain ⟨-, h⟩ := need_bind_eq_ok.mp h
    obtain ⟨c, hchoices, hfront, hnone, ⟨-, rfl⟩ | ⟨-, b, hb, -, rfl⟩⟩ :=
      answerConditional_eq_ok.mp h
    · exact .closing (by simp [hk]) rfl rfl rfl hnone
    · unfold accepted
      cases hcost : c.cost.kind with
      | discard =>
        exact .deferring ⟨c, b⟩ (by simp [hk]) rfl hchoices hfront hcost hb.offers rfl rfl rfl
      | pay => exact .closing (by simp [hk]) rfl rfl rfl hnone

end State

namespace Questions

theorem congr (h : Questions s e) (choices : t.choices = s.choices)
    (conditionals : t.conditionals = s.conditionals) (deferred : t.deferred = s.deferred) :
    Questions t e := by
  obtain ⟨h₁, h₂, h₃, h₄⟩ := h
  constructor <;> simpa only [choices, conditionals, deferred]

theorem answer (h : Questions s e) (ha : Answers s m t) :
    Questions t
      (if m.kind = .expand then s.expansion? m else if t.turn = s.turn then e else none) := by
  cases ha with
  | none hm turn choices conditionals deferred =>
    rw [if_neg hm, if_pos turn]
    exact h.congr choices conditionals deferred
  | asking x hm hx choices conditionals deferred =>
    rw [if_pos hm, hx]
    refine ⟨by simp, ?_, ?_, by simp [deferred]⟩
    · rintro _ ⟨⟩
      rw [choices]
    · rintro _ ⟨⟩
      rw [conditionals]
  | passing hm turn choices conditionals deferred =>
    rw [if_neg hm, if_neg turn]
    exact ⟨fun _ => ⟨choices, conditionals, deferred⟩, by simp, by simp, by simp [deferred]⟩
  | choosing place hm turn open_ choices conditionals deferred =>
    rw [if_neg hm, if_pos turn]
    -- nothing is deferred while a choice is open
    refine ⟨fun he => absurd (h.none_asked he).1 open_, fun x hx => ?_, fun x hx => ?_,
      fun d hd => ?_⟩
    · rw [choices]
      exact (List.eraseIdx_sublist ..).trans (h.choices x hx)
    · rw [conditionals]
      exact h.conditionals x hx
    · rw [deferred] at hd
      exact absurd (h.deferred d hd).1 open_
  | closing hm turn choices conditionals deferred =>
    rw [if_neg hm, if_pos turn]
    refine ⟨fun he => ?_, fun x hx => ?_, fun x hx => ?_, by simp [deferred]⟩
    · obtain ⟨h₁, h₂, -⟩ := h.none_asked he
      exact ⟨choices.trans h₁, by rw [conditionals, h₂, List.tail_nil], deferred⟩
    · rw [choices]
      exact h.choices x hx
    · rw [conditionals]
      exact (List.tail_suffix _).trans (h.conditionals x hx)
  | deferring d hm turn noChoice front cost offers choices conditionals deferred =>
    rw [if_neg hm, if_pos turn]
    refine ⟨fun he => ?_, fun x hx => ?_, fun x hx => ?_, ?_⟩
    · rw [(h.none_asked he).2.1] at front
      cases front
    · rw [choices]
      exact h.choices x hx
    · rw [conditionals]
      exact h.conditionals x hx
    · intro d' hd'
      rw [deferred] at hd'
      obtain rfl := Option.some.inj hd'
      exact ⟨choices.trans noChoice, conditionals ▸ front, cost, offers⟩

theorem newGame {id : String} {seed : Int} {names : List String}
    (h : GuildCards.newGame rules shuffle id seed names = .ok s) : Questions s none := by
  obtain ⟨-, cards, -, rfl⟩ := State.newGame_eq_ok.mp h
  exact ⟨fun _ => ⟨rfl, rfl, rfl⟩, by simp, by simp, by simp⟩

theorem after (h : Questions s e) (x : Step) :
    Questions (s.after rules shuffle x) (s.expansionAfter rules shuffle e x) := by
  cases x with
  | move m =>
    change Questions (s.next rules shuffle m) _
    cases hr : s.play rules shuffle m with
    | error _ => simpa [State.next, State.expansionAfter, hr] using h
    | ok r =>
      obtain ⟨p, y, hp, hy, rfl⟩ := State.play_eq_ok.mp hr
      rw [State.next_of_play hr, State.expansionAfter, hr]
      exact (h.answer (State.perform_answers hp hy)).congr rfl rfl rfl
  | close =>
    rcases State.close_eq_or rules shuffle s with heq | ⟨-, heq⟩ <;> rw [heq]
    · exact h
    · exact h.congr rfl rfl rfl
  | stamp name time => exact h.congr rfl rfl rfl

theorem run (h : Questions s e) (steps : List Step) :
    Questions (s.run rules shuffle steps) (s.lastExpansion rules shuffle e steps) := by
  induction steps generalizing s e with
  | nil => exact h
  | cons x xs ih => exact ih (h.after x)

theorem choice_mem (h : Questions s e) {x : Choice} (hx : x ∈ s.choices) :
    ∃ (c : Card String) (t : Tier), .choice x ∈ c.clausesAt t := by
  cases e with
  | none => simp [(h.none_asked rfl).1] at hx
  | some y =>
    obtain ⟨z, hz, hzx⟩ := List.mem_filterMap.mp ((h.choices y rfl).subset hx)
    obtain rfl : z = .choice x := by
      cases z <;> simp_all [Clause.choice?]
    exact ⟨y.card, y.tier, hz⟩

theorem conditional_mem (h : Questions s e) {x : Conditional} (hx : x ∈ s.conditionals) :
    ∃ (c : Card String) (t : Tier), .conditional x ∈ c.clausesAt t := by
  cases e with
  | none => simp [(h.none_asked rfl).2.1] at hx
  | some y =>
    have hmem := List.mem_of_mem_filter ((h.conditionals y rfl).subset hx)
    obtain ⟨z, hz, hzx⟩ := List.mem_filterMap.mp hmem
    obtain rfl : z = .conditional x := by
      cases z <;> simp_all [Clause.conditional?]
    exact ⟨y.card, y.tier, hz⟩

end Questions

/-- In every run the open questions are those of the last card played in the turn. -/
theorem questions_of_last_expansion {id : String} {seed : Int} {names : List String}
    (h : newGame rules shuffle id seed names = .ok s₀) (steps : List Step) :
    Questions (s₀.run rules shuffle steps) (s₀.lastExpansion rules shuffle none steps) :=
  (Questions.newGame h).run steps

/-- A conditional has been accepted and its card is still to be discarded. -/
theorem questions_of_last_expansion_sample :
    ∃ s₀ : State String Int,
      newGame sampleRulebook unshuffled "game" 7 ["Ada", "Ben"] = .ok s₀ ∧
        (s₀.run sampleRulebook unshuffled sampleSteps).deferred.isSome = true ∧
        Questions (s₀.run sampleRulebook unshuffled sampleSteps)
          (s₀.lastExpansion sampleRulebook unshuffled none sampleSteps) := by
  obtain ⟨s₀, h⟩ : ∃ s₀ : State String Int,
      newGame sampleRulebook unshuffled "game" 7 ["Ada", "Ben"] = .ok s₀ := ⟨_, rfl⟩
  refine ⟨s₀, h, ?_, questions_of_last_expansion h _⟩
  obtain rfl := Except.ok.inj h
  decide +kernel

end GuildCards
