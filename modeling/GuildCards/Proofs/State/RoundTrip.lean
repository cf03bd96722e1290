import Mathlib
import GuildCards.Proofs.Cards.Conservation
import GuildCards.Proofs.Play.Questions
import GuildCards.Proofs.State.Stored

/-!
Saving and loading a game loses nothing. In every run from a deal the cards are those of the catalog
and the open questions are clauses of cards, so each of them is compiled again from its own text.
-/
namespace GuildCards
open Document Effect

variable {rules : Rulebook String} {shuffle : Shuffler String Int} {s s₀ : State String Int}
  {e : Option Expansion} {c : Card String}

theorem Card.compile_source {t : Tier} {x : Clause} (h : x ∈ c.clausesAt t) :
    Clause.compile x.source = .ok x := by
  rcases List.mem_append.mp h with h | h
  · exact Effect.compile_source (c.power.get t).compiled h
  · exact Effect.compile_source c.bonus.compiled h

namespace Step

def WellTyped : Step → Prop
  | .move m => m.WellTyped
  | _ => True

end Step

namespace State

theorem after_history {x : Step} (hs : ∀ m ∈ s.history, m.WellTyped) (hx : x.WellTyped) :
    ∀ m ∈ (s.after rules shuffle x).history, m.WellTyped := by
  cases x with
  | move m =>
    change ∀ n ∈ (s.next rules shuffle m).history, n.WellTyped
    rcases next_eq_or rules shuffle s m with heq | ⟨r, hr, heq⟩ <;> rw [heq]
    · exact hs
    · obtain ⟨p, y, -, hy, rfl⟩ := play_eq_ok.mp hr
      intro n hn
      rcases List.mem_append.mp hn with hn | hn
      · exact hs n ((perform_stays hy).history ▸ hn)
      · exact List.mem_singleton.mp hn ▸ hx
  | close =>
    rcases close_eq_or rules shuffle s with heq | ⟨-, heq⟩ <;> rw [heq] <;> exact hs
  | stamp name time => exact hs

theorem run_history {steps : List Step} (hs : ∀ m ∈ s.history, m.WellTyped)
    (hsteps : ∀ x ∈ steps, x.WellTyped) :
    ∀ m ∈ (s.run rules shuffle steps).history, m.WellTyped := by
  induction steps generalizing s with
  | nil => exact hs
  | cons x xs ih =>
    rw [List.forall_mem_cons] at hsteps
    exact ih (after_history hs hsteps.1) hsteps.2

theorem storable_run {id : String} {seed : Int} {names : List String} {steps : List Step}
    (hd : Distinct rules.cards) (hshuffle : Permutes shuffle)
    (h : newGame rules shuffle id seed names = .ok s₀) (hsteps : ∀ x ∈ steps, x.WellTyped) :
    (s₀.run rules shuffle steps).Storable rules := by
  have hcards := newGame_cards hshuffle h
  have hflow := run_flow (.deal h) hcards hd hshuffle steps
  have hquestions : Questions (s₀.run rules shuffle steps)
      (s₀.lastExpansion rules shuffle none steps) := (Questions.newGame h).run steps
  have hconditional {x : Conditional} (hx : x ∈ (s₀.run rules shuffle steps).conditionals) :
      Clause.compile x.source = .ok (.conditional x) := by
    obtain ⟨c, t, hc⟩ := hquestions.conditional_mem hx
    exact Card.compile_source hc
  refine ⟨?_, fun x hx => ?_, fun x hx => hconditional hx, ?_, ?_⟩
  · intro c hc
    exact Rulebook.card?_of_mem hd ((hflow.whole.trans hcards).subset hc)
  · obtain ⟨c, t, hc⟩ := hquestions.choice_mem hx
    exact Card.compile_source hc
  -- the deferred question is still the front one of the conditionals
  · intro d hdef
    obtain ⟨-, hfront, -, hoffers⟩ := hquestions.deferred d hdef
    exact ⟨hconditional (List.mem_of_head? hfront), hoffers.recalls⟩
  · have htyped : ∀ m ∈ (s₀.run rules shuffle steps).history, m.WellTyped := by
      refine run_history ?_ hsteps
      obtain ⟨-, cards, -, rfl⟩ := newGame_eq_ok.mp h
      simp
    exact fun m hm => (htyped m hm).spot

end State

/-- A state that well-typed moves lead to is read again, in every field, from what is written of
it. -/
theorem saved_and_loaded {id : String} {seed : Int} {names : List String} {steps : List Step}
    (hd : Distinct rules.cards) (hshuffle : Permutes shuffle)
    (h : newGame rules shuffle id seed names = .ok s₀) (hsteps : ∀ x ∈ steps, x.WellTyped) :
    State.ofRecord rules (s₀.run rules shuffle steps).toRecord = .ok (s₀.run rules shuffle steps) :=
  State.ofRecord_toRecord (State.storable_run hd hshuffle h hsteps)

/-- The deferred benefit comes back with the state. -/
theorem saved_and_loaded_sample :
    ∃ s₀ : State String Int,
      newGame sampleRulebook unshuffled "game" 7 ["Ada", "Ben"] = .ok s₀ ∧
        State.ofRecord sampleRulebook (s₀.run sampleRulebook unshuffled sampleSteps).toRecord =
          .ok (s₀.run sampleRulebook unshuffled sampleSteps) := by
  obtain ⟨s₀, h⟩ : ∃ s₀ : State String Int,
      newGame sampleRulebook unshuffled "game" 7 ["Ada", "Ben"] = .ok s₀ := ⟨_, rfl⟩
  refine ⟨s₀, h, saved_and_loaded distinct_sample permutes_unshuffled h ?_⟩
  simp only [sampleSteps, List.forall_mem_cons]
  refine ⟨?_, ?_, ?_, ?_, ?_, by simp⟩ <;> constructor <;>
    first
    | exact .inl rfl
    | exact .inr ⟨_, rfl⟩

end GuildCards
