import Mathlib
import GuildCards.Proofs.Play.Listed
import GuildCards.Proofs.Play.Seats

/-!
The two policies on open questions. Under the strict one a card waits until no question is open; under
the lenient one playing it drops them. Nothing else depends on the policy, so what the strict one
accepts the lenient one accepts with the same outcome, and every strict game is a lenient game.
-/
namespace GuildCards
open Document Effect

def Rulebook.withPolicy {ι : Type} (rules : Rulebook ι) (strict : Bool) : Rulebook ι :=
  { rules with strict }

theorem Rulebook.withPolicy_self {ι : Type} (rules : Rulebook ι) :
    rules.withPolicy rules.strict = rules := rfl

variable {rules : Rulebook String} {shuffle : Shuffler String Int} {s : State String Int}
  {p : Player String Int} {r : Played String Int} {m : Move} {card : Value}

theorem Lists.all {x : Except Fault (List Move)} {P Q : Move → Prop} {moves : List Move}
    (h : Lists x P) (hx : x = .ok moves) (hPQ : ∀ g, P g → Q g) : ∀ g ∈ moves, Q g := by
  obtain ⟨l, hl, hmem⟩ := h
  obtain rfl := Except.ok.inj (hx.symm.trans hl)
  exact fun g hg => hPQ g ((hmem g).mp hg)

namespace State

theorem open?_eq_nil : s.open? = [] ↔ s.awaiting? = none := by
  unfold open? awaiting?
  cases s.choices <;> cases s.conditionals <;> simp

/-! ### Moves -/

theorem expand_of_answered (policy : Bool) (h : s.awaiting? = none) (p : Player String Int)
    (card : Value) : s.expand (rules.withPolicy policy) p card = s.expand rules p card := by
  have hfree : (rules.strict = false ∨ s.awaiting? = none) = True := eq_true (.inr h)
  have hfree' : (policy = false ∨ s.awaiting? = none) = True := eq_true (.inr h)
  simp only [expand, Rulebook.withPolicy, hfree, hfree']

theorem expand_of_awaiting (h : s.awaiting? ≠ none)
    (hr : s.expand (rules.withPolicy false) p card = .ok r) :
    s.expand (rules.withPolicy true) p card = .error .mustAnswer := by
  obtain ⟨c, t, hc, -⟩ := expand_eq_ok.mp hr
  have hwait : ¬((rules.withPolicy true).strict = false ∨ s.awaiting? = none) := by
    simp [Rulebook.withPolicy, h]
  have howes : ¬decide (0 < p.counters.discard) = true := by simpa using hc.owesNothing
  unfold expand
  rw [need_bind_eq_error]
  refine .inr ⟨hc.given, ?_⟩
  rw [needSome_bind_eq_error]
  refine .inr ⟨c, hc.found, ?_⟩
  rw [Amount.isPositive_int, lift_ok, ok_bind, need_bind_eq_error]
  refine .inr ⟨howes, ?_⟩
  rw [need_bind_eq_error]
  exact .inl ⟨hwait, rfl⟩

theorem perform_of_ne_expand (policy : Bool) (hm : m.kind ≠ .expand) (p : Player String Int) :
    s.perform (rules.withPolicy policy) shuffle p m = s.perform rules shuffle p m := by
  unfold perform
  cases hk : m.kind <;> first | exact absurd hk hm | rfl

/-- The policy matters only to a card that is played while a question is open. -/
theorem play_withPolicy (policy : Bool) (h : m.kind = .expand → s.awaiting? = none) :
    s.play (rules.withPolicy policy) shuffle m = s.play rules shuffle m := by
  have hperform (p : Player String Int) :
      s.perform (rules.withPolicy policy) shuffle p m = s.perform rules shuffle p m := by
    by_cases hm : m.kind = .expand
    · simp only [perform, hm]
      exact expand_of_answered policy (h hm) p m.card
    · exact perform_of_ne_expand policy hm p
  simp only [play, hperform]

theorem play_of_awaiting (hm : m.kind = .expand) (h : s.awaiting? ≠ none)
    (hr : s.play (rules.withPolicy false) shuffle m = .ok r) :
    s.play (rules.withPolicy true) shuffle m = .error .mustAnswer := by
  obtain ⟨p, x, hp, hx, -⟩ := play_eq_ok.mp hr
  simp only [perform, hm] at hx
  refine bind_eq_error.mpr (.inr ⟨p, mover_eq_ok.mpr hp, bind_eq_error.mpr (.inl ?_)⟩)
  simp only [perform, hm]
  exact expand_of_awaiting h hx

theorem answered_of_play (hm : m.kind = .expand)
    (hr : s.play (rules.withPolicy true) shuffle m = .ok r) : s.awaiting? = none := by
  obtain ⟨p, x, -, hx, -⟩ := play_eq_ok.mp hr
  simp only [perform, hm] at hx
  obtain ⟨c, t, hc, -⟩ := expand_eq_ok.mp hx
  exact hc.answered.resolve_left Bool.noConfusion

theorem dropped_of_play (hr : s.play rules shuffle m = .ok r) :
    r.dropped = if m.kind = .expand then s.open? else [] := by
  obtain ⟨p, x, -, hx, rfl⟩ := play_eq_ok.mp hr
  change x.dropped = _
  unfold perform at hx
  cases hk : m.kind <;> rw [hk] at hx <;> simp only [] at hx
  case expand =>
    obtain ⟨c, t, -, rfl⟩ := expand_eq_ok.mp hx
    rfl
  case consolidate =>
    obtain ⟨cards, q, -, -, rfl⟩ := consolidate_eq_ok.mp hx
    rfl
  case endTurn =>
    split at hx
    · obtain rfl := Except.ok.inj hx
      rfl
    · obtain ⟨q, -, rfl⟩ := endTurn_eq_ok.mp hx
      rfl
  case draw => rcases draw_eq_ok.mp hx with ⟨-, rfl⟩ | ⟨-, -, cards, -, rfl⟩ <;> rfl
  case take =>
    obtain ⟨c, -, rfl⟩ := take_eq_ok.mp hx
    rfl
  case discard =>
    obtain ⟨c, -, rfl⟩ := discard_eq_ok.mp hx
    rfl
  case exile =>
    obtain ⟨c, -, rfl⟩ := exile_eq_ok.mp hx
    rfl
  case bury =>
    obtain ⟨c, -, rfl⟩ := bury_eq_ok.mp hx
    rfl
  case revive =>
    obtain ⟨c, -, rfl⟩ := revive_eq_ok.mp hx
    rfl
  case fight =>
    obtain ⟨x, -, -, -, rfl⟩ := fight_eq_ok.mp hx
    rfl
  case buildOutpost =>
    obtain ⟨x, -, -, -, rfl⟩ := buildOutpost_eq_ok.mp hx
    rfl
  case placeArmy =>
    obtain ⟨x, -, -, -, -, rfl⟩ := placeArmy_eq_ok.mp hx
    rfl
  case resolveChoice =>
    obtain ⟨c, name, b, -, -, -, -, rfl⟩ := answerChoice_eq_ok.mp hx
    rfl
  case resolveConditional =>
    obtain ⟨-, hx⟩ := need_bind_eq_ok.mp hx
    obtain ⟨c, -, -, -, ⟨-, rfl⟩ | ⟨-, b, -, -, rfl⟩⟩ := answerConditional_eq_ok.mp hx
    · rfl
    · unfold accepted
      cases c.cost.kind <;> rfl

theorem play_lenient (hr : s.play (rules.withPolicy true) shuffle m = .ok r) :
    s.play (rules.withPolicy false) shuffle m = .ok r ∧ r.dropped = [] := by
  refine ⟨?_, ?_⟩
  · rw [play_withPolicy false fun hm => answered_of_play hm hr]
    rwa [play_withPolicy true fun hm => answered_of_play hm hr] at hr
  · rw [dropped_of_play hr]
    split_ifs with hm
    · exact open?_eq_nil.mpr (answered_of_play hm hr)
    · rfl

/-- What only the lenient policy accepts is a card played while a question is open. -/
theorem refused_for_question {why : Refusal}
    (hstrict : s.play (rules.withPolicy true) shuffle m = .error why)
    (hlenient : s.play (rules.withPolicy false) shuffle m = .ok r) :
    m.kind = .expand ∧ why = .mustAnswer ∧ s.awaiting? ≠ none := by
  have hdiffer : ¬(m.kind = .expand → s.awaiting? = none) := by
    intro h
    rw [play_withPolicy true h, ← play_withPolicy false h, hlenient] at hstrict
    cases hstrict
  obtain ⟨hm, hopen⟩ := Classical.not_imp.mp hdiffer
  rw [play_of_awaiting hm hopen hlenient] at hstrict
  exact ⟨hm, (Except.error.inj hstrict).symm, hopen⟩

def playAll (rules : Rulebook String) (shuffle : Shuffler String Int) (s : State String Int) :
    List Move → Except Refusal (List (Played String Int))
  | [] => .ok []
  | m :: ms => do
    let r ← s.play rules shuffle m
    pure (r :: (← r.state.playAll rules shuffle ms))

theorem playAll_lenient {ms : List Move} {rs : List (Played String Int)}
    (h : s.playAll (rules.withPolicy true) shuffle ms = .ok rs) :
    s.playAll (rules.withPolicy false) shuffle ms = .ok rs := by
  induction ms generalizing s rs with
  | nil => exact h
  | cons m ms ih =>
    obtain ⟨r, hr, h⟩ := bind_eq_ok.mp h
    obtain ⟨rest, hrest, h⟩ := bind_eq_ok.mp h
    exact bind_eq_ok.mpr ⟨r, (play_lenient hr).1, bind_eq_ok.mpr ⟨rest, ih hrest, h⟩⟩

/-! ### The list of legal moves -/

theorem expansions_strict {moves : List Move}
    (h : s.expansions (rules.withPolicy false) p = .ok moves) :
    s.expansions (rules.withPolicy true) p =
      .ok (if s.awaiting? = none then moves else []) := by
  simp only [expansions, Amount.isPositive_int, ok_bind, decide_eq_true_eq, Rulebook.withPolicy,
    Bool.false_eq_true, false_and, or_false, true_and] at h ⊢
  by_cases hopen : s.awaiting? = none
  · simpa only [hopen, ne_eq, not_true_eq_false, or_false, if_true] using h
  · simp only [hopen, ne_eq, not_false_eq_true, or_true, if_true, if_false]
    rfl

theorem kind_of_mem_expansions {moves : List Move} (h : s.expansions rules p = .ok moves) :
    ∀ g ∈ moves, g.kind = .expand := by
  refine lists_expansions.all h ?_
  rintro _ ⟨-, -, card, -, rfl⟩
  rfl

theorem kind_of_mem_choiceAnswers : ∀ g ∈ s.choiceAnswers p, g.kind ≠ .expand := by
  intro g hg
  obtain ⟨i, c, b, -, -, rfl⟩ := mem_choiceAnswers.mp hg
  exact MoveKind.noConfusion

theorem kind_of_mem_conditionalAnswers {moves : List Move}
    (h : s.conditionalAnswers p = .ok moves) : ∀ g ∈ moves, g.kind ≠ .expand := by
  refine lists_conditionalAnswers.all h ?_
  rintro _ ⟨c, -, -, -, ⟨-, ⟨-, rfl⟩ | ⟨b, -, rfl⟩⟩ | rfl⟩ <;> exact MoveKind.noConfusion

theorem kind_of_mem_cardMoves {moves : List Move} (h : s.cardMoves p = .ok moves) :
    ∀ g ∈ moves, g.kind ≠ .expand := by
  refine lists_cardMoves.all h ?_
  rintro _ (⟨-, -, rfl⟩ | ⟨-, c, -, rfl⟩ | ⟨c, -, k, hk, -, rfl⟩ | ⟨-, c, -, rfl⟩)
  · exact MoveKind.noConfusion
  · exact MoveKind.noConfusion
  · rintro rfl
    exact absurd hk (by decide)
  · exact MoveKind.noConfusion

theorem kind_of_mem_spotMoves {moves : List Move} (h : s.spotMoves p = .ok moves) :
    ∀ g ∈ moves, g.kind ≠ .expand := by
  refine (lists_mapM fun x (_ : x ∈ s.spots) => lists_movesOn x).all h ?_
  rintro _ ⟨x, -, k, judge, ⟨rfl, -⟩ | ⟨rfl, -⟩ | ⟨rfl, -⟩, -, rfl⟩ <;>
    exact MoveKind.noConfusion

theorem movesOf_strict {moves : List Move} (h : s.movesOf (rules.withPolicy false) p = .ok moves) :
    s.movesOf (rules.withPolicy true) p =
      .ok (if s.awaiting? = none then moves else moves.filter fun g => g.kind ≠ .expand) := by
  obtain ⟨answers, hanswers, h⟩ := bind_eq_ok.mp h
  obtain ⟨expansions, hexpansions, h⟩ := bind_eq_ok.mp h
  obtain ⟨cards, hcards, h⟩ := bind_eq_ok.mp h
  obtain ⟨spots, hspots, h⟩ := bind_eq_ok.mp h
  obtain rfl := pure_eq_ok.mp h
  simp only [movesOf, hanswers, expansions_strict hexpansions, hcards, hspots, ok_bind]
  by_cases hopen : s.awaiting? = none
  · simp only [if_pos hopen]
    rfl
  simp only [if_neg hopen]
  -- all that is listed to play a card stands in one part of the list
  have keep {l : List Move} (hl : ∀ g ∈ l, g.kind ≠ .expand) :
      (l.filter fun g => g.kind ≠ .expand) = l :=
    List.filter_eq_self.mpr fun g hg => decide_eq_true (hl g hg)
  have hnone : (expansions.filter fun g => g.kind ≠ .expand) = [] :=
    List.filter_eq_nil_iff.mpr fun g hg => by simp [kind_of_mem_expansions hexpansions g hg]
  rw [List.filter_append, List.filter_append, List.filter_append, List.filter_append,
    List.filter_append, keep kind_of_mem_choiceAnswers,
    keep (kind_of_mem_conditionalAnswers hanswers), hnone, keep (kind_of_mem_cardMoves hcards),
    keep (kind_of_mem_spotMoves hspots)]
  rfl

theorem legalMoves_strict {moves : List Move}
    (h : s.legalMoves (rules.withPolicy false) = .ok moves) :
    s.legalMoves (rules.withPolicy true) =
      .ok (if s.awaiting? = none then moves else moves.filter fun g => g.kind ≠ .expand) := by
  unfold legalMoves at h ⊢
  by_cases hover : s.phase = .ended ∨ s.players.isEmpty = true
  · rw [if_pos hover] at h ⊢
    obtain rfl := pure_eq_ok.mp h
    simp [pure, Except.pure]
  rw [if_neg hover] at h ⊢
  obtain ⟨p, hp, h⟩ := bind_eq_ok.mp h
  rw [hp, ok_bind]
  by_cases hsetup : s.phase = .setup
  · rw [if_pos hsetup] at h ⊢
    obtain rfl := pure_eq_ok.mp h
    simp [pure, Except.pure, Move.plain]
  · rw [if_neg hsetup] at h ⊢
    exact movesOf_strict h

end State

/-! ### Games -/

theorem deal_withPolicy (policy : Bool) (n : Nat) (cards : List (Card String))
    (names : List String) :
    deal (ν := Int) (rules.withPolicy policy) n cards names = deal rules n cards names := by
  induction names generalizing n cards with
  | nil => rfl
  | cons name names ih =>
    simp only [deal, ih]
    rfl

theorem newGame_withPolicy (policy : Bool) (id : String) (seed : Int) (names : List String) :
    newGame (rules.withPolicy policy) shuffle id seed names =
      newGame rules shuffle id seed names := by
  simp only [newGame, deal_withPolicy]
  rfl

theorem Reachable.of_strict (h : Reachable (rules.withPolicy true) shuffle s) :
    Reachable (rules.withPolicy false) shuffle s := by
  induction h with
  | deal h =>
    rw [newGame_withPolicy, ← newGame_withPolicy false] at h
    exact .deal h
  | @step s h x ih =>
    cases x with
    | move m =>
      change Reachable _ _ (s.next _ shuffle m)
      rcases State.next_eq_or (rules.withPolicy true) shuffle s m with heq | ⟨r, hr, heq⟩
      -- a refused move is no step at all
      · exact heq.symm ▸ ih
      · rw [heq, ← State.next_of_play (State.play_lenient hr).1]
        exact ih.step (.move m)
    | close => exact ih.step .close
    | stamp name time => exact ih.step (.stamp name time)

theorem Reachable.lenient (h : Reachable rules shuffle s) :
    Reachable (rules.withPolicy false) shuffle s := by
  cases hpolicy : rules.strict with
  | false => rwa [← hpolicy, Rulebook.withPolicy_self]
  | true =>
    apply Reachable.of_strict
    rwa [← hpolicy, Rulebook.withPolicy_self]

theorem Reachable.exists_legalMoves (h : Reachable rules shuffle s) (policy : Bool) :
    ∃ moves, s.legalMoves (rules.withPolicy policy) = .ok moves := by
  by_cases hover : s.phase = .ended ∨ s.players = []
  · exact ⟨[], State.legalMoves_over hover⟩
  rw [not_or] at hover
  obtain ⟨p, hp⟩ := h.seated.exists_current hover.2
  have hlists : Lists (s.legalMoves (rules.withPolicy policy)) _ :=
    State.lists_legalMoves hover.1 hover.2 hp
  obtain ⟨moves, hmoves, -⟩ := hlists
  exact ⟨moves, hmoves⟩

/-- The strict policy refines the lenient one. A move that it accepts is accepted under the lenient
one with the same outcome and drops no question; if only the lenient one accepts a move, the move
plays a card while a question is open, and the strict policy says so. The strict list of legal moves
is the lenient one, without the cards to play while a question is open. Both policies deal the same
games, and moves that are accepted one after the other under the strict one lead through the same
states under the lenient one. -/
theorem strict_refines_lenient (h : Reachable rules shuffle s) :
    let strict := rules.withPolicy true
    let lenient := rules.withPolicy false
    (∀ m r, s.play strict shuffle m = .ok r →
      s.play lenient shuffle m = .ok r ∧ r.dropped = []) ∧
    (∀ m why r, s.play strict shuffle m = .error why → s.play lenient shuffle m = .ok r →
      m.kind = .expand ∧ why = .mustAnswer ∧ why.code = "AWAITING_INPUT" ∧ s.awaiting? ≠ none) ∧
    (∃ moves, s.legalMoves lenient = .ok moves ∧ s.legalMoves strict =
      .ok (if s.awaiting? = none then moves else moves.filter fun g => g.kind ≠ .expand)) ∧
    (∀ id seed names,
      newGame strict shuffle id seed names = newGame lenient shuffle id seed names) ∧
    Reachable lenient shuffle s ∧
    ∀ ms rs, s.playAll strict shuffle ms = .ok rs → s.playAll lenient shuffle ms = .ok rs := by
  intro strict lenient
  refine ⟨fun m r hr => State.play_lenient hr, fun m why r hstrict hlenient => ?_, ?_,
    fun id seed names => ?_, h.lenient, fun ms rs hrs => State.playAll_lenient hrs⟩
  · obtain ⟨hm, hwhy, hopen⟩ := State.refused_for_question hstrict hlenient
    exact ⟨hm, hwhy, hwhy ▸ rfl, hopen⟩
  · obtain ⟨moves, hmoves⟩ := h.exists_legalMoves false
    exact ⟨moves, hmoves, State.legalMoves_strict hmoves⟩
  · exact (newGame_withPolicy true id seed names).trans (newGame_withPolicy false id seed names).symm

/-- A second card is played while the choices of the first are open. -/
theorem strict_refines_lenient_sample :
    ∃ s₀ : State String Int,
      newGame sampleRulebook unshuffled "game" 7 ["Ada", "Ben"] = .ok s₀ ∧
        let s := s₀.run sampleRulebook unshuffled (sampleSteps.take 2)
        let m : Move := .onCard .expand "player-1" "royal-red"
        s.play (sampleRulebook.withPolicy true) unshuffled m = .error .mustAnswer ∧
          (∃ r, s.play (sampleRulebook.withPolicy false) unshuffled m = .ok r) ∧
          s.awaiting? ≠ none ∧
          ∃ moves, s.legalMoves (sampleRulebook.withPolicy false) = .ok moves ∧
            s.legalMoves (sampleRulebook.withPolicy true) =
              .ok (moves.filter fun g => g.kind ≠ .expand) := by
  obtain ⟨s₀, h⟩ : ∃ s₀ : State String Int,
      newGame sampleRulebook unshuffled "game" 7 ["Ada", "Ben"] = .ok s₀ := ⟨_, rfl⟩
  let s := s₀.run sampleRulebook unshuffled (sampleSteps.take 2)
  let m : Move := .onCard .expand "player-1" "royal-red"
  have hrun : (s.play (sampleRulebook.withPolicy true) unshuffled m).isOk = false ∧
      (s.play (sampleRulebook.withPolicy false) unshuffled m).isOk = true := by
    subst s
    obtain rfl := Except.ok.inj h
    decide +kernel
  obtain ⟨-, hrefused, ⟨moves, hlenient, hstrict⟩, -⟩ :=
    strict_refines_lenient (Reachable.run (.deal h) (sampleSteps.take 2))
  cases hs : s.play (sampleRulebook.withPolicy true) unshuffled m with
  | ok r =>
    rw [hs] at hrun
    cases hrun.1
  | error why =>
    cases hl : s.play (sampleRulebook.withPolicy false) unshuffled m with
    | error why =>
      rw [hl] at hrun
      cases hrun.2
    | ok r =>
      obtain ⟨-, rfl, -, hopen⟩ := hrefused m why r hs hl
      rw [if_neg hopen] at hstrict
      exact ⟨s₀, h, hs, ⟨r, hl⟩, hopen, moves, hlenient, hstrict⟩

end GuildCards
