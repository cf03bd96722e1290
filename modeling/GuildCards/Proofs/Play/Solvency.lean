import Mathlib
import GuildCards.Proofs.Effect.Amounts
import GuildCards.Proofs.Play.Course
import GuildCards.Proofs.Play.Legality

/-!
Nobody is ever in debt. No text grants an amount below zero, what a move uses up and what it pays
are there when it is made, and the discards owed for a conditional are as many as its cost says. So
what a player holds stays at zero at least, counter by counter and in armies.
-/
namespace GuildCards
open Document Effect

variable {rules : Rulebook String} {shuffle : Shuffler String Int} {s t : State String Int}
  {p q : Player String Int} {r : Played String Int} {m : Move} {b : Benefit}

def Player.Solvent (p : Player String Int) : Prop := ∀ x, 0 ≤ p.holds x

theorem Holding.solvent (h : Holding s p m t q) (hp : p.Solvent)
    (hgrants : ∀ d ∈ s.grants m t, 0 ≤ d.amount)
    (hcosts : ∀ c ∈ s.conditionals, 0 ≤ c.cost.amount) : q.Solvent := by
  intro x
  cases h with
  | trading seat turn hm opening funded holds =>
    have hfunded := funded x (hp x)
    have hgranted := amountOf_nonneg hgrants x
    rw [holds x]
    omega
  | owing c seat turn hm hc grants pays counters armies =>
    have hx := hp x
    cases x with
    | army =>
      change 0 ≤ q.armies
      exact armies ▸ hx
    | counter d =>
      simp only [Player.holds, counters, Counters.get_set]
      split_ifs
      · exact hcosts c hc
      · exact hx
  | passing seat turn hm grants pays counters armies =>
    have hx := hp x
    cases x with
    | army =>
      change 0 ≤ q.armies
      exact armies ▸ hx
    | counter d =>
      simp only [Player.holds, counters, Counters.get_endTurn]
      split_ifs
      · exact hx
      · exact le_rfl

namespace State

def Offered (s : State String Int) (b : Benefit) : Prop :=
  (∃ c ∈ s.choices, b ∈ c.options) ∨ ∃ c ∈ s.conditionals, b ∈ c.benefit :: c.nested

theorem offered_of_answered? (h : s.answered? m = some b) : s.Offered b := by
  unfold answered? at h
  simp only [] at h
  split at h
  · obtain ⟨c, hc, hb⟩ := Option.bind_eq_some_iff.mp h
    exact .inl ⟨c, List.mem_of_getElem? hc, List.mem_of_find?_eq_some hb⟩
  · obtain ⟨c, hc, hb⟩ := Option.bind_eq_some_iff.mp h
    refine .inr ⟨c, mem_of_paidFor? hc, ?_⟩
    split_ifs at hb
    · exact List.mem_cons.mpr (.inl (Option.some.inj hb).symm)
    · exact List.mem_cons_of_mem _ (List.mem_of_find?_eq_some hb)
  · cases h

end State

theorem Questions.offered {e : Option Expansion} {d : Deferred} (h : Questions s e)
    (hd : s.deferred = some d) : s.Offered d.benefit := by
  obtain ⟨-, hfront, -, hoffers⟩ := h.deferred d hd
  refine .inr ⟨d.intent, List.mem_of_head? hfront, ?_⟩
  unfold Conditional.Offers at hoffers
  split_ifs at hoffers
  · exact List.mem_cons.mpr (.inl hoffers)
  · exact List.mem_cons_of_mem _ hoffers.1

namespace Reachable

theorem offered_nonneg (h : Reachable rules shuffle s) (hb : s.Offered b) :
    ∀ d ∈ b.deltas, 0 ≤ d.amount := by
  obtain ⟨e, he⟩ := h.questions
  intro d hd
  obtain ⟨c, hc, hb⟩ | ⟨c, hc, hb⟩ := hb
  · obtain ⟨card, tier, hcard⟩ := he.choice_mem hc
    have hmem : d.amount ∈ (Clause.choice c).amounts :=
      List.mem_flatMap.mpr ⟨b, hb, List.mem_map_of_mem hd⟩
    exact (Card.legible hcard _ hmem).nonneg
  · obtain ⟨card, tier, hcard⟩ := he.conditional_mem hc
    have hmem : d.amount ∈ (Clause.conditional c).amounts :=
      List.mem_cons_of_mem _ (List.mem_flatMap.mpr ⟨b, hb, List.mem_map_of_mem hd⟩)
    exact (Card.legible hcard _ hmem).nonneg

theorem costs_nonneg (h : Reachable rules shuffle s) : ∀ c ∈ s.conditionals, 0 ≤ c.cost.amount := by
  obtain ⟨e, he⟩ := h.questions
  intro c hc
  obtain ⟨card, tier, hcard⟩ := he.conditional_mem hc
  exact (Card.legible hcard _ List.mem_cons_self).nonneg

/-- No move grants an amount below zero, whatever the texts of the cards say. -/
theorem grants_nonneg (h : Reachable rules shuffle s) (m : Move) (t : State String Int) :
    ∀ d ∈ s.grants m t, 0 ≤ d.amount := by
  intro d hd
  unfold State.grants at hd
  split at hd
  · cases hx : s.expansion? m with
    | none => simp [hx] at hd
    | some x =>
      rw [hx, Option.map_some, Option.getD_some] at hd
      obtain ⟨clause, hclause, hd⟩ := List.mem_flatMap.mp hd
      cases clause with
      | gain source ds => exact (Card.legible hclause _ (List.mem_map_of_mem hd)).nonneg
      | conditional c => cases hd
      | choice c => cases hd
      | unrecognized source => cases hd
  · split_ifs at hd
    · cases hx : s.deferred with
      | none => simp [hx] at hd
      | some x =>
        obtain ⟨e, he⟩ := h.questions
        rw [hx, Option.map_some, Option.getD_some] at hd
        exact h.offered_nonneg (he.offered hx) d hd
    · cases hd
  · cases hx : s.answered? m with
    | none => simp [hx] at hd
    | some x =>
      rw [hx, Option.map_some, Option.getD_some] at hd
      exact h.offered_nonneg (State.offered_of_answered? hx) d hd

theorem solvent (hgold : 0 ≤ rules.startingGold) (h : Reachable rules shuffle s) :
    ∀ p ∈ s.players, p.Solvent := by
  apply h.players_induction (P := Player.Solvent)
  · intro p hdealt x
    cases x with
    | army => exact hdealt.armies.ge
    | counter c =>
      simp only [Player.holds, hdealt.counters, Counters.get_set]
      split_ifs
      · exact hgold
      · rw [Counters.none, Counters.get_of]
        rfl
  · intro s t p q m h hcourse hp
    exact hcourse.holding.solvent hp (h.grants_nonneg m t) h.costs_nonneg

end Reachable

/-- No counter ever goes negative: if players start without debt, then whatever the moves are
everybody's armies and all that anybody holds of any counter are at least zero. -/
theorem nobody_in_debt (hgold : 0 ≤ rules.startingGold) (h : Reachable rules shuffle s) :
    ∀ p ∈ s.players, 0 ≤ p.armies ∧ ∀ c, 0 ≤ p.counters.get c := by
  intro p hp
  have hsolvent := h.solvent hgold p hp
  exact ⟨hsolvent .army, fun c => hsolvent (.counter c)⟩

/-- A discard is owed for an accepted conditional, and nothing is below zero. -/
theorem nobody_in_debt_sample :
    0 ≤ sampleRulebook.startingGold ∧
      ∃ s₀ : State String Int,
        newGame sampleRulebook unshuffled "game" 7 ["Ada", "Ben"] = .ok s₀ ∧
          let s := s₀.run sampleRulebook unshuffled sampleSteps
          s.deferred.isSome = true ∧
            ∀ p ∈ s.players, 0 ≤ p.armies ∧ ∀ c, 0 ≤ p.counters.get c := by
  obtain ⟨s₀, h⟩ : ∃ s₀ : State String Int,
      newGame sampleRulebook unshuffled "game" 7 ["Ada", "Ben"] = .ok s₀ := ⟨_, rfl⟩
  refine ⟨by decide, s₀, h, ?_, nobody_in_debt (by decide) (Reachable.run (.deal h) sampleSteps)⟩
  obtain rfl := Except.ok.inj h
  decide +kernel

end GuildCards
