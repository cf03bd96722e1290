import Mathlib
import GuildCards.Proofs.Cards.Piles
import GuildCards.Proofs.Play.Legality

/-!
Playing a card, from end to end: the card goes from the hand to the end of its pile, what its tier and
its bonus grant is added up, and then its questions are asked of the player that has come of it.
-/
namespace GuildCards
open Document Effect

variable {rules : Rulebook String} {shuffle : Shuffler String Int} {s : State String Int}
  {p q : Player String Int} {r : Played String Int} {m : Move} {c : Card String} {t : Tier}

theorem Zone.remove_eq_filter_id (z : Zone String) (c : Card String) :
    z.remove c = z.filter fun d => d.id ≠ c.id := by
  refine List.filter_congr fun d _ => ?_
  rw [Datum.same_text, decide_not]

theorem Tier.le_pileLimit {n : Nat} (h : Tier.at? n = some t) : n ≤ pileLimit := by
  have hlimit : pileLimit = 5 := rfl
  unfold Tier.at? at h
  split_ifs at h <;> omega

namespace Player

/-- The player `p` becomes `q` by laying a card: it goes from the hand to the end of its pile, and of
the rest only the resources may change. -/
structure Laying (p : Player String Int) (c : Card String) (q : Player String Int) : Prop where
  hand : q.hand = p.hand.filter fun d => d.id ≠ c.id
  piles : q.piles = p.piles.set c.guild (p.piles.get c.guild ++ [c])
  others : q = { p with
    hand := q.hand, piles := q.piles, counters := q.counters, armies := q.armies }

theorem laying_putDown (p : Player String Int) (c : Card String)
    (ds : List Delta) : p.Laying c ((p.putDown c).grantedAll ds) := by
  have hwith := grantedAll_eq (p.putDown c) ds
  refine ⟨?_, ?_, ?_⟩
  · rw [hwith, ← Zone.remove_eq_filter_id]
    rfl
  · rw [hwith]
    rfl
  · rw [hwith]
    rfl

theorem Laying.perm_hand (h : p.Laying c q) (hd : Distinct p.hand) (hc : c ∈ p.hand) :
    p.hand.Perm (c :: q.hand) := by
  rw [h.hand, ← Zone.remove_eq_filter_id]
  exact Zone.perm_cons_remove hd hc

end Player

/-- Playing a card, from end to end. The current player lays a card of the hand at the end of its pile,
where it is number `k + 1`. Its clauses are those of its first, second or third text, as `k + 1` is 1,
at most 3 or at most 5, and of its bonus. The player gains what they grant; their choices are open, and
those of their conditionals whose cost the player can pay after all gains, without the card; no
conditional is deferred. The questions that were open are dropped, and beside the history nothing else
changes. If all cards have different ids, no other card leaves the hand. -/
theorem card_played (h : Reachable rules shuffle s) (hm : m.kind = .expand)
    (hr : s.play rules shuffle m = .ok r) :
    ∃ p c q, s.current = .ok p ∧ c ∈ p.hand ∧ m.card = .text c.id ∧
      (p.piles.get c.guild).length + 1 ≤ 5 ∧ p.Laying c q ∧
      r.state.Applied ((c.textAt ((p.piles.get c.guild).length + 1)).program.clauses ++
        c.bonus.program.clauses) p q ∧
      r.state = { s with
        players := s.players.set s.seat.toNat q
        choices := r.state.choices
        conditionals := r.state.conditionals
        deferred := none
        history := s.history ++ [m] } ∧
      r.dropped = s.choices.map .choice ++ s.conditionals.map .conditional ∧
      (Distinct rules.cards → Permutes shuffle → p.hand.Perm (c :: q.hand)) := by
  obtain ⟨p, x, hp, hx, rfl⟩ := State.play_eq_ok.mp hr
  simp only [State.perform, hm] at hx
  obtain ⟨c, t, hc, rfl⟩ := State.expand_eq_ok.mp hx
  obtain ⟨hmem, hcard⟩ := Zone.named?_eq_some hc.found
  rw [if_pos hc.given] at hcard
  have htier : Tier.at? ((p.piles.get c.guild).length + 1) = some t := by
    rw [← hc.tier, List.length_append]
    rfl
  let q := (p.putDown c).grantedAll (grantsOf (c.clausesAt t))
  have hlaying : p.Laying c q := Player.laying_putDown p c _
  have happlied := s.applied_expanded p c t
  refine ⟨p, c, q, State.current_eq_ok.mpr hp.current, hmem, hcard, ?_, hlaying, ?_, ?_, rfl,
    fun hd hshuffle => ?_⟩
  · exact Tier.le_pileLimit htier
  · rw [← Card.clausesAt_eq htier]
    exact ⟨happlied.holds, happlied.choices, happlied.conditionals⟩
  · have hplayers : s.withPlayer q = { s with players := s.players.set s.seat.toNat q } :=
      h.seated.withPlayer_eq_set hp.current (Player.grantedAll_id ..)
    let plan := Plan.whole (c.clausesAt t) (p.putDown c)
    change { s.withPlayer q with
      choices := plan.choices, conditionals := plan.conditionals, deferred := none
      history := s.history ++ [m] } = _
    rw [hplayers]
    rfl
  · have hcards : Distinct s.cards := hd.perm (h.cards hd hshuffle).symm
    have hhand := (p.hand_sublist).trans (cards_sublist (h.seated.mem hp.current))
    exact hlaying.perm_hand (hcards.sublist hhand) hmem

/-- The last card of the hand is played, the third of its pile. It brings gold and knowledge by its
second text and gold by its bonus. It asks for two discards, but no card is left to discard. -/
theorem card_played_sample :
    Distinct sampleRulebook.cards ∧ Permutes unshuffled ∧
      ∃ s₀ : State String Int,
        newGame sampleRulebook unshuffled "game" 7 ["Ada", "Ben"] = .ok s₀ ∧
          let s := s₀.run sampleRulebook unshuffled
            (sampleSteps.take 2 ++ [.move (.onCard .expand "player-1" "royal-red")])
          ∃ r, s.play sampleRulebook unshuffled (.onCard .expand "player-1" "royal-green") = .ok r ∧
            r.dropped.length = 4 ∧ r.state.choices.length = 2 ∧ r.state.conditionals = [] ∧
            ∃ p c q, s.current = .ok p ∧ p.hand = [c] ∧ p.Laying c q ∧
              r.state.Applied (sampleTiers.middle.program.clauses ++ sampleText.program.clauses) p q ∧
              p.holds (.counter .gold) = 14 ∧ q.holds (.counter .gold) = 19 ∧
              p.holds (.counter .knowledge) = 1 ∧ q.holds (.counter .knowledge) = 2 ∧
              r.state.players = s.players.set s.seat.toNat q ∧ p.hand.Perm (c :: q.hand) := by
  obtain ⟨s₀, h⟩ : ∃ s₀ : State String Int,
      newGame sampleRulebook unshuffled "game" 7 ["Ada", "Ben"] = .ok s₀ := ⟨_, rfl⟩
  let steps := sampleSteps.take 2 ++ [.move (.onCard .expand "player-1" "royal-red")]
  let s := s₀.run sampleRulebook unshuffled steps
  let m : Move := .onCard .expand "player-1" "royal-green"
  have hbefore : s.current.toOption.map (fun p => (p.counters.gold, p.counters.knowledge,
        p.hand.map fun c => (c.textAt ((p.piles.get c.guild).length + 1), c.bonus))) =
      some (14, 1, [(sampleTiers.middle, sampleText)]) := by
    subst s
    obtain rfl := Except.ok.inj h
    decide +kernel
  have hafter : (s.play sampleRulebook unshuffled m).toOption.map (fun r =>
      (r.dropped.length, r.state.choices.length, r.state.conditionals)) = some (4, 2, []) := by
    subst s
    obtain rfl := Except.ok.inj h
    decide +kernel
  obtain ⟨r, hr, hcounts⟩ := toOption_map_eq_some.mp hafter
  simp only [Prod.mk.injEq] at hcounts
  obtain ⟨hdropped, hchoices, hconditionals⟩ := hcounts
  obtain ⟨p, c, q, hp, hc, -, -, hlaying, happlied, hstate, -, hhand⟩ :=
    card_played (Reachable.run (.deal h) steps) rfl hr
  obtain ⟨p', hp', hheld⟩ := toOption_map_eq_some.mp hbefore
  obtain rfl : p = p' := Except.ok.inj (hp.symm.trans hp')
  simp only [Prod.mk.injEq] at hheld
  obtain ⟨hgold, hknowledge, htexts⟩ := hheld
  obtain ⟨d, hd, htext⟩ := List.map_eq_singleton_iff.mp htexts
  obtain rfl : c = d := by simpa [hd] using hc
  simp only [Prod.mk.injEq] at htext
  rw [htext.1, htext.2] at happlied
  refine ⟨distinct_sample, permutes_unshuffled, s₀, h, r, hr, hdropped, hchoices, hconditionals,
    p, c, q, hp, hd, hlaying, happlied, hgold, ?_, hknowledge, ?_, by rw [hstate],
    hhand distinct_sample permutes_unshuffled⟩
  · have hgained : gained (.counter .gold)
        (sampleTiers.middle.program.clauses ++ sampleText.program.clauses) = 5 := by
      decide +kernel
    rw [happlied.holds, hgained, Player.holds, Counters.get, hgold]
    rfl
  · have hgained : gained (.counter .knowledge)
        (sampleTiers.middle.program.clauses ++ sampleText.program.clauses) = 1 := by
      decide +kernel
    rw [happlied.holds, hgained, Player.holds, Counters.get, hknowledge]
    rfl

end GuildCards
