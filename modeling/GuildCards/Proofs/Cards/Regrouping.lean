import Mathlib
import GuildCards.Proofs.Cards.Turnover

/-!
Consolidating, from end to end. Every pile is cut to its first card; what is gathered from discard, hand
and piles is shuffled under the deck; the new hand comes off the top, so the old deck is drawn before
any shuffled card.
-/
namespace GuildCards
open Document Effect

variable {rules : Rulebook String} {shuffle : Shuffler String Int} {s : State String Int}
  {p q : Player String Int} {r : Played String Int} {m : Move} {size : Int}
  {cards : List (Card String)}

theorem length_firstOf {α : Type} (h : 0 ≤ size) (as : List α) :
    ((firstOf size as).length : Int) = min size as.length := by
  rw [firstOf, if_pos h, List.length_take]
  omega

theorem length_firstOf_add {α : Type} (n : Int) (as : List α) :
    (firstOf n as).length + (restOf n as).length = as.length := by
  rw [← List.length_append, firstOf_append_restOf]

namespace Player

/-- The player `p` becomes `q` by regrouping with hands of a size. All cards but the exiled ones and
the first of each pile are in the new hand and the new deck. -/
structure Regroups (size : Int) (p q : Player String Int) : Prop where
  piles : ∀ g, q.piles.get g = (p.piles.get g).take 1
  cards : q.cards.Perm p.cards
  count : p.deck.length + p.gathered.length + p.exile.length + q.piles.cards.length =
    p.cards.length
  hand : (q.hand.length : Int) = min size (p.deck.length + p.gathered.length : Nat)
  deck : q.hand.length + q.deck.length = p.deck.length + p.gathered.length
  order : ∃ shuffled, q.hand ++ q.deck = p.deck ++ shuffled ∧ shuffled.Perm p.gathered
  oldFirst : q.hand <+: p.deck ∨ p.deck <+: q.hand
  discard : q.discard = []
  counters : ∀ c, q.counters.get c = if c.lasts then p.counters.get c else 0
  others : q = { p with
    hand := q.hand, deck := q.deck, discard := [], piles := q.piles, counters := q.counters }

theorem regroups (hsize : 0 ≤ size) (hcards : cards.Perm p.gathered) :
    p.Regroups size (p.regrouped size cards) := by
  have hwhole : (p.deck ++ cards).length = p.deck.length + p.gathered.length := by
    rw [List.length_append, hcards.length_eq]
  have horder : (p.regrouped size cards).hand ++ (p.regrouped size cards).deck =
      p.deck ++ cards := firstOf_append_restOf size _
  refine ⟨fun g => ?_, (keeps_regrouped hcards).cards, ?_, ?_, ?_, ⟨cards, horder, hcards⟩, ?_, rfl,
    fun c => ?_, rfl⟩
  · exact Piles.get_map ..
  · have hbase := p.piles.perm_cards_base.length_eq
    simp only [regrouped, gathered, Player.cards, List.length_append] at hbase ⊢
    omega
  · rw [← hwhole]
    exact length_firstOf hsize _
  · rw [← hwhole]
    exact length_firstOf_add size _
  · have hprefix : (p.regrouped size cards).hand <+: p.deck ++ cards :=
      horder ▸ List.prefix_append ..
    exact List.prefix_or_prefix_of_prefix hprefix (List.prefix_append ..)
  · exact Counters.get_endTurn ..

theorem Regroups.settled (h : p.Regroups size q) :
    q.counters = .settled p.counters.gold p.counters.victoryPoints := by
  have hgold : q.counters.gold = p.counters.gold := h.counters .gold
  have hpoints : q.counters.victoryPoints = p.counters.victoryPoints := h.counters .victoryPoints
  rw [← hgold, ← hpoints]
  exact Counters.eq_settled fun c hc => (h.counters c).trans (if_neg (by simp [hc]))

end Player

/-- Consolidating, from end to end, with hands of a size that is not negative and a shuffle that gives
back the cards it was given. The current player regroups, all questions are dropped, the shuffle is
counted and the turn passes to the next seat; beside the history nothing else changes. -/
theorem turn_consolidated (hsize : 0 ≤ rules.handSize) (hshuffle : Permutes shuffle)
    (h : Reachable rules shuffle s) (hm : m.kind = .consolidate)
    (hr : s.play rules shuffle m = .ok r) :
    ∃ p q, s.current = .ok p ∧ p.Regroups rules.handSize q ∧
      r.state = { s with
        players := s.players.set s.seat.toNat q
        seat := (s.seat + 1) % s.players.length
        turn := s.turn + 1
        shuffles := s.shuffles + 1
        choices := [], conditionals := [], deferred := none
        history := s.history ++ [m] } := by
  obtain ⟨p, x, hp, hx, rfl⟩ := State.play_eq_ok.mp hr
  simp only [State.perform, hm] at hx
  obtain ⟨cards, next, hcards, -, rfl⟩ := State.consolidate_eq_ok.mp hx
  let q := p.regrouped rules.handSize cards
  have hregroups : p.Regroups rules.handSize q := Player.regroups hsize (hshuffle _ _ _ _ hcards)
  refine ⟨p, q, State.current_eq_ok.mpr hp.current, hregroups, ?_⟩
  have hplayers : s.withPlayer q = { s with players := s.players.set s.seat.toNat q } :=
    h.seated.withPlayer_eq_set hp.current rfl
  have hseat : (s.seat + 1).fmod s.players.length = (s.seat + 1) % s.players.length :=
    Int.fmod_eq_emod_of_nonneg _ (Int.natCast_nonneg _)
  have hlength : (s.withPlayer q).players.length = s.players.length := by
    rw [hplayers, List.length_set]
  change { s.withPlayer q with
    seat := (s.seat + 1).fmod (s.withPlayer q).players.length
    turn := s.turn + 1, shuffles := s.shuffles + 1
    choices := [], conditionals := [], deferred := none, history := s.history ++ [m] } = _
  rw [hlength, hseat, hplayers]

/-- After two cards are played on one pile, the second of them goes back. The player keeps the gold, and
no knowledge and no credit. -/
theorem turn_consolidated_sample :
    0 ≤ sampleRulebook.handSize ∧ Permutes unshuffled ∧
      ∃ s₀ : State String Int,
        newGame sampleRulebook unshuffled "game" 7 ["Ada", "Ben"] = .ok s₀ ∧
          let s := s₀.run sampleRulebook unshuffled
            (sampleSteps.take 3 ++ [.move (.onCard .expand "player-1" "royal-red")])
          ∃ r, s.play sampleRulebook unshuffled (.plain .consolidate "player-1") = .ok r ∧
            r.state.seat = 1 ∧
            ∃ p q, s.current = .ok p ∧ p.piles.cards.length = 2 ∧ p.Regroups 3 q ∧
              p.counters = { Counters.settled 14 0 with knowledge := 1, draw := 1 } ∧
              q.counters =
                { gold := 14, victoryPoints := 0, knowledge := 0, draw := 0, take := 0, discard := 0
                  exile := 0, bury := 0, fight := 0, outpost := 0, revive := 0 } ∧
              r.state.players = s.players.set s.seat.toNat q := by
  obtain ⟨s₀, h⟩ : ∃ s₀ : State String Int,
      newGame sampleRulebook unshuffled "game" 7 ["Ada", "Ben"] = .ok s₀ := ⟨_, rfl⟩
  let steps := sampleSteps.take 3 ++ [.move (.onCard .expand "player-1" "royal-red")]
  let s := s₀.run sampleRulebook unshuffled steps
  let m : Move := .plain .consolidate "player-1"
  have hrun : (s.play sampleRulebook unshuffled m).isOk = true ∧ s.seat = 0 ∧
      s.players.length = 2 ∧
      s.current.toOption.map (fun p => (p.piles.cards.length, p.counters)) =
        some (2, { Counters.settled 14 0 with knowledge := 1, draw := 1 }) := by
    subst s
    obtain rfl := Except.ok.inj h
    decide +kernel
  obtain ⟨hok, hseat, hcount, hcurrent⟩ := hrun
  obtain ⟨r, hr⟩ := exists_of_isOk hok
  obtain ⟨p, q, hp, hregroups, hstate⟩ := turn_consolidated (by decide) permutes_unshuffled
    (Reachable.run (.deal h) steps) rfl hr
  obtain ⟨p', hp', hself⟩ := toOption_map_eq_some.mp hcurrent
  obtain rfl : p = p' := Except.ok.inj (hp.symm.trans hp')
  obtain ⟨hpiles, hcounters⟩ := Prod.mk.inj hself
  refine ⟨by decide, permutes_unshuffled, s₀, h, r, hr, ?_, p, q, hp, hpiles, hregroups, hcounters,
    ?_, ?_⟩
  · rw [hstate, hseat, hcount]
    rfl
  · rw [hregroups.settled, hcounters]
    rfl
  · rw [hstate]

end GuildCards
