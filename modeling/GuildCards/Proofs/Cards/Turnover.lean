import Mathlib
import GuildCards.Proofs.Play.Seats
import GuildCards.Proofs.Cards.Shuffling
import GuildCards.Proofs.Cards.Zones

/-!
How a move turns cards over. The only move that brings its player a card is a take, and it brings
the card that it names, out of the common deck; every other move turns the player's cards over among
the player's own zones and piles. Of the shuffle nothing is used but that it gives back the cards it
was given.
-/
namespace GuildCards
open Document Effect

theorem distinct_sample : Distinct sampleRulebook.cards := by
  unfold Distinct
  decide +kernel

variable {rules : Rulebook String} {shuffle : Shuffler String Int} {s t u s₀ : State String Int}
  {p q : Player String Int} {r : Played String Int} {m : Move}

namespace Player

theorem hand_sublist (p : Player String Int) : p.hand.Sublist p.cards := by
  simp only [cards, List.append_assoc]
  exact List.sublist_append_left ..

theorem discard_sublist (p : Player String Int) : p.discard.Sublist p.cards := by
  simp only [cards, List.append_assoc]
  exact ((List.sublist_append_left ..).trans (List.sublist_append_right ..)).trans
    (List.sublist_append_right ..)

/-- What becomes of the cards of a player from one state to another: all stay the player's, and an
exiled card stays in exile. -/
structure Keeps (p q : Player String Int) : Prop where
  id : q.id = p.id
  cards : q.cards.Perm p.cards
  exile : p.exile <+: q.exile

variable {c : Card String}

theorem keeps_amounts (p : Player String Int) (cs : Counters Int) (armies : Int) :
    p.Keeps (p.withAmounts cs armies) := ⟨rfl, .rfl, List.prefix_rfl⟩

theorem keeps_grantedAll (p : Player String Int) (ds : List Delta) : p.Keeps (p.grantedAll ds) :=
  grantedAll_eq p ds ▸ keeps_amounts ..

theorem keeps_paid (p : Player String Int) (c : Cost) : p.Keeps (p.paid c) :=
  paid_eq p c ▸ keeps_amounts ..

theorem Keeps.trans {o : Player String Int} (h : o.Keeps p) (h' : p.Keeps q) : o.Keeps q :=
  ⟨h'.id.trans h.id, h'.cards.trans h.cards, h.exile.trans h'.exile⟩

theorem perm_cards_of_count
    (h : ∀ a, q.hand.count a + q.deck.count a + q.discard.count a + q.exile.count a +
        q.piles.cards.count a =
      p.hand.count a + p.deck.count a + p.discard.count a + p.exile.count a +
        p.piles.cards.count a) :
    q.cards.Perm p.cards := by
  rw [List.perm_iff_count]
  intro a
  simp only [cards, List.count_append]
  exact h a

theorem keeps_putDown (hd : Distinct p.cards) (hc : c ∈ p.hand) : p.Keeps (p.putDown c) := by
  refine ⟨rfl, perm_cards_of_count fun a => ?_, List.prefix_rfl⟩
  have h := (Zone.perm_cons_remove (hd.sublist p.hand_sublist) hc).count_eq a
  have hp := (p.piles.perm_cards_put c.guild c).count_eq a
  simp only [putDown, List.count_cons] at h hp ⊢
  omega

end Player

structure Gains (p q : Player String Int) (c : Card String) : Prop where
  id : q.id = p.id
  cards : q.cards.Perm (c :: p.cards)
  exile : p.exile <+: q.exile

/-- What a move does to the cards of the game, told by the player that the mover becomes. -/
inductive Moves (s : State String Int) (p : Player String Int) (m : Move) (t : State String Int) :
    Prop where
  | within (q : Player String Int) (hq : p.Keeps q) (hm : m.kind ≠ .take)
    (players : t.players = (s.withPlayer q).players) (common : t.common = s.common)
  | taking (q : Player String Int) (c : Card String) (hq : Gains p q c) (hm : m.kind = .take)
    (hc : c ∈ s.common) (hid : m.card = .text c.id)
    (players : t.players = (s.withPlayer q).players) (common : t.common = s.common.remove c)

theorem mem_of_mem_firstOf {α : Type} {n : Int} {as : List α} {a : α} (h : a ∈ firstOf n as) :
    a ∈ as := by
  rw [← firstOf_append_restOf n as]
  exact List.mem_append_left _ h

theorem count_firstOf_add {n : Int} (as : List (Card String)) (a : Card String) :
    (firstOf n as).count a + (restOf n as).count a = as.count a := by
  rw [← List.count_append, firstOf_append_restOf]

namespace Player
variable {size : Int} {cards : List (Card String)}

/-- The cards that a player who regroups gathers for the shuffle. -/
def gathered (p : Player String Int) : List (Card String) :=
  p.discard ++ (p.hand ++ Guild.all.flatMap fun g => Pile.aboveBase (p.piles.get g))

/-- The player after a turn that regroups: the shuffled cards come under the deck and a new hand is
drawn. -/
def regrouped (p : Player String Int) (size : Int) (cards : List (Card String)) :
    Player String Int :=
  { p with
    hand := firstOf size (p.deck ++ cards), deck := restOf size (p.deck ++ cards), discard := []
    piles := p.piles.map Pile.base, counters := p.counters.endTurn }

theorem keeps_regrouped (hcards : cards.Perm p.gathered) : p.Keeps (p.regrouped size cards) := by
  refine ⟨rfl, perm_cards_of_count fun a => ?_, List.prefix_rfl⟩
  have hgathered := hcards.count_eq a
  have hbase := p.piles.perm_cards_base.count_eq a
  have hcut := @count_firstOf_add size (p.deck ++ cards) a
  simp only [regrouped, gathered, List.count_append, List.count_nil] at hgathered hbase hcut ⊢
  omega

end Player

namespace State

theorem moves_consolidate (hshuffle : Permutes shuffle) (hm : m.kind ≠ .take)
    (h : s.consolidate rules shuffle p = .ok r) : Moves s p m r.state := by
  obtain ⟨cards, q, hs, -, rfl⟩ := consolidate_eq_ok.mp h
  exact .within (p.regrouped rules.handSize cards)
    (Player.keeps_regrouped (hshuffle _ _ _ _ hs)) hm rfl rfl

theorem moves_start (hm : m.kind ≠ .take) : Moves s p m (s.start rules p).state := by
  refine .within _ ?_ hm rfl rfl
  refine ⟨rfl, Player.perm_cards_of_count fun a => ?_, List.prefix_rfl⟩
  have hcut := count_firstOf_add (n := max 0 (rules.handSize - p.hand.length)) p.deck a
  simp only [List.count_append] at hcut ⊢
  omega

theorem moves_draw (hshuffle : Permutes shuffle) (hm : m.kind ≠ .take)
    (h : s.draw shuffle p = .ok r) : Moves s p m r.state := by
  rcases draw_eq_ok.mp h with ⟨-, rfl⟩ | ⟨hdeck, -, cards, hs, rfl⟩
  · refine .within _ ?_ hm rfl rfl
    refine ⟨rfl, Player.perm_cards_of_count fun a => ?_, List.prefix_rfl⟩
    have hcut := count_firstOf_add (n := 1) p.deck a
    simp only [Player.spent, List.count_append] at hcut ⊢
    omega
  · refine .within _ ?_ hm rfl rfl
    refine ⟨rfl, Player.perm_cards_of_count fun a => ?_, List.prefix_rfl⟩
    have hcards := (hshuffle _ _ _ _ hs).count_eq a
    have hcut := count_firstOf_add (n := 1) cards a
    simp only [Player.spent, hdeck, List.count_append, List.count_nil] at hcards hcut ⊢
    omega

variable {c : Card String} {card choice : Value} {accept : Bool}

theorem moves_expand (hd : Distinct p.cards) (hm : m.kind ≠ .take)
    (h : s.expand rules p card = .ok r) : Moves s p m r.state := by
  obtain ⟨c, t, hc, rfl⟩ := expand_eq_ok.mp h
  have hmem := Zone.mem_of_named hc.found
  exact .within _ ((Player.keeps_putDown hd hmem).trans (Player.keeps_grantedAll ..)) hm rfl rfl

theorem moves_take (hm : m.kind = .take) (h : s.take p m.card = .ok r) : Moves s p m r.state := by
  obtain ⟨c, hc, rfl⟩ := take_eq_ok.mp h
  obtain ⟨hmem, hid⟩ := Zone.named?_eq_some hc
  refine .taking _ c ?_ hm (mem_of_mem_firstOf hmem) hid rfl rfl
  refine ⟨rfl, ?_, List.prefix_rfl⟩
  rw [List.perm_iff_count]
  intro a
  simp only [Player.spent, Player.cards, List.count_append, List.count_cons, List.count_nil]
  omega

theorem keeps_discarded (hd : Distinct p.cards) (hc : c ∈ p.hand) : p.Keeps (discarded p c) := by
  refine ⟨rfl, Player.perm_cards_of_count fun a => ?_, List.prefix_rfl⟩
  have h := (Zone.perm_cons_remove (hd.sublist p.hand_sublist) hc).count_eq a
  simp only [discarded, Player.spent, List.count_append, List.count_cons, List.count_nil] at h ⊢
  omega

theorem moves_discard (hd : Distinct p.cards) (hm : m.kind ≠ .take)
    (h : s.discard p card = .ok r) : Moves s p m r.state := by
  obtain ⟨c, hc, ⟨-, hr⟩ | ⟨d, -, -, hr⟩⟩ := discard_cases h
  all_goals
    rw [hr]
    have hkeeps := keeps_discarded hd (Zone.mem_of_named hc)
  · exact .within _ hkeeps hm rfl rfl
  · exact .within _ (hkeeps.trans (Player.keeps_grantedAll ..)) hm rfl rfl

theorem moves_exile (hd : Distinct p.cards) (hm : m.kind ≠ .take)
    (h : s.exile p card = .ok r) : Moves s p m r.state := by
  obtain ⟨c, hc, rfl⟩ := exile_eq_ok.mp h
  refine .within _ ?_ hm rfl rfl
  refine ⟨rfl, Player.perm_cards_of_count fun a => ?_, List.prefix_append ..⟩
  have := (Zone.perm_cons_remove (hd.sublist p.hand_sublist) (Zone.mem_of_named hc)).count_eq a
  simp only [Player.spent, List.count_append, List.count_cons, List.count_nil] at this ⊢
  omega

theorem moves_bury (hd : Distinct p.cards) (hm : m.kind ≠ .take)
    (h : s.bury p card = .ok r) : Moves s p m r.state := by
  obtain ⟨c, hc, rfl⟩ := bury_eq_ok.mp h
  refine .within _ ?_ hm rfl rfl
  refine ⟨rfl, Player.perm_cards_of_count fun a => ?_, List.prefix_rfl⟩
  have := (Zone.perm_cons_remove (hd.sublist p.hand_sublist) (Zone.mem_of_named hc)).count_eq a
  simp only [Player.spent, List.count_append, List.count_cons, List.count_nil] at this ⊢
  omega

theorem moves_revive (hd : Distinct p.cards) (hm : m.kind ≠ .take)
    (h : s.revive p card = .ok r) : Moves s p m r.state := by
  obtain ⟨c, hc, rfl⟩ := revive_eq_ok.mp h
  refine .within _ ?_ hm rfl rfl
  refine ⟨rfl, Player.perm_cards_of_count fun a => ?_, List.prefix_rfl⟩
  have := (Zone.perm_cons_remove (hd.sublist p.discard_sublist) (Zone.mem_of_named hc)).count_eq a
  simp only [Player.spent, List.count_append, List.count_cons, List.count_nil] at this ⊢
  omega

theorem moves_answerConditional (hs : s.Seated) (hp : p ∈ s.players) (hm : m.kind ≠ .take)
    (h : s.answerConditional p accept choice = .ok r) : Moves s p m r.state := by
  obtain ⟨c, -, -, -, ⟨-, rfl⟩ | ⟨-, b, -, -, rfl⟩⟩ := answerConditional_eq_ok.mp h
  · refine .within p (Player.keeps_amounts p p.counters p.armies) hm ?_ rfl
    rw [hs.withPlayer_self hp]
    rfl
  · unfold accepted
    cases c.cost.kind with
    | discard =>
      exact .within _ (Player.keeps_amounts p (p.counters.set .discard c.cost.amount) p.armies) hm
        rfl rfl
    | pay =>
      exact .within _ ((Player.keeps_paid p c.cost).trans (Player.keeps_grantedAll ..)) hm rfl rfl

theorem perform_moves (hs : s.Seated) (hp : p ∈ s.players) (hd : Distinct p.cards)
    (hshuffle : Permutes shuffle) (h : s.perform rules shuffle p m = .ok r) :
    Moves s p m r.state := by
  by_cases htake : m.kind = .take
  · simp only [perform, htake] at h
    exact moves_take htake h
  unfold perform at h
  cases hk : m.kind <;> rw [hk] at h <;> simp only [] at h
  case take => exact absurd hk htake
  case expand => exact moves_expand hd htake h
  case consolidate => exact moves_consolidate hshuffle htake h
  case endTurn =>
    split at h
    · exact Except.ok.inj h ▸ moves_start htake
    · obtain ⟨q, -, rfl⟩ := endTurn_eq_ok.mp h
      exact .within _ (Player.keeps_amounts p p.counters.endTurn p.armies) htake rfl rfl
  case draw => exact moves_draw hshuffle htake h
  case discard => exact moves_discard hd htake h
  case exile => exact moves_exile hd htake h
  case bury => exact moves_bury hd htake h
  case revive => exact moves_revive hd htake h
  case fight =>
    obtain ⟨x, -, -, -, rfl⟩ := fight_eq_ok.mp h
    exact .within _ (Player.keeps_amounts p (p.spent .fight).counters p.armies) htake rfl rfl
  case buildOutpost =>
    obtain ⟨x, -, -, -, rfl⟩ := buildOutpost_eq_ok.mp h
    refine .within _ ?_ htake rfl rfl
    exact ⟨rfl, .rfl, List.prefix_rfl⟩
  case placeArmy =>
    obtain ⟨x, -, -, -, -, rfl⟩ := placeArmy_eq_ok.mp h
    exact .within _ (Player.keeps_amounts p p.counters (p.armies - 1)) htake rfl rfl
  case resolveChoice =>
    obtain ⟨c, name, b, -, -, -, -, rfl⟩ := answerChoice_eq_ok.mp h
    exact .within _ (Player.keeps_grantedAll p b.deltas) htake rfl rfl
  case resolveConditional =>
    obtain ⟨-, h⟩ := need_bind_eq_ok.mp h
    exact moves_answerConditional hs hp htake h

end State
end GuildCards
