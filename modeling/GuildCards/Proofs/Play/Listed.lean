import Mathlib
import GuildCards.Play.Legal
import GuildCards.Proofs.Play.Played

/-!
What the list of legal moves holds, in a game with texts for names and whole numbers for counts.
There the list is always made, and a move is in it just when the state allows it in one of eleven
ways.
-/
namespace GuildCards
open Document Effect

def handKinds : List MoveKind := [.discard, .exile, .bury]

inductive Listed (rules : Rulebook String) (s : State String Int) (p : Player String Int) :
    Move → Prop where
  | choose {i : Nat} {c : Choice} {b : Benefit} (hc : s.choices[i]? = some c) (hb : b ∈ c.options) :
    Listed rules s p (.choose p.id i b.text)
  | accept {c : Conditional} (hs : s.choices = []) (hc : s.conditionals.head? = some c)
    (hd : s.deferred = none) (hn : c.nested = []) (ha : p.affords c.cost = true) :
    Listed rules s p (.answer p.id true)
  | acceptOne {c : Conditional} {b : Benefit} (hs : s.choices = [])
    (hc : s.conditionals.head? = some c) (hd : s.deferred = none) (hb : b ∈ c.nested)
    (ha : p.affords c.cost = true) : Listed rules s p (.answer p.id true (.text b.text))
  | decline {c : Conditional} (hs : s.choices = []) (hc : s.conditionals.head? = some c)
    (hd : s.deferred = none) : Listed rules s p (.answer p.id false)
  | expand {card : String} (hd : p.counters.discard ≤ 0)
    (hq : rules.strict = false ∨ s.awaiting? = none) (hc : card ∈ s.playableCards (.text p.id)) :
    Listed rules s p (.onCard .expand p.id card)
  | draw (h : p.Ready .draw) (hc : p.deck ++ p.discard ≠ []) : Listed rules s p (.plain .draw p.id)
  | take {c : Card String} (h : p.Ready .take) (hc : c ∈ firstOf s.marketSize s.common) :
    Listed rules s p (.onCard .take p.id c.id)
  | ofHand {k : MoveKind} {c : Card String} (hk : k ∈ handKinds) (h : p.Ready k) (hc : c ∈ p.hand) :
    Listed rules s p (.onCard k p.id c.id)
  | revive {c : Card String} (h : p.Ready .revive) (hc : c ∈ p.discard) :
    Listed rules s p (.onCard .revive p.id c.id)
  | onSpot {k : MoveKind} {x : Spot String Int} {judge : Value → Spot String Int → Bool}
    (hk : (k = .placeArmy ∧ 0 < p.armies ∧ judge = s.canPlaceOn) ∨
      (k = .fight ∧ p.Ready .fight ∧ judge = s.canAttack) ∨
      (k = .buildOutpost ∧ p.Ready .buildOutpost ∧ judge = s.canBuildOn))
    (hx : x ∈ s.spots) (hj : s.onSpot (judge (.text p.id)) (.int x.id) = true) :
    Listed rules s p (.onSpot k p.id x.id)
  | ending {k : MoveKind} (hk : k = .consolidate ∨ k = .endTurn) : Listed rules s p (.plain k p.id)

/-- A list that is made and holds what a property tells. -/
def Lists {α : Type} (x : Except Fault (List α)) (P : α → Prop) : Prop :=
  ∃ l, x = .ok l ∧ ∀ a, a ∈ l ↔ P a

theorem lists_mapM {α β : Type} {f : α → Except Fault (List β)} {P : α → β → Prop} {as : List α}
    (h : ∀ a ∈ as, Lists (f a) (P a)) :
    Lists (do pure (← as.mapM f).flatten) fun b => ∃ a ∈ as, P a b := by
  induction as with
  | nil => exact ⟨[], rfl, by simp⟩
  | cons a as ih =>
    rw [List.forall_mem_cons] at h
    obtain ⟨l, hl, hmem⟩ := h.1
    obtain ⟨l', hl', hmem'⟩ := ih h.2
    obtain ⟨ls, hls, hflat⟩ := bind_eq_ok.mp hl'
    obtain rfl := pure_eq_ok.mp hflat
    refine ⟨l ++ ls.flatten, ?_, fun b => ?_⟩
    · rw [List.mapM_cons, hl, ok_bind, hls]
      rfl
    · simp only [List.mem_append, hmem, hmem', List.mem_cons, exists_eq_or_imp]

namespace State
variable {rules : Rulebook String} {s : State String Int} {p : Player String Int} {g : Move}

theorem whilePositive_int {α : Type} (n : Int) (items : List α) (move : α → Move) :
    whilePositive n items move = .ok (if 0 < n then items.map move else []) := by
  simp only [whilePositive, Amount.isPositive_int, ok_bind, decide_eq_true_eq]
  rfl

theorem mem_while {α : Type} {q : Prop} [Decidable q] {items : List α} {move : α → Move} :
    g ∈ (if q then items.map move else []) ↔ q ∧ ∃ a ∈ items, move a = g := by
  split_ifs with h <;> simp [h]

theorem mem_choiceAnswers :
    g ∈ s.choiceAnswers p ↔
      ∃ i c b, s.choices[i]? = some c ∧ b ∈ c.options ∧ Move.choose p.id i b.text = g := by
  simp only [choiceAnswers, List.mem_flatMap, List.mem_map, Prod.exists,
    List.mem_zipIdx_iff_getElem?]
  constructor
  · rintro ⟨c, i, hc, b, hb, rfl⟩
    exact ⟨i, c, b, hc, hb, rfl⟩
  · rintro ⟨i, c, b, hc, hb, rfl⟩
    exact ⟨c, i, hc, b, hb, rfl⟩

theorem lists_conditionalAnswers :
    Lists (s.conditionalAnswers p) fun g =>
      ∃ c, s.choices = [] ∧ s.conditionals.head? = some c ∧ s.deferred = none ∧
        ((p.affords c.cost = true ∧
            ((c.nested = [] ∧ .answer p.id true = g) ∨
              ∃ b ∈ c.nested, .answer p.id true (.text b.text) = g)) ∨
          .answer p.id false = g) := by
  unfold conditionalAnswers
  split
  · rename_i c rest hs hc hd
    simp only [Player.canPay_int, ok_bind]
    refine ⟨_, rfl, fun g => ?_⟩
    simp only [hs, hc, hd, List.head?_cons, Option.some.injEq, exists_eq_left', true_and,
      List.mem_append, List.mem_singleton]
    refine or_congr ?_ eq_comm
    cases ha : p.affords c.cost with
    | false => simp
    | true =>
      by_cases hn : c.nested = []
      · simp only [hn, List.isEmpty_nil, if_true, List.mem_singleton, true_and, List.not_mem_nil,
          false_and, exists_false, or_false]
        exact eq_comm
      · have he : c.nested.isEmpty = false := by simpa using hn
        simp only [hn, he, Bool.false_eq_true, if_true, if_false, List.mem_map, true_and, false_and,
          false_or]
  -- whatever is not the one case of an open conditional lists nothing
  · rename_i hother
    refine ⟨[], rfl, fun g => ⟨by simp, ?_⟩⟩
    rintro ⟨c, hs, hc, hd, -⟩
    obtain ⟨rest, hrest⟩ := List.head?_eq_some_iff.mp hc
    exact (hother c rest hs hrest hd).elim

theorem lists_expansions :
    Lists (s.expansions rules p) fun g =>
      p.counters.discard ≤ 0 ∧ (rules.strict = false ∨ s.awaiting? = none) ∧
        ∃ card ∈ s.playableCards (.text p.id), .onCard .expand p.id card = g := by
  unfold expansions
  simp only [Amount.isPositive_int, ok_bind, decide_eq_true_eq]
  split_ifs with h
  · refine ⟨[], rfl, fun g => ⟨by simp, ?_⟩⟩
    rintro ⟨hd, hq, -⟩
    rcases h with h | ⟨h, h'⟩
    · omega
    · rcases hq with hq | hq
      · rw [hq] at h
        cases h
      · exact absurd hq h'
  · refine ⟨_, rfl, fun g => ?_⟩
    rw [not_or, not_lt, not_and, not_not] at h
    have hq : rules.strict = false ∨ s.awaiting? = none := by
      cases hstrict : rules.strict with
      | false => exact .inl rfl
      | true => exact .inr (h.2 hstrict)
    simp only [h.1, hq, true_and, List.mem_map]
    rfl

theorem lists_handMoves (c : Card String) :
    Lists (handMoves p c) fun g => ∃ k ∈ handKinds, p.Ready k ∧ .onCard k p.id c.id = g := by
  simp only [handMoves, whilePositive_int, ok_bind]
  refine ⟨_, rfl, fun g => ?_⟩
  have hdiscard : p.Ready .discard ↔ 0 < p.counters.discard := Player.ready_iff (c := .discard) rfl
  have hexile : p.Ready .exile ↔ 0 < p.counters.exile := Player.ready_iff (c := .exile) rfl
  have hbury : p.Ready .bury ↔ 0 < p.counters.bury := Player.ready_iff (c := .bury) rfl
  simp only [List.mem_append, mem_while, handKinds, List.mem_cons, List.not_mem_nil, or_false,
    exists_eq_or_imp, exists_eq_left, or_assoc, hdiscard, hexile, hbury]

theorem lists_cardMoves :
    Lists (s.cardMoves p) fun g =>
      (p.Ready .draw ∧ p.deck ++ p.discard ≠ [] ∧ .plain .draw p.id = g) ∨
        (p.Ready .take ∧ ∃ c ∈ firstOf s.marketSize s.common, .onCard .take p.id c.id = g) ∨
        (∃ c ∈ p.hand, ∃ k ∈ handKinds, p.Ready k ∧ .onCard k p.id c.id = g) ∨
        (p.Ready .revive ∧ ∃ c ∈ p.discard, .onCard .revive p.id c.id = g) := by
  obtain ⟨l, hl, hmem⟩ := lists_mapM fun c (_ : c ∈ p.hand) => lists_handMoves (p := p) c
  obtain ⟨ls, hls, hflat⟩ := bind_eq_ok.mp hl
  obtain rfl := pure_eq_ok.mp hflat
  simp only [cardMoves, whilePositive_int, ok_bind, Amount.isPositive_int, decide_eq_true_eq, hls]
  refine ⟨(if 0 < p.counters.draw then ((p.deck ++ p.discard).take 1).map fun _ => .plain .draw p.id
      else []) ++ (if 0 < p.counters.take then (Zone.ids (firstOf s.marketSize s.common)).map
        (.onCard .take p.id) else []) ++ ls.flatten ++
      (if 0 < p.counters.revive then (Zone.ids p.discard).map (.onCard .revive p.id) else []), ?_,
    fun g => ?_⟩
  · split_ifs <;> rfl
  have hdraw : p.Ready .draw ↔ 0 < p.counters.draw := Player.ready_iff (c := .draw) rfl
  have htake : p.Ready .take ↔ 0 < p.counters.take := Player.ready_iff (c := .take) rfl
  have hrevive : p.Ready .revive ↔ 0 < p.counters.revive := Player.ready_iff (c := .revive) rfl
  -- one draw is listed however many cards there are, since a draw names no card
  have htop : (∃ c ∈ (p.deck ++ p.discard).take 1, Move.plain .draw p.id = g) ↔
      p.deck ++ p.discard ≠ [] ∧ Move.plain .draw p.id = g := by
    cases p.deck ++ p.discard <;> simp
  simp only [List.mem_append, hmem, mem_while, or_assoc, hdraw, htake, hrevive, htop, Zone.ids,
    List.mem_map, exists_exists_and_eq_and]

theorem spotMove_int (x : Spot String Int) (n : Int) (kind : MoveKind)
    (judge : Value → Spot String Int → Bool) :
    s.spotMove p x n kind judge = .ok (if 0 < n then
      (if s.onSpot (judge (.text p.id)) (.int x.id) then [x.id] else []).map (.onSpot kind p.id)
      else []) := whilePositive_int n _ _

theorem lists_movesOn (x : Spot String Int) :
    Lists (s.movesOn p x) fun g =>
      ∃ k judge, ((k = .placeArmy ∧ 0 < p.armies ∧ judge = s.canPlaceOn) ∨
        (k = .fight ∧ p.Ready .fight ∧ judge = s.canAttack) ∨
        (k = .buildOutpost ∧ p.Ready .buildOutpost ∧ judge = s.canBuildOn)) ∧
        s.onSpot (judge (.text p.id)) (.int x.id) = true ∧ .onSpot k p.id x.id = g := by
  have hfight : p.Ready .fight ↔ 0 < p.counters.fight := Player.ready_iff (c := .fight) rfl
  have houtpost : p.Ready .buildOutpost ↔ 0 < p.counters.outpost :=
    Player.ready_iff (c := .outpost) rfl
  have hspot (judge : Value → Spot String Int → Bool) (i : Int) :
      i ∈ (if s.onSpot (judge (.text p.id)) (.int x.id) then [x.id] else []) ↔
        s.onSpot (judge (.text p.id)) (.int x.id) = true ∧ i = x.id := by
    split_ifs with h <;> simp [h]
  simp only [movesOn, spotMove_int, ok_bind]
  refine ⟨_, rfl, fun g => ?_⟩
  simp only [List.mem_append, mem_while, hspot, hfight, houtpost]
  constructor
  · rintro ((⟨hn, _, ⟨hj, rfl⟩, rfl⟩ | ⟨hn, _, ⟨hj, rfl⟩, rfl⟩) | ⟨hn, _, ⟨hj, rfl⟩, rfl⟩)
    · exact ⟨_, _, .inl ⟨rfl, hn, rfl⟩, hj, rfl⟩
    · exact ⟨_, _, .inr (.inl ⟨rfl, hn, rfl⟩), hj, rfl⟩
    · exact ⟨_, _, .inr (.inr ⟨rfl, hn, rfl⟩), hj, rfl⟩
  · rintro ⟨_, _, ⟨rfl, hn, rfl⟩ | ⟨rfl, hn, rfl⟩ | ⟨rfl, hn, rfl⟩, hj, rfl⟩
    · exact .inl (.inl ⟨hn, _, ⟨hj, rfl⟩, rfl⟩)
    · exact .inl (.inr ⟨hn, _, ⟨hj, rfl⟩, rfl⟩)
    · exact .inr ⟨hn, _, ⟨hj, rfl⟩, rfl⟩

theorem lists_movesOf : Lists (s.movesOf rules p) (Listed rules s p) := by
  obtain ⟨answers, hanswers, hmem₁⟩ := lists_conditionalAnswers (s := s) (p := p)
  have hlists : Lists (s.expansions rules p) _ := lists_expansions
  obtain ⟨expansions, hexpansions, hmem₂⟩ := hlists
  obtain ⟨cards, hcards, hmem₃⟩ := lists_cardMoves (s := s) (p := p)
  obtain ⟨spots, hspots, hmem₄⟩ :=
    lists_mapM fun x (_ : x ∈ s.spots) => lists_movesOn (s := s) (p := p) x
  have hspots' : s.spotMoves p = .ok spots := hspots
  simp only [movesOf, hanswers, hexpansions, hcards, hspots', ok_bind]
  refine ⟨_, rfl, fun g => ?_⟩
  simp only [List.mem_append, mem_choiceAnswers, hmem₁, hmem₂, hmem₃, hmem₄, List.mem_cons,
    List.not_mem_nil, or_false]
  constructor
  -- the parts of the list in their order: answers, cards to play, other cards, spots, the end
  · rintro (((((⟨i, c, b, hc, hb, rfl⟩ | ⟨c, hs, hc, hd, h⟩) | ⟨hd, hq, card, hc, rfl⟩) | h) |
      ⟨x, hx, k, judge, hk, hj, rfl⟩) | hk)
    · exact .choose hc hb
    · obtain ⟨ha, ⟨hn, rfl⟩ | ⟨b, hb, rfl⟩⟩ | rfl := h
      · exact .accept hs hc hd hn ha
      · exact .acceptOne hs hc hd hb ha
      · exact .decline hs hc hd
    · exact .expand hd hq hc
    · obtain ⟨hr, hc, rfl⟩ | ⟨hr, c, hc, rfl⟩ | ⟨c, hc, k, hk, hr, rfl⟩ | ⟨hr, c, hc, rfl⟩ := h
      · exact .draw hr hc
      · exact .take hr hc
      · exact .ofHand hk hr hc
      · exact .revive hr hc
    · exact .onSpot hk hx hj
    · obtain rfl | rfl := hk
      · exact .ending (.inl rfl)
      · exact .ending (.inr rfl)
  · intro h
    cases h with
    | choose hc hb => exact .inl (.inl (.inl (.inl (.inl ⟨_, _, _, hc, hb, rfl⟩))))
    | accept hs hc hd hn ha =>
      exact .inl (.inl (.inl (.inl (.inr ⟨_, hs, hc, hd, .inl ⟨ha, .inl ⟨hn, rfl⟩⟩⟩))))
    | acceptOne hs hc hd hb ha =>
      exact .inl (.inl (.inl (.inl (.inr ⟨_, hs, hc, hd, .inl ⟨ha, .inr ⟨_, hb, rfl⟩⟩⟩))))
    | decline hs hc hd => exact .inl (.inl (.inl (.inl (.inr ⟨_, hs, hc, hd, .inr rfl⟩))))
    | expand hd hq hc => exact .inl (.inl (.inl (.inr ⟨hd, hq, _, hc, rfl⟩)))
    | draw hr hc => exact .inl (.inl (.inr (.inl ⟨hr, hc, rfl⟩)))
    | take hr hc => exact .inl (.inl (.inr (.inr (.inl ⟨hr, _, hc, rfl⟩))))
    | ofHand hk hr hc => exact .inl (.inl (.inr (.inr (.inr (.inl ⟨_, hc, _, hk, hr, rfl⟩)))))
    | revive hr hc => exact .inl (.inl (.inr (.inr (.inr (.inr ⟨hr, _, hc, rfl⟩)))))
    | onSpot hk hx hj => exact .inl (.inr ⟨_, hx, _, _, hk, hj, rfl⟩)
    | ending hk => exact .inr (hk.imp (congrArg (Move.plain · p.id)) (congrArg (Move.plain · p.id)))

theorem legalMoves_over (h : s.phase = .ended ∨ s.players = []) : s.legalMoves rules = .ok [] := by
  rw [← List.isEmpty_iff] at h
  rw [legalMoves, if_pos h]
  rfl

/-- The legal moves are those of the current player, or only the one that begins the game. -/
theorem lists_legalMoves (he : s.phase ≠ .ended) (hp : s.players ≠ [])
    (hc : atSeat? s.players s.seat = some p) :
    Lists (s.legalMoves rules) fun g =>
      if s.phase = .setup then g = .plain .endTurn p.id else Listed rules s p g := by
  have h : ¬(s.phase = .ended ∨ s.players.isEmpty = true) := by simp [he, hp]
  simp only [legalMoves, if_neg h, current_eq_ok.mpr hc, ok_bind]
  by_cases hs : s.phase = .setup
  · rw [if_pos hs]
    exact ⟨_, rfl, fun g => by simp [hs]⟩
  · simpa only [if_neg hs] using lists_movesOf

end State
end GuildCards
