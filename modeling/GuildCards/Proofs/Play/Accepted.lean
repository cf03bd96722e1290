import Mathlib
import GuildCards.Proofs.Document.Numerals
import GuildCards.Proofs.Play.Holdings
import GuildCards.Proofs.Success

/-!
What each kind of move needs and what it does, in a game with texts for names and whole numbers for
counts. Each statement is an equivalence, so it tells both when a move is accepted and what a move
that is accepted comes to.
-/
namespace GuildCards
open Document Effect

theorem below_int (m n : Int) : Amount.stands .below m n = .ok (decide (m < n)) := by
  rw [Amount.stands_int, Except.ok.injEq, Bool.eq_iff_iff]
  simp [Number.Relation.holds, Ordering.isLT_iff_eq_lt, Int.compare_eq_lt]

theorem is_iff {t : String} {v : Value} : Datum.is t v = true ↔ v = .text t := by
  cases v with
  | text u => rw [Datum.is_text, decide_eq_true_eq, Value.text.injEq, eq_comm]
  | _ => simp [Datum.is, Datum.value, Value.same, Value.isNaN, Value.alike, Value.number?]

theorem Spot.holderValue_isWritable (x : Spot String Int) : x.holderValue.isWritable = true := by
  unfold holderValue
  cases x.holder <;> rfl

namespace Event
variable {e e' : Event} {name : String} {n : Int}

theorem told_eq_ok (vs : List Value) (h : e.shown = vs ++ [.int n])
    (hvs : ∀ v ∈ vs, v.isWritable = true) :
    e.told = .ok e' ↔ (Value.int n).isWritable = true ∧ e' = e := by
  rw [told, tell_eq_ok, h, List.forall_mem_append, List.forall_mem_singleton, and_iff_right hvs]

theorem told_placed : (placed (Datum.value name) (Datum.value n)).told = .ok e ↔
    (Value.int n).isWritable = true ∧ e = placed (.text name) (.int n) :=
  told_eq_ok [.text name] rfl (List.forall_mem_singleton.mpr rfl)

theorem told_built : (built (Datum.value name) (Datum.value n)).told = .ok e ↔
    (Value.int n).isWritable = true ∧ e = built (.text name) (.int n) :=
  told_eq_ok [.text name] rfl (List.forall_mem_singleton.mpr rfl)

theorem told_fought {x : Spot String Int} :
    (fought (Datum.value name) x.holderValue (Datum.value n)).told = .ok e ↔
      (Value.int n).isWritable = true ∧ e = fought (.text name) x.holderValue (.int n) :=
  told_eq_ok [.text name, x.holderValue] rfl
    (List.forall_mem_cons.mpr ⟨rfl, List.forall_mem_singleton.mpr x.holderValue_isWritable⟩)

end Event

def Spot.attacked (x : Spot String Int) : Spot String Int :=
  { x with holder := if 0 < x.armies - 1 then x.holder else none, armies := max (x.armies - 1) 0 }

namespace Player

def putDown (p : Player String Int) (c : Card String) : Player String Int :=
  { p with
    hand := p.hand.remove c
    piles := p.piles.set c.guild (p.piles.get c.guild ++ [c]) }

end Player

namespace State
variable {rules : Rulebook String} {shuffle : Shuffler String Int} {s : State String Int}
  {p : Player String Int} {r : Played String Int} {card spot : Value}

theorem current_eq_ok : s.current = .ok p ↔ atSeat? s.players s.seat = some p := by
  unfold current
  simp only [Amount.toPlace_int, ok_bind]
  split
  · rename_i q h
    rw [pure_eq_ok, h, Option.some.injEq, eq_comm]
  · rename_i h
    simp [h]

def turnPassed (s : State String Int) : State String Int :=
  { s.dropIntents with seat := (s.seat + 1).fmod s.players.length, turn := s.turn + 1 }

theorem passTurn_int (s : State String Int) : s.passTurn = .ok s.turnPassed := rfl

theorem shuffled_eq_ok {cards : List (Card String)} {x : List (Card String) × State String Int} :
    s.shuffled shuffle cards = .ok x ↔
      shuffle s.seed s.shuffles cards = .ok x.1 ∧ x.2 = { s with shuffles := s.shuffles + 1 } := by
  obtain ⟨cs, t⟩ := x
  unfold shuffled
  simp only [bind_eq_ok, Amount.plus_int, ok_bind, pure_eq_ok, Prod.mk.injEq]
  constructor
  · rintro ⟨a, h, rfl, rfl⟩
    exact ⟨h, rfl⟩
  · rintro ⟨h, rfl⟩
    exact ⟨cs, h, rfl, rfl⟩

/-- What a player needs to play a card for the power of a tier. -/
structure MayExpand (rules : Rulebook String) (s : State String Int) (p : Player String Int)
    (card : Value) (c : Card String) (t : Tier) : Prop where
  given : card.truthy = true
  found : named p.hand card = some c
  owesNothing : p.counters.discard ≤ 0
  answered : rules.strict = false ∨ s.awaiting? = none
  fits : s.canPlayCard (.text p.id) (.text c.id) = true
  tier : Tier.at? ((p.piles.get c.guild ++ [c]).length : Nat) = some t

def expanded (s : State String Int) (p : Player String Int) (c : Card String) (t : Tier) :
    Played String Int :=
  let plan := Plan.whole (c.clausesAt t) (p.putDown c)
  { state := { s.withPlayer ((p.putDown c).grantedAll plan.immediate) with
      choices := plan.choices, conditionals := plan.conditionals, deferred := none }
    events := .expanded (.text p.name) (.text c.id) c.guild (p.piles.get c.guild ++ [c]).length t ::
      plan.immediate.map (.gained (.text p.name)) ++ s.open?.map fun i => .leftOpen i.source
    dropped := s.open? }

theorem expand_eq_ok :
    s.expand rules p card = .ok r ↔ ∃ c t, s.MayExpand rules p card c t ∧ r = s.expanded p c t := by
  unfold expand
  simp only [Amount.isPositive_int, lift_ok, ok_bind, Player.gainAll_int, bind_eq_ok, need_eq_ok,
    exists_const, needSome_eq_ok, lift_eq_ok, decide_eq_true_eq, not_lt, pure_eq_ok,
    Player.grantedAll_name]
  constructor
  · rintro ⟨ht, c, hc, hd, hs, hp, t, htier, plan, hplan, rfl⟩
    rw [Card.planAt_int htier, Except.ok.injEq] at hplan
    subst hplan
    exact ⟨c, t, ⟨ht, hc, hd, hs, hp, htier⟩, rfl⟩
  · rintro ⟨c, t, ⟨ht, hc, hd, hs, hp, htier⟩, rfl⟩
    exact ⟨ht, c, hc, hd, hs, hp, t, htier, _, Card.planAt_int htier _, rfl⟩

theorem consolidate_eq_ok :
    s.consolidate rules shuffle p = .ok r ↔
      ∃ cards q,
        shuffle s.seed s.shuffles
          (p.discard ++ (p.hand ++ Guild.all.flatMap fun g => Pile.aboveBase (p.piles.get g))) =
            .ok cards ∧
        let hand := firstOf rules.handSize (p.deck ++ cards)
        let t := ({ s with shuffles := s.shuffles + 1 }.withPlayer { p with
            hand := hand, deck := restOf rules.handSize (p.deck ++ cards), discard := []
            piles := p.piles.map Pile.base, counters := p.counters.endTurn }).turnPassed
        t.current = .ok q ∧
        r = { state := t
              events :=
                [.consolidated (.text p.name) hand.length, .turnEnded (.text q.name)] } := by
  unfold consolidate currentName
  simp only [bind_eq_ok, lift_eq_ok, shuffled_eq_ok, passTurn_int, pure_eq_ok, Zone.draw,
    Except.ok.injEq]
  constructor
  · rintro ⟨⟨cards, t⟩, ⟨h, rfl⟩, _, rfl, _, ⟨q, hq, rfl⟩, rfl⟩
    exact ⟨cards, q, h, hq, rfl⟩
  · rintro ⟨cards, q, h, hq, rfl⟩
    exact ⟨(cards, _), ⟨h, rfl⟩, _, rfl, _, ⟨q, hq, rfl⟩, rfl⟩

theorem endTurn_eq_ok :
    s.endTurn p = .ok r ↔
      let t := (s.withPlayer { p with counters := p.counters.endTurn }).turnPassed
      ∃ q, t.current = .ok q ∧ r = { state := t, events := [.turnEnded (.text q.name)] } := by
  unfold endTurn currentName
  simp only [bind_eq_ok, lift_eq_ok, passTurn_int, pure_eq_ok, Except.ok.injEq]
  constructor
  · rintro ⟨_, rfl, _, ⟨q, hq, rfl⟩, rfl⟩
    exact ⟨q, hq, rfl⟩
  · rintro ⟨q, hq, rfl⟩
    exact ⟨_, rfl, _, ⟨q, hq, rfl⟩, rfl⟩

def drawn (s : State String Int) (p : Player String Int) (deck discard : Zone String) :
    Played String Int :=
  { state := s.withPlayer { p.spent .draw with
      hand := p.hand ++ firstOf 1 deck, deck := restOf 1 deck, discard := discard }
    events := [.drew (.text p.name)] }

theorem draw_eq_ok :
    s.draw shuffle p = .ok r ↔
      (p.deck ≠ [] ∧ r = s.drawn p p.deck p.discard) ∨
      (p.deck = [] ∧ p.discard ≠ [] ∧ ∃ cards, shuffle s.seed s.shuffles p.discard = .ok cards ∧
        r = { s with shuffles := s.shuffles + 1 }.drawn p cards []) := by
  unfold draw
  by_cases h : p.deck = []
  · simp only [h, List.isEmpty_nil, if_true, bind_eq_ok, need_eq_ok, exists_const, lift_eq_ok,
      shuffled_eq_ok, Player.spend_int, Except.ok.injEq, pure_eq_ok, List.isEmpty_iff]
    constructor
    · rintro ⟨hd, ⟨cards, t⟩, ⟨hs, rfl⟩, _, rfl, rfl⟩
      exact .inr ⟨trivial, hd, cards, hs, rfl⟩
    · rintro (⟨hn, -⟩ | ⟨-, hd, cards, hs, rfl⟩)
      · exact absurd rfl hn
      · exact ⟨hd, (cards, _), ⟨hs, rfl⟩, _, rfl, rfl⟩
  · have he : p.deck.isEmpty = false := by simpa using h
    simp only [he, Bool.false_eq_true, if_false, bind_eq_ok, lift_eq_ok, Player.spend_int,
      Except.ok.injEq, pure_eq_ok]
    constructor
    · rintro ⟨_, rfl, rfl⟩
      exact .inl ⟨h, rfl⟩
    · rintro (⟨-, rfl⟩ | ⟨hn, -⟩)
      · exact ⟨_, rfl, rfl⟩
      · exact absurd hn h

theorem take_eq_ok :
    s.take p card = .ok r ↔
      ∃ c, Zone.named? (firstOf s.marketSize s.common) card = some c ∧
        r = {
          state := { s.withPlayer { p.spent .take with hand := p.hand ++ [c] } with
            common := s.common.remove c }
          events := [.took (.text p.name) (.text c.id)] } := by
  unfold take market
  simp only [Amount.toCut_int, ok_bind, lift_ok, pure, Except.pure, needSome_bind_eq_ok,
    Player.spend_int, Except.ok.injEq, eq_comm (a := r)]
  rfl

def discarded (p : Player String Int) (c : Card String) : Player String Int :=
  { p.spent .discard with hand := p.hand.remove c, discard := p.discard ++ [c] }

def settled (s : State String Int) (p : Player String Int) : State String Int × List Event :=
  match s.deferred with
  | none => (s, [])
  | some d =>
    if 0 < p.counters.discard then (s, [])
    else
      ({ s.withPlayer (p.grantedAll d.benefit.deltas) with
          conditionals := s.conditionals.tail, deferred := none },
        [.received (.text p.name) d.benefit.text])

theorem settle_int (s : State String Int) (p : Player String Int) :
    s.settle p = .ok (s.settled p) := by
  unfold settle settled
  cases s.deferred with
  | none => rfl
  | some d =>
    simp only [Amount.isPositive_int, ok_bind, Player.gainAll_int, decide_eq_true_eq,
      Player.grantedAll_name]
    split <;> rfl

theorem discard_eq_ok :
    s.discard p card = .ok r ↔
      ∃ c, named p.hand card = some c ∧
        let x := (s.withPlayer (discarded p c)).settled (discarded p c)
        r = { state := x.1, events := .discarded (.text p.name) (.text c.id) :: x.2 } := by
  unfold discard
  simp only [bind_eq_ok, needSome_eq_ok, lift_eq_ok, Player.spend_int, settle_int, Except.ok.injEq,
    exists_eq_left', pure_eq_ok]
  rfl

theorem exile_eq_ok :
    s.exile p card = .ok r ↔
      ∃ c, named p.hand card = some c ∧
        r = {
          state := s.withPlayer
            { p.spent .exile with hand := p.hand.remove c, exile := p.exile ++ [c] }
          events := [.exiled (.text p.name) (.text c.id)] } := by
  unfold exile
  simp only [bind_eq_ok, needSome_eq_ok, lift_eq_ok, Player.spend_int, Except.ok.injEq,
    exists_eq_left', pure_eq_ok]
  rfl

theorem bury_eq_ok :
    s.bury p card = .ok r ↔
      ∃ c, named p.hand card = some c ∧
        r = {
          state := s.withPlayer
            { p.spent .bury with hand := p.hand.remove c, deck := p.deck ++ [c] }
          events := [.buried (.text p.name) (.text c.id)] } := by
  unfold bury
  simp only [bind_eq_ok, needSome_eq_ok, lift_eq_ok, Player.spend_int, Except.ok.injEq,
    exists_eq_left', pure_eq_ok]
  rfl

theorem revive_eq_ok :
    s.revive p card = .ok r ↔
      ∃ c, named p.discard card = some c ∧
        r = {
          state := s.withPlayer
            { p.spent .revive with hand := p.hand ++ [c], discard := p.discard.remove c }
          events := [.revived (.text p.name) (.text c.id)] } := by
  unfold revive
  simp only [bind_eq_ok, needSome_eq_ok, lift_eq_ok, Player.spend_int, Except.ok.injEq,
    exists_eq_left', pure_eq_ok]
  rfl

theorem namedSpot_eq_ok {x : Spot String Int} :
    s.namedSpot spot = .ok x ↔ spot.isNull = false ∧ s.spot? spot = some x := by
  unfold namedSpot
  rw [needSome_eq_ok]
  cases h : spot.isNull <;> simp [Value.given?, h]

theorem placeArmy_eq_ok :
    s.placeArmy p spot = .ok r ↔
      ∃ x, 0 < p.armies ∧ s.namedSpot spot = .ok x ∧ s.canPlaceOn (.text p.id) x = true ∧
        (Value.int x.id).isWritable = true ∧ r = {
          state := (s.withPlayer { p with armies := p.armies - 1 }).withSpot
            { x with holder := some p.id, armies := x.armies + 1 }
          events := [.placed (.text p.name) (.int x.id)] } := by
  unfold placeArmy
  simp only [bind_eq_ok, need_eq_ok, exists_const, lift_eq_ok, Amount.atMost_int, Amount.plus_int,
    Amount.minus_int, Except.ok.injEq, exists_eq_left', pure_eq_ok, decide_eq_true_eq, not_le,
    exists_and_left, Event.told_placed, and_assoc, exists_eq_left]
  rfl

theorem fight_eq_ok :
    s.fight p spot = .ok r ↔
      ∃ x, s.namedSpot spot = .ok x ∧ s.canAttack (.text p.id) x = true ∧
        (Value.int x.id).isWritable = true ∧ r = {
          state := (s.withPlayer (p.spent .fight)).withSpot x.attacked
          events := [.fought (.text p.name) x.holderValue (.int x.id)] } := by
  have hmax (n : Int) : (if n < 0 then (0 : Int) else n) = max n 0 := by
    split <;> omega
  unfold fight
  simp only [bind_eq_ok, need_eq_ok, exists_const, lift_eq_ok, Amount.minus_int,
    Amount.isPositive_int, below_int, Player.spend_int, Except.ok.injEq, exists_eq_left',
    pure_eq_ok, decide_eq_true_eq, Amount.ofInt_int, hmax, exists_and_left, Event.told_fought, and_assoc,
    exists_eq_left]
  rfl

theorem buildOutpost_eq_ok :
    s.buildOutpost p spot = .ok r ↔
      ∃ x, s.namedSpot spot = .ok x ∧ s.canBuildOn (.text p.id) x = true ∧
        (Value.int x.id).isWritable = true ∧ r = {
          state := s.withPlayer { p.spent .outpost with outposts := p.outposts ++ [x.id] }
          events := [.built (.text p.name) (.int x.id)] } := by
  unfold buildOutpost
  simp only [bind_eq_ok, need_eq_ok, exists_const, lift_eq_ok, Player.spend_int, Except.ok.injEq,
    exists_eq_left', pure_eq_ok, exists_and_left, Event.told_built, and_assoc, exists_eq_left]
  rfl

end State

end GuildCards
