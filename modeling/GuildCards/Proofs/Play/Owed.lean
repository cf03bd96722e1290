import Mathlib
import GuildCards.Proofs.Play.History
import GuildCards.Proofs.Play.Solvency
import GuildCards.Rulebook.Check

/-!
What is owed for a deferred conditional. The discards owed are counted down to the one that brings
the benefit, so as long as a conditional is deferred there is one left to make; but a conditional
that costs no cards owes none from the start. Then nothing brings its benefit, and it stays in the
way of every other answer until a new card is played or the turn ends.
-/
namespace GuildCards
open Document Effect

variable {rules : Rulebook String} {shuffle : Shuffler String Int} {s t : State String Int}
  {p q : Player String Int} {r : Played String Int} {m : Move} {d : Deferred}

namespace State

/-- A player owes discards for what is deferred just when it costs cards. -/
def Owes (s : State String Int) (p : Player String Int) : Prop :=
  ∀ d, s.deferred = some d → (1 ≤ p.counters.discard ↔ d.intent.cost.amount ≠ 0)

theorem owes_of_none (h : s.deferred = none) : s.Owes p := by
  intro d hd
  rw [h] at hd
  cases hd

theorem Owes.congr (h : s.Owes p) (hdeferred : t.deferred = s.deferred)
    (hcounters : q.counters.discard = p.counters.discard) : t.Owes q := by
  intro d hd
  rw [hcounters]
  exact h d (hdeferred ▸ hd)

end State

theorem Deed.owes {e : Option Expansion} (hs : s.Seated) (hq : Questions s e) (howes : s.Owes p)
    (hp : atSeat? s.players s.seat = some p) (h : Deed s p m t)
    (hcost : ∀ d, t.deferred = some d → 0 ≤ d.intent.cost.amount) :
    t.deferred = none ∨ ∃ q, atSeat? t.players t.seat = some q ∧ t.Owes q := by
  cases h with
  | spending x q goes hm hx choices conditionals deferred owing =>
    refine .inr ⟨q, goes.current hs hp, fun d hd => ?_⟩
    have hd' : s.deferred = some d := deferred ▸ hd
    have hholds : q.counters.discard =
        p.counters.discard - if Resource.counter .discard = x then 1 else 0 :=
      hx.holds (.counter .discard)
    by_cases hk : m.kind = .discard
    · -- a discard was owed, and as the benefit was not due another still is
      have hpos : 0 < q.counters.discard := owing hk (by simp [hd'])
      have hx' : x = .counter .discard :=
        Option.some.inj (hm.symm.trans (MoveKind.uses?_discard.mpr hk))
      rw [if_pos hx'.symm] at hholds
      have hone : 1 ≤ p.counters.discard := by omega
      exact ⟨fun _ => (howes d hd').mp hone, fun _ => hpos⟩
    · have hx' : Resource.counter .discard ≠ x := by
        rintro rfl
        exact hk (MoveKind.uses?_discard.mp hm)
      rw [if_neg hx', sub_zero] at hholds
      rw [hholds]
      exact howes d hd'
  | settling d q goes hm hd last piles choices conditionals deferred => exact .inl deferred
  | expanding c q goes hm owesNothing room piles deferred => exact .inl deferred
  | choosing place q goes hm open_ piles choices conditionals deferred =>
    cases hdef : s.deferred with
    | none => exact .inl (deferred.trans hdef)
    | some d =>
      -- no choice is open once a conditional is deferred
      rw [(hq.deferred d hdef).1] at open_
      exact absurd open_ (Nat.not_lt_zero place)
  | closing q goes hm hd open_ piles choices conditionals deferred => exact .inl deferred
  | deferring d hm hd goes choices conditionals deferred =>
    refine .inr ⟨_, goes.current hs hp, fun d' hd' => ?_⟩
    obtain rfl : d = d' := Option.some.inj (deferred.symm.trans hd')
    have hnonneg := hcost d deferred
    change 1 ≤ d.intent.cost.amount ↔ d.intent.cost.amount ≠ 0
    omega
  | starting q goes hm hsetup counters deferred =>
    have hopen : State.Seated { s with phase := .playing } := ⟨hs.distinct, hs.nonneg, hs.within⟩
    have hcurrent := goes.current hopen hp
    exact .inr ⟨q, hcurrent, howes.congr deferred (congrArg Counters.discard counters)⟩
  | passing q hm players phase id counters armies choices conditionals deferred =>
    exact .inl deferred

namespace Reachable

theorem cost_nonneg (h : Reachable rules shuffle s) (hd : s.deferred = some d) :
    0 ≤ d.intent.cost.amount := by
  obtain ⟨e, he⟩ := h.questions
  exact h.costs_nonneg _ (List.mem_of_head? (he.deferred d hd).2.1)

theorem owes (h : Reachable rules shuffle s) :
    s.deferred = none ∨ ∃ p, atSeat? s.players s.seat = some p ∧ s.Owes p := by
  induction h with
  | deal h =>
    obtain ⟨-, cards, -, rfl⟩ := State.newGame_eq_ok.mp h
    exact .inl rfl
  | @step s h x ih =>
    apply State.after_induction (P := fun t =>
      t.deferred = none ∨ ∃ p, atSeat? t.players t.seat = some p ∧ t.Owes p) ih
    · intro m r hr
      obtain ⟨p, hp, hdeed⟩ := State.play_deed h.seated hr
      obtain ⟨e, he⟩ := h.questions
      have howes : s.Owes p := by
        rcases ih with hnone | ⟨q, hq, howes⟩
        · exact State.owes_of_none hnone
        · exact Option.some.inj (hq.symm.trans hp.current) ▸ howes
      exact hdeed.owes h.seated he howes hp.current fun d hd => (h.play hr).cost_nonneg hd
    · exact fun _ => ih
    · exact fun _ => ih

end Reachable

/-- While a conditional is deferred a discard is owed just if the conditional costs cards. If it
does not, neither a discard nor an answer is accepted. -/
theorem owed_iff_costly (h : Reachable rules shuffle s) (hd : s.deferred = some d) :
    ∃ p, s.current = .ok p ∧ (1 ≤ p.counters.discard ↔ d.intent.cost.amount ≠ 0) ∧
      (d.intent.cost.amount = 0 → ∀ m : Move,
        m.kind = .discard ∨ m.kind = .resolveChoice ∨ m.kind = .resolveConditional →
          ∃ why, s.play rules shuffle m = .error why) := by
  obtain ⟨p, hp, howes⟩ := h.owes.resolve_left (by simp [hd])
  obtain ⟨e, he⟩ := h.questions
  refine ⟨p, State.current_eq_ok.mpr hp, howes d hd, fun hfree m hm => ?_⟩
  have hnone : ¬1 ≤ p.counters.discard := fun hone => (howes d hd).mp hone hfree
  cases hr : s.play rules shuffle m with
  | error why => exact ⟨why, rfl⟩
  | ok r =>
    exfalso
    obtain ⟨q, x, hq, hx, -⟩ := State.play_eq_ok.mp hr
    obtain rfl := Option.some.inj (hp.symm.trans hq.current)
    unfold State.perform at hx
    rcases hm with hk | hk | hk <;> rw [hk] at hx
    · exact hnone (hq.credit .discard (by rw [hk]; rfl))
    · obtain ⟨c, name, b, -, hc, -⟩ := State.answerChoice_eq_ok.mp hx
      rw [(he.deferred d hd).1] at hc
      cases hc
    · obtain ⟨-, hx⟩ := need_bind_eq_ok.mp hx
      obtain ⟨c, -, -, hdef, -⟩ := State.answerConditional_eq_ok.mp hx
      rw [hd] at hdef
      cases hdef

/-- A conditional of a game of two is deferred until its card is discarded. -/
theorem owed_iff_costly_sample :
    ∃ s₀ : State String Int,
      newGame sampleRulebook unshuffled "game" 7 ["Ada", "Ben"] = .ok s₀ ∧
        let s := s₀.run sampleRulebook unshuffled sampleSteps
        ∃ d, s.deferred = some d ∧ d.intent.cost.amount = 1 ∧
          ∃ p, s.current = .ok p ∧ 1 ≤ p.counters.discard := by
  obtain ⟨s₀, h⟩ : ∃ s₀ : State String Int,
      newGame sampleRulebook unshuffled "game" 7 ["Ada", "Ben"] = .ok s₀ := ⟨_, rfl⟩
  have hcost : (s₀.run sampleRulebook unshuffled sampleSteps).deferred.map
      (·.intent.cost.amount) = some 1 := by
    obtain rfl := Except.ok.inj h
    decide +kernel
  obtain ⟨d, hd, hone⟩ := Option.map_eq_some_iff.mp hcost
  obtain ⟨p, hp, howed, -⟩ := owed_iff_costly (Reachable.run (.deal h) sampleSteps) hd
  exact ⟨s₀, h, d, hd, hone, p, hp, howed.mpr (by omega)⟩

section Alone

structure State.Alone (s : State String Int) (p : Player String Int) : Prop where
  players : s.players = [p]
  seat : s.seat = 0

theorem State.Alone.current (h : s.Alone p) : atSeat? s.players s.seat = some p := by
  rw [h.players, h.seat]
  rfl

theorem State.Alone.withPlayer (h : s.Alone p) (hid : q.id = p.id) : (s.withPlayer q).Alone q := by
  refine ⟨?_, h.seat⟩
  rw [State.players_withPlayer, h.players]
  simp [hid]

theorem State.Alone.mayMove (h : s.Alone p) (hphase : s.phase = .playing)
    (hplayer : m.player = .text p.id) (hfree : m.kind.credit? = none) : s.MayMove m p :=
  ⟨by simp [hphase], .inl (by simp [hphase]), by simp [h.players], h.current, hplayer,
    Player.ready_of_free hfree⟩

theorem Reachable.perform (h : Reachable rules shuffle s) (hp : s.MayMove m p)
    (hr : s.perform rules shuffle p m = .ok r) :
    Reachable rules shuffle { r.state with history := r.state.history ++ [m] } :=
  h.play (State.play_eq_ok.mpr ⟨p, r, hp, hr, rfl⟩)

def freeText : EffectText :=
  (EffectText.of "Discard 0 cards -> +1 gold").toOption.get (by decide +kernel)

def freeConditional : Conditional where
  source := "Discard 0 cards -> +1 gold"
  cost := { kind := .discard, text := "Discard 0 cards", amount := 0, resource := none }
  benefit := { text := "+1 gold", deltas := [{ resource := .counter .gold, amount := 1 }] }
  nested := []

def freeRulebook : Rulebook String where
  id := "free"
  title := "Free"
  minPlayers := 1
  cards := Guild.all.flatMap fun g => Color.all.flatMap fun c => ["1", "2"].map fun n =>
    { id := g.name ++ "-" ++ c.name ++ "-" ++ n, guild := g, color := c
      power := { sampleTiers with first := freeText }, bonus := freeText }
  handSize := 1
  deckSize := 0

theorem exists_begun :
    ∃ (c : Card String) (p : Player String Int) (s : State String Int), c ∈ freeRulebook.cards ∧
      p.hand = [c] ∧ (∀ g, p.piles.get g = []) ∧ p.counters.discard = 0 ∧
      Reachable freeRulebook Shuffle.seeded s ∧ s.phase = .playing ∧ s.Alone p := by
  obtain ⟨shuffled, hdealt⟩ : ∃ shuffled, Shuffle.seeded (7 : Int) (0 : Int) freeRulebook.cards =
      .ok shuffled := exists_seeded (by decide +kernel) (by decide +kernel) _
  have hperm := permutes_seeded _ _ _ _ hdealt
  obtain ⟨c, rest, rfl⟩ : ∃ c rest, shuffled = c :: rest := by
    apply List.exists_cons_of_length_pos
    rw [hperm.length_eq]
    decide +kernel
  let p : Player String Int :=
    { id := "player-1", name := "Ada", hand := [c]
      counters := Counters.none.set .gold 5, armies := 0 }
  obtain ⟨s, hs, halone, hphase⟩ : ∃ s : State String Int,
      newGame freeRulebook Shuffle.seeded "game" 7 ["Ada"] = .ok s ∧
        s.Alone p ∧ s.phase = .setup :=
    ⟨_, State.newGame_eq_ok.mpr ⟨by decide, _, hdealt, rfl⟩, ⟨rfl, rfl⟩, rfl⟩
  have hmover : s.MayMove (.plain .endTurn p.id) p :=
    ⟨by simp [hphase], .inr rfl, by simp [halone.players], halone.current, rfl,
      Player.ready_of_free rfl⟩
  have hstart : s.perform freeRulebook Shuffle.seeded p (.plain .endTurn p.id) =
      .ok (s.start freeRulebook p) := if_pos hphase
  have hbegun : (s.withPlayer p).Alone p := halone.withPlayer rfl
  exact ⟨c, p, _, hperm.subset List.mem_cons_self, rfl, fun g => by cases g <;> rfl, rfl,
    (Reachable.deal hs).perform hmover hstart, rfl, hbegun.players, hbegun.seat⟩

theorem exists_asked :
    ∃ (p : Player String Int) (s : State String Int),
      Reachable freeRulebook Shuffle.seeded s ∧ s.phase = .playing ∧ s.Alone p ∧
      s.choices = [] ∧ s.conditionals = [freeConditional, freeConditional] ∧ s.deferred = none := by
  obtain ⟨c, p, s, hc, hhand, hpiles, howed, hs, hphase, halone⟩ := exists_begun
  have hid : c.id ≠ "" := by
    have hids : ∀ c ∈ freeRulebook.cards, c.id ≠ "" := by decide +kernel
    exact hids c hc
  have hclauses : c.clausesAt .first =
      [.conditional freeConditional, .conditional freeConditional] := by
    have hall : ∀ c ∈ freeRulebook.cards, c.clausesAt .first =
        [.conditional freeConditional, .conditional freeConditional] := by decide +kernel
    exact hall c hc
  have hfound : State.named p.hand (.text c.id) = some c := by
    rw [State.named_text hid, hhand]
    simp [Zone.named?]
  have hfits : s.canPlayCard (.text p.id) (.text c.id) = true := by
    simp [State.canPlayCard, State.player?, halone.players, Zone.named?, hhand, hpiles, Pile.admits,
      Pile.hasColor, pileLimit, Color.all]
  have htier : Tier.at? ((p.piles.get c.guild ++ [c]).length : Nat) = some .first := by
    rw [hpiles]
    rfl
  have hmay : s.MayExpand freeRulebook p (.text c.id) c .first :=
    ⟨by simpa [Value.truthy] using hid, hfound, howed.le, .inl rfl, hfits, htier⟩
  have hexpand : s.expand freeRulebook p (.text c.id) = .ok (s.expanded p c .first) :=
    State.expand_eq_ok.mpr ⟨c, .first, hmay, rfl⟩
  let q := (p.putDown c).grantedAll (grantsOf (c.clausesAt .first))
  have hasked : (s.withPlayer q).Alone q := halone.withPlayer (Player.grantedAll_id ..)
  have hmover : s.MayMove (.onCard .expand p.id c.id) p := halone.mayMove hphase rfl rfl
  refine ⟨q, _, hs.perform hmover hexpand, hphase, ⟨hasked.players, hasked.seat⟩, ?_, ?_, rfl⟩
  · change (c.clausesAt .first).filterMap Clause.choice? = []
    rw [hclauses]
    rfl
  · change payableOf (c.clausesAt .first) q = _
    rw [hclauses]
    simp [payableOf, Clause.conditional?, Player.affords, freeConditional]

/-- In a game whose rulebook passes its check, a conditional is deferred and no discard is owed. -/
theorem deferred_owing_nothing :
    ∃ report, freeRulebook.check ampleRoom = .ok report ∧ report.valid = true ∧
      ∃ s, Reachable freeRulebook Shuffle.seeded s ∧ ∃ d p, s.deferred = some d ∧
        s.current = .ok p ∧ p.counters.discard = 0 := by
  obtain ⟨report, hreport⟩ : ∃ report, freeRulebook.check ampleRoom = .ok report := ⟨_, rfl⟩
  refine ⟨report, hreport, ?_, ?_⟩
  · obtain rfl := Except.ok.inj hreport
    decide +kernel
  obtain ⟨p, s, hs, hphase, halone, hchoices, hconditionals, hdeferred⟩ := exists_asked
  have hanswer : s.answerConditional p true .null =
      .ok (s.accepted p freeConditional freeConditional.benefit) :=
    State.answerConditional_eq_ok.mpr ⟨freeConditional, hchoices, by rw [hconditionals]; rfl,
      hdeferred, .inr ⟨rfl, _, .inl ⟨rfl, rfl⟩, by simp [Player.affords, freeConditional], rfl⟩⟩
  have hmover : s.MayMove (.answer p.id true) p := halone.mayMove hphase rfl rfl
  let q : Player String Int := { p with counters := p.counters.set .discard 0 }
  have howing : (s.withPlayer q).Alone q := halone.withPlayer rfl
  exact ⟨_, hs.perform hmover (need_bind_eq_ok.mpr ⟨rfl, hanswer⟩),
    ⟨freeConditional, freeConditional.benefit⟩, q, rfl, State.current_eq_ok.mpr howing.current, rfl⟩

end Alone

end GuildCards
